import MonitorKeys.Sender

/-!
# The translation of a text

The translation of an input is the bytes that a sink without any limit receives for it: one line
for every token that presses a key, and nothing for a wait.  It depends on the input alone.
-/

namespace MonitorKeys

open Text (Bytes)

/-- The line that is sent for a key name; nothing for a wait. -/
def KeyName.line (name : String) : Bytes :=
  if name = "wait" then [] else Text.bytesOf ("sendkey " ++ KeyName.withShift name ++ "\n")

/-- The line that is sent for a token; nothing for a wait. -/
def Token.line (t : Token) : Bytes :=
  if t = .escape "wait" then [] else Text.bytesOf ("sendkey " ++ t.sentName ++ "\n")

/-- The bytes that are sent for tokens. -/
def translationOf (tokens : List Token) : Bytes :=
  tokens.flatMap Token.line

/-- The bytes that are sent for an input. -/
def translation (input : String) : Bytes :=
  translationOf (tokenize input)

/-- The bytes that are sent for a request when nothing fails. -/
def Sender.Request.translation : Sender.Request → Bytes
  | .run input => MonitorKeys.translation input
  | .sendkey name => KeyName.line name
  | .limit _ => []

end MonitorKeys

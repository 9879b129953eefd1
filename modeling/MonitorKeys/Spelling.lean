import MonitorKeys.KeyName

/-!
# Spellings of a text

Two ways to write an input so that nothing in it is read in a special way: `quote` writes any text
so that it is typed character by character, and `bracketed` writes every key of an input by the
name that is sent for it.
-/

namespace MonitorKeys

/-! ## Plain texts -/

/-- How one character is written so that it is typed as it is. -/
def quoteChar (c : Char) : List Char :=
  if c = '<' then "<lt>".toList else if c = '>' then "<gt>".toList else [c]

/-- An input that types a text character by character. -/
def quote (text : String) : String :=
  String.ofList (text.toList.flatMap quoteChar)

/-! ## Names of keys -/

/-- A token written by the name that is sent for it; a closing bracket, which no name can hold,
stays as it is. -/
def Token.bracketed (t : Token) : List Char :=
  if t = .literal '>' then ['>'] else '<' :: t.sentName.toList ++ ['>']

/-- An input in which every key is written by its name. -/
def bracketed (input : String) : String :=
  String.ofList ((tokenize input).flatMap Token.bracketed)

end MonitorKeys

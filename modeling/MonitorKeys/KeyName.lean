import MonitorKeys.Token

/-!
# Key names

A key of the monitor has a name, such as `a`, `ret`, `spc` or `ctrl-alt-f1`.  A literal character
names its own key unless it is one of the symbols in `KeyName.symbols`.  An escape names its key
directly, and `<lt>` and `<gt>` stand for the two brackets, which cannot be written plainly.  An
upper case letter is typed with the shift key held.

`Token.keyName` is the name that a token resolves to, and `Token.sentName` is the name in the
command for it.  The name `wait` belongs to no key: it asks for a pause.
-/

namespace MonitorKeys

namespace KeyName

/-- The symbols whose key is not named by the symbol itself. -/
def symbols : List (Char × String) :=
  [('%', "shift-5"), ('/', "slash"), (':', "shift-semicolon"), ('=', "equal"), ('.', "dot"),
   (' ', "spc"), ('-', "minus"), ('_', "shift-minus"), ('*', "asterisk"), (',', "comma"),
   ('+', "shift-equal"), ('|', "shift-backslash"), ('\\', "backslash")]

/-- The key of a symbol in the table. -/
def ofSymbol? (c : Char) : Option String :=
  symbols.lookup c

/-- The key of a literal character. -/
def ofLiteral (c : Char) : String :=
  (ofSymbol? c).getD (String.singleton c)

/-- The key that an escape names. -/
def ofEscape (name : String) : String :=
  if name = "lt" then "shift-comma" else if name = "gt" then "shift-dot" else name

/-- A single upper case ASCII letter is its lower case key with shift held; every other name
stays as it is. -/
def withShift (name : String) : String :=
  match name.toList with
  | [c] => if c.isUpper then "shift-" ++ String.singleton c.toLower else name
  | _ => name

/-- The name that asks for a pause and presses nothing. -/
def wait : String := "wait"

/-- The monitor command that presses a key, as one line without its end. -/
def command (name : String) : String :=
  "sendkey " ++ withShift name

end KeyName

namespace Token

/-- The name that a token resolves to. -/
def keyName : Token → String
  | literal c => KeyName.ofLiteral c
  | escape name => KeyName.ofEscape name

/-- The name that stands in the command for a token. -/
def sentName (t : Token) : String :=
  KeyName.withShift t.keyName

end Token

end MonitorKeys

import MonitorKeys.Text.Utf8

/-!
# What a terminal shows of a text

Messages quote what the user wrote.  Control characters and terminal escape sequences in it are
left out, so that a message is plain text; blanks stay.

`Screen` is the state of a terminal between two characters, and `Screen.step` reads one character
in it.  A sequence that a text leaves open takes the characters that follow it, up to the place
where a message changes its style, because each such change begins a sequence of its own.
-/

namespace MonitorKeys.Text

/-- What a terminal is in the middle of. -/
inductive Screen where
  /-- Nothing: characters are shown. -/
  | plain
  /-- An escape sequence of which only the escape character has come. -/
  | escape
  /-- An escape sequence with intermediate characters. -/
  | escapeRest
  /-- A control sequence, up to the character that ends it. -/
  | control
  /-- A device control string of which no parameter has come. -/
  | device
  /-- A device control string that has parameters. -/
  | deviceParameters
  /-- A device control string with intermediate characters. -/
  | deviceRest
  /-- The text of a device control string, or another string that means nothing. -/
  | string
  /-- An operating system command, which a bell ends. -/
  | command
  deriving DecidableEq, Repr

namespace Screen

/-- Whether the ASCII control character `n` is shown when nothing takes it: blanks are. -/
def showsControl (n : Nat) : Bool :=
  n == 0x09 || n == 0x0a || n == 0x0c || n == 0x0d

/-- The state after a character within a sequence, for the characters from the space to the
tilde. -/
def next : Screen → Nat → Screen
  | plain, _ => plain
  | escape, n =>
    if n ≤ 0x2f then escapeRest
    else if n == 0x5b then control
    else if n == 0x5d then command
    else if n == 0x50 then device
    else if n == 0x58 || n == 0x5e || n == 0x5f then string
    else plain
  | escapeRest, n => if n ≤ 0x2f then escapeRest else plain
  | control, n => if n ≤ 0x3f then control else plain
  | device, n =>
    if n ≤ 0x2f then deviceRest
    else if n ≤ 0x3f && n != 0x3a then deviceParameters
    else string
  | deviceParameters, n =>
    if n ≤ 0x2f then deviceRest
    else if n ≤ 0x3b && n != 0x3a then deviceParameters
    else string
  | deviceRest, n => if n ≤ 0x2f then deviceRest else string
  | string, _ => string
  | command, _ => command

/-- Whether control characters act as usual in a state; within strings they do not. -/
def obeysControls : Screen → Bool
  | plain | escape | escapeRest | control => true
  | _ => false

/-- Whether a character from beyond ASCII ends a string: one of its bytes is the one that ends
strings on terminals with eight-bit controls. -/
def endsString (c : Char) : Bool :=
  (String.utf8EncodeChar c).contains 0x9c

/-- Read one character: the next state, and whether the character is shown. -/
def step (screen : Screen) (c : Char) : Screen × Bool :=
  let n := c.toNat
  if n == 0x1b then (escape, false)
  else if n == 0x18 || n == 0x1a then (plain, false)
  else if n < 0x20 then
    if screen.obeysControls && showsControl n then (plain, true)
    else if screen == command && n == 0x07 then (plain, false)
    else (screen, false)
  else if n == 0x7f then (screen, false)
  else if screen == plain then (plain, true)
  else if 0x7f < n then (if screen == string && endsString c then plain else screen, false)
  else (screen.next n, false)

end Screen

/-- The characters of a text that a terminal shows, from a given state on. -/
def visibleFrom (screen : Screen) : List Char → List Char
  | [] => []
  | c :: cs =>
    let (screen, shown) := screen.step c
    if shown then c :: visibleFrom screen cs else visibleFrom screen cs

/-- A text without control characters and terminal escape sequences. -/
def visible (s : String) : String :=
  String.ofList (visibleFrom .plain s.toList)

end MonitorKeys.Text

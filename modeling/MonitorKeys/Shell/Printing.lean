import MonitorKeys.Shell.Arithmetic
import MonitorKeys.Shell.Format

/-!
# Escapes and formats

The programs `echo` and `printf`, which are builtins of the shell and programs of the system alike.
A `Dialect` says in what the two differ.

`Printing.printf` goes through a format, and again as long as arguments are left.
-/

namespace MonitorKeys.Shell.Printing

/-- Whose rules hold. -/
inductive Dialect where
  | builtin
  | system
  deriving DecidableEq, Repr

/-! ## Escapes -/

/-- The characters that letters stand for behind a backslash. -/
def letters : List (Char × Char) :=
  [('\\', '\\'), ('a', '\x07'), ('b', '\x08'), ('e', '\x1b'), ('f', '\x0c'), ('n', '\n'),
   ('r', '\r'), ('t', '\t'), ('v', '\x0b')]

/-- Whether a character is a digit to base eight. -/
def isOctal (c : Char) : Bool :=
  '0' ≤ c && c ≤ '7'

/-- Whether a character is a digit to base sixteen. -/
def isHex (c : Char) : Bool :=
  c.isDigit || ('a' ≤ c.toLower && c.toLower ≤ 'f')

/-- The byte that at most so many digits in front of a text write, and the text after them. -/
def byteOf (base count : Nat) (p : Char → Bool) (cs : List Char) : Char × List Char :=
  let ds := (cs.take count).takeWhile p
  (Char.ofNat ((Raw.digits? base ds).getD 0 % 256), cs.drop ds.length)

/-- What the text behind a backslash stands for, and the text after it; a backslash that begins no
escape stands for itself. -/
def escape (dialect : Dialect) (cs : List Char) : Char × List Char :=
  match cs with
  | c :: rest =>
    if isOctal c then byteOf 8 3 isOctal cs
    else
      match letters.lookup c with
      | some d => (d, rest)
      | none =>
        if dialect == .system && c == 'x' && rest.head?.any isHex then byteOf 16 2 isHex rest
        else if dialect == .system && c == '"' then ('"', rest)
        else ('\\', cs)
  | [] => ('\\', [])

/-- A text with its escapes replaced, as `echo` takes them, and whether one of them ends all
output.  The first argument bounds the number of steps. -/
def unescape (dialect : Dialect) : Nat → List Char → List Char → List Char × Bool
  | 0, out, _ => (out.reverse, false)
  | _, out, [] => (out.reverse, false)
  | n + 1, out, '\\' :: cs =>
    match cs with
    | 'c' :: _ => (out.reverse, true)
    | '0' :: rest =>
      let (c, rest) := byteOf 8 3 isOctal rest
      unescape dialect n (c :: out) rest
    | cs =>
      let (c, rest) := escape dialect cs
      unescape dialect n (c :: out) rest
  | n + 1, out, c :: cs => unescape dialect n (c :: out) cs

/-- What `echo` prints. -/
def echo (arguments : List String) : String :=
  let (words, lineEnd) :=
    match arguments with
    | "-n" :: rest => (rest, "")
    | words => (words, "\n")
  let text := " ".intercalate words
  let (out, stop) := unescape .builtin (text.length + 1) [] text.toList
  String.ofList out ++ if stop then "" else lineEnd

/-- What the system's `echo` prints, which takes escapes only where it is asked to. -/
def systemEcho (arguments : List String) : String :=
  let isOptions (a : String) : Bool :=
    match a.toList with
    | '-' :: c :: cs => (c :: cs).all "neE".toList.contains
    | _ => false
  let options := arguments.takeWhile isOptions
  let letters := options.flatMap (·.toList.drop 1)
  let text := " ".intercalate (arguments.drop options.length)
  let escapes := (letters.filter (· != 'n')).getLast? == some 'e'
  let (out, stop) :=
    if escapes then unescape .system (text.length + 1) [] text.toList else (text.toList, false)
  String.ofList out ++ if stop || letters.contains 'n' then "" else "\n"

/-! ## Formats -/

/-- How far a format has been followed: the output from its end, the arguments left, whether one
was used, what was wrong, and whether that ends it all. -/
structure Progress where
  out : String := ""
  arguments : List String
  used : Bool := false
  warnings : List String := []
  fatal : Bool := false
  /-- Whether an escape has ended the output. -/
  ended : Bool := false

namespace Progress

/-- Add to the output. -/
def print (p : Progress) (s : String) : Progress :=
  { p with out := p.out ++ s }

/-- Note that something is wrong. -/
def warn (p : Progress) (text : String) : Progress :=
  { p with warnings := p.warnings ++ [text] }

/-- Take the next argument; none where there is none left. -/
def take (p : Progress) : Option String × Progress :=
  match p.arguments with
  | a :: rest => (some a, { p with arguments := rest, used := true })
  | [] => (none, { p with used := p.used })

end Progress

/-- How an argument is quoted in messages. -/
def quoted (dialect : Dialect) (s : String) : String :=
  if dialect == .system then "'" ++ s ++ "'" else s

/-- What a message says about an argument that is no number. -/
def noNumber (dialect : Dialect) (s : String) : String :=
  quoted dialect s ++ if dialect == .system then ": expected a numeric value"
    else ": expected numeric value"

/-- What a message says about an argument that only begins with a number. -/
def notWhole (dialect : Dialect) (s : String) : String :=
  quoted dialect s ++ if dialect == .system then ": value not completely converted"
    else ": not completely converted"

/-- What a message says about a number that is too large. -/
def tooLarge (dialect : Dialect) (s : String) : String :=
  quoted dialect s ++ ": " ++ SystemError.text 34

/-- The whole number that an argument writes, in a given range. -/
def wholeNumber (dialect : Dialect) (low high : Int) (p : Progress) : Int × Progress :=
  match p.take with
  | (none, p) => (0, p)
  | (some s, p) =>
    match s.toList with
    | [] => (0, if dialect == .system then p.warn (noNumber dialect s) else p)
    | '\'' :: cs | '"' :: cs => (cs.head?.elim 0 fun c => c.toNat, p)
    | cs =>
      let isSpace (c : Char) := c == ' ' || ('\t' ≤ c && c ≤ '\r')
      let body := cs.dropWhile isSpace
      let (sign, body) : Int × List Char :=
        match body with
        | '-' :: r => (-1, r)
        | '+' :: r => (1, r)
        | r => (1, r)
      let (base, ds, rest) := Arithmetic.numeral body
      if ds.isEmpty then (0, p.warn (noNumber dialect s))
      else
        let n := sign * ((Raw.digits? base ds).getD 0 : Nat)
        let p := if rest.isEmpty then p else p.warn (notWhole dialect s)
        if n < low && 0 ≤ low && -n ≤ high then (n + 2 ^ 64, p)
        else if n < low then (if 0 ≤ low then high else low, p.warn (tooLarge dialect s))
        else if high < n then (high, p.warn (tooLarge dialect s))
        else (n, p)

/-- The number that an argument writes. -/
def realNumber (dialect : Dialect) (p : Progress) : Binary64 × Progress :=
  let zero := Binary64.ofCode false 0
  match p.take with
  | (none, p) => (zero, p)
  | (some s, p) =>
    match s.toList with
    | [] => (zero, if dialect == .system then p.warn (noNumber dialect s) else p)
    | '\'' :: cs | '"' :: cs =>
      (Binary64.ofCode false (Binary64.nearestCode (cs.head?.elim 0 fun c => c.toNat) 1), p)
    | cs =>
      match realPrefix? cs with
      | none => (zero, p.warn (noNumber dialect s))
      | some (x, n) => (x, if n == cs.length then p else p.warn (notWhole dialect s))

/-- The numbers that the stars of an outline ask for. -/
def starNumbers (dialect : Dialect) (o : Directive.Outline) (p : Progress) : List Int × Progress :=
  let ask (p : Progress) := wholeNumber dialect (-(2 ^ 63)) Arithmetic.greatest p
  match o.width == .asked, o.precision == .asked with
  | true, true =>
    let (a, p) := ask p
    let (b, p) := ask p
    ([a, b], p)
  | false, false => ([], p)
  | _, _ =>
    let (a, p) := ask p
    ([a], p)

/-- The text of a directive. -/
def directive (dialect : Dialect) (source : String) (o : Directive.Outline) (letter : Char)
    (p : Progress) : Progress :=
  let (numbers, p) := starNumbers dialect o p
  let d := Directive.ofOutline o letter numbers
  match letter with
  | 's' =>
    let (a, p) := p.take
    p.print (d.text (a.getD ""))
  | 'b' =>
    let (a, p) := p.take
    let s := a.getD ""
    let (out, stop) := unescape dialect (s.length + 1) [] s.toList
    { p.print (d.text (String.ofList out)) with ended := stop }
  | 'c' =>
    let (a, p) := p.take
    let c := (a.bind (·.toList.head?)).getD '\x00'
    p.print (d.pad (if dialect == .system && a.getD "" == "" then "" else String.singleton c))
  | 'd' | 'i' =>
    let (n, p) := wholeNumber dialect (-(2 ^ 63)) Arithmetic.greatest p
    p.print (d.integer n)
  | 'o' | 'u' | 'x' | 'X' =>
    let (n, p) := wholeNumber dialect 0 (2 ^ 64 - 1) p
    p.print (d.natural n.toNat)
  | 'a' | 'A' | 'e' | 'E' | 'f' | 'F' | 'g' | 'G' =>
    let (x, p) := realNumber dialect p
    p.print (d.real x)
  | _ =>
    let text :=
      if dialect == .system then source ++ ": invalid conversion specification"
      else source ++ ": invalid directive"
    { p.warn text with fatal := true }

/-- Follow a format once.  The first argument bounds the number of steps. -/
def once (dialect : Dialect) : Nat → List Char → Progress → Progress
  | 0, _, p => p
  | _, [], p => p
  | n + 1, '\\' :: cs, p =>
    match dialect, cs with
    | .system, 'c' :: _ => { p with ended := true }
    | _, _ =>
      let (c, rest) := escape dialect cs
      once dialect n rest (p.print (String.singleton c))
  | n + 1, '%' :: '%' :: cs, p => once dialect n cs (p.print "%")
  | n + 1, '%' :: cs, p =>
    let (o, rest) := Directive.outline cs
    let passed := String.ofList ('%' :: cs.take (cs.length - rest.length))
    match rest with
    | [] =>
      let text :=
        if dialect == .system then passed ++ ": invalid conversion specification"
        else "missing format character"
      { p.warn text with fatal := true }
    | letter :: rest =>
      let p := directive dialect (passed.push letter) o letter p
      if p.fatal || p.ended then p else once dialect n rest p
  | n + 1, c :: cs, p => once dialect n cs (p.print (String.singleton c))

/-- Follow a format as long as it uses arguments and some are left. -/
def printf (dialect : Dialect) (format : List Char) : Nat → Progress → Progress
  | 0, p => p
  | n + 1, p =>
    let q := once dialect (format.length + 1) format { p with used := false }
    if q.used && !q.arguments.isEmpty && !q.fatal && !q.ended then printf dialect format n q else q

end MonitorKeys.Shell.Printing

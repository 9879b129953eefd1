import MonitorKeys.Delay.Binary64
import MonitorKeys.Shell.Raw

/-!
# Directives for formatted output

A directive such as `%-8.3f` says how a text or a number is written: with a sign or a base in front,
with so many digits, and filled up to a width.  Numbers that are not whole are written from their
exact value, and a half goes to the even digit.
-/

namespace MonitorKeys.Shell

/-- A directive: its flags, width, precision and letter. -/
structure Directive where
  flags : List Char := []
  width : Nat := 0
  precision : Option Nat := none
  letter : Char
  deriving DecidableEq, Repr

namespace Directive

/-- Whether a flag is set. -/
def has (d : Directive) (flag : Char) : Bool :=
  d.flags.contains flag

/-- A text filled up to the width. -/
def pad (d : Directive) (s : String) : String :=
  if d.has '-' then Raw.padRight d.width ' ' s else Raw.padLeft d.width ' ' s

/-- A number with what stands in front of its digits, filled up to the width with zeros where that
is asked for. -/
def padNumber (d : Directive) (zeros : Bool) (front digits : String) : String :=
  if zeros && d.has '0' && !d.has '-' then
    front ++ Raw.padLeft (d.width - front.length) '0' digits
  else d.pad (front ++ digits)

/-- A text, of which the precision keeps the beginning. -/
def text (d : Directive) (s : String) : String :=
  d.pad (match d.precision with
    | some n => (s.take n).toString
    | none => s)

/-- The sign in front of a number. -/
def sign (d : Directive) (negative : Bool) : String :=
  if negative then "-" else if d.has '+' then "+" else if d.has ' ' then " " else ""

/-- Digits with at least as many of them as the precision says; none for a zero with no
precision. -/
def digits (d : Directive) (n : Nat) (s : String) : String :=
  if n == 0 && d.precision == some 0 then "" else Raw.padLeft (d.precision.getD 1) '0' s

/-- A whole number. -/
def integer (d : Directive) (n : Int) : String :=
  d.padNumber d.precision.isNone (d.sign (n < 0)) (d.digits n.natAbs (toString n.natAbs))

/-- A whole number without a sign, to the base of the letter. -/
def natural (d : Directive) (n : Nat) : String :=
  let base := if d.letter == 'o' then 8 else if d.letter == 'u' then 10 else 16
  let plain := d.digits n (Raw.inBase base n)
  let plain := if d.letter == 'X' then plain.map Char.toUpper else plain
  let alternate := d.has '#' && n != 0
  let front :=
    if alternate && d.letter == 'x' then "0x" else if alternate && d.letter == 'X' then "0X" else ""
  let shown :=
    if d.has '#' && d.letter == 'o' && !plain.startsWith "0" then "0" ++ plain else plain
  d.padNumber d.precision.isNone front shown

/-! ## Numbers that are not whole -/

/-- A text of digits with a point before the last so many of them. -/
def pointed (places : Nat) (keepPoint : Bool) (n : Nat) : String :=
  let ds := (Raw.padLeft (places + 1) '0' (toString n)).toList
  let whole := String.ofList (ds.take (ds.length - places))
  if places == 0 then (if keepPoint then whole ++ "." else whole)
  else whole ++ "." ++ String.ofList (ds.drop (ds.length - places))

/-- The quotient of two numbers with so many places behind the point. -/
def fixed (places : Nat) (keepPoint : Bool) (n d : Nat) : String :=
  pointed places keepPoint (roundHalfEven (n * 10 ^ places) d)

/-- The quotient of two numbers with so many places, as a number that the power of ten is taken
of. -/
def scaled (places : Int) (n d : Nat) : Nat :=
  if places < 0 then roundHalfEven n (d * 10 ^ (-places).toNat)
  else roundHalfEven (n * 10 ^ places.toNat) d

/-- The exponent of a quotient and its digits, of which so many stand behind the point. -/
def scientific (places : Nat) (n d : Nat) : Int × Nat :=
  if n = 0 then (0, 0)
  else
    let guess : Int := (toString n).length - (toString d).length
    let small : Bool :=
      if guess < 0 then n * 10 ^ (-guess).toNat < d else n < d * 10 ^ guess.toNat
    let exponent := if small then guess - 1 else guess
    let ds := scaled (places - exponent) n d
    if 10 ^ (places + 1) ≤ ds then (exponent + 1, scaled (places - exponent - 1) n d)
    else (exponent, ds)

/-- The text of an exponent of ten. -/
def exponentText (upper : Bool) (e : Int) : String :=
  (if upper then "E" else "e") ++ (if e < 0 then "-" else "+")
    ++ Raw.padLeft 2 '0' (toString e.natAbs)

/-- A text without zeros at the end of its fraction. -/
def withoutZeros (s : String) : String :=
  if s.contains '.' then
    let cs := s.toList.reverse.dropWhile (· == '0')
    String.ofList ((if cs.head? == some '.' then cs.tail else cs).reverse)
  else s

/-- The quotient of two numbers with so many digits, in whichever form is shorter. -/
def general (upper keepZeros : Bool) (count : Nat) (n d : Nat) : String :=
  let count := max count 1
  let (e, ds) := scientific (count - 1) n d
  let trim (s : String) := if keepZeros then s else withoutZeros s
  if -4 ≤ e && e < count then
    trim (fixed (count - 1 - e).toNat keepZeros n d)
  else trim (pointed (count - 1) keepZeros ds) ++ exponentText upper e

/-- A number to base sixteen with an exponent of two. -/
def hexadecimal (code : Nat) : String :=
  let fraction : Nat := code % 2 ^ 52
  let field : Nat := code / 2 ^ 52
  let ds := (Raw.padLeft 13 '0' (Raw.inBase 16 fraction)).toList.reverse.dropWhile (· == '0')
  let point := if ds.isEmpty then "" else "." ++ String.ofList ds.reverse
  let e : Int := if code = 0 then 0 else if field = 0 then -1022 else (field : Int) - 1023
  "0x" ++ (if field = 0 then "0" else "1") ++ point ++ "p" ++ (if e < 0 then "-" else "+")
    ++ toString e.natAbs

/-- A number that need not be whole. -/
def real (d : Directive) (x : Binary64) : String :=
  let upper := d.letter.isUpper
  let cased (s : String) := if upper then s.map Char.toUpper else s
  match x with
  | .nan => d.pad (d.sign false ++ cased "nan")
  | .infinite negative => d.pad (d.sign negative ++ cased "inf")
  | .finite negative code =>
    let n := Binary64.units code.val
    let unit := Binary64.unitsPerOne
    let places := d.precision.getD 6
    let keep := d.has '#'
    let shown :=
      match d.letter.toLower with
      | 'f' => fixed places keep n unit
      | 'e' =>
        let (e, ds) := scientific places n unit
        pointed places keep ds ++ exponentText upper e
      | 'a' => cased (hexadecimal code.val)
      | _ => general upper keep places n unit
    d.padNumber true (d.sign negative) shown

/-! ## Reading directives -/

/-- A width or a precision in a directive: a number, or a star for an argument. -/
inductive Measure where
  | none
  | given (n : Nat)
  | asked
  deriving DecidableEq, Repr

/-- What a directive says before its letter, where stars are still to be replaced. -/
structure Outline where
  flags : List Char
  width : Measure
  precision : Measure
  deriving Repr

/-- A measure at the start of a text, and the text after it. -/
def measure (cs : List Char) : Measure × List Char :=
  match cs with
  | '*' :: cs => (.asked, cs)
  | cs =>
    let ds := cs.takeWhile Char.isDigit
    (if ds.isEmpty then .none else .given ((Raw.digits? 10 ds).getD 0), cs.drop ds.length)

/-- What a directive says behind its percent sign, and the text from its letter on. -/
def outline (cs : List Char) : Outline × List Char :=
  let flags := cs.takeWhile "#-+ 0".toList.contains
  let (width, cs) := measure (cs.drop flags.length)
  match cs with
  | '.' :: cs =>
    let (precision, cs) := measure cs
    (⟨flags, width, if precision = .none then .given 0 else precision⟩, cs)
  | cs => (⟨flags, width, .none⟩, cs)

/-- The directive of an outline, where stars take the next ones of some numbers; a negative width
moves to the left, and a negative precision counts as none. -/
def ofOutline (o : Outline) (letter : Char) (numbers : List Int) : Directive :=
  let (width, numbers) : Int × List Int :=
    match o.width, numbers with
    | .given n, ns => (n, ns)
    | .asked, n :: ns => (n, ns)
    | _, ns => (0, ns)
  let precision :=
    match o.precision, numbers with
    | .given n, _ => some n
    | .asked, n :: _ => n.toNat?
    | _, _ => none
  { flags := if width < 0 then '-' :: o.flags else o.flags
    width := width.natAbs, precision, letter }

end Directive

/-- The number at the start of a text, and how many characters it takes with blanks in front; none
where there is no number. -/
def realPrefix? (cs : List Char) : Option (Binary64 × Nat) :=
  let blank := (cs.takeWhile fun c => c == ' ' || ('\t' ≤ c && c ≤ '\r')).length
  let cs := cs.drop blank
  let signLength := if cs.head? == some '-' || cs.head? == some '+' then 1 else 0
  let body := cs.drop signLength
  let lower := body.map Char.toLower
  let wordLength :=
    if "infinity".toList.isPrefixOf lower then 8
    else if "inf".toList.isPrefixOf lower || "nan".toList.isPrefixOf lower then 3
    else 0
  let whole := (body.takeWhile Char.isDigit).length
  let fraction :=
    match body.drop whole with
    | '.' :: rest => 1 + (rest.takeWhile Char.isDigit).length
    | _ => 0
  let mantissa := if whole + fraction ≤ 1 && whole == 0 then 0 else whole + fraction
  let exponent :=
    match body.drop mantissa with
    | e :: rest =>
      if e == 'e' || e == 'E' then
        let s := if rest.head? == some '-' || rest.head? == some '+' then 1 else 0
        let ds := ((rest.drop s).takeWhile Char.isDigit).length
        if ds == 0 then 0 else 1 + s + ds
      else 0
    | [] => 0
  let length := if wordLength != 0 then wordLength else if mantissa == 0 then 0
    else mantissa + exponent
  if length == 0 then none
  else
    (Numeral.read? (cs.take (signLength + length))).map fun n =>
      (Binary64.ofNumeral n, blank + signLength + length)

end MonitorKeys.Shell

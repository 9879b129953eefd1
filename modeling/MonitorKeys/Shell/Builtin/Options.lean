import MonitorKeys.Shell.Arithmetic

/-!
# Options and numbers of builtins

Options are letters behind a hyphen, several of which can share one word; an option with a value
takes the rest of its word, or the next one.
-/

namespace MonitorKeys.Shell

/-- A builtin gets its arguments, and answers with what it prints. -/
abbrev Builtin := List String → Run String

namespace Builtin

/-- The options that some letters of one word write, with the words left; `values` are the letters
that take a value. -/
def letters (plain values : List Char) (rest : List String) :
    List Char → Run (List (Char × String) × List String)
  | [] => return ([], rest)
  | c :: cs => do
    if values.contains c then
      match cs, rest with
      | [], [] => Run.fail ("No arg for -" ++ String.singleton c ++ " option")
      | [], value :: rest => return ([(c, value)], rest)
      | cs, rest => return ([(c, String.ofList cs)], rest)
    if !plain.contains c then Run.fail ("Illegal option -" ++ String.singleton c)
    let (more, rest) ← letters plain values rest cs
    return ((c, "") :: more, rest)

/-- The options in front of some words, and the words after them.  The first argument bounds the
number of words with options. -/
def optionsFrom (plain values : List Char) :
    Nat → List String → Run (List (Char × String) × List String)
  | 0, words => return ([], words)
  | n + 1, words => do
    match words with
    | [] => return ([], [])
    | word :: rest =>
      match word.toList with
      | ['-', '-'] => return ([], rest)
      | '-' :: c :: cs =>
        let (found, rest) ← letters plain values rest (c :: cs)
        let (more, rest) ← optionsFrom plain values n rest
        return (found ++ more, rest)
      | _ => return ([], words)

/-- The options in front of some words, and the words after them. -/
def options (plain : String) (words : List String) (values : String := "") :
    Run (List (Char × String) × List String) :=
  optionsFrom plain.toList values.toList (words.length + 1) words

/-- The number that an argument writes, which may have a sign and blanks around it. -/
def number (s : String) : Run Nat :=
  match Arithmetic.number? true s with
  | some (.ofNat n) =>
    if n < 2 ^ 31 then return n else Run.fail ("Illegal number: " ++ s)
  | _ => Run.fail ("Illegal number: " ++ s)

/-- A text between single quotes; single quotes in it stand between double quotes. -/
def quoted (s : String) : String :=
  let runs := s.toList.splitBy fun a b => (a == '\'') == (b == '\'')
  let shown := runs.map fun run =>
    if run.head? == some '\'' then "\"" ++ String.ofList run ++ "\""
    else "'" ++ String.ofList run ++ "'"
  match runs.head? with
  | none => "''"
  | some first => (if first.head? == some '\'' then "''" else "") ++ String.join shown

end Builtin

end MonitorKeys.Shell

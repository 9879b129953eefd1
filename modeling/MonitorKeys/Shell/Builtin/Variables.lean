import MonitorKeys.Shell.Builtin.Options

/-!
# Builtins for variables and parameters

`export`, `readonly`, `local`, `unset`, `set`, `shift` and `getopts`.
-/

namespace MonitorKeys.Shell.Builtin

/-! ## Showing variables -/

/-- The line that shows a variable. -/
def shown (front : String) (v : Variable) : String :=
  front ++ v.name ++ (v.value.elim "" fun s => "=" ++ quoted s) ++ "\n"

/-- The lines that show the variables with a property, in the order of their names. -/
def listing (front : String) (p : Variable → Bool) : Run String := do
  let found := (← Run.process).bindings.filter p
  return String.join ((found.mergeSort fun a b => decide (a.name ≤ b.name)).map (shown front))

/-! ## Attributes -/

/-- A word split at its first equals sign. -/
def assigned (word : String) : String × Option String :=
  let name := word.toList.takeWhile (· != '=')
  (String.ofList name,
    if name.length < word.length then some (String.ofList (word.toList.drop (name.length + 1)))
    else none)

/-- Give a variable a value, if there is one, and a new attribute. -/
def mark (change : Variable → Variable) (word : String) : Run Unit := do
  let (name, value) := assigned word
  Run.checkName name
  match value with
  | some s => Run.assign name s
  | none => pure ()
  Run.putVariable (change ((← Run.lookVariable name).getD { name, value := none }))

/-- `export` and `readonly`. -/
def giving (name : String) (has : Variable → Bool) (set : Variable → Variable) : Builtin :=
  fun arguments => do
    let (found, words) ← options "p" arguments
    if !found.isEmpty || words.isEmpty then listing (name ++ " ") has
    else
      for word in words do mark set word
      return ""

/-- `local`: the variables get their old values back when the function ends. -/
def hide : Builtin := fun words => do
  match (← Run.process).hidden with
  | [] => Run.fail "not in a function"
  | inner :: outer =>
    let mut inner := inner
    for word in words do
      let (name, value) := assigned word
      Run.checkName name
      unless inner.any (·.name == name) do
        inner := ((← Run.lookVariable name).getD { name, value := none }) :: inner
      Run.onProcess fun p => { p with hidden := inner :: outer }
      match value with
      | some s => Run.assign name s
      | none =>
        if (← Run.lookVariable name).isNone then Run.putVariable { name, value := none }
    return ""

/-- `unset`, of variables or of functions. -/
def unset : Builtin := fun arguments => do
  let (found, names) ← options "vf" arguments
  for name in names do
    if (found.getLast?.map (·.1)) == some 'f' then
      Run.onProcess fun p => { p with functions := p.functions.filter (·.1 != name) }
    else Run.unset name
  return ""

/-! ## Options of the shell -/

/-- The options of the shell by their letters and names. -/
def shellOptions : List (Char × String) :=
  [('e', "errexit"), ('f', "noglob"), ('I', "ignoreeof"), ('i', "interactive"), ('m', "monitor"),
   ('n', "noexec"), ('s', "stdin"), ('x', "xtrace"), ('v', "verbose"), ('V', "vi"), ('E', "emacs"),
   ('C', "noclobber"), ('a', "allexport"), ('b', "notify"), ('u', "nounset"), ('p', "privileged"),
   (' ', "nolog"), ('\t', "debug")]

/-- Set an option of the shell, or take it back. -/
def setOption (on : Bool) (option : Char) : Run Unit :=
  Run.onProcess fun p =>
    let others := p.options.filter (· != option)
    { p with options := if on then option :: others else others }

/-- Set an option by its letter. -/
def setLetter (on : Bool) (letter : Char) : Run Unit := do
  if shellOptions.any fun (c, _) => c == letter && c != ' ' && c != '\t' then setOption on letter
  else
    Run.fail ("Illegal option " ++ (if on then "-" else "+") ++ String.singleton letter)

/-- Set an option by its name. -/
def setNamed (on : Bool) (name : String) : Run Unit := do
  match shellOptions.find? (·.2 == name) with
  | some (c, _) => setOption on c
  | none => Run.fail ("Illegal option " ++ (if on then "-o " else "+o ") ++ name)

/-- The table of the options. -/
def optionTable (asCommands : Bool) : Run String := do
  let set := (← Run.process).options
  let line (c : Char) (name : String) : String :=
    let on := set.contains c
    if asCommands then (if on then "set -o " else "set +o ") ++ name ++ "\n"
    else Raw.padRight 16 ' ' name ++ (if on then "on" else "off") ++ "\n"
  return (if asCommands then "" else "Current option settings\n")
    ++ String.join (shellOptions.map fun (c, name) => line c name)

/-- The letters of one word, given the words left; the answer is what is printed, and the words
that are left then. -/
def setLetters (on : Bool) : List Char → List String → Run (String × List String)
  | [], rest => return ("", rest)
  | 'o' :: cs, [] => do
    let table ← optionTable (!on)
    let (more, rest) ← setLetters on cs []
    return (table ++ more, rest)
  | 'o' :: cs, name :: rest => do
    setNamed on name
    setLetters on cs rest
  | c :: cs, rest => do
    setLetter on c
    setLetters on cs rest

/-- What words in front say about options: what is printed, the words after them, and whether a
mark between options and words was found.  The first argument bounds the number of words. -/
def setOptions : Nat → List String → Run (String × List String × Bool)
  | 0, words => return ("", words, false)
  | n + 1, words => do
    match words with
    | [] => return ("", [], false)
    | word :: rest =>
      match word.toList with
      | ['-'] =>
        setOption false 'x'
        setOption false 'v'
        return ("", rest, false)
      | ['-', '-'] => return ("", rest, true)
      | '-' :: cs =>
        let (printed, rest) ← setLetters true cs rest
        let (more, rest, marked) ← setOptions n rest
        return (printed ++ more, rest, marked)
      | '+' :: cs =>
        let (printed, rest) ← setLetters false cs rest
        let (more, rest, marked) ← setOptions n rest
        return (printed ++ more, rest, marked)
      | _ => return ("", words, false)

/-- Make words the positional parameters. -/
def setPositional (words : List String) : Run Unit :=
  Run.onProcess fun p => { p with positional := words, nextOption := 1, optionPlace := 0 }

/-- `set`. -/
def set : Builtin := fun arguments => do
  if arguments.isEmpty then listing "" (·.value.isSome)
  else
    let (printed, words, marked) ← setOptions (arguments.length + 1) arguments
    if marked || !words.isEmpty then setPositional words
    return printed

/-- `shift`. -/
def shift : Builtin := fun arguments => do
  let n ← arguments.head?.elim (pure 1) number
  let positional := (← Run.process).positional
  if positional.length < n then Run.fail "can't shift that many"
  setPositional (positional.drop n)
  return ""

/-! ## Reading options of scripts -/

/-- What `getopts` has found: the letter, its value, and where the next one is to be looked for.
Without a letter there are no more options. -/
structure Found where
  letter : Option Char
  value : Option String := none
  warning : Option String := none
  next : Nat
  place : Nat := 0

/-- The next option among some words: `accepted` says which letters there are, with a colon behind
those that take a value.  `next` counts words from one on, and `place` is the place within the word
before, or zero. -/
def nextOption (accepted : List Char) (words : List String) (next place : Nat) : Found :=
  let wordBefore := (words[next - 2]?.getD "").toList
  let started := place != 0 && 2 ≤ next && place < wordBefore.length
  let current : Option (List Char × Nat) :=
    if started then some (wordBefore.drop place, next)
    else
      match (words[next - 1]?.getD "").toList with
      | '-' :: c :: cs => some (c :: cs, next + 1)
      | _ => none
  let quiet := accepted.head? == some ':'
  match current with
  | none => { letter := none, next }
  | some (['-'], next) => { letter := none, next }
  | some (cs, next) =>
    let c := cs.head?.getD '?'
    let rest := cs.tail
    let word := (words[next - 2]?.getD "").toList
    let place := if rest.isEmpty then 0 else word.length - rest.length
    let behind := ((accepted.drop (if quiet then 1 else 0)).dropWhile (· != c)).tail
    let known := c != ':' && (accepted.drop (if quiet then 1 else 0)).contains c
    if !known then
      { letter := some '?', next, place
        value := if quiet then some (String.singleton c) else none
        warning := if quiet then none else some ("Illegal option -" ++ String.singleton c) }
    else if behind.head? == some ':' then
      if !rest.isEmpty then { letter := some c, value := some (String.ofList rest), next }
      else
        match words[next - 1]? with
        | some value => { letter := some c, value := some value, next := next + 1 }
        | none =>
          { letter := some (if quiet then ':' else '?'), next
            value := if quiet then some (String.singleton c) else none
            warning := if quiet then none
              else some ("No arg for -" ++ String.singleton c ++ " option") }
    else { letter := some c, value := some "", next, place }

/-- `getopts`. -/
def getopts : Builtin := fun arguments => do
  let (_, arguments) ← options "" arguments
  match arguments with
  | accepted :: name :: words =>
    let p ← Run.process
    let words := if words.isEmpty then p.positional else words
    let (next, place) :=
      if words.length + 1 < p.nextOption then (1, 0) else (p.nextOption, p.optionPlace)
    let found := nextOption accepted.toList words next place
    found.warning.forM fun text => Run.warn (text ++ "\n")
    match found.letter, found.value with
    | some _, some value => Run.assign "OPTARG" value
    | some _, none => Run.unset "OPTARG"
    | none, _ => pure ()
    Run.assign "OPTIND" (toString found.next)
    Run.assign name (String.singleton (found.letter.getD '?'))
    Run.onProcess fun p => { p with nextOption := found.next, optionPlace := found.place }
    Run.setStatus (if found.letter.isSome then 0 else 1)
    return ""
  | _ => Run.fail "Usage: getopts optstring var [arg...]"

end MonitorKeys.Shell.Builtin

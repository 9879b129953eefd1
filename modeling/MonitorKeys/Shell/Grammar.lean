import MonitorKeys.Shell.Lexer

/-!
# Commands of the shell

The grammar of the shell language, read by recursive descent.  A text is read line by line, and each
line is run before the next one is read, so what is wrong in one line does not keep the lines before
it from being run.

`Source.nextLine` gives the command of the next line.  Its first argument bounds the depth of
nesting.
-/

namespace MonitorKeys.Shell

/-- The builtins whose failure ends the shell, and whose names no function can have. -/
def specialBuiltins : List String :=
  [".", ":", "break", "continue", "eval", "exec", "exit", "export", "local", "readonly", "return",
   "set", "shift", "times", "trap", "unset"]

namespace Reader

/-- The mistake that a token does not fit, where one other alone may have been wanted. -/
def unexpected {α : Type} (found : Token) (wanted : Option String := none) : Reader α :=
  fail ("Syntax error: " ++ found.shown ++ " unexpected"
    ++ wanted.elim "" fun w => " (expecting " ++ w ++ ")")

/-- Pass a keyword. -/
def passKeyword (recur : Recur) (name : String) : Reader Unit := do
  match ← token recur with
  | .keyword found =>
    if found != name then unexpected (.keyword found) (some ("\"" ++ name ++ "\""))
  | found => unexpected found (some ("\"" ++ name ++ "\""))

/-- Heed keywords and aliases, and skip line ends before them. -/
def expectCommand : Reader Unit :=
  expect { newlines := true, keywords := true, aliases := true }

/-- A list of commands that a keyword or an operator ends, after at least one command. -/
def body (recur : Recur) : Reader Command := do
  return (← recur (.list .body)).getD nothing

/-! ## Redirections -/

/-- The text of a word without its quotes, as the end mark of a here-document has it. -/
def markText (w : Word) : String :=
  String.join (w.map fun
    | .chars s _ => s
    | _ => "")

/-- A redirection, up to the word that it needs. -/
def redirectionOf (recur : Recur) (descriptor : Option Nat) (symbol : String) :
    Reader Redirection := do
  let here := symbol == "<<" || symbol == "<<-"
  if here then expect { endMark := true }
  match ← token recur with
  | .word parts =>
    let fd := descriptor.getD (if symbol.startsWith ">" then 1 else 0)
    if here then
      let s ← get
      let waiting : Waiting :=
        { number := s.nextDocument, endMark := markText parts, dropTabs := symbol == "<<-"
          expands := !hasQuotes parts }
      set { s with waiting := s.waiting ++ [waiting], nextDocument := s.nextDocument + 1 }
      return .document fd s.nextDocument
    else
      return match symbol with
        | ">&" | "<&" => .duplicate fd parts
        | ">>" => .file fd .append parts
        | "<" => .file fd .read parts
        | "<>" => .file fd .readWrite parts
        | ">|" => .file fd .replace parts
        | _ => .file fd .write parts
  | found => unexpected found

/-- The redirections behind a command. -/
def redirections (recur : Recur) : Nat → List Redirection → Reader (List Redirection)
  | 0, soFar => return soFar.reverse
  | n + 1, soFar => do
    match ← token recur with
    | .redirect descriptor symbol =>
      let r ← redirectionOf recur descriptor symbol
      redirections recur n (r :: soFar)
    | found =>
      push found
      return soFar.reverse

/-! ## Simple commands -/

/-- The assignment that a word is: the name before its first equals sign, and the value after. -/
def assignment? : Word → Option (String × Word)
  | .chars s false :: rest =>
    let name := s.toList.takeWhile isNameRest
    match name, s.toList.drop name.length with
    | c :: _, '=' :: value =>
      if isNameStart c then
        some (String.ofList name,
          if value.isEmpty then rest else .chars (String.ofList value) false :: rest)
      else none
    | _, _ => none
  | _ => none

/-- The definition of a function whose name and opening parenthesis have been read. -/
def definition (recur : Recur) (name : Word) : Reader Command := do
  match ← token recur with
  | .operator ")" =>
    match plainText? name with
    | some text =>
      if !isName text || specialBuiltins.contains text then
        fail "Syntax error: Bad function name"
      expectCommand
      let line := (← get).line
      return .define line text (← recur .command)
    | none => fail "Syntax error: Bad function name"
  | found => unexpected found (some "\")\"")

/-- The rest of a simple command, given its parts so far from the last one on. -/
def simpleFrom (recur : Recur) (line : Nat) :
    Nat → List (String × Word) → List Word → List Redirection → Reader Command
  | 0, assignments, words, reds =>
    return .simple line assignments.reverse words.reverse reds.reverse
  | n + 1, assignments, words, reds => do
    if words.isEmpty then expect { aliases := true }
    let done := Command.simple line assignments.reverse words.reverse reds.reverse
    match ← token recur with
    | .word parts =>
      match if words.isEmpty then assignment? parts else none with
      | some a => simpleFrom recur line n (a :: assignments) words reds
      | none => simpleFrom recur line n assignments (parts :: words) reds
    | .redirect descriptor symbol =>
      let r ← redirectionOf recur descriptor symbol
      simpleFrom recur line n assignments words (r :: reds)
    | .operator "(" =>
      match assignments, words, reds with
      | [], [name], [] => definition recur name
      | _, _, _ =>
        push (.operator "(")
        return done
    | found =>
      push found
      return done

/-! ## Compound commands -/

/-- The rest of a conditional behind `if` or `elif`. -/
def branches (recur : Recur) : Nat → Reader Command
  | 0 => fail "Syntax error: end of file unexpected"
  | n + 1 => do
    let condition ← body recur
    passKeyword recur "then"
    let yes ← body recur
    match ← token recur with
    | .keyword "elif" => return .branch condition yes (some (← branches recur n))
    | .keyword "else" => return .branch condition yes (some (← body recur))
    | found =>
      push found
      return .branch condition yes none

/-- The words of a loop, up to the end of the line or a semicolon. -/
def loopWords (recur : Recur) : Nat → List Word → Reader (List Word)
  | 0, words => return words.reverse
  | n + 1, words => do
    match ← token recur with
    | .word parts => loopWords recur n (parts :: words)
    | .newline | .operator ";" => return words.reverse
    | found => unexpected found

/-- The rest of a loop over words. -/
def eachLoop (recur : Recur) (line : Nat) : Reader Command := do
  let name ←
    match ← token recur with
    | .word parts =>
      match plainText? parts with
      | some text =>
        if !isName text then fail "Syntax error: Bad for loop variable"
        pure text
      | none => fail "Syntax error: Bad for loop variable"
    | _ => fail "Syntax error: Bad for loop variable"
  expectCommand
  let words ←
    match ← token recur with
    | .keyword "in" => loopWords recur (← bound) []
    | found =>
      match found with
      | .operator ";" => pure ()
      | found => push found
      pure [[.parameter "@" .plain [] true]]
  expectCommand
  passKeyword recur "do"
  return .each line name words (← body recur)

/-- A word of a pattern; other tokens count as such where they cannot be anything else. -/
def patternWord : Token → Word
  | .word parts => parts
  | .keyword name => [.chars name false]
  | _ => []

/-- The rest of the patterns of a case, the first of which has been read. -/
def casePatterns (recur : Recur) : Nat → List Word → Reader (List Word)
  | 0, words => return words.reverse
  | n + 1, words => do
    match ← token recur with
    | .operator "|" =>
      let next ← token recur
      casePatterns recur n (patternWord next :: words)
    | .operator ")" => return words.reverse
    | found => unexpected found (some "\")\"")

/-- The cases of a choice. -/
def cases (recur : Recur) :
    Nat → List (List Word × Option Command) → Reader (List (List Word × Option Command))
  | 0, soFar => return soFar.reverse
  | n + 1, soFar => do
    expect { newlines := true, keywords := true }
    match ← token recur with
    | .keyword "esac" => return soFar.reverse
    | first =>
      let first ←
        match first with
        | .operator "(" => token recur
        | first => pure first
      let words ← casePatterns recur (← bound) [patternWord first]
      let commands ← recur (.list .optional)
      expect { newlines := true, keywords := true }
      match ← token recur with
      | .keyword "esac" => return ((words, commands) :: soFar).reverse
      | .operator ";;" => cases recur n ((words, commands) :: soFar)
      | found => unexpected found (some "\";;\"")

/-- The rest of a choice. -/
def choice (recur : Recur) (line : Nat) : Reader Command := do
  match ← token recur with
  | .word subject =>
    expectCommand
    passKeyword recur "in"
    return .choose line subject (← cases recur (← bound) [])
  | found => unexpected found (some "word")

/-- A command with the redirections behind it. -/
def withRedirections (recur : Recur) (line : Nat) (command : Command) : Reader Command := do
  expect { keywords := true, aliases := true }
  match command, ← redirections recur (← bound) [] with
  | command, [] => return command
  | .subshell line inner _, reds => return .subshell line inner reds
  | command, reds => return .redirected line command reds

/-- A command that is no pipeline. -/
def command (recur : Recur) : Reader Command := do
  let line := (← get).line
  match ← token recur with
  | .keyword "if" =>
    let inner ← branches recur (← bound)
    passKeyword recur "fi"
    withRedirections recur line inner
  | .keyword "while" =>
    let condition ← body recur
    passKeyword recur "do"
    let inner ← body recur
    passKeyword recur "done"
    withRedirections recur line (.loop false condition inner)
  | .keyword "until" =>
    let condition ← body recur
    passKeyword recur "do"
    let inner ← body recur
    passKeyword recur "done"
    withRedirections recur line (.loop true condition inner)
  | .keyword "for" =>
    let inner ← eachLoop recur line
    passKeyword recur "done"
    withRedirections recur line inner
  | .keyword "case" => withRedirections recur line (← choice recur line)
  | .operator "(" =>
    let inner ← body recur
    match ← token recur with
    | .operator ")" => withRedirections recur line (.subshell line inner [])
    | found => unexpected found (some "\")\"")
  | .keyword "\x7b" =>
    let inner ← body recur
    passKeyword recur "\x7d"
    withRedirections recur line inner
  | .word parts =>
    push (.word parts)
    simpleFrom recur line (← bound) [] [] []
  | .redirect descriptor symbol =>
    push (.redirect descriptor symbol)
    simpleFrom recur line (← bound) [] [] []
  | found => unexpected found

/-! ## Pipelines and lists -/

/-- The rest of a pipeline, given its commands so far from the last one on. -/
def pipelineFrom (recur : Recur) : Nat → List Command → Reader Command
  | 0, commands => return .pipeline commands.reverse
  | n + 1, commands => do
    match ← token recur with
    | .operator "|" =>
      expectCommand
      let next ← command recur
      pipelineFrom recur n (next :: commands)
    | found =>
      push found
      return match commands with
        | [only] => only
        | commands => .pipeline commands.reverse

/-- A pipeline, with an exclamation mark in front or without. -/
def pipeline (recur : Recur) : Reader Command := do
  match ← token recur with
  | .keyword "!" =>
    expect { keywords := true, aliases := true }
    return .negate (← pipelineFrom recur (← bound) [← command recur])
  | found =>
    push found
    pipelineFrom recur (← bound) [← command recur]

/-- The rest of pipelines that depend on the success of those before. -/
def andOrFrom (recur : Recur) : Nat → Command → Reader Command
  | 0, left => return left
  | n + 1, left => do
    match ← token recur with
    | .operator "&&" =>
      expectCommand
      andOrFrom recur n (.andThen left (← pipeline recur))
    | .operator "||" =>
      expectCommand
      andOrFrom recur n (.orElse left (← pipeline recur))
    | found =>
      push found
      return left

/-- Two commands one after the other, the first of which may be missing. -/
def after (before : Option Command) (command : Command) : Command :=
  match before with
  | none => command
  | some first => .sequence first command

/-- Whether a token ends a list of commands. -/
def endsList : Token → Bool
  | .stop => true
  | .operator s => s == ")" || s == ";;"
  | .keyword s => ["do", "done", "elif", "else", "esac", "fi", "then", "\x7d"].contains s
  | _ => false

/-- The rest of a list of commands, given those so far. -/
def listFrom (recur : Recur) (ending : ListEnd) :
    Nat → Bool → Option Command → Reader (Option Command)
  | 0, _, soFar => return soFar
  | n + 1, mayEnd, soFar => do
    expect { newlines := ending != .line, keywords := true, aliases := true }
    match ← token recur with
    | .newline =>
      readDocuments recur
      return soFar
    | .stop =>
      readDocuments recur
      push .stop
      return soFar
    | first =>
      push first
      if ending != .line && mayEnd && endsList first then return soFar
      let one ← andOrFrom recur (← bound) (← pipeline recur)
      match ← token recur with
      | .operator "&" => listFrom recur ending n true (some (after soFar (.background one)))
      | .operator ";" => listFrom recur ending n true (some (after soFar one))
      | .newline =>
        push .newline
        listFrom recur ending n true (some (after soFar one))
      | .stop =>
        readDocuments recur
        push .stop
        return some (after soFar one)
      | found =>
        if ending == .line then unexpected found
        push found
        return some (after soFar one)

/-- What can be asked of the reader, answered with the help of the reader one level deeper. -/
def answer (recur : Recur) : Recur
  | .list ending => do listFrom recur ending (← bound) (ending == .optional) none
  | .command => command recur
  | .parts mode => do partsFrom recur mode (← bound) 0 false []

/-- The reader for commands and words that are nested at most so deep. -/
def nested : Nat → Recur
  | 0 => fun _ => fail "Syntax error: nesting too deep"
  | n + 1 => answer (nested n)

end Reader

namespace Source

/-- The command of the next line, or none where the line has none, and the text after it. -/
def nextLine (depth : Nat) (source : Source) :
    EStateM.Result Mistake Source (Option Command) :=
  Reader.nested depth (.list .line) { source with pushed := none, check := {}, waiting := [] }

/-- Whether the whole text has been read. -/
def isAtEnd (source : Source) : Bool :=
  source.rest.isEmpty

end Source

end MonitorKeys.Shell

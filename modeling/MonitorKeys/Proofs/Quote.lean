import MonitorKeys.Proofs.Sink
import MonitorKeys.Proofs.Token.Scan
import MonitorKeys.Spelling

/-!
# A quoted text is typed character by character

`quote` writes a text so that nothing in it is read in a special way.  `tokenize_quote_chars` says
that it is read as one token for each character, and `command_plain` says which command each of
them is.  `run_quote` is what a sender does with a quoted text, on any sink that takes every
command.
-/

namespace MonitorKeys

/-! ## Reading a quoted text -/

/-- The token that a quoted character is read as. -/
def Token.plain (c : Char) : Token :=
  if c = '<' then escape "lt" else if c = '>' then escape "gt" else literal c

/-- A quoted character is one token, whatever stands behind it. -/
theorem scan_quoteChar_append (c : Char) (rest : List Char) :
    Token.scan (quoteChar c ++ rest) = Token.plain c :: Token.scan rest := by
  by_cases hlt : c = '<'
  · subst hlt
    have hname : '>' ∉ ['l', 't'] := by decide
    exact Token.scan_escape (List.cons_ne_nil _ _) hname
  · by_cases hgt : c = '>'
    · subst hgt
      have hname : '>' ∉ ['g', 't'] := by decide
      exact Token.scan_escape (List.cons_ne_nil _ _) hname
    · rw [quoteChar, Token.plain, if_neg hlt, if_neg hgt, if_neg hlt, if_neg hgt,
        List.singleton_append, Token.scan_cons_of_ne hlt]

theorem scan_flatMap_quoteChar (cs : List Char) :
    Token.scan (cs.flatMap quoteChar) = cs.map Token.plain := by
  induction cs with
  | nil => simp
  | cons c cs ih => rw [List.flatMap_cons, scan_quoteChar_append, ih, List.map_cons]

/-- A quoted text has one token for each character. -/
theorem tokenize_quote_chars (text : String) :
    tokenize (quote text) = text.toList.map Token.plain := by
  rw [tokenize, quote, String.toList_ofList, scan_flatMap_quoteChar]

theorem plain_ne_wait (c : Char) : Token.plain c ≠ .escape "wait" := by
  unfold Token.plain
  split
  · decide
  · split
    · decide
    · simp

/-! ## The command for a character -/

/-- The command that types a character. -/
def plainCommand (c : Char) : String :=
  "sendkey " ++
    if c = '<' then "shift-comma"
    else if c = '>' then "shift-dot"
    else if c.isUpper then "shift-" ++ String.singleton c.toLower
    else (KeyName.symbols.lookup c).getD (String.singleton c)

/-- The command for a quoted character is the one that types it. -/
theorem command_plain (c : Char) : (Token.plain c).command = plainCommand c := by
  unfold Token.plain plainCommand
  split
  · decide
  · split
    · decide
    · rw [Token.command, Token.sentName_literal]

/-! ## Sending a quoted text -/

/-- Steps without a pause of their own and one delay after each of them pause once for each. -/
theorem filterMap_pause?_flatMap {σ : Type} {sent : List (Outcome σ Unit)} (delay : Nat)
    (h : ∀ o ∈ sent, o.events.filterMap Event.pause? = []) :
    (sent.flatMap fun o => withoutLog o.events ++ [.pause delay]).filterMap Event.pause? =
      List.replicate sent.length delay := by
  induction sent with
  | nil => rfl
  | cons o sent ih =>
    have hrest := ih fun u hu => h u (List.mem_cons_of_mem o hu)
    rw [List.flatMap_cons, List.filterMap_append, List.filterMap_append,
      filterMap_pause?_withoutLog, h o (by simp), hrest, List.length_cons, List.replicate_succ]
    rfl

/-- A quoted text is read as one token for each character.  On a sink that takes every command its
run counts the characters; the sink gets the command of each character in order, with the delay
after each, and where it does not pause itself there are no other pauses. -/
theorem run_quote {σ : Type} (sender : Sender σ) (state : σ) (h : sender.sink.Accepts state)
    (text : String) :
    let outcome := sender.run (quote text) state
    let commands := text.toList.map plainCommand
    tokenize (quote text) = text.toList.map Token.plain ∧
      outcome.result = .ok text.length ∧
      outcome.state = sender.sink.stateAfter commands state ∧
      withoutLog outcome.events =
        ((sender.sink.sendAll commands state).flatMap fun o =>
          withoutLog o.events ++ [.pause sender.delay]) ∧
      (sender.sink.Pauseless →
        outcome.events.filterMap Event.pause? = List.replicate text.length sender.delay) := by
  intro outcome commands
  have htokens : ∀ t ∈ text.toList.map Token.plain, t ≠ .escape "wait" := by
    intro t ht
    obtain ⟨c, -, rfl⟩ := List.mem_map.1 ht
    exact plain_ne_wait c
  have hcommands : (text.toList.map Token.plain).map Token.command = commands := by
    simp [commands, command_plain]
  have hquiet := sender.quiet_sendTokens_of_accepts htokens h
  rw [hcommands, List.length_map, String.length_toList, ← tokenize_quote_chars] at hquiet
  change outcome.quiet = _ at hquiet
  have htrace : withoutLog outcome.events = _ := congrArg Outcome.events hquiet
  refine ⟨tokenize_quote_chars text, congrArg Outcome.result hquiet,
    congrArg Outcome.state hquiet, htrace, ?_⟩
  intro hpauseless
  have hlength : (sender.sink.sendAll commands state).length = text.length := by
    simp [commands, String.length_toList]
  rw [← filterMap_pause?_withoutLog, htrace, ← hlength,
    ← filterMap_pause?_flatMap sender.delay (hpauseless.sendAll _ _)]
  rfl

/-- A text that would be a wait is typed on a stream. -/
theorem run_quote_wait_tag :
    let sender : Sender Stream := ⟨streamSink, 7, .upTo none⟩
    sender.sink.Accepts {} ∧ sender.sink.Pauseless ∧
      tokenize (quote "<wait>\n") =
        [.escape "lt", .literal 'w', .literal 'a', .literal 'i', .literal 't', .escape "gt",
          .literal '\n'] ∧
      (sender.run (quote "<wait>\n") {}).result = .ok 7 ∧
      (sender.run (quote "<wait>\n") {}).events.filterMap Event.pause? =
        [7, 7, 7, 7, 7, 7, 7] := by
  intro sender
  have haccepts : sender.sink.Accepts {} := accepts_streamSink (.reported "broken pipe")
  obtain ⟨htokens, hresult, -, -, hpauses⟩ := run_quote sender {} haccepts "<wait>\n"
  exact ⟨haccepts, pauseless_streamSink, htokens.trans (by decide), hresult,
    hpauses pauseless_streamSink⟩

end MonitorKeys

import Mathlib.Logic.Basic
import MonitorKeys.Proofs.Stream

/-!
# How far a run comes on a stream

A run over a stream either sends all of its tokens, or it ends inside the line of one of them or at
the flush after that line.  `Stream.firstFailure?` finds that token by counting bytes and lines
alone.  `run_streamSink` says what the run returns and does on either answer, down to the byte.
-/

namespace MonitorKeys

open Text (Bytes)

/-- What sending a token does on a stream that accepts its line: a wait is a pause of one second,
and any other token is its line, a flush and the delay. -/
def Token.block (delay : Nat) (t : Token) : List Event :=
  if t = .escape "wait" then [.pause waitPause] else [.write t.line, .flush, .pause delay]

theorem block_wait (delay : Nat) : (Token.escape "wait").block delay = [.pause waitPause] := by
  rw [Token.block, if_pos rfl]

theorem block_of_ne {t : Token} (h : t ≠ .escape "wait") (delay : Nat) :
    t.block delay = [.write t.line, .flush, .pause delay] := by
  rw [Token.block, if_neg h]

namespace Stream

/-- Writing events are no log records. -/
@[simp] theorem withoutLog_writeEvents (bytes : Bytes) :
    withoutLog (writeEvents bytes) = writeEvents bytes := by
  unfold writeEvents
  split
  · rfl
  · rfl

/-- A wait takes nothing from a stream. -/
theorem takes_wait (stream : Stream) : stream.Takes [.escape "wait"] := by
  simp [Takes, translationOf_singleton, commandCount_wait]

theorem spent_wait (stream : Stream) : stream.spent [.escape "wait"] = stream := by
  obtain ⟨budget, flushes, failure⟩ := stream
  cases budget <;> cases flushes <;>
    simp [spent, translationOf_singleton, commandCount_wait]

/-- A token with a line takes the bytes of the line and one flush. -/
theorem takes_singleton_iff {stream : Stream} {t : Token} (h : t ≠ .escape "wait") :
    stream.Takes [t] ↔ Within stream.budget t.line.length ∧ Within stream.flushes 1 := by
  rw [Takes, translationOf_singleton, commandCount_of_ne h]

/-! ## Sending one token -/

/-- A command that is taken whole. -/
theorem send_of_takes {stream : Stream} {t : Token} (h : t ≠ .escape "wait")
    (htakes : stream.Takes [t]) :
    stream.send t.command = .done () (stream.spent [t]) [.write t.line, .flush] := by
  rw [takes_singleton_iff h, line_of_ne h] at htakes
  rw [send_of_within htakes.1 htakes.2, ← line_of_ne h]
  simp [charge, spent, translationOf_singleton, commandCount_of_ne h]

/-- A command that is not taken whole: what fits of its line is written, and nothing follows. -/
theorem send_of_not_takes {stream : Stream} {t : Token} (h : t ≠ .escape "wait")
    (htakes : ¬ stream.Takes [t]) :
    stream.send t.command =
      ⟨.error stream.failure, stream.charge t.line, writeEvents (stream.accepted t.line)⟩ := by
  rw [takes_singleton_iff h, line_of_ne h] at htakes
  rw [line_of_ne h]
  by_cases hbudget : Within stream.budget (lineBytes t.command).length
  · have hflush : ¬ Within stream.flushes 1 := fun hwithin => htakes ⟨hbudget, hwithin⟩
    rw [send_of_flush_not_within hbudget hflush, accepted_of_within hbudget,
      writeEvents_lineBytes]
  · exact send_of_not_within hbudget

end Stream

section Run

variable (delay : Nat) (filter : Log.Filter)

/-- A token whose line is taken is sent as its block. -/
theorem quiet_sendToken_of_takes {stream : Stream} {t : Token} (h : stream.Takes [t]) :
    ((Sender.mk streamSink delay filter).sendToken t stream).quiet =
      .done (decide (t ≠ .escape "wait")) (stream.spent [t]) (t.block delay) := by
  by_cases hwait : t = .escape "wait"
  · subst hwait
    rw [Sender.quiet_sendToken_wait, stream.spent_wait, block_wait]
    simp
  · rw [Sender.quiet_sendToken_of_ne _ hwait, streamSink_send, Stream.send_of_takes hwait h,
      block_of_ne hwait]
    simp [hwait, withoutLog, Event.isLog]

/-- A token whose line is not taken ends the run after the part of its line that fits. -/
theorem quiet_sendToken_of_not_takes {stream : Stream} {t : Token} (h : ¬ stream.Takes [t]) :
    ((Sender.mk streamSink delay filter).sendToken t stream).quiet =
      ⟨.error stream.failure, stream.charge t.line,
        Stream.writeEvents (stream.accepted t.line)⟩ := by
  have hwait : t ≠ .escape "wait" := by
    rintro rfl
    exact h stream.takes_wait
  rw [Sender.quiet_sendToken_of_ne _ hwait, streamSink_send, Stream.send_of_not_takes hwait h]
  simp

/-! ## Sending many tokens -/

/-- Tokens whose lines are all taken are sent as their blocks. -/
theorem quiet_sendTokens_of_takes {tokens : List Token} {stream : Stream}
    (h : stream.Takes tokens) :
    ((Sender.mk streamSink delay filter).sendTokens tokens stream).quiet =
      .done (commandCount tokens) (stream.spent tokens) (tokens.flatMap (Token.block delay)) := by
  induction tokens generalizing stream with
  | nil => simp [Sender.sendTokens]
  | cons t tokens ih =>
    rw [← List.singleton_append, Stream.takes_append] at h
    have hspent : stream.spent (t :: tokens) = (stream.spent [t]).spent tokens := by
      rw [← Stream.spent_append, List.singleton_append]
    rw [Sender.sendTokens, Outcome.quiet_andThen, quiet_sendToken_of_takes delay filter h.1,
      Outcome.done_andThen, Outcome.quiet_map, ih h.2, commandCount_cons, hspent,
      List.flatMap_cons]
    rfl

/-- The first token whose line is not taken ends the run. -/
theorem quiet_sendTokens_of_not_takes {before after : List Token} {t : Token} {stream : Stream}
    (hbefore : stream.Takes before) (h : ¬ stream.Takes (before ++ [t])) :
    ((Sender.mk streamSink delay filter).sendTokens (before ++ t :: after) stream).quiet =
      ⟨.error stream.failure, (stream.spent before).charge t.line,
        before.flatMap (Token.block delay) ++
          Stream.writeEvents ((stream.spent before).accepted t.line)⟩ := by
  have hlast : ¬ (stream.spent before).Takes [t] := by
    intro htakes
    exact h (Stream.takes_append.2 ⟨hbefore, htakes⟩)
  rw [Sender.sendTokens_append, Outcome.quiet_andThen,
    quiet_sendTokens_of_takes delay filter hbefore, Outcome.done_andThen, Outcome.quiet_map,
    Sender.sendTokens, Outcome.quiet_andThen, quiet_sendToken_of_not_takes delay filter hlast,
    Outcome.error_andThen]
  rfl

end Run

/-! ## The first failure -/

namespace Stream

/-- A stream fails at a token that stands after others: the token has a line, and either the lines
up to its own are longer than the budget, or all flushes were needed for the lines before it. -/
def FailsAt (stream : Stream) (before : List Token) (t : Token) : Prop :=
  t ≠ .escape "wait" ∧
    (¬ Within stream.budget (translationOf (before ++ [t])).length ∨
      stream.flushes = some (commandCount before))

instance (stream : Stream) (before : List Token) (t : Token) :
    Decidable (stream.FailsAt before t) :=
  inferInstanceAs (Decidable (_ ∧ _))

/-- The first of some tokens at which a stream fails, and all tokens before it.  The tokens in
`before` have already been sent. -/
def firstFailure? (stream : Stream) (before : List Token) :
    List Token → Option (List Token × Token)
  | [] => none
  | t :: after =>
    if stream.FailsAt before t then some (before, t) else stream.firstFailure? (before ++ [t]) after

/-- The part of a token's line that fits into the budget after the lines before it. -/
def fitting (stream : Stream) (before : List Token) (t : Token) : Bytes :=
  match stream.budget with
  | none => t.line
  | some n => t.line.take (n - (translationOf before).length)

theorem accepted_spent (stream : Stream) (before : List Token) (t : Token) :
    (stream.spent before).accepted t.line = stream.fitting before t := by
  obtain ⟨budget, flushes, failure⟩ := stream
  cases budget <;> rfl

/-- Counting finds a failure where the lines up to the token are not taken any more. -/
theorem failsAt_iff {stream : Stream} {before : List Token} {t : Token}
    (h : stream.Takes before) : stream.FailsAt before t ↔ ¬ stream.Takes (before ++ [t]) := by
  by_cases hwait : t = .escape "wait"
  · subst hwait
    have htakes : stream.Takes (before ++ [.escape "wait"]) :=
      takes_append.2 ⟨h, takes_wait _⟩
    simp [FailsAt, htakes]
  · rw [FailsAt, Takes, commandCount_append, commandCount_of_ne hwait, not_and_or,
      not_within_succ h.2]
    simp [hwait]

/-- No failure is found where all lines are taken. -/
theorem takes_of_firstFailure?_eq_none {stream : Stream} {before tokens : List Token}
    (hbefore : stream.Takes before) (h : stream.firstFailure? before tokens = none) :
    stream.Takes (before ++ tokens) := by
  induction tokens generalizing before with
  | nil => simpa using hbefore
  | cons t after ih =>
    unfold firstFailure? at h
    split at h
    · simp at h
    · rename_i hfails
      rw [failsAt_iff hbefore, not_not] at hfails
      have hall := ih hfails h
      rwa [List.append_assoc, List.singleton_append] at hall

/-- The failure that is found is the end of what the stream takes. -/
theorem not_takes_of_firstFailure?_eq_some {stream : Stream} {start tokens before : List Token}
    {t : Token} (hstart : stream.Takes start)
    (h : stream.firstFailure? start tokens = some (before, t)) :
    stream.Takes before ∧ ¬ stream.Takes (before ++ [t]) ∧
      ∃ after, start ++ tokens = before ++ t :: after := by
  induction tokens generalizing start with
  | nil => simp [firstFailure?] at h
  | cons u after ih =>
    unfold firstFailure? at h
    split at h
    · rename_i hfails
      simp only [Option.some.injEq, Prod.mk.injEq] at h
      obtain ⟨rfl, rfl⟩ := h
      exact ⟨hstart, (failsAt_iff hstart).1 hfails, after, rfl⟩
    · rename_i hfails
      rw [failsAt_iff hstart, not_not] at hfails
      obtain ⟨hbefore, hlast, rest, hsplit⟩ := ih hfails h
      refine ⟨hbefore, hlast, rest, ?_⟩
      rw [← hsplit, List.append_assoc, List.singleton_append]

end Stream

theorem Stream.fitting_isPrefix (stream : Stream) (before : List Token) (t : Token) :
    stream.fitting before t <+: t.line := by
  rw [← accepted_spent]
  exact accepted_isPrefix _ _

/-- A run over a stream sends all of its tokens, or it ends at the first one that is not taken. -/
theorem quiet_run_cases (delay : Nat) (filter : Log.Filter) (stream : Stream) (input : String) :
    let outcome := (Sender.mk streamSink delay filter).run input stream
    outcome.quiet = .done (commandCount (tokenize input)) (stream.spent (tokenize input))
        ((tokenize input).flatMap (Token.block delay)) ∨
      ∃ before t after, tokenize input = before ++ t :: after ∧ t ≠ .escape "wait" ∧
        outcome.quiet = ⟨.error stream.failure, (stream.spent before).charge t.line,
          before.flatMap (Token.block delay) ++
            Stream.writeEvents (stream.fitting before t)⟩ := by
  intro outcome
  cases hfailure : stream.firstFailure? [] (tokenize input) with
  | none =>
    have htakes := Stream.takes_of_firstFailure?_eq_none stream.takes_nil hfailure
    exact Or.inl (quiet_sendTokens_of_takes delay filter htakes)
  | some found =>
    obtain ⟨before, t⟩ := found
    obtain ⟨hbefore, hlast, after, hsplit⟩ :=
      Stream.not_takes_of_firstFailure?_eq_some stream.takes_nil hfailure
    rw [List.nil_append] at hsplit
    have hfails := (Stream.failsAt_iff hbefore).2 hlast
    have hquiet :=
      @quiet_sendTokens_of_not_takes delay filter before after t stream hbefore hlast
    rw [← hsplit, Stream.accepted_spent] at hquiet
    exact Or.inr ⟨before, t, after, hsplit, hfails.1, hquiet⟩

/-- The line for `a` is ten bytes long, a wait takes none, and so three bytes are left for `b`. -/
example :
    let stream : Stream := { budget := some 13 }
    stream.firstFailure? [] [.literal 'a', .escape "wait", .literal 'b'] =
      some ([.literal 'a', .escape "wait"], .literal 'b') := by
  decide

end MonitorKeys

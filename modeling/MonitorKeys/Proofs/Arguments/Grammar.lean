import Mathlib.Data.List.Forall2
import Mathlib.Data.List.Nodup
import MonitorKeys.Proofs.Arguments.Line
import MonitorKeys.Proofs.Arguments.Reading
import MonitorKeys.Proofs.Text.Encode

/-!
# The grammar of command lines

`parse_eq_ok_iff` says that a reader that keeps to the conventions accepts the spellings of those
lines in which no slot has two values and every value is accepted for its slot, and no other
arguments.

* `CommandLine.Asks` is what a line asks for, one condition for each slot.
* `takesAll_iff` says when the values of a line can all be taken, and `asks_iff` brings this into
  the form of `Asks`.
* `says_findSome?` and `exists_allSay` go from all values to those of one slot and back.
-/

namespace MonitorKeys.Arguments

open Text (Bytes bytesOf)

/-! ## What a line asks for -/

/-- The values among these that are for a slot. -/
def valuesIn (values : List (Slot × Bytes)) (slot : Slot) : List Bytes :=
  (values.filter (·.1 = slot)).map Prod.snd

/-- There is no value, and nothing is said, or there is one value, and it means this. -/
inductive Says {α : Type} (means : Bytes → α → Prop) : List Bytes → Option α → Prop where
  | nothing : Says means [] none
  | one {value : Bytes} {said : α} (h : means value said) : Says means [value] (some said)

/-- A value is the bytes of this text. -/
def MeansText (value : Bytes) (text : String) : Prop :=
  value = bytesOf text

/-- A value is the bytes of a text that writes this delay. -/
def MeansDelay (value : Bytes) (delay : Delay) : Prop :=
  ∃ text, value = bytesOf text ∧ Delay.parse text = .ok delay

namespace CommandLine

/-- Each slot of a line has at most one value, and the invocation is what these values mean. -/
structure Asks (line : CommandLine) (asked : Invocation) : Prop where
  command : Says MeansText (valuesIn line.values (.option .command)) asked.command
  delay : Says MeansDelay (valuesIn line.values (.option .delay)) asked.delay
  input : Says MeansText (valuesIn line.values .input) asked.input
  /-- Without a value the delay is a tenth of a second. -/
  usualDelay : valuesIn line.values (.option .delay) = [] → asked.delayNanoseconds = 10 ^ 8
  /-- Without a value the input text is empty. -/
  usualInput : valuesIn line.values .input = [] → asked.inputText = ""

end CommandLine

/-! ## Taking all values -/

/-- What is given is what each of the values is accepted as. -/
def AllSay (values : List (Slot × Bytes)) (given : List Given) : Prop :=
  List.Forall₂ (fun value new => value.1.Accepts value.2 new) values given

/-- Values can all be taken when each is accepted and no slot comes up twice. -/
theorem takesAll_iff {given result : List Given} {values : List (Slot × Bytes)} :
    TakesAll given values result ↔
      ((values.map Prod.fst).Nodup ∧ (given.map Given.slot).Disjoint (values.map Prod.fst)) ∧
        ∃ new, AllSay values new ∧ given ++ new = result := by
  induction values generalizing given with
  | nil => simp [takesAll_nil_iff, AllSay]
  | cons value values ih =>
    obtain ⟨slot, value⟩ := value
    have hslots {new : Given} (hnew : slot.Accepts value new) :
        ((given ++ [new]).map Given.slot).Disjoint (values.map Prod.fst) ↔
          (given.map Given.slot).Disjoint (values.map Prod.fst) ∧ slot ∉ values.map Prod.fst := by
      rw [List.map_append, List.map_singleton, hnew.slot_eq,
        List.disjoint_append_left, List.singleton_disjoint]
    rw [takesAll_cons_iff, List.map_cons, List.nodup_cons, List.disjoint_cons_right]
    constructor
    · rintro ⟨_, ⟨hfree, new, hnew, rfl⟩, hothers⟩
      obtain ⟨⟨hnodup, hdisjoint⟩, others, hsay, rfl⟩ := ih.1 hothers
      obtain ⟨hgiven, hnotMem⟩ := (hslots hnew).1 hdisjoint
      exact ⟨⟨⟨hnotMem, hnodup⟩, hfree, hgiven⟩, new :: others, .cons hnew hsay,
        List.append_cons _ _ _⟩
    · rintro ⟨⟨⟨hnotMem, hnodup⟩, hfree, hgiven⟩, _, ⟨⟩ | ⟨hnew, hsay⟩, rfl⟩
      exact ⟨_, ⟨hfree, _, hnew, rfl⟩,
        ih.2 ⟨⟨hnodup, (hslots hnew).2 ⟨hgiven, hnotMem⟩⟩, _, hsay, (List.append_cons _ _ _).symm⟩⟩

/-! ## One slot at a time -/

section Slots

variable {values : List (Slot × Bytes)} {given : List Given} {slot : Slot} {value : Bytes}

theorem valuesIn_cons_self :
    valuesIn ((slot, value) :: values) slot = value :: valuesIn values slot := by
  simp [valuesIn]

theorem valuesIn_cons_of_ne {other : Slot} (h : other ≠ slot) :
    valuesIn ((other, value) :: values) slot = valuesIn values slot := by
  simp [valuesIn, h]

theorem valuesIn_eq_nil_iff : valuesIn values slot = [] ↔ slot ∉ values.map Prod.fst := by
  simp only [valuesIn, List.map_eq_nil_iff, List.filter_eq_nil_iff, decide_eq_true_eq, List.mem_map,
    not_exists, not_and]

/-- Where no slot comes up twice, the value in a slot means the first value of its kind. -/
theorem says_findSome? {α : Type} {means : Bytes → α → Prop} {get? : Given → Option α}
    (hnodup : (values.map Prod.fst).Nodup) (h : AllSay values given)
    (hget : ∀ value new, slot.Accepts value new → ∃ said, get? new = some said ∧ means value said)
    (hother : ∀ new : Given, new.slot ≠ slot → get? new = none) :
    Says means (valuesIn values slot) (given.findSome? get?) := by
  induction h with
  | nil => exact .nothing
  | @cons value new values given hnew _ ih =>
    obtain ⟨own, value⟩ := value
    rw [List.map_cons, List.nodup_cons] at hnodup
    by_cases heq : own = slot
    · subst heq
      obtain ⟨said, hsaid, hmeans⟩ := hget value new hnew
      rw [valuesIn_cons_self, valuesIn_eq_nil_iff.2 hnodup.1, List.findSome?_cons, hsaid]
      exact .one hmeans
    · have hnone : get? new = none := hother new fun hslot => heq (hnew.slot_eq.symm.trans hslot)
      rw [valuesIn_cons_of_ne heq, List.findSome?_cons, hnone]
      exact ih hnodup.2

/-- Values of which each slot has at most one, and a good one, all say something. -/
theorem exists_allSay
    (h : ∀ slot, ∃ said, Says slot.Accepts (valuesIn values slot) said) :
    (values.map Prod.fst).Nodup ∧ ∃ given, AllSay values given := by
  induction values with
  | nil => exact ⟨List.nodup_nil, [], .nil⟩
  | cons value values ih =>
    obtain ⟨own, value⟩ := value
    obtain ⟨new, hnew, hnone⟩ :
        ∃ new, own.Accepts value new ∧ valuesIn values own = [] := by
      obtain ⟨said, hsaid⟩ := h own
      rw [valuesIn_cons_self] at hsaid
      generalize hothers : valuesIn values own = others at hsaid
      cases hsaid with
      | one hnew => exact ⟨_, hnew, rfl⟩
    obtain ⟨hnodup, given, hsay⟩ : (values.map Prod.fst).Nodup ∧ ∃ given, AllSay values given := by
      refine ih fun slot => ?_
      by_cases heq : own = slot
      · rw [← heq, hnone]
        exact ⟨none, .nothing⟩
      · rw [← valuesIn_cons_of_ne heq]
        exact h slot
    exact ⟨List.nodup_cons.2 ⟨valuesIn_eq_nil_iff.1 hnone, hnodup⟩, new :: given, .cons hnew hsay⟩

end Slots

/-! ## What the values of a line ask for -/

section Says

variable {α β : Type} {means : Bytes → α → Prop} {means' : Bytes → β → Prop} {values : List Bytes}
  {said said' : Option α}

theorem Says.unique (hunique : ∀ value a b, means value a → means value b → a = b)
    (h : Says means values said) (h' : Says means values said') : said = said' := by
  cases h with
  | nothing =>
    cases h'
    rfl
  | one hsaid =>
    cases h' with
    | one hsaid' => exact congrArg some (hunique _ _ _ hsaid hsaid')

theorem Says.exists_of_imp
    (himp : ∀ value said, means value said → ∃ other, means' value other)
    (h : Says means values said) : ∃ other, Says means' values other := by
  cases h with
  | nothing => exact ⟨none, .nothing⟩
  | one hsaid =>
    obtain ⟨other, hother⟩ := himp _ _ hsaid
    exact ⟨some other, .one hother⟩

theorem Says.eq_none (h : Says means values said) (hnil : values = []) : said = none := by
  subst hnil
  cases h
  rfl

end Says

section Meanings

variable {value : Bytes} {new : Given}

theorem accepts_command_iff :
    (Slot.option .command).Accepts value new ↔
      ∃ text, MeansText value text ∧ .command text = new := by
  simp [Slot.Accepts, Slot.accept, MeansText]

theorem accepts_input_iff :
    Slot.input.Accepts value new ↔ ∃ text, MeansText value text ∧ .input text = new := by
  simp [Slot.Accepts, Slot.accept, MeansText]

theorem accepts_delay_iff :
    (Slot.option .delay).Accepts value new ↔
      ∃ delay, MeansDelay value delay ∧ .delay delay = new := by
  simp only [Slot.Accepts, Slot.accept, MeansDelay]
  constructor
  · rintro ⟨text, rfl, hnew⟩
    cases hdelay : Delay.parse text with
    | error reason =>
      rw [hdelay] at hnew
      cases hnew
    | ok delay =>
      rw [hdelay] at hnew
      exact ⟨delay, ⟨text, rfl, hdelay⟩, Except.ok.inj hnew⟩
  · rintro ⟨delay, ⟨text, rfl, hdelay⟩, rfl⟩
    exact ⟨text, rfl, by rw [hdelay]; rfl⟩

theorem meansText_unique (value : Bytes) (text text' : String) (h : MeansText value text)
    (h' : MeansText value text') : text = text' :=
  Text.bytesOf_injective (h.symm.trans h')

theorem meansDelay_unique (value : Bytes) (delay delay' : Delay) (h : MeansDelay value delay)
    (h' : MeansDelay value delay') : delay = delay' := by
  obtain ⟨text, htext, hdelay⟩ := h
  obtain ⟨text', htext', hdelay'⟩ := h'
  rw [meansText_unique value text text' htext htext', hdelay'] at hdelay
  exact (Except.ok.inj hdelay).symm

end Meanings

namespace CommandLine

variable {line : CommandLine} {asked : Invocation} {given : List Given}

theorem Asks.unique {asked' : Invocation} (h : line.Asks asked) (h' : line.Asks asked') :
    asked = asked' := by
  obtain ⟨command, delay, input⟩ := asked
  obtain ⟨command', delay', input'⟩ := asked'
  rw [Invocation.mk.injEq]
  exact ⟨h.command.unique meansText_unique h'.command, h.delay.unique meansDelay_unique h'.delay,
    h.input.unique meansText_unique h'.input⟩

/-- What a line asks for is known from what its values mean. -/
theorem asks_of_says (command : Says MeansText (valuesIn line.values (.option .command))
      asked.command)
    (delay : Says MeansDelay (valuesIn line.values (.option .delay)) asked.delay)
    (input : Says MeansText (valuesIn line.values .input) asked.input) : line.Asks asked where
  command := command
  delay := delay
  input := input
  usualDelay hnil := by
    rw [Invocation.delayNanoseconds, delay.eq_none hnil]
    decide +kernel
  usualInput hnil := by
    rw [Invocation.inputText, input.eq_none hnil]
    rfl

theorem asks_of_allSay (hnodup : (line.values.map Prod.fst).Nodup)
    (h : AllSay line.values given) : line.Asks (invocation given) := by
  refine asks_of_says (says_findSome? hnodup h ?_ ?_) (says_findSome? hnodup h ?_ ?_)
    (says_findSome? hnodup h ?_ ?_)
  · intro value new hnew
    obtain ⟨text, htext, rfl⟩ := accepts_command_iff.1 hnew
    exact ⟨text, rfl, htext⟩
  · rintro (_ | _ | _) hslot
    · exact absurd rfl hslot
    · rfl
    · rfl
  · intro value new hnew
    obtain ⟨delay, hdelay, rfl⟩ := accepts_delay_iff.1 hnew
    exact ⟨delay, rfl, hdelay⟩
  · rintro (_ | _ | _) hslot
    · rfl
    · exact absurd rfl hslot
    · rfl
  · intro value new hnew
    obtain ⟨text, htext, rfl⟩ := accepts_input_iff.1 hnew
    exact ⟨text, rfl, htext⟩
  · rintro (_ | _ | _) hslot
    · rfl
    · rfl
    · exact absurd rfl hslot

/-- Each slot of a line that asks for something has at most one value, and an accepted one. -/
theorem Asks.exists_says (h : line.Asks asked) (slot : Slot) :
    ∃ said, Says slot.Accepts (valuesIn line.values slot) said := by
  rcases slot with (_ | _) | _
  · exact h.command.exists_of_imp fun _ text htext =>
      ⟨.command text, accepts_command_iff.2 ⟨text, htext, rfl⟩⟩
  · exact h.delay.exists_of_imp fun _ delay hdelay =>
      ⟨.delay delay, accepts_delay_iff.2 ⟨delay, hdelay, rfl⟩⟩
  · exact h.input.exists_of_imp fun _ text htext =>
      ⟨.input text, accepts_input_iff.2 ⟨text, htext, rfl⟩⟩

/-- A line asks for what its values mean when they are all taken. -/
theorem asks_iff :
    line.Asks asked ↔ ∃ given, TakesAll [] line.values given ∧ invocation given = asked := by
  constructor
  · intro h
    obtain ⟨hnodup, given, hsay⟩ := exists_allSay h.exists_says
    exact ⟨given, takesAll_iff.2 ⟨⟨hnodup, List.disjoint_nil_left _⟩, given, hsay, rfl⟩,
      (asks_of_allSay hnodup hsay).unique h⟩
  · rintro ⟨given, htakes, rfl⟩
    obtain ⟨⟨hnodup, -⟩, _, hsay, rfl⟩ := takesAll_iff.1 htakes
    exact asks_of_allSay hnodup hsay

end CommandLine

theorem parse_eq_ok_iff_reads {reader : Reader} {arguments : List Bytes} {asked : Invocation} :
    reader.parse arguments = .ok asked ↔
      ∃ given, reader.Reads [] arguments given ∧ invocation given = asked := by
  rw [Reader.parse]
  cases hresume : reader.resume [] arguments <;> simp [Reader.Reads, hresume, Except.map]

/-- A reader that keeps to the conventions accepts a command line when it spells a line of items of
which each slot has at most one, with a value that is accepted, and then the command line asks for
what these values mean. -/
theorem parse_eq_ok_iff {reader : Reader} (h : reader.Conventional) {arguments : List Bytes}
    {asked : Invocation} :
    reader.parse arguments = .ok asked ↔
      ∃ line : CommandLine, line.spelling = arguments ∧ line.Asks asked := by
  rw [parse_eq_ok_iff_reads]
  constructor
  · rintro ⟨given, hreads, hasked⟩
    obtain ⟨line, rfl⟩ := exists_spelling_of_reads h hreads
    exact ⟨line, rfl, CommandLine.asks_iff.2 ⟨given, (reads_spelling h line).1 hreads, hasked⟩⟩
  · rintro ⟨line, rfl, hasks⟩
    obtain ⟨given, htakes, hasked⟩ := CommandLine.asks_iff.1 hasks
    exact ⟨given, (reads_spelling h line).2 htakes, hasked⟩

/-- What follows the separator is text, also when it looks like the separator itself. -/
theorem parse_eq_ok_iff_text_after_separator :
    (usualReader none).Conventional ∧
      (usualReader none).parse [bytesOf "-c==cat", doubleHyphen, doubleHyphen] =
        .ok ⟨some "=cat", none, some "--"⟩ := by
  have hreader := conventional_usualReader none
  let line : CommandLine := ⟨[.attached .command (bytesOf "==cat") (by decide)], .text doubleHyphen⟩
  have hasks : line.Asks ⟨some "=cat", none, some "--"⟩ :=
    CommandLine.asks_of_says (.one rfl) .nothing (.one rfl)
  exact ⟨hreader, (parse_eq_ok_iff hreader).2 ⟨line, rfl, hasks⟩⟩

end MonitorKeys.Arguments

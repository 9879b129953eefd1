import Mathlib.Logic.Basic
import MonitorKeys.Arguments.Reading
import MonitorKeys.Proofs.Arguments.Word
import MonitorKeys.Proofs.Text.Encode

/-!
# The usual reader keeps to the conventions

`Reading` checks a value late, when the next option or text is reached.  For what is accepted in the
end this makes no difference, and this file shows how a command line is taken when each value is
checked at once.

* `checkOption_eq_ok_iff` and `settle_input_eq_ok_iff` are the checks of one value.
* `Reading.Yields` is a whole reading, and `yields_settled` is the step from late to early checks.
* `yields_plain`, `yields_valued`, `yields_bare` and `yields_escaped` take the first argument of a
  reading in which nothing is pending, and `word_of_yields` says that it is one of these.
* `conventional_usualReader` puts this together, and `text_of_answered` says what the usual reader
  answers with.
-/

namespace MonitorKeys.Arguments

open Text (Bytes)

/-! ## Values -/

theorem any_slot_eq_false_iff {given : List Given} {slot : Slot} :
    given.any (·.slot = slot) = false ↔ slot ∉ given.map Given.slot := by
  simp [List.any_eq_false]

theorem accepts_iff {slot : Slot} {value : Bytes} {new : Given} :
    slot.Accepts value new ↔
      ∃ text, Text.ofBytes? value = some text ∧ slot.accept text = .ok new := by
  simp only [Slot.Accepts, Text.ofBytes?_eq_some_iff]

theorem checkOption_eq_ok_iff {given next : List Given} {choice : Choice} {value : Bytes} :
    checkOption given choice value = .ok next ↔ Takes given (.option choice) value next := by
  rw [Takes, ← any_slot_eq_false_iff]
  simp only [accepts_iff]
  unfold checkOption
  cases given.any (·.slot = .option choice) with
  | true => simp
  | false =>
    cases htext : Text.ofBytes? value with
    | none => simp
    | some text => cases hnew : (Slot.option choice).accept text <;> simp [hnew]

theorem settle_input_eq_ok_iff {given next : List Given} {value : Bytes} :
    settle given (.input value) = .ok next ↔
      ∃ new, Slot.input.Accepts value new ∧ given ++ [new] = next := by
  simp only [settle, accepts_iff]
  cases htext : Text.ofBytes? value <;> simp [Slot.accept]

namespace Reading

variable {reading next : Reading} {given settled result : List Given} {argument value : Bytes}
  {arguments : List Bytes} {choice : Choice} {word : Word}

/-! ## The input text -/

theorem hasInput_nothing : hasInput ⟨given, .nothing⟩ = given.any (·.slot = .input) :=
  Bool.or_false _

/-- Once a pending argument is checked, there is input text where there was some before. -/
theorem hasInput_of_settle (h : settle reading.given reading.pending = .ok settled) :
    hasInput ⟨settled, .nothing⟩ = reading.hasInput := by
  obtain ⟨given, pending⟩ := reading
  rw [hasInput_nothing, hasInput]
  rcases pending with _ | ⟨choice, _ | value⟩ | value
  · cases h
    exact (Bool.or_false _).symm
  · cases h
  · obtain ⟨-, new, hnew, rfl⟩ := checkOption_eq_ok_iff.1 h
    simp [hnew.slot_eq]
  · obtain ⟨new, hnew, rfl⟩ := settle_input_eq_ok_iff.1 h
    simp [hnew.slot_eq]

theorem takeInput_eq_ok_iff :
    reading.takeInput value = .ok next ↔ reading.hasInput = false ∧
      ∃ settled, settle reading.given reading.pending = .ok settled ∧
        ⟨settled, .input value⟩ = next := by
  rw [takeInput]
  cases reading.hasInput with
  | true => simp
  | false => cases settle reading.given reading.pending <;> simp

/-- Input text is taken as if the pending argument had been checked before. -/
theorem takeInput_settled (reading : Reading) :
    reading.takeInput value = .ok next ↔
      ∃ settled, settle reading.given reading.pending = .ok settled ∧
        takeInput ⟨settled, .nothing⟩ value = .ok next := by
  simp only [takeInput_eq_ok_iff, settle]
  constructor
  · rintro ⟨hinput, settled, hsettled, rfl⟩
    exact ⟨settled, hsettled, by rw [hasInput_of_settle hsettled, hinput], settled, rfl, rfl⟩
  · rintro ⟨settled, hsettled, hinput, _, ⟨⟩, rfl⟩
    exact ⟨by rw [← hasInput_of_settle hsettled, hinput], settled, hsettled, rfl⟩

theorem hasInput_of_takeInput (h : reading.takeInput value = .ok next) : next.hasInput = true := by
  obtain ⟨-, settled, -, rfl⟩ := takeInput_eq_ok_iff.1 h
  exact Bool.or_true _

/-! ## Whole readings -/

/-- Reading arguments to their end yields these values. -/
def Yields (reading : Reading) (arguments : List Bytes) (result : List Given) : Prop :=
  ∃ last, reading.read arguments = .ok last ∧ settle last.given last.pending = .ok result

theorem yields_nil :
    reading.Yields [] result ↔ settle reading.given reading.pending = .ok result := by
  simp [Yields, read]

theorem yields_cons (h : Word.ofArgument argument ≠ .separator) :
    reading.Yields (argument :: arguments) result ↔
      ∃ next, reading.step (Word.ofArgument argument) = .ok next ∧
        next.Yields arguments result := by
  simp only [Yields, read, if_neg h]
  cases reading.step (Word.ofArgument argument) <;> simp

/-- After the separator one argument can follow, and it is input text. -/
theorem yields_separator (h : Word.ofArgument argument = .separator) :
    reading.Yields (argument :: arguments) result ↔
      (arguments = [] ∧ reading.Yields [] result) ∨
        ∃ value next, arguments = [value] ∧ reading.takeInput value = .ok next ∧
          next.Yields [] result := by
  simp only [yields_nil]
  simp only [Yields, read, if_pos h]
  rcases arguments with _ | ⟨value, _ | ⟨surplus, arguments⟩⟩
  · simp [readAfter]
  · simp only [readAfter, stepAfter]
    cases htake : reading.takeInput value <;> simp [htake]
  · simp only [readAfter, stepAfter]
    cases htake : reading.takeInput value with
    | error stop => simp
    | ok next => simp [takeInput, hasInput_of_takeInput htake]

end Reading

/-! ## Checks at once -/

/-- An option does not wait for its value. -/
def Pending.IsWhole : Pending → Prop
  | .option _ none => False
  | _ => True

namespace Reading

variable {reading next : Reading} {given settled result : List Given} {argument value : Bytes}
  {arguments : List Bytes} {choice : Choice} {word : Word}

/-- A word is read as if the pending argument had been checked before. -/
theorem step_settled (hwhole : reading.pending.IsWhole) (hword : word ≠ .separator) :
    reading.step word = .ok next ↔
      ∃ settled, settle reading.given reading.pending = .ok settled ∧
        step ⟨settled, .nothing⟩ word = .ok next := by
  cases word with
  | separator => exact absurd rfl hword
  | plain value =>
    have htake : reading.step (.plain value) = reading.takeInput value := by
      obtain ⟨given, pending⟩ := reading
      rcases pending with _ | ⟨choice, _ | value⟩ | value
      · rfl
      · exact absurd hwhole id
      · rfl
      · rfl
    rw [htake]
    exact takeInput_settled reading
  | option choice attached =>
    simp only [step]
    cases settle reading.given reading.pending <;> simp [settle]
  | flag flag attached =>
    simp only [step]
    cases attached
    · cases settle reading.given reading.pending <;> simp [settle]
    · simp
  | unknownLong name => simp [step]
  | unknownShort name => simp [step]

/-- What a reading yields does not depend on when the pending argument is checked. -/
theorem yields_settled (hwhole : reading.pending.IsWhole) :
    reading.Yields arguments result ↔
      ∃ settled, settle reading.given reading.pending = .ok settled ∧
        Yields ⟨settled, .nothing⟩ arguments result := by
  cases arguments with
  | nil => simp [yields_nil, settle]
  | cons argument arguments =>
    by_cases hword : Word.ofArgument argument = .separator
    -- The separator leaves what is pending as it is, so the check comes with what follows it.
    · simp only [yields_separator hword, takeInput_settled reading, yields_nil, settle]
      constructor
      · rintro (⟨rfl, hsettled⟩ | ⟨value, next, rfl, ⟨settled, hsettled, htake⟩, hnext⟩)
        · exact ⟨result, hsettled, Or.inl ⟨rfl, rfl⟩⟩
        · exact ⟨settled, hsettled, Or.inr ⟨value, next, rfl, htake, hnext⟩⟩
      · rintro ⟨settled, hsettled, ⟨rfl, ⟨⟩⟩ | ⟨value, next, rfl, htake, hnext⟩⟩
        · exact Or.inl ⟨rfl, hsettled⟩
        · exact Or.inr ⟨value, next, rfl, ⟨settled, hsettled, htake⟩, hnext⟩
    · simp only [yields_cons hword, step_settled hwhole hword]
      constructor
      · rintro ⟨next, ⟨settled, hsettled, hstep⟩, hnext⟩
        exact ⟨settled, hsettled, next, hstep, hnext⟩
      · rintro ⟨settled, hsettled, next, hstep, hnext⟩
        exact ⟨next, ⟨settled, hsettled, hstep⟩, hnext⟩

/-! ## The first argument -/

/-- Input text is taken at once. -/
theorem takeInput_yields :
    (∃ next, takeInput ⟨given, .nothing⟩ value = .ok next ∧ next.Yields arguments result) ↔
      ∃ next, Takes given .input value next ∧ Yields ⟨next, .nothing⟩ arguments result := by
  have hyields : Yields ⟨given, .input value⟩ arguments result ↔ _ := yields_settled trivial
  simp only [settle_input_eq_ok_iff] at hyields
  simp only [takeInput_eq_ok_iff, hasInput_nothing, any_slot_eq_false_iff, settle, Takes]
  constructor
  · rintro ⟨_, ⟨hfree, _, ⟨⟩, rfl⟩, hnext⟩
    obtain ⟨next, hnew, hrest⟩ := hyields.1 hnext
    exact ⟨next, ⟨hfree, hnew⟩, hrest⟩
  · rintro ⟨next, ⟨hfree, hnew⟩, hrest⟩
    exact ⟨_, ⟨hfree, given, rfl, rfl⟩, hyields.2 ⟨next, hnew, hrest⟩⟩

theorem yields_lone_separator :
    reading.Yields [doubleHyphen] result ↔ reading.Yields [] result := by
  rw [yields_separator rfl]
  simp

/-- After the separator an argument is taken as input text, and there is no second one. -/
theorem yields_escaped :
    Yields ⟨given, .nothing⟩ (doubleHyphen :: value :: arguments) result ↔
      ∃ next, Takes given .input value next ∧
        Yields ⟨next, .nothing⟩ (doubleHyphen :: arguments) result := by
  cases arguments with
  | nil =>
    simp only [yields_lone_separator]
    rw [yields_separator rfl, ← takeInput_yields]
    simp
  | cons surplus arguments =>
    rw [yields_separator rfl]
    constructor
    · rintro (⟨⟨⟩, -⟩ | ⟨_, _, ⟨⟩, -⟩)
    · rintro ⟨_, ⟨-, new, hnew, rfl⟩, hnext⟩
      rw [yields_separator rfl] at hnext
      rcases hnext with ⟨⟨⟩, -⟩ | ⟨second, next, -, htake, -⟩
      have hfree := (takeInput_eq_ok_iff.1 htake).1
      simp [hasInput_nothing, hnew.slot_eq] at hfree

theorem yields_plain (h : Word.ofArgument argument = .plain value) :
    Yields ⟨given, .nothing⟩ (argument :: arguments) result ↔
      ∃ next, Takes given .input value next ∧ Yields ⟨next, .nothing⟩ arguments result := by
  rw [yields_cons (by simp [h]), h]
  exact takeInput_yields

theorem yields_valued (h : Word.ofArgument argument = .option choice (some value)) :
    Yields ⟨given, .nothing⟩ (argument :: arguments) result ↔
      ∃ next, Takes given (.option choice) value next ∧
        Yields ⟨next, .nothing⟩ arguments result := by
  rw [yields_cons (by simp [h]), h]
  simp only [step, settle, ← checkOption_eq_ok_iff]
  cases checkOption given choice value <;> simp

theorem step_waiting (hword : word ≠ .separator) :
    step ⟨given, .option choice none⟩ word = .ok next ↔
      ∃ value, word = .plain value ∧ ⟨given, .option choice (some value)⟩ = next := by
  cases word with
  | separator => exact absurd rfl hword
  | flag flag attached => cases attached <;> simp [step, settle]
  | _ => simp [step, settle]

/-- An option that waits takes the next argument, which has to stand alone. -/
theorem yields_waiting :
    Yields ⟨given, .option choice none⟩ arguments result ↔
      ∃ value rest, arguments = value :: rest ∧ Standalone value ∧
        ∃ next, Takes given (.option choice) value next ∧ Yields ⟨next, .nothing⟩ rest result := by
  cases arguments with
  | nil => simp [yields_nil, settle]
  | cons argument arguments =>
    by_cases hword : Word.ofArgument argument = .separator
    · have hnone : ¬ Standalone argument := by
        intro halone
        rw [Word.ofArgument_of_standalone halone] at hword
        cases hword
      simp [yields_separator hword, yields_nil, settle, takeInput_eq_ok_iff, hnone]
    · simp only [yields_cons hword, step_waiting hword, Word.ofArgument_eq_plain_iff,
        ← checkOption_eq_ok_iff]
      have hwhole : Yields ⟨given, .option choice (some argument)⟩ arguments result ↔ _ :=
        yields_settled trivial
      constructor
      · rintro ⟨_, ⟨value, ⟨rfl, halone⟩, rfl⟩, hnext⟩
        exact ⟨argument, arguments, rfl, halone, hwhole.1 hnext⟩
      · rintro ⟨value, rest, ⟨⟩, halone, hnext⟩
        exact ⟨_, ⟨argument, ⟨rfl, halone⟩, rfl⟩, hwhole.2 hnext⟩

theorem yields_bare (h : Word.ofArgument argument = .option choice none) :
    Yields ⟨given, .nothing⟩ (argument :: arguments) result ↔
      ∃ value rest, arguments = value :: rest ∧ Standalone value ∧
        ∃ next, Takes given (.option choice) value next ∧ Yields ⟨next, .nothing⟩ rest result := by
  rw [yields_cons (by simp [h]), h, ← yields_waiting]
  simp [step, settle]

/-- A flag and an unknown name end the reading. -/
theorem word_of_step (h : reading.step word = .ok next) :
    word = .separator ∨ (∃ value, word = .plain value) ∨
      ∃ choice attached, word = .option choice attached := by
  cases word with
  | separator => exact Or.inl rfl
  | plain value => exact Or.inr (Or.inl ⟨value, rfl⟩)
  | option choice attached => exact Or.inr (Or.inr ⟨choice, attached, rfl⟩)
  | flag flag attached =>
    cases attached with
    | none =>
      simp only [step] at h
      split at h <;> cases h
    | some value => cases h
  | unknownLong name => cases h
  | unknownShort name => cases h

theorem word_of_yields (h : reading.Yields (argument :: arguments) result) :
    Word.ofArgument argument = .separator ∨ (∃ value, Word.ofArgument argument = .plain value) ∨
      ∃ choice attached, Word.ofArgument argument = .option choice attached := by
  by_cases hword : Word.ofArgument argument = .separator
  · exact Or.inl hword
  · obtain ⟨next, hstep, -⟩ := (yields_cons hword).1 h
    exact word_of_step hstep

theorem finish_eq_ok_iff :
    reading.finish arguments = .ok result ↔ reading.Yields arguments result := by
  rw [finish]
  cases hread : reading.read arguments with
  | error halt => simp [Yields, hread]
  | ok last => cases hlast : settle last.given last.pending <;> simp [Yields, hread, hlast]

end Reading

/-! ## Conventions -/

section Conventions

open Reading (Yields)

theorem reads_usualReader_iff (path : Option Bytes) {given result : List Given}
    {arguments : List Bytes} :
    (usualReader path).Reads given arguments result ↔
      Yields ⟨given, .nothing⟩ arguments result := by
  rw [← Reading.finish_eq_ok_iff, Reader.Reads, usualReader]
  cases hfinish : Reading.finish ⟨given, .nothing⟩ arguments <;> simp [hfinish, Except.mapError]

theorem word_of_name {choice : Choice} {name : Bytes}
    (hname : name = choice.short ∨ name = choice.long) :
    Word.ofArgument name = .option choice none :=
  Word.ofArgument_eq_bare_iff.2 hname

theorem word_of_joined (choice : Choice) (value : Bytes) :
    Word.ofArgument (choice.long ++ equals :: value) = .option choice (some value) :=
  Word.ofArgument_eq_valued_iff.2 (Or.inr rfl)

/-- The usual reader keeps to the conventions. -/
theorem conventional_usualReader (path : Option Bytes) : (usualReader path).Conventional where
  nothing := by
    simp [reads_usualReader_iff, Reading.yields_nil, settle]
  joined := by
    intro given result choice value rest
    simp only [reads_usualReader_iff]
    exact Reading.yields_valued (word_of_joined choice value)
  attached := by
    intro given result choice value rest hvalue
    simp only [reads_usualReader_iff]
    rw [Reading.yields_valued (word_of_joined choice _), Reading.yields_valued]
    exact Word.ofArgument_eq_valued_iff.2 (Or.inl ⟨value, hvalue, rfl, rfl⟩)
  separate := by
    intro given result choice name value rest hname alone
    simp only [reads_usualReader_iff]
    rw [Reading.yields_valued (word_of_joined choice _), Reading.yields_bare (word_of_name hname)]
    constructor
    · rintro ⟨_, _, ⟨⟩, -, hnext⟩
      exact hnext
    · intro hnext
      exact ⟨value, rest, rfl, alone, hnext⟩
  missing := by
    intro given result choice name rest hname hvalue
    simp only [reads_usualReader_iff]
    rw [Reading.yields_bare (word_of_name hname)]
    rintro ⟨value, others, rfl, alone, -⟩
    exact hvalue value rfl alone
  positional := by
    intro given result value rest alone
    simp only [reads_usualReader_iff]
    exact Reading.yields_plain (Word.ofArgument_of_standalone alone)
  separator := by
    intro given result
    simp only [reads_usualReader_iff]
    exact Reading.yields_lone_separator
  escaped := by
    intro given result value rest
    simp only [reads_usualReader_iff]
    exact Reading.yields_escaped
  unknown := by
    intro given result argument rest halone hseparator hbegins
    simp only [reads_usualReader_iff]
    intro h
    rcases Reading.word_of_yields h with hword | ⟨value, hword⟩ | ⟨choice, attached, hword⟩
    · exact hseparator (Word.ofArgument_eq_separator_iff.1 hword)
    · obtain ⟨rfl, hvalue⟩ := Word.ofArgument_eq_plain_iff.1 hword
      exact halone hvalue
    · exact hbegins choice (Word.begins_of_ofArgument hword)

end Conventions

/-- The usual reader answers with the help text or the version, and with nothing else. -/
theorem text_of_answered {path : Option Bytes} {arguments : List Bytes} {text : String}
    (h : (usualReader path).parse arguments = .error (.answered text)) :
    text = helpText (programName path) ∨ text = versionText := by
  rw [Reader.parse, usualReader] at h
  cases hfinish : Reading.finish ⟨[], .nothing⟩ arguments with
  | ok given => simp [hfinish, Except.mapError, Except.map] at h
  | error halt =>
    simp only [hfinish, Except.mapError, Except.map, Except.error.injEq] at h
    cases halt with
    | help => exact Or.inl (Stop.answered.inj h).symm
    | version => exact Or.inr (Stop.answered.inj h).symm
    | usage error => cases h

end MonitorKeys.Arguments

import MonitorKeys.Arguments

/-!
# The conventions of command lines

How a command line is taken apart is up to its `Reader`, and this file says what a reader is relied
on for.  The conventions are the common ones: an option has a short and a long name, its value
follows either name, and the separator `--` ends the options.

* `Standalone` are the arguments that can be a value or the input text by themselves.
* `Takes` is one accepted value: its slot is free, and it is a text that the slot accepts.
* `Reader.Conventional` has one field for each convention.  A field is about the arguments in front
  only, and it leaves the rest to the reader.
-/

namespace MonitorKeys.Arguments

open Text (Bytes bytesOf)

/-! ## Arguments -/

/-- The separator. -/
def doubleHyphen : Bytes :=
  bytesOf "--"

/-- An argument that does not begin with a hyphen, or is one hyphen. -/
def Standalone (argument : Bytes) : Prop :=
  argument.head? ≠ some hyphen ∨ argument = [hyphen]

/-- The value in what follows the short name of an option: one equals sign in front is no part
of it. -/
def unequalled : Bytes → Bytes
  | [] => []
  | b :: rest => if b = equals then rest else b :: rest

/-- An argument that has an option's name in front: one that is a name, or begins with a short
name, or begins with a long name and an equals sign. -/
def Choice.Begins (choice : Choice) (argument : Bytes) : Prop :=
  choice.short <+: argument ∨ argument = choice.long ∨ choice.long ++ [equals] <+: argument

/-! ## Values -/

/-- A value is the bytes of a text that is accepted for the slot. -/
def Slot.Accepts (slot : Slot) (value : Bytes) (new : Given) : Prop :=
  ∃ text, value = bytesOf text ∧ slot.accept text = .ok new

theorem Slot.Accepts.slot_eq {slot : Slot} {value : Bytes} {new : Given}
    (h : slot.Accepts value new) : new.slot = slot := by
  obtain ⟨text, -, hnew⟩ := h
  rcases slot with (_ | _) | _
  · cases hnew
    rfl
  · simp only [Slot.accept] at hnew
    cases hdelay : Delay.parse text with
    | error reason =>
      rw [hdelay] at hnew
      cases hnew
    | ok delay =>
      rw [hdelay] at hnew
      cases hnew
      rfl
  · cases hnew
    rfl

/-- A value is accepted for a slot that was free, and so what is given becomes `next`. -/
def Takes (given : List Given) (slot : Slot) (value : Bytes) (next : List Given) : Prop :=
  slot ∉ given.map Given.slot ∧ ∃ new, slot.Accepts value new ∧ given ++ [new] = next

/-! ## Readers -/

/-- After some values the arguments are accepted, and then these are all values. -/
def Reader.Reads (reader : Reader) (given : List Given) (arguments : List Bytes)
    (result : List Given) : Prop :=
  reader.resume given arguments = .ok result

/-- What a reader is relied on for. -/
structure Reader.Conventional (reader : Reader) : Prop where
  /-- Where there are no arguments nothing changes. -/
  nothing {given result : List Given} : reader.Reads given [] result ↔ given = result
  /-- A value can stand behind the long name of an option and an equals sign. -/
  joined {given result : List Given} {choice : Choice} {value : Bytes} {rest : List Bytes} :
    reader.Reads given ((choice.long ++ equals :: value) :: rest) result ↔
      ∃ next, Takes given (.option choice) value next ∧ reader.Reads next rest result
  /-- It can stand right behind the short name, also with one equals sign between them. -/
  attached {given result : List Given} {choice : Choice} {value : Bytes} {rest : List Bytes} :
    value ≠ [] →
      (reader.Reads given ((choice.short ++ value) :: rest) result ↔
        reader.Reads given ((choice.long ++ equals :: unequalled value) :: rest) result)
  /-- It can be the argument after either name, unless it begins like an option. -/
  separate {given result : List Given} {choice : Choice} {name value : Bytes}
    {rest : List Bytes} :
    name = choice.short ∨ name = choice.long → Standalone value →
      (reader.Reads given (name :: value :: rest) result ↔
        reader.Reads given ((choice.long ++ equals :: value) :: rest) result)
  /-- A name without a value is not accepted. -/
  missing {given result : List Given} {choice : Choice} {name : Bytes} {rest : List Bytes} :
    name = choice.short ∨ name = choice.long → (∀ value ∈ rest.head?, ¬ Standalone value) →
      ¬ reader.Reads given (name :: rest) result
  /-- An argument by itself is input text. -/
  positional {given result : List Given} {value : Bytes} {rest : List Bytes} :
    Standalone value →
      (reader.Reads given (value :: rest) result ↔
        ∃ next, Takes given .input value next ∧ reader.Reads next rest result)
  /-- The separator has no meaning at the end. -/
  separator {given result : List Given} :
    reader.Reads given [doubleHyphen] result ↔ reader.Reads given [] result
  /-- Each argument after the separator is input text, whatever it looks like. -/
  escaped {given result : List Given} {value : Bytes} {rest : List Bytes} :
    reader.Reads given (doubleHyphen :: value :: rest) result ↔
      ∃ next, Takes given .input value next ∧ reader.Reads next (doubleHyphen :: rest) result
  /-- Nothing else that begins with a hyphen is accepted, and so names are not shortened. -/
  unknown {given result : List Given} {argument : Bytes} {rest : List Bytes} :
    ¬ Standalone argument → argument ≠ doubleHyphen →
      (∀ choice : Choice, ¬ choice.Begins argument) → ¬ reader.Reads given (argument :: rest) result

end MonitorKeys.Arguments

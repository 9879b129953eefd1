import Mathlib.Data.List.Basic
import Mathlib.Tactic.Push
import MonitorKeys.Proofs.Arguments.Conventions

/-!
# Command lines as terms

A command line is items, and maybe a separator with at most one argument behind it.  `CommandLine`
is such a line as a term, so that one that is not well formed cannot be written down, and
`CommandLine.spelling` are its arguments.  A reader that keeps to the conventions accepts nothing
else, and takes the values of a line one after another.

* `reads_item` and `reads_ending` read the spelling of an item and of what follows the items, and
  `reads_spelling` that of a line.
* `ending_or_item_of_reads` finds an item in front of arguments that are accepted, and
  `exists_spelling_of_reads` the whole line.
-/

namespace MonitorKeys.Arguments

open Text (Bytes)

/-! ## Lines -/

/-- An option with its value, or input text, before the separator. -/
inductive Item where
  /-- The name of an option, and its value as an argument of its own. -/
  | separate (choice : Choice) (long : Bool) (value : Bytes) (alone : Standalone value)
  /-- The short name of an option with something right behind it. -/
  | attached (choice : Choice) (rest : Bytes) (nonempty : rest ≠ [])
  /-- The long name of an option, an equals sign, and the value. -/
  | joined (choice : Choice) (value : Bytes)
  /-- The input text. -/
  | input (value : Bytes) (alone : Standalone value)

/-- How the items of a line end. -/
inductive Ending where
  /-- There is no separator. -/
  | bare
  /-- Nothing follows the separator. -/
  | separator
  /-- One argument follows the separator, and it is input text whatever it looks like. -/
  | text (value : Bytes)

/-- A command line. -/
structure CommandLine where
  items : List Item
  ending : Ending

namespace Item

/-- The arguments of an item. -/
def spelling : Item → List Bytes
  | separate choice long value _ => [if long then choice.long else choice.short, value]
  | attached choice rest _ => [choice.short ++ rest]
  | joined choice value => [choice.long ++ equals :: value]
  | input value _ => [value]

theorem spelling_ne_nil (item : Item) : item.spelling ≠ [] := by
  cases item <;> exact List.cons_ne_nil _ _

/-- What the value of an item is for. -/
def slot : Item → Slot
  | separate choice _ _ _ => .option choice
  | attached choice _ _ => .option choice
  | joined choice _ => .option choice
  | input _ _ => .input

/-- The value of an item. -/
def value : Item → Bytes
  | separate _ _ value _ => value
  | attached _ rest _ => unequalled rest
  | joined _ value => value
  | input value _ => value

end Item

namespace Ending

/-- The arguments from the separator on. -/
def spelling : Ending → List Bytes
  | bare => []
  | separator => [doubleHyphen]
  | text value => [doubleHyphen, value]

/-- The value behind the separator. -/
def values : Ending → List (Slot × Bytes)
  | bare => []
  | separator => []
  | text value => [(.input, value)]

end Ending

namespace CommandLine

/-- The arguments of a line. -/
def spelling (line : CommandLine) : List Bytes :=
  line.items.flatMap Item.spelling ++ line.ending.spelling

/-- The values of a line, each with what it is for. -/
def values (line : CommandLine) : List (Slot × Bytes) :=
  line.items.map (fun item => (item.slot, item.value)) ++ line.ending.values

end CommandLine

/-! ## Reading the spelling of a line -/

/-- Values are taken one after another. -/
inductive TakesAll : List Given → List (Slot × Bytes) → List Given → Prop where
  | nil {given} : TakesAll given [] given
  | cons {given slot value next values result} (first : Takes given slot value next)
      (others : TakesAll next values result) : TakesAll given ((slot, value) :: values) result

theorem takesAll_nil_iff {given result : List Given} :
    TakesAll given [] result ↔ given = result := by
  constructor
  · rintro ⟨⟩
    rfl
  · rintro rfl
    exact .nil

theorem takesAll_cons_iff {given result : List Given} {slot : Slot} {value : Bytes}
    {values : List (Slot × Bytes)} :
    TakesAll given ((slot, value) :: values) result ↔
      ∃ next, Takes given slot value next ∧ TakesAll next values result := by
  constructor
  · rintro (_ | ⟨first, others⟩)
    exact ⟨_, first, others⟩
  · rintro ⟨next, first, others⟩
    exact .cons first others

section Reader

variable {reader : Reader} (h : reader.Conventional) {given result : List Given}
  {arguments : List Bytes}

include h

theorem reads_item (item : Item) :
    reader.Reads given (item.spelling ++ arguments) result ↔
      ∃ next, Takes given item.slot item.value next ∧ reader.Reads next arguments result := by
  cases item with
  | separate choice long value alone =>
    refine (h.separate ?_ alone).trans h.joined
    cases long
    · exact Or.inl rfl
    · exact Or.inr rfl
  | attached choice rest nonempty => exact (h.attached nonempty).trans h.joined
  | joined choice value => exact h.joined
  | input value alone => exact h.positional alone

theorem reads_separator : reader.Reads given [doubleHyphen] result ↔ given = result :=
  h.separator.trans h.nothing

theorem reads_ending (ending : Ending) :
    reader.Reads given ending.spelling result ↔ TakesAll given ending.values result := by
  cases ending with
  | bare => exact h.nothing.trans takesAll_nil_iff.symm
  | separator => exact (reads_separator h).trans takesAll_nil_iff.symm
  | text value =>
    rw [Ending.spelling, Ending.values, h.escaped, takesAll_cons_iff]
    simp only [reads_separator h, takesAll_nil_iff]

/-- Reading the spelling of a line takes the values of the line. -/
theorem reads_spelling (line : CommandLine) :
    reader.Reads given line.spelling result ↔ TakesAll given line.values result := by
  obtain ⟨items, ending⟩ := line
  simp only [CommandLine.spelling, CommandLine.values]
  induction items generalizing given with
  | nil => exact reads_ending h ending
  | cons item items ih =>
    rw [List.flatMap_cons, List.append_assoc, reads_item h, List.map_cons, List.cons_append,
      takesAll_cons_iff]
    simp only [ih]

/-- At most one argument is accepted after the separator, because it is input text. -/
theorem ending_of_reads (hreads : reader.Reads given (doubleHyphen :: arguments) result) :
    ∃ ending : Ending, ending.spelling = doubleHyphen :: arguments := by
  rcases arguments with _ | ⟨value, _ | ⟨surplus, arguments⟩⟩
  · exact ⟨.separator, rfl⟩
  · exact ⟨.text value, rfl⟩
  · obtain ⟨next, ⟨-, new, hnew, rfl⟩, hnext⟩ := h.escaped.1 hreads
    obtain ⟨-, ⟨hfree, -⟩, -⟩ := h.escaped.1 hnext
    refine absurd (List.mem_map.2 ⟨new, ?_, hnew.slot_eq⟩) hfree
    exact List.mem_append_right given (List.mem_singleton.2 rfl)

/-- A name is followed by its value. -/
theorem item_of_reads_name {choice : Choice} {name : Bytes}
    (hname : name = choice.short ∨ name = choice.long)
    (hreads : reader.Reads given (name :: arguments) result) :
    ∃ (item : Item) (rest : List Bytes), item.spelling ++ rest = name :: arguments := by
  by_cases hvalue : ∀ value ∈ arguments.head?, ¬ Standalone value
  · exact absurd hreads (h.missing hname hvalue)
  · push Not at hvalue
    obtain ⟨value, hhead, alone⟩ := hvalue
    obtain ⟨rest, rfl⟩ := List.head?_eq_some_iff.1 hhead
    rcases hname with rfl | rfl
    · exact ⟨.separate choice false value alone, rest, rfl⟩
    · exact ⟨.separate choice true value alone, rest, rfl⟩

theorem item_of_reads_option {choice : Choice} {argument : Bytes} (hbegins : choice.Begins argument)
    (hreads : reader.Reads given (argument :: arguments) result) :
    ∃ (item : Item) (rest : List Bytes), item.spelling ++ rest = argument :: arguments := by
  rcases hbegins with ⟨value, rfl⟩ | rfl | ⟨value, rfl⟩
  · by_cases hvalue : value = []
    · subst hvalue
      rw [List.append_nil] at hreads ⊢
      exact item_of_reads_name h (Or.inl rfl) hreads
    · exact ⟨.attached choice value hvalue, arguments, rfl⟩
  · exact item_of_reads_name h (Or.inr rfl) hreads
  · exact ⟨.joined choice value, arguments, by simp [Item.spelling]⟩

/-- Arguments that are accepted are an ending, or begin with an item. -/
theorem ending_or_item_of_reads (hreads : reader.Reads given arguments result) :
    (∃ ending : Ending, ending.spelling = arguments) ∨
      ∃ (item : Item) (rest : List Bytes), item.spelling ++ rest = arguments := by
  rcases arguments with _ | ⟨argument, arguments⟩
  · exact Or.inl ⟨.bare, rfl⟩
  by_cases halone : Standalone argument
  · exact Or.inr ⟨.input argument halone, arguments, rfl⟩
  by_cases hseparator : argument = doubleHyphen
  · subst hseparator
    exact Or.inl (ending_of_reads h hreads)
  by_cases hbegins : ∃ choice : Choice, choice.Begins argument
  · obtain ⟨choice, hchoice⟩ := hbegins
    exact Or.inr (item_of_reads_option h hchoice hreads)
  · exact absurd hreads (h.unknown halone hseparator (not_exists.1 hbegins))

/-- Arguments that are accepted spell a line. -/
theorem exists_spelling_of_reads (hreads : reader.Reads given arguments result) :
    ∃ line : CommandLine, line.spelling = arguments := by
  -- Induction on the number of arguments, because an item can be two of them.
  induction hn : arguments.length using Nat.strongRecOn generalizing given arguments with
  | ind n ih =>
    obtain ⟨ending, rfl⟩ | ⟨item, rest, rfl⟩ := ending_or_item_of_reads h hreads
    · exact ⟨⟨[], ending⟩, rfl⟩
    · obtain ⟨next, -, hrest⟩ := (reads_item h item).1 hreads
      have hlt : rest.length < n := by
        have := List.length_pos_of_ne_nil item.spelling_ne_nil
        rw [List.length_append] at hn
        omega
      obtain ⟨⟨items, ending⟩, rfl⟩ := ih _ hlt hrest rfl
      exact ⟨⟨item :: items, ending⟩, List.append_assoc _ _ _⟩

end Reader

end MonitorKeys.Arguments

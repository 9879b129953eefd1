import Mathlib.Algebra.Order.Field.Power
import Mathlib.Data.List.TakeWhile
import Mathlib.Data.Nat.Digits.Defs
import Mathlib.Tactic.FieldSimp
import Mathlib.Tactic.Positivity
import Mathlib.Tactic.Ring
import MonitorKeys.Delay.Numeral
import MonitorKeys.Power

/-!
# The grammar of numerals

`Numeral.Writes` says which texts are numerals and what each of them stands for: a sign, and then
digits with a point and an exponent, whose exact size is a rational number, or one of the words for
infinity and for what is not a number.

* `number_append` is the positional value of digits, and `digitsValue_eq` says that reading digits
  from the left gives it.
* `takeWhile_digits` and `dropWhile_digits` cut a text after its digits.
* `writesSign_splitSign`, `readExponent?_eq_some_iff`, `writesSize_of_readDecimal?` and
  `readDecimal?_of_writesSize` are about the readers of the parts.
* `writes_of_read?` and `read?_of_writes` say that the reader accepts all numerals and nothing
  else, and reads each of them as what it stands for.
-/

namespace MonitorKeys

/-- The exact size of a decimal number, its sign left out. -/
def Decimal.size (value : Decimal) : Rat :=
  value.digits * 10 ^ value.exponent

namespace Numeral

/-- What a numeral stands for. -/
inductive Meaning where
  /-- A decimal number by its sign and its exact size. -/
  | decimal (negative : Bool) (size : Rat)
  | infinity (negative : Bool)
  | nan

/-- What has been read of a numeral, as what it stands for. -/
def meaning : Numeral → Meaning
  | .decimal value => .decimal value.negative value.size
  | .infinity negative => .infinity negative
  | .nan => .nan

/-! ## The grammar -/

/-- The sign of a number: a minus sign for a negative one, and a plus sign or nothing for any
other. -/
inductive WritesSign : Bool → List Char → Prop where
  | missing : WritesSign false []
  | plus : WritesSign false ['+']
  | minus : WritesSign true ['-']

/-- All characters are ASCII digits. -/
def AllDigits (ds : List Char) : Prop :=
  ∀ d ∈ ds, d.isDigit = true

/-- The number that digits write, the last one being that of the units. -/
def number (ds : List Char) : Nat :=
  Nat.ofDigits 10 (ds.reverse.map fun d => d.toNat - '0'.toNat)

/-- The exponent at the end of a number, zero where there is none. -/
inductive WritesExponent : Int → List Char → Prop where
  | missing : WritesExponent 0 []
  | given {mark : Char} {negative : Bool} {sign ds : List Char} (hmark : mark = 'e' ∨ mark = 'E')
      (hsign : WritesSign negative sign) (hds : AllDigits ds) (hne : ds ≠ []) :
      WritesExponent (if negative then -(number ds : Int) else number ds) (mark :: (sign ++ ds))

/-- A number of this exact size, without a sign. -/
inductive WritesSize : Rat → List Char → Prop where
  | whole {e : Int} {ds rest : List Char} (hds : AllDigits ds) (hne : ds ≠ [])
      (hrest : WritesExponent e rest) :
      WritesSize (number ds * 10 ^ e) (ds ++ rest)
  | pointed {e : Int} {ds fraction rest : List Char} (hds : AllDigits ds)
      (hfraction : AllDigits fraction) (hne : ds ++ fraction ≠ [])
      (hrest : WritesExponent e rest) :
      WritesSize ((number ds + number fraction / 10 ^ fraction.length) * 10 ^ e)
        (ds ++ '.' :: (fraction ++ rest))

/-- A numeral. -/
inductive Writes : Meaning → List Char → Prop where
  | decimal {negative : Bool} {size : Rat} {sign body : List Char}
      (hsign : WritesSign negative sign) (hbody : WritesSize size body) :
      Writes (.decimal negative size) (sign ++ body)
  | infinity {negative : Bool} {sign word : List Char} (hsign : WritesSign negative sign)
      (hword : word.map Char.toLower = ['i', 'n', 'f'] ∨
        word.map Char.toLower = ['i', 'n', 'f', 'i', 'n', 'i', 't', 'y']) :
      Writes (.infinity negative) (sign ++ word)
  | nan {negative : Bool} {sign word : List Char} (hsign : WritesSign negative sign)
      (hword : word.map Char.toLower = ['n', 'a', 'n']) :
      Writes .nan (sign ++ word)

/-! ## Digits -/

theorem number_append (a b : List Char) :
    number (a ++ b) = number a * 10 ^ b.length + number b := by
  rw [number, List.reverse_append, List.map_append, Nat.ofDigits_append, List.length_map,
    List.length_reverse, Nat.add_comm, Nat.mul_comm]
  rfl

/-- Digits read from the left make up the number that they write. -/
theorem digitsValue_eq (ds : List Char) : digitsValue ds = number ds := by
  induction ds using List.reverseRecOn with
  | nil => rfl
  | append_singleton ds d ih =>
    have hlast : number [d] = d.toNat - '0'.toNat := Nat.ofDigits_singleton
    rw [digitsValue, List.foldl_append, ← digitsValue, ih, number_append, hlast]
    simp [Nat.mul_comm]

section Cut

variable {ds rest : List Char}

theorem takeWhile_digits (hds : AllDigits ds)
    (hrest : ∀ c, rest.head? = some c → c.isDigit = false) :
    (ds ++ rest).takeWhile Char.isDigit = ds := by
  rw [List.takeWhile_append_of_pos hds]
  cases rest with
  | nil => simp
  | cons c cs => rw [List.takeWhile_cons_of_neg (by simp [hrest c rfl]), List.append_nil]

theorem dropWhile_digits (hds : AllDigits ds)
    (hrest : ∀ c, rest.head? = some c → c.isDigit = false) :
    (ds ++ rest).dropWhile Char.isDigit = rest := by
  rw [List.dropWhile_append_of_pos hds]
  cases rest with
  | nil => rfl
  | cons c cs => exact List.dropWhile_cons_of_neg (by simp [hrest c rfl])

theorem allDigits_takeWhile (cs : List Char) : AllDigits (cs.takeWhile Char.isDigit) :=
  fun _ hd => List.mem_takeWhile_imp hd

end Cut

/-! ## Signs and exponents -/

/-- A text is the sign in front of it and the rest. -/
theorem writesSign_splitSign (cs : List Char) :
    ∃ sign, WritesSign (splitSign cs).1 sign ∧ cs = sign ++ (splitSign cs).2 := by
  cases cs with
  | nil => exact ⟨[], .missing, rfl⟩
  | cons c cs =>
    by_cases hminus : c = '-'
    · rw [splitSign, if_pos hminus]
      exact ⟨['-'], .minus, by rw [hminus]; rfl⟩
    by_cases hplus : c = '+'
    · rw [splitSign, if_neg hminus, if_pos hplus]
      exact ⟨['+'], .plus, by rw [hplus]; rfl⟩
    · rw [splitSign, if_neg hminus, if_neg hplus]
      exact ⟨[], .missing, rfl⟩

/-- The sign is found where no other sign follows it. -/
theorem splitSign_append {negative : Bool} {sign body : List Char}
    (hsign : WritesSign negative sign)
    (hbody : ∀ c, body.head? = some c → c ≠ '-' ∧ c ≠ '+') :
    splitSign (sign ++ body) = (negative, body) := by
  cases hsign with
  | missing =>
    cases body with
    | nil => rfl
    | cons c cs =>
      obtain ⟨hminus, hplus⟩ := hbody c rfl
      rw [List.nil_append, splitSign, if_neg hminus, if_neg hplus]
  | plus => rfl
  | minus => rfl

theorem ne_sign_of_isDigit {c : Char} (h : c.isDigit = true) : c ≠ '-' ∧ c ≠ '+' := by
  constructor
  · rintro rfl
    exact absurd h (by decide)
  · rintro rfl
    exact absurd h (by decide)

theorem head_isDigit {ds rest : List Char} (hds : AllDigits ds) (hne : ds ≠ []) (c : Char)
    (hc : (ds ++ rest).head? = some c) : c.isDigit = true := by
  cases ds with
  | nil => exact absurd rfl hne
  | cons d ds =>
    rw [List.cons_append, List.head?_cons, Option.some.injEq] at hc
    exact hds c (by simp [hc])

theorem readExponent?_eq_some_iff {cs : List Char} {e : Int} :
    readExponent? cs = some e ↔ WritesExponent e cs := by
  constructor
  · intro h
    cases cs with
    | nil =>
      rw [readExponent?, Option.some.injEq] at h
      rw [← h]
      exact .missing
    | cons mark cs =>
      obtain ⟨sign, hsign, hcs⟩ := writesSign_splitSign cs
      simp only [readExponent?, Option.ite_none_right_eq_some, Option.some.injEq] at h
      obtain ⟨⟨hmark, hne, hds⟩, rfl⟩ := h
      rw [digitsValue_eq]
      conv => arg 2; rw [hcs]
      exact .given hmark hsign (List.all_eq_true.1 hds) hne
  · rintro (_ | ⟨hmark, hsign, hds, hne⟩)
    · rfl
    · rename_i mark negative sign ds
      have hsplit : splitSign (sign ++ ds) = (negative, ds) := by
        refine splitSign_append hsign fun c hc => ?_
        refine ne_sign_of_isDigit (@head_isDigit ds [] hds hne c ?_)
        rwa [List.append_nil]
      have hcond : (mark = 'e' ∨ mark = 'E') ∧ ds ≠ [] ∧ ds.all Char.isDigit = true :=
        ⟨hmark, hne, List.all_eq_true.2 hds⟩
      simp only [readExponent?, hsplit]
      rw [if_pos hcond, digitsValue_eq]

/-- What follows the digits of a number is neither a digit nor a point. -/
theorem head_of_writesExponent {e : Int} {rest : List Char} (h : WritesExponent e rest) (c : Char)
    (hc : rest.head? = some c) : c.isDigit = false ∧ c ≠ '.' := by
  cases h with
  | missing => cases hc
  | given hmark hsign hds hne =>
    rw [List.head?_cons, Option.some.injEq] at hc
    subst hc
    rcases hmark with rfl | rfl <;> decide

/-! ## Decimal numbers -/

/-- The exact size of digits with some of them behind the point. -/
theorem size_mk (negative : Bool) (ds fraction : List Char) (e : Int) :
    (Decimal.mk negative (number (ds ++ fraction)) (e - fraction.length)).size =
      (number ds + number fraction / 10 ^ fraction.length) * 10 ^ e := by
  have hten : (10 : Rat) ^ fraction.length ≠ 0 := by positivity
  rw [Decimal.size, number_append, zpow_sub₀ (by norm_num), zpow_natCast]
  push_cast
  field_simp

theorem size_whole (negative : Bool) (ds : List Char) (e : Int) :
    (Decimal.mk negative (number ds) (e - (List.length ([] : List Char)))).size =
      number ds * 10 ^ e := by
  rw [Decimal.size, List.length_nil, Nat.cast_zero, sub_zero]

theorem splitFraction_of_head_ne {cs : List Char} (h : ∀ c, cs.head? = some c → c ≠ '.') :
    splitFraction cs = ([], cs) := by
  cases cs with
  | nil => rfl
  | cons c cs => rw [splitFraction, if_neg (h c rfl)]

/-- After the digits there is either a point with the digits of the fraction, or no fraction. -/
theorem splitFraction_cases (tail : List Char) :
    (∃ fraction rest, splitFraction tail = (fraction, rest) ∧ AllDigits fraction ∧
        tail = '.' :: (fraction ++ rest)) ∨
      splitFraction tail = ([], tail) := by
  cases tail with
  | nil => exact Or.inr rfl
  | cons c cs =>
    by_cases hpoint : c = '.'
    · refine Or.inl ⟨cs.takeWhile Char.isDigit, cs.dropWhile Char.isDigit, ?_,
        allDigits_takeWhile cs, ?_⟩
      · rw [splitFraction, if_pos hpoint]
      · rw [List.takeWhile_append_dropWhile, hpoint]
    · exact Or.inr (by rw [splitFraction, if_neg hpoint])

/-- A decimal that is read is written by its text. -/
theorem writesSize_of_readDecimal? {negative : Bool} {cs : List Char} {value : Decimal}
    (h : readDecimal? negative cs = some value) :
    value.negative = negative ∧ WritesSize value.size cs := by
  have hds := allDigits_takeWhile cs
  have hcs := List.takeWhile_append_dropWhile (p := Char.isDigit) (l := cs)
  generalize htake : cs.takeWhile Char.isDigit = ds at hds hcs
  generalize hdrop : cs.dropWhile Char.isDigit = tail at hcs
  rcases splitFraction_cases tail with ⟨fraction, rest, hsplit, hfraction, htail⟩ | hsplit
  · simp only [readDecimal?, htake, hdrop, hsplit, Option.ite_none_left_eq_some,
      Option.map_eq_some_iff] at h
    obtain ⟨hne, e, hexponent, rfl⟩ := h
    have hpointed := WritesSize.pointed hds hfraction hne (readExponent?_eq_some_iff.1 hexponent)
    refine ⟨rfl, ?_⟩
    rw [digitsValue_eq, size_mk, ← hcs, htail]
    exact hpointed
  · simp only [readDecimal?, htake, hdrop, hsplit, Option.ite_none_left_eq_some,
      Option.map_eq_some_iff, List.append_nil] at h
    obtain ⟨hne, e, hexponent, rfl⟩ := h
    have hwhole := WritesSize.whole hds hne (readExponent?_eq_some_iff.1 hexponent)
    refine ⟨rfl, ?_⟩
    rw [digitsValue_eq, size_whole, ← hcs]
    exact hwhole

/-- A number that is written is read, with its exact size. -/
theorem readDecimal?_of_writesSize {size : Rat} {cs : List Char} (h : WritesSize size cs)
    (negative : Bool) :
    ∃ value, readDecimal? negative cs = some value ∧ value.negative = negative ∧
      value.size = size := by
  cases h with
  | @whole e ds rest hds hne hrest =>
    have hhead := head_of_writesExponent hrest
    have htake := takeWhile_digits hds fun c hc => (hhead c hc).1
    have hdrop := dropWhile_digits hds fun c hc => (hhead c hc).1
    have hfraction := splitFraction_of_head_ne fun c hc => (hhead c hc).2
    refine ⟨_, ?_, rfl, size_whole negative ds e⟩
    simp only [readDecimal?, htake, hdrop, hfraction, List.append_nil]
    rw [if_neg hne, readExponent?_eq_some_iff.2 hrest, digitsValue_eq]
    rfl
  | @pointed e ds fraction rest hds hfraction hne hrest =>
    have hhead := head_of_writesExponent hrest
    have hpoint : ∀ c, ('.' :: (fraction ++ rest)).head? = some c → c.isDigit = false := by
      rintro c ⟨⟩
      decide
    have hsplit : splitFraction ('.' :: (fraction ++ rest)) = (fraction, rest) := by
      rw [splitFraction, if_pos rfl, takeWhile_digits hfraction fun c hc => (hhead c hc).1,
        dropWhile_digits hfraction fun c hc => (hhead c hc).1]
    refine ⟨_, ?_, rfl, size_mk negative ds fraction e⟩
    simp only [readDecimal?, takeWhile_digits hds hpoint, dropWhile_digits hds hpoint, hsplit]
    rw [if_neg hne, readExponent?_eq_some_iff.2 hrest, digitsValue_eq]
    rfl

theorem size_nonneg_of_writesSize {size : Rat} {body : List Char} (h : WritesSize size body) :
    0 ≤ size := by
  cases h with
  | whole hds hne hrest => positivity
  | pointed hds hfraction hne hrest => positivity

/-! ## Numerals -/

/-- A number begins with a digit or with the point. -/
theorem head_of_writesSize {size : Rat} {body : List Char} (h : WritesSize size body) (c : Char)
    (hc : body.head? = some c) : c.isDigit = true ∨ c = '.' := by
  cases h with
  | whole hds hne hrest => exact Or.inl (head_isDigit hds hne c hc)
  | @pointed e ds fraction rest hds hfraction hne hrest =>
    cases ds with
    | nil =>
      rw [List.nil_append, List.head?_cons, Option.some.injEq] at hc
      exact Or.inr hc.symm
    | cons d ds => exact Or.inl (head_isDigit hds (by simp) c hc)

theorem toLower_of_isDigit {c : Char} (h : c.isDigit = true) : c.toLower = c := by
  simp only [Char.isDigit, Bool.and_eq_true, decide_eq_true_eq] at h
  refine dif_neg ?_
  rintro ⟨hupper, -⟩
  exact absurd (UInt32.le_trans hupper h.2) (by decide)

/-- No number is a word. -/
theorem map_toLower_ne_of_writesSize {size : Rat} {body : List Char} (h : WritesSize size body)
    {c : Char} (hc : c = 'i' ∨ c = 'n') (word : List Char) :
    body.map Char.toLower ≠ c :: word := by
  intro heq
  cases body with
  | nil => cases heq
  | cons d body =>
    rw [List.map_cons, List.cons.injEq] at heq
    have hd : d = c := by
      rcases head_of_writesSize h d rfl with hdigit | rfl
      · rw [← heq.1, toLower_of_isDigit hdigit]
      · exact heq.1
    subst hd
    rcases hc with rfl | rfl
    · exact absurd (head_of_writesSize h 'i' rfl) (by decide)
    · exact absurd (head_of_writesSize h 'n' rfl) (by decide)

/-- No word begins with a sign. -/
theorem ne_sign_of_map_toLower {body word : List Char} {c : Char} (hc : c = 'i' ∨ c = 'n')
    (hword : body.map Char.toLower = c :: word) (d : Char) (hd : body.head? = some d) :
    d ≠ '-' ∧ d ≠ '+' := by
  cases body with
  | nil => cases hd
  | cons b body =>
    rw [List.head?_cons, Option.some.injEq] at hd
    rw [List.map_cons, List.cons.injEq, hd] at hword
    rw [← hword.1] at hc
    constructor
    · rintro rfl
      exact absurd hc (by decide)
    · rintro rfl
      exact absurd hc (by decide)

theorem size_nonneg_of_writes {negative : Bool} {size : Rat} {cs : List Char}
    (h : Writes (.decimal negative size) cs) : 0 ≤ size := by
  cases h with
  | decimal hsign hbody => exact size_nonneg_of_writesSize hbody

/-- A numeral that is read is written by its text. -/
theorem writes_of_read? {cs : List Char} {numeral : Numeral} (h : read? cs = some numeral) :
    Writes numeral.meaning cs := by
  obtain ⟨sign, hsign, hcs⟩ := writesSign_splitSign cs
  rw [hcs]
  simp only [read?] at h
  split at h
  next hword =>
    rw [Option.some.injEq] at h
    subst h
    exact .infinity hsign hword
  next =>
    split at h
    next hword =>
      rw [Option.some.injEq] at h
      subst h
      exact .nan hsign hword
    next =>
      rw [Option.map_eq_some_iff] at h
      obtain ⟨value, hvalue, rfl⟩ := h
      obtain ⟨hnegative, hsize⟩ := writesSize_of_readDecimal? hvalue
      rw [meaning, hnegative]
      exact .decimal hsign hsize

/-- Every numeral is read as what it stands for. -/
theorem read?_of_writes {cs : List Char} {m : Meaning} (h : Writes m cs) :
    ∃ numeral, read? cs = some numeral ∧ numeral.meaning = m := by
  cases h with
  | @decimal negative size sign body hsign hbody =>
    have hsplit : splitSign (sign ++ body) = (negative, body) := by
      refine splitSign_append hsign fun c hc => ?_
      rcases head_of_writesSize hbody c hc with hdigit | rfl
      · exact ne_sign_of_isDigit hdigit
      · decide
    obtain ⟨value, hvalue, rfl, rfl⟩ := readDecimal?_of_writesSize hbody negative
    have hi := map_toLower_ne_of_writesSize hbody (Or.inl rfl)
    have hn := map_toLower_ne_of_writesSize hbody (Or.inr rfl)
    refine ⟨.decimal value, ?_, rfl⟩
    simp only [read?, hsplit]
    rw [if_neg (not_or.2 ⟨hi _, hi _⟩), if_neg (hn _), hvalue]
    rfl
  | infinity hsign hword =>
    have hsplit := splitSign_append hsign fun c hc =>
      hword.elim (ne_sign_of_map_toLower (Or.inl rfl) · c hc)
        (ne_sign_of_map_toLower (Or.inl rfl) · c hc)
    refine ⟨.infinity _, ?_, rfl⟩
    simp only [read?, hsplit]
    rw [if_pos hword]
  | nan hsign hword =>
    have hsplit := splitSign_append hsign (ne_sign_of_map_toLower (Or.inr rfl) hword)
    refine ⟨.nan, ?_, rfl⟩
    simp only [read?, hsplit, hword]
    rfl

end Numeral

end MonitorKeys

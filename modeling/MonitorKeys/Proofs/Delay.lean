import Mathlib.Data.List.DropRight
import Mathlib.Tactic.NormNum
import MonitorKeys.Arguments
import MonitorKeys.Proofs.Delay.Binary64
import MonitorKeys.Proofs.Delay.Numeral

/-!
# Reading a delay

A delay is written by a numeral with blanks around it.  Its number of seconds is the one that
correct rounding makes of what the numeral stands for.

* `Text.isTrim_iff` says what taking off the blanks does, and `Delay.writes_iff` which texts are
  read as numerals.
* `Delay.parse_of_writes` is the reading of a numeral, and `Numeral.Meaning.RoundsTo.unique` says
  that it has only one number of seconds.
* `Binary64.isUsable_iff` gives the numbers that are accepted by their values.
* `Delay.isNearest_nanoseconds` and `Delay.nanoseconds_lt` are about the pause of an accepted
  number.
* `Delay.parse_outcome` puts these together.
-/

namespace MonitorKeys

/-! ## Blanks -/

namespace Text

/-- The middle of a text: what is around it is blank, and its own two ends are not. -/
structure IsTrim (cs inner : List Char) : Prop where
  around : ∃ before after, cs = before ++ (inner ++ after) ∧
    (∀ c ∈ before, isBlank c = true) ∧ ∀ c ∈ after, isBlank c = true
  first : ∀ c, inner.head? = some c → isBlank c = false
  last : ∀ c, inner.getLast? = some c → isBlank c = false

theorem trim_eq (cs : List Char) : trim cs = (cs.dropWhile isBlank).rdropWhile isBlank := rfl

theorem isTrim_trim (cs : List Char) : IsTrim cs (trim cs) := by
  rw [trim_eq]
  have hfront := List.takeWhile_append_dropWhile (p := isBlank) (l := cs)
  have hfirst := List.head?_dropWhile_not isBlank cs
  generalize cs.dropWhile isBlank = tail at hfront hfirst
  have hback := List.rdropWhile_append_rtakeWhile (p := isBlank) (l := tail)
  refine ⟨⟨cs.takeWhile isBlank, tail.rtakeWhile isBlank, ?_, ?_, ?_⟩, ?_, ?_⟩
  · rw [hback, hfront]
  · exact fun c hc => List.mem_takeWhile_imp hc
  · exact fun c hc => List.mem_rtakeWhile_imp hc
  · intro c hc
    have htail : tail.head? = some c := by
      rw [← hback, List.head?_append, hc, Option.some_or]
    rwa [htail] at hfirst
  · intro c hc
    obtain ⟨hne, rfl⟩ := List.mem_getLast?_eq_getLast hc
    exact Bool.eq_false_iff.2 (List.rdropWhile_last_not isBlank tail hne)

theorem IsTrim.eq_trim {cs inner : List Char} (h : IsTrim cs inner) : inner = trim cs := by
  obtain ⟨⟨before, after, rfl, hbefore, hafter⟩, hfirst, hlast⟩ := h
  rw [trim_eq, List.dropWhile_append_of_pos hbefore]
  cases inner with
  | nil =>
    rw [List.nil_append, List.dropWhile_eq_nil_iff.2 hafter]
    rfl
  | cons c cs =>
    have hc : ¬ isBlank c = true := Bool.eq_false_iff.1 (hfirst c rfl)
    have hend : ∀ hne : c :: cs ≠ [], ¬ isBlank ((c :: cs).getLast hne) = true := fun hne =>
      Bool.eq_false_iff.1 (hlast _ (List.getLast?_eq_some_getLast hne))
    have hblank : ∀ d ∈ after.reverse, isBlank d = true := fun d hd =>
      hafter d (List.mem_reverse.1 hd)
    rw [List.cons_append, List.dropWhile_cons_of_neg hc, ← List.cons_append, List.rdropWhile,
      List.reverse_append, List.dropWhile_append_of_pos hblank]
    exact (List.rdropWhile_eq_self_iff.2 hend).symm

theorem isTrim_iff {cs inner : List Char} : IsTrim cs inner ↔ inner = trim cs :=
  ⟨IsTrim.eq_trim, fun h => h ▸ isTrim_trim cs⟩

end Text

/-! ## Numbers of seconds -/

/-- A number with its sign put before it. -/
def signed (negative : Bool) (size : Rat) : Rat :=
  if negative then -size else size

namespace Numeral.Meaning

/-- The number is what correct rounding makes of a numeral. -/
def RoundsTo : Meaning → Binary64 → Prop
  | decimal negative size, x => Binary64.RoundsTo negative size x
  | infinity negative, x => x = .infinite negative
  | nan, x => x = .nan

theorem RoundsTo.unique {m : Meaning} {x y : Binary64} (hx : m.RoundsTo x) (hy : m.RoundsTo y) :
    x = y := by
  cases m with
  | decimal negative size => exact Binary64.RoundsTo.unique hx hy
  | infinity negative => exact Eq.trans hx (Eq.symm hy)
  | nan => exact Eq.trans hx (Eq.symm hy)

theorem roundsTo_ofNumeral (numeral : Numeral) :
    numeral.meaning.RoundsTo (Binary64.ofNumeral numeral) := by
  cases numeral with
  | decimal value =>
    exact Binary64.roundsTo_decimalCode value.negative value.digits value.exponent
  | infinity negative => exact rfl
  | nan => exact rfl

end Numeral.Meaning

namespace Binary64

/-- The value of a finite number. -/
def value? : Binary64 → Option Rat
  | finite negative code => some (signed negative (magnitude code))
  | infinite _ => none
  | nan => none

theorem magnitude_nonneg (code : Nat) : 0 ≤ magnitude code := by
  rw [← magnitude_zero]
  exact strictMono_magnitude.monotone (Nat.zero_le code)

theorem magnitude_lt_iff (code n : Nat) : magnitude code < n ↔ units code < n * unitsPerOne := by
  rw [magnitude_eq, div_lt_iff₀ unitsPerOne_pos]
  exact_mod_cast Iff.rfl

/-- The value of a number that can be waited for is that of its code, since only a zero has a
sign. -/
theorem value?_of_isUsable {negative : Bool} {code : Fin infinityCode}
    (h : (finite negative code).IsUsable) :
    (finite negative code).value? = some (magnitude code) := by
  rcases h with hzero | ⟨rfl, -⟩
  · rw [value?, hzero, magnitude_zero, signed, neg_zero, ite_self]
  · rfl

/-- Exactly the values from zero to below `2 ^ 64` can be waited for. -/
theorem isUsable_iff {x : Binary64} :
    x.IsUsable ↔ ∃ v, x.value? = some v ∧ 0 ≤ v ∧ v < 2 ^ 64 := by
  have hlimit (code : Nat) : magnitude code < 2 ^ 64 ↔ units code < 2 ^ 64 * unitsPerOne := by
    have h := magnitude_lt_iff code (2 ^ 64)
    rwa [Nat.cast_pow, Nat.cast_ofNat] at h
  cases x with
  | finite negative code =>
    constructor
    · intro h
      refine ⟨magnitude code, value?_of_isUsable h, magnitude_nonneg code, ?_⟩
      rcases h with hzero | ⟨-, hlt⟩
      · rw [hzero, magnitude_zero]
        positivity
      · exact (hlimit code).2 hlt
    · rintro ⟨v, hv, h0, hlt⟩
      rw [value?, Option.some.injEq] at hv
      subst hv
      cases negative with
      | false => exact Or.inr ⟨rfl, (hlimit code).1 hlt⟩
      | true =>
        left
        have hle : magnitude code ≤ magnitude 0 := by
          rw [magnitude_zero]
          exact neg_nonneg.1 h0
        exact Nat.le_zero.1 (strictMono_magnitude.le_iff_le.1 hle)
  | infinite negative => simp [IsUsable, value?]
  | nan => simp [IsUsable, value?]

/-- No value lies between `2 ^ 64 - 2 ^ 11` and `2 ^ 64`. -/
theorem le_of_lt_two_pow {x : Binary64} {v : Rat} (hv : x.value? = some v) (hlt : v < 2 ^ 64) :
    v ≤ 2 ^ 64 - 2 ^ 11 := by
  cases x with
  | finite negative code =>
    rw [value?, Option.some.injEq] at hv
    subst hv
    cases negative with
    | false =>
      have hnext : magnitude (1087 * 2 ^ 52) = 2 ^ 64 := by norm_num [magnitude]
      have hlast : magnitude (1087 * 2 ^ 52 - 1) = 2 ^ 64 - 2 ^ 11 := by norm_num [magnitude]
      have hcode : code.val < 1087 * 2 ^ 52 := by
        rw [← strictMono_magnitude.lt_iff_lt, hnext]
        exact hlt
      rw [← hlast]
      exact strictMono_magnitude.monotone (Nat.le_sub_one_of_lt hcode)
    | true =>
      have h := magnitude_nonneg code
      rw [signed, if_pos rfl]
      linarith
  | infinite negative => cases hv
  | nan => cases hv

end Binary64

namespace Delay

/-! ## The pause -/

/-- The pause is the whole number of nanoseconds that is nearest to the number of seconds. -/
theorem isNearest_nanoseconds (delay : Delay) {v : Rat} (hv : delay.seconds.value? = some v) :
    IsNearest (fun k => (k : Rat)) (10 ^ 9 * v) delay.nanoseconds := by
  obtain ⟨x, hx⟩ := delay
  cases x with
  | finite negative code =>
    have hvalue : v = Binary64.magnitude code :=
      Option.some.inj (hv.symm.trans (Binary64.value?_of_isUsable hx))
    have hpos : 0 < Binary64.unitsPerOne := Nat.cast_pos.1 Binary64.unitsPerOne_pos
    have hnearest := isNearest_roundHalfEven (Binary64.units code * 10 ^ 9) hpos
    rw [Nat.cast_mul, Nat.cast_pow, Nat.cast_ofNat, mul_comm, mul_div_assoc,
      ← Binary64.magnitude_eq, ← hvalue] at hnearest
    exact hnearest
  | infinite negative => exact hx.elim
  | nan => exact hx.elim

/-- The largest value below `2 ^ 64` is so far from it that no pause is rounded up to it. -/
theorem nanoseconds_lt (delay : Delay) : delay.nanoseconds < 2 ^ 64 * 10 ^ 9 := by
  obtain ⟨v, hv, -, hlt⟩ := Binary64.isUsable_iff.1 delay.isUsable
  have hlargest : v ≤ 2 ^ 64 - 2 ^ 11 := Binary64.le_of_lt_two_pow hv hlt
  have hle : delay.nanoseconds ≤ 10 ^ 9 * (2 ^ 64 - 2 ^ 11) := by
    refine (isNearest_nanoseconds delay hv).mono strictMono_cast
      (isNearest_self strictMono_cast (10 ^ 9 * (2 ^ 64 - 2 ^ 11))) ?_
    norm_num
    linarith
  omega

/-! ## Reading -/

/-- The text is a numeral with blanks around it. -/
def Writes (m : Numeral.Meaning) (s : String) : Prop :=
  ∃ inner, Text.IsTrim s.toList inner ∧ Numeral.Writes m inner

theorem writes_iff {m : Numeral.Meaning} {s : String} :
    Writes m s ↔ ∃ numeral, Numeral.read? (Text.trim s.toList) = some numeral ∧
      numeral.meaning = m := by
  simp only [Writes, Text.isTrim_iff, exists_eq_left]
  constructor
  · exact Numeral.read?_of_writes
  · rintro ⟨numeral, hread, rfl⟩
    exact Numeral.writes_of_read? hread

theorem writes_of_read? {s : String} {numeral : Numeral}
    (h : Numeral.read? (Text.trim s.toList) = some numeral) : Writes numeral.meaning s :=
  writes_iff.2 ⟨numeral, h, rfl⟩

theorem parse_of_not_writes {s : String} (h : ∀ m, ¬ Writes m s) : parse s = .error ⟨s⟩ := by
  rw [parse]
  split
  next numeral hread => exact absurd (writes_of_read? hread) (h numeral.meaning)
  next => rfl

theorem parse_of_writes {m : Numeral.Meaning} {s : String} (h : Writes m s) :
    ∃ x, m.RoundsTo x ∧ parse s = ofSeconds x := by
  obtain ⟨numeral, hread, rfl⟩ := writes_iff.1 h
  refine ⟨Binary64.ofNumeral numeral, Numeral.Meaning.roundsTo_ofNumeral numeral, ?_⟩
  rw [parse, hread]

theorem delayNanoseconds_eq {invocation : Invocation} {delay : Delay}
    (h : invocation.delay = some delay) : invocation.delayNanoseconds = delay.nanoseconds := by
  rw [Invocation.delayNanoseconds, h, Option.getD_some]

/-- A text that is not a numeral is quoted as it stands.  A numeral has one number of seconds, and
is accepted exactly when this is not negative and below `2 ^ 64`; otherwise that number is quoted.
An accepted number of seconds is kept to the nearest nanosecond. -/
theorem parse_outcome (s : String) :
    ((∀ m, ¬ Writes m s) → parse s = .error ⟨s⟩) ∧
      ∀ m, Writes m s → ∃ x, (∀ y, m.RoundsTo y ↔ y = x) ∧
        (∀ v, x.value? = some v → 0 ≤ v → v < 2 ^ 64 →
          ∃ delay, parse s = .ok delay ∧ delay.seconds = x ∧
            ∀ invocation : Invocation, invocation.delay = some delay →
              IsNearest (fun k => (k : Rat)) (10 ^ 9 * v) invocation.delayNanoseconds ∧
                invocation.delayNanoseconds < 2 ^ 64 * 10 ^ 9) ∧
        ((∀ v, x.value? = some v → ¬ (0 ≤ v ∧ v < 2 ^ 64)) → parse s = .error ⟨x.text⟩) := by
  refine ⟨parse_of_not_writes, fun m hm => ?_⟩
  obtain ⟨x, hx, hparse⟩ := parse_of_writes hm
  have hunique : ∀ y, m.RoundsTo y ↔ y = x := by
    intro y
    constructor
    · exact fun hy => hy.unique hx
    · rintro rfl
      exact hx
  refine ⟨x, hunique, ?_, ?_⟩
  · intro v hv h0 hlt
    have husable : x.IsUsable := Binary64.isUsable_iff.2 ⟨v, hv, h0, hlt⟩
    refine ⟨⟨x, husable⟩, ?_, rfl, ?_⟩
    · rw [hparse, ofSeconds, dif_pos husable]
    · intro invocation hdelay
      rw [delayNanoseconds_eq hdelay]
      exact ⟨isNearest_nanoseconds _ hv, nanoseconds_lt _⟩
  · intro hout
    have husable : ¬ x.IsUsable := fun h => by
      obtain ⟨v, hv, hrange⟩ := Binary64.isUsable_iff.1 h
      exact hout v hv hrange
    rw [hparse, ofSeconds, dif_neg husable]

/-- A comma is no point, half a second with a blank before it is accepted, and a number below zero
is quoted without its zeros. -/
theorem parse_outcome_samples :
    parse "0,5" = .error ⟨"0,5"⟩ ∧
      (∃ delay, parse " 0.5" = .ok delay ∧
        ∀ invocation : Invocation, invocation.delay = some delay →
          IsNearest (fun k => (k : Rat)) (10 ^ 9 * (1 / 2)) invocation.delayNanoseconds) ∧
      parse "-1.00" = .error ⟨"-1"⟩ := by
  refine ⟨?_, ?_, ?_⟩
  · refine (parse_outcome "0,5").1 fun m hm => ?_
    obtain ⟨numeral, hread, -⟩ := writes_iff.1 hm
    have hnone : Numeral.read? (Text.trim "0,5".toList) = none := by decide
    exact absurd (hnone.symm.trans hread) (by simp)
  · have hread : Numeral.read? (Text.trim " 0.5".toList) = some (.decimal ⟨false, 5, -1⟩) := by
      decide
    have hwrites := writes_of_read? hread
    have hround := Numeral.Meaning.roundsTo_ofNumeral (.decimal ⟨false, 5, -1⟩)
    have hnumber : Binary64.ofNumeral (.decimal ⟨false, 5, -1⟩) =
        .finite false ⟨1022 * 2 ^ 52, by decide⟩ := by
      decide +kernel
    obtain ⟨x, hunique, haccepted, -⟩ := (parse_outcome " 0.5").2 _ hwrites
    rw [hnumber, hunique] at hround
    have hvalue : x.value? = some (1 / 2) := by
      rw [← hround]
      norm_num [Binary64.value?, Binary64.magnitude, signed]
    obtain ⟨delay, hparse, -, hpause⟩ := haccepted _ hvalue (by norm_num) (by norm_num)
    exact ⟨delay, hparse, fun invocation hdelay => (hpause invocation hdelay).1⟩
  · have hread : Numeral.read? (Text.trim "-1.00".toList) = some (.decimal ⟨true, 100, -2⟩) := by
      decide
    have hwrites := writes_of_read? hread
    have hround := Numeral.Meaning.roundsTo_ofNumeral (.decimal ⟨true, 100, -2⟩)
    have hnumber : Binary64.ofNumeral (.decimal ⟨true, 100, -2⟩) =
        .finite true ⟨1023 * 2 ^ 52, by decide⟩ := by
      decide +kernel
    obtain ⟨x, hunique, -, hrejected⟩ := (parse_outcome "-1.00").2 _ hwrites
    rw [hnumber, hunique] at hround
    rw [hrejected, ← hround]
    · decide +kernel
    · intro v hv
      rw [← hround, Binary64.value?, Option.some.injEq] at hv
      rw [← hv]
      norm_num [Binary64.magnitude, signed]

end Delay

end MonitorKeys

import MonitorKeys.Proofs.Delay
import MonitorKeys.Proofs.Delay.Shortest

/-!
# The number that an error quotes

A delay that is not accepted is quoted in the error, by its text where it is no numeral and by its
number otherwise.  Both are read again as they were the first time.

* `Numeral.not_isBlank_of_writes` says that a numeral has no blanks in it, so that nothing of it is
  taken off before it is read.
* `Numeral.writesSize_append_zeros`, `Numeral.writesSize_take_point_drop` and
  `Numeral.writesSize_zeros_point` are the values of digits by where the point stands, and
  `Binary64.writesSize_positional` puts them together.
* `Binary64.exists_writes_text` says that the text of a number is a numeral that rounds to this
  number, and `Delay.parse_text` that it is read as this number.
* `Delay.parse_shown` is the case of the numbers that are not accepted.
-/

namespace MonitorKeys

namespace Numeral

/-! ## Numerals have no blanks -/

/-- No character of ASCII from the exclamation mark to the tilde is blank. -/
theorem not_isBlank_of_le {c : Char} (hlow : 0x21 ≤ c.toNat) (hhigh : c.toNat ≤ 0x7e) :
    Text.isBlank c = false := by
  have hrange : ∀ range ∈ Text.blankRanges, range.2 < 0x21 ∨ 0x7e < range.1 := by decide
  refine List.any_eq_false.2 fun range hmem => ?_
  rw [Bool.and_eq_true, decide_eq_true_eq, decide_eq_true_eq]
  have hoff := hrange range hmem
  omega

theorem not_isBlank_of_isDigit {c : Char} (h : c.isDigit = true) : Text.isBlank c = false := by
  simp only [Char.isDigit, Bool.and_eq_true, decide_eq_true_eq] at h
  have hlow : 48 ≤ c.toNat := UInt32.le_iff_toNat_le.1 h.1
  have hhigh : c.toNat ≤ 57 := UInt32.le_iff_toNat_le.1 h.2
  exact not_isBlank_of_le (by omega) (by omega)

theorem toLower_of_isBlank {c : Char} (h : Text.isBlank c = true) : c.toLower = c := by
  refine dif_neg ?_
  rintro ⟨hupper, hlast⟩
  have hlow : 65 ≤ c.toNat := UInt32.le_iff_toNat_le.1 hupper
  have hhigh : c.toNat ≤ 90 := UInt32.le_iff_toNat_le.1 hlast
  exact Bool.false_ne_true ((not_isBlank_of_le (by omega) (by omega)).symm.trans h)

theorem not_isBlank_of_map_toLower {word lower : List Char} (hword : word.map Char.toLower = lower)
    (hlower : lower.any Text.isBlank = false) : ∀ c ∈ word, Text.isBlank c = false := by
  intro c hc
  by_contra hblank
  rw [Bool.not_eq_false] at hblank
  have hmem : c ∈ lower := by
    rw [← hword, ← toLower_of_isBlank hblank]
    exact List.mem_map_of_mem hc
  exact List.any_eq_false.1 hlower c hmem hblank

theorem not_isBlank_of_allDigits {ds : List Char} (hds : AllDigits ds) :
    ∀ c ∈ ds, Text.isBlank c = false :=
  fun c hc => not_isBlank_of_isDigit (hds c hc)

theorem not_isBlank_of_writesSign {negative : Bool} {sign : List Char}
    (h : WritesSign negative sign) : ∀ c ∈ sign, Text.isBlank c = false := by
  cases h with
  | missing => exact List.forall_mem_nil _
  | plus => exact List.forall_mem_singleton.2 rfl
  | minus => exact List.forall_mem_singleton.2 rfl

theorem not_isBlank_of_writesExponent {e : Int} {rest : List Char} (h : WritesExponent e rest) :
    ∀ c ∈ rest, Text.isBlank c = false := by
  cases h with
  | missing => exact List.forall_mem_nil _
  | given hmark hsign hds hne =>
    refine List.forall_mem_cons.2 ⟨?_, List.forall_mem_append.2
      ⟨not_isBlank_of_writesSign hsign, not_isBlank_of_allDigits hds⟩⟩
    rcases hmark with rfl | rfl <;> rfl

theorem not_isBlank_of_writesSize {size : Rat} {body : List Char} (h : WritesSize size body) :
    ∀ c ∈ body, Text.isBlank c = false := by
  cases h with
  | whole hds hne hrest =>
    exact List.forall_mem_append.2
      ⟨not_isBlank_of_allDigits hds, not_isBlank_of_writesExponent hrest⟩
  | pointed hds hfraction hne hrest =>
    refine List.forall_mem_append.2 ⟨not_isBlank_of_allDigits hds, ?_⟩
    refine List.forall_mem_cons.2 ⟨rfl, List.forall_mem_append.2 ?_⟩
    exact ⟨not_isBlank_of_allDigits hfraction, not_isBlank_of_writesExponent hrest⟩

/-- No character of a numeral is blank. -/
theorem not_isBlank_of_writes {m : Meaning} {cs : List Char} (h : Writes m cs) :
    ∀ c ∈ cs, Text.isBlank c = false := by
  cases h with
  | decimal hsign hbody =>
    exact List.forall_mem_append.2
      ⟨not_isBlank_of_writesSign hsign, not_isBlank_of_writesSize hbody⟩
  | infinity hsign hword =>
    refine List.forall_mem_append.2 ⟨not_isBlank_of_writesSign hsign, ?_⟩
    rcases hword with hshort | hlong
    · exact not_isBlank_of_map_toLower hshort rfl
    · exact not_isBlank_of_map_toLower hlong rfl
  | nan hsign hword =>
    exact List.forall_mem_append.2
      ⟨not_isBlank_of_writesSign hsign, not_isBlank_of_map_toLower hword rfl⟩

/-! ## Digits that are written -/

theorem number_toDigits (n : Nat) : number (Nat.toDigits 10 n) = n := by
  rw [← digitsValue_eq, digitsValue, ← Nat.ofDigitChars_eq_foldl, Nat.ofDigitChars_ten_toDigits]

theorem allDigits_toDigits (n : Nat) : AllDigits (Nat.toDigits 10 n) :=
  fun _ hd => Nat.isDigit_of_mem_toDigits (by decide) (by decide) hd

theorem number_zeros (n : Nat) : number (List.replicate n '0') = 0 := by
  rw [← digitsValue_eq, digitsValue, ← Nat.ofDigitChars_eq_foldl, Nat.ofDigitChars_replicate_zero,
    Nat.mul_zero]

theorem number_zeros_append (n : Nat) (ds : List Char) :
    number (List.replicate n '0' ++ ds) = number ds := by
  rw [number_append, number_zeros, Nat.zero_mul, Nat.zero_add]

theorem allDigits_zeros (n : Nat) : AllDigits (List.replicate n '0') := by
  intro d hd
  rw [(List.mem_replicate.1 hd).2]
  rfl

theorem AllDigits.append {a b : List Char} (ha : AllDigits a) (hb : AllDigits b) :
    AllDigits (a ++ b) :=
  List.forall_mem_append.2 ⟨ha, hb⟩

/-- Digits without a point write their number. -/
theorem writesSize_digits {ds : List Char} (hds : AllDigits ds) (hne : ds ≠ []) :
    WritesSize (number ds) ds := by
  have h := WritesSize.whole hds hne .missing
  rwa [List.append_nil, zpow_zero, mul_one] at h

/-- A point divides by a power of ten. -/
theorem writesSize_point {ds fraction : List Char} (hds : AllDigits ds)
    (hfraction : AllDigits fraction) (hne : ds ++ fraction ≠ []) :
    WritesSize (number (ds ++ fraction) * 10 ^ (-(fraction.length : Int)))
      (ds ++ '.' :: fraction) := by
  have h := WritesSize.pointed hds hfraction hne .missing
  rwa [List.append_nil, ← size_mk false, Decimal.size, zero_sub] at h

section Places

variable {ds : List Char} {places : Nat}

/-- Zeros after the digits multiply by a power of ten. -/
theorem writesSize_append_zeros (hds : AllDigits ds) (hne : ds ≠ []) (k : Nat) :
    WritesSize (number ds * 10 ^ (k : Int)) (ds ++ List.replicate k '0') := by
  have hvalue : number (ds ++ List.replicate k '0') = number ds * 10 ^ k := by
    rw [number_append, number_zeros, List.length_replicate, Nat.add_zero]
  have hwrites := writesSize_digits (hds.append (allDigits_zeros k))
    (List.append_ne_nil_of_left_ne_nil hne _)
  rwa [hvalue, Nat.cast_mul, Nat.cast_pow, Nat.cast_ofNat, ← zpow_natCast] at hwrites

/-- A point may stand anywhere among the digits. -/
theorem writesSize_take_point_drop (hds : AllDigits ds) (hne : ds ≠ [])
    (hplaces : places ≤ ds.length) :
    WritesSize (number ds * 10 ^ (-(places : Int)))
      (ds.take (ds.length - places) ++ '.' :: ds.drop (ds.length - places)) := by
  have hcut := List.take_append_drop (ds.length - places) ds
  have hfraction : (ds.drop (ds.length - places)).length = places := by
    rw [List.length_drop, Nat.sub_sub_self hplaces]
  have hwrites := writesSize_point (fun d hd => hds d (List.mem_of_mem_take hd))
    (fun d hd => hds d (List.mem_of_mem_drop hd)) (hcut.symm ▸ hne)
  rwa [hcut, hfraction] at hwrites

/-- Where there are fewer digits than places, zeros stand between the point and the digits. -/
theorem writesSize_zeros_point (hds : AllDigits ds) (hplaces : ds.length ≤ places) :
    WritesSize (number ds * 10 ^ (-(places : Int)))
      ('0' :: '.' :: List.replicate (places - ds.length) '0' ++ ds) := by
  have hfraction : (List.replicate (places - ds.length) '0' ++ ds).length = places := by
    rw [List.length_append, List.length_replicate, Nat.sub_add_cancel hplaces]
  have hvalue : number (List.replicate 1 '0' ++
      (List.replicate (places - ds.length) '0' ++ ds)) = number ds := by
    rw [number_zeros_append, number_zeros_append]
  have hwrites := writesSize_point (allDigits_zeros 1)
    ((allDigits_zeros (places - ds.length)).append hds) (List.cons_ne_nil _ _)
  rw [hvalue, hfraction] at hwrites
  exact hwrites

end Places

end Numeral

namespace Binary64

open Numeral

/-! ## The text of a number -/

/-- The positional text of a decimal has the value of this decimal. -/
theorem writesSize_positional (digits : Nat) (exponent : Int) :
    WritesSize (digits * 10 ^ exponent) (positional digits exponent) := by
  have hdigits := allDigits_toDigits digits
  have hne : Nat.toDigits 10 digits ≠ [] := Nat.toDigits_ne_nil
  have hnumber := number_toDigits digits
  simp only [positional]
  generalize Nat.toDigits 10 digits = ds at hdigits hne hnumber
  subst hnumber
  obtain ⟨k, rfl | rfl⟩ := exponent.eq_nat_or_neg
  · have hplaces : (-(k : Int)).toNat = 0 := by omega
    simp only [hplaces, if_true, Int.toNat_natCast]
    exact writesSize_append_zeros hdigits hne k
  · simp only [neg_neg, Int.toNat_natCast]
    split
    · rename_i hzero
      rw [hzero]
      exact writesSize_append_zeros hdigits hne 0
    split
    · rename_i hlt
      exact writesSize_take_point_drop hdigits hne hlt.le
    · rename_i hge
      exact writesSize_zeros_point hdigits (Nat.not_lt.1 hge)

/-- The text of a code has a value that the code is nearest to. -/
theorem exists_writesSize_codeText (code : Fin infinityCode) :
    ∃ size, WritesSize size (codeText code) ∧ IsNearest magnitude size code := by
  by_cases hzero : code.val = 0
  · refine ⟨(number ['0'] : Nat), ?_, ?_⟩
    · rw [codeText, if_pos hzero]
      exact writesSize_digits (allDigits_zeros 1) (List.cons_ne_nil _ _)
    · have hnumber : number ['0'] = 0 := number_zeros 1
      rw [hnumber, Nat.cast_zero, hzero, ← magnitude_zero]
      exact isNearest_self strictMono_magnitude 0
  · rw [codeText, if_neg hzero]
    exact ⟨_, writesSize_positional _ _, isNearest_shortest (Nat.pos_of_ne_zero hzero)⟩

/-- The text of a number is a numeral that rounds to it. -/
theorem exists_writes_text (x : Binary64) :
    ∃ m, Numeral.Writes m x.text.toList ∧ m.RoundsTo x := by
  cases x with
  | finite negative code =>
    obtain ⟨size, hsize, hnearest⟩ := exists_writesSize_codeText code
    refine ⟨.decimal negative size, ?_, ⟨code, hnearest, ?_⟩⟩
    · rw [text, String.toList_ofList]
      cases negative with
      | false => exact .decimal .missing hsize
      | true => exact .decimal .minus hsize
    · rw [ofCode, dif_pos code.isLt]
  | infinite negative =>
    refine ⟨.infinity negative, ?_, rfl⟩
    cases negative with
    | false => exact .infinity .missing (Or.inl rfl)
    | true => exact .infinity .minus (Or.inl rfl)
  | nan => exact ⟨.nan, .nan .missing rfl, rfl⟩

end Binary64

namespace Delay

/-! ## Reading what is quoted -/

/-- A numeral is one with no blanks around it as well. -/
theorem writes_of_numeral {m : Numeral.Meaning} {s : String} (h : Numeral.Writes m s.toList) :
    Writes m s := by
  have hblank := Numeral.not_isBlank_of_writes h
  refine ⟨s.toList, ⟨⟨[], [], ?_, List.forall_mem_nil _, List.forall_mem_nil _⟩, ?_, ?_⟩, h⟩
  · rw [List.nil_append, List.append_nil]
  · exact fun c hc => hblank c (List.mem_of_head? hc)
  · exact fun c hc => hblank c (List.mem_of_getLast? hc)

/-- The text of a number is read as this number. -/
theorem parse_text (x : Binary64) : parse x.text = ofSeconds x := by
  obtain ⟨m, hwrites, hround⟩ := x.exists_writes_text
  obtain ⟨y, hy, hparse⟩ := parse_of_writes (writes_of_numeral hwrites)
  rw [hparse, hy.unique hround]

theorem ofSeconds_eq_error_iff {x : Binary64} {e : InvalidDelay} :
    ofSeconds x = .error e ↔ ¬ x.IsUsable ∧ e.shown = x.text := by
  obtain ⟨shown⟩ := e
  by_cases hx : x.IsUsable
  · simp [ofSeconds, hx]
  · simp [ofSeconds, hx, eq_comm]

/-- What an error quotes is rejected with the same error.  It is the text itself where this is no
numeral, and otherwise the text of a number that is negative, at least `2 ^ 64` or not finite. -/
theorem parse_shown {s : String} {e : InvalidDelay} (h : parse s = .error e) :
    parse e.shown = .error e ∧
      ((∀ m, ¬ Writes m s) ∧ e.shown = s ∨
        ∃ m x, Writes m s ∧ m.RoundsTo x ∧ e.shown = x.text ∧
          ∀ v, x.value? = some v → v < 0 ∨ 2 ^ 64 ≤ v) := by
  by_cases hs : ∃ m, Writes m s
  · obtain ⟨m, hm⟩ := hs
    obtain ⟨x, hx, hparse⟩ := parse_of_writes hm
    have hrejected : ofSeconds x = .error e := hparse.symm.trans h
    obtain ⟨husable, hshown⟩ := ofSeconds_eq_error_iff.1 hrejected
    refine ⟨?_, Or.inr ⟨m, x, hm, hx, hshown, fun v hv => ?_⟩⟩
    · rw [hshown, parse_text, hrejected]
    · by_contra hrange
      rw [not_or, not_lt, not_le] at hrange
      exact husable (Binary64.isUsable_iff.2 ⟨v, hv, hrange⟩)
  · have hnone := not_exists.1 hs
    have herror := parse_of_not_writes hnone
    obtain rfl : e = ⟨s⟩ := Except.error.inj (h.symm.trans herror)
    exact ⟨h, Or.inl ⟨hnone, rfl⟩⟩

/-- A number below zero is quoted without an exponent, and a comma as it stands. -/
theorem parse_shown_negative_comma :
    parse "-0.0000001" = .error ⟨"-0.0000001"⟩ ∧ parse " 0,5" = .error ⟨" 0,5"⟩ := by
  have hnegative : parse " -1e-7" = .error ⟨"-0.0000001"⟩ := by decide +kernel
  have hcomma : parse " 0,5" = .error ⟨" 0,5"⟩ := by decide +kernel
  exact ⟨(parse_shown hnegative).1, (parse_shown hcomma).1⟩

end Delay

end MonitorKeys

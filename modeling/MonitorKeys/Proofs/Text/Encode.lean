import Mathlib.Data.List.Basic
import MonitorKeys.Text.Utf8

/-!
# Texts and their bytes

What is said of the characters of a text holds of its bytes as well: different texts have different
bytes (`encode_injective`), and the byte of a line end stands for nothing but a line end
(`count_newline_encode`).
-/

namespace MonitorKeys.Text

/-- The byte of a line end. -/
abbrev newline : UInt8 := 10

theorem ofNat_ne_newline {n : Nat} (h : n % 256 ≠ 10) : newline ≠ UInt8.ofNat n := by
  intro heq
  have hnat := congrArg UInt8.toNat heq
  rw [UInt8.toNat_ofNat'] at hnat
  exact h hnat.symm

/-- The byte of a line end is part of no other character. -/
theorem newline_notMem_encodeChar {c : Char} (h : c ≠ '\n') :
    newline ∉ String.utf8EncodeChar c := by
  have hval : c.toNat ≠ 10 := by
    intro hten
    exact h (by rw [← Char.ofNat_toNat c, hten])
  unfold String.utf8EncodeChar
  simp only [Char.toNat_val]
  -- one case for each number of bytes; all bytes of the longer forms are at least 128
  split
  · have hbyte : newline ≠ UInt8.ofNat c.toNat := ofNat_ne_newline (by omega)
    simpa using hbyte
  split
  · simp only [List.mem_cons, List.not_mem_nil, or_false, not_or]
    exact ⟨ofNat_ne_newline (by omega), ofNat_ne_newline (by omega)⟩
  split
  · simp only [List.mem_cons, List.not_mem_nil, or_false, not_or]
    exact ⟨ofNat_ne_newline (by omega), ofNat_ne_newline (by omega), ofNat_ne_newline (by omega)⟩
  · simp only [List.mem_cons, List.not_mem_nil, or_false, not_or]
    exact ⟨ofNat_ne_newline (by omega), ofNat_ne_newline (by omega), ofNat_ne_newline (by omega),
      ofNat_ne_newline (by omega)⟩

/-- A text has as many line ends as its bytes have. -/
theorem count_newline_encode (cs : List Char) : (encode cs).count newline = cs.count '\n' := by
  induction cs with
  | nil => rfl
  | cons c cs ih =>
    rw [encode_cons, List.count_append, ih, List.count_cons]
    by_cases h : c = '\n'
    · subst h
      have hone : (String.utf8EncodeChar '\n').count newline = 1 := by decide
      simp [hone, Nat.add_comm]
    · simp [List.count_eq_zero.2 (newline_notMem_encodeChar h), h]

theorem newline_mem_encode_iff {cs : List Char} : newline ∈ encode cs ↔ '\n' ∈ cs := by
  rw [← List.count_pos_iff, count_newline_encode, List.count_pos_iff]

theorem encode_injective : Function.Injective encode := by
  intro a b h
  have hread := decode?_encode a
  rw [h, decode?_encode] at hread
  exact (Option.some.inj hread).symm

theorem bytesOf_injective : Function.Injective bytesOf := by
  intro s t h
  exact String.toList_inj.1 (encode_injective h)

/-- Bytes are read as the text whose bytes they are. -/
theorem ofBytes?_eq_some_iff {bytes : Bytes} {text : String} :
    ofBytes? bytes = some text ↔ bytes = bytesOf text := by
  rw [ofBytes?, Option.map_eq_some_iff]
  constructor
  · rintro ⟨cs, hcs, rfl⟩
    rw [decode?_eq_some_iff.1 hcs, bytesOf, String.toList_ofList]
  · rintro rfl
    exact ⟨text.toList, decode?_encode _, String.ofList_toList⟩

end MonitorKeys.Text

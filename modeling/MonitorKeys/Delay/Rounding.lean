/-!
# Rounding to the nearest natural number

Both roundings of a delay, to a binary fraction and to nanoseconds, take the nearest natural number
of a quotient, and the even one of two that are equally near.

`roundHalfEven_le` and `le_roundHalfEven` bound the result by half a unit on each side.
-/

namespace MonitorKeys

/-- The natural number nearest to `n / d`, a half going to the even neighbour. -/
def roundHalfEven (n d : Nat) : Nat :=
  let q := n / d
  let r := n % d
  if 2 * r < d ∨ (2 * r = d ∧ q % 2 = 0) then q else q + 1

/-- The rounded quotient is at most half a unit above the exact one. -/
theorem roundHalfEven_le {n d : Nat} (hd : 0 < d) : 2 * (roundHalfEven n d * d) ≤ 2 * n + d := by
  have h := Nat.div_add_mod n d
  have hmul : n / d * d = d * (n / d) := Nat.mul_comm ..
  simp only [roundHalfEven]
  split
  · omega
  · rw [Nat.add_mul, Nat.one_mul]
    have := Nat.mod_lt n hd
    omega

/-- The rounded quotient is at most half a unit below the exact one. -/
theorem le_roundHalfEven {n d : Nat} (hd : 0 < d) : 2 * n ≤ 2 * (roundHalfEven n d * d) + d := by
  have h := Nat.div_add_mod n d
  have hmul : n / d * d = d * (n / d) := Nat.mul_comm ..
  simp only [roundHalfEven]
  split
  · omega
  · rw [Nat.add_mul, Nat.one_mul]
    have := Nat.mod_lt n hd
    omega

end MonitorKeys

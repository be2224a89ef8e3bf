import Mathlib

/-! Division by shifting and subtracting: the remainder takes in the dividend from above, and the bits of the quotient
follow into its place, the last one still on the way. -/

namespace LongDivision

variable {w n d k r q carry : ℕ}

/-- What the variables hold while `k` bits of a dividend of `w` bits are left. -/
structure Holds (w n d k r q carry : ℕ) : Prop where
  remainder : r = n / 2 ^ k % d
  quotient : q = n % 2 ^ k * 2 ^ (w - k) + n / 2 ^ k / d / 2
  carry : carry = n / 2 ^ k / d % 2

lemma div_two_pow_succ (n k : ℕ) : n / 2 ^ k = 2 * (n / 2 ^ (k + 1)) + n / 2 ^ k % 2 := by
  rw [pow_succ, ← Nat.div_div_eq_div_mul]
  omega

lemma mod_two_pow_succ (n k : ℕ) : n % 2 ^ (k + 1) = n / 2 ^ k % 2 * 2 ^ k + n % 2 ^ k := by
  rw [pow_succ, Nat.mod_mul, Nat.mul_comm, Nat.add_comm]

/-- Nothing of the quotient is there yet when the bits taken in are less than the divisor. -/
lemma Holds.start (h : n / 2 ^ k < d) : Holds w n d k (n / 2 ^ k) (n % 2 ^ k * 2 ^ (w - k)) 0 := by
  have hnone : n / 2 ^ k / d = 0 := Nat.div_eq_of_lt h
  refine ⟨(Nat.mod_eq_of_lt h).symm, ?_, ?_⟩
  · rw [hnone]
    rfl
  · rw [hnone]

section Step

variable (h : Holds w n d (k + 1) r q carry) (hk : k + 1 ≤ w) (hn : n < 2 ^ w)

include h hk hn

/-- The bits of the quotient so far leave room for what is left of the dividend. -/
lemma Holds.split : q = n / 2 ^ k % 2 * 2 ^ (w - 1) + (n % 2 ^ k * 2 ^ (w - 1 - k) + n / 2 ^ (k + 1) / d / 2) ∧
    n % 2 ^ k * 2 ^ (w - 1 - k) + n / 2 ^ (k + 1) / d / 2 < 2 ^ (w - 1) := by
  have hplaces : 2 ^ (w - 1) = 2 ^ k * 2 ^ (w - 1 - k) := by
    rw [← pow_add]
    congr 1
    omega
  have hshift : w - (k + 1) = w - 1 - k := by omega
  have hquotient : n / 2 ^ (k + 1) / d / 2 < 2 ^ (w - 1 - k) := by
    have hbits : n / 2 ^ (k + 1) < 2 ^ (w - 1 - k) := by
      apply Nat.div_lt_of_lt_mul
      rw [← pow_add]
      have hw : k + 1 + (w - 1 - k) = w := by omega
      rwa [hw]
    exact ((Nat.div_le_self _ _).trans (Nat.div_le_self _ _)).trans_lt hbits
  have hrest : n % 2 ^ k < 2 ^ k := Nat.mod_lt _ (Nat.two_pow_pos k)
  constructor
  · rw [h.quotient, mod_two_pow_succ, hshift, hplaces]
    ring
  · calc n % 2 ^ k * 2 ^ (w - 1 - k) + n / 2 ^ (k + 1) / d / 2
        < n % 2 ^ k * 2 ^ (w - 1 - k) + 2 ^ (w - 1 - k) := Nat.add_lt_add_left hquotient _
      _ = (n % 2 ^ k + 1) * 2 ^ (w - 1 - k) := by ring
      _ ≤ 2 ^ k * 2 ^ (w - 1 - k) := Nat.mul_le_mul_right _ hrest
      _ = 2 ^ (w - 1) := hplaces.symm

/-- The bit that the remainder takes in is the next one of the dividend. -/
lemma Holds.top : q / 2 ^ (w - 1) = n / 2 ^ k % 2 := by
  obtain ⟨hq, hlow⟩ := h.split hk hn
  rw [hq, Nat.mul_comm, Nat.mul_add_div (Nat.two_pow_pos _), Nat.div_eq_of_lt hlow, Nat.add_zero]

omit hk hn in
/-- The remainder with the next bit is part of what has been taken in, and less than twice the divisor. -/
lemma Holds.taken (hd : 0 < d) : n / 2 ^ k = d * (2 * (n / 2 ^ (k + 1) / d)) + (2 * r + n / 2 ^ k % 2) ∧
    2 * r + n / 2 ^ k % 2 < 2 * d := by
  have hr := Nat.mod_lt (n / 2 ^ (k + 1)) hd
  have hdivided := Nat.div_add_mod (n / 2 ^ (k + 1)) d
  have hdouble := div_two_pow_succ n k
  rw [← h.remainder] at hr hdivided
  constructor
  · calc n / 2 ^ k = 2 * (d * (n / 2 ^ (k + 1) / d) + r) + n / 2 ^ k % 2 := by rw [hdivided]; exact hdouble
      _ = _ := by ring
  · omega

lemma Holds.step (hd : 0 < d) : Holds w n d k
    (if d ≤ 2 * r + n / 2 ^ k % 2 then 2 * r + n / 2 ^ k % 2 - d else 2 * r + n / 2 ^ k % 2)
    ((2 * q + carry) % 2 ^ w) (if d ≤ 2 * r + n / 2 ^ k % 2 then 1 else 0) := by
  obtain ⟨htaken, hbelow⟩ := h.taken hd
  obtain ⟨hq, hlow⟩ := h.split hk hn
  have hnext : n / 2 ^ k / d = 2 * (n / 2 ^ (k + 1) / d) + (2 * r + n / 2 ^ k % 2) / d := by
    conv_lhs => rw [htaken]
    rw [Nat.mul_add_div hd]
  have hmod : n / 2 ^ k % d = (2 * r + n / 2 ^ k % 2) % d := by
    conv_lhs => rw [htaken]
    rw [Nat.mul_add_mod]
  have hdigit : (2 * r + n / 2 ^ k % 2) / d = if d ≤ 2 * r + n / 2 ^ k % 2 then 1 else 0 := by
    split
    · next hle => exact Nat.div_eq_of_lt_le (by omega) (by omega)
    · next hlt => exact Nat.div_eq_of_lt (by omega)
  have hsmall : (2 * r + n / 2 ^ k % 2) / d ≤ 1 := by
    rw [hdigit]
    split <;> omega
  constructor
  · rw [hmod]
    split
    · next hle =>
      have hrest : 2 * r + n / 2 ^ k % 2 - d < d := by omega
      exact ((Nat.mod_eq_sub_mod hle).trans (Nat.mod_eq_of_lt hrest)).symm
    · next hlt => exact (Nat.mod_eq_of_lt (Nat.lt_of_not_le hlt)).symm
  · have hhalf : n / 2 ^ k / d / 2 = n / 2 ^ (k + 1) / d := by omega
    have hw : 2 ^ w = 2 * 2 ^ (w - 1) := by
      rw [← pow_succ']
      congr 1
      omega
    have hplace : 2 * 2 ^ (w - 1 - k) = 2 ^ (w - k) := by
      rw [← pow_succ']
      congr 1
      omega
    have hcarry := h.carry
    have hsum : 2 * q + carry = n / 2 ^ k % 2 * 2 ^ w + (n % 2 ^ k * 2 ^ (w - k) + n / 2 ^ (k + 1) / d) := by
      rw [← hplace, hw, hq]
      have hrejoined : n / 2 ^ (k + 1) / d = 2 * (n / 2 ^ (k + 1) / d / 2) + carry := by omega
      conv_rhs => rw [hrejoined]
      ring
    have hfits : n % 2 ^ k * 2 ^ (w - k) + n / 2 ^ (k + 1) / d < 2 ^ w := by
      rw [hw, ← hplace]
      have hrejoined : n % 2 ^ k * (2 * 2 ^ (w - 1 - k)) = 2 * (n % 2 ^ k * 2 ^ (w - 1 - k)) := by ring
      omega
    rw [hsum, Nat.mul_add_mod_self_right, Nat.mod_eq_of_lt hfits, hhalf]
  · rw [hnext, ← hdigit]
    omega

end Step

/-- With nothing of the dividend left, the last bit completes the quotient. -/
lemma Holds.finish (h : Holds w n d 0 r q carry) : r = n % d ∧ 2 * q + carry = n / d := by
  obtain ⟨hr, hq, hc⟩ := h
  rw [pow_zero, Nat.div_one] at hr hq hc
  rw [Nat.mod_one, Nat.zero_mul, Nat.zero_add] at hq
  exact ⟨hr, by omega⟩

end LongDivision

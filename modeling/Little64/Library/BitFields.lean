import Mathlib

/-! Low-order fields of words: masks of the lowest bits, offsets inside a block of
`2 ^ n` and the block an address lies in. -/

namespace BitFields

variable {w : ℕ}

def lowMask (w n : ℕ) : BitVec w := BitVec.ofNat w (2 ^ n - 1)

lemma getLsbD_lowMask (n k : ℕ) : (lowMask w n).getLsbD k = (decide (k < w) && decide (k < n)) := by
  rw [lowMask, BitVec.getLsbD_ofNat, Nat.testBit_two_pow_sub_one]

lemma toNat_and_lowMask (x : BitVec w) (n : ℕ) : (x &&& lowMask w n).toNat = x.toNat % 2 ^ n := by
  apply Nat.eq_of_testBit_eq
  intro k
  rw [← BitVec.getLsbD, BitVec.getLsbD_and, getLsbD_lowMask, Nat.testBit_mod_two_pow, ← BitVec.getLsbD]
  by_cases hk : k < w
  · simp [hk, Bool.and_comm]
  · simp [BitVec.getLsbD_of_ge x k (by omega)]

lemma toNat_and_not_lowMask (x : BitVec w) (n : ℕ) :
    (x &&& ~~~lowMask w n).toNat = x.toNat / 2 ^ n * 2 ^ n := by
  apply Nat.eq_of_testBit_eq
  intro k
  rw [← BitVec.getLsbD, BitVec.getLsbD_and, BitVec.getLsbD_not, getLsbD_lowMask, Nat.testBit_mul_two_pow,
    Nat.testBit_div_two_pow, ← BitVec.getLsbD]
  by_cases hk : k < w
  · by_cases hn : n ≤ k
    · simp [hk, hn, show ¬ k < n by omega, Nat.sub_add_cancel hn]
    · simp [hk, hn, show k < n by omega]
  · by_cases hn : n ≤ k
    · simp [hk, hn, Nat.sub_add_cancel hn, BitVec.getLsbD_of_ge x k (by omega)]
    · simp [hk, hn]

lemma shiftLeft_and_lowMask (x : BitVec w) (n : ℕ) : x <<< n &&& lowMask w n = 0 := by
  apply BitVec.eq_of_getLsbD_eq
  intro k hk
  rw [BitVec.getLsbD_and, BitVec.getLsbD_shiftLeft, getLsbD_lowMask]
  by_cases hn : k < n <;> simp [hn]

lemma toNat_join (x y : BitVec w) (n : ℕ) :
    ((x &&& ~~~lowMask w n) ||| (y &&& lowMask w n)).toNat = x.toNat / 2 ^ n * 2 ^ n + y.toNat % 2 ^ n := by
  rw [BitVec.toNat_or, toNat_and_lowMask, toNat_and_not_lowMask, Nat.mul_comm,
    Nat.two_pow_add_eq_or_of_lt (Nat.mod_lt _ (Nat.two_pow_pos n))]

lemma and_bit_ne_zero (x : BitVec w) (k : ℕ) (hk : k < w) : (x &&& BitVec.twoPow w k != 0#w) = x.getLsbD k := by
  have hne : BitVec.twoPow w k ≠ 0#w := fun hz => by
    have hb := congrArg (fun y => y.getLsbD k) hz
    simp only [BitVec.getLsbD_twoPow, hk, BitVec.getLsbD_zero] at hb
    exact absurd hb (by decide)
  rw [BitVec.and_twoPow]
  cases x.getLsbD k with
  | true => exact bne_iff_ne.mpr hne
  | false => exact bne_self_eq_false _

lemma ushiftRight_eq_iff (x y : BitVec w) (n : ℕ) :
    x >>> n = y >>> n ↔ x.toNat / 2 ^ n = y.toNat / 2 ^ n := by
  rw [← BitVec.toNat_inj, BitVec.toNat_ushiftRight, BitVec.toNat_ushiftRight, Nat.shiftRight_eq_div_pow,
    Nat.shiftRight_eq_div_pow]

lemma extractLsb'_eq (x : BitVec w) (low width : ℕ) : (x >>> low).setWidth width = x.extractLsb' low width := by
  ext i hi
  simp

lemma spread (n : ℕ) (x high : BitVec w) (hn : 0 < n) (hx : ∀ i, n ≤ i → x.getLsbD i = false)
    (hhigh : ∀ i, i < w → high.getLsbD i = decide (n ≤ i)) :
    (if x.getLsbD (n - 1) then x ||| high else x) = (x.setWidth n).signExtend w := by
  have hmsb : (x.setWidth n).msb = x.getLsbD (n - 1) := by
    rw [BitVec.msb_eq_getLsbD_last, BitVec.getLsbD_setWidth]
    simp [hn]
  ext i hi
  rw [BitVec.getElem_signExtend, hmsb]
  by_cases h : i < n
  · cases x.getLsbD (n - 1) <;> simp [h, hhigh i hi, ← BitVec.getLsbD_eq_getElem, Nat.not_le.2 h]
  · cases hb : x.getLsbD (n - 1) <;>
      simp [h, hhigh i hi, ← BitVec.getLsbD_eq_getElem, hx i (Nat.not_lt.1 h), Nat.not_lt.1 h]

/-- Sign extension of the low bits of a word, by a mask, a test of the sign bit and the bits above it. -/
lemma spread_lowMask (n : ℕ) (x high : BitVec w) (hn : 0 < n) (hw : n ≤ w)
    (hhigh : ∀ i, i < w → high.getLsbD i = decide (n ≤ i)) :
    (if x &&& lowMask w n &&& BitVec.twoPow w (n - 1) ≠ 0#w then x &&& lowMask w n ||| high
      else x &&& lowMask w n) = (x.extractLsb' 0 n).signExtend w := by
  have hlow : (x &&& lowMask w n).setWidth n = x.extractLsb' 0 n := by
    ext i hi
    simp [getLsbD_lowMask, hi, Nat.lt_of_lt_of_le hi hw]
  have hzero : ∀ i, n ≤ i → (x &&& lowMask w n).getLsbD i = false := fun i hi => by
    simp [getLsbD_lowMask, Nat.not_lt.2 hi]
  rw [← hlow, ← spread n _ high hn hzero hhigh]
  simp only [← and_bit_ne_zero _ (n - 1) (show n - 1 < w by omega), bne_iff_ne]

lemma signExtend_signExtend {v u : ℕ} (h : w ≤ v) (x : BitVec w) :
    (x.signExtend v).signExtend u = x.signExtend u := by
  ext i hi
  simp only [BitVec.getElem_signExtend]
  by_cases hv : i < v
  · simp only [hv, dif_pos]
  · have hn : ¬ i < w := by omega
    have hmsb : (x.signExtend v).msb = x.msb := by
      rw [BitVec.msb_signExtend]
      rcases Nat.lt_or_ge w v with hlt | hge
      · simp [Nat.not_le.2 hlt, Nat.lt_of_le_of_lt (Nat.zero_le w) hlt]
      · obtain rfl : v = w := Nat.le_antisymm hge h
        cases v with
        | zero => simp [BitVec.msb]
        | succ v => simp [BitVec.msb]
    simp [hv, hn, hmsb]

lemma signExtend_setWidth_of_range (x : BitVec w) (n : ℕ) (hn : n + 1 ≤ w) (hlow : -(2 ^ n : ℤ) ≤ x.toInt)
    (hhigh : x.toInt < 2 ^ n) : (x.setWidth (n + 1)).signExtend w = x := by
  apply BitVec.eq_of_toInt_eq
  have hdvd : 2 ^ (n + 1) ∣ 2 ^ w := Nat.pow_dvd_pow 2 hn
  have hmod : (x.toNat : ℤ).bmod (2 ^ (n + 1)) = x.toInt.bmod (2 ^ (n + 1)) := by
    rw [BitVec.toInt_eq_toNat_bmod x, Int.bmod_bmod_of_dvd hdvd]
  have hhalf : ((2 ^ (n + 1) : ℕ) : ℤ) = 2 * 2 ^ n := by
    push_cast
    ring
  rw [BitVec.toInt_signExtend_of_le hn, BitVec.toInt_setWidth, hmod]
  apply Int.bmod_eq_of_le
  · rw [hhalf]
    omega
  · rw [hhalf]
    omega

lemma getLsbD_insert (x y : BitVec w) (low width k : ℕ) (hk : k < w) :
    ((x &&& ~~~(lowMask w width <<< low)) ||| ((y &&& lowMask w width) <<< low)).getLsbD k =
      if low ≤ k ∧ k < low + width then y.getLsbD (k - low) else x.getLsbD k := by
  rw [BitVec.getLsbD_or, BitVec.getLsbD_and, BitVec.getLsbD_not, BitVec.getLsbD_shiftLeft, BitVec.getLsbD_shiftLeft,
    BitVec.getLsbD_and, getLsbD_lowMask]
  have hsub : k - low < w := by omega
  by_cases hlow : low ≤ k
  · by_cases hwidth : k < low + width
    · have hin : k - low < width := by omega
      simp [hk, hlow, hwidth, hsub, hin, Nat.not_lt.2 hlow]
    · have hout : ¬ k - low < width := by omega
      simp [hk, hlow, hwidth, hsub, hout]
  · simp [hk, hlow, Nat.not_le.1 hlow]

lemma and_not_eq_zero_iff (x y : BitVec w) :
    x &&& ~~~y = 0#w ↔ ∀ k, x.getLsbD k = true → y.getLsbD k = true := by
  constructor
  · intro h k hx
    have hbit := congrArg (BitVec.getLsbD · k) h
    simpa [hx, BitVec.lt_of_getLsbD hx] using hbit
  · intro h
    apply BitVec.eq_of_getLsbD_eq
    intro k hk
    rw [BitVec.getLsbD_and, BitVec.getLsbD_not, decide_eq_true hk, Bool.true_and, BitVec.getLsbD_zero]
    cases hx : x.getLsbD k with
    | false => exact Bool.false_and _
    | true => rw [h k hx]; rfl

lemma and_eq_left_iff (x y : BitVec w) : x &&& y = x ↔ x &&& ~~~y = 0#w := by
  simp only [BitVec.eq_of_getLsbD_eq_iff, BitVec.getLsbD_and, BitVec.getLsbD_not, BitVec.getLsbD_zero]
  refine forall₂_congr fun i hi => ?_
  cases x.getLsbD i <;> cases y.getLsbD i <;> simp [hi]

lemma or_eq_left_iff (x y : BitVec w) : x ||| y = x ↔ y &&& ~~~x = 0#w := by
  simp only [BitVec.eq_of_getLsbD_eq_iff, BitVec.getLsbD_and, BitVec.getLsbD_or, BitVec.getLsbD_not, BitVec.getLsbD_zero]
  refine forall₂_congr fun i hi => ?_
  cases x.getLsbD i <;> cases y.getLsbD i <;> simp [hi]

lemma xor_eq_left_iff (x y : BitVec w) : x ^^^ y = x ↔ y = 0#w := by
  simp only [BitVec.eq_of_getLsbD_eq_iff, BitVec.getLsbD_xor, BitVec.getLsbD_zero]
  refine forall₂_congr fun i hi => ?_
  cases x.getLsbD i <;> cases y.getLsbD i <;> simp

/-- A shift by a positive count maps a word to itself only where no bit moves. -/
lemma shiftLeft_eq_self_iff (x : BitVec w) {n : ℕ} (hn : 0 < n) : x <<< n = x ↔ x = 0#w := by
  constructor
  · intro h
    apply BitVec.eq_of_getLsbD_eq
    intro i
    induction i using Nat.strong_induction_on with
    | _ i ih =>
      intro hi
      rw [← h, BitVec.getLsbD_shiftLeft]
      by_cases hlow : i < n
      · simp [hlow]
      · simp [ih (i - n) (by omega) (by omega)]
  · rintro rfl
    simp

lemma ushiftRight_eq_self_iff (x : BitVec w) {n : ℕ} (hn : 0 < n) : x >>> n = x ↔ x = 0#w := by
  constructor
  · intro h
    have hdiv : x.toNat / 2 ^ n = x.toNat := by
      rw [← Nat.shiftRight_eq_div_pow, ← BitVec.toNat_ushiftRight, h]
    apply BitVec.eq_of_toNat_eq
    rcases Nat.eq_zero_or_pos x.toNat with hz | hp
    · simpa using hz
    · exact absurd hdiv (Nat.div_lt_self hp (Nat.one_lt_two_pow hn.ne')).ne
  · rintro rfl
    simp

lemma sshiftRight_eq_self_iff (x : BitVec w) {n : ℕ} (hn : 0 < n) :
    x.sshiftRight n = x ↔ x = 0#w ∨ x = BitVec.allOnes w := by
  constructor
  · intro h
    have hbits : ∀ k i, i < w → w ≤ i + k → x.getLsbD i = x.msb := by
      intro k
      induction k with
      | zero => intro i hi hk; omega
      | succ k ih =>
        intro i hi hk
        rw [← h, BitVec.getLsbD_sshiftRight]
        by_cases hin : n + i < w
        · simpa [Nat.not_le.2 hi, hin] using ih (n + i) hin (by omega)
        · simp [Nat.not_le.2 hi, hin, h]
    cases hm : x.msb with
    | false =>
      refine .inl (BitVec.eq_of_getLsbD_eq fun i hi => ?_)
      rw [hbits w i hi (by omega), hm]
      simp
    | true =>
      refine .inr (BitVec.eq_of_getLsbD_eq fun i hi => ?_)
      rw [hbits w i hi (by omega), hm]
      simp [hi]
  · rintro (rfl | rfl)
    · simp
    · apply BitVec.eq_of_getLsbD_eq
      intro i hi
      rw [BitVec.getLsbD_sshiftRight]
      by_cases hin : n + i < w
      · simp [Nat.not_le.2 hi, hin, hi]
      · simp [Nat.not_le.2 hi, hin, hi, BitVec.msb_allOnes (Nat.lt_of_le_of_lt (Nat.zero_le i) hi)]
end BitFields

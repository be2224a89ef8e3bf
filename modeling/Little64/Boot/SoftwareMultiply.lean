import Little64.Library.ShiftAdd

/-! The multiplication that stage 0 brings along for a machine without one. -/

namespace Little64.Boot

open ShiftAdd

abbrev U64 := BitVec 64
abbrev S64 := BitVec 64

/-- The variables of the loop. -/
structure Multiplication where
  multiplicand : U64
  multiplier : U64
  result : U64
  deriving DecidableEq, Repr

namespace Multiplication

def body (m : Multiplication) : Multiplication where
  multiplicand := m.multiplicand <<< 1
  multiplier := m.multiplier >>> 1
  result := if m.multiplier &&& 1 ≠ 0 then m.result + m.multiplicand else m.result

/-- The loop, if it ends within so many rounds. -/
def loop : ℕ → Multiplication → Option U64
  | 0, m => if m.multiplier ≠ 0 then none else some m.result
  | rounds + 1, m => if m.multiplier ≠ 0 then loop rounds m.body else some m.result

end Multiplication

/-- The negation of the most negative value is that value, as in the target's arithmetic. -/
def muldi3 (rounds : ℕ) (a b : S64) : Option S64 := do
  let multiplicand := if a.slt 0 then -a else a
  let multiplier := if b.slt 0 then -b else b
  let negate := a.slt 0 ^^ b.slt 0
  let result ← Multiplication.loop rounds ⟨multiplicand, multiplier, 0⟩
  return if negate then -result else result

namespace Multiplication

/-- The variables as a sum of words that is being added up. -/
def toPartial (m : Multiplication) : Partial U64 := ⟨m.result, m.multiplicand, m.multiplier.toNat⟩

lemma and_one_ne_zero_iff (x : U64) : x &&& 1 ≠ 0 ↔ x.toNat % 2 = 1 := by
  have hbit : (x &&& 1).toNat = x.toNat % 2 := by
    rw [BitVec.toNat_and]
    exact Nat.and_one_is_mod x.toNat
  rw [Ne, ← BitVec.toNat_inj, hbit]
  change ¬ x.toNat % 2 = 0 ↔ _
  omega

lemma toPartial_body (m : Multiplication) : m.body.toPartial = m.toPartial.body := by
  have haddend : m.multiplicand <<< 1 = m.multiplicand + m.multiplicand := by
    rw [BitVec.shiftLeft_eq_mul_twoPow]
    exact BitVec.mul_two
  have hcount : (m.multiplier >>> 1).toNat = m.multiplier.toNat / 2 := by
    rw [BitVec.toNat_ushiftRight, Nat.shiftRight_eq_div_pow, pow_one]
  rw [toPartial, toPartial, Partial.body, body, haddend, hcount]
  simp only [and_one_ne_zero_iff]

/-- The loop ends when its rounds cover the bits of the multiplier, and has then added up everything. -/
lemma loop_eq (rounds : ℕ) (m : Multiplication) (h : m.multiplier.toNat < 2 ^ rounds) :
    loop rounds m = some m.toPartial.total := by
  have hdone : ∀ m : Multiplication, m.multiplier = 0 → some m.result = some m.toPartial.total := by
    intro m hzero
    have hcount : m.toPartial.count = 0 := congrArg BitVec.toNat hzero
    exact congrArg some (m.toPartial.result_eq_total hcount)
  induction rounds generalizing m with
  | zero =>
    have hzero : m.multiplier = 0 := BitVec.eq_of_toNat_eq (Nat.lt_one_iff.mp h)
    rw [loop, if_neg (not_not.mpr hzero), hdone m hzero]
  | succ rounds ih =>
    rw [loop]
    by_cases hzero : m.multiplier = 0
    · rw [if_neg (not_not.mpr hzero), hdone m hzero]
    · have hhalf : m.body.multiplier.toNat < 2 ^ rounds := by
        change (m.multiplier >>> 1).toNat < _
        rw [BitVec.toNat_ushiftRight, Nat.shiftRight_eq_div_pow, pow_one]
        rw [pow_succ] at h
        omega
      rw [if_pos hzero, ih m.body hhalf, toPartial_body, Partial.total_body]

lemma loop_start {rounds : ℕ} (h : 64 ≤ rounds) (a b : U64) : loop rounds ⟨a, b, 0⟩ = some (a * b) := by
  have hbits : b.toNat < 2 ^ rounds := b.isLt.trans_le (Nat.pow_le_pow_right (by decide) h)
  have hcast : ((b.toNat : ℕ) : U64) = b := BitVec.eq_of_toNat_eq (Nat.mod_eq_of_lt b.isLt)
  have htotal : (toPartial ⟨a, b, 0⟩).total = a * b := by
    change 0 + b.toNat • a = a * b
    rw [zero_add, nsmul_eq_mul, hcast, mul_comm]
  rw [loop_eq rounds ⟨a, b, 0⟩ hbits, htotal]

end Multiplication

variable {rounds : ℕ}

lemma muldi3_eq_mul (h : 64 ≤ rounds) (a b : S64) : muldi3 rounds a b = some (a * b) := by
  rw [muldi3, Multiplication.loop_start h]
  change some (ite _ _ _) = _
  congr 1
  cases a.slt 0 <;> cases b.slt 0
  · rfl
  · calc -(a * -b) = -(-(a * b)) := by rw [mul_neg]
      _ = a * b := neg_neg _
  · calc -(-a * b) = -(-(a * b)) := by rw [neg_mul]
      _ = a * b := neg_neg _
  · exact neg_mul_neg a b

/-- Every product is found modulo `2 ^ 64`, in a round for each bit of a word at most. -/
theorem muldi3_eq (a b : S64) (h : 64 ≤ rounds) :
    muldi3 rounds a b = some (BitVec.ofInt 64 (a.toInt * b.toInt)) := by
  rw [muldi3_eq_mul h, BitVec.ofInt_mul, BitVec.ofInt_toInt, BitVec.ofInt_toInt]

theorem muldi3_most_negative : muldi3 64 (BitVec.intMin 64) (-1) = some (BitVec.intMin 64) :=
  muldi3_eq (BitVec.intMin 64) (-1) le_rfl

/-- The CoreMark port brings along the loop alone, on the words as they are. -/
def coremarkMuldi3 (rounds : ℕ) (a b : S64) : Option S64 := Multiplication.loop rounds ⟨a, b, 0⟩

/-- Leaving out the signs makes no difference. -/
theorem coremarkMuldi3_eq (a b : S64) (h : 64 ≤ rounds) : coremarkMuldi3 rounds a b = muldi3 rounds a b := by
  rw [coremarkMuldi3, Multiplication.loop_start h, muldi3_eq_mul h]

end Little64.Boot

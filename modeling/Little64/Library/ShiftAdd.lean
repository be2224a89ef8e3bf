import Mathlib

/-! Multiplication by shifting and adding: a loop over the bits of a count that keeps a sum, in a commutative monoid. -/

namespace ShiftAdd

variable {M : Type*} [AddCommMonoid M]

/-- What is added up so far, what is added next, and how often it is still to be added. -/
structure Partial (M : Type*) where
  result : M
  addend : M
  count : ℕ

namespace Partial

def body (p : Partial M) : Partial M where
  result := if p.count % 2 = 1 then p.result + p.addend else p.result
  addend := p.addend + p.addend
  count := p.count / 2

def total (p : Partial M) : M := p.result + p.count • p.addend

variable (p : Partial M)

lemma total_body : p.body.total = p.total := by
  have hhalves : p.count • p.addend = (p.count / 2) • (p.addend + p.addend) + (p.count % 2) • p.addend := by
    rw [← two_nsmul, ← mul_nsmul, ← add_nsmul, Nat.div_add_mod]
  rw [total, total, hhalves, body]
  rcases Nat.mod_two_eq_zero_or_one p.count with heven | hodd
  · rw [if_neg (by omega), heven, zero_nsmul, add_zero]
  · rw [if_pos hodd, hodd, one_nsmul, add_comm ((p.count / 2) • (p.addend + p.addend)), add_assoc]

/-- When nothing is left to be added, everything has been. -/
lemma result_eq_total (h : p.count = 0) : p.result = p.total := by rw [total, h, zero_nsmul, add_zero]

end Partial

end ShiftAdd

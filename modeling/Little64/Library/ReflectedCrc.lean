import Little64.Library.BitFields

/-! Reflected cyclic redundancy checks: the register moves on bit by bit, or by several bits with a table. -/

namespace ReflectedCrc

open BitFields

variable {w : ℕ} {poly crc : BitVec w}

/-- The register moves down by a bit; where a bit falls out, the polynomial is taken away. -/
def shift (poly crc : BitVec w) : BitVec w := if crc.getLsbD 0 then crc >>> 1 ^^^ poly else crc >>> 1

lemma shift_xor (a b : BitVec w) : shift poly (a ^^^ b) = shift poly a ^^^ shift poly b := by
  rw [shift, shift, shift, BitVec.getLsbD_xor, BitVec.ushiftRight_xor_distrib]
  cases a.getLsbD 0 with
  | false =>
    cases b.getLsbD 0 with
    | false => rfl
    | true => exact BitVec.xor_assoc _ _ _
  | true =>
    cases b.getLsbD 0 with
    | false =>
      change a >>> 1 ^^^ b >>> 1 ^^^ poly = a >>> 1 ^^^ poly ^^^ b >>> 1
      rw [BitVec.xor_assoc, BitVec.xor_comm (b >>> 1), BitVec.xor_assoc]
    | true =>
      change a >>> 1 ^^^ b >>> 1 = a >>> 1 ^^^ poly ^^^ (b >>> 1 ^^^ poly)
      rw [BitVec.xor_comm (b >>> 1) poly, BitVec.xor_assoc, ← BitVec.xor_assoc poly, BitVec.xor_self, BitVec.zero_xor]

lemma iterate_shift_xor (n : ℕ) (a b : BitVec w) :
    (shift poly)^[n] (a ^^^ b) = (shift poly)^[n] a ^^^ (shift poly)^[n] b := by
  induction n generalizing a b with
  | zero => rfl
  | succ n ih =>
    rw [Function.iterate_succ_apply, Function.iterate_succ_apply, Function.iterate_succ_apply, shift_xor]
    exact ih _ _

lemma iterate_shift_of_low_zero {n : ℕ} (h : ∀ k < n, crc.getLsbD k = false) :
    (shift poly)^[n] crc = crc >>> n := by
  induction n generalizing crc with
  | zero => exact (BitVec.ushiftRight_zero crc).symm
  | succ n ih =>
    have hfirst : shift poly crc = crc >>> 1 := by
      rw [shift, h 0 (Nat.succ_pos n)]
      rfl
    rw [Function.iterate_succ_apply, hfirst, ih, ← BitVec.shiftRight_add, Nat.add_comm]
    intro k hk
    rw [BitVec.getLsbD_ushiftRight]
    exact h (1 + k) (by omega)

/-- Several bits at once: the bits that fall out decide what is taken away, the others move down. -/
theorem iterate_shift_eq (n : ℕ) (crc : BitVec w) :
    (shift poly)^[n] crc = (shift poly)^[n] (crc &&& lowMask w n) ^^^ crc >>> n := by
  have hsplit : (crc &&& lowMask w n) ^^^ (crc &&& ~~~lowMask w n) = crc := by
    apply BitVec.eq_of_getLsbD_eq
    intro k hk
    rw [BitVec.getLsbD_xor, BitVec.getLsbD_and, BitVec.getLsbD_and, BitVec.getLsbD_not, decide_eq_true hk]
    cases crc.getLsbD k <;> cases (lowMask w n).getLsbD k <;> rfl
  have hlow : ∀ k < n, (crc &&& ~~~lowMask w n).getLsbD k = false := by
    intro k hk
    rw [BitVec.getLsbD_and, BitVec.getLsbD_not, getLsbD_lowMask, decide_eq_true hk, Bool.and_true, Bool.and_not_self,
      Bool.and_false]
  have hhigh : (crc &&& ~~~lowMask w n) >>> n = crc >>> n := by
    apply BitVec.eq_of_getLsbD_eq
    intro k hk
    rw [BitVec.getLsbD_ushiftRight, BitVec.getLsbD_ushiftRight, BitVec.getLsbD_and, BitVec.getLsbD_not, getLsbD_lowMask,
      decide_eq_false (by omega : ¬ n + k < n), Bool.and_false, Bool.not_false, Bool.and_true]
    by_cases hw : n + k < w
    · rw [decide_eq_true hw, Bool.and_true]
    · rw [BitVec.getLsbD_of_ge crc _ (by omega), Bool.false_and]
  calc (shift poly)^[n] crc = (shift poly)^[n] ((crc &&& lowMask w n) ^^^ (crc &&& ~~~lowMask w n)) := by rw [hsplit]
    _ = (shift poly)^[n] (crc &&& lowMask w n) ^^^ (crc &&& ~~~lowMask w n) >>> n := by
      rw [iterate_shift_xor, iterate_shift_of_low_zero hlow]
    _ = _ := by rw [hhigh]

end ReflectedCrc

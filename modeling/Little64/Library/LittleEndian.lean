import Mathlib

/-! Words as little-endian byte strings: selecting bytes, assembling them, and
cutting a word down to its low bytes. -/

namespace LittleEndian

variable {w : ℕ}

abbrev Byte := BitVec 8

def byteAt (v : BitVec w) (i : ℕ) : Byte := v.extractLsb' (8 * i) 8

def assemble (w : ℕ) (f : ℕ → Byte) : ℕ → BitVec w
  | 0 => 0
  | n + 1 => assemble w f n ||| ((f n).setWidth w <<< (8 * n))

def lowBytes (n : ℕ) (v : BitVec w) : BitVec w := assemble w (byteAt v) n

lemma getLsbD_byteAt (v : BitVec w) (i k : ℕ) :
    (byteAt v i).getLsbD k = (decide (k < 8) && v.getLsbD (8 * i + k)) := by
  simp [byteAt, BitVec.getLsbD_extractLsb']

lemma getLsbD_assemble (f : ℕ → Byte) (n k : ℕ) :
    (assemble w f n).getLsbD k =
      (decide (k < w) && decide (k < 8 * n) && (f (k / 8)).getLsbD (k % 8)) := by
  induction n with
  | zero => simp [assemble]
  | succ n ih =>
    simp only [assemble, BitVec.getLsbD_or, ih, BitVec.getLsbD_shiftLeft, BitVec.getLsbD_setWidth]
    by_cases hw : k < w
    · rcases Nat.lt_trichotomy k (8 * n) with hk | hk | hk
      · simp [hw, hk, show k < 8 * (n + 1) by omega]
      · subst hk
        simp [show 8 * n < 8 * (n + 1) by omega, hw, show 0 < w by omega]
      · by_cases hn : k < 8 * (n + 1)
        · have hd : k / 8 = n := by omega
          have hm : k % 8 = k - 8 * n := by omega
          simp [hw, hn, hd, hm, show ¬ k < 8 * n by omega, show k - 8 * n < w by omega]
        · have hb : (f n).getLsbD (k - 8 * n) = false := BitVec.getLsbD_of_ge _ _ (by omega)
          simp [hw, hn, hb, show ¬ k < 8 * n by omega]
    · simp [hw]

@[simp] lemma byteAt_assemble (f : ℕ → Byte) (n i : ℕ) (hi : i < n) (hw : 8 * i + 8 ≤ w) :
    byteAt (assemble w f n) i = f i := by
  apply BitVec.eq_of_getLsbD_eq
  intro k hk
  rw [getLsbD_byteAt, getLsbD_assemble]
  have hd : (8 * i + k) / 8 = i := by omega
  have hm : (8 * i + k) % 8 = k := by omega
  simp [hk, hd, hm, show 8 * i + k < w by omega, show 8 * i + k < 8 * n by omega]

lemma byteAt_zero (b : Byte) : byteAt b 0 = b := by
  apply BitVec.eq_of_getLsbD_eq
  intro k hk
  rw [getLsbD_byteAt]
  simp [hk]

lemma eq_of_byteAt_eq {u v : BitVec w} (h : ∀ i, 8 * i < w → byteAt u i = byteAt v i) : u = v := by
  apply BitVec.eq_of_getLsbD_eq
  intro k hk
  have hb := congrArg (fun b => b.getLsbD (k % 8)) (h (k / 8) (by omega))
  simp only [getLsbD_byteAt] at hb
  have hs : 8 * (k / 8) + k % 8 = k := by omega
  simpa [hs, show k % 8 < 8 by omega] using hb

lemma assemble_congr {f g : ℕ → Byte} {n : ℕ} (h : ∀ i, i < n → f i = g i) :
    assemble w f n = assemble w g n := by
  induction n with
  | zero => rfl
  | succ n ih => simp only [assemble, ih (fun i hi => h i (by omega)), h n (by omega)]

lemma lowBytes_all (n : ℕ) (v : BitVec w) (hw : w ≤ 8 * n) : lowBytes n v = v := by
  apply BitVec.eq_of_getLsbD_eq
  intro k hk
  have hs : 8 * (k / 8) + k % 8 = k := by omega
  rw [lowBytes, getLsbD_assemble, getLsbD_byteAt, hs]
  simp [hk, show k < 8 * n by omega, show k % 8 < 8 by omega]

lemma assemble_append {u : ℕ} (f : ℕ → Byte) (n m : ℕ) (hn : 8 * n ≤ u) (hm : 8 * m ≤ u) :
    assemble w f (n + m) =
      (assemble u f n).setWidth w ||| ((assemble u (fun i => f (n + i)) m).setWidth w <<< (8 * n)) := by
  apply BitVec.eq_of_getLsbD_eq
  intro k hk
  simp only [BitVec.getLsbD_or, BitVec.getLsbD_shiftLeft, BitVec.getLsbD_setWidth, getLsbD_assemble, hk,
    decide_true, Bool.true_and]
  by_cases hl : k < 8 * n
  · simp [hl, show k < 8 * (n + m) by omega, show k < u by omega]
  · have hd : n + (k - 8 * n) / 8 = k / 8 := by omega
    have hr : (k - 8 * n) % 8 = k % 8 := by omega
    have hb : decide (k < 8 * (n + m)) = decide (k - 8 * n < 8 * m) := by
      rw [decide_eq_decide]; omega
    by_cases hu : k - 8 * n < 8 * m
    · simp [hl, hd, hr, hu, hb, show k - 8 * n < w by omega, show k - 8 * n < u by omega]
    · simp [hl, hu, hb]

lemma assemble_one (f : ℕ → Byte) : assemble 8 f 1 = f 0 := by
  simp [assemble]

lemma byteAt_setWidth {u : ℕ} (v : BitVec w) (i : ℕ) (hu : 8 * i + 8 ≤ u) :
    byteAt (v.setWidth u) i = byteAt v i := by
  apply BitVec.eq_of_getLsbD_eq
  intro k hk
  rw [getLsbD_byteAt, getLsbD_byteAt, BitVec.getLsbD_setWidth]
  simp [hk, show 8 * i + k < u by omega]

lemma byteAt_ushiftRight (v : BitVec w) (n i : ℕ) : byteAt (v >>> (8 * n)) i = byteAt v (n + i) := by
  apply BitVec.eq_of_getLsbD_eq
  intro k hk
  rw [getLsbD_byteAt, getLsbD_byteAt, BitVec.getLsbD_ushiftRight, Nat.mul_add, Nat.add_assoc]

lemma and_mask_eq_lowBytes (n : ℕ) (v m : BitVec w)
    (hm : ∀ k, k < w → m.getLsbD k = decide (k < 8 * n)) : v &&& m = lowBytes n v := by
  apply BitVec.eq_of_getLsbD_eq
  intro k hk
  have hs : 8 * (k / 8) + k % 8 = k := by omega
  rw [lowBytes, getLsbD_assemble, getLsbD_byteAt, hs, BitVec.getLsbD_and, hm k hk]
  simp [hk, show k % 8 < 8 by omega, Bool.and_comm]

end LittleEndian

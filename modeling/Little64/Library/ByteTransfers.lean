import Little64.Library.ByteMemory

/-! Copy loops over byte-addressed memory, and what they leave where they do not write over what they have yet to read. -/

namespace ByteMemory

open LittleEndian

variable {a : ℕ}

/-- A loop that copies `n` pieces of `k` bytes upwards. -/
def copyPieces (k : ℕ) : ℕ → Memory a → BitVec a → BitVec a → Memory a
  | 0, m, _, _ => m
  | n + 1, m, destination, source =>
    copyPieces k n (store m destination k (load (8 * k) m source k)) (destination + BitVec.ofNat a k)
      (source + BitVec.ofNat a k)

/-- The memory with a range of it copied to another place. -/
def transferred (m : Memory a) (destination source : BitVec a) (size : ℕ) : Memory a := fun x =>
  if InRange destination size x then m (source + (x - destination)) else m x

/-- No byte of the source lies in the destination. -/
def Apart (destination source : BitVec a) (size : ℕ) : Prop :=
  ∀ i < size, ¬ InRange destination size (source + BitVec.ofNat a i)

lemma transferred_of_inRange (m : Memory a) {destination source x : BitVec a} {size : ℕ}
    (h : InRange destination size x) : transferred m destination source size x = m (source + (x - destination)) :=
  if_pos h

lemma transferred_of_not_inRange (m : Memory a) {destination source x : BitVec a} {size : ℕ}
    (h : ¬ InRange destination size x) : transferred m destination source size x = m x :=
  if_neg h

lemma store_load_eq (m : Memory a) (destination source : BitVec a) (k : ℕ) :
    store m destination k (load (8 * k) m source k) = transferred m destination source k := by
  funext x
  unfold store transferred
  split
  · next h =>
    rw [byteAt_load m source k _ h (by rw [InRange] at h; omega)]
    rw [BitVec.ofNat_toNat, BitVec.setWidth_eq]
  · rfl

lemma Apart.mono {destination source : BitVec a} {n m : ℕ} (h : Apart destination source m) (hn : n ≤ m) :
    Apart destination source n := fun i hi hin => h i (hi.trans_le hn) (hin.mono hn)

lemma transferred_add (m : Memory a) {destination source : BitVec a} {n k : ℕ} (h : Apart destination source (n + k))
    (hsize : n + k < 2 ^ a) :
    transferred (transferred m destination source n) (destination + BitVec.ofNat a n) (source + BitVec.ofNat a n) k =
      transferred m destination source (n + k) := by
  funext x
  have hrange := inRange_append destination x n k hsize
  by_cases hsecond : InRange (destination + BitVec.ofNat a n) k x
  · have hplace : source + BitVec.ofNat a n + (x - (destination + BitVec.ofNat a n)) = source + (x - destination) := by
      ring
    have hoffset := offset_of_inRange hsecond
    have hunread : ¬ InRange destination n (source + (x - destination)) := by
      intro hin
      have hwhole := hrange.mpr (.inr hsecond)
      apply h (x - destination).toNat hwhole
      rw [BitVec.ofNat_toNat, BitVec.setWidth_eq]
      exact hin.mono (Nat.le_add_right n k)
    rw [transferred_of_inRange _ hsecond, hplace, transferred_of_not_inRange _ hunread,
      transferred_of_inRange _ (hrange.mpr (.inr hsecond))]
  · rw [transferred_of_not_inRange _ hsecond]
    unfold transferred
    by_cases hfirst : InRange destination n x
    · rw [if_pos hfirst, if_pos (hrange.mpr (.inl hfirst))]
    · rw [if_neg hfirst, if_neg fun hin => (hrange.mp hin).elim hfirst hsecond]

lemma copyPieces_eq {k n : ℕ} (m : Memory a) {destination source : BitVec a}
    (h : Apart destination source (n * k)) (hsize : n * k < 2 ^ a) :
    copyPieces k n m destination source = transferred m destination source (n * k) := by
  induction n generalizing m destination source with
  | zero =>
    funext x
    rw [Nat.zero_mul, transferred_of_not_inRange _ (Nat.not_lt_zero _)]
    rfl
  | succ n ih =>
    have hsplit : (n + 1) * k = k + n * k := by ring
    rw [hsplit] at h hsize ⊢
    rw [copyPieces, store_load_eq, ih, transferred_add m h hsize]
    · intro i hi hin
      apply h (k + i) (by omega)
      rw [inRange_append _ _ _ _ hsize, offset_add]
      exact .inr hin
    · omega

end ByteMemory

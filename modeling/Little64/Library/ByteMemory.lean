import Little64.Library.LittleEndian

/-! Byte-addressed memory with a wrapping address space: multi-byte loads and
stores, and how they overlay each other. -/

namespace ByteMemory

open LittleEndian

variable {a w : ℕ}

abbrev Memory (a : ℕ) := BitVec a → Byte

def InRange (addr : BitVec a) (n : ℕ) (x : BitVec a) : Prop := (x - addr).toNat < n

instance (addr : BitVec a) (n : ℕ) (x : BitVec a) : Decidable (InRange addr n x) :=
  inferInstanceAs (Decidable (_ < _))

def load (w : ℕ) (m : Memory a) (addr : BitVec a) (n : ℕ) : BitVec w :=
  assemble w (fun i => m (addr + BitVec.ofNat a i)) n

def store (m : Memory a) (addr : BitVec a) (n : ℕ) (v : BitVec w) : Memory a := fun x =>
  if InRange addr n x then byteAt v (x - addr).toNat else m x

def Overlap (addr : BitVec a) (n : ℕ) (addr' : BitVec a) (n' : ℕ) : Prop :=
  ∃ x, InRange addr n x ∧ InRange addr' n' x

lemma offset_add (addr : BitVec a) (n i : ℕ) :
    addr + BitVec.ofNat a (n + i) = addr + BitVec.ofNat a n + BitVec.ofNat a i := by
  rw [BitVec.ofNat_add, BitVec.add_assoc]

lemma inRange_offset (addr : BitVec a) (n i : ℕ) (hi : i < n) (hn : n ≤ 2 ^ a) :
    InRange addr n (addr + BitVec.ofNat a i) := by
  have he : addr + BitVec.ofNat a i - addr = BitVec.ofNat a i := by
    rw [BitVec.add_comm, BitVec.add_sub_cancel]
  rw [InRange, he, BitVec.toNat_ofNat, Nat.mod_eq_of_lt (by omega)]
  exact hi

lemma offset_of_inRange {addr x : BitVec a} {n : ℕ} (_ : InRange addr n x) :
    x = addr + BitVec.ofNat a (x - addr).toNat := by
  rw [BitVec.ofNat_toNat, BitVec.setWidth_eq, BitVec.add_comm, BitVec.sub_add_cancel]

lemma inRange_iff (addr x : BitVec a) (n : ℕ) (hn : n ≤ 2 ^ a) :
    InRange addr n x ↔ ∃ i, i < n ∧ x = addr + BitVec.ofNat a i :=
  ⟨fun h => ⟨_, h, offset_of_inRange h⟩, by rintro ⟨i, hi, rfl⟩; exact inRange_offset addr n i hi hn⟩

lemma offset_sub (addr x : BitVec a) (n : ℕ) (hn : n < 2 ^ a) :
    (x - (addr + BitVec.ofNat a n)).toNat =
      if (x - addr).toNat < n then (x - addr).toNat + (2 ^ a - n) else (x - addr).toNat - n := by
  have hs : x - (addr + BitVec.ofNat a n) = x - addr - BitVec.ofNat a n := by
    simp only [BitVec.sub_eq_add_neg, BitVec.neg_add, BitVec.add_assoc]
  have hd := (x - addr).isLt
  have hnn : (BitVec.ofNat a n).toNat = n := by rw [BitVec.toNat_ofNat, Nat.mod_eq_of_lt hn]
  rw [hs, BitVec.toNat_sub, hnn]
  split
  · rw [Nat.mod_eq_of_lt (by omega)]; omega
  · rw [show 2 ^ a - n + (x - addr).toNat = (x - addr).toNat - n + 2 ^ a by omega, Nat.add_mod_right,
      Nat.mod_eq_of_lt (by omega)]

lemma inRange_append (addr x : BitVec a) (n m : ℕ) (hm : n + m < 2 ^ a) :
    InRange addr (n + m) x ↔ InRange addr n x ∨ InRange (addr + BitVec.ofNat a n) m x := by
  simp only [InRange, offset_sub addr x n (by omega)]
  split <;> omega

lemma toNat_sub_cases (x y : BitVec a) :
    y.toNat ≤ x.toNat ∧ (x - y).toNat = x.toNat - y.toNat ∨
      x.toNat < y.toNat ∧ (x - y).toNat = x.toNat + 2 ^ a - y.toNat := by
  have hx := x.isLt
  have hy := y.isLt
  rw [BitVec.toNat_sub]
  rcases Nat.lt_or_ge x.toNat y.toNat with h | h
  · exact .inr ⟨h, by rw [Nat.mod_eq_of_lt] <;> omega⟩
  · refine .inl ⟨h, ?_⟩
    have he : 2 ^ a - y.toNat + x.toNat = x.toNat - y.toNat + 2 ^ a := by omega
    rw [he, Nat.add_mod_right, Nat.mod_eq_of_lt (by omega)]

lemma overlap_iff (addr addr' : BitVec a) (n n' : ℕ) :
    Overlap addr n addr' n' ↔ 0 < n ∧ 0 < n' ∧ (InRange addr n addr' ∨ InRange addr' n' addr) := by
  simp only [Overlap, InRange]
  constructor
  · rintro ⟨x, hx, hx'⟩
    refine ⟨by omega, by omega, ?_⟩
    have h1 := x.isLt
    rcases toNat_sub_cases x addr with h | h <;> rcases toNat_sub_cases x addr' with h' | h' <;>
      rcases toNat_sub_cases addr addr' with h2 | h2 <;> rcases toNat_sub_cases addr' addr with h3 | h3 <;> omega
  · rintro ⟨hn, hn', h | h⟩
    · exact ⟨addr', h, by simpa using hn'⟩
    · exact ⟨addr, by simpa using hn, h⟩

instance (addr addr' : BitVec a) (n n' : ℕ) : Decidable (Overlap addr n addr' n') :=
  decidable_of_iff _ (overlap_iff addr addr' n n').symm

lemma InRange.mono {addr x : BitVec a} {n m : ℕ} (h : InRange addr n x) (hm : n ≤ m) : InRange addr m x :=
  Nat.lt_of_lt_of_le h hm

lemma store_of_inRange (m : Memory a) (addr : BitVec a) (n : ℕ) (v : BitVec w) {x : BitVec a}
    (h : InRange addr n x) : store m addr n v x = byteAt v (x - addr).toNat := if_pos h

lemma store_of_not_inRange (m : Memory a) (addr : BitVec a) (n : ℕ) (v : BitVec w) {x : BitVec a}
    (h : ¬ InRange addr n x) : store m addr n v x = m x := if_neg h

@[simp] lemma store_zero (m : Memory a) (addr : BitVec a) (v : BitVec w) : store m addr 0 v = m :=
  funext fun _ => if_neg (Nat.not_lt_zero _)

lemma byteAt_load (m : Memory a) (addr : BitVec a) (n i : ℕ) (hi : i < n) (hw : 8 * i + 8 ≤ w) :
    byteAt (load w m addr n) i = m (addr + BitVec.ofNat a i) := byteAt_assemble _ n i hi hw

end ByteMemory

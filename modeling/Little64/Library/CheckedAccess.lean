import Little64.Library.LittleEndian

/-! Byte vectors read and written at checked offsets, and programs that either give a result, reject
their input, or leave the vector. -/

namespace CheckedAccess

open LittleEndian

abbrev Blob := List Byte

inductive Fault (ε : Type)
  | rejected (reason : ε)
  | outOfBounds
  deriving DecidableEq, Repr

abbrev Checked (ε α : Type) := Except (Fault ε) α

variable {ε α β : Type} {w : ℕ}

def reject (reason : ε) : Checked ε α := .error (.rejected reason)

def read (w : ℕ) (b : Blob) (off n : ℕ) : Checked ε (BitVec w) :=
  if off + n ≤ b.length then .ok (assemble w (fun i => b.getD (off + i) 0) n) else .error .outOfBounds

def slice (b : Blob) (off n : ℕ) : Checked ε Blob :=
  if off + n ≤ b.length then .ok ((b.drop off).take n) else .error .outOfBounds

def bytesOf (v : BitVec w) (n : ℕ) : Blob := (List.range n).map (byteAt v)

/-- Some bytes of a vector replaced. -/
def patch (b : Blob) (off : ℕ) (bytes : Blob) : Blob := b.take off ++ bytes ++ b.drop (off + bytes.length)

def write (b : Blob) (off n : ℕ) (v : BitVec w) : Checked ε Blob :=
  if off + n ≤ b.length then .ok (patch b off (bytesOf v n)) else .error .outOfBounds

/-- So many bytes of one vector copied into another. -/
def copy (n : ℕ) (src : Blob) (off : ℕ) (dest : Blob) (place : ℕ) : Checked ε Blob :=
  if n = 0 ∨ off + n ≤ src.length ∧ place + n ≤ dest.length then .ok (patch dest place ((src.drop off).take n))
  else .error .outOfBounds

/-- The bytes from an offset up to a zero byte, at most so many. -/
def readString (b : Blob) : ℕ → ℕ → Checked ε Blob
  | _, 0 => .ok []
  | off, n + 1 =>
    match b[off]? with
    | none => .error .outOfBounds
    | some byte => if byte = 0 then .ok [] else (readString b (off + 1) n).map (byte :: ·)

/-- The program stays inside the vectors it is given. -/
def Contained (x : Checked ε α) : Prop := x ≠ .error .outOfBounds

/-- A range check in 64-bit arithmetic has the outcome that it has in integers. -/
def Exact (bound : ℕ) (off size : BitVec 64) : Prop := (off + size).toNat ≤ bound ↔ off.toNat + size.toNat ≤ bound

/-- The sum of a range check does not wrap around to a value that passes. -/
def NoWrap (bound : ℕ) (off size : BitVec 64) : Prop :=
  off.toNat + size.toNat < 2 ^ 64 ∨ bound + 2 ^ 64 < off.toNat + size.toNat

section RangeChecks

variable {bound : ℕ} {off size : BitVec 64}

lemma toNat_add_of_le (h : off.toNat + size.toNat ≤ bound) (hbound : bound < 2 ^ 64) :
    (off + size).toNat = off.toNat + size.toNat := by
  rw [BitVec.toNat_add, Nat.mod_eq_of_lt (by omega)]

lemma NoWrap.exact (h : NoWrap bound off size) : Exact bound off size := by
  rw [NoWrap] at h
  rw [Exact, BitVec.toNat_add]
  omega

lemma exact_iff_noWrap (hbound : bound < 2 ^ 64) : Exact bound off size ↔ NoWrap bound off size := by
  refine ⟨fun h => ?_, NoWrap.exact⟩
  rw [Exact, BitVec.toNat_add] at h
  rw [NoWrap]
  omega

end RangeChecks

section Vectors

variable {b bytes : Blob} {off n : ℕ}

@[simp] lemma length_bytesOf (v : BitVec w) (n : ℕ) : (bytesOf v n).length = n := by simp [bytesOf]

lemma length_patch (h : off + bytes.length ≤ b.length) : (patch b off bytes).length = b.length := by
  simp only [patch, List.length_append, List.length_take, List.length_drop]
  omega

lemma getElem?_patch (h : off + bytes.length ≤ b.length) (k : ℕ) :
    (patch b off bytes)[k]? = if off ≤ k ∧ k < off + bytes.length then bytes[k - off]? else b[k]? := by
  rw [patch, List.append_assoc]
  rcases Nat.lt_or_ge k off with hk | hk
  · rw [if_neg (by omega), List.getElem?_append_left (by rw [List.length_take]; omega), List.getElem?_take_of_lt hk]
  · have hlen : (b.take off).length = off := by rw [List.length_take]; omega
    rw [List.getElem?_append_right (by omega), hlen]
    by_cases hin : k < off + bytes.length
    · rw [if_pos ⟨hk, hin⟩, List.getElem?_append_left (by omega)]
    · rw [if_neg (by omega), List.getElem?_append_right (by omega), List.getElem?_drop]
      congr 1
      omega

lemma getElem?_bytesOf (v : BitVec w) {n k : ℕ} (hk : k < n) : (bytesOf v n)[k]? = some (byteAt v k) := by
  simp [bytesOf, hk]

end Vectors

section Programs

variable {x : Checked ε α} {f : α → Checked ε β}

@[simp] lemma contained_ok (a : α) : Contained (.ok a : Checked ε α) := by
  intro h
  cases h

@[simp] lemma contained_pure (a : α) : Contained (pure a : Checked ε α) := contained_ok a

@[simp] lemma contained_reject (reason : ε) : Contained (reject reason : Checked ε α) := by
  intro h
  cases h

lemma pure_eq_ok {a b : α} : (pure a : Checked ε α) = .ok b ↔ a = b :=
  ⟨Except.ok.inj, congrArg Except.ok⟩

lemma bind_eq_ok {b : β} : x >>= f = .ok b ↔ ∃ a, x = .ok a ∧ f a = .ok b := by
  cases x with
  | error e =>
    constructor
    · intro h
      cases h
    · rintro ⟨a, h, -⟩
      cases h
  | ok a =>
    constructor
    · intro h
      exact ⟨a, rfl, h⟩
    · rintro ⟨a', h, hf⟩
      obtain rfl := Except.ok.inj h
      exact hf

lemma contained_bind : Contained (x >>= f) ↔ Contained x ∧ ∀ a, x = .ok a → Contained (f a) := by
  cases x with
  | error e =>
    constructor
    · intro h
      exact ⟨fun he => h (congrArg (fun x : Checked ε α => x >>= f) he), fun a ha => by cases ha⟩
    · rintro ⟨h, -⟩ he
      exact h (congrArg Except.error (Except.error.inj he))
  | ok a =>
    constructor
    · intro h
      exact ⟨contained_ok a, fun a' ha => Except.ok.inj ha ▸ h⟩
    · rintro ⟨-, h⟩
      exact h a rfl

lemma contained_then {a : α} (h : Contained x → x = .ok a) :
    Contained (x >>= f) ↔ Contained x ∧ Contained (f a) := by
  rw [contained_bind]
  apply and_congr_right
  intro hx
  have hok := h hx
  constructor
  · intro hf
    exact hf a hok
  · intro hf b hb
    exact Except.ok.inj (hok.symm.trans hb) ▸ hf

lemma check_eq_ok {c : Prop} [Decidable c] {reason : ε} {k : PUnit → Checked ε α} {a : α} :
    (if c then reject reason >>= k else k PUnit.unit) = .ok a ↔ ¬ c ∧ k PUnit.unit = .ok a := by
  split
  · exact iff_of_false (fun h => by cases h) fun h => h.1 ‹_›
  · exact (and_iff_right ‹_›).symm

lemma contained_check {c : Prop} [Decidable c] {reason : ε} {k : PUnit → Checked ε α} :
    Contained (if c then reject reason >>= k else k PUnit.unit) ↔ (¬ c → Contained (k PUnit.unit)) := by
  split
  · exact iff_of_true (fun h => by cases h) fun h => absurd ‹_› h
  · exact ⟨fun h _ => h, fun h => h ‹_›⟩

lemma contained_read (b : Blob) (off n : ℕ) : Contained (read w b off n : Checked ε _) ↔ off + n ≤ b.length := by
  rw [read]
  split
  · exact iff_of_true (contained_ok _) ‹_›
  · exact iff_of_false (fun h => h rfl) ‹_›

lemma contained_slice (b : Blob) (off n : ℕ) : Contained (slice b off n : Checked ε _) ↔ off + n ≤ b.length := by
  rw [slice]
  split
  · exact iff_of_true (contained_ok _) ‹_›
  · exact iff_of_false (fun h => h rfl) ‹_›

lemma contained_write (b : Blob) (off n : ℕ) (v : BitVec w) :
    Contained (write b off n v : Checked ε _) ↔ off + n ≤ b.length := by
  rw [write]
  split
  · exact iff_of_true (contained_ok _) ‹_›
  · exact iff_of_false (fun h => h rfl) ‹_›

lemma read_eq_ok {b : Blob} {off n : ℕ} {v : BitVec w} :
    (read w b off n : Checked ε _) = .ok v ↔
      off + n ≤ b.length ∧ v = assemble w (fun i => b.getD (off + i) 0) n := by
  rw [read]
  split
  · rename_i h
    rw [Except.ok.injEq, eq_comm, and_iff_right h]
  · rename_i h
    exact iff_of_false (fun he => by cases he) fun he => h he.1

lemma slice_eq_ok {b bytes : Blob} {off n : ℕ} :
    (slice b off n : Checked ε _) = .ok bytes ↔ off + n ≤ b.length ∧ bytes = (b.drop off).take n := by
  rw [slice]
  split
  · rename_i h
    rw [Except.ok.injEq, eq_comm, and_iff_right h]
  · rename_i h
    exact iff_of_false (fun he => by cases he) fun he => h he.1

lemma contained_sliceThen {b : Blob} {off n : ℕ} {f : Blob → Checked ε β} :
    Contained (slice b off n >>= f) ↔ off + n ≤ b.length ∧ Contained (f ((b.drop off).take n)) := by
  rw [contained_then fun h => slice_eq_ok.2 ⟨(contained_slice _ _ _).1 h, rfl⟩, contained_slice]

lemma write_eq_ok {b b' : Blob} {off n : ℕ} {v : BitVec w} :
    (write b off n v : Checked ε _) = .ok b' ↔ off + n ≤ b.length ∧ b' = patch b off (bytesOf v n) := by
  rw [write]
  split
  · rename_i h
    rw [Except.ok.injEq, eq_comm, and_iff_right h]
  · rename_i h
    exact iff_of_false (fun he => by cases he) fun he => h he.1

lemma contained_copy (n : ℕ) (src : Blob) (off : ℕ) (dest : Blob) (place : ℕ) :
    Contained (copy n src off dest place : Checked ε _) ↔
      n = 0 ∨ off + n ≤ src.length ∧ place + n ≤ dest.length := by
  rw [copy]
  split
  · exact iff_of_true (contained_ok _) ‹_›
  · exact iff_of_false (fun h => h rfl) ‹_›

lemma length_copy {n : ℕ} {src : Blob} {off : ℕ} {dest : Blob} {place : ℕ} {result : Blob}
    (h : (copy n src off dest place : Checked ε _) = .ok result) : result.length = dest.length := by
  rw [copy] at h
  split at h
  · next hin =>
    obtain rfl := Except.ok.inj h
    rcases hin with rfl | ⟨hsrc, hdest⟩
    · rw [List.take_zero, patch, List.append_nil, List.length_nil, Nat.add_zero, List.take_append_drop]
    · apply length_patch
      rw [List.length_take, List.length_drop]
      omega
  · cases h

lemma contained_foldlM {σ : Type} {f : σ → α → Checked ε σ} {l : List α} {s : σ} : Contained (l.foldlM f s) ↔
    ∀ before x behind t, l = before ++ x :: behind → before.foldlM f s = .ok t → Contained (f t x) := by
  induction l generalizing s with
  | nil =>
    refine iff_of_true (contained_ok s) ?_
    intro before x behind t h
    exact absurd h.symm (List.append_ne_nil_of_right_ne_nil _ (List.cons_ne_nil _ _))
  | cons a l ih =>
    rw [List.foldlM_cons, contained_bind]
    constructor
    · rintro ⟨hfirst, hrest⟩ before x behind t hsplit hrun
      cases before with
      | nil =>
        obtain ⟨rfl, -⟩ := List.cons.inj hsplit
        obtain rfl := Except.ok.inj hrun
        exact hfirst
      | cons b before =>
        obtain ⟨rfl, rfl⟩ := List.cons.inj hsplit
        rw [List.foldlM_cons] at hrun
        obtain ⟨u, hu, hrun⟩ := bind_eq_ok.1 hrun
        exact ih.1 (hrest u hu) before x behind t rfl hrun
    · intro h
      refine ⟨h [] a l s rfl rfl, fun u hu => ih.2 ?_⟩
      intro before x behind t hsplit hrun
      apply h (a :: before) x behind t (by rw [hsplit]; rfl)
      rw [List.foldlM_cons]
      exact bind_eq_ok.2 ⟨u, hu, hrun⟩

lemma contained_foldlM_range {σ : Type} {f : σ → ℕ → Checked ε σ} {n : ℕ} {s : σ} :
    Contained ((List.range n).foldlM f s) ↔ ∀ i t, i < n → (List.range i).foldlM f s = .ok t → Contained (f t i) := by
  induction n with
  | zero =>
    refine iff_of_true (contained_ok s) ?_
    intro i t hi
    exact absurd hi (Nat.not_lt_zero i)
  | succ n ih =>
    rw [List.range_succ, List.foldlM_append, contained_bind, ih]
    constructor
    · rintro ⟨hbefore, hlast⟩ i t hi hrun
      rcases Nat.lt_succ_iff_lt_or_eq.1 hi with hlt | rfl
      · exact hbefore i t hlt hrun
      · exact (contained_bind.1 (hlast t hrun)).1
    · intro h
      refine ⟨fun i t hi hrun => h i t (by omega) hrun, fun t hrun => ?_⟩
      rw [List.foldlM_cons]
      exact contained_bind.2 ⟨h n t (Nat.lt_succ_self n) hrun, fun _ _ => contained_pure _⟩

lemma contained_mapM {f : α → Checked ε β} {l : List α} : Contained (l.mapM f) ↔
    ∀ before x behind, l = before ++ x :: behind → (∃ ys, before.mapM f = .ok ys) → Contained (f x) := by
  induction l with
  | nil =>
    refine iff_of_true (contained_ok []) ?_
    intro before x behind h
    exact absurd h.symm (List.append_ne_nil_of_right_ne_nil _ (List.cons_ne_nil _ _))
  | cons a l ih =>
    rw [List.mapM_cons, contained_bind]
    constructor
    · rintro ⟨hfirst, hrest⟩ before x behind hsplit hrun
      cases before with
      | nil =>
        obtain ⟨rfl, -⟩ := List.cons.inj hsplit
        exact hfirst
      | cons b before =>
        obtain ⟨rfl, rfl⟩ := List.cons.inj hsplit
        obtain ⟨ys, hrun⟩ := hrun
        rw [List.mapM_cons] at hrun
        obtain ⟨y, hy, hrun⟩ := bind_eq_ok.1 hrun
        obtain ⟨zs, hzs, -⟩ := bind_eq_ok.1 hrun
        exact ih.1 (contained_bind.1 (hrest y hy)).1 before x behind rfl ⟨zs, hzs⟩
    · intro h
      refine ⟨h [] a l rfl ⟨[], rfl⟩, fun y hy => contained_bind.2 ⟨ih.2 ?_, fun _ _ => contained_pure _⟩⟩
      rintro before x behind hsplit ⟨ys, hrun⟩
      refine h (a :: before) x behind (by rw [hsplit]; rfl) ⟨y :: ys, ?_⟩
      rw [List.mapM_cons]
      exact bind_eq_ok.2 ⟨y, hy, bind_eq_ok.2 ⟨ys, hrun, rfl⟩⟩

lemma mapM_ok {f : α → Checked ε β} {l : List α} (h : ∀ x ∈ l, ∃ y, f x = .ok y) : ∃ ys, l.mapM f = .ok ys := by
  induction l with
  | nil => exact ⟨[], rfl⟩
  | cons a l ih =>
    obtain ⟨y, hy⟩ := h a List.mem_cons_self
    obtain ⟨ys, hys⟩ := ih fun x hx => h x (List.mem_cons_of_mem _ hx)
    refine ⟨y :: ys, ?_⟩
    rw [List.mapM_cons]
    exact bind_eq_ok.2 ⟨y, hy, bind_eq_ok.2 ⟨ys, hys, rfl⟩⟩

lemma contained_readString {b : Blob} {off n : ℕ} (h : off + n ≤ b.length) :
    Contained (readString b off n : Checked ε Blob) := by
  induction n generalizing off with
  | zero => exact contained_ok []
  | succ n ih =>
    rw [readString]
    have hbyte : b[off]? = some b[off] := List.getElem?_eq_getElem (by omega)
    rw [hbyte]
    dsimp only
    split
    · exact contained_ok []
    · have hrest : Contained (readString b (off + 1) n : Checked ε Blob) := ih (by omega)
      intro he
      cases hr : (readString b (off + 1) n : Checked ε Blob) with
      | ok r =>
        rw [hr] at he
        cases he
      | error e =>
        rw [hr] at he
        exact hrest (hr.trans (congrArg Except.error (Except.error.inj he)))

end Programs

end CheckedAccess

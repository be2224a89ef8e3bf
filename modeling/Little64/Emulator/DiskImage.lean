import Little64.Library.BitFields
import Little64.Emulator.Vectors

/-! The disk image behind the block devices: ranges of a host file, within its size rounded up to whole sectors. -/

namespace Little64.Emulator

/-- The host's answer to one call on the file; a call that moves bytes moves one at least. -/
inductive HostAnswer
  | interrupted
  | failed
  | moved (more : ℕ)
  deriving DecidableEq, Repr

/-- The loop of `preadAll` and `pwriteAll`: the bytes it has moved when it stops, and whether these are all. -/
def moveAll (len : ℕ) : List HostAnswer → ℕ → ℕ × Bool
  | [], total => (total, decide (len ≤ total))
  | answer :: answers, total =>
    if len ≤ total then (total, true)
    else match answer with
      | .interrupted => moveAll len answers total
      | .failed => (total, false)
      | .moved more => moveAll len answers (total + min (more + 1) (len - total))

structure DiskImage where
  file : ℕ → BitVec 8
  fileSizeBytes : Word
  isReadOnly : Bool
  dirty : Bool
  /-- What the host will answer to the file's operations, the next one first. -/
  host : ℕ → List HostAnswer
  /-- The file has been accessed past the disk's end: the object cannot tell, proofs can. -/
  overrun : Bool

namespace DiskImage

def sectorSize : Word := 512

def roundUpToSectorSize (sizeBytes : Word) : Word :=
  if sizeBytes = 0 then 0 else (sizeBytes + sectorSize - 1) &&& ~~~(sectorSize - 1)

-- The source keeps the rounded size beside the file's size and sets both together.
def sizeBytes (d : DiskImage) : Word := roundUpToSectorSize d.fileSizeBytes

def sectorCount (d : DiskImage) : Word := d.sizeBytes / sectorSize

def outOfBounds (d : DiskImage) (offset : Word) (len : ℕ) : Bool :=
  decide (d.sizeBytes < offset) || decide ((d.sizeBytes - offset).toNat < len)

def read (d : DiskImage) (offset : Word) (dest : ℕ → BitVec 8) (len : ℕ) : Bool × (ℕ → BitVec 8) × DiskImage :=
  if len = 0 then (true, dest, d)
  else if d.outOfBounds offset len then (false, dest, d)
  else
    let cleared := fun i => if i < len then 0 else dest i
    if d.fileSizeBytes ≤ offset then (true, cleared, d)
    else
      let backedLen := min len (d.fileSizeBytes - offset).toNat
      let moved := moveAll backedLen (d.host 0) 0
      (moved.2, fun i => if i < moved.1 then d.file (offset.toNat + i) else cleared i, { d with
        host := fun n => d.host (n + 1)
        overrun := d.overrun || decide (d.sizeBytes.toNat < offset.toNat + backedLen) })

def write (d : DiskImage) (offset : Word) (src : ℕ → BitVec 8) (len : ℕ) : Bool × DiskImage :=
  if d.isReadOnly then (false, d)
  else if len = 0 then (true, d)
  else if d.outOfBounds offset len then (false, d)
  else
    let moved := moveAll len (d.host 0) 0
    let written := fun i =>
      if offset.toNat ≤ i ∧ i < offset.toNat + moved.1 then src (i - offset.toNat) else d.file i
    let d := { d with
      file := written
      host := fun n => d.host (n + 1)
      overrun := d.overrun || decide (d.sizeBytes.toNat < offset.toNat + len) }
    -- A write that fails part way has changed the file all the same.
    if moved.2 = false then (false, d)
    else
      let writtenEnd := offset + BitVec.ofNat 64 len
      (true, { d with
        fileSizeBytes := if d.fileSizeBytes < writtenEnd then writtenEnd else d.fileSizeBytes
        dirty := true })

def flush (d : DiskImage) : Bool × DiskImage :=
  if d.isReadOnly || !d.dirty then (true, d)
  else
    match d.host 0 with
    | .moved _ :: _ => (true, { d with dirty := false, host := fun n => d.host (n + 1) })
    | _ => (false, { d with host := fun n => d.host (n + 1) })

/-- What the guest sees of the disk: past the end of the file it is zero. -/
def byte (d : DiskImage) (i : ℕ) : BitVec 8 := if i < d.fileSizeBytes.toNat then d.file i else 0

end DiskImage

/-- The disk as the guest reads it. -/
def disk (image : Option DiskImage) (i : ℕ) : BitVec 8 := (image.map fun image => image.byte i).getD 0

def diskSize (image : Option DiskImage) : Word := (image.map DiskImage.sizeBytes).getD 0

def diskOverrun (image : Option DiskImage) : Bool := (image.map DiskImage.overrun).getD false

lemma moveAll_spec (len : ℕ) (answers : List HostAnswer) : ∀ total ≤ len,
    (moveAll len answers total).1 ≤ len ∧ ((moveAll len answers total).2 = true ↔ (moveAll len answers total).1 = len) := by
  induction answers with
  | nil =>
    intro total htotal
    refine ⟨htotal, ?_⟩
    change decide (len ≤ total) = true ↔ total = len
    rw [decide_eq_true_eq]
    omega
  | cons answer answers ih =>
    intro total htotal
    by_cases hlen : len ≤ total
    · have hstop : moveAll len (answer :: answers) total = (total, true) := if_pos hlen
      rw [hstop, eq_self, true_iff]
      exact ⟨htotal, by omega⟩
    · cases answer with
      | interrupted =>
        rw [moveAll, if_neg hlen]
        exact ih total htotal
      | failed =>
        rw [moveAll, if_neg hlen, Bool.false_eq_true, false_iff]
        exact ⟨htotal, by omega⟩
      | moved more =>
        rw [moveAll, if_neg hlen]
        apply ih
        omega

namespace DiskImage

open BitFields

variable {d d' : DiskImage} {offset : Word} {len i : ℕ} {dest dest' src : ℕ → BitVec 8} {ok : Bool}

-- A size that wraps rounds to nothing.
lemma toNat_roundUpToSectorSize (size : Word) : (roundUpToSectorSize size).toNat =
    if size.toNat + 511 < 2 ^ 64 then (size.toNat + 511) / 512 * 512 else 0 := by
  rw [roundUpToSectorSize]
  split
  · next hsize =>
    rw [hsize]
    decide
  · have hmask : ~~~(sectorSize - 1) = ~~~lowMask 64 9 := by decide
    have hsum : size + sectorSize - 1 = size + 511 := by
      rw [BitVec.sub_eq_add_neg, BitVec.add_assoc]
      rfl
    have h511 : (511 : Word).toNat = 511 := rfl
    have hlt := size.isLt
    rw [hmask, hsum, toNat_and_not_lowMask, BitVec.toNat_add, h511]
    split <;> omega

lemma inBounds (h : d.outOfBounds offset len = false) : offset.toNat + len ≤ d.sizeBytes.toNat := by
  rw [outOfBounds, Bool.or_eq_false_iff, decide_eq_false_iff_not, decide_eq_false_iff_not] at h
  bv_omega

lemma toNat_sizeBytes (h : d.outOfBounds offset len = false) (hlen : len ≠ 0) :
    d.sizeBytes.toNat = (d.fileSizeBytes.toNat + 511) / 512 * 512 := by
  have hbounds := inBounds h
  have hround := toNat_roundUpToSectorSize d.fileSizeBytes
  change d.sizeBytes.toNat = _ at hround
  split at hround <;> omega

lemma read_kept (d : DiskImage) (offset : Word) (dest : ℕ → BitVec 8) (len : ℕ) :
    (d.read offset dest len).2.2.byte = d.byte ∧ (d.read offset dest len).2.2.sizeBytes = d.sizeBytes ∧
      (d.read offset dest len).2.2.overrun = d.overrun := by
  unfold read
  split
  · exact ⟨rfl, rfl, rfl⟩
  split
  · exact ⟨rfl, rfl, rfl⟩
  next hbounds =>
    have hend := inBounds (Bool.not_eq_true _ ▸ hbounds)
    simp only
    split
    · exact ⟨rfl, rfl, rfl⟩
    · refine ⟨rfl, rfl, ?_⟩
      rw [decide_eq_false (by omega), Bool.or_false]

lemma read_inBounds (h : (d.read offset dest len).1 = true) : len = 0 ∨ offset.toNat + len ≤ d.sizeBytes.toNat := by
  unfold read at h
  split at h
  · next hlen => exact .inl hlen
  split at h
  · exact Bool.noConfusion h
  next hbounds => exact .inr (inBounds (Bool.not_eq_true _ ▸ hbounds))

lemma read_byte (h : (d.read offset dest len).1 = true) (hi : i < len) :
    (d.read offset dest len).2.1 i = d.byte (offset.toNat + i) := by
  unfold read byte at *
  rw [if_neg (show len ≠ 0 by omega)] at h ⊢
  cases hbounds : d.outOfBounds offset len with
  | true =>
    rw [hbounds, if_pos rfl] at h
    exact Bool.noConfusion h
  | false =>
    simp only [hbounds, if_neg Bool.false_ne_true] at h ⊢
    by_cases hfile : d.fileSizeBytes ≤ offset
    · simp only [if_pos hfile, if_pos hi]
      rw [if_neg]
      bv_omega
    · simp only [if_neg hfile] at h ⊢
      obtain ⟨_, hdone⟩ := moveAll_spec (min len (d.fileSizeBytes - offset).toNat) (d.host 0) 0 (Nat.zero_le _)
      rw [hdone.mp h]
      by_cases hbacked : i < (d.fileSizeBytes - offset).toNat
      · rw [if_pos (by omega), if_pos (by bv_omega)]
      · rw [if_neg (by omega), if_pos hi, if_neg (by bv_omega)]

/-- The effect of a write: one that reports failure may still have changed bytes of its range. -/
structure Written (d : DiskImage) (offset : Word) (src : ℕ → BitVec 8) (len : ℕ) (ok : Bool) (d' : DiskImage) :
    Prop where
  outside : ∀ i, ¬ (offset.toNat ≤ i ∧ i < offset.toNat + len) → d'.byte i = d.byte i
  inside : ok = true → ∀ i < len, d'.byte (offset.toNat + i) = src i
  sizeBytes : d'.sizeBytes = d.sizeBytes
  overrun : d'.overrun = d.overrun

lemma Written.of_eq (hok : ok = true → len = 0) : Written d offset src len ok d where
  outside _ _ := rfl
  inside h i hi := absurd hi (by rw [hok h]; exact Nat.not_lt_zero i)
  sizeBytes := rfl
  overrun := rfl

-- A write from a sector boundary leaves no hole behind the end of the file.
lemma write_written (d : DiskImage) (offset : Word) (src : ℕ → BitVec 8) (len : ℕ) (haligned : offset.toNat % 512 = 0) :
    Written d offset src len (d.write offset src len).1 (d.write offset src len).2 := by
  unfold write
  split
  · exact .of_eq Bool.noConfusion
  split
  · next hlen => exact .of_eq fun _ => hlen
  split
  · exact .of_eq Bool.noConfusion
  next hlen hbounds =>
    rw [Bool.not_eq_true] at hbounds
    have hend := inBounds hbounds
    have hsize := toNat_sizeBytes hbounds hlen
    have hlt := d.sizeBytes.isLt
    obtain ⟨hmoved, hdone⟩ := moveAll_spec len (d.host 0) 0 (Nat.zero_le _)
    have hoverrun : (d.overrun || decide (d.sizeBytes.toNat < offset.toNat + len)) = d.overrun := by
      rw [decide_eq_false (by omega), Bool.or_false]
    cases hok : (moveAll len (d.host 0) 0).2 with
    | false =>
      simp only [hok, if_true]
      refine ⟨?_, Bool.noConfusion, rfl, hoverrun⟩
      intro i hi
      simp only [byte]
      rw [if_neg (show ¬ (offset.toNat ≤ i ∧ i < offset.toNat + (moveAll len (d.host 0) 0).1) by omega)]
    | true =>
      have hwritten : (offset + BitVec.ofNat 64 len).toNat = offset.toNat + len := by
        rw [BitVec.toNat_add, BitVec.toNat_ofNat]
        omega
      have hgrown : (if d.fileSizeBytes < offset + BitVec.ofNat 64 len then offset + BitVec.ofNat 64 len
          else d.fileSizeBytes).toNat = max d.fileSizeBytes.toNat (offset.toNat + len) := by
        split <;> bv_omega
      simp only [hok, Bool.true_eq_false, if_false]
      refine ⟨?_, ?_, ?_, hoverrun⟩
      · intro i hi
        simp only [byte, hdone.mp hok, hgrown]
        by_cases hi' : i < d.fileSizeBytes.toNat
        · rw [if_neg hi, if_pos (by omega), if_pos hi']
        · rw [if_neg (by omega), if_neg hi']
      · intro _ i hi
        simp only [byte, hdone.mp hok, hgrown]
        rw [if_pos (by omega), if_pos (by omega), Nat.add_sub_cancel_left]
      · apply BitVec.eq_of_toNat_eq
        rw [DiskImage.sizeBytes, toNat_roundUpToSectorSize, hgrown, hsize, if_pos (by omega)]
        omega

lemma write_ok (d : DiskImage) (offset : Word) (src src' : ℕ → BitVec 8) (len : ℕ) :
    (d.write offset src len).1 = (d.write offset src' len).1 := by
  unfold write
  simp only
  split_ifs <;> rfl

lemma flush_kept (d : DiskImage) : d.flush.2.byte = d.byte ∧ d.flush.2.sizeBytes = d.sizeBytes ∧
    d.flush.2.overrun = d.overrun := by
  unfold flush
  split
  · exact ⟨rfl, rfl, rfl⟩
  · split <;> exact ⟨rfl, rfl, rfl⟩

end DiskImage

end Little64.Emulator

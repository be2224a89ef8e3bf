import Little64.Emulator.DiskImage

/-! The disk image as a store of bytes: what reads return after any operations, on a file that behaves as an array. -/

namespace Little64.Emulator

/-- An operation on the image: the devices read ranges of it and write bytes to it. -/
inductive DiskOp
  | read (offset : Word) (len : ℕ)
  | write (offset : Word) (data : List (BitVec 8))

namespace DiskImage

/-- The image of a file that could be opened; a file ends with zeros where it grows. -/
def openFile (bytes : List (BitVec 8)) (forceReadOnly : Bool) (host : ℕ → List HostAnswer) : DiskImage where
  file i := bytes.getD i 0
  fileSizeBytes := BitVec.ofNat 64 bytes.length
  isReadOnly := forceReadOnly
  dirty := false
  host := host
  overrun := false

def perform (d : DiskImage) : DiskOp → Bool × DiskImage
  | .read offset len => ((d.read offset (fun _ => 0) len).1, (d.read offset (fun _ => 0) len).2.2)
  | .write offset data => d.write offset (fun i => data.getD i 0) data.length

def runOps (d : DiskImage) (ops : List DiskOp) : DiskImage := ops.foldl (fun d op => (d.perform op).2) d

def doneWrite (d : DiskImage) : DiskOp → List (ℕ × List (BitVec 8))
  | .read _ _ => []
  | .write offset data => if (d.perform (.write offset data)).1 then [(offset.toNat, data)] else []

/-- The writes of a run that succeeded, the latest one first. -/
def doneWrites (d : DiskImage) : List DiskOp → List (ℕ × List (BitVec 8))
  | [] => []
  | op :: ops => doneWrites (d.perform op).2 ops ++ d.doneWrite op

end DiskImage

/-- What was written last at a place. -/
def lastWritten (i : ℕ) : List (ℕ × List (BitVec 8)) → Option (BitVec 8)
  | [] => none
  | w :: writes => if w.1 ≤ i ∧ i < w.1 + w.2.length then w.2[i - w.1]? else lastWritten i writes

lemma lastWritten_append (i : ℕ) (writes writes' : List (ℕ × List (BitVec 8))) :
    lastWritten i (writes ++ writes') = (lastWritten i writes).or (lastWritten i writes') := by
  induction writes with
  | nil => rfl
  | cons w writes ih =>
    rw [List.cons_append, lastWritten, lastWritten]
    by_cases hin : w.1 ≤ i ∧ i < w.1 + w.2.length
    · rw [if_pos hin, if_pos hin, List.getElem?_eq_getElem (by omega), Option.some_or]
    · rw [if_neg hin, if_neg hin, ih]

namespace DiskImage

variable {d : DiskImage} {offset : Word} {len : ℕ} {dest src : ℕ → BitVec 8}

/-- The file behaves as an array of bytes: what it does not hold is zero, and the host carries out what it is told,
interrupted or in pieces. -/
structure Backed (d : DiskImage) : Prop where
  size : d.fileSizeBytes.toNat ≤ 2 ^ 63
  zeros : ∀ i, d.fileSizeBytes.toNat ≤ i → d.file i = 0
  serves : ∀ n len, len < 2 ^ 64 → (moveAll len (d.host n) 0).2 = true

lemma outOfBounds_iff : d.outOfBounds offset len = false ↔ offset.toNat + len ≤ d.sizeBytes.toNat := by
  refine ⟨inBounds, fun h => ?_⟩
  rw [outOfBounds, Bool.or_eq_false_iff, decide_eq_false_iff_not, decide_eq_false_iff_not]
  bv_omega

section Backed

variable (h : Backed d)

include h

lemma Backed.byte (i : ℕ) : d.byte i = d.file i := by
  rw [DiskImage.byte]
  split
  · rfl
  · exact (h.zeros i (by omega)).symm

lemma Backed.toNat_sizeBytes : d.sizeBytes.toNat = (d.fileSizeBytes.toNat + 511) / 512 * 512 := by
  have hsize := h.size
  rw [DiskImage.sizeBytes, toNat_roundUpToSectorSize, if_pos (by omega)]

lemma Backed.sizeBytes_le : d.sizeBytes.toNat ≤ 2 ^ 63 := by
  have hsize := h.size
  rw [h.toNat_sizeBytes]
  omega

lemma Backed.read_spec (offset : Word) (dest : ℕ → BitVec 8) (len : ℕ) :
    ((d.read offset dest len).1 = true ↔ len = 0 ∨ offset.toNat + len ≤ d.sizeBytes.toNat) ∧
      Backed (d.read offset dest len).2.2 ∧ (d.read offset dest len).2.2.isReadOnly = d.isReadOnly ∧
      ((d.read offset dest len).1 = false → (d.read offset dest len).2 = (dest, d)) := by
  rw [read]
  by_cases hlen : len = 0
  · rw [if_pos hlen]
    exact ⟨iff_of_true rfl (.inl hlen), h, rfl, fun hfailed => Bool.noConfusion hfailed⟩
  rw [if_neg hlen, or_iff_right hlen, ← outOfBounds_iff]
  cases hbounds : d.outOfBounds offset len with
  | true => exact ⟨iff_of_false Bool.false_ne_true (by decide), h, rfl, fun _ => rfl⟩
  | false =>
    rw [if_neg Bool.false_ne_true]
    by_cases hfile : d.fileSizeBytes ≤ offset
    · rw [if_pos hfile]
      exact ⟨iff_of_true rfl rfl, h, rfl, fun hfailed => Bool.noConfusion hfailed⟩
    · rw [if_neg hfile]
      have hmoved := h.serves 0 (min len (d.fileSizeBytes - offset).toNat)
        ((Nat.min_le_right _ _).trans_lt (d.fileSizeBytes - offset).isLt)
      exact ⟨iff_of_true hmoved rfl, ⟨h.size, h.zeros, fun n => h.serves (n + 1)⟩, rfl,
        fun hfailed => Bool.noConfusion (hmoved.symm.trans hfailed)⟩

/-- What a write in bounds makes of the image. -/
def wrote (d : DiskImage) (offset : Word) (src : ℕ → BitVec 8) (len : ℕ) : DiskImage where
  file i := if offset.toNat ≤ i ∧ i < offset.toNat + len then src (i - offset.toNat) else d.file i
  fileSizeBytes :=
    if d.fileSizeBytes < offset + BitVec.ofNat 64 len then offset + BitVec.ofNat 64 len else d.fileSizeBytes
  isReadOnly := d.isReadOnly
  dirty := true
  host n := d.host (n + 1)
  overrun := d.overrun || decide (d.sizeBytes.toNat < offset.toNat + len)

lemma Backed.wrote (hend : offset.toNat + len ≤ d.sizeBytes.toNat) (src : ℕ → BitVec 8) :
    Backed (d.wrote offset src len) ∧ (d.wrote offset src len).sizeBytes = d.sizeBytes ∧
      ∀ i, (d.wrote offset src len).byte i =
        if offset.toNat ≤ i ∧ i < offset.toNat + len then src (i - offset.toNat) else d.byte i := by
  have hsize := h.toNat_sizeBytes
  have hlimit := h.sizeBytes_le
  have hwritten : (offset + BitVec.ofNat 64 len).toNat = offset.toNat + len := by
    rw [BitVec.toNat_add, BitVec.toNat_ofNat]
    omega
  have hgrown : (d.wrote offset src len).fileSizeBytes.toNat = max d.fileSizeBytes.toNat (offset.toNat + len) := by
    rw [DiskImage.wrote]
    split <;> bv_omega
  have hbacked : Backed (d.wrote offset src len) := by
    refine ⟨?_, fun i hi => ?_, fun n => h.serves (n + 1)⟩
    · have hold := h.size
      omega
    · rw [hgrown] at hi
      exact (if_neg (by omega)).trans (h.zeros i (by omega))
  refine ⟨hbacked, ?_, fun i => ?_⟩
  · apply BitVec.eq_of_toNat_eq
    rw [hbacked.toNat_sizeBytes, hsize, hgrown]
    omega
  · rw [hbacked.byte, h.byte]
    rfl

omit h in
lemma write_rejected (h : ¬ (d.isReadOnly = false ∧ (len = 0 ∨ offset.toNat + len ≤ d.sizeBytes.toNat)))
    (src : ℕ → BitVec 8) : d.write offset src len = (false, d) := by
  rw [write]
  by_cases hreadOnly : d.isReadOnly = true
  · rw [if_pos hreadOnly]
  · rw [and_iff_right (Bool.not_eq_true _ ▸ hreadOnly), not_or, ← outOfBounds_iff, Bool.not_eq_false] at h
    rw [if_neg hreadOnly, if_neg h.1, if_pos h.2]

lemma Backed.write_done (hreadOnly : d.isReadOnly = false) (hlen : len ≠ 0)
    (hend : offset.toNat + len ≤ d.sizeBytes.toNat) (src : ℕ → BitVec 8) :
    d.write offset src len = (true, d.wrote offset src len) := by
  have hlimit := h.sizeBytes_le
  have hmoved := h.serves 0 len (by omega)
  have hall := (moveAll_spec len (d.host 0) 0 (Nat.zero_le _)).2.mp hmoved
  rw [write, hreadOnly, if_neg Bool.false_ne_true, if_neg hlen, outOfBounds_iff.2 hend, if_neg Bool.false_ne_true]
  simp only [hmoved, Bool.true_eq_false, if_false, hall]
  rw [DiskImage.wrote, hreadOnly]

lemma Backed.write_spec (offset : Word) (src : ℕ → BitVec 8) (len : ℕ) :
    ((d.write offset src len).1 = true ↔
      d.isReadOnly = false ∧ (len = 0 ∨ offset.toNat + len ≤ d.sizeBytes.toNat)) ∧
      ((d.write offset src len).1 = false → (d.write offset src len).2 = d) ∧
      Backed (d.write offset src len).2 ∧ (d.write offset src len).2.isReadOnly = d.isReadOnly ∧
      (d.write offset src len).2.sizeBytes = d.sizeBytes ∧
      ((d.write offset src len).1 = true → ∀ i, (d.write offset src len).2.byte i =
        if offset.toNat ≤ i ∧ i < offset.toNat + len then src (i - offset.toNat) else d.byte i) := by
  by_cases hin : d.isReadOnly = false ∧ (len = 0 ∨ offset.toNat + len ≤ d.sizeBytes.toNat)
  · by_cases hlen : len = 0
    · have hnothing : d.write offset src len = (true, d) := by
        rw [write, hin.1, if_neg Bool.false_ne_true, if_pos hlen]
      rw [hnothing]
      refine ⟨iff_of_true rfl hin, fun _ => rfl, h, rfl, rfl, fun _ i => ?_⟩
      rw [if_neg (by omega)]
    · have hend := hin.2.resolve_left hlen
      obtain ⟨hbacked, hsize, hbyte⟩ := h.wrote hend src
      rw [h.write_done hin.1 hlen hend src]
      exact ⟨iff_of_true rfl hin, fun hfailed => Bool.noConfusion hfailed, hbacked, rfl, hsize, fun _ => hbyte⟩
  · rw [write_rejected hin]
    exact ⟨iff_of_false Bool.false_ne_true hin, fun _ => rfl, h, rfl, rfl, fun hdone => Bool.noConfusion hdone⟩

end Backed

lemma Backed.perform (h : Backed d) (op : DiskOp) : Backed (d.perform op).2 ∧
    (d.perform op).2.isReadOnly = d.isReadOnly ∧ (d.perform op).2.sizeBytes = d.sizeBytes ∧
    ∀ i, (d.perform op).2.byte i = (lastWritten i (d.doneWrite op)).getD (d.byte i) := by
  cases op with
  | read offset len =>
    obtain ⟨_, hbacked, hreadOnly, _⟩ := h.read_spec offset (fun _ => 0) len
    obtain ⟨hbyte, hsize, _⟩ := read_kept d offset (fun _ => 0) len
    exact ⟨hbacked, hreadOnly, hsize, fun i => congrFun hbyte i⟩
  | write offset data =>
    obtain ⟨_, hrejected, hbacked, hreadOnly, hsize, hbyte⟩ :=
      h.write_spec offset (fun i => data.getD i 0) data.length
    refine ⟨hbacked, hreadOnly, hsize, fun i => ?_⟩
    rw [doneWrite]
    cases hdone : (d.perform (.write offset data)).1 with
    | true =>
      rw [if_pos rfl, lastWritten]
      refine (hbyte hdone i).trans ?_
      by_cases hin : offset.toNat ≤ i ∧ i < offset.toNat + data.length
      · rw [if_pos hin, if_pos hin, List.getD_eq_getElem?_getD, List.getElem?_eq_getElem (by omega), Option.getD_some,
          Option.getD_some]
      · rw [if_neg hin, if_neg hin]
        rfl
    | false =>
      rw [if_neg Bool.false_ne_true]
      exact congrArg (fun d : DiskImage => d.byte i) (hrejected hdone)

lemma Backed.runOps (h : Backed d) (ops : List DiskOp) : Backed (d.runOps ops) ∧
    (d.runOps ops).isReadOnly = d.isReadOnly ∧ (d.runOps ops).sizeBytes = d.sizeBytes ∧
    ∀ i, (d.runOps ops).byte i = (lastWritten i (d.doneWrites ops)).getD (d.byte i) := by
  induction ops generalizing d with
  | nil => exact ⟨h, rfl, rfl, fun _ => rfl⟩
  | cons op ops ih =>
    obtain ⟨hbacked, hreadOnly, hsize, hbyte⟩ := h.perform op
    obtain ⟨hlater, hlaterReadOnly, hlaterSize, hlaterByte⟩ := ih hbacked
    refine ⟨hlater, hlaterReadOnly.trans hreadOnly, hlaterSize.trans hsize, fun i => ?_⟩
    rw [doneWrites, lastWritten_append]
    refine (hlaterByte i).trans ?_
    rw [hbyte]
    cases lastWritten i ((d.perform op).2.doneWrites ops) <;> rfl

variable {bytes : List (BitVec 8)} {host : ℕ → List HostAnswer}

lemma openFile_backed (forceReadOnly : Bool) (hsize : bytes.length < 2 ^ 63)
    (hhost : ∀ n len, len < 2 ^ 64 → (moveAll len (host n) 0).2 = true) :
    Backed (openFile bytes forceReadOnly host) ∧
      (openFile bytes forceReadOnly host).fileSizeBytes.toNat = bytes.length := by
  have hlength : (openFile bytes forceReadOnly host).fileSizeBytes.toNat = bytes.length := by
    rw [openFile, BitVec.toNat_ofNat]
    omega
  refine ⟨⟨by omega, fun i hi => ?_, hhost⟩, hlength⟩
  rw [hlength] at hi
  exact List.getD_eq_default _ _ hi

/-- After any operations the image has the size of its file in whole sectors, reads return what was written last or
what the file held, and an operation that is rejected leaves all as it was. -/
theorem disk_store_laws (bytes : List (BitVec 8)) (forceReadOnly : Bool) (host : ℕ → List HostAnswer)
    (hsize : bytes.length < 2 ^ 63) (hhost : ∀ n len, len < 2 ^ 64 → (moveAll len (host n) 0).2 = true)
    (ops : List DiskOp) (offset : Word) (dest src : ℕ → BitVec 8) (len : ℕ) {d t : DiskImage}
    (hopened : openFile bytes forceReadOnly host = d) (hrun : d.runOps ops = t) :
    t.sizeBytes.toNat = (bytes.length + 511) / 512 * 512 ∧
      ((t.read offset dest len).1 = true ↔ len = 0 ∨ offset.toNat + len ≤ t.sizeBytes.toNat) ∧
      ((t.read offset dest len).1 = true → ∀ i < len, (t.read offset dest len).2.1 i =
        (lastWritten (offset.toNat + i) (d.doneWrites ops)).getD (bytes.getD (offset.toNat + i) 0)) ∧
      ((t.read offset dest len).1 = false → (t.read offset dest len).2 = (dest, t)) ∧
      ((t.write offset src len).1 = true ↔
        forceReadOnly = false ∧ (len = 0 ∨ offset.toNat + len ≤ t.sizeBytes.toNat)) ∧
      ((t.write offset src len).1 = false → (t.write offset src len).2 = t) := by
  obtain ⟨hbacked, hlength⟩ := openFile_backed forceReadOnly hsize hhost
  rw [hopened] at hbacked hlength
  obtain ⟨hafter, hreadOnly, hkept, hbyte⟩ := hbacked.runOps ops
  rw [hrun] at hafter hreadOnly hkept hbyte
  have hinitial : ∀ i, d.byte i = bytes.getD i 0 := fun i => by
    rw [hbacked.byte, ← hopened]
    rfl
  obtain ⟨hread, _, _, hreadRejected⟩ := hafter.read_spec offset dest len
  obtain ⟨hwrite, hwriteRejected, _⟩ := hafter.write_spec offset src len
  have hforced : t.isReadOnly = forceReadOnly := by
    rw [hreadOnly, ← hopened]
    rfl
  refine ⟨?_, hread, fun hdone i hi => ?_, hreadRejected, ?_, hwriteRejected⟩
  · rw [hkept, hbacked.toNat_sizeBytes, hlength]
  · rw [read_byte hdone hi, hbyte, hinitial]
  · rw [hwrite, hforced]

theorem disk_store_laws_sample : ∃ t : DiskImage, t.sizeBytes.toNat = 512 ∧
    ((t.read 98 (fun _ => 9) 4).1 = true → ∀ i < 4, (t.read 98 (fun _ => 9) 4).2.1 i =
      (lastWritten (98 + i) [(99, [7])]).getD ((List.replicate 100 (1 : BitVec 8)).getD (98 + i) 0)) := by
  have hhost : ∀ (n len : ℕ), len < 2 ^ 64 →
      (moveAll len ((fun _ => [HostAnswer.moved (2 ^ 64)] : ℕ → List HostAnswer) n) 0).2 = true := by
    intro n len hlen
    apply (moveAll_spec len _ 0 (Nat.zero_le len)).2.2
    by_cases hzero : len ≤ 0
    · rw [moveAll, if_pos hzero]
      omega
    · rw [moveAll, if_neg hzero, moveAll]
      omega
  obtain ⟨hsize, _, hread, _⟩ := disk_store_laws (List.replicate 100 1) false (fun _ => [.moved (2 ^ 64)])
    (by rw [List.length_replicate]; decide) hhost [.write 99 [7]] 98 (fun _ => 9) (fun _ => 0) 4 rfl rfl
  refine ⟨_, hsize, hread⟩

end DiskImage

end Little64.Emulator

import Little64.Emulator.PvBlockDevice

/-! What a kick of the block device leaves of guest memory, of the disk and of the device's status. -/

namespace Little64.Emulator.PvBlockDevice

open ByteMemory Machine

namespace RequestHeader

def diskOffset (header : RequestHeader) : ℕ := header.sector.toNat * 512

def diskBytes (header : RequestHeader) : ℕ := header.sectorCount.toNat * 512

/-- The byte of the disk belongs to the requested sectors. -/
def Covers (header : RequestHeader) (i : ℕ) : Prop :=
  header.diskOffset ≤ i ∧ i < header.diskOffset + header.diskBytes

instance (header : RequestHeader) (i : ℕ) : Decidable (header.Covers i) := inferInstanceAs (Decidable (_ ∧ _))

end RequestHeader

def statusWord (m : Bus) : Word := m.device.requestAddr + 8

/-- What a request has done to memory and the disk when it comes to report a status. -/
structure Served (m : Bus) (header : RequestHeader) (status : Word) (memory : MemoryBus) (image : Option DiskImage) :
    Prop where
  overrun : diskOverrun image = diskOverrun m.device.image
  size : diskSize image = diskSize m.device.image
  writable : ∀ x, memory.writable x = m.memory.writable x
  memoryKept : status ≠ requestStatusOk → memory = m.memory
  diskKept : status ≠ requestStatusOk → ∀ i, disk image i ≠ disk m.device.image i →
    status = requestStatusIoError ∧ header.op = requestWrite ∧ header.Covers i
  accepted : status = requestStatusOk → header.op ∈ [requestRead, requestWrite, requestFlush] ∧
    header.diskOffset + header.diskBytes ≤ (diskSize m.device.image).toNat
  toGuest : status = requestStatusOk → ∀ x access, memory.read8 x access =
    if header.op = requestRead ∧ InRange header.bufferPhys header.diskBytes x ∧ m.memory.writable x then
      disk m.device.image (header.diskOffset + (x - header.bufferPhys).toNat)
    else m.memory.read8 x access
  fromGuest : status = requestStatusOk → ∀ i, disk image i =
    if header.op = requestWrite ∧ header.Covers i then
      m.read8 (header.bufferPhys + BitVec.ofNat 64 (i - header.diskOffset))
    else disk m.device.image i

variable {m : Bus} {nested : Nested PvBlockDevice} {image image' : DiskImage} {header : RequestHeader} {status : Word}
  {memory : MemoryBus}

lemma Served.refused (m : Bus) (header : RequestHeader) (hstatus : status ≠ requestStatusOk) :
    Served m header status m.memory m.device.image where
  overrun := rfl
  size := rfl
  writable _ := rfl
  memoryKept _ := rfl
  diskKept _ _ h := absurd rfl h
  accepted h := absurd h hstatus
  toGuest h := absurd h hstatus
  fromGuest h := absurd h hstatus

/-- The request passes the checks that come before its operation. -/
structure Accepted (m : Bus) (image : DiskImage) (header : RequestHeader) : Prop where
  configured : m.device.image = some image
  count : header.sectorCount.toNat ≤ 128
  onDisk : header.diskOffset + header.diskBytes ≤ image.sizeBytes.toNat

namespace Accepted

lemma bytes_eq (h : Accepted m image header) :
    (header.sectorCount * DiskImage.sectorSize).toNat = header.diskBytes := by
  have hcount := h.count
  have hsize : DiskImage.sectorSize.toNat = 512 := rfl
  rw [BitVec.toNat_mul, hsize]
  exact Nat.mod_eq_of_lt (by omega)

lemma offset_eq (h : Accepted m image header) :
    (header.sector * DiskImage.sectorSize).toNat = header.diskOffset := by
  have hon := h.onDisk
  have hlt := image.sizeBytes.isLt
  have hsize : DiskImage.sectorSize.toNat = 512 := rfl
  rw [BitVec.toNat_mul, hsize]
  exact Nat.mod_eq_of_lt (by
    change header.diskOffset < _
    omega)

lemma bytes_le (h : Accepted m image header) : header.diskBytes ≤ bounceSize := by
  have hcount := h.count
  have hsize : bounceSize = 65536 := by decide
  rw [hsize, RequestHeader.diskBytes]
  omega

lemma touchBounce_eq (h : Accepted m image header) : touchBounce header.diskBytes m = m := by
  have hle := h.bytes_le
  rw [touchBounce, decide_eq_false (by omega), Bool.or_false]

lemma disk_eq (h : Accepted m image header) (i : ℕ) : disk m.device.image i = image.byte i := by
  rw [disk, h.configured]
  rfl

lemma size_eq (h : Accepted m image header) : diskSize m.device.image = image.sizeBytes := by
  rw [diskSize, h.configured]
  rfl

lemma overrun_eq (h : Accepted m image header) : diskOverrun m.device.image = image.overrun := by
  rw [diskOverrun, h.configured]
  rfl

end Accepted

/-- A host that fails has changed nothing, or bytes of the sectors that were to be written. -/
lemma Served.ioError (h : Accepted m image header) (hsize : image'.sizeBytes = image.sizeBytes)
    (hoverrun : image'.overrun = image.overrun)
    (hdisk : ∀ i, image'.byte i ≠ image.byte i → header.op = requestWrite ∧ header.Covers i) :
    Served m header requestStatusIoError m.memory (some image') where
  overrun := hoverrun.trans h.overrun_eq.symm
  size := hsize.trans h.size_eq.symm
  writable _ := rfl
  memoryKept _ := rfl
  diskKept _ i hi := ⟨rfl, hdisk i fun heq => hi (heq.trans (h.disk_eq i).symm)⟩
  accepted hok := absurd hok (by decide)
  toGuest hok := absurd hok (by decide)
  fromGuest hok := absurd hok (by decide)

lemma Served.ok (h : Accepted m image header) (hop : header.op ∈ [requestRead, requestWrite, requestFlush])
    (hsize : image'.sizeBytes = image.sizeBytes) (hoverrun : image'.overrun = image.overrun)
    (hwritable : ∀ x, memory.writable x = m.memory.writable x)
    (hmemory : ∀ x access, memory.read8 x access =
      if header.op = requestRead ∧ InRange header.bufferPhys header.diskBytes x ∧ m.memory.writable x then
        image.byte (header.diskOffset + (x - header.bufferPhys).toNat)
      else m.memory.read8 x access)
    (hdisk : ∀ i, image'.byte i =
      if header.op = requestWrite ∧ header.Covers i then
        m.read8 (header.bufferPhys + BitVec.ofNat 64 (i - header.diskOffset))
      else image.byte i) :
    Served m header requestStatusOk memory (some image') where
  overrun := hoverrun.trans h.overrun_eq.symm
  size := hsize.trans h.size_eq.symm
  writable := hwritable
  memoryKept hok := absurd rfl hok
  diskKept hok := absurd rfl hok
  accepted _ := ⟨hop, by rw [h.size_eq]; exact h.onDisk⟩
  toGuest _ x access := by rw [h.disk_eq, hmemory]
  fromGuest _ i := by rw [h.disk_eq, ← hdisk]; rfl

/-- A request comes to its end with a status and in a state that agree. -/
def Ends (nested : Nested PvBlockDevice) (m : Bus) (header : RequestHeader) (result : Option Bus) : Prop :=
  ∃ status memory image bounce, result = finish nested status
      { memory := memory, device := { m.device with image := image, bounce := bounce } } ∧
    Served m header status memory image

lemma Ends.refused (hstatus : status ≠ requestStatusOk) : Ends nested m header (finish nested status m) :=
  ⟨status, m.memory, m.device.image, m.device.bounce, rfl, .refused m header hstatus⟩

lemma submitRead_ends (h : Accepted m image header) (hop : header.op = requestRead)
    (hbuffer : m.OffRange header.bufferPhys header.diskBytes) :
    Ends nested m header (submitRead nested image header header.diskBytes m) := by
  obtain ⟨hbyte, hsize, hoverrun⟩ :=
    image.read_kept (header.sector * DiskImage.sectorSize) m.device.bounce header.diskBytes
  have hread := fun i => @DiskImage.read_byte image (header.sector * DiskImage.sectorSize) header.diskBytes i
    m.device.bounce
  rw [submitRead, h.touchBounce_eq]
  generalize image.read (header.sector * DiskImage.sectorSize) m.device.bounce header.diskBytes = result
    at hbyte hsize hoverrun hread
  obtain ⟨ok, bounce, image'⟩ := result
  simp only at hbyte hsize hoverrun hread ⊢
  cases ok with
  | false =>
    refine ⟨requestStatusIoError, _, some image', bounce, if_pos rfl, .ioError h hsize hoverrun ?_⟩
    intro i hi
    exact absurd (congrFun hbyte i) hi
  | true =>
    have hlen := h.bytes_le
    have hbounce : bounceSize = 65536 := by decide
    obtain ⟨memory, hstored, hpoured⟩ := storeBytes_off
      (m := { m with device := { m.device with image := some image', bounce := bounce } })
      (f := fun m i => m.device.bounce i) (by omega) hbuffer fun _ _ => rfl
    refine ⟨requestStatusOk, memory, some image', bounce, ?_, ?_⟩
    · rw [if_neg Bool.noConfusion, transferToGuest, setImage, hstored]
      rfl
    · apply Served.ok h (by rw [hop]; exact List.mem_cons_self) hsize hoverrun hpoured.writable
      · intro x access
        rw [hpoured.byte]
        by_cases hx : InRange header.bufferPhys header.diskBytes x ∧ m.memory.writable x = true
        · rw [if_pos hx, if_pos ⟨hop, hx⟩, ← h.offset_eq]
          exact hread _ rfl hx.1
        · rw [if_neg hx, if_neg fun hc => hx hc.2]
      · intro i
        rw [if_neg fun hc => absurd (hop.symm.trans hc.1) (by decide)]
        exact congrFun hbyte i

lemma transferFromGuest_spec (guestPhys : Word) (len : ℕ) (m : Bus) :
    ∃ bounce, transferFromGuest guestPhys len m = { m with device := { m.device with bounce := bounce } } ∧
      ∀ i < len, bounce i = m.read8 (guestPhys + BitVec.ofNat 64 i) := by
  induction len with
  | zero => exact ⟨m.device.bounce, rfl, fun i hi => absurd hi (Nat.not_lt_zero i)⟩
  | succ len ih =>
    obtain ⟨bounce, heq, hbounce⟩ := ih
    -- The registers read the same whatever the buffer holds.
    refine ⟨Function.update bounce len (m.read8 (guestPhys + BitVec.ofNat 64 len)), ?_, ?_⟩
    · rw [transferFromGuest, heq]
      rfl
    · intro i hi
      by_cases hlast : i = len
      · rw [hlast, Function.update_self]
      · rw [Function.update_of_ne hlast]
        exact hbounce i (by omega)

lemma not_toGuest (hop : header.op ≠ requestRead) (memory : MemoryBus) (x : Word) (access : AccessType) (i : ℕ) :
    memory.read8 x access =
      if header.op = requestRead ∧ InRange header.bufferPhys header.diskBytes x ∧ memory.writable x then image.byte i
      else memory.read8 x access := by
  rw [if_neg fun hc => hop hc.1]

lemma submitWrite_ends (h : Accepted m image header) (hop : header.op = requestWrite) :
    Ends nested m header (submitWrite nested image header header.diskBytes m) := by
  rw [submitWrite]
  split
  · exact .refused (by decide)
  obtain ⟨bounce, hbus, hbounce⟩ := transferFromGuest_spec header.bufferPhys header.diskBytes m
  have hwritten := image.write_written (header.sector * DiskImage.sectorSize) bounce header.diskBytes (by
    rw [h.offset_eq, RequestHeader.diskOffset]
    omega)
  rw [h.touchBounce_eq, hbus]
  simp only
  generalize image.write (header.sector * DiskImage.sectorSize) bounce header.diskBytes = result at hwritten ⊢
  obtain ⟨ok, image'⟩ := result
  have hchanged : ∀ i, image'.byte i ≠ image.byte i → header.op = requestWrite ∧ header.Covers i := by
    intro i hi
    refine ⟨hop, ?_⟩
    by_contra hc
    rw [RequestHeader.Covers, ← h.offset_eq] at hc
    exact hi (hwritten.outside i hc)
  cases ok with
  | false => exact ⟨requestStatusIoError, _, some image', bounce, if_pos rfl, .ioError h hwritten.sizeBytes
      hwritten.overrun hchanged⟩
  | true =>
    obtain ⟨hbyte, hsize, hoverrun⟩ := image'.flush_kept
    simp only [if_neg (show ¬ true = false by decide)]
    generalize image'.flush = flushed at hbyte hsize hoverrun ⊢
    obtain ⟨ok, image''⟩ := flushed
    cases ok with
    | false =>
      refine ⟨requestStatusIoError, _, some image'', bounce, if_pos rfl, .ioError h (hsize.trans hwritten.sizeBytes)
        (hoverrun.trans hwritten.overrun) ?_⟩
      intro i hi
      rw [congrFun hbyte i] at hi
      exact hchanged i hi
    | true =>
      refine ⟨requestStatusOk, m.memory, some image'', bounce, if_neg Bool.noConfusion, ?_⟩
      apply Served.ok h (by rw [hop]; decide) (hsize.trans hwritten.sizeBytes) (hoverrun.trans hwritten.overrun)
      · intro _
        rfl
      · intro x access
        exact not_toGuest (by rw [hop]; decide) m.memory x access _
      · intro i
        rw [congrFun hbyte i]
        by_cases hc : header.Covers i
        · obtain ⟨hfirst, hlast⟩ := hc
          have hi := hwritten.inside rfl (i - header.diskOffset) (by omega)
          rw [h.offset_eq, Nat.add_sub_cancel' hfirst] at hi
          rw [if_pos ⟨hop, hfirst, hlast⟩, ← hbounce _ (by omega)]
          exact hi
        · rw [if_neg fun hboth => hc hboth.2]
          by_contra hi
          exact hc (hchanged i hi).2

lemma submitFlush_ends (h : Accepted m image header) (hop : header.op = requestFlush) :
    Ends nested m header (submitFlush nested image m) := by
  obtain ⟨hbyte, hsize, hoverrun⟩ := image.flush_kept
  rw [submitFlush]
  generalize image.flush = flushed at hbyte hsize hoverrun ⊢
  obtain ⟨ok, image'⟩ := flushed
  cases ok with
  | false =>
    refine ⟨requestStatusIoError, _, some image', m.device.bounce, if_pos rfl, .ioError h hsize hoverrun ?_⟩
    intro i hi
    exact absurd (congrFun hbyte i) hi
  | true =>
    refine ⟨requestStatusOk, m.memory, some image', m.device.bounce, if_neg Bool.noConfusion, ?_⟩
    apply Served.ok h (by rw [hop]; decide) hsize hoverrun
    · intro _
      rfl
    · intro x access
      exact not_toGuest (by rw [hop]; decide) m.memory x access _
    · intro i
      rw [if_neg fun hc => absurd (hop.symm.trans hc.1) (by decide)]
      exact congrFun hbyte i

lemma sectorCount_le (image : DiskImage) : image.sectorCount.toNat * 512 ≤ image.sizeBytes.toNat := by
  have hsize : DiskImage.sectorSize.toNat = 512 := rfl
  rw [DiskImage.sectorCount, BitVec.toNat_udiv, hsize]
  omega

lemma accepted_of_checks (himage : m.device.image = some image) (hcount : ¬ maxSectorsPerRequest < header.sectorCount)
    (hrange : ¬ (image.sectorCount < header.sector ∨ image.sectorCount - header.sector < header.sectorCount)) :
    Accepted m image header := by
  have hmax : maxSectorsPerRequest.toNat = 128 := rfl
  have hsectors := sectorCount_le image
  have hend : header.sector.toNat + header.sectorCount.toNat ≤ image.sectorCount.toNat := by
    rw [not_or] at hrange
    bv_omega
  rw [BitVec.lt_def] at hcount
  refine ⟨himage, by omega, ?_⟩
  rw [RequestHeader.diskOffset, RequestHeader.diskBytes, ← Nat.add_mul]
  exact (Nat.mul_le_mul_right 512 hend).trans hsectors

lemma submitRequest_ends (m : Bus) (hbuffer : (requestHeader (markBusy m)).op = requestRead →
      (requestHeader (markBusy m)).sectorCount.toNat ≤ 128 →
      m.OffRange (requestHeader (markBusy m)).bufferPhys (requestHeader (markBusy m)).diskBytes) :
    Ends nested (markBusy m) (requestHeader (markBusy m)) (submitRequest nested m) := by
  rw [submitRequest]
  simp only
  split
  · exact .refused (by decide)
  next image himage =>
  rw [readRequestHeader]
  by_cases halign : (markBusy m).device.requestAddr &&& 7 ≠ 0
  · rw [if_pos halign]
    exact .refused (by decide)
  rw [if_neg halign]
  generalize requestHeader (markBusy m) = header at hbuffer ⊢
  simp only
  split
  · exact .refused (by decide)
  next hcount =>
  split
  · exact .refused (by decide)
  split
  · exact .refused (by decide)
  next hrange =>
  have haccepted := accepted_of_checks himage hcount hrange
  rw [haccepted.bytes_eq]
  split
  · next hop => exact submitRead_ends haccepted hop (hbuffer hop haccepted.count)
  split
  · next hop => exact submitWrite_ends haccepted hop
  split
  · next hop => exact submitFlush_ends haccepted hop
  · exact .refused (by decide)

lemma finish_off (nested : Nested PvBlockDevice) (status : Word) (h : m.OffRange (statusWord m) 8) : finish nested status m =
    some { memory := m.memory.write64 (statusWord m) status .write, device := complete status m.device } := by
  rw [finish, writeRequestStatus]
  change (Machine.write64 nested (statusWord m) status m).map _ = _
  rw [write64_off h]
  rfl

lemma complete_status (d : PvBlockDevice) (h : d.status &&& statusError = 0) (status : Word) :
    (complete status d).status &&& statusBusy = 0 ∧
      (complete status d).status &&& statusInterruptPending = statusInterruptPending ∧
      (complete status d).interruptLine = true ∧
      ((complete status d).status &&& statusError ≠ 0 ↔ status ≠ requestStatusOk) := by
  have hclear : ∀ s mask : Word, (s &&& ~~~statusBusy ||| statusInterruptPending) &&& mask =
      s &&& (~~~statusBusy &&& mask) ||| statusInterruptPending &&& mask := by
    intro s mask
    rw [BitVec.and_or_distrib_right, BitVec.and_assoc]
  have hbusy : ~~~statusBusy &&& statusBusy = 0 := by decide
  have hpending : ~~~statusBusy &&& statusInterruptPending = statusInterruptPending := by decide
  have herror : ~~~statusBusy &&& statusError = statusError := by decide
  simp only [complete, hclear, hbusy, hpending, herror]
  refine ⟨?_, ?_, trivial, ?_⟩
  · rw [show statusInterruptPending &&& statusBusy = 0 by decide]
    exact BitVec.or_zero.trans BitVec.and_zero
  · rw [BitVec.and_self]
    apply BitVec.eq_of_getLsbD_eq
    intro i _
    rw [BitVec.getLsbD_or, BitVec.getLsbD_and]
    exact Bool.or_eq_right_iff_imp.mpr fun hb => (Bool.and_eq_true _ _ ▸ hb).2
  · rw [show statusInterruptPending &&& statusError = 0 by decide]
    by_cases hstatus : status ≠ requestStatusOk
    · rw [if_pos hstatus, setErrorState]
      simp only [BitVec.and_assoc, herror, BitVec.and_or_distrib_right, h]
      exact ⟨fun _ => hstatus, fun _ => by decide⟩
    · rw [if_neg hstatus, h]
      exact ⟨fun hne => absurd rfl hne, fun hne => absurd hne hstatus⟩

lemma complete_kept (status : Word) (d : PvBlockDevice) :
    (complete status d).image = d.image ∧ (complete status d).bounceOverrun = d.bounceOverrun := by
  rw [complete]
  split <;> exact ⟨rfl, rfl⟩

lemma requestHeader_congr (hmemory : m'.memory = m.memory) (hbase : m'.device.base = m.device.base)
    (hrequest : m'.device.requestAddr = m.device.requestAddr) (h : m.OffRange m.device.requestAddr 64) :
    requestHeader m' = requestHeader m := by
  have hread : ∀ i, i + 8 ≤ 64 →
      m'.read64 (m.device.requestAddr + BitVec.ofNat 64 i) = m.read64 (m.device.requestAddr + BitVec.ofNat 64 i) := by
    intro i hi
    have hoff := h.slice i hi
    have hoff' : m'.OffRange (m.device.requestAddr + BitVec.ofNat 64 i) 8 :=
      fun j hj => (allows_congr hbase _ 1).trans (hoff j hj)
    rw [read64_off hoff, read64_off hoff', hmemory]
  have hfirst := hread 0 (by decide)
  rw [BitVec.add_zero] at hfirst
  rw [requestHeader, hrequest]
  exact congr (congr (congr (congr (congr (congr (congr (congrArg _ hfirst) (hread 8 (by decide)))
    (hread 16 (by decide))) (hread 24 (by decide))) (hread 32 (by decide))) (hread 40 (by decide)))
    (hread 48 (by decide))) (hread 56 (by decide))

lemma read64_write64 {addr : Word} (h : ∀ i < 8, memory.writable (addr + BitVec.ofNat 64 i) = true) (val : Word) :
    (memory.write64 addr val .write).read64 addr .read = val := by
  have hbytes : ∀ i < 8, (memory.write64 addr val .write).read8 (addr + BitVec.ofNat 64 i) .read =
      LittleEndian.byteAt val i := by
    intro i hi
    have hoffset : (addr + BitVec.ofNat 64 i - addr).toNat = i := by
      rw [BitVec.add_comm, BitVec.add_sub_cancel, BitVec.toNat_ofNat]
      omega
    rw [(memory.write64_overlay addr val).byte, if_pos ⟨inRange_offset addr 8 i hi (by decide), h i hi⟩, hoffset]
  rw [MemoryBus.read64_bytes, LittleEndian.assemble_congr hbytes]
  exact LittleEndian.lowBytes_all 8 val (by decide)

/-- What the guest finds after a kick that reported a status. -/
structure Outcome (m m' : Bus) (reported : Word) : Prop where
  bounceInBounds : m'.device.bounceOverrun = m.device.bounceOverrun
  diskInBounds : diskOverrun m'.device.image = diskOverrun m.device.image
  size : diskSize m'.device.image = diskSize m.device.image
  memoryKept : reported ≠ requestStatusOk → ∀ x access, ¬ InRange (statusWord m) 8 x →
    m'.memory.read8 x access = m.memory.read8 x access
  diskKept : reported ≠ requestStatusOk → ∀ i, disk m'.device.image i ≠ disk m.device.image i →
    reported = requestStatusIoError ∧ (requestHeader m).op = requestWrite ∧ (requestHeader m).Covers i
  accepted : reported = requestStatusOk → (requestHeader m).op ∈ [requestRead, requestWrite, requestFlush] ∧
    (requestHeader m).diskOffset + (requestHeader m).diskBytes ≤ (diskSize m.device.image).toNat
  toGuest : reported = requestStatusOk → ∀ x access, ¬ InRange (statusWord m) 8 x → m'.memory.read8 x access =
    if (requestHeader m).op = requestRead ∧ InRange (requestHeader m).bufferPhys (requestHeader m).diskBytes x ∧
        m.memory.writable x then
      disk m.device.image ((requestHeader m).diskOffset + (x - (requestHeader m).bufferPhys).toNat)
    else m.memory.read8 x access
  fromGuest : reported = requestStatusOk → ∀ i, disk m'.device.image i =
    if (requestHeader m).op = requestWrite ∧ (requestHeader m).Covers i then
      (markBusy m).read8 ((requestHeader m).bufferPhys + BitVec.ofNat 64 (i - (requestHeader m).diskOffset))
    else disk m.device.image i
  idle : m'.device.status &&& statusBusy = 0
  pending : m'.device.status &&& statusInterruptPending = statusInterruptPending ∧ m'.device.interruptLine = true
  error : m'.device.status &&& statusError ≠ 0 ↔ reported ≠ requestStatusOk

/-- Every kick whose descriptor lies in memory ends, with a report the guest can rely on. -/
theorem kick_outcome (nested : Nested PvBlockDevice) (m : Bus)
    (hdescriptor : ∀ i < 64, m.memory.writable (m.device.requestAddr + BitVec.ofNat 64 i) = true ∧
      m.Off (m.device.requestAddr + BitVec.ofNat 64 i))
    (hbuffer : (requestHeader m).op = requestRead → (requestHeader m).sectorCount.toNat ≤ 128 →
      m.OffRange (requestHeader m).bufferPhys (requestHeader m).diskBytes) :
    ∃ m', store nested (.double (m.device.base + 0x40) 1) m = some m' ∧
      Outcome m m' (m'.memory.read64 (statusWord m) .read) := by
  have hoff : m.OffRange m.device.requestAddr 64 := fun i hi => (hdescriptor i hi).2
  have hheader : requestHeader (markBusy m) = requestHeader m := requestHeader_congr rfl rfl rfl hoff
  have hstatusWord : ∀ i < 8, m.memory.writable (statusWord m + BitVec.ofNat 64 i) = true := by
    intro i hi
    have hword := (hdescriptor (8 + i) (by omega)).1
    rw [offset_add] at hword
    exact hword
  have hkick : store nested (.double (m.device.base + 0x40) 1) m = submitRequest nested m := by
    have hoffset : (m.device.base + 0x40 - m.device.base).toNat = registerKick := by
      rw [BitVec.add_comm, BitVec.add_sub_cancel]
      rfl
    rw [store, writeRegister64, hoffset]
    rfl
  obtain ⟨status, memory, image, bounce, hends, hserved⟩ := submitRequest_ends m (by
    rw [hheader]
    exact hbuffer)
  rw [hheader] at hserved
  have hfinish := finish_off nested status
    (m := { memory := memory, device := { (markBusy m).device with image := image, bounce := bounce } })
    (hoff.slice 8 (by decide))
  have hover := memory.write64_overlay (statusWord m) status
  refine ⟨_, (hkick.trans hends).trans hfinish, ?_⟩
  have hreported : (memory.write64 (statusWord m) status .write).read64 (statusWord m) .read = status := by
    apply read64_write64
    intro i hi
    rw [hserved.writable]
    exact hstatusWord i hi
  change Outcome m _ ((memory.write64 (statusWord m) status .write).read64 (statusWord m) .read)
  rw [hreported]
  have houtside : ∀ x access, ¬ InRange (statusWord m) 8 x →
      (memory.write64 (statusWord m) status .write).read8 x access = memory.read8 x access := by
    intro x access hx
    rw [hover.byte, if_neg fun hc => hx hc.1]
  obtain ⟨hidle, hpending, hline, herror⟩ := complete_status
    { (markBusy m).device with image := image, bounce := bounce } (by
      change ((m.device.status ||| statusBusy) &&& ~~~statusError) &&& statusError = 0
      rw [BitVec.and_assoc, show ~~~statusError &&& statusError = 0 by decide]
      exact BitVec.and_zero) status
  obtain ⟨himage, hbounce⟩ := complete_kept status
    { (markBusy m).device with image := image, bounce := bounce }
  have hdisk := fun i => congrArg (fun image => disk image i) himage
  exact {
    bounceInBounds := hbounce
    diskInBounds := (congrArg diskOverrun himage).trans hserved.overrun
    size := (congrArg diskSize himage).trans hserved.size
    memoryKept := fun hstatus x access hx =>
      (houtside x access hx).trans (congrArg (fun memory => memory.read8 x access) (hserved.memoryKept hstatus))
    diskKept := fun hstatus i hi => hserved.diskKept hstatus i fun heq => hi ((hdisk i).trans heq)
    accepted := hserved.accepted
    toGuest := fun hstatus x access hx => (houtside x access hx).trans (hserved.toGuest hstatus x access)
    fromGuest := fun hstatus i => (hdisk i).trans (hserved.fromGuest hstatus i)
    idle := hidle
    pending := ⟨hpending, hline⟩
    error := herror }


/-- A machine with a page of memory, a disk of one sector and a request for that sector. -/
def oneSector (op : Word) (host : ℕ → List HostAnswer) : Bus where
  memory := ⟨[{ base := 0x1000, size := 0x1000, kind := .ram
                data := [(0x00, op), (0x10, 0), (0x18, 1), (0x20, 0x1100), (0x28, 0x200)].foldl
                  (fun data field => ByteMemory.store data field.1 8 field.2) fun _ => 0x5A }],
    List.pairwise_singleton _ _⟩
  device :=
    { base := 0x8000
      image := some
        { file := fun _ => 0, fileSizeBytes := 512, isReadOnly := false, dirty := false, host := host, overrun := false }
      requestAddr := 0x1000
      status := statusReady
      bounce := fun _ => 0
      interruptLine := false
      bounceOverrun := false }

theorem kick_outcome_read : ∃ m', store (fun _ _ => none) (.double (0x8000 + 0x40) 1)
      (oneSector requestRead fun _ => [.moved 511]) = some m' ∧
    Outcome (oneSector requestRead fun _ => [.moved 511]) m' (m'.memory.read64 0x1008 .read) := by
  have hdescriptor : ∀ i < 64, (oneSector requestRead fun _ => [.moved 511]).memory.writable (0x1000 + BitVec.ofNat 64 i) = true ∧
      (oneSector requestRead fun _ => [.moved 511]).allows (0x1000 + BitVec.ofNat 64 i) 1 = false := by decide +kernel
  have hbuffer : ∀ i < 512, (oneSector requestRead fun _ => [.moved 511]).allows (0x1100 + BitVec.ofNat 64 i) 1 = false := by
    decide +kernel
  have hheader : (requestHeader (oneSector requestRead fun _ => [.moved 511])).bufferPhys = 0x1100 ∧
      (requestHeader (oneSector requestRead fun _ => [.moved 511])).diskBytes = 512 := by decide +kernel
  apply kick_outcome (fun _ _ => none) (oneSector requestRead fun _ => [.moved 511]) hdescriptor
  intro _ _
  rw [hheader.1, hheader.2]
  exact hbuffer

/-- The host writes the sector and fails the sync after it. -/
def refusedSync : ℕ → List HostAnswer
  | 0 => [.moved 511]
  | _ => [.failed]

/-- The sector is on the disk although the report says that the write failed. -/
theorem refusedSync_changes_disk : ∃ m', store (fun _ _ => none) (.double (0x8000 + 0x40) 1)
      (oneSector requestWrite refusedSync) = some m' ∧
    m'.memory.read64 0x1008 .read = requestStatusIoError ∧
    disk m'.device.image 0 ≠ disk (oneSector requestWrite refusedSync).device.image 0 := by
  have hresult : ((store (fun _ _ => none) (.double (0x8000 + 0x40) 1)
      (oneSector requestWrite refusedSync)).map fun m' =>
        (m'.memory.read64 0x1008 .read, disk m'.device.image 0)) = some (requestStatusIoError, 0x5A) := by
    decide +kernel
  obtain ⟨m', hstore, hpair⟩ := Option.map_eq_some_iff.mp hresult
  obtain ⟨hstatus, hbyte⟩ := Prod.mk.inj hpair
  refine ⟨m', hstore, hstatus, ?_⟩
  rw [hbyte]
  decide

end Little64.Emulator.PvBlockDevice

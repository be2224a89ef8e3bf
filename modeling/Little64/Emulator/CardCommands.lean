import Little64.Emulator.LiteSdCardDevice

/-! What a command sent to the SD card leaves of guest memory, of the disk and of the event registers. -/

namespace Little64.Emulator.LiteSdCardDevice

open ByteMemory Machine

def command (d : LiteSdCardDevice) : BitVec 32 := (d.cmdCommand >>> 8) &&& 0x3F

def transfer (d : LiteSdCardDevice) : BitVec 32 := (d.cmdCommand >>> 5) &&& 0x3

def diskOffset (d : LiteSdCardDevice) : ℕ := d.cmdArgument.toNat * 512

/-- The length of a transfer in exact integers. -/
def exactLength (d : LiteSdCardDevice) (engine : DmaEngine) : ℕ :=
  if engine.length = 0 then
    (if d.blockLength = 0 then 512 else d.blockLength.toNat) * (if d.blockCount = 0 then 1 else d.blockCount.toNat)
  else engine.length.toNat

def ReadsDisk (d : LiteSdCardDevice) : Prop := d.command = 17 ∨ d.command = 18

def WritesDisk (d : LiteSdCardDevice) : Prop := d.command = 24 ∨ d.command = 25

/-- The bytes that a command may send to guest memory. -/
def sendLength (d : LiteSdCardDevice) : ℕ :=
  if d.command = 17 ∨ d.command = 18 then d.exactLength d.reader
  else if d.command = 6 ∨ d.command = 13 ∨ d.command = 51 then 64
  else 0

/-- The card carries the command out. -/
def Succeeds (d : LiteSdCardDevice) : Prop :=
  d.command ∈ [0, 2, 3, 7, 8, 9, 10, 12, 13, 16, 55] ∨
  d.command = 6 ∧ (d.appCmdPending = true ∨ d.transfer = transferRead) ∨
  d.command = 41 ∧ d.appCmdPending = true ∨
  d.command = 51 ∧ d.appCmdPending = true ∧ d.transfer = transferRead ∨
  d.ReadsDisk ∧ d.reader.enable ≠ 0 ∧ (∃ image, d.image = some image ∧
    (image.read (d.cmdArgument.setWidth 64 * DiskImage.sectorSize) (fun _ => 0) (d.exactLength d.reader)).1 = true) ∨
  d.WritesDisk ∧ d.writer.enable ≠ 0 ∧ ∃ image, d.image = some image ∧
    (image.write (d.cmdArgument.setWidth 64 * DiskImage.sectorSize) (fun _ => 0) (d.exactLength d.writer)).1 = true

/-- The machine when the command's transfer starts. -/
def started (m : Bus) : Bus :=
  update (prepareShortResponse 0) (update (fun d => { d with appCmdPending := false }) (update clearTransferState m))

/-- The error that a command records. -/
def Failed (m : Bus) : Prop := m.device.cmdEvent &&& eventTimeout ≠ 0

/-- What the guest finds after a command. -/
structure CommandOutcome (m m' : Bus) : Prop where
  once : m'.device.completions = m.device.completions + 1
  done : m'.device.cmdEvent &&& eventDone = eventDone
  irq : m'.device.irqPending &&& irqCmdDone = irqCmdDone
  overrun : diskOverrun m'.device.image = diskOverrun m.device.image
  size : diskSize m'.device.image = diskSize m.device.image
  error : Failed m' ↔ ¬ m.device.Succeeds
  memoryKept : Failed m' → m'.memory = m.memory
  diskKept : Failed m' → ∀ i, disk m'.device.image i ≠ disk m.device.image i → m.device.WritesDisk ∧
    m.device.diskOffset ≤ i ∧ i < m.device.diskOffset + m.device.exactLength m.device.writer
  inRange : ¬ Failed m' → m.device.ReadsDisk → m.device.exactLength m.device.reader = 0 ∨
    m.device.diskOffset + m.device.exactLength m.device.reader ≤ (diskSize m.device.image).toNat
  toGuest : ¬ Failed m' → m.device.ReadsDisk → ∀ x access, m'.memory.read8 x access =
    if InRange m.device.reader.dmaBase (m.device.exactLength m.device.reader) x ∧ m.memory.writable x then
      disk m.device.image (m.device.diskOffset + (x - m.device.reader.dmaBase).toNat)
    else m.memory.read8 x access
  fromGuest : ¬ Failed m' → m.device.WritesDisk → m'.memory = m.memory ∧ ∀ i, disk m'.device.image i =
    if m.device.diskOffset ≤ i ∧ i < m.device.diskOffset + m.device.exactLength m.device.writer then
      (started m).read8 (m.device.writer.dmaBase + BitVec.ofNat 64 (i - m.device.diskOffset))
    else disk m.device.image i
  diskUntouched : ¬ Failed m' → ¬ m.device.WritesDisk → ∀ i, disk m'.device.image i = disk m.device.image i
  memoryUntouched : ¬ Failed m' → ∀ x access, ¬ InRange m.device.reader.dmaBase m.device.sendLength x →
    m'.memory.read8 x access = m.memory.read8 x access

variable {m m₀ m' : Bus} {nested : Nested LiteSdCardDevice} {image image' : DiskImage} {d : LiteSdCardDevice}

lemma toNat_diskOffset (d : LiteSdCardDevice) :
    (d.cmdArgument.setWidth 64 * DiskImage.sectorSize).toNat = d.diskOffset := by
  have hlt := d.cmdArgument.isLt
  have hsize : DiskImage.sectorSize.toNat = 512 := rfl
  rw [BitVec.toNat_mul, BitVec.toNat_setWidth, hsize, diskOffset]
  omega

/-- The length as the device computes it, when its blocks are less than 4 GiB. -/
lemma engineLength_eq {engine : DmaEngine} (h : engine.length = 0 → d.exactLength engine < 2 ^ 32) :
    d.engineLength engine = d.exactLength engine := by
  rw [engineLength]
  split
  · next hzero =>
    have hexact := h hzero
    rw [exactLength, if_pos hzero] at hexact ⊢
    have hlength : (if d.blockLength = 0 then (512 : BitVec 32) else d.blockLength.setWidth 32).toNat =
        if d.blockLength = 0 then 512 else d.blockLength.toNat := by
      have := d.blockLength.isLt
      split
      · rfl
      · rw [BitVec.toNat_setWidth]
        omega
    have hcount : (if d.blockCount = 0 then (1 : BitVec 32) else d.blockCount).toNat =
        if d.blockCount = 0 then 1 else d.blockCount.toNat := by
      split <;> rfl
    rw [transferLength, BitVec.toNat_mul, hlength, hcount, Nat.mod_eq_of_lt hexact]
  · next hzero => rw [exactLength, if_neg hzero]

lemma irqPending_completeCommand (cmdEvent dataEvent : BitVec 8) (irqBits : BitVec 32) (d : LiteSdCardDevice) :
    (completeCommand cmdEvent dataEvent irqBits d).irqPending &&& irqCmdDone = irqCmdDone := by
  change (d.irqPending ||| (irqBits ||| irqCmdDone)) &&& irqCmdDone = irqCmdDone
  rw [← BitVec.or_assoc, BitVec.and_or_distrib_right, BitVec.and_self]
  apply BitVec.eq_of_getLsbD_eq
  intro i _
  rw [BitVec.getLsbD_or, BitVec.getLsbD_and]
  exact Bool.or_eq_right_iff_imp.mpr fun hb => (Bool.and_eq_true _ _ ▸ hb).2

lemma failed_failCommand (t : BitVec 32) (m : Bus) : Failed (failCommand t m) := by
  change (eventDone ||| eventTimeout) &&& eventTimeout ≠ 0
  decide

lemma failCommand_outcome (t : BitVec 32) (hmemory : m₀.memory = m.memory)
    (honce : m₀.device.completions = m.device.completions)
    (hoverrun : diskOverrun m₀.device.image = diskOverrun m.device.image)
    (hsize : diskSize m₀.device.image = diskSize m.device.image)
    (hdisk : ∀ i, disk m₀.device.image i ≠ disk m.device.image i → m.device.WritesDisk ∧
      m.device.diskOffset ≤ i ∧ i < m.device.diskOffset + m.device.exactLength m.device.writer)
    (hnot : ¬ m.device.Succeeds) : CommandOutcome m (failCommand t m₀) := by
  have hfailed := failed_failCommand t m₀
  exact {
    once := congrArg (· + 1) honce
    done := by
      change (eventDone ||| eventTimeout) &&& eventDone = eventDone
      decide
    irq := irqPending_completeCommand _ _ _ _
    overrun := hoverrun
    size := hsize
    error := ⟨fun _ => hnot, fun _ => hfailed⟩
    memoryKept := fun _ => hmemory
    diskKept := fun _ => hdisk
    inRange := fun h => absurd hfailed h
    toGuest := fun h => absurd hfailed h
    fromGuest := fun h => absurd hfailed h
    diskUntouched := fun h => absurd hfailed h
    memoryUntouched := fun h => absurd hfailed h }

lemma refused_outcome (t : BitVec 32) (hnot : ¬ m.device.Succeeds) : CommandOutcome m (failCommand t (started m)) :=
  failCommand_outcome (m := m) t rfl rfl rfl rfl (fun _ hi => absurd rfl hi) hnot

/-- A command that is carried out and is no transfer between the disk and memory. -/
lemma completed_outcome (honce : m'.device.completions = m.device.completions + 1)
    (hevent : m'.device.cmdEvent = eventDone) (hirq : m'.device.irqPending &&& irqCmdDone = irqCmdDone)
    (himage : m'.device.image = m.device.image) (hreads : ¬ m.device.ReadsDisk) (hwrites : ¬ m.device.WritesDisk)
    (hmemory : ∀ x access, ¬ InRange m.device.reader.dmaBase m.device.sendLength x →
      m'.memory.read8 x access = m.memory.read8 x access)
    (hsucceeds : m.device.Succeeds) : CommandOutcome m m' := by
  have hok : ¬ Failed m' := by
    rw [Failed, hevent]
    decide
  exact {
    once := honce
    done := by
      rw [hevent]
      decide
    irq := hirq
    overrun := congrArg diskOverrun himage
    size := congrArg diskSize himage
    error := ⟨fun h => absurd h hok, fun h => absurd hsucceeds h⟩
    memoryKept := fun h => absurd h hok
    diskKept := fun h => absurd h hok
    inRange := fun _ h => absurd h hreads
    toGuest := fun _ h => absurd h hreads
    fromGuest := fun _ h => absurd h hwrites
    diskUntouched := fun _ _ i => congrArg (fun image => disk image i) himage
    memoryUntouched := fun _ => hmemory }

/-- A read transfer that has read what it is to send also sends it and completes the command. -/
lemma runReadTransfer_sent {c argument : BitVec 32} {payload : Payload}
    (hread : readPayload c argument m.device = (some payload, d)) (hbase : d.base = m.device.base)
    (hlen : payload.size < 2 ^ 64) (hbuffer : d.reader.enable ≠ 0 → m.OffRange d.reader.dmaBase payload.size) :
    ∃ memory done, runReadTransfer nested c argument m =
        some (true, ⟨memory, completeCommand eventDone eventDone irqReadDone
          { d with reader := { d.reader with done := done } }⟩) ∧
      Poured m.memory d.reader.dmaBase (if d.reader.enable = 0 then 0 else payload.size) payload.byte memory := by
  rw [runReadTransfer, hread]
  simp only
  by_cases hsend : d.reader.enable ≠ 0 ∧ payload.size ≠ 0
  · obtain ⟨memory, hstored, hpoured⟩ := storeBytes_off (f := fun _ i => payload.byte i) hlen
      ((hbuffer hsend.1).setDevice hbase) fun _ _ => rfl
    refine ⟨memory, eventDone, ?_, ?_⟩
    · rw [if_pos hsend, copyToGuest, hstored]
      rfl
    · rw [if_neg hsend.1]
      exact hpoured
  · refine ⟨m.memory, d.reader.done, by rw [if_neg hsend]; rfl, ?_⟩
    have hnone : (if d.reader.enable = 0 then 0 else payload.size) = 0 := by
      split
      · rfl
      · next henable => exact of_not_not fun hsize => hsend ⟨henable, hsize⟩
    rw [hnone]
    exact .zero _ _ _

lemma cardPayload_outcome {payload : Payload} {after : LiteSdCardDevice → LiteSdCardDevice}
    {otherwise : Bus → Option Bus} {c : BitVec 32} (hstate : m₀ = started m)
    (hread : readPayload c m₀.device.cmdArgument m₀.device = (some payload, m₀.device))
    (hafter : ∀ d, (after d).completions = d.completions ∧ (after d).cmdEvent = d.cmdEvent ∧
      (after d).irqPending = d.irqPending ∧ (after d).image = d.image)
    (hsize : payload.size ≤ 64) (hsend : m.device.sendLength = 64)
    (hbuffer : m.OffRange m.device.reader.dmaBase 64)
    (hreads : ¬ m.device.ReadsDisk) (hwrites : ¬ m.device.WritesDisk) (hsucceeds : m.device.Succeeds) :
    ∃ m', readCommand nested c (update after) otherwise m₀ = some m' ∧ CommandOutcome m m' := by
  subst hstate
  obtain ⟨memory, done, hrun, hpoured⟩ := runReadTransfer_sent hread rfl (by omega) (by
    intro _ i hi
    exact hbuffer i (by omega))
  refine ⟨_, by rw [readCommand, hrun]; rfl, ?_⟩
  obtain ⟨honce, hevent, hirq, himage⟩ := hafter (completeCommand eventDone eventDone irqReadDone
    { (started m).device with reader := { (started m).device.reader with done := done } })
  apply completed_outcome honce hevent _ himage hreads hwrites _ hsucceeds
  · exact (congrArg (· &&& irqCmdDone) hirq).trans (irqPending_completeCommand _ _ _ _)
  · intro x access hx
    refine (hpoured.byte x access).trans (if_neg fun hc => hx ?_)
    rw [hsend]
    have hin := hc.1
    rw [InRange] at hin ⊢
    split at hin
    · omega
    · exact hin.trans_le hsize

lemma succeeds_reads (h : d.ReadsDisk) : d.Succeeds ↔ d.reader.enable ≠ 0 ∧ ∃ image, d.image = some image ∧
    (image.read (d.cmdArgument.setWidth 64 * DiskImage.sectorSize) (fun _ => 0) (d.exactLength d.reader)).1 = true := by
  have hother : d.command ∉ [0, 2, 3, 7, 8, 9, 10, 12, 13, 16, 55, 6, 41, 51] ∧ ¬ d.WritesDisk := by
    rw [WritesDisk]
    rcases h with h | h <;> rw [h] <;> decide
  simp only [List.mem_cons, List.not_mem_nil, not_or] at hother
  simp only [Succeeds, List.mem_cons, List.not_mem_nil, hother, h, false_and, false_or, or_false, true_and]

lemma exactLength_lt {engine : DmaEngine} (h : engine.length = 0 → d.exactLength engine < 2 ^ 32) :
    d.exactLength engine < 2 ^ 32 := by
  by_cases hzero : engine.length = 0
  · exact h hzero
  · rw [exactLength, if_neg hzero]
    exact engine.length.isLt

lemma readPayload_disk {image : DiskImage} {result : Bool × (ℕ → BitVec 8) × DiskImage} (hc : m.device.ReadsDisk)
    (henable : m.device.reader.enable ≠ 0) (himage : m.device.image = some image)
    (hfits : m.device.reader.length = 0 → m.device.exactLength m.device.reader < 2 ^ 32)
    (hresult : image.read (m.device.cmdArgument.setWidth 64 * DiskImage.sectorSize) (fun _ => 0)
      (m.device.exactLength m.device.reader) = result) :
    readPayload m.device.command (started m).device.cmdArgument (started m).device =
      (if result.1 then some ⟨m.device.exactLength m.device.reader, result.2.1⟩ else none,
        { (started m).device with image := some result.2.2 }) := by
  have hlength : (started m).device.engineLength (started m).device.reader = m.device.exactLength m.device.reader :=
    engineLength_eq (d := (started m).device) hfits
  have hcommand : m.device.command = 17 ∨ m.device.command = 18 := hc
  have henable' : ¬ (started m).device.reader.enable = 0 := henable
  have himage' : (started m).device.image = some image := himage
  rw [readPayload, if_pos hcommand, if_neg henable', himage']
  simp only [hlength]
  rw [← hresult]
  rfl

lemma diskRead_outcome (t : BitVec 32) (hc : m.device.ReadsDisk)
    (hfits : m.device.reader.length = 0 → m.device.exactLength m.device.reader < 2 ^ 32)
    (hbuffer : m.OffRange m.device.reader.dmaBase (m.device.exactLength m.device.reader)) :
    ∃ m', readCommand nested m.device.command id (fun m => some (failCommand t m)) (started m) = some m' ∧
      CommandOutcome m m' := by
  have hsucceeds := succeeds_reads hc
  have hcommand : m.device.command = 17 ∨ m.device.command = 18 := hc
  rw [readCommand]
  by_cases henable : m.device.reader.enable = 0
  · refine ⟨failCommand t (started m), ?_, ?_⟩
    · have henable' : (started m).device.reader.enable = 0 := henable
      rw [runReadTransfer, readPayload, if_pos hcommand, if_pos henable']
      rfl
    · apply refused_outcome
      rw [hsucceeds]
      exact fun h => h.1 henable
  cases himage : m.device.image with
  | none =>
    refine ⟨failCommand t (started m), ?_, ?_⟩
    · have henable' : ¬ (started m).device.reader.enable = 0 := henable
      have himage' : (started m).device.image = none := himage
      rw [runReadTransfer, readPayload, if_pos hcommand, if_neg henable', himage']
      rfl
    · apply refused_outcome
      rw [hsucceeds, himage]
      rintro ⟨_, image, h, _⟩
      cases h
  | some image =>
    have hdisk : ∀ i, disk m.device.image i = image.byte i := by
      intro i
      rw [himage]
      rfl
    have hsize : diskSize m.device.image = image.sizeBytes := by
      rw [himage]
      rfl
    have hoverrun : diskOverrun m.device.image = image.overrun := by
      rw [himage]
      rfl
    have hkept := image.read_kept (m.device.cmdArgument.setWidth 64 * DiskImage.sectorSize) (fun _ => 0)
      (m.device.exactLength m.device.reader)
    have hbytes := fun i => @DiskImage.read_byte image (m.device.cmdArgument.setWidth 64 * DiskImage.sectorSize)
      (m.device.exactLength m.device.reader) i fun _ => 0
    have hbounds := @DiskImage.read_inBounds image (m.device.cmdArgument.setWidth 64 * DiskImage.sectorSize)
      (m.device.exactLength m.device.reader) fun _ => 0
    rw [toNat_diskOffset] at hbytes hbounds
    rw [himage] at hsucceeds
    generalize hresult : image.read (m.device.cmdArgument.setWidth 64 * DiskImage.sectorSize) (fun _ => 0)
      (m.device.exactLength m.device.reader) = result at hkept hbytes hbounds
    have hread := readPayload_disk hc henable himage hfits hresult
    obtain ⟨ok, bytes, image'⟩ := result
    simp only at hkept hbytes hbounds hread
    cases ok with
    | false =>
      refine ⟨failCommand t { started m with device := { (started m).device with image := some image' } }, ?_, ?_⟩
      · rw [runReadTransfer, hread]
        rfl
      · refine failCommand_outcome t rfl rfl ?_ ?_ ?_ ?_
        · exact hkept.2.2.trans hoverrun.symm
        · exact hkept.2.1.trans hsize.symm
        · intro i hi
          exact absurd ((congrFun hkept.1 i).trans (hdisk i).symm) hi
        · rw [hsucceeds]
          rintro ⟨_, image, h, hok⟩
          obtain rfl := Option.some.inj h
          rw [hresult] at hok
          exact Bool.noConfusion hok
    | true =>
      rw [if_pos rfl] at hread
      obtain ⟨memory, done, hrun, hpoured⟩ := runReadTransfer_sent hread rfl
        ((exactLength_lt hfits).trans (by decide)) fun _ => hbuffer
      have hpoured : Poured m.memory m.device.reader.dmaBase (m.device.exactLength m.device.reader) bytes memory := by
        have hnonzero : (if (started m).device.reader.enable = 0 then 0 else m.device.exactLength m.device.reader) =
            m.device.exactLength m.device.reader := if_neg henable
        rw [← hnonzero]
        exact hpoured
      have hwrites : ¬ m.device.WritesDisk := by
        rw [WritesDisk]
        rcases hcommand with h | h <;> rw [h] <;> decide
      have hsend : m.device.sendLength = m.device.exactLength m.device.reader := if_pos hcommand
      refine ⟨_, by rw [hrun]; rfl, ?_⟩
      have hok : ¬ Failed ⟨memory, completeCommand eventDone eventDone irqReadDone
          { { (started m).device with image := some image' } with
            reader := { (started m).device.reader with done := done } }⟩ := by
        change ¬ eventDone &&& eventTimeout ≠ 0
        decide
      exact {
        once := rfl
        done := BitVec.and_self
        irq := irqPending_completeCommand _ _ _ _
        overrun := hkept.2.2.trans hoverrun.symm
        size := hkept.2.1.trans hsize.symm
        error := ⟨fun h => absurd h hok, fun h => absurd (hsucceeds.mpr ⟨henable, image, rfl, by rw [hresult]⟩) h⟩
        memoryKept := fun h => absurd h hok
        diskKept := fun h => absurd h hok
        inRange := fun _ _ => by
          rw [hsize]
          exact hbounds rfl
        toGuest := fun _ _ x access => by
          refine (hpoured.byte x access).trans ?_
          rw [hdisk]
          by_cases hx : InRange m.device.reader.dmaBase (m.device.exactLength m.device.reader) x ∧
              m.memory.writable x = true
          · rw [if_pos hx, if_pos hx]
            exact hbytes _ rfl hx.1
          · rw [if_neg hx, if_neg hx]
        fromGuest := fun _ h => absurd h hwrites
        diskUntouched := fun _ _ i => (congrFun hkept.1 i).trans (hdisk i).symm
        memoryUntouched := fun _ x access hx => by
          rw [hsend] at hx
          exact (hpoured.byte x access).trans (if_neg fun hc => hx hc.1) }

lemma succeeds_writes (h : d.WritesDisk) : d.Succeeds ↔ d.writer.enable ≠ 0 ∧ ∃ image, d.image = some image ∧
    (image.write (d.cmdArgument.setWidth 64 * DiskImage.sectorSize) (fun _ => 0) (d.exactLength d.writer)).1 = true := by
  have hother : d.command ∉ [0, 2, 3, 7, 8, 9, 10, 12, 13, 16, 55, 6, 41, 51] ∧ ¬ d.ReadsDisk := by
    rw [ReadsDisk]
    rcases h with h | h <;> rw [h] <;> decide
  simp only [List.mem_cons, List.not_mem_nil, not_or] at hother
  simp only [Succeeds, List.mem_cons, List.not_mem_nil, hother, h, false_and, false_or, true_and]

lemma runWriteTransfer_disk {image : DiskImage} {result : Bool × DiskImage} (hc : m.device.WritesDisk)
    (henable : m.device.writer.enable ≠ 0) (himage : m.device.image = some image)
    (hfits : m.device.writer.length = 0 → m.device.exactLength m.device.writer < 2 ^ 32)
    (hresult : image.write (m.device.cmdArgument.setWidth 64 * DiskImage.sectorSize)
      (copyFromGuest m.device.writer.dmaBase (started m)) (m.device.exactLength m.device.writer) = result) :
    runWriteTransfer m.device.command (started m).device.cmdArgument (started m) =
      if result.1 = false then (false, update (fun d => { d with image := some result.2 }) (started m))
      else (true, update (fun d => completeCommand eventDone eventDone irqWriteDone
        { d with image := some result.2.flush.2, writer := { d.writer with done := eventDone } }) (started m)) := by
  have hlength : (started m).device.engineLength (started m).device.writer = m.device.exactLength m.device.writer :=
    engineLength_eq (d := (started m).device) hfits
  have hgo : ¬ ((m.device.command ≠ 24 ∧ m.device.command ≠ 25) ∨ (started m).device.writer.enable = 0) := by
    rintro (⟨h24, h25⟩ | hzero)
    · exact hc.elim h24 h25
    · exact henable hzero
  have himage' : (started m).device.image = some image := himage
  rw [runWriteTransfer, himage']
  simp only
  rw [if_neg hgo, hlength, ← hresult]
  rfl

lemma diskWrite_outcome (t : BitVec 32) (hc : m.device.WritesDisk)
    (hfits : m.device.writer.length = 0 → m.device.exactLength m.device.writer < 2 ^ 32) :
    ∃ m', writeCommand m.device.command t (started m) = some m' ∧ CommandOutcome m m' := by
  rw [writeCommand, ← apply_ite some]
  refine ⟨_, rfl, ?_⟩
  have hsucceeds := succeeds_writes hc
  have hreads : ¬ m.device.ReadsDisk := by
    rw [ReadsDisk]
    rcases hc with h | h <;> rw [h] <;> decide
  cases himage : m.device.image with
  | none =>
    have himage' : (started m).device.image = none := himage
    rw [runWriteTransfer, himage']
    apply refused_outcome
    rw [hsucceeds, himage]
    rintro ⟨_, image, h, _⟩
    cases h
  | some image =>
    by_cases henable : m.device.writer.enable = 0
    · have himage' : (started m).device.image = some image := himage
      have henable' : (started m).device.writer.enable = 0 := henable
      rw [runWriteTransfer, himage']
      simp only
      rw [if_pos (Or.inr henable')]
      apply refused_outcome
      rw [hsucceeds]
      exact fun h => h.1 henable
    have hdisk : ∀ i, disk m.device.image i = image.byte i := by
      intro i
      rw [himage]
      rfl
    have hsize : diskSize m.device.image = image.sizeBytes := by
      rw [himage]
      rfl
    have hoverrun : diskOverrun m.device.image = image.overrun := by
      rw [himage]
      rfl
    have hwritten := image.write_written (m.device.cmdArgument.setWidth 64 * DiskImage.sectorSize)
      (copyFromGuest m.device.writer.dmaBase (started m)) (m.device.exactLength m.device.writer) (by
        rw [toNat_diskOffset, diskOffset]
        omega)
    have hok := image.write_ok (m.device.cmdArgument.setWidth 64 * DiskImage.sectorSize)
      (copyFromGuest m.device.writer.dmaBase (started m)) (fun _ => 0) (m.device.exactLength m.device.writer)
    generalize hresult : image.write (m.device.cmdArgument.setWidth 64 * DiskImage.sectorSize)
      (copyFromGuest m.device.writer.dmaBase (started m)) (m.device.exactLength m.device.writer) = result
      at hwritten hok
    rw [runWriteTransfer_disk hc henable himage hfits hresult]
    obtain ⟨ok, image'⟩ := result
    have hoffset := toNat_diskOffset m.device
    have hchanged : ∀ i, image'.byte i ≠ image.byte i →
        m.device.diskOffset ≤ i ∧ i < m.device.diskOffset + m.device.exactLength m.device.writer := by
      intro i hi
      by_contra hc
      rw [← hoffset] at hc
      exact hi (hwritten.outside i hc)
    cases ok with
    | false =>
      refine failCommand_outcome t rfl rfl ?_ ?_ ?_ ?_
      · exact hwritten.overrun.trans hoverrun.symm
      · exact hwritten.sizeBytes.trans hsize.symm
      · intro i hi
        exact ⟨hc, hchanged i fun heq => hi (heq.trans (hdisk i).symm)⟩
      · rw [hsucceeds]
        rintro ⟨_, image₁, h, hwrite⟩
        obtain rfl := Option.some.inj (himage.symm.trans h)
        rw [← hok] at hwrite
        exact Bool.noConfusion hwrite
    | true =>
      obtain ⟨hbyte, hsizeBytes, hoverrun'⟩ := image'.flush_kept
      have hok' : ¬ Failed (update (fun d => completeCommand eventDone eventDone irqWriteDone
          { d with image := some image'.flush.2, writer := { d.writer with done := eventDone } }) (started m)) := by
        change ¬ eventDone &&& eventTimeout ≠ 0
        decide
      exact {
        once := rfl
        done := BitVec.and_self
        irq := irqPending_completeCommand _ _ _ _
        overrun := (hoverrun'.trans hwritten.overrun).trans hoverrun.symm
        size := (hsizeBytes.trans hwritten.sizeBytes).trans hsize.symm
        error := ⟨fun h => absurd h hok', fun h => absurd (hsucceeds.mpr ⟨henable, image, himage, hok.symm⟩) h⟩
        memoryKept := fun h => absurd h hok'
        diskKept := fun h => absurd h hok'
        inRange := fun _ h => absurd h hreads
        toGuest := fun _ h => absurd h hreads
        fromGuest := fun _ _ => by
          refine ⟨rfl, ?_⟩
          intro i
          refine (congrFun hbyte i).trans ?_
          by_cases hi : m.device.diskOffset ≤ i ∧ i < m.device.diskOffset + m.device.exactLength m.device.writer
          · have hinside := hwritten.inside rfl (i - m.device.diskOffset) (by omega)
            rw [hoffset, Nat.add_sub_cancel' hi.1] at hinside
            rw [if_pos hi, hinside]
            rfl
          · rw [if_neg hi, hdisk]
            by_contra hne
            exact hi (hchanged i hne)
        diskUntouched := fun _ h => absurd hc h
        memoryUntouched := fun _ _ _ _ => rfl }

lemma simpleResponse_outcome (value : BitVec 32) (himage : m₀.device.image = m.device.image)
    (hmemory : m₀.memory = m.memory) (honce : m₀.device.completions = m.device.completions)
    (hreads : ¬ m.device.ReadsDisk) (hwrites : ¬ m.device.WritesDisk) (hsucceeds : m.device.Succeeds) :
    ∃ m', simpleResponse value m₀ = some m' ∧ CommandOutcome m m' := by
  refine ⟨_, rfl, completed_outcome (congrArg (· + 1) honce) rfl (irqPending_completeCommand _ _ _ _) himage hreads
    hwrites ?_ hsucceeds⟩
  intro x access _
  exact congrArg (fun memory => memory.read8 x access) hmemory

lemma not_disk (h : d.command ∈ [0, 2, 3, 6, 7, 8, 9, 10, 12, 13, 16, 41, 51, 55]) :
    ¬ d.ReadsDisk ∧ ¬ d.WritesDisk := by
  simp only [List.mem_cons, List.not_mem_nil, or_false] at h
  rw [ReadsDisk, WritesDisk]
  rcases h with h | h | h | h | h | h | h | h | h | h | h | h | h | h <;> rw [h] <;> decide

lemma succeeds_card (h : d.command ∈ [0, 2, 3, 7, 8, 9, 10, 12, 13, 16, 55]) : d.Succeeds := .inl h

lemma not_succeeds (hcard : d.command ∉ [0, 2, 3, 7, 8, 9, 10, 12, 13, 16, 55]) (hreads : ¬ d.ReadsDisk)
    (hwrites : ¬ d.WritesDisk) (h6 : d.command = 6 → d.appCmdPending = false ∧ d.transfer ≠ transferRead)
    (h41 : d.command = 41 → d.appCmdPending = false)
    (h51 : d.command = 51 → ¬ (d.appCmdPending = true ∧ d.transfer = transferRead)) : ¬ d.Succeeds := by
  rintro (h | ⟨hc, h⟩ | ⟨hc, h⟩ | ⟨hc, h⟩ | ⟨h, _⟩ | ⟨h, _⟩)
  · exact hcard h
  · obtain ⟨happ, ht⟩ := h6 hc
    rw [happ] at h
    exact h.elim Bool.false_ne_true ht
  · rw [h41 hc] at h
    exact Bool.noConfusion h
  · exact h51 hc h
  · exact hreads h
  · exact hwrites h

lemma readPayload_scr (argument : BitVec 32) (d : LiteSdCardDevice) :
    readPayload 51 argument d = (some (.ofList scrPayload), d) := by
  rw [readPayload, if_neg (by decide), if_pos rfl]

lemma readPayload_switch (argument : BitVec 32) (d : LiteSdCardDevice) :
    readPayload 6 argument d = (some (.ofList (d.switchStatusPayload (d.cmdArgument &&& 0x80000000 != 0))), d) := by
  rw [readPayload, if_neg (by decide), if_neg (by decide), if_pos rfl]

lemma readPayload_status (argument : BitVec 32) (d : LiteSdCardDevice) :
    readPayload 13 argument d = (some (.ofList sdStatusPayload), d) := by
  rw [readPayload, if_neg (by decide), if_neg (by decide), if_neg (by decide), if_pos rfl]

lemma setHighSpeed_kept (d : LiteSdCardDevice) : (setHighSpeed d).completions = d.completions ∧
    (setHighSpeed d).cmdEvent = d.cmdEvent ∧ (setHighSpeed d).irqPending = d.irqPending ∧
    (setHighSpeed d).image = d.image := by
  rw [setHighSpeed]
  split <;> exact ⟨rfl, rfl, rfl, rfl⟩

lemma sendLength_card (h : d.command = 6 ∨ d.command = 13 ∨ d.command = 51) : d.sendLength = 64 := by
  rw [sendLength, if_neg, if_pos h]
  rcases h with h | h | h <;> rw [h] <;> decide

/-- Every command sent to the card ends, and what it leaves agrees with the event it records. -/
lemma handleCommandSend_outcome (m : Bus)
    (hreader : m.device.ReadsDisk → m.device.reader.length = 0 → m.device.exactLength m.device.reader < 2 ^ 32)
    (hwriter : m.device.WritesDisk → m.device.writer.length = 0 → m.device.exactLength m.device.writer < 2 ^ 32)
    (hbuffer : m.OffRange m.device.reader.dmaBase m.device.sendLength) :
    ∃ m', handleCommandSend nested m = some m' ∧ CommandOutcome m m' := by
  change ∃ m', runCommand nested m.device.command m.device.transfer m.device.appCmdPending
    (update (fun d => { d with appCmdPending := false }) (update clearTransferState m)) = some m' ∧ CommandOutcome m m'
  rw [runCommand]
  by_cases h0 : m.device.command = 0
  · obtain ⟨hreads, hwrites⟩ := not_disk (d := m.device) (by rw [h0]; decide)
    rw [if_pos h0]
    exact simpleResponse_outcome _ rfl rfl rfl hreads hwrites (succeeds_card (by rw [h0]; decide))
  rw [if_neg h0]
  by_cases h2 : m.device.command = 2 ∨ m.device.command = 10
  · obtain ⟨hreads, hwrites⟩ := not_disk (d := m.device) (by rcases h2 with h | h <;> rw [h] <;> decide)
    rw [if_pos h2]
    refine ⟨_, rfl, completed_outcome rfl rfl (irqPending_completeCommand _ _ _ _) rfl hreads hwrites (fun _ _ _ => rfl)
      (succeeds_card (by rcases h2 with h | h <;> rw [h] <;> decide))⟩
  rw [if_neg h2]
  by_cases h3 : m.device.command = 3
  · obtain ⟨hreads, hwrites⟩ := not_disk (d := m.device) (by rw [h3]; decide)
    rw [if_pos h3]
    exact simpleResponse_outcome _ rfl rfl rfl hreads hwrites (succeeds_card (by rw [h3]; decide))
  rw [if_neg h3]
  by_cases h6 : m.device.command = 6
  · obtain ⟨hreads, hwrites⟩ := not_disk (d := m.device) (by rw [h6]; decide)
    rw [if_pos h6]
    cases happ : m.device.appCmdPending with
    | true =>
      rw [if_pos rfl]
      exact simpleResponse_outcome _ rfl rfl rfl hreads hwrites (.inr (.inl ⟨h6, .inl happ⟩))
    | false =>
      rw [if_neg Bool.false_ne_true]
      by_cases ht : m.device.transfer = transferRead
      · have hsend := sendLength_card (d := m.device) (.inl h6)
        rw [hsend] at hbuffer
        rw [if_pos ht, h6]
        exact cardPayload_outcome rfl (readPayload_switch _ _) setHighSpeed_kept (by simp [Payload.ofList, switchStatusPayload])
          hsend hbuffer hreads hwrites (.inr (.inl ⟨h6, .inr ht⟩))
      · rw [if_neg ht]
        exact ⟨_, rfl, refused_outcome _ (not_succeeds (by rw [h6]; decide) hreads hwrites (fun _ => ⟨happ, ht⟩)
          (fun h => absurd (h6.symm.trans h) (by decide)) (fun h => absurd (h6.symm.trans h) (by decide)))⟩
  rw [if_neg h6]
  by_cases h7 : m.device.command = 7
  · obtain ⟨hreads, hwrites⟩ := not_disk (d := m.device) (by rw [h7]; decide)
    rw [if_pos h7]
    exact simpleResponse_outcome _ rfl rfl rfl hreads hwrites (succeeds_card (by rw [h7]; decide))
  rw [if_neg h7]
  by_cases h8 : m.device.command = 8
  · obtain ⟨hreads, hwrites⟩ := not_disk (d := m.device) (by rw [h8]; decide)
    rw [if_pos h8]
    exact simpleResponse_outcome _ rfl rfl rfl hreads hwrites (succeeds_card (by rw [h8]; decide))
  rw [if_neg h8]
  by_cases h9 : m.device.command = 9
  · obtain ⟨hreads, hwrites⟩ := not_disk (d := m.device) (by rw [h9]; decide)
    rw [if_pos h9]
    refine ⟨_, rfl, completed_outcome rfl rfl (irqPending_completeCommand _ _ _ _) rfl hreads hwrites (fun _ _ _ => rfl)
      (succeeds_card (by rw [h9]; decide))⟩
  rw [if_neg h9]
  by_cases h12 : m.device.command = 12
  · obtain ⟨hreads, hwrites⟩ := not_disk (d := m.device) (by rw [h12]; decide)
    rw [if_pos h12]
    exact simpleResponse_outcome _ rfl rfl rfl hreads hwrites (succeeds_card (by rw [h12]; decide))
  rw [if_neg h12]
  by_cases h13 : m.device.command = 13
  · obtain ⟨hreads, hwrites⟩ := not_disk (d := m.device) (by rw [h13]; decide)
    have hsucceeds : m.device.Succeeds := succeeds_card (by rw [h13]; decide)
    have hsend := sendLength_card (d := m.device) (.inr (.inl h13))
    rw [hsend] at hbuffer
    rw [if_pos h13, h13]
    split
    · exact cardPayload_outcome rfl (readPayload_status _ _) (fun _ => ⟨rfl, rfl, rfl, rfl⟩) (le_refl 64)
        hsend hbuffer hreads hwrites hsucceeds
    · exact simpleResponse_outcome _ rfl rfl rfl hreads hwrites hsucceeds
  rw [if_neg h13]
  by_cases h16 : m.device.command = 16
  · obtain ⟨hreads, hwrites⟩ := not_disk (d := m.device) (by rw [h16]; decide)
    rw [if_pos h16]
    exact simpleResponse_outcome _ rfl rfl rfl hreads hwrites (succeeds_card (by rw [h16]; decide))
  rw [if_neg h16]
  by_cases h17 : m.device.command = 17 ∨ m.device.command = 18
  · have hsend : m.device.sendLength = m.device.exactLength m.device.reader := if_pos h17
    rw [hsend] at hbuffer
    rw [if_pos h17]
    exact diskRead_outcome _ h17 (hreader h17) hbuffer
  rw [if_neg h17]
  by_cases h24 : m.device.command = 24 ∨ m.device.command = 25
  · rw [if_pos h24]
    exact diskWrite_outcome _ h24 (hwriter h24)
  rw [if_neg h24]
  by_cases h41 : m.device.command = 41
  · rw [if_pos h41]
    cases happ : m.device.appCmdPending with
    | true =>
      rw [if_pos rfl]
      exact simpleResponse_outcome _ rfl rfl rfl h17 h24 (.inr (.inr (.inl ⟨h41, happ⟩)))
    | false =>
      rw [if_neg Bool.false_ne_true]
      exact ⟨_, rfl, refused_outcome _ (not_succeeds (by rw [h41]; decide) h17 h24
        (fun h => absurd (h41.symm.trans h) (by decide)) (fun _ => happ) fun h => absurd (h41.symm.trans h) (by decide))⟩
  rw [if_neg h41]
  by_cases h51 : m.device.command = 51
  · have hsend := sendLength_card (d := m.device) (.inr (.inr h51))
    rw [hsend] at hbuffer
    rw [if_pos h51, h51]
    by_cases hgo : m.device.appCmdPending = true ∧ m.device.transfer = transferRead
    · rw [if_pos (by rw [hgo.1, hgo.2]; rfl)]
      exact cardPayload_outcome rfl (readPayload_scr _ _) (fun _ => ⟨rfl, rfl, rfl, rfl⟩) (by decide)
        hsend hbuffer h17 h24 (.inr (.inr (.inr (.inl ⟨h51, hgo⟩))))
    · rw [if_neg (by rwa [Bool.and_eq_true, beq_iff_eq])]
      exact ⟨_, rfl, refused_outcome _ (not_succeeds (by rw [h51]; decide) h17 h24
        (fun h => absurd (h51.symm.trans h) (by decide)) (fun h => absurd (h51.symm.trans h) (by decide)) fun _ => hgo)⟩
  rw [if_neg h51]
  by_cases h55 : m.device.command = 55
  · obtain ⟨hreads, hwrites⟩ := not_disk (d := m.device) (by rw [h55]; decide)
    rw [if_pos h55]
    exact simpleResponse_outcome _ rfl rfl rfl hreads hwrites (succeeds_card (by rw [h55]; decide))
  rw [if_neg h55]
  refine ⟨_, rfl, refused_outcome _ (not_succeeds ?_ h17 h24 (fun h => absurd h h6) (fun h => absurd h h41)
    fun h => absurd h h51)⟩
  rw [not_or] at h2
  simp only [List.mem_cons, List.not_mem_nil, not_or]
  exact ⟨h0, h2.1, h3, h7, h8, h9, h2.2, h12, h13, h16, h55, not_false⟩

/-- A store to the send register, in whatever state of the registers, carries the command out or records its error. -/
theorem send_outcome (nested : Nested LiteSdCardDevice) (m : Bus) (value : BitVec 32) (hsend : value &&& 1 ≠ 0)
    (hreader : m.device.ReadsDisk → m.device.reader.length = 0 → m.device.exactLength m.device.reader < 2 ^ 32)
    (hwriter : m.device.WritesDisk → m.device.writer.length = 0 → m.device.exactLength m.device.writer < 2 ^ 32)
    (hbuffer : m.OffRange m.device.reader.dmaBase m.device.sendLength) :
    ∃ m', store nested (.word (m.device.base + 0x808) value) m = some m' ∧ CommandOutcome m m' := by
  have hoffset : (m.device.base + 0x808 - m.device.base).toNat = 0x808 := by
    rw [BitVec.add_comm, BitVec.add_sub_cancel]
    rfl
  have hstore : store nested (.word (m.device.base + 0x808) value) m = handleCommandSend nested m := by
    rw [store, writeRegister32, hoffset]
    exact (if_pos rfl).trans (if_pos hsend)
  rw [hstore]
  exact handleCommandSend_outcome m hreader hwriter hbuffer

/-- A machine with a page of memory and a disk of one sector, about to send CMD17. -/
def readSector (length : BitVec 32) : Bus where
  memory := ⟨[{ base := 0x1000, size := 0x1000, kind := .ram, data := fun _ => 0 }], List.pairwise_singleton _ _⟩
  device := { reset 0x8000 (some { file := fun _ => 0x5A, fileSizeBytes := 512, isReadOnly := false, dirty := false
                                   host := fun _ => [.moved 511], overrun := false }) with
    reader := { DmaEngine.cleared with baseLo := 0x1100, length := length, enable := 1 }
    cmdCommand := 17 <<< 8 }

theorem send_outcome_readSector : ∃ m', store (fun _ _ => none) (.word (0x8000 + 0x808) 1) (readSector 0) = some m' ∧
    CommandOutcome (readSector 0) m' := by
  have hlength : (readSector 0).device.exactLength (readSector 0).device.reader < 2 ^ 32 := by decide +kernel
  have hwrites : ¬ ((readSector 0).device.command = 24 ∨ (readSector 0).device.command = 25) := by decide +kernel
  have hsize : (readSector 0).device.sendLength = 512 := by decide +kernel
  have hbase : (readSector 0).device.reader.dmaBase = 0x1100 := by decide +kernel
  have hbuffer : ∀ i < 512, (readSector 0).allows (0x1100 + BitVec.ofNat 64 i) 1 = false := by decide +kernel
  apply send_outcome (fun _ _ => none) (readSector 0) 1 (by decide) (fun _ _ => hlength) fun h => absurd h hwrites
  rw [hsize, hbase]
  exact hbuffer

/-- An engine whose length is set to two bytes moves these two of the block, and the command reports no error. -/
theorem engine_length_overrides_block : ∃ m', store (fun _ _ => none) (.word (0x8000 + 0x808) 1) (readSector 2) = some m' ∧
    ¬ Failed m' ∧ m'.memory.read8 0x1102 .read ≠ disk m'.device.image 2 := by
  have hresult : ((store (fun _ _ => none) (.word (0x8000 + 0x808) 1) (readSector 2)).map fun m' =>
      (m'.device.cmdEvent, m'.memory.read8 0x1102 .read, disk m'.device.image 2)) = some (eventDone, 0, 0x5A) := by
    decide +kernel
  obtain ⟨m', hstore, hpair⟩ := Option.map_eq_some_iff.mp hresult
  obtain ⟨hevent, hbytes⟩ := Prod.mk.inj hpair
  obtain ⟨hmemory, hdisk⟩ := Prod.mk.inj hbytes
  refine ⟨m', hstore, ?_, ?_⟩
  · rw [Failed, hevent]
    decide
  · rw [hmemory, hdisk]
    decide

end Little64.Emulator.LiteSdCardDevice

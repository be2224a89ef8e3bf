import Little64.Boot.Stage0Boots

/-! Cards that are updated in place: a new boot partition, and a new root file system if there is one, are written over
those of a card that is partitioned alike. -/

namespace Little64.Boot.CardUpdates

open CheckedAccess LittleEndian ByteFile PatchedImage
open Placement (Block)

structure PartitionEntry where
  partitionType : Byte
  startLba : ℕ
  sectorCount : ℕ
  deriving DecidableEq

def PartitionEntry.startOffset (e : PartitionEntry) : ℕ := e.startLba * SECTOR_SIZE

def PartitionEntry.sizeBytes (e : PartitionEntry) : ℕ := e.sectorCount * SECTOR_SIZE

def FAT32_PARTITION_TYPES : List Byte := [0x0B, 0x0C]

section Source

def parsePartitionEntry (mbr : Blob) (index : ℕ) : PartitionEntry :=
  let offset := 446 + (index - 1) * 16
  ⟨byte mbr (offset + 4), unpackU32 mbr (offset + 8), unpackU32 mbr (offset + 12)⟩

def readPartitionEntries (path : String) (file : Blob) : Build (PartitionEntry × PartitionEntry) := do
  let mbr := file.take SECTOR_SIZE
  if mbr.length ≠ SECTOR_SIZE then valueError s!"{path} is too small to contain an MBR"
  if part mbr 510 2 ≠ [0x55, 0xAA] then valueError s!"{path} does not contain a valid MBR signature"
  let bootPartition := parsePartitionEntry mbr 1
  let rootPartition := parsePartitionEntry mbr 2
  if bootPartition.sectorCount = 0 then valueError s!"{path} is missing partition 1"
  if rootPartition.sectorCount = 0 then valueError s!"{path} is missing partition 2"
  return (bootPartition, rootPartition)

def readExactRange (path : String) (file : Blob) (offset size : ℕ) : Build Blob := do
  let data := part file offset size
  if data.length ≠ size then
    valueError s!"{path} ended unexpectedly while reading {size} bytes at offset {offset}"
  return data

def validateTargetLayout (sourceBoot sourceRoot targetBoot targetRoot : PartitionEntry) (rootfs : Option Blob) :
    Build Unit := do
  let rootfsSize := rootfs.elim 0 List.length
  if sourceBoot.partitionType ∉ FAT32_PARTITION_TYPES then valueError "source image partition 1 is not FAT32"
  if targetBoot.partitionType ∉ FAT32_PARTITION_TYPES then valueError "target partition 1 is not FAT32"
  if sourceRoot.partitionType ≠ 0x83 then valueError "source image partition 2 is not Linux type 0x83"
  if targetRoot.partitionType ≠ 0x83 then valueError "target partition 2 is not Linux type 0x83"
  if targetBoot.startLba ≠ sourceBoot.startLba then
    valueError s!"target boot partition starts at LBA {targetBoot.startLba}, expected {sourceBoot.startLba}"
  if targetBoot.sectorCount < sourceBoot.sectorCount then
    valueError (s!"target boot partition is too small ({targetBoot.sectorCount} sectors, " ++
      s!"expected at least {sourceBoot.sectorCount})")
  if targetRoot.startLba ≠ sourceRoot.startLba then
    valueError s!"target root partition starts at LBA {targetRoot.startLba}, expected {sourceRoot.startLba}"
  if targetRoot.sizeBytes < rootfsSize then
    valueError s!"rootfs payload ({rootfsSize} bytes) does not fit in target partition 2 ({targetRoot.sizeBytes} bytes)"

/-- An unbuffered write, of which the host takes so many bytes at most. -/
def hostWrite (taken : ℕ) (file : Blob) (offset : ℕ) (bytes : Blob) : Blob :=
  if bytes.take taken = [] then file else overwrite file offset (bytes.take taken)

structure Summary where
  bootPartitionOffset : ℕ
  bootPartitionBytes : ℕ
  rootPartitionOffset : ℕ
  rootfsBytes : ℕ

/-- The summary, and what the target holds afterwards. -/
def updatePartitionedSdDevice (taken : ℕ → ℕ) (sourceImage targetDevice : String) (source target : Blob)
    (rootfs : Option Blob) (dryRun : Bool) : Build (Summary × Blob) := do
  let (sourceBoot, sourceRoot) ← readPartitionEntries sourceImage source
  let (targetBoot, targetRoot) ← readPartitionEntries targetDevice target
  validateTargetLayout sourceBoot sourceRoot targetBoot targetRoot rootfs
  let summary : Summary :=
    ⟨targetBoot.startOffset, sourceBoot.sizeBytes, targetRoot.startOffset, rootfs.elim 0 List.length⟩
  if dryRun = true then return (summary, target)
  let bootPartition ← readExactRange sourceImage source sourceBoot.startOffset sourceBoot.sizeBytes
  let updated := hostWrite (taken 0) target targetBoot.startOffset bootPartition
  return (summary, rootfs.elim updated fun bytes => hostWrite (taken 1) updated targetRoot.startOffset bytes)

end Source

section Reads

variable {path : String} {file : Blob} {boot root : PartitionEntry}

lemma readPartitionEntries_eq_ok : readPartitionEntries path file = .ok (boot, root) ↔
    512 ≤ file.length ∧ part (file.take 512) 510 2 = [0x55, 0xAA] ∧ parsePartitionEntry (file.take 512) 1 = boot ∧
      parsePartitionEntry (file.take 512) 2 = root ∧ boot.sectorCount ≠ 0 ∧ root.sectorCount ≠ 0 := by
  have hlength : ¬ (file.take SECTOR_SIZE).length ≠ SECTOR_SIZE ↔ 512 ≤ file.length := by
    rw [not_not, List.length_take, SECTOR_SIZE]
    omega
  rw [readPartitionEntries, check_eq_ok, hlength, check_eq_ok, not_not, check_eq_ok, check_eq_ok]
  apply and_congr_right
  intro _
  apply and_congr_right
  intro _
  constructor
  · rintro ⟨hboot, hroot, h⟩
    obtain ⟨rfl, rfl⟩ := Prod.mk.inj (Except.ok.inj h)
    exact ⟨rfl, rfl, hboot, hroot⟩
  · rintro ⟨rfl, rfl, hboot, hroot⟩
    exact ⟨hboot, hroot, rfl⟩

lemma readExactRange_eq_ok {offset size : ℕ} {data : Blob} :
    readExactRange path file offset size = .ok data ↔
      (part file offset size).length = size ∧ part file offset size = data := by
  rw [readExactRange, check_eq_ok, not_not]
  exact and_congr_right fun _ => ⟨Except.ok.inj, congrArg Except.ok⟩

lemma validateTargetLayout_eq_ok {targetBoot targetRoot : PartitionEntry} {rootfs : Option Blob} :
    validateTargetLayout boot root targetBoot targetRoot rootfs = .ok () ↔
      boot.partitionType ∈ FAT32_PARTITION_TYPES ∧ targetBoot.partitionType ∈ FAT32_PARTITION_TYPES ∧
      root.partitionType = 0x83 ∧ targetRoot.partitionType = 0x83 ∧ targetBoot.startLba = boot.startLba ∧
      boot.sectorCount ≤ targetBoot.sectorCount ∧ targetRoot.startLba = root.startLba ∧
      rootfs.elim 0 List.length ≤ targetRoot.sizeBytes := by
  have hlast : ∀ {P : Prop} [Decidable P] {message : String},
      (if P then valueError message else pure () : Build Unit) = .ok () ↔ ¬ P := fun {P} _ {message} => by
    split
    · exact iff_of_false nofun (not_not.mpr ‹P›)
    · exact iff_of_true rfl ‹¬ P›
  simp only [validateTargetLayout, check_eq_ok, hlast, not_not, not_lt]

end Reads

section Records

lemma byte_part (l : Blob) (o : ℕ) {k n : ℕ} (hk : k < n) : byte (part l o n) k = byte l (o + k) := by
  rw [byte, byte, List.getD_eq_getElem?_getD, List.getD_eq_getElem?_getD, getElem?_part, if_pos hk]

variable {card : CardLayout} {payloads : List FilePayload} {rootfs partition mbr image : Blob} {p : BootParts}
  (h : OnCard card payloads rootfs p partition mbr image)

include h

/-- The record names the boot partition and the root partition behind it. -/
lemma record_entries : part mbr 510 2 = [0x55, 0xAA] ∧
    parsePartitionEntry mbr 1 = ⟨0x0C, card.bootPartitionLba, card.bootPartitionSectorCount⟩ ∧
    parsePartitionEntry mbr 2 =
      ⟨0x83, card.bootPartitionLba + card.bootPartitionSectorCount, card.rootPartitionSectorCount⟩ := by
  obtain ⟨hlba, hcount, hrootLba, hrootCount, hrecord⟩ := masterBootRecord_eq_ok.1 h.record
  have hfit := fit_zeros (mbr_fit card)
  have hentry : ∀ {entry : Blob} {offset start count : ℕ} {partitionType : Byte}, start < 2 ^ 32 → count < 2 ^ 32 →
      entry = patched (zeros 16) (partitionBlocks (u32Bytes start) (u32Bytes count) partitionType) →
      part mbr offset 16 = entry →
      (⟨byte mbr (offset + 4), unpackU32 mbr (offset + 8), unpackU32 mbr (offset + 12)⟩ : PartitionEntry) =
        ⟨partitionType, start, count⟩ := by
    intro entry offset start count partitionType hstart hcount hentry hpart
    have hinner := fit_zeros (partition_fit start count partitionType)
    have htypeIn : (⟨4, [partitionType]⟩ : Block) ∈ partitionBlocks (u32Bytes start) (u32Bytes count) partitionType := by
      simp [partitionBlocks]
    have hstartIn : (⟨8, u32Bytes start⟩ : Block) ∈ partitionBlocks (u32Bytes start) (u32Bytes count) partitionType := by
      simp [partitionBlocks]
    have hcountIn : (⟨12, u32Bytes count⟩ : Block) ∈ partitionBlocks (u32Bytes start) (u32Bytes count) partitionType := by
      simp [partitionBlocks]
    have htype : byte (part mbr offset 16) 4 = partitionType := by
      rw [hpart, hentry]
      exact byte_patched hinner htypeIn
    have hfirst : field 32 (part mbr offset 16) 8 4 = BitVec.ofNat 32 start := by
      rw [hpart, hentry]
      exact field_patched_le hinner hstartIn rfl
    have hsize : field 32 (part mbr offset 16) 12 4 = BitVec.ofNat 32 count := by
      rw [hpart, hentry]
      exact field_patched_le hinner hcountIn rfl
    rw [byte_part _ _ (by decide)] at htype
    rw [field_part _ _ _ (by decide)] at hfirst hsize
    rw [htype, unpackU32, unpackU32, hfirst, hsize, BitVec.toNat_ofNat, BitVec.toNat_ofNat, Nat.mod_eq_of_lt hstart,
      Nat.mod_eq_of_lt hcount]
  rw [← hrecord] at hentry ⊢
  refine ⟨part_patched_all (b := ⟨510, [0x55, 0xAA]⟩) hfit (by simp [mbrBlocks]), ?_, ?_⟩
  · have hblock := part_patched_all (b := ⟨446, _⟩) hfit List.mem_cons_self
    rw [length_filled (partition_fit _ _ _)] at hblock
    exact hentry hlba hcount rfl hblock
  · have hblock := part_patched_all (b := ⟨462, _⟩) hfit (List.mem_cons_of_mem _ List.mem_cons_self)
    rw [length_filled (partition_fit _ _ _)] at hblock
    exact hentry hrootLba hrootCount rfl hblock

/-- Where the boot partition starts at the record, its boot sector names no partition. -/
lemma boot_entry : (parsePartitionEntry p.boot 1).sectorCount = 0 := by
  have hfit := boot_fit h.parts.label card.bootPartitionLba card.bootPartitionSectorCount p.fatSectors 2
  have hzero : part p.boot 458 4 = part (zeros 512) 458 4 := by
    rw [← (bootSector_eq_ok.1 h.parts.boot).2.2.2.2]
    apply part_patched_outside (fit_zeros hfit).inside
    simp [bootBlocks, Block.stop, ascii, h.parts.label]
  have hfield : field 32 p.boot 458 4 = 0 := (field_congr 32 hzero).trans (by decide +kernel)
  exact congrArg BitVec.toNat hfield

lemma readPartitionEntries_card {path : String} {boot root : PartitionEntry} :
    readPartitionEntries path image = .ok (boot, root) ↔
      card.bootPartitionLba ≠ 0 ∧ card.rootPartitionSectorCount ≠ 0 ∧
        boot = ⟨0x0C, card.bootPartitionLba, card.bootPartitionSectorCount⟩ ∧
        root = ⟨0x83, card.bootPartitionLba + card.bootPartitionSectorCount, card.rootPartitionSectorCount⟩ := by
  have hdata := dataSectors_le h
  have hlarge := h.parts.large
  have hlength : 512 ≤ image.length := by
    rw [length_image h, diskSectors, SECTOR_SIZE]
    omega
  rw [readPartitionEntries_eq_ok, and_iff_right hlength]
  by_cases hlba : card.bootPartitionLba = 0
  · have hsector := sector_eq h (x := 0) (by omega)
    rw [Nat.mul_zero, part_boot h.fitting h.parts h.filled, hlba] at hsector
    have htake : image.take 512 = p.boot := hsector
    rw [htake]
    refine iff_of_false ?_ fun hmatch => hmatch.1 hlba
    rintro ⟨-, rfl, -, hsome, -⟩
    exact hsome (boot_entry h)
  · have htake : image.take 512 = mbr := sector_mbr h hlba
    obtain ⟨hmark, hboot, hroot⟩ := record_entries h
    rw [htake, and_iff_right hmark, hboot, hroot]
    constructor
    · rintro ⟨rfl, rfl, -, hsome⟩
      exact ⟨hlba, hsome, rfl, rfl⟩
    · rintro ⟨-, hsome, rfl, rfl⟩
      refine ⟨rfl, rfl, ?_, hsome⟩
      change card.bootPartitionSectorCount ≠ 0
      omega

end Records

section Writes

variable {taken offset : ℕ} {file bytes : Blob}

lemma hostWrite_eq (h : offset ≤ file.length) :
    hostWrite taken file offset bytes = patch file offset (bytes.take taken) := by
  rw [hostWrite]
  split
  · next hnone =>
    rw [hnone, patch, List.append_nil, List.length_nil, Nat.add_zero, List.take_append_drop]
  · exact overwrite_eq_patch h

lemma hostWrite_all (h : offset ≤ file.length) (hall : bytes.length ≤ taken) :
    hostWrite taken file offset bytes = patch file offset bytes := by
  rw [hostWrite_eq h, List.take_of_length_le hall]

lemma length_hostWrite (h : offset + bytes.length ≤ file.length) :
    (hostWrite taken file offset bytes).length = file.length := by
  have hshort := List.length_take_le taken bytes
  have hle := List.length_take_le' taken bytes
  rw [hostWrite_eq (by omega)]
  exact length_patch (by omega)

/-- However many of the bytes the host takes, it writes nowhere else. -/
lemma getElem?_hostWrite {k : ℕ} (h : offset + bytes.length ≤ file.length) (hk : k < offset ∨ offset + bytes.length ≤ k) :
    (hostWrite taken file offset bytes)[k]? = file[k]? := by
  have hle := List.length_take_le' taken bytes
  rw [hostWrite_eq (by omega), getElem?_patch (by omega), if_neg (by omega)]

/-- The two writes, at the places of the partitions. -/
def written (taken : ℕ → ℕ) (boot root : ℕ) (target partition : Blob) (payload : Option Blob) : Blob :=
  let updated := hostWrite (taken 0) target boot partition
  payload.elim updated fun bytes => hostWrite (taken 1) updated root bytes

/-- What the root partition begins with when a payload has been written over the old root file system. -/
def rootAfter (rootfs : Blob) (payload : Option Blob) : Blob :=
  payload.elim rootfs fun bytes => bytes ++ rootfs.drop bytes.length

lemma length_rootAfter (rootfs : Blob) (payload : Option Blob) :
    (rootAfter rootfs payload).length = max (payload.elim 0 List.length) rootfs.length := by
  cases payload with
  | none => exact (Nat.zero_max _).symm
  | some bytes =>
    change (bytes ++ rootfs.drop bytes.length).length = max bytes.length rootfs.length
    rw [List.length_append, List.length_drop]
    omega

variable {takes : ℕ → ℕ} {boot root : ℕ} {target partition : Blob} {payload : Option Blob}
  (hboot : boot + partition.length ≤ target.length) (hroot : root + payload.elim 0 List.length ≤ target.length)

include hboot hroot

lemma length_written : (written takes boot root target partition payload).length = target.length := by
  have hfirst : (hostWrite (takes 0) target boot partition).length = target.length := length_hostWrite hboot
  cases payload with
  | none => exact hfirst
  | some bytes =>
    have hroot : root + bytes.length ≤ target.length := hroot
    rw [← hfirst] at hroot
    exact (length_hostWrite hroot).trans hfirst

lemma getElem?_written {k : ℕ} (hbeside : k < boot ∨ boot + partition.length ≤ k)
    (hbehind : k < root ∨ root + payload.elim 0 List.length ≤ k) :
    (written takes boot root target partition payload)[k]? = target[k]? := by
  have hfirst : (hostWrite (takes 0) target boot partition)[k]? = target[k]? := getElem?_hostWrite hboot hbeside
  cases payload with
  | none => exact hfirst
  | some bytes =>
    have hroot : root + bytes.length ≤ target.length := hroot
    have hlength : (hostWrite (takes 0) target boot partition).length = target.length := length_hostWrite hboot
    rw [← hlength] at hroot
    exact (getElem?_hostWrite hroot hbehind).trans hfirst

omit hboot hroot in
/-- Both blocks could as well have been written in the first place. -/
lemma written_eq {record partition' rootfs' : Blob} (htarget : patch (patch record boot partition') root rootfs' = target)
    (hlength : partition'.length = partition.length) (happart : boot + partition.length ≤ root)
    (hinside : root + rootfs'.length ≤ record.length) (hall : partition.length ≤ takes 0)
    (hallRoot : payload.elim 0 List.length ≤ takes 1) :
    written takes boot root target partition payload =
      patch (patch record boot partition) root (rootAfter rootfs' payload) := by
  have hold : (patch record boot partition').length = record.length := length_patch (by omega)
  have hnew : (patch record boot partition).length = record.length := length_patch (by omega)
  have htargetLength : target.length = record.length := by
    rw [← htarget, length_patch (by omega), hold]
  have hfirst : hostWrite (takes 0) target boot partition = patch (patch record boot partition) root rootfs' := by
    have hover : patch (patch record boot partition') boot partition = patch record boot partition := by
      rw [patch_patch (by omega), List.drop_of_length_le hlength.le, List.append_nil]
    rw [hostWrite_all (by omega) hall, ← htarget, ← patch_comm (by omega) (by omega), hover]
  cases payload with
  | none => exact hfirst
  | some bytes =>
    change hostWrite (takes 1) (hostWrite (takes 0) target boot partition) root bytes = _
    have hroom : (patch (patch record boot partition) root rootfs').length = record.length := by
      rw [length_patch (by omega), hnew]
    rw [hfirst, hostWrite_all (by omega) hallRoot, patch_patch (by omega)]
    rfl

end Writes

section Updates

variable {card card' : CardLayout} {payloads payloads' : List FilePayload} {p p' : BootParts} {taken : ℕ → ℕ}
  {sourceImage targetDevice : String} {rootfs rootfs' partition partition' mbr mbr' source target : Blob}
  {payload : Option Blob} {dryRun : Bool}

/-- The cards that the tool updates from an image: both have a root partition, at the same place. -/
structure Updatable (card card' : CardLayout) (payload : Option Blob) : Prop where
  record : card.bootPartitionLba ≠ 0
  lba : card'.bootPartitionLba = card.bootPartitionLba
  count : card'.bootPartitionSectorCount = card.bootPartitionSectorCount
  sourceRoot : card.rootPartitionSectorCount ≠ 0
  targetRoot : card'.rootPartitionSectorCount ≠ 0
  fits : payload.elim 0 List.length ≤ card'.rootPartitionSectorCount * 512

/-- Where the tool writes the boot partition and the root file system. -/
def bootOffset (card : CardLayout) : ℕ := card.bootPartitionLba * SECTOR_SIZE

def rootOffset (card : CardLayout) : ℕ := (card.bootPartitionLba + card.bootPartitionSectorCount) * SECTOR_SIZE

variable (h : OnCard card payloads rootfs p partition mbr source)
  (h' : OnCard card' payloads' rootfs' p' partition' mbr' target)

include h

lemma readExactRange_card : readExactRange sourceImage source (card.bootPartitionLba * 512)
    (card.bootPartitionSectorCount * 512) = .ok partition := by
  have hpart := part_image h (o := 0) (n := 512 * card.bootPartitionSectorCount) (by omega)
  have hlength := length_partition h.fitting h.parts h.filled
  rw [Nat.add_zero, ← hlength, part_all, hlength, Nat.mul_comm 512, Nat.mul_comm 512] at hpart
  rw [readExactRange_eq_ok, hpart, hlength, Nat.mul_comm]
  exact ⟨rfl, rfl⟩

lemma card_room : (card.bootPartitionLba + card.bootPartitionSectorCount) * 512 + card.rootPartitionSectorCount * 512 =
    source.length := by
  rw [length_image h, diskSectors, SECTOR_SIZE]
  omega

include h'

lemma update_of_updatable (hok : Updatable card card' payload) :
    updatePartitionedSdDevice taken sourceImage targetDevice source target payload dryRun = .ok
      (⟨bootOffset card, card.bootPartitionSectorCount * SECTOR_SIZE, rootOffset card, payload.elim 0 List.length⟩,
        if dryRun then target else written taken (bootOffset card) (rootOffset card) target partition payload) := by
  have hsource : readPartitionEntries sourceImage source = _ :=
    (readPartitionEntries_card h).2 ⟨hok.record, hok.sourceRoot, rfl, rfl⟩
  have htarget : readPartitionEntries targetDevice target = _ :=
    (readPartitionEntries_card h').2 ⟨hok.lba ▸ hok.record, hok.targetRoot, rfl, rfl⟩
  rw [hok.lba, hok.count] at htarget
  have hvalid : validateTargetLayout ⟨0x0C, card.bootPartitionLba, card.bootPartitionSectorCount⟩
      ⟨0x83, card.bootPartitionLba + card.bootPartitionSectorCount, card.rootPartitionSectorCount⟩
      ⟨0x0C, card.bootPartitionLba, card.bootPartitionSectorCount⟩
      ⟨0x83, card.bootPartitionLba + card.bootPartitionSectorCount, card'.rootPartitionSectorCount⟩ payload = .ok () :=
    validateTargetLayout_eq_ok.2 ⟨List.mem_cons_of_mem _ List.mem_cons_self, List.mem_cons_of_mem _ List.mem_cons_self,
      rfl, rfl, rfl, le_rfl, rfl, hok.fits⟩
  have hread : readExactRange sourceImage source _ _ = _ := readExactRange_card h
  rw [updatePartitionedSdDevice, hsource, htarget]
  change (validateTargetLayout _ _ _ _ payload >>= _) = _
  rw [hvalid]
  cases dryRun with
  | true => rfl
  | false =>
    change (readExactRange _ source (card.bootPartitionLba * 512) (card.bootPartitionSectorCount * 512) >>= _) = _
    rw [hread]
    rfl

lemma updatable_of_update {result : Summary × Blob}
    (hrun : updatePartitionedSdDevice taken sourceImage targetDevice source target payload dryRun = .ok result) :
    Updatable card card' payload := by
  obtain ⟨⟨sourceBoot, sourceRoot⟩, hsource, hrun⟩ := bind_eq_ok.1 hrun
  obtain ⟨⟨targetBoot, targetRoot⟩, htarget, hrun⟩ := bind_eq_ok.1 hrun
  obtain ⟨hrecord, hsourceRoot, rfl, rfl⟩ := (readPartitionEntries_card h).1 hsource
  obtain ⟨-, htargetRoot, rfl, rfl⟩ := (readPartitionEntries_card h').1 htarget
  obtain ⟨_, hvalid, -⟩ := bind_eq_ok.1 hrun
  obtain ⟨-, -, -, -, hlba, -, hroot, hfits⟩ := validateTargetLayout_eq_ok.1 hvalid
  simp only at hlba hroot
  exact ⟨hrecord, hlba, by omega, hsourceRoot, htargetRoot, hfits⟩

/-- The writes lie behind the boot record and inside the card. -/
lemma written_inside (hok : Updatable card card' payload) : bootOffset card + partition.length = rootOffset card ∧
    rootOffset card + payload.elim 0 List.length ≤ target.length := by
  have hlength := length_partition h.fitting h.parts h.filled
  have hroom := card_room h'
  have hfits := hok.fits
  rw [hok.lba, hok.count] at hroom
  rw [bootOffset, rootOffset, SECTOR_SIZE]
  omega

end Updates

section Rebuilds

variable {card card' : CardLayout} {payloads payloads' : List FilePayload} {p p' : BootParts} {takes : ℕ → ℕ}
  {rootfs rootfs' partition partition' mbr mbr' source target : Blob} {payload : Option Blob}

/-- The card of the image, with the root partition of the card that is updated. -/
def resized (card card' : CardLayout) : CardLayout :=
  { card with rootPartitionSectorCount := card'.rootPartitionSectorCount }

/-- The files of a card do not depend on the size of its root partition. -/
lemma fileSpecs_resized (next : ℕ) (payloads : List FilePayload) :
    fileSpecs (resized card card') next payloads = fileSpecs card next payloads := by
  induction payloads generalizing next with
  | nil => rfl
  | cons file payloads ih => exact congrArg (List.cons _) (ih _)

variable (h : OnCard card payloads rootfs p partition mbr source)
  (h' : OnCard card' payloads' rootfs' p' partition' mbr' target)

include h h'

/-- The writes are the last two steps of building a card anew. -/
lemma onCard_written (hok : Updatable card card' payload) (hall : 512 * card.bootPartitionSectorCount ≤ takes 0)
    (hallRoot : payload.elim 0 List.length ≤ takes 1) :
    OnCard (resized card card') payloads (rootAfter rootfs' payload) p partition mbr'
      (written takes (bootOffset card) (rootOffset card) target partition payload) := by
  have hlength := length_partition h.fitting h.parts h.filled
  have hlength' := length_partition h'.fitting h'.parts h'.filled
  have hdisk : diskSectors (resized card card') = diskSectors card' := by
    rw [diskSectors, diskSectors, hok.lba, hok.count]
    rfl
  obtain ⟨hboot, hroot⟩ := written_inside h h' hok
  have hrecord : (patch (zeros (diskSectors card' * SECTOR_SIZE)) 0 mbr').length = target.length :=
    (length_patch (imageBlocks_inside h' ⟨0, mbr'⟩ List.mem_cons_self)).trans
      ((length_zeros _).trans (length_image h').symm)
  have htarget : patch (patch (patch (zeros (diskSectors card' * SECTOR_SIZE)) 0 mbr') (bootOffset card) partition')
      (rootOffset card) rootfs' = target := by
    rw [← h'.written, imageBlocks, hok.lba, hok.count]
    rfl
  have hroom := (ceilDiv_le_iff (by decide)).1 h'.fits
  have hfits := hok.fits
  refine ⟨h.fitting, ?_, ?_, ?_, ?_, ?_⟩
  · rw [fileSpecs_resized]
    exact ⟨h.parts.cluster, h.parts.label, h.parts.table, h.parts.large, h.parts.used, h.parts.fat, h.parts.boot,
      h.parts.fsinfo, h.parts.rootDir⟩
  · rw [fileSpecs_resized]
    exact h.filled
  · obtain ⟨hlba, hcount, hrootLba, hrootCount, hmbr⟩ := masterBootRecord_eq_ok.1 h'.record
    rw [hok.lba, hok.count] at hmbr hrootLba
    rw [hok.lba] at hlba
    rw [hok.count] at hcount
    exact masterBootRecord_eq_ok.2 ⟨hlba, hcount, hrootLba, hrootCount, hmbr⟩
  · apply (ceilDiv_le_iff (by decide)).2
    change (rootAfter rootfs' payload).length ≤ 512 * card'.rootPartitionSectorCount
    rw [length_rootAfter]
    exact max_le (hfits.trans_eq (Nat.mul_comm _ _)) hroom
  · rw [hdisk]
    refine (written_eq htarget ?_ hboot.le ?_ (hlength.trans_le hall) hallRoot).symm
    · rw [hlength', hlength, hok.count]
    · have hend := card_room h'
      rw [hok.lba, hok.count] at hend
      rw [hrecord, ← hend, Nat.mul_comm card'.rootPartitionSectorCount]
      exact Nat.add_le_add_left hroom _

end Rebuilds

section Cards

variable {card card' : CardLayout} {kernelElf dtb rootfs kernelElf' dtb' rootfs' source target : Blob}

/-- What an update makes of a card: the one that would have been built anew, if it is no dry run and the host takes the
writes whole. What is outside of them stays as it was in any case. -/
structure Updates (card card' : CardLayout) (kernelElf dtb rootfs' target : Blob) (taken : ℕ → ℕ) (payload : Option Blob)
    (dryRun : Bool) (updated : Blob) : Prop where
  dry : dryRun = true → updated = target
  whole : dryRun = false → 512 * card.bootPartitionSectorCount ≤ taken 0 → payload.elim 0 List.length ≤ taken 1 →
    sdCardImage (resized card card') kernelElf dtb (rootAfter rootfs' payload) = .ok updated
  length : updated.length = target.length
  beside : ∀ k, k < bootOffset card ∨ rootOffset card + payload.elim 0 List.length ≤ k → updated[k]? = target[k]?

/-- A card that was built is updated from another one exactly when their partitions start alike. -/
theorem update_card (hsource : sdCardImage card kernelElf dtb rootfs = .ok source)
    (htarget : sdCardImage card' kernelElf' dtb' rootfs' = .ok target) (taken : ℕ → ℕ) (sourceImage targetDevice : String)
    (payload : Option Blob) (dryRun : Bool) :
    ((∃ result, updatePartitionedSdDevice taken sourceImage targetDevice source target payload dryRun = .ok result) ↔
      Updatable card card' payload) ∧
    ∀ summary updated,
      updatePartitionedSdDevice taken sourceImage targetDevice source target payload dryRun = .ok (summary, updated) →
        Updates card card' kernelElf dtb rootfs' target taken payload dryRun updated := by
  obtain ⟨payloads, p, partition, mbr, hpayloads, h⟩ := sdCardImage_eq_ok.1 hsource
  obtain ⟨payloads', p', partition', mbr', -, h'⟩ := sdCardImage_eq_ok.1 htarget
  refine ⟨⟨fun ⟨result, hrun⟩ => updatable_of_update h h' hrun, fun hok => ⟨_, update_of_updatable h h' hok⟩⟩, ?_⟩
  intro summary updated hrun
  have hok := updatable_of_update h h' hrun
  obtain ⟨hboot, hroot⟩ := written_inside h h' hok
  have hbootInside := hboot.trans_le (Nat.le_of_add_right_le hroot)
  rw [update_of_updatable h h' hok] at hrun
  obtain ⟨-, rfl⟩ := Prod.mk.inj (Except.ok.inj hrun)
  cases dryRun with
  | true => exact ⟨fun _ => rfl, nofun, rfl, fun _ _ => rfl⟩
  | false =>
    refine ⟨nofun, fun _ hall hallRoot => ?_, length_written hbootInside hroot, fun k hk => ?_⟩
    · exact sdCardImage_eq_ok.2 ⟨payloads, p, partition, mbr', hpayloads, onCard_written h h' hok hall hallRoot⟩
    · exact getElem?_written hbootInside hroot (hk.imp_right fun hk => by omega) (hk.imp_left fun hk => by omega)

/-- A card with an old kernel gets a new one, and a root file system of three bytes. -/
theorem update_card_sample : ∃ source target summary updated,
    sdCardImage sampleCard flashKernel [0xD0] [] = .ok source ∧
    sdCardImage sampleCard sampleKernel [] [] = .ok target ∧
    updatePartitionedSdDevice (fun _ => 2 ^ 30) "new.img" "old.img" source target (some [1, 2, 3]) false =
      .ok (summary, updated) ∧
    sdCardImage sampleCard flashKernel [0xD0] [1, 2, 3] = .ok updated := by
  obtain ⟨source, hsource⟩ := Stage0Kernel.exists_bootCard
  obtain ⟨target, htarget⟩ := exists_sampleCard
  obtain ⟨hiff, hupdates⟩ := update_card hsource htarget (fun _ => 2 ^ 30) "new.img" "old.img" (some [1, 2, 3]) false
  obtain ⟨⟨summary, updated⟩, hrun⟩ := hiff.2 ⟨by decide, rfl, rfl, by decide, by decide, by simp [sampleCard]⟩
  exact ⟨source, target, summary, updated, hsource, htarget, hrun,
    (hupdates summary updated hrun).whole rfl (by decide) (by decide)⟩

end Cards

end Little64.Boot.CardUpdates

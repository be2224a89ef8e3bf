import Little64.Boot.KernelImage

/-! The FAT32 boot partition and the card image that the boot image builder writes for the stage-0 loader. -/

namespace Little64.Boot

open CheckedAccess LittleEndian ByteFile PatchedImage
open Placement (Block)

def SECTOR_SIZE : ℕ := 512

def zeros (n : ℕ) : Blob := List.replicate n 0

@[simp] lemma length_zeros (n : ℕ) : (zeros n).length = n := List.length_replicate

def ceilDiv (value divisor : ℕ) : ℕ := (value + divisor - 1) / divisor

/-- The parts of a short name, in capitals and not too long, padded with blanks. -/
def fat32ShortName (stem extension : String) : Blob :=
  ascii stem ++ List.replicate (8 - stem.length) 0x20 ++ ascii extension ++ List.replicate (3 - extension.length) 0x20

inductive BootFormat
  | stage0
  | litexBios
  deriving DecidableEq

/-- What a card is built for: where its partitions start and how long they are, the label of the first one, and the
memory of the machine that it boots. -/
structure CardLayout where
  bootPartitionLba : ℕ
  bootPartitionSectorCount : ℕ
  rootPartitionSectorCount : ℕ
  sectorsPerCluster : ℕ
  volumeLabel : Blob
  bootFormat : BootFormat
  ramBase : ℕ
  ramSize : ℕ
  kernelPhysicalBase : ℕ

structure FileLayout where
  shortName : Blob
  firstCluster : ℕ
  size : ℕ

structure FilePayload where
  shortName : Blob
  payload : Blob
  longName : Option String

structure FileSpec where
  layout : FileLayout
  payload : Blob
  longName : Option String
  clusters : ℕ

section LongNames

def lfnChecksum (shortName : Blob) : ℕ :=
  shortName.foldl (fun checksum value => (((checksum &&& 1) <<< 7) + (checksum >>> 1) + value.toNat) &&& 0xFF) 0

/-- The units of a name with its end mark, filled up to whole entries. -/
def lfnUnits (longName : String) : List ℕ :=
  let units := longName.toList.map Char.toNat ++ [0]
  units ++ List.replicate ((13 - units.length % 13) % 13) 0xFFFF

def lfnEntry (shortName : Blob) (sequence : ℕ) (chunk : List ℕ) : Blob :=
  let units := fun (start count : ℕ) =>
    ((chunk.drop start).take count).flatMap fun unit => le 2 (BitVec.ofNat 16 unit)
  patched (zeros 32)
    [⟨0, [BitVec.ofNat 8 sequence]⟩, ⟨11, [0x0F]⟩, ⟨12, [0]⟩, ⟨13, [BitVec.ofNat 8 (lfnChecksum shortName)]⟩,
      ⟨1, units 0 5⟩, ⟨14, units 5 6⟩, ⟨28, units 11 2⟩]

/-- The last part of a name comes first, with a mark in its number. -/
def buildFat32LfnEntries (longName : String) (shortName : Blob) : Build (List Blob) := do
  if longName = "" then valueError "long_name must not be empty"
  if ∃ unit ∈ longName.toList.map Char.toNat, 0xFFFF < unit then
    valueError "FAT32 LFN builder only supports BMP characters"
  let units := lfnUnits longName
  let count := units.length / 13
  return (List.range count).map fun reverseIndex =>
    let sequence := if reverseIndex = 0 then (count - reverseIndex) ||| 0x40 else count - reverseIndex
    lfnEntry shortName sequence ((units.drop (13 * (count - 1 - reverseIndex))).take 13)

end LongNames

section Payloads

/-- The files of a card for the stage-0 loader. -/
def stage0Payloads (kernelElf dtb : Blob) : Build (List FilePayload) := do
  let checksums ← buildSdBootChecksums kernelElf dtb
  let checksumsBytes ← serializeSdBootChecksums checksums
  return [⟨fat32ShortName "VMLINUX" "", kernelElf, none⟩, ⟨fat32ShortName "BOOT" "DTB", dtb, none⟩,
    ⟨fat32ShortName "BOOT" "CRC", checksumsBytes, none⟩]

def hex (value : ℕ) : String := "0x" ++ String.ofList (Nat.toDigits 16 value)

def buildLitexBiosBootJson (kernelName dtbName : String)
    (kernelPhysicalBase dtbPhysicalAddress kernelEntryPhysical kernelBootStackTop : ℕ) : Blob :=
  let line := fun (key : String) (value : ℕ) => "  \"" ++ key ++ "\": \"" ++ hex value ++ "\""
  ascii ("\x7b\n" ++ line kernelName kernelPhysicalBase ++ ",\n" ++ line dtbName dtbPhysicalAddress ++ ",\n" ++
    line "r1" dtbPhysicalAddress ++ ",\n" ++ line "r2" kernelBootStackTop ++ ",\n" ++
    line "addr" kernelEntryPhysical ++ "\n\x7d\n")

/-- The files of a card for the loader in the BIOS: the kernel is flattened, and placed in RAM with its tree. -/
def litexBiosPayloads (card : CardLayout) (kernelElf dtb : Blob) : Build (List FilePayload) := do
  let base ← inferLittle64LinuxKernelPhysicalBase kernelElf card.ramBase card.ramSize card.kernelPhysicalBase
  let kernelImage ← flattenLittle64LinuxElfImage kernelElf base.1
  let ramEnd := card.ramBase + card.ramSize
  let bootStackTop := ramEnd - 8
  let dtbPhysicalAddress := base.1 + alignUp (kernelImage.imageSpan + EARLY_PT_SCRATCH_PAGES * PAGE_SIZE) PAGE_SIZE
  let kernelEnd := base.1 + kernelImage.imageSpan
  let dtbEnd := dtbPhysicalAddress + dtb.length
  if base.1 < card.ramBase ∨ ramEnd < kernelEnd ∨ ramEnd < dtbEnd then
    valueError "kernel image or DTB does not fit inside the configured RAM window"
  if bootStackTop ≤ dtbEnd then valueError "kernel boot stack overlaps the BIOS DTB placement window"
  let json := buildLitexBiosBootJson "boot.bin" "boot.dtb" base.1 dtbPhysicalAddress kernelImage.entryPhysical bootStackTop
  return [⟨fat32ShortName "BOOT" "BIN", kernelImage.image, some "boot.bin"⟩,
    ⟨fat32ShortName "BOOT" "DTB", dtb, some "boot.dtb"⟩, ⟨fat32ShortName "BOOTJSN" "JSN", json, some "boot.json"⟩]

def filePayloads (card : CardLayout) (kernelElf dtb : Blob) : Build (List FilePayload) :=
  match card.bootFormat with
  | .stage0 => stage0Payloads kernelElf dtb
  | .litexBios => litexBiosPayloads card kernelElf dtb

end Payloads

section Fat

/-- The rounds of the loop: the more sectors the table has, the fewer it needs. -/
def fatSizeLoop (totalSectors reservedSectors numFats sectorsPerCluster : ℕ) : ℕ → ℕ → Option (ℕ × ℤ)
  | 0, _ => none
  | rounds + 1, fatSectors =>
    let dataSectors : ℤ := totalSectors - reservedSectors - numFats * fatSectors
    let clusterCount := dataSectors / sectorsPerCluster
    let required := ((clusterCount + 2) * 4 + SECTOR_SIZE - 1) / SECTOR_SIZE
    if required ≤ fatSectors then some (fatSectors, clusterCount)
    else fatSizeLoop totalSectors reservedSectors numFats sectorsPerCluster rounds required.toNat

/-- The second round ends the loop. -/
def fatSizeSectors (totalSectors reservedSectors numFats sectorsPerCluster : ℕ) : Option (ℕ × ℤ) :=
  fatSizeLoop totalSectors reservedSectors numFats sectorsPerCluster 2 1

/-- The entries of one file: each cluster names the next one, the last one ends the chain. -/
def chainFile (fatEntries : ℕ → ℕ) (file : FileSpec) : ℕ → ℕ :=
  (List.range file.clusters).foldl (fun entries index =>
    Function.update entries (file.layout.firstCluster + index)
      (if index = file.clusters - 1 then 0x0FFFFFFF else file.layout.firstCluster + index + 1)) fatEntries

def fatEntries (rootDirCluster : ℕ) (files : List FileSpec) : ℕ → ℕ :=
  files.foldl chainFile
    (Function.update (Function.update (Function.update (fun _ => 0) 0 0x0FFFFFF8) 1 0xFFFFFFFF) rootDirCluster
      0x0FFFFFFF)

def fatBytes (fatSectors clusterCount : ℕ) (entries : ℕ → ℕ) : Build Blob :=
  if ∃ index < clusterCount + 2, 2 ^ 32 ≤ entries index then reject .structError
  else .ok (patched (zeros (fatSectors * SECTOR_SIZE))
    ((List.range (clusterCount + 2)).map fun index => ⟨0 + 4 * index, u32Bytes (entries index)⟩))

end Fat

section Partition

variable (card : CardLayout)

def clusterSize : ℕ := card.sectorsPerCluster * SECTOR_SIZE

/-- One file behind the other, from a cluster on. -/
def fileSpecs : ℕ → List FilePayload → List FileSpec
  | _, [] => []
  | nextCluster, file :: rest =>
    let clusters := max 1 (ceilDiv file.payload.length (clusterSize card))
    ⟨⟨file.shortName, nextCluster, file.payload.length⟩, file.payload, file.longName, clusters⟩ ::
      fileSpecs (nextCluster + clusters) rest

def bootBlocks (lba count fat : Blob) (rootDirCluster : ℕ) : List Block :=
  [⟨0, [0xEB, 0x58, 0x90]⟩, ⟨3, ascii "L64FAT32"⟩, ⟨11, le 2 (512 : BitVec 16)⟩,
    ⟨13, [BitVec.ofNat 8 card.sectorsPerCluster]⟩, ⟨14, le 2 (32 : BitVec 16)⟩, ⟨16, [2]⟩, ⟨17, [0, 0]⟩, ⟨19, [0, 0]⟩,
    ⟨21, [0xF8]⟩, ⟨22, [0, 0]⟩, ⟨24, [63, 0]⟩, ⟨26, [255, 0]⟩, ⟨28, lba⟩, ⟨32, count⟩, ⟨36, fat⟩, ⟨40, [0, 0]⟩,
    ⟨42, [0, 0]⟩, ⟨44, u32Bytes rootDirCluster⟩, ⟨48, [1, 0]⟩, ⟨50, [6, 0]⟩, ⟨64, [0x80]⟩, ⟨66, [0x29]⟩,
    ⟨67, le 4 (0x4C363444 : BitVec 32)⟩, ⟨71, card.volumeLabel⟩, ⟨82, ascii "FAT32   "⟩, ⟨510, [0x55, 0xAA]⟩]

def bootSector (fatSectors rootDirCluster : ℕ) : Build Blob := do
  if 256 ≤ card.sectorsPerCluster then reject .structError
  let lba ← packU32 card.bootPartitionLba
  let count ← packU32 card.bootPartitionSectorCount
  let fat ← packU32 fatSectors
  return patched (zeros SECTOR_SIZE) (bootBlocks card lba count fat rootDirCluster)

def fsinfoBlocks (free next : Blob) : List Block :=
  [⟨0, ascii "RRaA"⟩, ⟨484, ascii "rrAa"⟩, ⟨488, free⟩, ⟨492, next⟩, ⟨510, [0x55, 0xAA]⟩]

def fsinfoSector (freeClusters nextCluster : ℕ) : Build Blob := do
  let free ← packU32 freeClusters
  let next ← packU32 nextCluster
  return patched (zeros SECTOR_SIZE) (fsinfoBlocks free next)

def dirEntryBlocks (file : FileLayout) (size : Blob) : List Block :=
  [⟨0, file.shortName⟩, ⟨11, [0x20]⟩, ⟨20, le 2 (BitVec.ofNat 16 (file.firstCluster / 2 ^ 16))⟩,
    ⟨26, le 2 (BitVec.ofNat 16 file.firstCluster)⟩, ⟨28, size⟩]

def fileDirEntry (file : FileLayout) : Build Blob := do
  let size ← packU32 file.size
  return patched (zeros 32) (dirEntryBlocks file size)

/-- One entry behind the other, and a zero byte behind the last one. -/
def rootBlocks (entries : List Blob) : List Block :=
  (entries.zipIdx.map fun entry => ⟨32 * entry.2, entry.1⟩) ++ [⟨32 * entries.length, [0]⟩]

/-- The entry of a file, behind those of its long name. -/
def dirEntries (file : FileSpec) : Build (List Blob) :=
  match file.longName with
  | none => do
    let entry ← fileDirEntry file.layout
    return [entry]
  | some longName => do
    let long ← buildFat32LfnEntries longName file.layout.shortName
    let entry ← fileDirEntry file.layout
    return long ++ [entry]

def rootDirectory (files : List FileSpec) : Build Blob := do
  let entries ← files.mapM dirEntries
  return patched (zeros (clusterSize card)) (rootBlocks entries.flatten)

/-- The blocks of a file, cluster by cluster along its chain. Every round writes at least a byte, so the
length of the payload bounds them. -/
def writeFile (entries : ℕ → ℕ) (firstDataSector : ℕ) : ℕ → ℕ → Blob → Build (List Block)
  | 0, _, _ => return []
  | rounds + 1, cluster, rest => do
    if rest = [] then return []
    let sector := firstDataSector + (cluster - 2) * card.sectorsPerCluster
    let block : Block := ⟨sector * SECTOR_SIZE, rest.take (clusterSize card)⟩
    let rest := rest.drop (clusterSize card)
    if rest = [] then return [block]
    let cluster := entries cluster
    if 0x0FFFFFF8 ≤ cluster then valueError "unexpected end of FAT cluster chain while writing file"
    let blocks ← writeFile entries firstDataSector rounds cluster rest
    return block :: blocks

def buildFat32BootPartition (kernelElf dtb : Blob) : Build Blob := do
  if card.sectorsPerCluster < 1 then valueError "sectors_per_cluster must be positive"
  if card.volumeLabel.length ≠ 11 then valueError "volume_label must be exactly 11 bytes"
  let reservedSectors := 32
  let numFats := 2
  match fatSizeSectors card.bootPartitionSectorCount reservedSectors numFats card.sectorsPerCluster with
  | none => reject .structError
  | some (fatSectors, count) =>
    if count < 65525 then valueError "boot partition is too small for a FAT32 volume"
    let clusterCount := count.toNat
    let rootDirCluster := 2
    let payloads ← filePayloads card kernelElf dtb
    let files := fileSpecs card (rootDirCluster + 1) payloads
    let usedClusterCount := 1 + (files.map FileSpec.clusters).sum
    if clusterCount < usedClusterCount + 2 then valueError "boot files do not fit in the FAT32 boot partition"
    let firstDataSector := reservedSectors + numFats * fatSectors
    let entries := fatEntries rootDirCluster files
    let fat ← fatBytes fatSectors clusterCount entries
    let boot ← bootSector card fatSectors rootDirCluster
    let fsinfo ← fsinfoSector (clusterCount - usedClusterCount) (rootDirCluster + usedClusterCount)
    let rootDir ← rootDirectory card files
    let blocks ← files.mapM fun file =>
      writeFile card entries firstDataSector file.payload.length file.layout.firstCluster file.payload
    return patched (zeros (card.bootPartitionSectorCount * SECTOR_SIZE))
      ([⟨0, boot⟩, ⟨SECTOR_SIZE, fsinfo⟩, ⟨6 * SECTOR_SIZE, boot⟩, ⟨7 * SECTOR_SIZE, fsinfo⟩,
        ⟨reservedSectors * SECTOR_SIZE, fat⟩, ⟨(reservedSectors + fatSectors) * SECTOR_SIZE, fat⟩,
        ⟨firstDataSector * SECTOR_SIZE, rootDir⟩] ++ blocks.flatten)

end Partition

section Card

variable (card : CardLayout)

def partitionBlocks (start count : Blob) (partitionType : Byte) : List Block :=
  [⟨0, [0]⟩, ⟨1, [0xFF, 0xFF, 0xFF]⟩, ⟨4, [partitionType]⟩, ⟨5, [0xFF, 0xFF, 0xFF]⟩, ⟨8, start⟩, ⟨12, count⟩]

def partitionEntry (startLba sectorCount : ℕ) (partitionType : Byte) : Build Blob := do
  let start ← packU32 startLba
  let count ← packU32 sectorCount
  return patched (zeros 16) (partitionBlocks start count partitionType)

def mbrBlocks (boot root : Blob) : List Block := [⟨446, boot⟩, ⟨462, root⟩, ⟨510, [0x55, 0xAA]⟩]

def masterBootRecord : Build Blob := do
  let boot ← partitionEntry card.bootPartitionLba card.bootPartitionSectorCount 0x0C
  let root ← partitionEntry (card.bootPartitionLba + card.bootPartitionSectorCount) card.rootPartitionSectorCount 0x83
  return patched (zeros SECTOR_SIZE) (mbrBlocks boot root)

/-- The card with its boot record, its boot partition and what is written into the root partition. -/
def composeSdCardImage (bootPartition rootfsPayload : Blob) : Build Blob := do
  let rootPartitionLba := card.bootPartitionLba + card.bootPartitionSectorCount
  let diskSize := (rootPartitionLba + card.rootPartitionSectorCount) * SECTOR_SIZE
  let mbr ← masterBootRecord card
  return patched (zeros diskSize)
    [⟨0, mbr⟩, ⟨card.bootPartitionLba * SECTOR_SIZE, bootPartition⟩, ⟨rootPartitionLba * SECTOR_SIZE, rootfsPayload⟩]

/-- The steps that both ways of building a card share, with the sizes of the partitions that were asked for. -/
def sdCardImage (kernelElf dtb rootfsPayload : Blob) : Build Blob := do
  if card.rootPartitionSectorCount < ceilDiv rootfsPayload.length SECTOR_SIZE then
    valueError "rootfs payload does not fit in the configured root partition"
  let bootPartition ← buildFat32BootPartition card kernelElf dtb
  composeSdCardImage card bootPartition rootfsPayload

def sectorsOfMb (sizeMb : ℕ) : ℕ := sizeMb * 1024 * 1024 / SECTOR_SIZE

def rootPartitionSectorsForDisk (totalDiskSizeBytes bootPartitionSectorCount : ℕ) : Build ℕ := do
  if totalDiskSizeBytes % SECTOR_SIZE ≠ 0 then valueError "total_disk_size_bytes must be sector-aligned"
  let rootPartitionLba := card.bootPartitionLba + bootPartitionSectorCount
  if totalDiskSizeBytes / SECTOR_SIZE ≤ rootPartitionLba then
    valueError "disk image is too small for the requested partition layout"
  return totalDiskSizeBytes / SECTOR_SIZE - rootPartitionLba

def buildLitexSdCardImage (bootPartitionSizeMb rootPartitionSizeMb : ℕ) (kernelElf dtb rootfsPayload : Blob) : Build Blob :=
  sdCardImage { card with
    bootPartitionSectorCount := max (sectorsOfMb bootPartitionSizeMb) 65536
    rootPartitionSectorCount := max (ceilDiv rootfsPayload.length SECTOR_SIZE) (sectorsOfMb rootPartitionSizeMb) }
    kernelElf dtb rootfsPayload

/-- The bytes of the file: what it is not told to hold is zero. -/
def writeLitexSdCardImage (totalDiskSizeBytes bootPartitionSizeMb : ℕ) (kernelElf dtb rootfsPayload : Blob) :
    Build Blob := do
  let bootPartitionSectorCount := max (sectorsOfMb bootPartitionSizeMb) 65536
  let rootPartitionSectorCount ← rootPartitionSectorsForDisk card totalDiskSizeBytes bootPartitionSectorCount
  sdCardImage { card with
    bootPartitionSectorCount := bootPartitionSectorCount
    rootPartitionSectorCount := rootPartitionSectorCount } kernelElf dtb rootfsPayload

end Card

end Little64.Boot

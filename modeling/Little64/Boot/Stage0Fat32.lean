import Little64.Library.PatchedImage

/-! How the stage-0 loader reads files from a FAT32 volume, sector by sector. -/

namespace Little64.Boot

open LittleEndian CheckedAccess ByteFile PatchedImage

abbrev U32 := BitVec 32

/-- The message of a `fail_hard`, or a loop that did not end in its rounds. -/
inductive BootFailure
  | failHard (message : String)
  | unfinished
  deriving DecidableEq, Repr

abbrev Stage0 (α : Type) := Except BootFailure α

def failHard {α : Type} (message : String) : Stage0 α := .error (.failHard message)

/-- The sectors that the card answers with. -/
abbrev Disk := U32 → Blob

def imageDisk (image : Blob) : Disk := fun lba => part image (512 * lba.toNat) 512

def SD_BLOCK_SIZE : U32 := 512
def STAGE0_TRANSFER_BUFFER_SIZE : U32 := 4096
def FAT32_EOC_MIN : U32 := 0x0FFFFFF8
def FAT32_ATTR_LONG_NAME : Byte := 0x0F
def FAT32_ATTR_DIRECTORY : Byte := 0x10
def FAT32_ATTR_VOLUME : Byte := 0x08
def FAT32_INVALID_CACHE_LBA : U32 := 0xFFFFFFFF

def readLe16 (buffer : Blob) (offset : ℕ) : U32 := (field 16 buffer offset 2).setWidth 32
def readLe32 (buffer : Blob) (offset : ℕ) : U32 := field 32 buffer offset 4
def byte (buffer : Blob) (offset : ℕ) : Byte := buffer.getD offset 0

structure Fat32Volume where
  partitionLba : U32
  sectorsPerCluster : U32
  firstFatLba : U32
  fatSectorCount : U32
  firstDataLba : U32
  rootCluster : U32
  deriving DecidableEq, Repr

structure Stage0FileInfo where
  firstCluster : U32
  size : U32
  deriving DecidableEq, Repr

/-- The table sector read last. -/
structure FatCache (disk : Disk) where
  lba : U32
  sector : Blob
  coherent : lba ≠ FAT32_INVALID_CACHE_LBA → sector = disk lba

def KERNEL_NAME : Blob := ascii "VMLINUX    "
def DTB_NAME : Blob := ascii "BOOT    DTB"

section Volume

variable (disk : Disk)

def FatCache.invalid : FatCache disk := ⟨FAT32_INVALID_CACHE_LBA, List.replicate 512 0, fun h => absurd rfl h⟩

def loadFat32Volume : Stage0 Fat32Volume := do
  let mbr := disk 0
  if byte mbr 510 ≠ 0x55 ∨ byte mbr 511 ≠ 0xAA then failHard "sdcard MBR signature missing"
  let partitionType := byte mbr (446 + 4)
  let partitionLba := readLe32 mbr (446 + 8)
  if partitionLba = 0 then failHard "sdcard boot partition missing"
  if partitionType ≠ 0x0B ∧ partitionType ≠ 0x0C then failHard "sdcard boot partition type unsupported"
  let boot := disk partitionLba
  if byte boot 510 ≠ 0x55 ∨ byte boot 511 ≠ 0xAA then failHard "FAT32 boot sector signature missing"
  let bytesPerSector := readLe16 boot 11
  let sectorsPerCluster := (byte boot 13).setWidth 32
  let reservedSectors := readLe16 boot 14
  let fatCount := byte boot 16
  let fatSize := readLe32 boot 36
  let rootCluster := readLe32 boot 44
  if bytesPerSector ≠ SD_BLOCK_SIZE then failHard "FAT32 bytes-per-sector unsupported"
  if sectorsPerCluster = 0 ∨ fatCount = 0 ∨ fatSize = 0 ∨ rootCluster < 2 then failHard "FAT32 parameters invalid"
  if fatCount ≠ 2 then failHard "FAT32 FAT count unsupported"
  if sectorsPerCluster ≠ 1 then failHard "FAT32 sectors-per-cluster unsupported"
  let firstFatLba := partitionLba + reservedSectors
  return ⟨partitionLba, sectorsPerCluster, firstFatLba, fatSize, firstFatLba + fatSize + fatSize, rootCluster⟩

variable {disk} (volume : Fat32Volume)

def clusterToLba (cluster : U32) : U32 := volume.firstDataLba + (cluster - 2)

def fatSectorOf (cluster : U32) : U32 := volume.firstFatLba + (cluster * 4) >>> 9

def FatCache.fetch (cache : FatCache disk) (fatSector : U32) : FatCache disk :=
  if cache.lba ≠ fatSector then ⟨fatSector, disk fatSector, fun _ => rfl⟩ else cache

def fat32NextCluster (cache : FatCache disk) (cluster : U32) : U32 × FatCache disk :=
  let cache := cache.fetch (fatSectorOf volume cluster)
  (readLe32 cache.sector (cluster * 4 &&& (SD_BLOCK_SIZE - 1)).toNat &&& 0x0FFFFFFF, cache)

/-- The rounds that are left are those up to the sectors asked for. -/
def countContiguousFrom : ℕ → U32 → U32 → FatCache disk → U32 × U32 × FatCache disk
  | 0, cluster, runSectors, cache =>
    let r := fat32NextCluster volume cache cluster
    (runSectors, r.1, r.2)
  | rounds + 1, cluster, runSectors, cache =>
    let r := fat32NextCluster volume cache cluster
    if FAT32_EOC_MIN ≤ r.1 ∨ r.1 ≠ cluster + 1 then (runSectors, r.1, r.2)
    else countContiguousFrom rounds r.1 (runSectors + 1) r.2

/-- The length of a run of clusters, and the cluster that comes behind it. -/
def fat32CountContiguousSectors (startCluster maxSectors : U32) (cache : FatCache disk) : U32 × U32 × FatCache disk :=
  countContiguousFrom volume (maxSectors.toNat - 1) startCluster 1 cache

end Volume

section Directory

variable {disk : Disk} (volume : Fat32Volume)

/-- A sector of the directory from an entry on: the file, or none in this sector. -/
def findInSector (shortName : Blob) (sector : Blob) : ℕ → ℕ → Stage0 (Option Stage0FileInfo)
  | 0, _ => return none
  | entries + 1, offset => do
    let first := byte sector offset
    let attributes := byte sector (offset + 11)
    if first = 0 then failHard "required FAT32 file not found"
    if first ≠ 0xE5 ∧ attributes ≠ FAT32_ATTR_LONG_NAME ∧
        attributes &&& (FAT32_ATTR_DIRECTORY ||| FAT32_ATTR_VOLUME) = 0 ∧ part sector offset 11 = shortName then
      let firstCluster := readLe16 sector (offset + 20) <<< 16 ||| readLe16 sector (offset + 26)
      if firstCluster < 2 then failHard "FAT32 file has invalid first cluster"
      return some ⟨firstCluster, readLe32 sector (offset + 28)⟩
    findInSector shortName sector entries (offset + 32)

/-- The sectors of a cluster of the directory. -/
def findInCluster (disk : Disk) (shortName : Blob) : ℕ → U32 → Stage0 (Option Stage0FileInfo)
  | 0, _ => return none
  | sectors + 1, lba => do
    let found ← findInSector shortName (disk lba) 16 0
    match found with
    | some file => return some file
    | none => findInCluster disk shortName sectors (lba + 1)

/-- The clusters of the directory; the rounds bound a chain that may not end. -/
def locateRootFileFrom (shortName : Blob) : ℕ → U32 → FatCache disk → Stage0 Stage0FileInfo
  | 0, _, _ => .error .unfinished
  | rounds + 1, cluster, cache => do
    if FAT32_EOC_MIN ≤ cluster then failHard "FAT32 root directory chain terminated unexpectedly"
    let found ← findInCluster disk shortName volume.sectorsPerCluster.toNat (clusterToLba volume cluster)
    match found with
    | some file => return file
    | none =>
      let r := fat32NextCluster volume cache cluster
      locateRootFileFrom shortName rounds r.1 r.2

def locateRootFile (shortName : Blob) (rounds : ℕ) (cache : FatCache disk) : Stage0 Stage0FileInfo :=
  locateRootFileFrom volume shortName rounds volume.rootCluster cache

end Directory

section Ranges

variable {disk : Disk} (volume : Fat32Volume)

/-- Consecutive sectors. -/
def readBlocksContiguous (disk : Disk) (lba : U32) (count : ℕ) : Blob :=
  (List.range count).flatMap fun k => disk (lba + BitVec.ofNat 32 k)

def skipClusters (exceeds : String) : ℕ → U32 → FatCache disk → Stage0 (U32 × FatCache disk)
  | 0, cluster, cache => return (cluster, cache)
  | skip + 1, cluster, cache => do
    let r := fat32NextCluster volume cache cluster
    if FAT32_EOC_MIN ≤ r.1 then failHard exceeds
    skipClusters exceeds skip r.1 r.2

/-- The loop of a range read: runs of whole sectors, each read by `readRun`, and the parts of a sector
before and behind them. A round reads at least a byte, so the size bounds them. -/
def readLoop (readRun : U32 → U32 → Blob) (early : String) : ℕ → U32 → U32 → U32 → FatCache disk → Stage0 Blob
  | 0, _, _, size, _ => if size = 0 then return [] else .error .unfinished
  | rounds + 1, cluster, clusterOffset, size, cache => do
    if size = 0 then return []
    if clusterOffset = 0 ∧ SD_BLOCK_SIZE ≤ size then
      let run := fat32CountContiguousSectors volume cluster (size >>> 9) cache
      let bytes := readRun cluster run.1
      let size := size - run.1 * SD_BLOCK_SIZE
      if size = 0 then return bytes
      if FAT32_EOC_MIN ≤ run.2.1 then failHard early
      let rest ← readLoop readRun early rounds run.2.1 clusterOffset size run.2.2
      return bytes ++ rest
    else
      let chunkSize := if size < SD_BLOCK_SIZE - clusterOffset then size else SD_BLOCK_SIZE - clusterOffset
      let bytes := part (disk (clusterToLba volume cluster)) clusterOffset.toNat chunkSize.toNat
      let size := size - chunkSize
      let clusterOffset := clusterOffset + chunkSize
      if SD_BLOCK_SIZE ≤ clusterOffset ∧ size ≠ 0 then
        let r := fat32NextCluster volume cache cluster
        if FAT32_EOC_MIN ≤ r.1 then failHard early
        let rest ← readLoop readRun early rounds r.1 0 size r.2
        return bytes ++ rest
      else
        let rest ← readLoop readRun early rounds cluster clusterOffset size cache
        return bytes ++ rest

/-- The bytes that a range read stores from its destination on. -/
def readFileRange (readRun : U32 → U32 → Blob) (exceeds early : String) (file : Stage0FileInfo)
    (fileOffset size : U32) (cache : FatCache disk) : Stage0 Blob := do
  let r ← skipClusters volume exceeds (fileOffset >>> 9).toNat file.firstCluster cache
  readLoop volume readRun early size.toNat r.1 (fileOffset &&& (SD_BLOCK_SIZE - 1)) size r.2

/-- A run at once. -/
def readRunToBuffer (disk : Disk) (cluster runSectors : U32) : Blob :=
  readBlocksContiguous disk (clusterToLba volume cluster) runSectors.toNat

def maxBatchSectors : ℕ := (STAGE0_TRANSFER_BUFFER_SIZE / SD_BLOCK_SIZE).toNat

/-- A run in batches that fit into the transfer buffer, with the sectors left to read. -/
def readRunBatches (disk : Disk) : ℕ → U32 → ℕ → Blob
  | 0, _, _ => []
  | rounds + 1, cluster, runSectors =>
    if runSectors = 0 then []
    else
      let batchSectors := min runSectors maxBatchSectors
      readBlocksContiguous disk (clusterToLba volume cluster) batchSectors ++
        readRunBatches disk rounds (cluster + BitVec.ofNat 32 batchSectors) (runSectors - batchSectors)

def readFileRangeToBuffer (file : Stage0FileInfo) (fileOffset size : U32) (cache : FatCache disk) : Stage0 Blob :=
  readFileRange volume (readRunToBuffer volume disk) "FAT32 file range exceeds cluster chain"
    "FAT32 file range terminated early" file fileOffset size cache

def readFileRangeToPhysical (file : Stage0FileInfo) (fileOffset size : U32) (cache : FatCache disk) : Stage0 Blob :=
  readFileRange volume (fun cluster runSectors => readRunBatches volume disk runSectors.toNat cluster runSectors.toNat)
    "FAT32 physical read exceeds cluster chain" "FAT32 physical read terminated early" file fileOffset size cache

end Ranges

end Little64.Boot

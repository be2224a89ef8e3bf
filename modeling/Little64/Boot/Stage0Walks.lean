import Little64.Library.LoggedRuns
import Little64.Boot.Fat32Files

/-! The loader's walks over a FAT32 volume with the sectors that they ask for. -/

namespace Little64.Boot

open LittleEndian CheckedAccess ByteFile PatchedImage

/-- A sector that is looked at for a cluster, on the card or in the cached sector of the table. -/
structure Access where
  cluster : U32
  sector : U32
  deriving DecidableEq, Repr

abbrev Walk (α : Type) := Logged Access BootFailure α

namespace Walk

open Logged (silent note)

section Chains

variable {disk : Disk} (volume : Fat32Volume)

def fatAccess (cluster : U32) : Access := ⟨cluster, fatSectorOf volume cluster⟩

def dataAccess (cluster : U32) : Access := ⟨cluster, clusterToLba volume cluster⟩

/-- The clusters that follow one another by their numbers. -/
def consecutive (cluster : U32) (count : ℕ) : List U32 := (List.range count).map fun k => cluster + BitVec.ofNat 32 k

def fat32NextCluster (cache : FatCache disk) (cluster : U32) : Walk (U32 × FatCache disk) := do
  note [fatAccess volume cluster]
  return Boot.fat32NextCluster volume cache cluster

def countContiguousFrom : ℕ → U32 → U32 → FatCache disk → Walk (U32 × U32 × FatCache disk)
  | 0, cluster, runSectors, cache => do
    let r ← fat32NextCluster volume cache cluster
    return (runSectors, r.1, r.2)
  | rounds + 1, cluster, runSectors, cache => do
    let r ← fat32NextCluster volume cache cluster
    if FAT32_EOC_MIN ≤ r.1 ∨ r.1 ≠ cluster + 1 then return (runSectors, r.1, r.2)
    else countContiguousFrom rounds r.1 (runSectors + 1) r.2

def fat32CountContiguousSectors (startCluster maxSectors : U32) (cache : FatCache disk) :
    Walk (U32 × U32 × FatCache disk) :=
  countContiguousFrom volume (maxSectors.toNat - 1) startCluster 1 cache

end Chains

section Directory

variable {disk : Disk} (volume : Fat32Volume)

def findInCluster (disk : Disk) (shortName : Blob) (cluster : U32) : ℕ → U32 → Walk (Option Stage0FileInfo)
  | 0, _ => return none
  | sectors + 1, lba => do
    note [⟨cluster, lba⟩]
    let found ← silent (findInSector shortName (disk lba) 16 0)
    match found with
    | some file => return some file
    | none => findInCluster disk shortName cluster sectors (lba + 1)

def locateRootFileFrom (shortName : Blob) : ℕ → U32 → FatCache disk → Walk Stage0FileInfo
  | 0, _, _ => silent (.error .unfinished)
  | rounds + 1, cluster, cache => do
    if FAT32_EOC_MIN ≤ cluster then silent (failHard "FAT32 root directory chain terminated unexpectedly")
    else
      let found ← findInCluster disk shortName cluster volume.sectorsPerCluster.toNat (clusterToLba volume cluster)
      match found with
      | some file => return file
      | none =>
        let r ← fat32NextCluster volume cache cluster
        locateRootFileFrom shortName rounds r.1 r.2

def locateRootFile (shortName : Blob) (rounds : ℕ) (cache : FatCache disk) : Walk Stage0FileInfo :=
  locateRootFileFrom volume shortName rounds volume.rootCluster cache

end Directory

section Ranges

variable {disk : Disk} (volume : Fat32Volume)

/-- The sectors from that of a cluster on. -/
def readBlocksContiguous (disk : Disk) (cluster : U32) (count : ℕ) : Walk Blob := do
  note ((consecutive cluster count).map (dataAccess volume))
  return Boot.readBlocksContiguous disk (clusterToLba volume cluster) count

def skipClusters (exceeds : String) : ℕ → U32 → FatCache disk → Walk (U32 × FatCache disk)
  | 0, cluster, cache => return (cluster, cache)
  | skip + 1, cluster, cache => do
    let r ← fat32NextCluster volume cache cluster
    if FAT32_EOC_MIN ≤ r.1 then silent (failHard exceeds) else skipClusters exceeds skip r.1 r.2

def readLoop (readRun : U32 → U32 → Walk Blob) (early : String) : ℕ → U32 → U32 → U32 → FatCache disk → Walk Blob
  | 0, _, _, size, _ => if size = 0 then return [] else silent (.error .unfinished)
  | rounds + 1, cluster, clusterOffset, size, cache => do
    if size = 0 then return []
    else if clusterOffset = 0 ∧ SD_BLOCK_SIZE ≤ size then
      let run ← fat32CountContiguousSectors volume cluster (size >>> 9) cache
      let bytes ← readRun cluster run.1
      let size := size - run.1 * SD_BLOCK_SIZE
      if size = 0 then return bytes
      else if FAT32_EOC_MIN ≤ run.2.1 then silent (failHard early)
      else
        let rest ← readLoop readRun early rounds run.2.1 clusterOffset size run.2.2
        return bytes ++ rest
    else
      let chunkSize := if size < SD_BLOCK_SIZE - clusterOffset then size else SD_BLOCK_SIZE - clusterOffset
      note [dataAccess volume cluster]
      let bytes := part (disk (clusterToLba volume cluster)) clusterOffset.toNat chunkSize.toNat
      let size := size - chunkSize
      let clusterOffset := clusterOffset + chunkSize
      if SD_BLOCK_SIZE ≤ clusterOffset ∧ size ≠ 0 then
        let r ← fat32NextCluster volume cache cluster
        if FAT32_EOC_MIN ≤ r.1 then silent (failHard early)
        else
          let rest ← readLoop readRun early rounds r.1 0 size r.2
          return bytes ++ rest
      else
        let rest ← readLoop readRun early rounds cluster clusterOffset size cache
        return bytes ++ rest

def readFileRange (readRun : U32 → U32 → Walk Blob) (exceeds early : String) (file : Stage0FileInfo)
    (fileOffset size : U32) (cache : FatCache disk) : Walk Blob := do
  let r ← skipClusters volume exceeds (fileOffset >>> 9).toNat file.firstCluster cache
  readLoop volume readRun early size.toNat r.1 (fileOffset &&& (SD_BLOCK_SIZE - 1)) size r.2

def readRunToBuffer (disk : Disk) (cluster runSectors : U32) : Walk Blob :=
  readBlocksContiguous volume disk cluster runSectors.toNat

def readRunBatches (disk : Disk) : ℕ → U32 → ℕ → Walk Blob
  | 0, _, _ => return []
  | rounds + 1, cluster, runSectors => do
    if runSectors = 0 then return []
    else
      let batchSectors := min runSectors maxBatchSectors
      let bytes ← readBlocksContiguous volume disk cluster batchSectors
      let rest ← readRunBatches disk rounds (cluster + BitVec.ofNat 32 batchSectors) (runSectors - batchSectors)
      return bytes ++ rest

def readRunToPhysical (disk : Disk) (cluster runSectors : U32) : Walk Blob :=
  readRunBatches volume disk runSectors.toNat cluster runSectors.toNat

def readFileRangeToBuffer (file : Stage0FileInfo) (fileOffset size : U32) (cache : FatCache disk) : Walk Blob :=
  readFileRange volume (readRunToBuffer volume disk) "FAT32 file range exceeds cluster chain"
    "FAT32 file range terminated early" file fileOffset size cache

def readFileRangeToPhysical (file : Stage0FileInfo) (fileOffset size : U32) (cache : FatCache disk) : Walk Blob :=
  readFileRange volume (readRunToPhysical volume disk) "FAT32 physical read exceeds cluster chain"
    "FAT32 physical read terminated early" file fileOffset size cache

end Ranges

section Outcomes

variable {disk : Disk} (volume : Fat32Volume) {readRun : U32 → U32 → Blob} {loggedRun : U32 → U32 → Walk Blob}

lemma outcome_countContiguousFrom (rounds : ℕ) (cluster runSectors : U32) (cache : FatCache disk) :
    (countContiguousFrom volume rounds cluster runSectors cache).outcome =
      .ok (Boot.countContiguousFrom volume rounds cluster runSectors cache) := by
  induction rounds generalizing cluster runSectors cache with
  | zero => rfl
  | succ rounds ih =>
    rw [countContiguousFrom, Boot.countContiguousFrom, Logged.outcome_bind]
    change (ite _ _ _ : Walk _).outcome = _
    split
    · rfl
    · exact ih _ _ _

lemma outcome_findInCluster (shortName : Blob) (cluster : U32) (sectors : ℕ) (lba : U32) :
    (findInCluster disk shortName cluster sectors lba).outcome = Boot.findInCluster disk shortName sectors lba := by
  induction sectors generalizing lba with
  | zero => rfl
  | succ sectors ih =>
    rw [findInCluster, Boot.findInCluster, Logged.outcome_bind, Logged.outcome_note]
    change (_ >>= _ : Walk _).outcome = _
    rw [Logged.outcome_bind, Logged.outcome_silent]
    congr 1
    funext found
    cases found with
    | none => exact ih _
    | some file => rfl

/-- The lookup of a file is that of the loader. -/
theorem outcome_locateRootFileFrom (shortName : Blob) (rounds : ℕ) (cluster : U32) (cache : FatCache disk) :
    (locateRootFileFrom volume shortName rounds cluster cache).outcome =
      Boot.locateRootFileFrom volume shortName rounds cluster cache := by
  induction rounds generalizing cluster cache with
  | zero => rfl
  | succ rounds ih =>
    rw [locateRootFileFrom, Boot.locateRootFileFrom]
    split
    · rfl
    · rw [Logged.outcome_bind, outcome_findInCluster]
      change _ = Boot.findInCluster _ _ _ _ >>= _
      congr 1
      funext found
      cases found with
      | none =>
        rw [Logged.outcome_bind]
        exact ih _ _
      | some file => rfl

lemma outcome_skipClusters (exceeds : String) (skip : ℕ) (cluster : U32) (cache : FatCache disk) :
    (skipClusters volume exceeds skip cluster cache).outcome = Boot.skipClusters volume exceeds skip cluster cache := by
  induction skip generalizing cluster cache with
  | zero => rfl
  | succ skip ih =>
    rw [skipClusters, Boot.skipClusters, Logged.outcome_bind]
    change (ite _ _ _ : Walk _).outcome = _
    split
    · rfl
    · exact ih _ _

lemma outcome_append {x : Walk Blob} {y : Stage0 Blob} (bytes : Blob) (h : x.outcome = y) :
    (x >>= fun rest => pure (bytes ++ rest) : Walk Blob).outcome = y >>= fun rest => pure (bytes ++ rest) := by
  rw [Logged.outcome_bind, h]
  rfl

lemma ok_bind {α β : Type} (a : α) (f : α → Stage0 β) : (Except.ok a >>= f) = f a := rfl

lemma outcome_readLoop
    (hrun : ∀ cluster runSectors, (loggedRun cluster runSectors).outcome = .ok (readRun cluster runSectors))
    (early : String) (rounds : ℕ) (cluster clusterOffset size : U32) (cache : FatCache disk) :
    (readLoop volume loggedRun early rounds cluster clusterOffset size cache).outcome =
      Boot.readLoop volume readRun early rounds cluster clusterOffset size cache := by
  induction rounds generalizing cluster clusterOffset size cache with
  | zero =>
    rw [readLoop, Boot.readLoop]
    split <;> rfl
  | succ rounds ih =>
    rw [readLoop, Boot.readLoop]
    split
    · rfl
    split
    · rw [Logged.outcome_bind, fat32CountContiguousSectors, outcome_countContiguousFrom]
      change (_ >>= _ : Walk _).outcome = _
      rw [Logged.outcome_bind, hrun]
      change (ite _ _ _ : Walk _).outcome = _
      split
      · exact (if_pos ‹_›).symm
      · refine Eq.trans ?_ (if_neg ‹_›).symm
        split
        · exact (if_pos ‹_›).symm
        · exact (outcome_append _ (ih _ _ _ _)).trans (if_neg ‹_›).symm
    · rw [Logged.outcome_bind, Logged.outcome_note, ok_bind]
      dsimp only
      rw [apply_ite Logged.outcome]
      refine ite_congr rfl (fun hbehind => ?_) fun hbehind => ?_
      · rw [Logged.outcome_bind]
        refine (apply_ite Logged.outcome _ _ _).trans (ite_congr rfl (fun hend => rfl) fun hend => ?_)
        exact outcome_append _ (ih _ _ _ _)
      · exact outcome_append _ (ih _ _ _ _)

lemma outcome_readFileRange
    (hrun : ∀ cluster runSectors, (loggedRun cluster runSectors).outcome = .ok (readRun cluster runSectors))
    (exceeds early : String) (file : Stage0FileInfo) (fileOffset size : U32) (cache : FatCache disk) :
    (readFileRange volume loggedRun exceeds early file fileOffset size cache).outcome =
      Boot.readFileRange volume readRun exceeds early file fileOffset size cache := by
  rw [readFileRange, Boot.readFileRange, Logged.outcome_bind, outcome_skipClusters]
  congr 1
  funext r
  exact outcome_readLoop volume hrun early _ _ _ _ _

lemma outcome_readRunBatches (disk : Disk) (rounds : ℕ) (cluster : U32) (runSectors : ℕ) :
    (readRunBatches volume disk rounds cluster runSectors).outcome =
      .ok (Boot.readRunBatches volume disk rounds cluster runSectors) := by
  induction rounds generalizing cluster runSectors with
  | zero => rfl
  | succ rounds ih =>
    rw [readRunBatches, Boot.readRunBatches]
    by_cases hzero : runSectors = 0
    · rw [if_pos hzero, if_pos hzero]
      rfl
    · rw [if_neg hzero, if_neg hzero]
      simp only
      rw [Logged.outcome_bind, readBlocksContiguous]
      exact outcome_append _ (ih _ _)

/-- The reads of a range are those of the loader. -/
theorem outcome_readFileRangeToBuffer (file : Stage0FileInfo) (fileOffset size : U32) (cache : FatCache disk) :
    (readFileRangeToBuffer volume file fileOffset size cache).outcome =
      Boot.readFileRangeToBuffer volume file fileOffset size cache :=
  outcome_readFileRange volume (fun _ _ => rfl) _ _ file fileOffset size cache

theorem outcome_readFileRangeToPhysical (file : Stage0FileInfo) (fileOffset size : U32) (cache : FatCache disk) :
    (readFileRangeToPhysical volume file fileOffset size cache).outcome =
      Boot.readFileRangeToPhysical volume file fileOffset size cache :=
  outcome_readFileRange volume (fun _ _ => outcome_readRunBatches volume disk _ _ _) _ _ file fileOffset size cache

end Outcomes

end Walk

end Little64.Boot

import Little64.Boot.Stage0Fat32

/-! What the stage-0 loader reads from a file whose clusters are consecutive. -/

namespace Little64.Boot

open LittleEndian CheckedAccess ByteFile PatchedImage

variable {disk : Disk} {volume : Fat32Volume} {first k n m o : ℕ} {payload : Blob}

/-- The entry of a cluster in the allocation table. -/
def fatEntry (disk : Disk) (volume : Fat32Volume) (cluster : U32) : U32 :=
  readLe32 (disk (fatSectorOf volume cluster)) (cluster * 4 &&& (SD_BLOCK_SIZE - 1)).toNat &&& 0x0FFFFFFF

def cluster (first k : ℕ) : U32 := BitVec.ofNat 32 (first + k)

/-- The clusters of a file. -/
def clusterCount (payload : Blob) : ℕ := max 1 ((payload.length + 511) / 512)

/-- The file stands in consecutive clusters, which are chained in this order. -/
structure Holds (disk : Disk) (volume : Fat32Volume) (first : ℕ) (payload : Blob) : Prop where
  size : payload.length < 2 ^ 32
  sectors : ∀ lba, (disk lba).length ≤ 512
  clusters : first + clusterCount payload < 0x0FFFFFF8
  cached : ∀ k < clusterCount payload, fatSectorOf volume (cluster first k) ≠ FAT32_INVALID_CACHE_LBA
  next : ∀ k, k + 1 < clusterCount payload → fatEntry disk volume (cluster first k) = cluster first (k + 1)
  last : FAT32_EOC_MIN ≤ fatEntry disk volume (cluster first (clusterCount payload - 1))
  bytes : ∀ k o n, o + n ≤ 512 → 512 * k + o + n ≤ payload.length →
    part (disk (clusterToLba volume (cluster first k))) o n = part payload (512 * k + o) n

section Words

lemma ofNat_eq_zero {x : ℕ} (hx : x < 2 ^ 32) : BitVec.ofNat 32 x = 0 ↔ x = 0 := by
  rw [← BitVec.toNat_inj, BitVec.toNat_ofNat, Nat.mod_eq_of_lt hx]
  rfl

lemma block_le {x : ℕ} (hx : x < 2 ^ 32) : SD_BLOCK_SIZE ≤ BitVec.ofNat 32 x ↔ 512 ≤ x := by
  rw [BitVec.le_def, BitVec.toNat_ofNat, Nat.mod_eq_of_lt hx]
  rfl

lemma toNat_skip {offset : ℕ} (hoffset : offset < 2 ^ 32) : (BitVec.ofNat 32 offset >>> 9).toNat = offset / 512 := by
  rw [BitVec.toNat_ushiftRight, BitVec.toNat_ofNat, Nat.mod_eq_of_lt hoffset, Nat.shiftRight_eq_div_pow]

lemma offset_in_sector (offset : ℕ) :
    BitVec.ofNat 32 offset &&& (SD_BLOCK_SIZE - 1) = BitVec.ofNat 32 (offset % 512) := by
  apply BitVec.eq_of_toNat_eq
  rw [BitVec.toNat_and, BitVec.toNat_ofNat, BitVec.toNat_ofNat]
  change offset % 2 ^ 32 &&& (2 ^ 9 - 1) = _
  rw [Nat.and_two_pow_sub_one_eq_mod]
  omega

end Words

section Chain

lemma nextCluster_fst (cache : FatCache disk) {c : U32} (h : fatSectorOf volume c ≠ FAT32_INVALID_CACHE_LBA) :
    (fat32NextCluster volume cache c).1 = fatEntry disk volume c := by
  have hsector : (cache.fetch (fatSectorOf volume c)).sector = disk (fatSectorOf volume c) := by
    rw [FatCache.fetch]
    split
    · rfl
    · rename_i hlba
      have hlba := not_not.1 hlba
      rw [cache.coherent (hlba ▸ h), hlba]
  rw [fat32NextCluster, hsector]
  rfl

lemma clusterToLba_add (volume : Fat32Volume) (first k j : ℕ) :
    clusterToLba volume (cluster first k) + BitVec.ofNat 32 j = clusterToLba volume (cluster first (k + j)) := by
  rw [clusterToLba, clusterToLba, cluster, cluster, ← Nat.add_assoc, BitVec.ofNat_add (first + k) j]
  simp only [BitVec.sub_eq_add_neg, BitVec.add_assoc]
  rw [BitVec.add_comm (-2) (BitVec.ofNat 32 j)]

variable (h : Holds disk volume first payload)

include h

lemma toNat_cluster (hk : k ≤ clusterCount payload) : (cluster first k).toNat = first + k := by
  have hlt := h.clusters
  rw [cluster, BitVec.toNat_ofNat, Nat.mod_eq_of_lt (by omega)]

lemma not_eoc_cluster (hk : k ≤ clusterCount payload) : ¬ FAT32_EOC_MIN ≤ cluster first k := by
  have hlt := h.clusters
  rw [BitVec.le_def, toNat_cluster h hk]
  change ¬ 0x0FFFFFF8 ≤ first + k
  omega

omit h in
lemma lt_clusterCount (hk : 512 * k < payload.length) : k < clusterCount payload := by
  rw [clusterCount]
  omega

lemma countContiguousFrom_eq {rounds : ℕ} (hk : k + rounds < clusterCount payload) (run : U32) (cache : FatCache disk) :
    ∃ cache', countContiguousFrom volume rounds (cluster first k) run cache =
      (run + BitVec.ofNat 32 rounds, fatEntry disk volume (cluster first (k + rounds)), cache') := by
  induction rounds generalizing k run cache with
  | zero =>
    refine ⟨(fat32NextCluster volume cache (cluster first k)).2, ?_⟩
    rw [countContiguousFrom, nextCluster_fst cache (h.cached k (by omega))]
    exact Prod.ext (BitVec.add_zero run).symm rfl
  | succ rounds ih =>
    have hnext := nextCluster_fst cache (h.cached k (by omega))
    rw [h.next k (by omega)] at hnext
    have hone : cluster first (k + 1) = cluster first k + 1 := BitVec.ofNat_add (first + k) 1
    obtain ⟨cache', hrun⟩ := ih (k := k + 1) (by omega) (run + 1) (fat32NextCluster volume cache (cluster first k)).2
    refine ⟨cache', ?_⟩
    rw [countContiguousFrom]
    simp only [hnext]
    rw [if_neg (by
      rintro (heoc | hne)
      · exact not_eoc_cluster h (by omega) heoc
      · exact hne hone), hrun]
    have hsum : run + 1 + BitVec.ofNat 32 rounds = run + BitVec.ofNat 32 (rounds + 1) := by
      rw [BitVec.add_assoc, Nat.add_comm rounds 1, BitVec.ofNat_add]
      rfl
    rw [hsum, Nat.add_right_comm, Nat.add_assoc]

lemma skipClusters_eq (exceeds : String) (hk : k + n < clusterCount payload) (cache : FatCache disk) :
    ∃ cache', skipClusters volume exceeds n (cluster first k) cache = .ok (cluster first (k + n), cache') := by
  induction n generalizing k cache with
  | zero => exact ⟨cache, rfl⟩
  | succ n ih =>
    have hnext := nextCluster_fst cache (h.cached k (by omega))
    rw [h.next k (by omega)] at hnext
    obtain ⟨cache', hskip⟩ := ih (k := k + 1) (by omega) (fat32NextCluster volume cache (cluster first k)).2
    refine ⟨cache', ?_⟩
    rw [skipClusters]
    simp only [hnext]
    rw [if_neg (not_eoc_cluster h (by omega))]
    rw [Nat.add_right_comm, Nat.add_assoc] at hskip
    exact hskip

/-- Past the last cluster the chain has ended, also for a range of no bytes. -/
lemma skipClusters_end (exceeds : String) (hn : n ≠ 0) (hk : k + n = clusterCount payload) (cache : FatCache disk) :
    skipClusters volume exceeds n (cluster first k) cache = .error (.failHard exceeds) := by
  induction n generalizing k cache with
  | zero => exact absurd rfl hn
  | succ n ih =>
    have hnext := nextCluster_fst cache (h.cached k (by omega))
    rw [skipClusters]
    simp only [hnext]
    by_cases hlast : n = 0
    · have hk' : k = clusterCount payload - 1 := by omega
      rw [hk', if_pos h.last]
      rfl
    · rw [h.next k (by omega), if_neg (not_eoc_cluster h (by omega))]
      exact ih hlast (k := k + 1) (by omega) _

end Chain

section Runs

lemma readLoop_zero (volume : Fat32Volume) (readRun : U32 → U32 → Blob) (early : String) (rounds : ℕ)
    (c offset : U32) (cache : FatCache disk) : readLoop volume readRun early rounds c offset 0#32 cache = .ok [] := by
  cases rounds <;> rfl

variable (h : Holds disk volume first payload)

include h

lemma readBlocksContiguous_eq (hn : 512 * (k + n) ≤ payload.length) :
    readBlocksContiguous disk (clusterToLba volume (cluster first k)) n = part payload (512 * k) (512 * n) := by
  induction n with
  | zero => rfl
  | succ n ih =>
    have hsector : disk (clusterToLba volume (cluster first (k + n))) = part payload (512 * (k + n)) 512 := by
      have hall := h.bytes (k + n) 0 512 (by omega) (by omega)
      rw [part, List.drop_zero, List.take_of_length_le (h.sectors _)] at hall
      exact hall
    rw [readBlocksContiguous, List.range_succ, List.flatMap_append, List.flatMap_singleton, clusterToLba_add, hsector]
    change readBlocksContiguous disk _ n ++ _ = _
    rw [ih (by omega), Nat.mul_add, part_append, Nat.mul_succ]

lemma readRunBatches_eq {rounds : ℕ} (hrounds : n ≤ rounds) (hn : 512 * (k + n) ≤ payload.length) :
    readRunBatches volume disk rounds (cluster first k) n = part payload (512 * k) (512 * n) := by
  induction rounds generalizing k n with
  | zero =>
    obtain rfl : n = 0 := by omega
    rfl
  | succ rounds ih =>
    rw [readRunBatches]
    by_cases hzero : n = 0
    · rw [if_pos hzero, hzero]
      rfl
    · have hmax : maxBatchSectors = 8 := rfl
      have hcluster : cluster first k + BitVec.ofNat 32 (min n maxBatchSectors) =
          cluster first (k + min n maxBatchSectors) := by
        rw [cluster, cluster, ← Nat.add_assoc, BitVec.ofNat_add (first + k)]
      rw [if_neg hzero]
      simp only
      rw [readBlocksContiguous_eq h (by omega), hcluster, ih (by omega) (by omega), Nat.mul_add, part_append]
      congr 1
      omega

variable {readRun : U32 → U32 → Blob} (early : String) {rounds size : ℕ}

variable (rounds) in
/-- A round that reads whole sectors: all there are of the range. -/
lemma readLoop_whole (hrun : ∀ k n, 512 * (k + n) ≤ payload.length →
      readRun (cluster first k) (BitVec.ofNat 32 n) = part payload (512 * k) (512 * n))
    (hfull : 512 ≤ size) (hsize : 512 * k + size ≤ payload.length) (cache : FatCache disk) :
    ∃ cache' : FatCache disk, readLoop volume readRun early (rounds + 1) (cluster first k) 0 (BitVec.ofNat 32 size) cache =
      if size % 512 = 0 then .ok (part payload (512 * k) size)
      else readLoop volume readRun early rounds (cluster first (k + size / 512)) 0 (BitVec.ofNat 32 (size % 512)) cache'
        >>= fun rest => .ok (part payload (512 * k) (512 * (size / 512)) ++ rest) := by
  have hlen := h.size
  have hcount : k + (size / 512 - 1) < clusterCount payload := lt_clusterCount (by omega)
  obtain ⟨cache', hcontiguous⟩ := countContiguousFrom_eq h hcount 1 cache
  refine ⟨cache', ?_⟩
  have hshift : BitVec.ofNat 32 size >>> 9 = BitVec.ofNat 32 (size / 512) := by
    apply BitVec.eq_of_toNat_eq
    rw [toNat_skip (by omega), BitVec.toNat_ofNat, Nat.mod_eq_of_lt (by omega)]
  have hrounds : (BitVec.ofNat 32 (size / 512)).toNat - 1 = size / 512 - 1 := by
    rw [BitVec.toNat_ofNat, Nat.mod_eq_of_lt (by omega)]
  have hone : 1 + BitVec.ofNat 32 (size / 512 - 1) = BitVec.ofNat 32 (size / 512) := by
    have hadd : size / 512 = 1 + (size / 512 - 1) := by omega
    rw [hadd, Nat.add_sub_cancel_left, BitVec.ofNat_add]
    rfl
  have hrest : BitVec.ofNat 32 size - BitVec.ofNat 32 (size / 512) * SD_BLOCK_SIZE = BitVec.ofNat 32 (size % 512) := by
    have hmul : BitVec.ofNat 32 (size / 512 * 512) = BitVec.ofNat 32 (size / 512) * SD_BLOCK_SIZE :=
      BitVec.ofNat_mul _ _
    rw [← hmul, BitVec.ofNat_sub_ofNat_of_le _ _ (by omega) (by omega)]
    congr 1
    omega
  rw [readLoop, if_neg (mt (ofNat_eq_zero (by omega)).1 (by omega)), if_pos ⟨rfl, (block_le (by omega)).2 hfull⟩,
    fat32CountContiguousSectors, hshift, hrounds, hcontiguous, hone]
  simp only
  rw [hrest, hrun k (size / 512) (by omega)]
  by_cases hend : size % 512 = 0
  · have hall : 512 * (size / 512) = size := by omega
    rw [if_pos ((ofNat_eq_zero (by omega)).2 hend), if_pos hend, hall]
    rfl
  · have hbehind : k + (size / 512 - 1) + 1 < clusterCount payload := lt_clusterCount (by omega)
    have hnext : k + (size / 512 - 1) + 1 = k + size / 512 := by omega
    rw [if_neg (mt (ofNat_eq_zero (by omega)).1 hend), if_neg hend, h.next _ hbehind, hnext,
      if_neg (not_eoc_cluster h (by omega))]
    rfl

variable (readRun rounds) in
/-- A round that reads a part of a sector: up to its end or to the end of the range. -/
lemma readLoop_part (ho : o < 512) (hs : size ≠ 0) (hwhole : ¬ (o = 0 ∧ 512 ≤ size))
    (hsize : 512 * k + o + size ≤ payload.length) (cache : FatCache disk) :
    ∃ cache' : FatCache disk, readLoop volume readRun early (rounds + 1) (cluster first k) (BitVec.ofNat 32 o) (BitVec.ofNat 32 size)
        cache =
      if o + size ≤ 512 then .ok (part payload (512 * k + o) size)
      else readLoop volume readRun early rounds (cluster first (k + 1)) 0 (BitVec.ofNat 32 (size - (512 - o))) cache'
        >>= fun rest => .ok (part payload (512 * k + o) (512 - o) ++ rest) := by
  have hlen := h.size
  refine ⟨(fat32NextCluster volume cache (cluster first k)).2, ?_⟩
  have honat : (BitVec.ofNat 32 o).toNat = o := by rw [BitVec.toNat_ofNat, Nat.mod_eq_of_lt (by omega)]
  have hpart : ¬ (BitVec.ofNat 32 o = 0 ∧ SD_BLOCK_SIZE ≤ BitVec.ofNat 32 size) := by
    rw [ofNat_eq_zero (by omega), block_le (by omega)]
    exact hwhole
  have hleft : SD_BLOCK_SIZE - BitVec.ofNat 32 o = BitVec.ofNat 32 (512 - o) :=
    BitVec.ofNat_sub_ofNat_of_le _ _ (by omega) ho.le
  have hlt : BitVec.ofNat 32 size < BitVec.ofNat 32 (512 - o) ↔ size < 512 - o := by
    rw [BitVec.lt_def, BitVec.toNat_ofNat, BitVec.toNat_ofNat, Nat.mod_eq_of_lt (by omega), Nat.mod_eq_of_lt (by omega)]
  have hchunk : (if BitVec.ofNat 32 size < SD_BLOCK_SIZE - BitVec.ofNat 32 o then BitVec.ofNat 32 size
      else SD_BLOCK_SIZE - BitVec.ofNat 32 o) = BitVec.ofNat 32 (min size (512 - o)) := by
    rw [hleft]
    by_cases hless : size < 512 - o
    · rw [if_pos (hlt.2 hless), Nat.min_eq_left hless.le]
    · rw [if_neg (mt hlt.1 hless), Nat.min_eq_right (by omega)]
  have hchunkNat : (BitVec.ofNat 32 (min size (512 - o))).toNat = min size (512 - o) := by
    rw [BitVec.toNat_ofNat, Nat.mod_eq_of_lt (by omega)]
  rw [readLoop, if_neg (mt (ofNat_eq_zero (by omega)).1 hs), if_neg hpart]
  simp only [hchunk, honat, hchunkNat]
  rw [h.bytes k o _ (by omega) (by omega), BitVec.ofNat_sub_ofNat_of_le _ _ (by omega) (Nat.min_le_left _ _),
    ← BitVec.ofNat_add]
  have hbehind : SD_BLOCK_SIZE ≤ BitVec.ofNat 32 (o + min size (512 - o)) ∧
      BitVec.ofNat 32 (size - min size (512 - o)) ≠ 0 ↔ ¬ o + size ≤ 512 := by
    rw [block_le (by omega), ne_eq, ofNat_eq_zero (by omega)]
    omega
  by_cases hend : o + size ≤ 512
  · have hmin : min size (512 - o) = size := by omega
    rw [if_neg (fun hbeyond => hbehind.1 hbeyond hend), if_pos hend, hmin, Nat.sub_self, readLoop_zero]
    change Except.ok (_ ++ []) = _
    rw [List.append_nil]
  · have hmin : min size (512 - o) = 512 - o := by omega
    have hmore : k + 1 < clusterCount payload := lt_clusterCount (by omega)
    rw [if_pos (hbehind.2 hend), if_neg hend, hmin, nextCluster_fst cache (h.cached k (by omega)), h.next k hmore,
      if_neg (not_eoc_cluster h (by omega))]
    rfl

omit h in
lemma bind_part {x : Stage0 Blob} {off : ℕ} (hx : x = .ok (part payload (off + n) m)) :
    (x >>= fun rest => .ok (part payload off n ++ rest)) = .ok (part payload off (n + m)) := by
  rw [hx]
  exact congrArg Except.ok (part_append payload off n m)

/-- Every range that starts in a cluster of the file is read back: the induction is on the rounds, each of which
reads a whole run or a part of one sector. -/
lemma readLoop_eq (hrun : ∀ k n, 512 * (k + n) ≤ payload.length →
      readRun (cluster first k) (BitVec.ofNat 32 n) = part payload (512 * k) (512 * n))
    (hrounds : size ≤ rounds) (ho : o < 512) (hsize : 512 * k + o + size ≤ payload.length) (cache : FatCache disk) :
    readLoop volume readRun early rounds (cluster first k) (BitVec.ofNat 32 o) (BitVec.ofNat 32 size) cache =
      .ok (part payload (512 * k + o) size) := by
  induction rounds generalizing k o size cache with
  | zero =>
    obtain rfl : size = 0 := by omega
    rfl
  | succ rounds ih =>
    by_cases hs : size = 0
    · rw [hs]
      exact readLoop_zero volume readRun early _ _ _ cache
    by_cases hwhole : o = 0 ∧ 512 ≤ size
    · obtain ⟨rfl, hfull⟩ := hwhole
      obtain ⟨cache', hround⟩ := readLoop_whole h early rounds hrun hfull hsize cache
      refine hround.trans ?_
      by_cases hend : size % 512 = 0
      · rw [if_pos hend, Nat.add_zero]
      · have hloop := @ih (k + size / 512) 0 (size % 512) (by omega) (by omega) (by omega) cache'
        have hoffset : 512 * (k + size / 512) + 0 = 512 * k + 512 * (size / 512) := by omega
        rw [hoffset] at hloop
        have hsum : 512 * (size / 512) + size % 512 = size := by omega
        rw [if_neg hend, Nat.add_zero, ← hsum]
        have hall := bind_part hloop
        rw [hsum] at hall ⊢
        exact hall
    · obtain ⟨cache', hround⟩ := readLoop_part h readRun early rounds ho hs hwhole hsize cache
      rw [hround]
      by_cases hend : o + size ≤ 512
      · rw [if_pos hend]
      · have hloop := @ih (k + 1) 0 (size - (512 - o)) (by omega) (by omega) (by omega) cache'
        have hoffset : 512 * (k + 1) + 0 = 512 * k + o + (512 - o) := by omega
        rw [hoffset] at hloop
        have hall := bind_part hloop
        rw [Nat.add_sub_of_le (by omega)] at hall
        rw [if_neg hend]
        exact hall

/-- A range that starts in a cluster of the file is read back as a whole. -/
lemma readFileRange_eq {readRun : U32 → U32 → Blob} (exceeds early : String)
    (hrun : ∀ k n, 512 * (k + n) ≤ payload.length →
      readRun (cluster first k) (BitVec.ofNat 32 n) = part payload (512 * k) (512 * n))
    {offset size : ℕ} (hrange : offset + size ≤ payload.length) (hcluster : offset / 512 < clusterCount payload)
    (fileSize : U32) (cache : FatCache disk) :
    readFileRange volume readRun exceeds early ⟨cluster first 0, fileSize⟩ (BitVec.ofNat 32 offset)
      (BitVec.ofNat 32 size) cache = .ok (part payload offset size) := by
  have hlen := h.size
  obtain ⟨cache', hskip⟩ := skipClusters_eq h exceeds (k := 0) (by rwa [Nat.zero_add]) cache
  rw [Nat.zero_add] at hskip
  rw [readFileRange, toNat_skip (by omega), offset_in_sector, hskip]
  have hnat : (BitVec.ofNat 32 size).toNat = size := by rw [BitVec.toNat_ofNat, Nat.mod_eq_of_lt (by omega)]
  have hoffset : 512 * (offset / 512) + offset % 512 = offset := by omega
  have hloop := readLoop_eq (k := offset / 512) h early hrun (le_refl size) (Nat.mod_lt offset (by decide)) (by omega)
    cache'
  rw [hoffset] at hloop
  rw [hnat]
  exact hloop

lemma readFileRange_end {readRun : U32 → U32 → Blob} (exceeds early : String) {offset : ℕ}
    (hoffset : offset ≤ payload.length) (hcluster : offset / 512 = clusterCount payload) (fileSize size : U32)
    (cache : FatCache disk) :
    readFileRange volume readRun exceeds early ⟨cluster first 0, fileSize⟩ (BitVec.ofNat 32 offset) size cache =
      .error (.failHard exceeds) := by
  have hlen := h.size
  have hpos : offset / 512 ≠ 0 := by
    rw [hcluster, clusterCount]
    omega
  rw [readFileRange, toNat_skip (by omega),
    skipClusters_end h exceeds hpos (by rw [Nat.zero_add]; exact hcluster) cache]
  rfl

end Runs

end Little64.Boot

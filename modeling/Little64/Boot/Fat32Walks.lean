import Mathlib.Order.Interval.Finset.Nat
import Little64.Library.LinkedChains
import Little64.Boot.Stage0Walks

/-! The paths that the loader takes along the clusters of a volume: what it looks at on the way, and how it ends. -/

namespace Little64.Boot.Walk

open LittleEndian CheckedAccess ByteFile PatchedImage LinkedChains

variable {disk : Disk} {volume : Fat32Volume}

section Extents

variable (disk volume)

/-- The fields of the boot sector that the loader does not keep. -/
def totalSectors : ℕ := (readLe32 (disk volume.partitionLba) 32).toNat
def reservedSectors : ℕ := (readLe16 (disk volume.partitionLba) 14).toNat

def dataStart : ℕ := volume.partitionLba.toNat + reservedSectors disk volume + 2 * volume.fatSectorCount.toNat

/-- The card has no sectors beyond those that 32 bits can number. -/
def volumeEnd : ℕ := min (volume.partitionLba.toNat + totalSectors disk volume) (2 ^ 32)

def clusterTotal : ℕ := volumeEnd disk volume - dataStart disk volume

def InVolume (lba : U32) : Prop := volume.partitionLba.toNat ≤ lba.toNat ∧ lba.toNat < volumeEnd disk volume

def IsCluster (cluster : U32) : Prop := 2 ≤ cluster.toNat ∧ cluster.toNat < clusterTotal disk volume + 2

instance : DecidablePred (IsCluster disk volume) := fun _ => inferInstanceAs (Decidable (_ ∧ _))

/-- A volume as the loader has opened it. -/
structure Opened : Prop where
  oneSector : volume.sectorsPerCluster = 1
  fatSectors : 0 < volume.fatSectorCount.toNat
  firstFat : volume.firstFatLba = volume.partitionLba + readLe16 (disk volume.partitionLba) 14
  firstData : volume.firstDataLba = volume.firstFatLba + volume.fatSectorCount + volume.fatSectorCount

variable {disk volume}

lemma fail_unless_eq_ok {α : Type} {c : Prop} [Decidable c] {message : String} {k : PUnit → Stage0 α} {a : α} :
    (if c then failHard message >>= k else k PUnit.unit) = .ok a ↔ ¬ c ∧ k PUnit.unit = .ok a := by
  split
  · exact iff_of_false (fun h => by cases h) fun h => h.1 ‹_›
  · exact (and_iff_right ‹_›).symm

lemma opened_of_load (h : loadFat32Volume disk = .ok volume) : Opened disk volume := by
  simp only [loadFat32Volume, fail_unless_eq_ok] at h
  obtain ⟨-, -, -, -, -, hparameters, -, hspc, h⟩ := h
  obtain rfl := Except.ok.inj h
  push Not at hparameters hspc
  exact ⟨hspc, Nat.pos_of_ne_zero fun hzero => hparameters.2.2.1 (BitVec.eq_of_toNat_eq hzero), rfl, rfl⟩

variable (h : Opened disk volume)

include h

lemma toNat_clusterToLba {cluster : U32} (hcluster : IsCluster disk volume cluster) :
    (clusterToLba volume cluster).toNat = dataStart disk volume + (cluster.toNat - 2) := by
  obtain ⟨hlow, hhigh⟩ := hcluster
  have hend : volumeEnd disk volume ≤ 2 ^ 32 := Nat.min_le_right _ _
  have hdata : dataStart disk volume = volume.partitionLba.toNat + (readLe16 (disk volume.partitionLba) 14).toNat +
      2 * volume.fatSectorCount.toNat := rfl
  rw [clusterTotal] at hhigh
  have htwo : (2 : U32).toNat = 2 := rfl
  rw [clusterToLba, h.firstData, h.firstFat]
  simp only [BitVec.toNat_add, BitVec.toNat_sub, htwo]
  omega

lemma dataSector_inVolume {cluster : U32} (hcluster : IsCluster disk volume cluster) :
    InVolume disk volume (clusterToLba volume cluster) := by
  have hplace := toNat_clusterToLba h hcluster
  obtain ⟨hlow, hhigh⟩ := hcluster
  rw [clusterTotal] at hhigh
  rw [InVolume, hplace, dataStart] at *
  omega

lemma toNat_fatSectorOf_lt {cluster : U32} (hcluster : IsCluster disk volume cluster) :
    volume.partitionLba.toNat ≤ (fatSectorOf volume cluster).toNat ∧
      (fatSectorOf volume cluster).toNat + 1 < volumeEnd disk volume := by
  obtain ⟨hlow, hhigh⟩ := hcluster
  have hend : volumeEnd disk volume ≤ 2 ^ 32 := Nat.min_le_right _ _
  have hfat := h.fatSectors
  have hshift : ((cluster * 4) >>> 9).toNat = cluster.toNat * 4 % 2 ^ 32 / 512 := by
    rw [BitVec.toNat_ushiftRight, BitVec.toNat_mul, Nat.shiftRight_eq_div_pow]
    rfl
  rw [clusterTotal, dataStart, reservedSectors] at hhigh
  rw [fatSectorOf, h.firstFat, BitVec.toNat_add, BitVec.toNat_add, hshift]
  omega

lemma fatSector_inVolume {cluster : U32} (hcluster : IsCluster disk volume cluster) :
    InVolume disk volume (fatSectorOf volume cluster) := by
  obtain ⟨hlow, hhigh⟩ := toNat_fatSectorOf_lt h hcluster
  exact ⟨hlow, by omega⟩

lemma known_of_isCluster {cluster : U32} (hcluster : IsCluster disk volume cluster) :
    fatSectorOf volume cluster ≠ FAT32_INVALID_CACHE_LBA := by
  have hhigh := (toNat_fatSectorOf_lt h hcluster).2
  have hend : volumeEnd disk volume ≤ 2 ^ 32 := Nat.min_le_right _ _
  intro heq
  rw [heq] at hhigh
  change 0xFFFFFFFF + 1 < _ at hhigh
  omega

omit h in
lemma length_le_clusterTotal {path : List U32} (hnodup : path.Nodup) (hall : ∀ c ∈ path, IsCluster disk volume c) :
    path.length ≤ clusterTotal disk volume := by
  have hinjective : (path.map BitVec.toNat).Nodup :=
    hnodup.map fun _ _ => BitVec.eq_of_toNat_eq
  have hsubset : (path.map BitVec.toNat).toFinset ⊆ Finset.Ico 2 (clusterTotal disk volume + 2) := by
    intro n hn
    obtain ⟨c, hc, rfl⟩ := List.mem_map.mp (List.mem_toFinset.mp hn)
    exact Finset.mem_Ico.mpr (hall c hc)
  have hcard := Finset.card_le_card hsubset
  rw [List.toFinset_card_of_nodup hinjective, List.length_map, Nat.card_Ico] at hcard
  omega

end Extents

section Runs

variable (disk volume)

def Known (cluster : U32) : Prop := fatSectorOf volume cluster ≠ FAT32_INVALID_CACHE_LBA

/-- A path along the chain of a file, which goes on only where the chain has not ended. -/
abbrev FilePath (start : U32) (path : List U32) : Prop :=
  Walked (fatEntry disk volume) start (Known volume) (fun _ c => ¬ FAT32_EOC_MIN ≤ c) path

/-- What is looked at stands for a cluster of the path: its sector and its entry in the table, at most once each. -/
structure Visits (log : List Access) (path : List U32) : Prop where
  covered : ∀ a ∈ log, ∃ c ∈ path, a = fatAccess volume c ∨ a = dataAccess volume c
  steps : log.length ≤ 2 * path.length

/-- Something is looked at for every cluster of the path. -/
def Touches (log : List Access) (path : List U32) : Prop := ∀ c ∈ path, ∃ a ∈ log, a.cluster = c

variable {disk volume} {log more : List Access} {path rest : List U32} {c nxt : U32} {n o s t : ℕ}

lemma Visits.append (h : Visits volume log path) (hmore : Visits volume more rest) :
    Visits volume (log ++ more) (path ++ rest) := by
  constructor
  · intro a ha
    rcases List.mem_append.mp ha with ha | ha
    · obtain ⟨c, hc, heq⟩ := h.covered a ha
      exact ⟨c, List.mem_append_left _ hc, heq⟩
    · obtain ⟨c, hc, heq⟩ := hmore.covered a ha
      exact ⟨c, List.mem_append_right _ hc, heq⟩
  · have hsteps := h.steps
    have hmoreSteps := hmore.steps
    rw [List.length_append, List.length_append]
    omega

lemma Touches.append (h : Touches log path) (hmore : Touches more rest) : Touches (log ++ more) (path ++ rest) := by
  intro c hc
  rcases List.mem_append.mp hc with hc | hc
  · obtain ⟨a, ha, heq⟩ := h c hc
    exact ⟨a, List.mem_append_left _ ha, heq⟩
  · obtain ⟨a, ha, heq⟩ := hmore c hc
    exact ⟨a, List.mem_append_right _ ha, heq⟩

lemma visits_map {f : U32 → Access} (hf : f = fatAccess volume ∨ f = dataAccess volume) (path : List U32) :
    ∀ a ∈ path.map f, ∃ c ∈ path, a = fatAccess volume c ∨ a = dataAccess volume c := by
  intro a ha
  obtain ⟨c, hc, rfl⟩ := List.mem_map.mp ha
  exact ⟨c, hc, hf.imp (congrFun · c) (congrFun · c)⟩

lemma touches_map {f : U32 → Access} (hf : ∀ c, (f c).cluster = c) (path : List U32) : Touches (path.map f) path :=
  fun c hc => ⟨f c, List.mem_map_of_mem hc, hf c⟩

@[simp] lemma length_consecutive (c : U32) (n : ℕ) : (consecutive c n).length = n := by simp [consecutive]

lemma consecutive_succ (c : U32) (n : ℕ) : consecutive c (n + 1) = c :: consecutive (c + 1) n := by
  rw [consecutive, List.range_succ_eq_map, List.map_cons, List.map_map]
  congr 1
  · exact BitVec.add_zero c
  · apply List.map_congr_left
    intro k _
    change c + BitVec.ofNat 32 (k + 1) = c + 1 + BitVec.ofNat 32 k
    rw [Nat.add_comm k, BitVec.ofNat_add, BitVec.add_assoc]
    rfl

lemma consecutive_add (c : U32) (n m : ℕ) :
    consecutive c (n + m) = consecutive c n ++ consecutive (c + BitVec.ofNat 32 n) m := by
  rw [consecutive, List.range_add, List.map_append, List.map_map]
  congr 1
  apply List.map_congr_left
  intro k _
  change c + BitVec.ofNat 32 (n + k) = _
  rw [BitVec.ofNat_add, BitVec.add_assoc]

lemma consecutive_one (c : U32) : consecutive c 1 = [c] := consecutive_succ c 0

lemma nextCluster_bind {α : Type} (cache : FatCache disk) (c : U32) (f : U32 × FatCache disk → Walk α) :
    fat32NextCluster volume cache c >>= f = ⟨fatAccess volume c :: (f (Boot.fat32NextCluster volume cache c)).log,
      (f (Boot.fat32NextCluster volume cache c)).outcome⟩ := rfl

lemma FilePath.single (c : U32) : FilePath disk volume c [c] :=
  ⟨fun _ hx => (Option.mem_some_iff.mp hx).symm, .singleton c⟩

/-- A count along the chain: the run, what was looked at, and the cluster behind it as the table has it. -/
structure CountedRun (disk : Disk) (volume : Fat32Volume) (c : U32) (t : ℕ) (nxt : U32) (log : List Access) : Prop where
  log_eq : log = (consecutive c (t + 1)).map (fatAccess volume)
  path : FilePath disk volume c (consecutive c (t + 1))
  behind : ∀ x ∈ (consecutive c (t + 1)).getLast?, Known volume x → nxt = fatEntry disk volume x

lemma CountedRun.one (hnext : Known volume c → nxt = fatEntry disk volume c) :
    CountedRun disk volume c 0 nxt [fatAccess volume c] := by
  constructor
  · rw [consecutive_one]
    rfl
  · rw [consecutive_one]
    exact FilePath.single c
  · rw [consecutive_one]
    intro x hx
    obtain rfl := Option.mem_some_iff.mp hx
    exact hnext

lemma CountedRun.cons (h : CountedRun disk volume (c + 1) t nxt log)
    (hnext : Known volume c → c + 1 = fatEntry disk volume c) (hgoes : ¬ FAT32_EOC_MIN ≤ c + 1) :
    CountedRun disk volume c (t + 1) nxt (fatAccess volume c :: log) := by
  have hne : consecutive (c + 1) (t + 1) ≠ [] := by
    rw [consecutive_succ]
    exact List.cons_ne_nil _ _
  constructor
  · rw [consecutive_succ c (t + 1), List.map_cons, h.log_eq]
  · rw [consecutive_succ c (t + 1)]
    exact h.path.cons ⟨hnext, hgoes⟩
  · rw [consecutive_succ c (t + 1), List.getLast?_cons_of_ne_nil hne]
    exact h.behind

variable (volume) in
lemma countContiguousFrom_run (rounds : ℕ) (c runSectors : U32) (cache : FatCache disk) :
    ∃ t nxt cache' log, t ≤ rounds ∧ countContiguousFrom volume rounds c runSectors cache =
      ⟨log, .ok (runSectors + BitVec.ofNat 32 t, nxt, cache')⟩ ∧ CountedRun disk volume c t nxt log := by
  induction rounds generalizing c runSectors cache with
  | zero =>
    refine ⟨0, (Boot.fat32NextCluster volume cache c).1, (Boot.fat32NextCluster volume cache c).2, _, le_rfl, ?_,
      CountedRun.one (nextCluster_fst cache)⟩
    rw [countContiguousFrom, nextCluster_bind, BitVec.add_zero]
    rfl
  | succ rounds ih =>
    have hnext : Known volume c → _ := nextCluster_fst cache
    rw [countContiguousFrom, nextCluster_bind]
    generalize Boot.fat32NextCluster volume cache c = r at hnext
    by_cases hbreak : FAT32_EOC_MIN ≤ r.1 ∨ r.1 ≠ c + 1
    · refine ⟨0, r.1, r.2, _, Nat.zero_le _, ?_, CountedRun.one hnext⟩
      rw [if_pos hbreak, BitVec.add_zero]
      rfl
    · obtain ⟨hgoes, hone⟩ := not_or.mp hbreak
      have hone : r.1 = c + 1 := not_not.mp hone
      obtain ⟨t, nxt, cache', log, ht, hrun, hcounted⟩ := ih r.1 (runSectors + 1) r.2
      rw [if_neg hbreak, hrun]
      rw [hone] at hcounted hgoes hnext
      refine ⟨t + 1, nxt, cache', _, by omega, ?_, hcounted.cons hnext hgoes⟩
      rw [Nat.add_comm t 1, BitVec.ofNat_add, ← BitVec.add_assoc]
      rfl

end Runs

section Rounds

open Logged (silent note)

variable {log : List Access} {c nxt : U32} {n o s t : ℕ} {readRun : U32 → U32 → Walk Blob}

lemma mk_bind {α β : Type} (log : List Access) (a : α) (f : α → Walk β) :
    (⟨log, .ok a⟩ >>= f : Walk β) = ⟨log ++ (f a).log, (f a).outcome⟩ := rfl

variable (volume) in
/-- A way to read a run asks for its sectors one after another. -/
def ReadsRuns (readRun : U32 → U32 → Walk Blob) : Prop := ∀ c n, n < 2 ^ 32 →
  ∃ bytes, readRun c (BitVec.ofNat 32 n) = ⟨(consecutive c n).map (dataAccess volume), .ok bytes⟩

variable (disk volume) in
lemma readBlocksContiguous_log (c : U32) (n : ℕ) : ∃ bytes, readBlocksContiguous volume disk c n =
    ⟨(consecutive c n).map (dataAccess volume), .ok bytes⟩ :=
  ⟨_, congrArg (Logged.mk · _) (List.append_nil _)⟩

lemma readsRuns_toBuffer : ReadsRuns volume (readRunToBuffer volume disk) := by
  intro c n hn
  rw [readRunToBuffer, BitVec.toNat_ofNat, Nat.mod_eq_of_lt hn]
  exact readBlocksContiguous_log disk volume c n

lemma readRunBatches_log {rounds : ℕ} (hn : n ≤ rounds) (c : U32) : ∃ bytes, readRunBatches volume disk rounds c n =
    ⟨(consecutive c n).map (dataAccess volume), .ok bytes⟩ := by
  induction rounds generalizing c n with
  | zero =>
    obtain rfl : n = 0 := by omega
    exact ⟨[], rfl⟩
  | succ rounds ih =>
    rw [readRunBatches]
    by_cases hzero : n = 0
    · rw [if_pos hzero, hzero]
      exact ⟨[], rfl⟩
    · have hbatch : maxBatchSectors = 8 := rfl
      obtain ⟨first, hfirst⟩ := readBlocksContiguous_log disk volume c (min n maxBatchSectors)
      obtain ⟨rest, hrest⟩ := ih (n := n - min n maxBatchSectors) (by omega)
        (c + BitVec.ofNat 32 (min n maxBatchSectors))
      have hsplit : min n maxBatchSectors + (n - min n maxBatchSectors) = n := by omega
      refine ⟨first ++ rest, ?_⟩
      rw [if_neg hzero]
      simp only
      rw [hfirst, mk_bind, hrest, mk_bind, Logged.log_pure, List.append_nil, ← List.map_append,
        ← consecutive_add, hsplit]
      rfl

lemma readsRuns_toPhysical : ReadsRuns volume (readRunToPhysical volume disk) := by
  intro c n hn
  rw [readRunToPhysical, BitVec.toNat_ofNat, Nat.mod_eq_of_lt hn]
  exact readRunBatches_log le_rfl c

/-- A round of a range read: a run of clusters, each of them looked at, and the cluster behind it. -/
structure Round (disk : Disk) (volume : Fat32Volume) (c : U32) (t : ℕ) (nxt : U32) (log : List Access) : Prop where
  path : FilePath disk volume c (consecutive c (t + 1))
  visits : Visits volume log (consecutive c (t + 1))
  touches : Touches log (consecutive c (t + 1))
  behind : ∀ x ∈ (consecutive c (t + 1)).getLast?, Known volume x → nxt = fatEntry disk volume x

lemma CountedRun.round (h : CountedRun disk volume c t nxt log) :
    Round disk volume c t nxt (log ++ (consecutive c (t + 1)).map (dataAccess volume)) := by
  refine ⟨h.path, ⟨?_, ?_⟩, ?_, h.behind⟩
  · intro a ha
    rcases List.mem_append.mp ha with ha | ha
    · rw [h.log_eq] at ha
      exact visits_map (.inl rfl) _ a ha
    · exact visits_map (.inr rfl) _ a ha
  · rw [h.log_eq, List.length_append, List.length_map, List.length_map]
    omega
  · intro c' hc'
    obtain ⟨a, ha, heq⟩ := touches_map (f := dataAccess volume) (fun _ => rfl) _ c' hc'
    exact ⟨a, List.mem_append_right _ ha, heq⟩

variable (volume c) in
lemma visits_one (hlog : log = [dataAccess volume c] ∨ log = [dataAccess volume c, fatAccess volume c]) :
    Visits volume log [c] ∧ Touches log [c] := by
  rcases hlog with rfl | rfl
  · exact ⟨⟨visits_map (.inr rfl) [c], by simp⟩, touches_map (f := dataAccess volume) (fun _ => rfl) [c]⟩
  · exact ⟨⟨by simp, by simp⟩, by simp [Touches, dataAccess]⟩

lemma Round.one (hlog : log = [dataAccess volume c] ∨ log = [dataAccess volume c, fatAccess volume c])
    (hnext : Known volume c → nxt = fatEntry disk volume c) : Round disk volume c 0 nxt log := by
  obtain ⟨hvisits, htouches⟩ := visits_one volume c hlog
  rw [← consecutive_one] at hvisits htouches
  refine ⟨?_, hvisits, htouches, ?_⟩
  · rw [consecutive_one]
    exact FilePath.single c
  · rw [consecutive_one]
    intro x hx
    obtain rfl := Option.mem_some_iff.mp hx
    exact hnext

variable (disk volume) in
/-- What a round leaves to do. -/
def afterRound (readRun : U32 → U32 → Walk Blob) (early : String) (rounds n t rest : ℕ) (nxt : U32)
    (cache : FatCache disk) (log : List Access) (bytes : Blob) : Walk Blob :=
  if t = n then ⟨log, .ok bytes⟩
  else if FAT32_EOC_MIN ≤ nxt then ⟨log, failHard early⟩
  else note log >>= fun _ => readLoop volume readRun early rounds nxt 0#32 (BitVec.ofNat 32 rest) cache >>= fun rest =>
    pure (bytes ++ rest)

lemma readLoop_whole_round (hrun : ReadsRuns volume readRun) (early : String) (rounds : ℕ) (c : U32)
    (cache : FatCache disk) (hs : 512 ≤ s) (hlt : s < 2 ^ 32) :
    ∃ t nxt cache' log bytes, t ≤ (s - 1) / 512 ∧ Round disk volume c t nxt log ∧
      readLoop volume readRun early (rounds + 1) c 0 (BitVec.ofNat 32 s) cache =
        afterRound disk volume readRun early rounds ((s - 1) / 512) t (s - 512 * (t + 1)) nxt cache' log bytes := by
  have hshift : (BitVec.ofNat 32 s >>> 9).toNat = s / 512 := toNat_skip hlt
  obtain ⟨t, nxt, cache', log, ht, hcount, hcounted⟩ :=
    countContiguousFrom_run volume (s / 512 - 1) c 1 cache
  have hone : 1 + BitVec.ofNat 32 t = BitVec.ofNat 32 (t + 1) := by
    rw [Nat.add_comm, BitVec.ofNat_add]
    rfl
  obtain ⟨bytes, hbytes⟩ := hrun c (t + 1) (by omega)
  have hrest : BitVec.ofNat 32 s - BitVec.ofNat 32 (t + 1) * SD_BLOCK_SIZE = BitVec.ofNat 32 (s - 512 * (t + 1)) := by
    have hmul : BitVec.ofNat 32 ((t + 1) * 512) = BitVec.ofNat 32 (t + 1) * SD_BLOCK_SIZE := BitVec.ofNat_mul _ _
    rw [← hmul, BitVec.ofNat_sub_ofNat_of_le _ _ (by omega) (by omega), Nat.mul_comm 512]
  have hend : BitVec.ofNat 32 (s - 512 * (t + 1)) = 0 ↔ t = (s - 1) / 512 := by
    rw [ofNat_eq_zero (by omega)]
    omega
  refine ⟨t, nxt, cache', _, bytes, by omega, hcounted.round, ?_⟩
  rw [readLoop, if_neg (mt (ofNat_eq_zero hlt).mp (by omega)), if_pos ⟨rfl, (block_le hlt).mpr hs⟩,
    fat32CountContiguousSectors, hshift, hcount, hone, mk_bind]
  simp only
  rw [hbytes, mk_bind, hrest, afterRound]
  by_cases hall : t = (s - 1) / 512
  · rw [if_pos (hend.mpr hall), if_pos hall, Logged.log_pure, List.append_nil]
    rfl
  · rw [if_neg (mt hend.mp hall), if_neg hall]
    by_cases heoc : FAT32_EOC_MIN ≤ nxt
    · rw [if_pos heoc, if_pos heoc]
      exact congrArg (Logged.mk · _) (congrArg (log ++ ·) (List.append_nil _))
    · rw [if_neg heoc, if_neg heoc]
      exact congrArg (Logged.mk · _) (List.append_assoc _ _ _).symm

lemma readLoop_zero (volume : Fat32Volume) (readRun : U32 → U32 → Walk Blob) (early : String) (rounds : ℕ)
    (c offset : U32) (cache : FatCache disk) : readLoop volume readRun early rounds c offset 0#32 cache = pure [] := by
  cases rounds <;> rfl

lemma readLoop_part_round (readRun : U32 → U32 → Walk Blob) (early : String) (rounds : ℕ) (c : U32)
    (cache : FatCache disk) (ho : o < 512) (hs : 0 < s) (hlt : s < 2 ^ 32) (hwhole : ¬ (o = 0 ∧ 512 ≤ s)) :
    ∃ nxt cache' log bytes, Round disk volume c 0 nxt log ∧
      readLoop volume readRun early (rounds + 1) c (BitVec.ofNat 32 o) (BitVec.ofNat 32 s) cache =
        afterRound disk volume readRun early rounds ((o + s - 1) / 512) 0 (o + s - 512) nxt cache' log bytes := by
  have hpart : ¬ (BitVec.ofNat 32 o = 0 ∧ SD_BLOCK_SIZE ≤ BitVec.ofNat 32 s) := by
    rw [ofNat_eq_zero (by omega), block_le hlt]
    exact hwhole
  obtain ⟨chunk, hchunk⟩ : ∃ chunk, chunk = if BitVec.ofNat 32 s < SD_BLOCK_SIZE - BitVec.ofNat 32 o then
    BitVec.ofNat 32 s else SD_BLOCK_SIZE - BitVec.ofNat 32 o := ⟨_, rfl⟩
  have hchunkNat : chunk = BitVec.ofNat 32 (min s (512 - o)) := by
    have hleft : SD_BLOCK_SIZE - BitVec.ofNat 32 o = BitVec.ofNat 32 (512 - o) :=
      BitVec.ofNat_sub_ofNat_of_le _ _ (by omega) ho.le
    have hless : BitVec.ofNat 32 s < BitVec.ofNat 32 (512 - o) ↔ s < 512 - o := by
      rw [BitVec.lt_def, BitVec.toNat_ofNat, BitVec.toNat_ofNat, Nat.mod_eq_of_lt hlt, Nat.mod_eq_of_lt (by omega)]
    rw [hchunk, hleft]
    by_cases h : s < 512 - o
    · rw [if_pos (hless.mpr h), Nat.min_eq_left h.le]
    · rw [if_neg (mt hless.mp h), Nat.min_eq_right (by omega)]
  have hoffset : BitVec.ofNat 32 o + chunk = BitVec.ofNat 32 (o + min s (512 - o)) := by
    rw [hchunkNat, ← BitVec.ofNat_add]
  have hsize : BitVec.ofNat 32 s - chunk = BitVec.ofNat 32 (s - min s (512 - o)) := by
    rw [hchunkNat, BitVec.ofNat_sub_ofNat_of_le _ _ (by omega) (Nat.min_le_left _ _)]
  have hbehind : SD_BLOCK_SIZE ≤ BitVec.ofNat 32 (o + min s (512 - o)) ∧ BitVec.ofNat 32 (s - min s (512 - o)) ≠ 0 ↔
      (o + s - 1) / 512 ≠ 0 := by
    rw [block_le (by omega), ne_eq, ofNat_eq_zero (by omega)]
    omega
  rw [readLoop, if_neg (mt (ofNat_eq_zero hlt).mp (by omega)), if_neg hpart]
  simp only
  rw [← hchunk, hoffset, hsize, note, mk_bind]
  by_cases hend : (o + s - 1) / 512 = 0
  · have hnone : s - min s (512 - o) = 0 := by omega
    refine ⟨fatEntry disk volume c, cache, _, part (disk (clusterToLba volume c)) (BitVec.ofNat 32 o).toNat chunk.toNat,
      Round.one (.inl rfl) fun _ => rfl, ?_⟩
    rw [if_neg (mt hbehind.mp (not_not_intro hend)), afterRound, if_pos hend.symm, hnone]
    rw [readLoop_zero]
    exact congrArg (Logged.mk _) (congrArg Except.ok (List.append_nil _))
  · have hrest : s - min s (512 - o) = o + s - 512 := by omega
    refine ⟨(Boot.fat32NextCluster volume cache c).1, (Boot.fat32NextCluster volume cache c).2, _,
      part (disk (clusterToLba volume c)) (BitVec.ofNat 32 o).toNat chunk.toNat,
      Round.one (.inr rfl) (nextCluster_fst cache), ?_⟩
    rw [if_pos (hbehind.mpr hend), nextCluster_bind, afterRound, if_neg (Ne.symm hend), hrest]
    by_cases heoc : FAT32_EOC_MIN ≤ (Boot.fat32NextCluster volume cache c).1
    · rw [if_pos heoc, if_pos heoc]
      rfl
    · rw [if_neg heoc, if_neg heoc]
      rfl

lemma readLoop_round (hrun : ReadsRuns volume readRun) (early : String) (rounds : ℕ) (c : U32) (cache : FatCache disk)
    (ho : o < 512) (hs : 0 < s) (hlt : s < 2 ^ 32) :
    ∃ t nxt cache' log bytes, t ≤ (o + s - 1) / 512 ∧ Round disk volume c t nxt log ∧
      readLoop volume readRun early (rounds + 1) c (BitVec.ofNat 32 o) (BitVec.ofNat 32 s) cache =
        afterRound disk volume readRun early rounds ((o + s - 1) / 512) t (o + s - 512 * (t + 1)) nxt cache' log bytes := by
  by_cases hwhole : o = 0 ∧ 512 ≤ s
  · obtain ⟨rfl, hfull⟩ := hwhole
    rw [Nat.zero_add]
    exact readLoop_whole_round hrun early rounds c cache hfull hlt
  · obtain ⟨nxt, cache', log, bytes, hround, hloop⟩ := readLoop_part_round readRun early rounds c cache ho hs hlt hwhole
    exact ⟨0, nxt, cache', log, bytes, Nat.zero_le _, hround, hloop⟩

end Rounds

section Ranges

open Logged (silent note)

variable {log more : List Access} {path rest : List U32} {c : U32} {n o s : ℕ} {readRun : U32 → U32 → Walk Blob}

variable (disk volume) in
/-- A walk that meets the end of the chain before it has taken so many links. -/
structure CutShort (n : ℕ) (path : List U32) (log : List Access) : Prop where
  nonempty : path ≠ []
  short : path.length ≤ n
  touches : Touches log path
  ended : ∀ x ∈ path.getLast?, Known volume x → FAT32_EOC_MIN ≤ fatEntry disk volume x

/-- How a walk over so many links comes out: behind the last of them, or cut short. -/
structure Walks (disk : Disk) (volume : Fat32Volume) (start : U32) (n : ℕ) (path : List U32) (w : Walk Blob) : Prop where
  walked : FilePath disk volume start path
  visits : Visits volume w.log path
  comesOut : (∃ bytes, w.outcome = .ok bytes) ∧ path.length = n + 1 ∨
    (∃ message, w.outcome = failHard message) ∧ CutShort disk volume n path w.log

lemma Walks.nonempty {w : Walk Blob} (h : Walks disk volume c n path w) : path ≠ [] := by
  rcases h.comesOut with ⟨-, hlength⟩ | ⟨-, hcut⟩
  · exact List.ne_nil_of_length_pos (by omega)
  · exact hcut.nonempty

lemma CutShort.after (h : CutShort disk volume n rest more) (htouches : Touches log path) :
    CutShort disk volume (path.length + n) (path ++ rest) (log ++ more) := by
  have hshort := h.short
  refine ⟨List.append_ne_nil_of_right_ne_nil _ h.nonempty, ?_, htouches.append h.touches, ?_⟩
  · rw [List.length_append]
    omega
  · rw [List.getLast?_append_of_ne_nil _ h.nonempty]
    exact h.ended

lemma Walks.after {w w' : Walk Blob} {x : U32} (h : Walks disk volume x n rest w)
    (hwalked : FilePath disk volume c (path ++ [x])) (hvisits : Visits volume log path) (htouches : Touches log path)
    (hlog : w'.log = log ++ w.log) (hok : ∀ bytes, w.outcome = .ok bytes → ∃ bytes', w'.outcome = .ok bytes')
    (hfail : ∀ message, w.outcome = failHard message → w'.outcome = failHard message) :
    Walks disk volume c (path.length + n) (path ++ rest) w' := by
  refine ⟨hwalked.append h.walked h.nonempty, ?_, ?_⟩
  · rw [hlog]
    exact hvisits.append h.visits
  · rcases h.comesOut with ⟨⟨bytes, hbytes⟩, hlength⟩ | ⟨⟨message, hmessage⟩, hcut⟩
    · left
      refine ⟨hok bytes hbytes, ?_⟩
      rw [List.length_append]
      omega
    · right
      refine ⟨⟨message, hfail message hmessage⟩, ?_⟩
      rw [hlog]
      exact hcut.after htouches

lemma ne_nil_consecutive (c : U32) (n : ℕ) : consecutive c (n + 1) ≠ [] := by
  rw [consecutive_succ]
  exact List.cons_ne_nil _ _

/-- The induction is on the rounds, each of which reads a run of clusters. -/
lemma readLoop_walks (hrun : ReadsRuns volume readRun) (early : String) {rounds : ℕ} (hrounds : s ≤ rounds) (c : U32)
    (cache : FatCache disk) (ho : o < 512) (hlt : s < 2 ^ 32) : ∃ path, Walks disk volume c ((o + s - 1) / 512) path
      (readLoop volume readRun early rounds c (BitVec.ofNat 32 o) (BitVec.ofNat 32 s) cache) := by
  by_cases hs : s = 0
  · refine ⟨[c], FilePath.single c, ?_, ?_⟩
    · rw [hs, readLoop_zero]
      exact ⟨(fun a ha => by cases ha), Nat.zero_le _⟩
    · rw [hs, readLoop_zero]
      exact .inl ⟨⟨[], rfl⟩, by rw [List.length_singleton]; omega⟩
  induction rounds generalizing c o s cache with
  | zero => omega
  | succ rounds ih =>
    obtain ⟨t, nxt, cache', log, bytes, ht, hround, hloop⟩ :=
      readLoop_round hrun early rounds c cache ho (Nat.pos_of_ne_zero hs) hlt
    rw [hloop, afterRound]
    by_cases hend : t = (o + s - 1) / 512
    · rw [if_pos hend]
      refine ⟨_, hround.path, hround.visits, .inl ⟨⟨bytes, rfl⟩, ?_⟩⟩
      rw [length_consecutive, hend]
    · rw [if_neg hend]
      by_cases heoc : FAT32_EOC_MIN ≤ nxt
      · rw [if_pos heoc]
        refine ⟨_, hround.path, hround.visits, .inr ⟨⟨early, rfl⟩, ne_nil_consecutive c t, ?_, hround.touches, ?_⟩⟩
        · rw [length_consecutive]
          omega
        · intro x hx hknown
          rw [← hround.behind x hx hknown]
          exact heoc
      · rw [if_neg heoc]
        obtain ⟨rest, hrest⟩ := @ih 0 (o + s - 512 * (t + 1)) (by omega) nxt cache' (by omega) (by omega) (by omega)
        have hlinks : (consecutive c (t + 1)).length + (0 + (o + s - 512 * (t + 1)) - 1) / 512 = (o + s - 1) / 512 := by
          rw [length_consecutive]
          omega
        rw [← hlinks]
        refine ⟨consecutive c (t + 1) ++ rest, hrest.after (hround.path.snoc (ne_nil_consecutive c t) fun x hx =>
          ⟨hround.behind x hx, heoc⟩) hround.visits hround.touches ?_ ?_ ?_⟩
        · exact congrArg (log ++ ·) (Logged.log_bind_pure _ _)
        · intro bytes' hbytes
          refine ⟨bytes ++ bytes', ?_⟩
          rw [note, mk_bind, Logged.bind_of_ok hbytes]
          rfl
        · intro message hmessage
          rw [note, mk_bind, Logged.bind_of_error hmessage]
          rfl

variable (volume) in
lemma skipClusters_walks (exceeds : String) (n : ℕ) (c : U32) (cache : FatCache disk) :
    ∃ path log, Visits volume log path ∧ ((∃ c' cache', skipClusters volume exceeds n c cache = ⟨log, .ok (c', cache')⟩ ∧
        FilePath disk volume c (path ++ [c']) ∧ path.length = n ∧ Touches log path) ∨
      skipClusters volume exceeds n c cache = ⟨log, failHard exceeds⟩ ∧ FilePath disk volume c path ∧
        CutShort disk volume n path log) := by
  induction n generalizing c cache with
  | zero =>
    exact ⟨[], [], ⟨(fun a ha => by cases ha), le_rfl⟩,
      .inl ⟨c, cache, rfl, FilePath.single c, rfl, fun a ha => by cases ha⟩⟩
  | succ n ih =>
    have hnext : Known volume c → _ := nextCluster_fst cache
    have hfirst : Visits volume [fatAccess volume c] [c] :=
      ⟨visits_map (.inl rfl) [c], by rw [List.length_singleton, List.length_singleton]; omega⟩
    have htouch : Touches [fatAccess volume c] [c] := touches_map (f := fatAccess volume) (fun _ => rfl) [c]
    rw [skipClusters, nextCluster_bind]
    generalize Boot.fat32NextCluster volume cache c = r at hnext
    by_cases heoc : FAT32_EOC_MIN ≤ r.1
    · rw [if_pos heoc]
      refine ⟨[c], [fatAccess volume c], hfirst, .inr ⟨rfl, FilePath.single c, List.cons_ne_nil _ _, ?_, htouch, ?_⟩⟩
      · rw [List.length_singleton]
        omega
      · intro x hx hknown
        obtain rfl : c = x := Option.mem_some_iff.mp hx
        rw [← hnext hknown]
        exact heoc
    · rw [if_neg heoc]
      have hlink : (Known volume c → r.1 = fatEntry disk volume c) ∧ ¬ FAT32_EOC_MIN ≤ r.1 := ⟨hnext, heoc⟩
      obtain ⟨path, log, hvisits, hskip⟩ := ih r.1 r.2
      refine ⟨[c] ++ path, [fatAccess volume c] ++ log, hfirst.append hvisits, ?_⟩
      rcases hskip with ⟨c', cache', heq, hwalked, hlength, htouches⟩ | ⟨heq, hwalked, hcut⟩
      · left
        rw [heq]
        exact ⟨c', cache', rfl, hwalked.cons hlink, by rw [List.length_append, List.length_singleton]; omega,
          htouch.append htouches⟩
      · right
        rw [heq]
        have hafter := hcut.after htouch
        rw [List.length_singleton, Nat.add_comm] at hafter
        exact ⟨rfl, hwalked.cons hlink, hafter⟩

/-- The links that a range needs. -/
def linksOf (offset size : ℕ) : ℕ := offset / 512 + (offset % 512 + size - 1) / 512

lemma readFileRange_walks (hrun : ReadsRuns volume readRun) (exceeds early : String) (file : Stage0FileInfo)
    (offset size : U32) (cache : FatCache disk) :
    ∃ path, Walks disk volume file.firstCluster (linksOf offset.toNat size.toNat) path
      (readFileRange volume readRun exceeds early file offset size cache) := by
  have hskip : (offset >>> 9).toNat = offset.toNat / 512 := by
    rw [BitVec.toNat_ushiftRight, Nat.shiftRight_eq_div_pow]
  have hoffset : offset &&& (SD_BLOCK_SIZE - 1) = BitVec.ofNat 32 (offset.toNat % 512) := by
    rw [← offset_in_sector, BitVec.ofNat_toNat, BitVec.setWidth_eq]
  have hsize : size = BitVec.ofNat 32 size.toNat := by rw [BitVec.ofNat_toNat, BitVec.setWidth_eq]
  rw [readFileRange, hskip, hoffset]
  obtain ⟨path, log, hvisits, ⟨c', cache', heq, hwalked, hlength, htouches⟩ | ⟨heq, hwalked, hcut⟩⟩ :=
    skipClusters_walks volume exceeds (offset.toNat / 512) file.firstCluster cache
  · obtain ⟨rest, hrest⟩ := readLoop_walks hrun early (le_refl size.toNat) c' cache'
      (Nat.mod_lt offset.toNat (by decide)) size.isLt
    refine ⟨path ++ rest, ?_⟩
    rw [heq, mk_bind, linksOf, ← hlength]
    rw [← hsize] at hrest
    exact hrest.after hwalked hvisits htouches rfl (fun bytes hbytes => ⟨bytes, hbytes⟩) fun _ hmessage => hmessage
  · refine ⟨path, ?_⟩
    rw [heq]
    have hshort := hcut.short
    exact ⟨hwalked, hvisits, .inr ⟨⟨exceeds, rfl⟩, hcut.nonempty, by rw [linksOf]; omega, hcut.touches, hcut.ended⟩⟩

end Ranges

section Lookups

open Logged (silent note)

variable {shortName : Blob} {path : List U32} {c : U32}

variable (disk volume shortName) in
/-- The sector of the cluster settles the lookup: it has the file, or the end of the directory. -/
def Decides (cluster : U32) : Prop := findInSector shortName (disk (clusterToLba volume cluster)) 16 0 ≠ .ok none

/-- How a lookup comes out: settled by the last cluster of its path, at the end of the chain, or out of its rounds. -/
structure Looks (disk : Disk) (volume : Fat32Volume) (shortName : Blob) (start : U32) (rounds : ℕ) (path : List U32)
    (w : Walk Stage0FileInfo) : Prop where
  walked : Walked (fatEntry disk volume) start (Known volume)
    (fun c c' => ¬ Decides disk volume shortName c ∧ ¬ FAT32_EOC_MIN ≤ c') path
  going : ∀ c ∈ path.head?, ¬ FAT32_EOC_MIN ≤ c
  visits : Visits volume w.log path
  touches : Touches w.log path
  comesOut : (∃ c ∈ path.getLast?, Decides disk volume shortName c) ∧ w.outcome ≠ .error .unfinished ∨
    (∃ message, w.outcome = failHard message) ∧ (path = [] → FAT32_EOC_MIN ≤ start) ∧
      (∀ c ∈ path.getLast?, ¬ Decides disk volume shortName c ∧
        (Known volume c → FAT32_EOC_MIN ≤ fatEntry disk volume c)) ∨
    w.outcome = .error .unfinished ∧ path.length = rounds

lemma findInSector_finishes (shortName sector : Blob) (entries offset : ℕ) :
    findInSector shortName sector entries offset ≠ .error .unfinished := by
  induction entries generalizing offset with
  | zero => exact fun h => by cases h
  | succ entries ih =>
    rw [findInSector]
    simp only
    split
    · exact fun h => by cases h
    split
    · split
      · exact fun h => by cases h
      · exact fun h => by cases h
    · exact ih _

lemma findInCluster_one (disk : Disk) (shortName : Blob) (cluster lba : U32) :
    findInCluster disk shortName cluster 1 lba = ⟨[⟨cluster, lba⟩], findInSector shortName (disk lba) 16 0⟩ := by
  rw [findInCluster, note, mk_bind]
  cases hfound : findInSector shortName (disk lba) 16 0 with
  | error e => rfl
  | ok found =>
    cases found with
    | none => rfl
    | some file => rfl

lemma Looks.after {w : Walk Stage0FileInfo} {rounds : ℕ} {nxt : U32} (h : Looks disk volume shortName nxt rounds path w)
    (hnext : Known volume c → nxt = fatEntry disk volume c) (hopen : ¬ Decides disk volume shortName c)
    (hgoing : ¬ FAT32_EOC_MIN ≤ c) : Looks disk volume shortName c (rounds + 1) (c :: path)
      ⟨[dataAccess volume c, fatAccess volume c] ++ w.log, w.outcome⟩ := by
  obtain ⟨hvisits, htouches⟩ := visits_one volume c (.inr rfl)
  refine ⟨?_, ?_, hvisits.append h.visits, htouches.append h.touches, ?_⟩
  · cases path with
    | nil => exact ⟨fun _ hx => (Option.mem_some_iff.mp hx).symm, .singleton c⟩
    | cons x path =>
      obtain rfl : x = nxt := h.walked.first x rfl
      exact h.walked.cons ⟨hnext, hopen, h.going x rfl⟩
  · intro x hx
    obtain rfl : c = x := Option.mem_some_iff.mp hx
    exact hgoing
  · have hlast (hne : path ≠ []) : (c :: path).getLast? = path.getLast? := List.getLast?_cons_of_ne_nil hne
    rcases h.comesOut with ⟨⟨x, hx, hdecides⟩, houtcome⟩ | ⟨hmessage, hempty, hended⟩ | ⟨houtcome, hlength⟩
    · have hne : path ≠ [] := by
        rintro rfl
        cases hx
      exact .inl ⟨⟨x, (hlast hne).symm ▸ hx, hdecides⟩, houtcome⟩
    · refine .inr (.inl ⟨hmessage, (fun h => by cases h), fun x hx => ?_⟩)
      by_cases hne : path = []
      · subst hne
        obtain rfl : c = x := Option.mem_some_iff.mp hx
        exact ⟨hopen, fun hknown => hnext hknown ▸ hempty rfl⟩
      · rw [hlast hne] at hx
        exact hended x hx
    · exact .inr (.inr ⟨houtcome, congrArg (· + 1) hlength⟩)

lemma locateRootFileFrom_looks (h : Opened disk volume) (shortName : Blob) (rounds : ℕ) (c : U32)
    (cache : FatCache disk) : ∃ path, Looks disk volume shortName c rounds path (locateRootFileFrom volume shortName rounds c cache) := by
  induction rounds generalizing c cache with
  | zero =>
    refine ⟨[], ⟨(fun x hx => by cases hx), .nil⟩, (fun x hx => by cases hx), ⟨(fun a ha => by cases ha), le_rfl⟩,
      (fun x hx => by cases hx), .inr (.inr ⟨rfl, rfl⟩)⟩
  | succ rounds ih =>
    rw [locateRootFileFrom]
    by_cases heoc : FAT32_EOC_MIN ≤ c
    · rw [if_pos heoc]
      exact ⟨[], ⟨(fun x hx => by cases hx), .nil⟩, (fun x hx => by cases hx), ⟨(fun a ha => by cases ha), le_rfl⟩,
        (fun x hx => by cases hx), .inr (.inl ⟨⟨_, rfl⟩, fun _ => heoc, fun x hx => by cases hx⟩)⟩
    · have hone : volume.sectorsPerCluster.toNat = 1 := by rw [h.oneSector]; rfl
      rw [if_neg heoc, hone, findInCluster_one]
      by_cases hdecides : Decides disk volume shortName c
      · obtain ⟨hvisits, htouches⟩ := visits_one volume c (.inl rfl)
        have hfinishes := findInSector_finishes shortName (disk (clusterToLba volume c)) 16 0
        refine ⟨[c], ?_⟩
        have hlooks {x : Stage0 Stage0FileInfo} (hx : x ≠ .error .unfinished) :
            Looks disk volume shortName c (rounds + 1) [c] ⟨[dataAccess volume c], x⟩ := by
          refine ⟨⟨fun _ hx => (Option.mem_some_iff.mp hx).symm, .singleton c⟩, fun y hy => ?_, hvisits, htouches,
            .inl ⟨⟨c, rfl, hdecides⟩, hx⟩⟩
          obtain rfl : c = y := Option.mem_some_iff.mp hy
          exact heoc
        cases hfound : findInSector shortName (disk (clusterToLba volume c)) 16 0 with
        | error e =>
          rw [hfound] at hfinishes
          exact hlooks fun h => hfinishes (congrArg Except.error (Except.error.inj h))
        | ok found =>
          cases found with
          | none => exact absurd hfound hdecides
          | some file => exact hlooks fun h => by cases h
      · have hnone := not_not.mp hdecides
        obtain ⟨path, hlooks⟩ := ih (Boot.fat32NextCluster volume cache c).1 (Boot.fat32NextCluster volume cache c).2
        refine ⟨c :: path, ?_⟩
        rw [hnone, mk_bind]
        exact hlooks.after (nextCluster_fst cache) hdecides heoc

end Lookups

end Little64.Boot.Walk

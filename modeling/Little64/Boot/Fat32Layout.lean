import Little64.Boot.Fat32Image

/-! Where the boot partition builder puts its files: the chains in the allocation table and the blocks of the data area. -/

namespace Little64.Boot

open CheckedAccess LittleEndian ByteFile PatchedImage
open Placement (Block)

variable {card : CardLayout} {files : List FileSpec} {file : FileSpec} {c k n next : ℕ} {payload : Blob}

section Steps

lemma packU32_eq_ok {value : ℕ} {bytes : Blob} :
    packU32 value = .ok bytes ↔ value < 2 ^ 32 ∧ u32Bytes value = bytes := by
  rw [packU32]
  split
  · refine iff_of_false (fun h => by cases h) fun h => absurd h.1 ?_
    omega
  · rw [and_iff_right (by omega)]
    exact ⟨fun h => Except.ok.inj h, fun h => congrArg Except.ok h⟩

lemma packU32_bind_eq_ok {α : Type} {value : ℕ} {f : Blob → Build α} {a : α} :
    packU32 value >>= f = .ok a ↔ value < 2 ^ 32 ∧ f (u32Bytes value) = .ok a := by
  rw [bind_eq_ok]
  constructor
  · rintro ⟨bytes, hbytes, h⟩
    obtain ⟨hlt, rfl⟩ := packU32_eq_ok.1 hbytes
    exact ⟨hlt, h⟩
  · rintro ⟨hlt, h⟩
    exact ⟨u32Bytes value, packU32_eq_ok.2 ⟨hlt, rfl⟩, h⟩

lemma mapM_ok {α β : Type} {f : α → Build β} {g : α → β} {l : List α} (h : ∀ a ∈ l, f a = .ok (g a)) :
    l.mapM f = .ok (l.map g) := by
  induction l with
  | nil => rfl
  | cons a l ih =>
    rw [List.mapM_cons, h a List.mem_cons_self, ih fun b hb => h b (List.mem_cons_of_mem _ hb)]
    rfl

section Sizes

variable {totalSectors reservedSectors numFats sectorsPerCluster rounds fat fatSectors : ℕ} {count : ℤ}

/-- The clusters left beside a table of some sectors, and the sectors that their entries need. -/
def clustersBeside (totalSectors reservedSectors numFats sectorsPerCluster fat : ℕ) : ℤ :=
  ((totalSectors : ℤ) - reservedSectors - numFats * fat) / sectorsPerCluster

def requiredSectors (clusterCount : ℤ) : ℤ := ((clusterCount + 2) * 4 + SECTOR_SIZE - 1) / SECTOR_SIZE

lemma fatSizeLoop_succ (rounds : ℕ) : fatSizeLoop totalSectors reservedSectors numFats sectorsPerCluster (rounds + 1) fat =
    if requiredSectors (clustersBeside totalSectors reservedSectors numFats sectorsPerCluster fat) ≤ fat then
      some (fat, clustersBeside totalSectors reservedSectors numFats sectorsPerCluster fat)
    else fatSizeLoop totalSectors reservedSectors numFats sectorsPerCluster rounds
      (requiredSectors (clustersBeside totalSectors reservedSectors numFats sectorsPerCluster fat)).toNat := rfl

/-- The table has room for the entries of all clusters, and the partition for the clusters. -/
lemma fatSizeLoop_spec (hfat : 1 ≤ fat)
    (h : fatSizeLoop totalSectors reservedSectors numFats sectorsPerCluster rounds fat = some (fatSectors, count)) :
    1 ≤ fatSectors ∧ count = clustersBeside totalSectors reservedSectors numFats sectorsPerCluster fatSectors ∧
      (count + 2) * 4 ≤ 512 * fatSectors := by
  induction rounds generalizing fat with
  | zero => cases h
  | succ rounds ih =>
    rw [fatSizeLoop_succ] at h
    by_cases hrequired : requiredSectors
        (clustersBeside totalSectors reservedSectors numFats sectorsPerCluster fat) ≤ fat
    · rw [if_pos hrequired] at h
      obtain ⟨rfl, rfl⟩ := Prod.mk.inj (Option.some.inj h)
      have hsector : (SECTOR_SIZE : ℤ) = 512 := rfl
      rw [requiredSectors, hsector] at hrequired
      refine ⟨hfat, rfl, ?_⟩
      omega
    · rw [if_neg hrequired] at h
      apply ih _ h
      omega

lemma requiredSectors_mono {count count' : ℤ} (h : count ≤ count') : requiredSectors count ≤ requiredSectors count' := by
  rw [requiredSectors, requiredSectors]
  apply Int.ediv_le_ediv (by decide)
  omega

lemma clustersBeside_anti {fat' : ℕ} (h : fat ≤ fat') :
    clustersBeside totalSectors reservedSectors numFats sectorsPerCluster fat' ≤
      clustersBeside totalSectors reservedSectors numFats sectorsPerCluster fat := by
  have hmul : (numFats : ℤ) * fat ≤ numFats * fat' := by
    exact_mod_cast Nat.mul_le_mul_left numFats h
  rw [clustersBeside, clustersBeside]
  rcases Nat.eq_zero_or_pos sectorsPerCluster with hzero | hpos
  · rw [hzero, Nat.cast_zero, Int.ediv_zero, Int.ediv_zero]
  · apply Int.ediv_le_ediv (by exact_mod_cast hpos)
    omega

/-- A larger table leaves fewer clusters, so that the size asked for in the first round is enough in the second. -/
lemma fatSizeLoop_two (rounds : ℕ) :
    fatSizeLoop totalSectors reservedSectors numFats sectorsPerCluster (rounds + 2) 1 =
      fatSizeSectors totalSectors reservedSectors numFats sectorsPerCluster ∧
    fatSizeSectors totalSectors reservedSectors numFats sectorsPerCluster ≠ none := by
  rw [fatSizeSectors, fatSizeLoop_succ, fatSizeLoop_succ 1]
  by_cases hfirst : requiredSectors
      (clustersBeside totalSectors reservedSectors numFats sectorsPerCluster 1) ≤ (1 : ℕ)
  · rw [if_pos hfirst, if_pos hfirst]
    exact ⟨rfl, nofun⟩
  · have hone : 1 ≤ (requiredSectors
        (clustersBeside totalSectors reservedSectors numFats sectorsPerCluster 1)).toNat := by omega
    have hsecond := requiredSectors_mono (clustersBeside_anti hone : clustersBeside totalSectors reservedSectors numFats
      sectorsPerCluster _ ≤ clustersBeside totalSectors reservedSectors numFats sectorsPerCluster 1)
    have henough : requiredSectors (clustersBeside totalSectors reservedSectors numFats sectorsPerCluster
        (requiredSectors (clustersBeside totalSectors reservedSectors numFats sectorsPerCluster 1)).toNat) ≤
        (requiredSectors (clustersBeside totalSectors reservedSectors numFats sectorsPerCluster 1)).toNat := by
      omega
    rw [if_neg hfirst, if_neg hfirst, fatSizeLoop_succ, fatSizeLoop_succ, if_pos henough, if_pos henough]
    exact ⟨rfl, nofun⟩

end Sizes

end Steps

section Chains

lemma chainFile_apply (entries : ℕ → ℕ) (file : FileSpec) (c : ℕ) : chainFile entries file c =
    if file.layout.firstCluster ≤ c ∧ c < file.layout.firstCluster + file.clusters then
      if c + 1 = file.layout.firstCluster + file.clusters then 0x0FFFFFFF else c + 1
    else entries c := by
  have hfold : ∀ m ≤ file.clusters,
      (List.range m).foldl (fun entries index =>
        Function.update entries (file.layout.firstCluster + index)
          (if index = file.clusters - 1 then 0x0FFFFFFF else file.layout.firstCluster + index + 1)) entries c =
      if file.layout.firstCluster ≤ c ∧ c < file.layout.firstCluster + m then
        if c + 1 = file.layout.firstCluster + file.clusters then 0x0FFFFFFF else c + 1
      else entries c := by
    intro m hm
    induction m with
    | zero =>
      rw [if_neg (by omega)]
      rfl
    | succ m ih =>
      rw [List.range_succ, List.foldl_append, List.foldl_cons, List.foldl_nil, Function.update_apply, ih (by omega)]
      by_cases hc : c = file.layout.firstCluster + m
      · have hin : file.layout.firstCluster ≤ c ∧ c < file.layout.firstCluster + (m + 1) := by omega
        rw [if_pos hc, if_pos hin]
        by_cases hlast : m = file.clusters - 1
        · rw [if_pos hlast, if_pos (by omega)]
        · rw [if_neg hlast, if_neg (by omega), hc]
      · rw [if_neg hc]
        by_cases hin : file.layout.firstCluster ≤ c ∧ c < file.layout.firstCluster + m
        · have hin' : file.layout.firstCluster ≤ c ∧ c < file.layout.firstCluster + (m + 1) := by omega
          rw [if_pos hin, if_pos hin']
        · have hout : ¬ (file.layout.firstCluster ≤ c ∧ c < file.layout.firstCluster + (m + 1)) := by omega
          rw [if_neg hin, if_neg hout]
  exact hfold file.clusters le_rfl

lemma foldl_chainFile_outside {entries : ℕ → ℕ} (h : ∀ file ∈ files, c < file.layout.firstCluster) :
    files.foldl chainFile entries c = entries c := by
  induction files generalizing entries with
  | nil => rfl
  | cons file files ih =>
    have hfile := h file List.mem_cons_self
    rw [List.foldl_cons, ih fun f hf => h f (List.mem_cons_of_mem _ hf), chainFile_apply, if_neg (by omega)]

end Chains

section Specs

/-- What is known of a file among files placed from a cluster on. -/
structure Placed (card : CardLayout) (next total : ℕ) (payloads : List FilePayload) (file : FileSpec) : Prop where
  start : next ≤ file.layout.firstCluster
  stop : file.layout.firstCluster + file.clusters ≤ next + total
  clusters : file.clusters = max 1 (ceilDiv file.payload.length (clusterSize card))
  size : file.layout.size = file.payload.length
  source : ⟨file.layout.shortName, file.payload, file.longName⟩ ∈ payloads

variable {payloads : List FilePayload}

lemma placed_of_mem (h : file ∈ fileSpecs card next payloads) :
    Placed card next ((fileSpecs card next payloads).map FileSpec.clusters).sum payloads file := by
  induction payloads generalizing next with
  | nil => exact absurd h List.not_mem_nil
  | cons p payloads ih =>
    rw [fileSpecs] at h ⊢
    simp only [List.map_cons, List.sum_cons]
    rcases List.mem_cons.1 h with rfl | h
    · refine ⟨le_rfl, ?_, rfl, rfl, List.mem_cons_self⟩
      simp only
      omega
    · have hp := ih h
      refine ⟨?_, ?_, hp.clusters, hp.size, List.mem_cons_of_mem _ hp.source⟩
      · exact (Nat.le_add_right _ _).trans hp.start
      · exact hp.stop.trans (by rw [Nat.add_assoc])

/-- Each file starts behind the clusters of those before it. -/
lemma fileSpecs_apart (next : ℕ) (payloads : List FilePayload) : (fileSpecs card next payloads).Pairwise fun file file' =>
    file.layout.firstCluster + file.clusters ≤ file'.layout.firstCluster := by
  induction payloads generalizing next with
  | nil => exact List.Pairwise.nil
  | cons p payloads ih =>
    rw [fileSpecs]
    apply List.Pairwise.cons _ (ih _)
    intro file' hfile'
    exact (placed_of_mem hfile').start

/-- The chain of each file is its own. -/
lemma chain_of_mem (entries : ℕ → ℕ) (h : file ∈ fileSpecs card next payloads)
    (hc : file.layout.firstCluster ≤ c ∧ c < file.layout.firstCluster + file.clusters) :
    (fileSpecs card next payloads).foldl chainFile entries c =
      if c + 1 = file.layout.firstCluster + file.clusters then 0x0FFFFFFF else c + 1 := by
  induction payloads generalizing next entries with
  | nil => exact absurd h List.not_mem_nil
  | cons p payloads ih =>
    rw [fileSpecs] at h ⊢
    simp only [List.foldl_cons]
    rcases List.mem_cons.1 h with rfl | h
    · rw [foldl_chainFile_outside, chainFile_apply, if_pos hc]
      intro f hf
      have hstart := (placed_of_mem hf).start
      simp only at hc
      omega
    · exact ih _ h

end Specs

section Blocks

/-- The blocks of a file in the data area. -/
def fileBlocks (card : CardLayout) (firstDataSector : ℕ) (file : FileSpec) : List Block :=
  (List.range (ceilDiv file.payload.length (clusterSize card))).map fun k =>
    ⟨512 * firstDataSector + clusterSize card * (file.layout.firstCluster - 2) + clusterSize card * k,
      part file.payload (clusterSize card * k) (clusterSize card)⟩

lemma ceilDiv_le_iff {value divisor : ℕ} (hpos : 0 < divisor) : ceilDiv value divisor ≤ k ↔ value ≤ divisor * k := by
  rw [ceilDiv, Nat.div_le_iff_le_mul_add_pred hpos]
  omega

variable (hspc : 1 ≤ card.sectorsPerCluster)

include hspc

lemma clusterSize_pos : 0 < clusterSize card := Nat.mul_pos hspc (by decide)

lemma writeFile_eq {entries : ℕ → ℕ} {firstDataSector first rounds : ℕ} (hfirst : 2 ≤ first)
    (hchain : ∀ k, k + 1 < ceilDiv payload.length (clusterSize card) → entries (first + k) = first + k + 1)
    (hbound : first + ceilDiv payload.length (clusterSize card) < 0x0FFFFFF8)
    (hrounds : ceilDiv payload.length (clusterSize card) - k ≤ rounds) :
    writeFile card entries firstDataSector rounds (first + k) (payload.drop (clusterSize card * k)) =
      .ok ((List.range (ceilDiv payload.length (clusterSize card) - k)).map fun j =>
        ⟨512 * firstDataSector + clusterSize card * (first - 2) + clusterSize card * (k + j),
          part payload (clusterSize card * (k + j)) (clusterSize card)⟩) := by
  have hpos := clusterSize_pos hspc
  have hempty : ∀ k, payload.drop (clusterSize card * k) = [] ↔ ceilDiv payload.length (clusterSize card) ≤ k :=
    fun k => by rw [List.drop_eq_nil_iff, ceilDiv_le_iff hpos]
  induction rounds generalizing k with
  | zero =>
    have hnone : ceilDiv payload.length (clusterSize card) - k = 0 := by omega
    rw [hnone]
    rfl
  | succ rounds ih =>
    rw [writeFile]
    by_cases hrest : ceilDiv payload.length (clusterSize card) ≤ k
    · rw [if_pos ((hempty k).2 hrest), Nat.sub_eq_zero_of_le hrest]
      rfl
    rw [if_neg (mt (hempty k).1 hrest)]
    have hbase : (firstDataSector + (first + k - 2) * card.sectorsPerCluster) * SECTOR_SIZE =
        512 * firstDataSector + clusterSize card * (first - 2) + clusterSize card * (k + 0) := by
      have hcluster : first + k - 2 = (first - 2) + k := by omega
      rw [hcluster, clusterSize, SECTOR_SIZE]
      ring
    have hdrop : (payload.drop (clusterSize card * k)).drop (clusterSize card) =
        payload.drop (clusterSize card * (k + 1)) := by
      rw [List.drop_drop]
      rfl
    have hsucc : ceilDiv payload.length (clusterSize card) - k =
        ceilDiv payload.length (clusterSize card) - (k + 1) + 1 := by omega
    simp only [hbase, hdrop]
    rw [hsucc, List.range_succ_eq_map, List.map_cons, List.map_map]
    by_cases hlast : ceilDiv payload.length (clusterSize card) ≤ k + 1
    · rw [if_pos ((hempty (k + 1)).2 hlast), Nat.sub_eq_zero_of_le hlast]
      rfl
    rw [if_neg (mt (hempty (k + 1)).1 hlast), hchain k (by omega), if_neg (by omega)]
    have hwrite := ih (k := k + 1) (by omega)
    rw [← Nat.add_assoc] at hwrite
    rw [hwrite]
    change Except.ok _ = Except.ok _
    congr 2
    apply List.map_congr_left
    intro j _
    change (⟨_, _⟩ : Block) = ⟨_, _⟩
    have hj : k + 1 + j = k + (j + 1) := by omega
    rw [hj]

omit hspc in
lemma fileBlocks_fit (firstDataSector : ℕ) (payloads : List FilePayload) (hnext : 2 ≤ next) :
    Fit (512 * firstDataSector + clusterSize card * (next - 2))
      (512 * firstDataSector +
        clusterSize card * (next - 2 + ((fileSpecs card next payloads).map FileSpec.clusters).sum))
      ((fileSpecs card next payloads).flatMap (fileBlocks card firstDataSector)) := by
  induction payloads generalizing next with
  | nil =>
    refine ⟨?_, ?_, List.Pairwise.nil⟩ <;> exact fun b hb => absurd hb List.not_mem_nil
  | cons p payloads ih =>
    rw [fileSpecs]
    simp only [List.flatMap_cons, List.map_cons, List.sum_cons]
    have hrest := @ih (next + max 1 (ceilDiv p.payload.length (clusterSize card))) (by omega)
    have hsize : ∀ k < ceilDiv p.payload.length (clusterSize card),
        (part p.payload (clusterSize card * k) (clusterSize card)).length ≤ clusterSize card := fun k _ => by
      rw [part]
      exact List.length_take_le _ _
    have hfile := fit_table (512 * firstDataSector + clusterSize card * (next - 2)) (clusterSize card) _ hsize
    have hstep : clusterSize card * (next + max 1 (ceilDiv p.payload.length (clusterSize card)) - 2) =
        clusterSize card * (next - 2) + clusterSize card * max 1 (ceilDiv p.payload.length (clusterSize card)) := by
      rw [← Nat.mul_add]
      congr 1
      omega
    have hmax : clusterSize card * ceilDiv p.payload.length (clusterSize card) ≤
        clusterSize card * max 1 (ceilDiv p.payload.length (clusterSize card)) :=
      Nat.mul_le_mul_left _ (Nat.le_max_right _ _)
    rw [Nat.mul_add, hstep] at hrest
    rw [Nat.mul_add, Nat.mul_add]
    refine Fit.append (hfile.mono le_rfl ?_) (hrest.mono le_rfl ?_) ?_ ?_ <;> omega

end Blocks

end Little64.Boot

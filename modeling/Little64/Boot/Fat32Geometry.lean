import Little64.Boot.Fat32RoundTrip

/-! The geometry of a built card: the regions of its boot partition, and the chains in the bytes of both tables. -/

namespace Little64.Boot

open CheckedAccess LittleEndian ByteFile PatchedImage
open Placement (Block)

section Chains

/-- The clusters that the entries of a table lead through, up to one that holds an end marker. -/
inductive Chain (entry : ℕ → BitVec 32) : ℕ → List ℕ → Prop
  | last {c : ℕ} (hend : 0x0FFFFFF8 ≤ (entry c).toNat) : Chain entry c [c]
  | link {c : ℕ} {clusters : List ℕ} (hnext : (entry c).toNat < 0x0FFFFFF8)
      (rest : Chain entry (entry c).toNat clusters) : Chain entry c (c :: clusters)

variable {entry : ℕ → BitVec 32} {c n : ℕ} {clusters clusters' : List ℕ}

lemma Chain.unique (h : Chain entry c clusters) (h' : Chain entry c clusters') : clusters = clusters' := by
  induction h generalizing clusters' with
  | last hend =>
    cases h' with
    | last _ => rfl
    | link hnext _ => omega
  | link hnext _ ih =>
    cases h' with
    | last hend => omega
    | link _ rest => rw [ih rest]

lemma chain_range (hlinks : ∀ k < n, (entry (c + k)).toNat = c + k + 1) (hend : 0x0FFFFFF8 ≤ (entry (c + n)).toNat)
    (hsmall : c + n < 0x0FFFFFF8) : Chain entry c (List.range' c (n + 1)) := by
  induction n generalizing c with
  | zero => exact .last hend
  | succ n ih =>
    have hfirst : (entry c).toNat = c + 1 := hlinks 0 (Nat.succ_pos n)
    rw [List.range'_succ]
    apply Chain.link (by omega)
    rw [hfirst]
    apply ih _ _ (by omega)
    · intro k hk
      rw [Nat.add_assoc, Nat.add_comm 1]
      exact hlinks (k + 1) (by omega)
    · rw [Nat.add_assoc, Nat.add_comm 1]
      exact hend

end Chains

variable {card : CardLayout} {kernelElf dtb rootfs image : Blob} {payloads : List FilePayload}

/-- An entry of the first or the second table of a card. -/
def tableEntry (card : CardLayout) (image : Blob) (fatSectors table c : ℕ) : BitVec 32 :=
  field 32 image (512 * (card.bootPartitionLba + 32 + table * fatSectors) + 4 * c) 4

def firstClusters (card : CardLayout) (payloads : List FilePayload) : List ℕ :=
  2 :: (fileSpecs card 3 payloads).map fun file => file.layout.firstCluster

/-- The regions of a card, each one as its first sector and the number of its sectors. -/
def regions (card : CardLayout) (fatSectors clusterCount : ℕ) : List (ℕ × ℕ) :=
  [(card.bootPartitionLba, 32), (card.bootPartitionLba + 32, fatSectors),
    (card.bootPartitionLba + 32 + fatSectors, fatSectors),
    (card.bootPartitionLba + 32 + 2 * fatSectors, clusterCount * card.sectorsPerCluster),
    (card.bootPartitionLba + card.bootPartitionSectorCount, card.rootPartitionSectorCount)]

structure Geometry (card : CardLayout) (payloads : List FilePayload) (image : Blob) (fatSectors clusterCount : ℕ) :
    Prop where
  sized : ∀ rounds, fatSizeLoop card.bootPartitionSectorCount 32 2 card.sectorsPerCluster (rounds + 2) 1 =
    some (fatSectors, (clusterCount : ℤ))
  clusters : clusterCount = (card.bootPartitionSectorCount - (32 + 2 * fatSectors)) / card.sectorsPerCluster
  entries : (clusterCount + 2) * 4 ≤ fatSectors * SECTOR_SIZE
  inside : ∀ region ∈ regions card fatSectors clusterCount, (region.1 + region.2) * SECTOR_SIZE ≤ image.length
  apart : (regions card fatSectors clusterCount).Pairwise fun region region' => region.1 + region.2 ≤ region'.1
  listed : ∀ file ∈ fileSpecs card 3 payloads, ∃ offset, offset + 32 ≤ clusterSize card ∧
    part image (512 * (card.bootPartitionLba + 32 + 2 * fatSectors) + offset) 32 = dirEntry file.layout
  chains : ∀ table < 2, ∀ first ∈ firstClusters card payloads, ∃ clusters,
    Chain (tableEntry card image fatSectors table) first clusters ∧ ∀ c ∈ clusters, 2 ≤ c ∧ c < clusterCount + 2
  disjoint : ∀ table < 2, (firstClusters card payloads).Pairwise fun first first' => ∀ clusters clusters',
    Chain (tableEntry card image fatSectors table) first clusters →
      Chain (tableEntry card image fatSectors table) first' clusters' → clusters.Disjoint clusters'

section Built

variable {p : BootParts} {partition mbr : Blob} (h : OnCard card payloads rootfs p partition mbr image)

include h

lemma tableEntry_eq {table c : ℕ} (htable : table < 2) (hc : c < p.clusterCount + 2) :
    tableEntry card image p.fatSectors table c = BitVec.ofNat 32 (fatEntries 2 (fileSpecs card 3 payloads) c) := by
  obtain ⟨_, hsize, hroom⟩ := table_spec h.parts
  rw [BootParts.firstDataSector] at hsize
  have hwithin : 512 * (32 + table * p.fatSectors) + 4 * c + 4 ≤ 512 * card.bootPartitionSectorCount := by
    obtain rfl | rfl : table = 0 ∨ table = 1 := by omega
    · omega
    · omega
  have hpart := part_image h hwithin
  rw [tableEntry, Nat.add_assoc card.bootPartitionLba, Nat.mul_add, Nat.add_assoc]
  exact (field_congr 32 hpart).trans (field_fat h.fitting h.parts h.filled htable hc)

lemma used_le : 3 + ((fileSpecs card 3 payloads).map FileSpec.clusters).sum ≤ p.clusterCount := by
  have hused := h.parts.used
  rw [usedClusters] at hused
  omega

lemma chain_root {table : ℕ} (htable : table < 2) : Chain (tableEntry card image p.fatSectors table) 2 [2] := by
  apply Chain.last
  have hlarge := h.parts.large
  have hroot : fatEntries 2 (fileSpecs card 3 payloads) 2 = 0x0FFFFFFF := by
    rw [fatEntries, foldl_chainFile_outside]
    · rfl
    · intro file hfile
      exact (placed_of_mem hfile).start
  rw [tableEntry_eq h htable (by omega), hroot]
  decide

lemma chain_file {table : ℕ} (htable : table < 2) {file : FileSpec} (hfile : file ∈ fileSpecs card 3 payloads) :
    Chain (tableEntry card image p.fatSectors table) file.layout.firstCluster
      (List.range' file.layout.firstCluster file.clusters) := by
  have hplaced := placed_of_mem hfile
  have hsizes := (rootDirectory_spec h.fitting h.parts.rootDir).1
  have hsmall := stop_lt h.parts.cluster h.fitting.count hsizes hfile
  have hstop := hplaced.stop
  have hused := used_le h
  have hpos : 1 ≤ file.clusters := by
    rw [hplaced.clusters]
    exact le_max_left _ _
  obtain ⟨n, hn⟩ := Nat.exists_eq_add_of_le' hpos
  have hentry : ∀ k < file.clusters, (tableEntry card image p.fatSectors table (file.layout.firstCluster + k)).toNat =
      if k + 1 = file.clusters then 0x0FFFFFFF else file.layout.firstCluster + k + 1 := by
    intro k hk
    rw [tableEntry_eq h htable (by omega), fatEntries_of_mem hfile hk, BitVec.toNat_ofNat]
    apply Nat.mod_eq_of_lt
    split
    · decide
    · omega
  rw [hn]
  apply chain_range _ _ (by omega)
  · intro k hk
    rw [hentry k (by omega), if_neg (by omega)]
  · rw [hentry n (by omega), if_pos hn.symm]
    decide

omit h in
lemma part_entry {entries : List Blob} {entry : Blob} {size : ℕ} (hcount : entries.length ≤ 6)
    (hlengths : ∀ entry ∈ entries, entry.length = 32) (hsize : 512 ≤ size) (hin : entry ∈ entries) :
    ∃ offset, offset + 32 ≤ size ∧ part (patched (zeros size) (rootBlocks entries)) offset 32 = entry := by
  obtain ⟨i, hi, hentry⟩ := List.mem_iff_getElem.1 hin
  have hblock : (⟨32 * i, entry⟩ : Block) ∈ rootBlocks entries := by
    apply List.mem_append_left
    apply List.mem_map.2
    exact ⟨(entry, i), List.mem_zipIdx_iff_getElem?.2 (List.getElem?_eq_some_iff.2 ⟨hi, hentry⟩), rfl⟩
  have hfit := fit_zeros ((root_fit hcount hlengths).mono le_rfl hsize)
  have hdir : part (patched (zeros size) (rootBlocks entries)) (32 * i) entry.length = entry :=
    part_patched_all hfit hblock
  rw [hlengths entry hin] at hdir
  exact ⟨32 * i, by omega, hdir⟩

/-- The entry of every file is in the root directory, which starts the data region. -/
lemma exists_dirEntry {file : FileSpec} (hfile : file ∈ fileSpecs card 3 payloads) :
    ∃ offset, offset + 32 ≤ clusterSize card ∧
      part image (512 * (card.bootPartitionLba + 32 + 2 * p.fatSectors) + offset) 32 = dirEntry file.layout := by
  obtain ⟨_, hsize, _⟩ := table_spec h.parts
  obtain ⟨_, entries, hrootDir, hcount, hlengths, hin⟩ := rootDirectory_spec h.fitting h.parts.rootDir
  have hspc := h.parts.cluster
  have hlarge := h.parts.large
  have hdata := Nat.mul_le_mul_right card.sectorsPerCluster (Nat.le_trans (by decide) hlarge : 1 ≤ p.clusterCount)
  have hcluster : clusterSize card = card.sectorsPerCluster * 512 := rfl
  obtain ⟨offset, hoffset, hdir⟩ := part_entry hcount hlengths (by omega : 512 ≤ clusterSize card) (hin file hfile)
  have hstart : 512 * (card.bootPartitionLba + 32 + 2 * p.fatSectors) + offset =
      512 * card.bootPartitionLba + (512 * p.firstDataSector + offset) := by
    rw [BootParts.firstDataSector]
    omega
  have hpart : part image (512 * card.bootPartitionLba + (512 * p.firstDataSector + offset)) 32 =
      part partition (512 * p.firstDataSector + offset) 32 := part_image h (by omega)
  refine ⟨offset, hoffset, ?_⟩
  rw [hstart, hpart, ← hdir, hrootDir, ← part_rootDir h.fitting h.parts h.filled, part_part _ _ hoffset]

lemma geometry : Geometry card payloads image p.fatSectors p.clusterCount := by
  obtain ⟨hpos, hsize, hroom⟩ := table_spec h.parts
  rw [BootParts.firstDataSector] at hsize
  have hused := used_le h
  have hlength := length_image h
  have hfile : ∀ first ∈ firstClusters card payloads, first = 2 ∨
      ∃ file ∈ fileSpecs card 3 payloads, file.layout.firstCluster = first := fun first hfirst => by
    rcases List.mem_cons.1 hfirst with rfl | hfirst
    · exact .inl rfl
    · exact .inr (List.mem_map.1 hfirst)
  refine ⟨fun rounds => ?_, ?_, ?_, ?_, ?_, fun file => exists_dirEntry h, fun table htable first hfirst => ?_,
    fun table htable => ?_⟩
  · rw [(fatSizeLoop_two rounds).1]
    exact h.parts.table
  · have hcount := (fatSizeLoop_spec le_rfl h.parts.table).2.1
    rw [clustersBeside] at hcount
    have hdata : (card.bootPartitionSectorCount : ℤ) - (32 : ℕ) - (2 : ℕ) * p.fatSectors =
        ((card.bootPartitionSectorCount - (32 + 2 * p.fatSectors) : ℕ) : ℤ) := by omega
    rw [hdata] at hcount
    exact_mod_cast hcount
  · rw [SECTOR_SIZE]
    omega
  · intro region hregion
    rw [hlength, diskSectors]
    apply Nat.mul_le_mul_right
    simp only [regions, List.mem_cons, List.not_mem_nil, or_false] at hregion
    rcases hregion with rfl | rfl | rfl | rfl | rfl
    all_goals
      simp only
      omega
  · simp only [regions, List.pairwise_cons, List.forall_mem_cons, List.not_mem_nil, false_implies, implies_true,
      List.Pairwise.nil, and_true]
    omega
  · rcases hfile first hfirst with rfl | ⟨file, hfile, rfl⟩
    · refine ⟨_, chain_root h htable, ?_⟩
      simp only [List.mem_singleton, forall_eq]
      omega
    · have hplaced := placed_of_mem hfile
      have hstart := hplaced.start
      have hstop := hplaced.stop
      refine ⟨_, chain_file h htable hfile, fun c hc => ?_⟩
      rw [List.mem_range'_1] at hc
      omega
  · rw [firstClusters, List.pairwise_cons, List.pairwise_map]
    refine ⟨fun first hfirst clusters clusters' hroot hchain => ?_, ?_⟩
    · obtain ⟨file, hfile, rfl⟩ := List.mem_map.1 hfirst
      rw [hroot.unique (chain_root h htable), hchain.unique (chain_file h htable hfile), List.singleton_disjoint]
      intro hin
      have hstart := (placed_of_mem hfile).start
      rw [List.mem_range'_1] at hin
      omega
    · refine (fileSpecs_apart 3 payloads).imp_of_mem fun {file file'} hfile hfile' hapart clusters clusters' hc hc' => ?_
      rw [hc.unique (chain_file h htable hfile), hc'.unique (chain_file h htable hfile')]
      intro c hin hin'
      rw [List.mem_range'_1] at hin hin'
      omega

end Built

/-- Every card that the builder accepts, whatever sizes were asked for and whatever it was given to put there. -/
theorem fat32_geometry (h : sdCardImage card kernelElf dtb rootfs = .ok image) :
    ∃ payloads fatSectors clusterCount, filePayloads card kernelElf dtb = .ok payloads ∧
      Geometry card payloads image fatSectors clusterCount := by
  obtain ⟨payloads, p, partition, mbr, hpayloads, honCard⟩ := sdCardImage_eq_ok.1 h
  exact ⟨payloads, p.fatSectors, p.clusterCount, hpayloads, geometry honCard⟩

theorem fat32_geometry_sample : ∃ image payloads fatSectors clusterCount,
    filePayloads sampleCard sampleKernel [] = .ok payloads ∧
      Geometry sampleCard payloads image fatSectors clusterCount :=
  exists_sampleCard.elim fun image h => ⟨image, fat32_geometry h⟩

end Little64.Boot

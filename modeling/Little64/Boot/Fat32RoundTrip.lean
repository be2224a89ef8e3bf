import Little64.Boot.Fat32Files
import Little64.Boot.Fat32Partition

/-! The stage-0 loader on the cards that the boot image builder writes. -/

namespace Little64.Boot

open CheckedAccess LittleEndian ByteFile PatchedImage
open Placement (Block Ascending)

variable {card : CardLayout} {kernelElf dtb rootfs partition image mbr : Blob} {payloads : List FilePayload}
  {p : BootParts} {file : FileSpec}

section Cards

variable (h : OnCard card payloads rootfs p partition mbr image)

include h

lemma sector_eq {x : ℕ} (hx : x < card.bootPartitionSectorCount) :
    imageDisk image (BitVec.ofNat 32 (card.bootPartitionLba + x)) = part partition (512 * x) 512 := by
  have hlt := stop_lba_lt h
  rw [imageDisk, BitVec.toNat_ofNat, Nat.mod_eq_of_lt (by omega), Nat.mul_add]
  exact part_image h (by omega)

lemma sector_mbr (hlba : card.bootPartitionLba ≠ 0) : imageDisk image 0 = mbr := by
  have hmbr := length_mbr h
  have hbehind : ∀ b' ∈ [(⟨card.bootPartitionLba * SECTOR_SIZE, partition⟩ : Block),
      ⟨(card.bootPartitionLba + card.bootPartitionSectorCount) * SECTOR_SIZE, rootfs⟩],
      (⟨0, mbr⟩ : Block).stop ≤ b'.base := by
    simp only [List.forall_mem_cons, Block.stop, SECTOR_SIZE, hmbr]
    refine ⟨by omega, by omega, fun b hb => absurd hb List.not_mem_nil⟩
  have hpart := part_patched_last [] _ (imageBlocks_inside h) hbehind (o := 0) (n := 512) hmbr.ge
  rw [imageDisk, ← h.written]
  refine hpart.trans ?_
  change part mbr 0 512 = mbr
  rw [← hmbr, part_all]

end Cards

section Volumes

def volumeOf (card : CardLayout) (p : BootParts) : Fat32Volume where
  partitionLba := BitVec.ofNat 32 card.bootPartitionLba
  sectorsPerCluster := 1
  firstFatLba := BitVec.ofNat 32 (card.bootPartitionLba + 32)
  fatSectorCount := BitVec.ofNat 32 p.fatSectors
  firstDataLba := BitVec.ofNat 32 (card.bootPartitionLba + p.firstDataSector)
  rootCluster := 2

variable (h : OnCard card payloads rootfs p partition mbr image)

include h

lemma mbr_reads : byte mbr 510 = 0x55 ∧ byte mbr 511 = 0xAA ∧ byte mbr (446 + 4) = 0x0C ∧
    readLe32 mbr (446 + 8) = BitVec.ofNat 32 card.bootPartitionLba := by
  rw [← (masterBootRecord_eq_ok.1 h.record).2.2.2.2]
  have hfit := fit_zeros (mbr_fit card)
  have hentry := fit_zeros (partition_fit card.bootPartitionLba card.bootPartitionSectorCount 0x0C)
  have hlength := length_filled (partition_fit card.bootPartitionLba card.bootPartitionSectorCount 0x0C)
  have hmark : ∀ boot root, (⟨510, [0x55, 0xAA]⟩ : Block) ∈ mbrBlocks boot root := fun boot root => by simp [mbrBlocks]
  have htype : ∀ start count, (⟨4, [0x0C]⟩ : Block) ∈ partitionBlocks start count 0x0C := fun start count => by
    simp [partitionBlocks]
  have hstart : ∀ start count, (⟨8, start⟩ : Block) ∈ partitionBlocks start count 0x0C := fun start count => by
    simp [partitionBlocks]
  refine ⟨byte_patched hfit (hmark _ _), getD_patched (b := ⟨510, _⟩) (o := 1) hfit (hmark _ _) (by decide), ?_, ?_⟩
  · refine (getD_patched (b := ⟨446, _⟩) (o := 4) hfit List.mem_cons_self (by rw [hlength]; decide)).trans ?_
    exact byte_patched hentry (htype _ _)
  · refine (field_patched (b := ⟨446, _⟩) (o := 8) (n := 4) hfit List.mem_cons_self (by rw [hlength]; decide)).trans ?_
    exact field_patched_le hentry (hstart _ _) rfl

lemma boot_reads (hspc : card.sectorsPerCluster = 1) : byte p.boot 510 = 0x55 ∧ byte p.boot 511 = 0xAA ∧
    readLe16 p.boot 11 = 512 ∧ byte p.boot 13 = 1 ∧ readLe16 p.boot 14 = 32 ∧ byte p.boot 16 = 2 ∧
    readLe32 p.boot 36 = BitVec.ofNat 32 p.fatSectors ∧
    readLe32 p.boot 44 = 2 := by
  rw [← (bootSector_eq_ok.1 h.parts.boot).2.2.2.2]
  have hfit := fit_zeros (boot_fit h.parts.label card.bootPartitionLba card.bootPartitionSectorCount p.fatSectors 2)
  have hmark : ∀ lba count fat, (⟨510, [0x55, 0xAA]⟩ : Block) ∈ bootBlocks card lba count fat 2 :=
    fun lba count fat => by simp [bootBlocks]
  have hbytes : ∀ lba count fat, (⟨11, le 2 (512 : BitVec 16)⟩ : Block) ∈ bootBlocks card lba count fat 2 :=
    fun lba count fat => by simp [bootBlocks]
  have hcluster : ∀ lba count fat, (⟨13, [1]⟩ : Block) ∈ bootBlocks card lba count fat 2 :=
    fun lba count fat => by simp [bootBlocks, hspc]
  have hreserved : ∀ lba count fat, (⟨14, le 2 (32 : BitVec 16)⟩ : Block) ∈ bootBlocks card lba count fat 2 :=
    fun lba count fat => by simp [bootBlocks]
  have hfats : ∀ lba count fat, (⟨16, [2]⟩ : Block) ∈ bootBlocks card lba count fat 2 :=
    fun lba count fat => by simp [bootBlocks]
  have hfat : ∀ lba count fat, (⟨36, fat⟩ : Block) ∈ bootBlocks card lba count fat 2 :=
    fun lba count fat => by simp [bootBlocks]
  have hroot : ∀ lba count fat, (⟨44, u32Bytes 2⟩ : Block) ∈ bootBlocks card lba count fat 2 :=
    fun lba count fat => by simp [bootBlocks]
  refine ⟨byte_patched hfit (hmark _ _ _), getD_patched (b := ⟨510, _⟩) (o := 1) hfit (hmark _ _ _)
    (by decide), ?_,
    byte_patched hfit (hcluster _ _ _), ?_, byte_patched hfit (hfats _ _ _), field_patched_le hfit (hfat _ _ _) rfl,
    field_patched_le hfit (hroot _ _ _) rfl⟩
  · exact congrArg (BitVec.setWidth 32) (field_patched_le hfit (hbytes _ _ _) rfl)
  · exact congrArg (BitVec.setWidth 32) (field_patched_le hfit (hreserved _ _ _) rfl)

omit h in
lemma guard_ne {α : Type} {P : Prop} [Decidable P] {message : String} {f : PUnit → Stage0 α} {a : α}
    (hf : ¬ P → f () ≠ .ok a) : (if P then failHard message >>= f else f ()) ≠ .ok a := by
  by_cases hP : P
  · rw [if_pos hP]
    exact fun h => by cases h
  · rw [if_neg hP]
    exact hf hP

omit h in
lemma guard_passed {α : Type} {P : Prop} [Decidable P] {message : String} {f : PUnit → Stage0 α} (hP : ¬ P) :
    (if P then failHard message >>= f else f ()) = f () := if_neg hP

/-- The loader finds the volume, unless the boot record was overwritten by the boot partition. -/
lemma loadFat32Volume_eq (hspc : card.sectorsPerCluster = 1) (hlba : card.bootPartitionLba ≠ 0) :
    loadFat32Volume (imageDisk image) = .ok (volumeOf card p) := by
  obtain ⟨hmark, hmark', htype, hstart⟩ := mbr_reads h
  obtain ⟨hboot, hboot', hbytes, hcluster, hreserved, hfats, hfat, hroot⟩ := boot_reads h hspc
  obtain ⟨hpos, _, hroom⟩ := table_spec h.parts
  have hcount := dataSectors_le h
  have hlarge := h.parts.large
  have hlt := stop_lba_lt h
  have hsector := sector_eq h (x := 0) (by omega)
  rw [Nat.add_zero, Nat.mul_zero, part_boot h.fitting h.parts h.filled] at hsector
  rw [BootParts.firstDataSector] at hcount
  have hlbaWord : BitVec.ofNat 32 card.bootPartitionLba ≠ 0 := mt (ofNat_eq_zero (by omega)).1 hlba
  have hfatWord : BitVec.ofNat 32 p.fatSectors ≠ 0 := mt (ofNat_eq_zero (by omega)).1 (by omega)
  rw [← sector_mbr h hlba] at hmark hmark' htype hstart
  rw [← hsector, ← hstart] at hboot hboot' hbytes hcluster hreserved hfats hfat hroot
  rw [loadFat32Volume]
  refine (guard_passed (by rw [hmark, hmark']; decide)).trans ?_
  refine (guard_passed (by rwa [hstart])).trans ?_
  refine (guard_passed (by rw [htype]; decide)).trans ?_
  refine (guard_passed (by rw [hboot, hboot']; decide)).trans ?_
  refine (guard_passed (by rw [hbytes]; decide)).trans ?_
  refine (guard_passed (by simp only [hcluster, hfats, hfat, hroot, hfatWord]; decide)).trans ?_
  refine (guard_passed (by rw [hfats]; decide)).trans ?_
  refine (guard_passed (by rw [hcluster]; decide)).trans ?_
  dsimp only
  rw [hreserved, hcluster, hfat, hroot, hstart]
  have hdata : BitVec.ofNat 32 card.bootPartitionLba + 32 + BitVec.ofNat 32 p.fatSectors + BitVec.ofNat 32 p.fatSectors =
      BitVec.ofNat 32 (card.bootPartitionLba + p.firstDataSector) := by
    have hsum : card.bootPartitionLba + p.firstDataSector =
        card.bootPartitionLba + 32 + p.fatSectors + p.fatSectors := by
      rw [BootParts.firstDataSector]
      omega
    rw [hsum, BitVec.ofNat_add, BitVec.ofNat_add, BitVec.ofNat_add]
    rfl
  have hfirst : BitVec.ofNat 32 card.bootPartitionLba + 32 = BitVec.ofNat 32 (card.bootPartitionLba + 32) :=
    (BitVec.ofNat_add _ _).symm
  rw [hdata, hfirst]
  rfl

/-- Where the boot partition starts at the boot record, its boot sector names no partition. -/
lemma loadFat32Volume_zero (hlba : card.bootPartitionLba = 0) (volume : Fat32Volume) :
    loadFat32Volume (imageDisk image) ≠ .ok volume := by
  have hcount := dataSectors_le h
  have hlarge := h.parts.large
  have hsector := sector_eq h (x := 0) (by omega)
  rw [Nat.mul_zero, part_boot h.fitting h.parts h.filled, hlba] at hsector
  have hfit := boot_fit h.parts.label card.bootPartitionLba card.bootPartitionSectorCount p.fatSectors 2
  have hzero : part p.boot 454 4 = part (zeros 512) 454 4 := by
    rw [← (bootSector_eq_ok.1 h.parts.boot).2.2.2.2]
    apply part_patched_outside (fit_zeros hfit).inside
    simp [bootBlocks, Block.stop, ascii, h.parts.label]
  have hstart : readLe32 (imageDisk image 0) (446 + 8) = 0 := by
    have hfield := field_congr 32 hzero
    rw [← hsector] at hfield
    exact hfield.trans (by decide +kernel)
  rw [loadFat32Volume]
  refine guard_ne fun _ => ?_
  exact guard_ne fun hnone => absurd hstart hnone

end Volumes

section Files

variable (h : OnCard card payloads rootfs p partition mbr image)

lemma toNat_entryOffset {c : ℕ} (hc : c < 2 ^ 30) : (BitVec.ofNat 32 c * 4).toNat = 4 * c := by
  rw [BitVec.toNat_mul, BitVec.toNat_ofNat]
  change c % 2 ^ 32 * 4 % 2 ^ 32 = 4 * c
  omega

lemma fatSectorOf_eq {c : ℕ} (hc : c < 2 ^ 30) :
    fatSectorOf (volumeOf card p) (BitVec.ofNat 32 c) = BitVec.ofNat 32 (card.bootPartitionLba + (32 + c / 128)) := by
  have hindex : (BitVec.ofNat 32 c * 4) >>> 9 = BitVec.ofNat 32 (c / 128) := by
    apply BitVec.eq_of_toNat_eq
    rw [BitVec.toNat_ushiftRight, toNat_entryOffset hc, BitVec.toNat_ofNat, Nat.shiftRight_eq_div_pow]
    omega
  rw [fatSectorOf, hindex, ← Nat.add_assoc, BitVec.ofNat_add (card.bootPartitionLba + 32)]
  rfl

lemma clusterToLba_eq {c : ℕ} (hc : 2 ≤ c) : clusterToLba (volumeOf card p) (BitVec.ofNat 32 c) =
    BitVec.ofNat 32 (card.bootPartitionLba + (p.firstDataSector + (c - 2))) := by
  have hsub : BitVec.ofNat 32 c - 2 = BitVec.ofNat 32 (c - 2) := BitVec.ofNat_sub_ofNat_of_le c 2 (by decide) hc
  rw [clusterToLba, hsub, ← Nat.add_assoc, BitVec.ofNat_add (card.bootPartitionLba + p.firstDataSector)]
  rfl

include h

/-- The table sectors that the loader reads are those of the first table. -/
lemma fatEntry_eq {c : ℕ} (hc : c < p.clusterCount + 2) (hlt : c < 2 ^ 30) :
    fatEntry (imageDisk image) (volumeOf card p) (BitVec.ofNat 32 c) =
      BitVec.ofNat 32 (fatEntries 2 (fileSpecs card 3 payloads) c) &&& 0x0FFFFFFF := by
  have hcount := dataSectors_le h
  have hroom := (table_spec h.parts).2.2
  rw [BootParts.firstDataSector] at hcount
  have hoffset : (BitVec.ofNat 32 c * 4 &&& (SD_BLOCK_SIZE - 1)).toNat = 4 * (c % 128) := by
    rw [BitVec.toNat_and, toNat_entryOffset hlt]
    change 4 * c &&& 2 ^ 9 - 1 = 4 * (c % 128)
    rw [Nat.and_two_pow_sub_one_eq_mod]
    omega
  have hplace : 512 * (32 + c / 128) + 4 * (c % 128) = 512 * (32 + 0 * p.fatSectors) + 4 * c := by omega
  rw [fatEntry, fatSectorOf_eq hlt, sector_eq h (by omega), hoffset, readLe32, field_part _ _ _ (by omega), hplace,
    field_fat h.fitting h.parts h.filled (by decide) hc]

variable (hspc : card.sectorsPerCluster = 1) (hfile : file ∈ fileSpecs card 3 payloads)

omit h in
include hspc in
lemma clusterSize_eq : clusterSize card = 512 := by
  rw [clusterSize, hspc]
  rfl

include hfile

omit h in
include hspc in
lemma clusterCount_payload : clusterCount file.payload = file.clusters := by
  rw [(placed_of_mem hfile).clusters, clusterSize_eq hspc]
  rfl

lemma cluster_stop_le : file.layout.firstCluster + file.clusters ≤ p.clusterCount := by
  have hstop := (placed_of_mem hfile).stop
  have hused := h.parts.used
  rw [usedClusters] at hused
  omega

include hspc in
/-- Every file of the card stands in consecutive clusters. -/
lemma holds : Holds (imageDisk image) (volumeOf card p) file.layout.firstCluster file.payload := by
  have hplaced := placed_of_mem hfile
  have hsizes := (rootDirectory_spec h.fitting h.parts.rootDir).1
  have hstart : 3 ≤ file.layout.firstCluster := hplaced.start
  have hstop := stop_lt h.parts.cluster h.fitting.count hsizes hfile
  have hle := cluster_stop_le h hfile
  have hclusters := clusterCount_payload hspc hfile
  have hlba := stop_lba_lt h
  have hcount := dataSectors_le h
  have hroom := (table_spec h.parts).2.2
  have hentry : ∀ k < file.clusters, fatEntry (imageDisk image) (volumeOf card p)
      (cluster file.layout.firstCluster k) = BitVec.ofNat 32 (if k + 1 = file.clusters then 0x0FFFFFFF
        else file.layout.firstCluster + k + 1) &&& 0x0FFFFFFF := fun k hk => by
    rw [cluster, fatEntry_eq h (by omega) (by omega), fatEntries_of_mem hfile hk]
  refine ⟨?_, fun lba => List.length_take_le _ _, ?_, fun k hk => ?_, fun k hk => ?_, ?_, fun k o n ho hn => ?_⟩
  · rw [← hplaced.size]
    exact hsizes file hfile
  · rwa [hclusters]
  · rw [hclusters] at hk
    rw [BootParts.firstDataSector] at hcount
    have hsector : card.bootPartitionLba + (32 + (file.layout.firstCluster + k) / 128) < 2 ^ 32 - 1 := by omega
    rw [cluster, fatSectorOf_eq (by omega), ← BitVec.toNat_ne_iff_ne, BitVec.toNat_ofNat, Nat.mod_eq_of_lt (by omega)]
    exact hsector.ne
  · rw [hclusters] at hk
    rw [hentry k (by omega), if_neg (by omega)]
    apply BitVec.eq_of_toNat_eq
    rw [BitVec.toNat_and, cluster, BitVec.toNat_ofNat, BitVec.toNat_ofNat]
    change (file.layout.firstCluster + k + 1) % 2 ^ 32 &&& 2 ^ 28 - 1 = _
    rw [Nat.and_two_pow_sub_one_eq_mod]
    omega
  · have hpos : file.clusters - 1 + 1 = file.clusters := by
      rw [hplaced.clusters]
      omega
    rw [hclusters, hentry _ (by omega), if_pos hpos]
    decide
  · by_cases hzero : n = 0
    · rw [hzero]
      rfl
    have hk : k < file.clusters := hclusters ▸ lt_clusterCount (by omega)
    have hplace : p.firstDataSector + (file.layout.firstCluster + k - 2) =
        p.firstDataSector + (file.layout.firstCluster - 2) + k := by omega
    have hfound := part_file (k := k) (o := o) (n := n) h.fitting h.parts h.filled hfile
    rw [clusterSize_eq hspc] at hfound
    rw [cluster, clusterToLba_eq (by omega), hplace, sector_eq h (by omega), part_part _ _ ho, Nat.mul_add, Nat.mul_add]
    exact hfound ho hn

end Files

section Directory

variable {sector shortName : Blob} {layout : FileLayout} {offset n : ℕ}

/-- The sector holds the entry of a file. -/
structure EntryAt (sector : Blob) (offset : ℕ) (layout : FileLayout) : Prop where
  first : byte sector offset = layout.shortName.getD 0 0
  attributes : byte sector (offset + 11) = 0x20
  name : part sector offset 11 = layout.shortName
  high : readLe16 sector (offset + 20) = (BitVec.ofNat 16 (layout.firstCluster / 2 ^ 16)).setWidth 32
  low : readLe16 sector (offset + 26) = (BitVec.ofNat 16 layout.firstCluster).setWidth 32
  size : readLe32 sector (offset + 28) = BitVec.ofNat 32 layout.size

lemma entryAt {l : Blob} {blocks : List Block} (hfit : Fit 0 l.length blocks) (hname : layout.shortName.length = 11)
    (hentry : (⟨offset, dirEntry layout⟩ : Block) ∈ blocks) : EntryAt (patched l blocks) offset layout := by
  have hinner := dirEntry_fit hname
  have hlength := length_filled hinner
  have hbytes : ∀ o m, o + m ≤ 32 → part (patched l blocks) (offset + o) m = part (dirEntry layout) o m :=
    fun o m ho => part_patched hfit hentry (ho.trans_eq hlength.symm)
  have hbyte : ∀ o, o < 32 → byte (patched l blocks) (offset + o) = byte (dirEntry layout) o :=
    fun o ho => getD_patched hfit hentry (ho.trans_eq hlength.symm)
  have hnameIn : (⟨0, layout.shortName⟩ : Block) ∈ dirEntryBlocks layout (u32Bytes layout.size) := by
    simp [dirEntryBlocks]
  have hattributes : (⟨11, [0x20]⟩ : Block) ∈ dirEntryBlocks layout (u32Bytes layout.size) := by simp [dirEntryBlocks]
  have hsize : (⟨28, u32Bytes layout.size⟩ : Block) ∈ dirEntryBlocks layout (u32Bytes layout.size) := by
    simp [dirEntryBlocks]
  refine ⟨?_, ?_, ?_, ?_, ?_, ?_⟩
  · have hzero := hbyte 0 (by decide)
    rw [Nat.add_zero] at hzero
    rw [hzero]
    exact getD_patched (b := ⟨0, layout.shortName⟩) (o := 0) (fit_zeros hinner) hnameIn (by rw [hname]; decide)
  · refine (hbyte 11 (by decide)).trans ?_
    exact byte_patched (fit_zeros hinner) hattributes
  · have hall := part_patched_all (fit_zeros hinner) hnameIn
    rw [hname] at hall
    exact (hbytes 0 11 (by decide)).trans hall
  · rw [readLe16, field_congr 16 (hbytes 20 2 (by decide))]
    exact congrArg (BitVec.setWidth 32) (field_patched_le (fit_zeros hinner) (by simp [dirEntryBlocks]) rfl)
  · rw [readLe16, field_congr 16 (hbytes 26 2 (by decide))]
    exact congrArg (BitVec.setWidth 32) (field_patched_le (fit_zeros hinner) (by simp [dirEntryBlocks]) rfl)
  · rw [readLe32, field_congr 32 (hbytes 28 4 (by decide))]
    exact field_patched_le (fit_zeros hinner) hsize rfl

variable (h : EntryAt sector offset layout)

include h

lemma findInSector_skip (hfirst : layout.shortName.getD 0 0 ≠ 0) (hname : layout.shortName ≠ shortName) :
    findInSector shortName sector (n + 1) offset = findInSector shortName sector n (offset + 32) := by
  rw [findInSector]
  refine (guard_passed (by rwa [h.first])).trans ?_
  have hother : ¬ (byte sector offset ≠ 0xE5 ∧ byte sector (offset + 11) ≠ FAT32_ATTR_LONG_NAME ∧
      byte sector (offset + 11) &&& (FAT32_ATTR_DIRECTORY ||| FAT32_ATTR_VOLUME) = 0 ∧
      part sector offset 11 = shortName) := fun hfound => hname (h.name ▸ hfound.2.2.2)
  exact if_neg hother

lemma findInSector_found (hfirst : layout.shortName.getD 0 0 ≠ 0) (herased : layout.shortName.getD 0 0 ≠ 0xE5)
    (hname : layout.shortName = shortName) (hcluster : 2 ≤ layout.firstCluster) (hlt : layout.firstCluster < 2 ^ 32) :
    findInSector shortName sector (n + 1) offset =
      .ok (some ⟨BitVec.ofNat 32 layout.firstCluster, BitVec.ofNat 32 layout.size⟩) := by
  have hwords : readLe16 sector (offset + 20) <<< 16 ||| readLe16 sector (offset + 26) =
      BitVec.ofNat 32 layout.firstCluster := by
    rw [h.high, h.low]
    apply BitVec.eq_of_toNat_eq
    rw [BitVec.toNat_or, BitVec.toNat_shiftLeft, BitVec.toNat_setWidth, BitVec.toNat_setWidth, BitVec.toNat_ofNat,
      BitVec.toNat_ofNat, BitVec.toNat_ofNat]
    have hhigh : (layout.firstCluster / 2 ^ 16 % 2 ^ 16 % 2 ^ 32) <<< 16 % 2 ^ 32 =
        (layout.firstCluster / 2 ^ 16) <<< 16 := by
      rw [Nat.shiftLeft_eq, Nat.shiftLeft_eq]
      omega
    rw [hhigh, Nat.mod_eq_of_lt (by omega), ← Nat.shiftLeft_add_eq_or_of_lt (by omega), Nat.shiftLeft_eq]
    omega
  rw [findInSector]
  refine (guard_passed (by rwa [h.first])).trans ?_
  have hfound : byte sector offset ≠ 0xE5 ∧ byte sector (offset + 11) ≠ FAT32_ATTR_LONG_NAME ∧
      byte sector (offset + 11) &&& (FAT32_ATTR_DIRECTORY ||| FAT32_ATTR_VOLUME) = 0 ∧
      part sector offset 11 = shortName := by
    rw [h.first, h.attributes, h.name]
    exact ⟨herased, by decide, by decide, hname⟩
  have hvalid : ¬ BitVec.ofNat 32 layout.firstCluster < 2 := by
    rw [BitVec.lt_def, BitVec.toNat_ofNat, Nat.mod_eq_of_lt hlt]
    exact Nat.not_lt.2 hcluster
  refine (if_pos hfound).trans ?_
  refine (guard_passed (by rwa [hwords])).trans ?_
  dsimp only
  rw [hwords, h.size]
  rfl

end Directory

section Lookup

/-- The files that the loader looks for. -/
def bootFiles (kernelElf dtb : Blob) : List (Blob × Blob) := [(KERNEL_NAME, kernelElf), (DTB_NAME, dtb)]

/-- The files of a card for it. -/
def stage0Files (kernelElf dtb checksums : Blob) : List FilePayload :=
  [⟨fat32ShortName "VMLINUX" "", kernelElf, none⟩, ⟨fat32ShortName "BOOT" "DTB", dtb, none⟩,
    ⟨fat32ShortName "BOOT" "CRC", checksums, none⟩]

variable {shortName payload checksums : Blob}
  (h : OnCard card (stage0Files kernelElf dtb checksums) rootfs p partition mbr image)
  (hspc : card.sectorsPerCluster = 1)

include h hspc

lemma sector_rootDir : imageDisk image (clusterToLba (volumeOf card p) 2) = p.rootDir := by
  have hcount := dataSectors_le h
  have hlarge := h.parts.large
  have hroot : clusterToLba (volumeOf card p) 2 = BitVec.ofNat 32 (card.bootPartitionLba + (p.firstDataSector + (2 - 2))) :=
    clusterToLba_eq le_rfl
  have hpart := part_rootDir h.fitting h.parts h.filled
  rw [clusterSize_eq hspc] at hpart
  rw [hroot, sector_eq h (by omega)]
  exact hpart

lemma locateRootFile_of_found {file : Stage0FileInfo}
    (hfound : findInSector shortName p.rootDir 16 0 = .ok (some file)) (rounds : ℕ) (cache : FatCache (imageDisk image)) :
    locateRootFile (volumeOf card p) shortName (rounds + 1) cache = .ok file := by
  have hcluster : findInCluster (imageDisk image) shortName 1 (clusterToLba (volumeOf card p) 2) = .ok (some file) := by
    rw [findInCluster, sector_rootDir h hspc, hfound]
    rfl
  have hvalid : ¬ FAT32_EOC_MIN ≤ (volumeOf card p).rootCluster := by
    change ¬ FAT32_EOC_MIN ≤ (2 : U32)
    decide
  rw [locateRootFile, locateRootFileFrom]
  refine (guard_passed hvalid).trans ?_
  dsimp only
  change (findInCluster (imageDisk image) shortName 1 (clusterToLba (volumeOf card p) 2) >>= _) = _
  rw [hcluster]
  rfl

/-- Both files are found, with their exact sizes. -/
lemma locates (hname : (shortName, payload) ∈ bootFiles kernelElf dtb) :
    ∃ file ∈ fileSpecs card 3 (stage0Files kernelElf dtb checksums), file.payload = payload ∧
      ∀ rounds (cache : FatCache (imageDisk image)), locateRootFile (volumeOf card p) shortName (rounds + 1) cache =
        .ok ⟨BitVec.ofNat 32 file.layout.firstCluster, BitVec.ofNat 32 payload.length⟩ := by
  obtain ⟨kernelFile, dtbFile, crcFile, hfiles, hkernel, hdtb, hcrc⟩ : ∃ kernelFile dtbFile crcFile,
      fileSpecs card 3 (stage0Files kernelElf dtb checksums) = [kernelFile, dtbFile, crcFile] ∧
      (kernelFile.payload = kernelElf ∧ kernelFile.layout.shortName = KERNEL_NAME ∧ kernelFile.longName = none) ∧
      (dtbFile.payload = dtb ∧ dtbFile.layout.shortName = DTB_NAME ∧ dtbFile.longName = none) ∧
      crcFile.longName = none := ⟨_, _, _, rfl, ⟨rfl, rfl, rfl⟩, ⟨rfl, rfl, rfl⟩, rfl⟩
  have hnone : ∀ file ∈ fileSpecs card 3 (stage0Files kernelElf dtb checksums), file.longName = none := by
    rw [hfiles]
    simp [hkernel.2.2, hdtb.2.2, hcrc]
  obtain ⟨hsizes, hroot⟩ := (rootDirectory_eq_ok hnone).1 h.parts.rootDir
  have hkernelIn : kernelFile ∈ fileSpecs card 3 (stage0Files kernelElf dtb checksums) := hfiles ▸ List.mem_cons_self
  have hdtbIn : dtbFile ∈ fileSpecs card 3 (stage0Files kernelElf dtb checksums) :=
    hfiles ▸ List.mem_cons_of_mem _ List.mem_cons_self
  have hentries : rootBlocks ((fileSpecs card 3 (stage0Files kernelElf dtb checksums)).map fun file =>
      dirEntry file.layout) =
      [⟨0, dirEntry kernelFile.layout⟩, ⟨32, dirEntry dtbFile.layout⟩, ⟨64, dirEntry crcFile.layout⟩, ⟨96, [0]⟩] := by
    rw [hfiles]
    rfl
  have hlengths : ∀ entry ∈ (fileSpecs card 3 (stage0Files kernelElf dtb checksums)).map fun file =>
      dirEntry file.layout, entry.length = 32 := fun entry hentry => by
    obtain ⟨file, hfile, rfl⟩ := List.mem_map.1 hentry
    exact length_filled (dirEntry_fit (h.fitting.names _ (placed_of_mem hfile).source))
  have hfit := fit_zeros (root_fit (by rw [hfiles]; simp) hlengths)
  rw [clusterSize_eq hspc, hentries] at hroot
  rw [hentries] at hfit
  have hlt : ∀ {file}, file ∈ fileSpecs card 3 (stage0Files kernelElf dtb checksums) →
      2 ≤ file.layout.firstCluster ∧ file.layout.firstCluster < 2 ^ 32 := fun hfile => by
    have hstop := stop_lt h.parts.cluster h.fitting.count hsizes hfile
    have hstart := (placed_of_mem hfile).start
    omega
  have hfirst : EntryAt p.rootDir 0 kernelFile.layout :=
    hroot ▸ entryAt hfit (by rw [hkernel.2.1]; rfl) List.mem_cons_self
  have hsecond : EntryAt p.rootDir 32 dtbFile.layout :=
    hroot ▸ entryAt hfit (by rw [hdtb.2.1]; rfl) (List.mem_cons_of_mem _ List.mem_cons_self)
  rcases List.mem_cons.1 hname with hname | hname
  · obtain ⟨rfl, rfl⟩ := Prod.mk.inj hname
    refine ⟨kernelFile, hkernelIn, hkernel.1, locateRootFile_of_found h hspc ?_⟩
    have hfound := findInSector_found (n := 15) hfirst (by rw [hkernel.2.1]; decide) (by rw [hkernel.2.1]; decide)
      hkernel.2.1 (hlt hkernelIn).1 (hlt hkernelIn).2
    rw [(placed_of_mem hkernelIn).size, hkernel.1] at hfound
    exact hfound
  · obtain ⟨rfl, rfl⟩ := Prod.mk.inj (List.mem_singleton.1 hname)
    refine ⟨dtbFile, hdtbIn, hdtb.1, locateRootFile_of_found h hspc ?_⟩
    have hskip : findInSector DTB_NAME p.rootDir 16 0 = _ :=
      findInSector_skip hfirst (by rw [hkernel.2.1]; decide) (by rw [hkernel.2.1]; decide)
    have hfound := findInSector_found (n := 14) hsecond (by rw [hdtb.2.1]; decide) (by rw [hdtb.2.1]; decide) hdtb.2.1
      (hlt hdtbIn).1 (hlt hdtbIn).2
    rw [(placed_of_mem hdtbIn).size, hdtb.1] at hfound
    exact hskip.trans hfound

end Lookup

section RoundTrip

/-- The loader opens the volume and finds a file with its exact size. -/
structure Finds (disk : Disk) (shortName payload : Blob) (volume : Fat32Volume) (file : Stage0FileInfo) : Prop where
  opened : loadFat32Volume disk = .ok volume
  located : ∀ rounds (cache : FatCache disk), locateRootFile volume shortName (rounds + 1) cache = .ok file
  size : file.size.toNat = payload.length

def LocatesFile (disk : Disk) (shortName payload : Blob) : Prop := ∃ volume file, Finds disk shortName payload volume file

/-- The loader reads a range of a file as it is in the payload, by either of its two ways. -/
def ReadsBack (disk : Disk) (shortName payload : Blob) (offset size : ℕ) : Prop :=
  ∃ volume file, Finds disk shortName payload volume file ∧ ∀ cache : FatCache disk,
    readFileRangeToBuffer volume file (BitVec.ofNat 32 offset) (BitVec.ofNat 32 size) cache =
      .ok (part payload offset size) ∧
    readFileRangeToPhysical volume file (BitVec.ofNat 32 offset) (BitVec.ofNat 32 size) cache =
      .ok (part payload offset size)

/-- The range is empty and starts where the chain of a file without a partial sector ends. -/
def BehindChain (payload : Blob) (offset size : ℕ) : Prop :=
  size = 0 ∧ offset = payload.length ∧ payload ≠ [] ∧ 512 ∣ payload.length

variable {shortName payload : Blob} {offset size : ℕ}

lemma behindChain_iff (hrange : offset + size ≤ payload.length) :
    BehindChain payload offset size ↔ ¬ offset / 512 < clusterCount payload := by
  have hempty : payload ≠ [] ↔ payload.length ≠ 0 := by rw [ne_eq, ne_eq, List.length_eq_zero_iff]
  rw [BehindChain, clusterCount, hempty]
  omega

section Reads

variable {disk : Disk} {volume : Fat32Volume} {first : ℕ} (h : Holds disk volume first payload)

include h

lemma readRunToBuffer_eq (k n : ℕ) (hn : 512 * (k + n) ≤ payload.length) :
    readRunToBuffer volume disk (cluster first k) (BitVec.ofNat 32 n) = part payload (512 * k) (512 * n) := by
  have hlen := h.size
  rw [readRunToBuffer, BitVec.toNat_ofNat, Nat.mod_eq_of_lt (by omega)]
  exact readBlocksContiguous_eq h hn

lemma readRunToPhysical_eq (k n : ℕ) (hn : 512 * (k + n) ≤ payload.length) :
    readRunBatches volume disk (BitVec.ofNat 32 n).toNat (cluster first k) (BitVec.ofNat 32 n).toNat =
      part payload (512 * k) (512 * n) := by
  have hlen := h.size
  rw [BitVec.toNat_ofNat, Nat.mod_eq_of_lt (by omega)]
  exact readRunBatches_eq h le_rfl hn

/-- A range in the file is read as it is; the empty range behind the chain is refused. -/
lemma reads_iff (hrange : offset + size ≤ payload.length) (fileSize : U32) :
    (∀ cache : FatCache disk,
      readFileRangeToBuffer volume ⟨cluster first 0, fileSize⟩ (BitVec.ofNat 32 offset) (BitVec.ofNat 32 size) cache =
        .ok (part payload offset size) ∧
      readFileRangeToPhysical volume ⟨cluster first 0, fileSize⟩ (BitVec.ofNat 32 offset) (BitVec.ofNat 32 size) cache =
        .ok (part payload offset size)) ↔ ¬ BehindChain payload offset size := by
  rw [behindChain_iff hrange, not_not]
  constructor
  · intro hreads
    by_contra hbehind
    have hend : offset / 512 = clusterCount payload := by
      rw [clusterCount] at hbehind ⊢
      omega
    have hread := (hreads (FatCache.invalid disk)).1
    rw [readFileRangeToBuffer, readFileRange_end h _ _ (by omega) hend] at hread
    cases hread
  · intro hcluster cache
    exact ⟨readFileRange_eq h _ _ (readRunToBuffer_eq h) hrange hcluster fileSize cache,
      readFileRange_eq h _ _ (readRunToPhysical_eq h) hrange hcluster fileSize cache⟩

end Reads

section Cards

variable {checksums : Blob} (h : OnCard card (stage0Files kernelElf dtb checksums) rootfs p partition mbr image)
  (hspc : card.sectorsPerCluster = 1) (hname : (shortName, payload) ∈ bootFiles kernelElf dtb)

include h hspc hname

lemma finds (hlba : card.bootPartitionLba ≠ 0) : ∃ first, Holds (imageDisk image) (volumeOf card p) first payload ∧
    Finds (imageDisk image) shortName payload (volumeOf card p) ⟨cluster first 0, BitVec.ofNat 32 payload.length⟩ := by
  obtain ⟨file, hfile, rfl, hlocated⟩ := locates h hspc hname
  have hholds := holds h hspc hfile
  refine ⟨file.layout.firstCluster, hholds, loadFat32Volume_eq h hspc hlba, hlocated, ?_⟩
  rw [BitVec.toNat_ofNat, Nat.mod_eq_of_lt hholds.size]

lemma locatesFile_iff : LocatesFile (imageDisk image) shortName payload ↔ card.bootPartitionLba ≠ 0 := by
  constructor
  · rintro ⟨volume, file, hfinds⟩ hzero
    exact loadFat32Volume_zero h hzero volume hfinds.opened
  · intro hlba
    obtain ⟨first, _, hfinds⟩ := finds h hspc hname hlba
    exact ⟨_, _, hfinds⟩

lemma readsBack_iff (hrange : offset + size ≤ payload.length) :
    ReadsBack (imageDisk image) shortName payload offset size ↔
      card.bootPartitionLba ≠ 0 ∧ ¬ BehindChain payload offset size := by
  constructor
  · rintro ⟨volume, file, hfinds, hreads⟩
    have hlba := (locatesFile_iff h hspc hname).1 ⟨volume, file, hfinds⟩
    obtain ⟨first, hholds, hfound⟩ := finds h hspc hname hlba
    obtain rfl := Except.ok.inj (hfound.opened.symm.trans hfinds.opened)
    obtain rfl := Except.ok.inj ((hfound.located 0 (FatCache.invalid _)).symm.trans (hfinds.located 0 _))
    exact ⟨hlba, (reads_iff hholds hrange _).1 hreads⟩
  · rintro ⟨hlba, hinside⟩
    obtain ⟨first, hholds, hfound⟩ := finds h hspc hname hlba
    exact ⟨_, _, hfound, (reads_iff hholds hrange _).2 hinside⟩

end Cards

lemma stage0Card_of_build (hformat : card.bootFormat = .stage0)
    (hbuild : sdCardImage card kernelElf dtb rootfs = .ok image) : ∃ checksums p partition mbr,
      OnCard card (stage0Files kernelElf dtb checksums) rootfs p partition mbr image := by
  obtain ⟨payloads, p, partition, mbr, hpayloads, h⟩ := sdCardImage_eq_ok.1 hbuild
  rw [filePayloads, hformat] at hpayloads
  obtain ⟨checksums, rfl⟩ := stage0Payloads_eq_ok hpayloads
  exact ⟨checksums, p, partition, mbr, h⟩

/-- On every card that is built with one sector a cluster, the loader finds both files and reads every range of them
back, except on a card whose boot partition overwrites the boot record, and except for the empty range behind a file
that ends with its last sector. -/
theorem fat32_round_trip_iff (hformat : card.bootFormat = .stage0) (hspc : card.sectorsPerCluster = 1)
    (hbuild : sdCardImage card kernelElf dtb rootfs = .ok image)
    (hname : (shortName, payload) ∈ bootFiles kernelElf dtb) :
    (LocatesFile (imageDisk image) shortName payload ↔ card.bootPartitionLba ≠ 0) ∧
      ∀ offset size, offset + size ≤ payload.length →
        (ReadsBack (imageDisk image) shortName payload offset size ↔
          card.bootPartitionLba ≠ 0 ∧ ¬ BehindChain payload offset size) := by
  obtain ⟨checksums, p, partition, mbr, h⟩ := stage0Card_of_build hformat hbuild
  exact ⟨locatesFile_iff h hspc hname, fun offset size hrange => readsBack_iff h hspc hname hrange⟩

section Samples

lemma exists_card {checksums : Blob} {fatSectors clusterCount : ℕ} (hformat : card.bootFormat = .stage0)
    (hspc : card.sectorsPerCluster = 1)
    (hpayloads : stage0Payloads kernelElf dtb = .ok (stage0Files kernelElf dtb checksums))
    (hsizes : ∀ file ∈ fileSpecs card 3 (stage0Files kernelElf dtb checksums), file.layout.size < 2 ^ 32)
    (hlabel : card.volumeLabel.length = 11)
    (htable : fatSizeSectors card.bootPartitionSectorCount 32 2 1 = some (fatSectors, (clusterCount : ℤ)))
    (hlarge : 65525 ≤ clusterCount)
    (hused : usedClusters (fileSpecs card 3 (stage0Files kernelElf dtb checksums)) + 2 ≤ clusterCount)
    (hclusters : clusterCount < 2 ^ 32) (hfat : fatSectors < 2 ^ 32)
    (hlba : card.bootPartitionLba + card.bootPartitionSectorCount < 2 ^ 32)
    (hroot : card.rootPartitionSectorCount < 2 ^ 32)
    (hrootfs : ceilDiv rootfs.length SECTOR_SIZE ≤ card.rootPartitionSectorCount) :
    ∃ image, sdCardImage card kernelElf dtb rootfs = .ok image := by
  have hfiles : filePayloads card kernelElf dtb = .ok (stage0Files kernelElf dtb checksums) := by
    rw [filePayloads, hformat]
    exact hpayloads
  have hfitting := filePayloads_fitting hfiles
  have hnone : ∀ file ∈ fileSpecs card 3 (stage0Files kernelElf dtb checksums), file.longName = none := by
    simp [fileSpecs, stage0Files]
  rw [← hspc] at htable
  obtain ⟨p, hp⟩ := exists_parts hfitting hspc.ge hsizes (hspc.trans_lt (by decide)) hnone hlabel htable hlarge hused
    (by omega) (by omega) hclusters hfat
  obtain ⟨mbr, hmbr⟩ : ∃ mbr, masterBootRecord card = .ok mbr :=
    ⟨_, masterBootRecord_eq_ok.2 ⟨by omega, by omega, hlba, hroot, rfl⟩⟩
  exact ⟨_, sdCardImage_eq_ok.2 ⟨_, p, _, mbr, hfiles, ⟨hfitting, hp, rfl, hmbr, hrootfs, rfl⟩⟩⟩

/-- The card that the builder makes by default. -/
def sampleCard : CardLayout :=
  ⟨2048, 131072, 32768, 1, ascii "L64BOOT    ", .stage0, LITTLE64_LINUX_RAM_BASE, 0x04000000, LITTLE64_LINUX_RAM_BASE⟩

/-- A kernel of one sector, with a second segment that has no bytes in the file and is given at its end. -/
def sampleKernel : Blob :=
  patched (zeros 512)
    [⟨0, [0x7F, 0x45, 0x4C, 0x46, 2, 1]⟩, ⟨18, le 2 (0x4C36 : BitVec 16)⟩, ⟨24, le 8 (0x40000000 : BitVec 64)⟩,
      ⟨32, le 8 (64 : BitVec 64)⟩, ⟨54, le 2 (56 : BitVec 16)⟩, ⟨56, le 2 (2 : BitVec 16)⟩,
      ⟨64, le 4 (1 : BitVec 32)⟩, ⟨80, le 8 (0x40000000 : BitVec 64)⟩, ⟨96, le 8 (512 : BitVec 64)⟩,
      ⟨104, le 8 (512 : BitVec 64)⟩, ⟨120, le 4 (1 : BitVec 32)⟩, ⟨128, le 8 (512 : BitVec 64)⟩,
      ⟨136, le 8 (0x40001000 : BitVec 64)⟩, ⟨160, le 8 (4096 : BitVec 64)⟩]

lemma parse_sampleKernel : parseLittle64ElfLoadSegments sampleKernel =
    .ok ⟨0x40000000, [⟨0, 0x40000000, 512, 512⟩, ⟨512, 0x40001000, 0, 4096⟩], 0x40000000, 0x40002000⟩ := by
  decide +kernel

lemma length_sampleKernel : sampleKernel.length = 512 := by decide +kernel

lemma flatten_sampleKernel : ∃ k, flattenLittle64LinuxElfImage sampleKernel LITTLE64_LINUX_RAM_BASE = .ok k ∧
    k.image.length = 8192 := by
  have hfirst : (part sampleKernel 0 512).length = 512 := length_part (by rw [length_sampleKernel])
  have hsecond : (part sampleKernel 512 0).length = 0 := rfl
  have hinner : (patch (List.replicate 8192 0) 0 (part sampleKernel 0 512)).length = _ :=
    length_patch (by rw [hfirst, List.length_replicate]; decide)
  have houter : (patch (patch (List.replicate 8192 0) 0 (part sampleKernel 0 512)) 4096 (part sampleKernel 512 0)).length
      = _ := length_patch (by rw [hinner, hsecond, List.length_replicate]; decide)
  have hlength := houter.trans (hinner.trans List.length_replicate)
  rw [flattenLittle64LinuxElfImage, parse_sampleKernel]
  exact ⟨_, rfl, hlength⟩

lemma serialize_eq_ok (kernelCrc : BitVec 32) {kernelSize : ℕ} (hkernel : kernelSize < 2 ^ 32) (dtbCrc : BitVec 32)
    {dtbSize : ℕ} (hdtb : dtbSize < 2 ^ 32) :
    ∃ bytes, serializeSdBootChecksums ⟨kernelCrc, kernelSize, dtbCrc, dtbSize⟩ = .ok bytes ∧ bytes.length = 32 := by
  have hpack : ∀ {value : ℕ}, value < 2 ^ 32 → packU32 value = .ok (u32Bytes value) :=
    fun hvalue => packU32_eq_ok.2 ⟨hvalue, rfl⟩
  rw [serializeSdBootChecksums, hpack (by decide), hpack (by decide), hpack hkernel, hpack hdtb, hpack (by decide)]
  refine ⟨_, rfl, ?_⟩
  simp

lemma exists_sampleCard : ∃ image, sdCardImage sampleCard sampleKernel [] [] = .ok image := by
  obtain ⟨k, hflatten, hlength⟩ := flatten_sampleKernel
  obtain ⟨bytes, hbytes, hsize⟩ := serialize_eq_ok (crc32 k.image) (hlength.trans_lt (by decide)) (crc32 [])
    (show 0 < 2 ^ 32 by decide)
  have hpayloads : stage0Payloads sampleKernel [] = .ok (stage0Files sampleKernel [] bytes) := by
    rw [stage0Payloads, buildSdBootChecksums, hflatten]
    change (serializeSdBootChecksums ⟨crc32 k.image, k.image.length, crc32 [], 0⟩ >>= _) = _
    rw [hbytes]
    rfl
  have hfiles : fileSpecs sampleCard 3 (stage0Files sampleKernel [] bytes) =
      [⟨⟨fat32ShortName "VMLINUX" "", 3, 512⟩, sampleKernel, none, 1⟩,
        ⟨⟨fat32ShortName "BOOT" "DTB", 4, 0⟩, [], none, 1⟩, ⟨⟨fat32ShortName "BOOT" "CRC", 5, 32⟩, bytes, none, 1⟩] := by
    have hkernel : max 1 (ceilDiv 512 (clusterSize sampleCard)) = 1 := by decide
    have hdtb : max 1 (ceilDiv 0 (clusterSize sampleCard)) = 1 := by decide
    have hcrc : max 1 (ceilDiv 32 (clusterSize sampleCard)) = 1 := by decide
    simp only [stage0Files, fileSpecs, length_sampleKernel, hsize, List.length_nil, hkernel, hdtb, hcrc]
  have hsizes : ∀ file ∈ fileSpecs sampleCard 3 (stage0Files sampleKernel [] bytes), file.layout.size < 2 ^ 32 := by
    rw [hfiles]
    simp
  have htable : fatSizeSectors sampleCard.bootPartitionSectorCount 32 2 1 = some (1024, ((128992 : ℕ) : ℤ)) := by decide
  refine exists_card rfl rfl hpayloads hsizes rfl htable (by decide) ?_ (by decide) (by decide) (by decide) (by decide)
    (by decide)
  rw [usedClusters, hfiles]
  simp

end Samples

theorem fat32_round_trip_sample : ∃ image, sdCardImage sampleCard sampleKernel [] [] = .ok image ∧
    ReadsBack (imageDisk image) KERNEL_NAME sampleKernel 0 512 := by
  obtain ⟨image, hbuild⟩ := exists_sampleCard
  refine ⟨image, hbuild, ?_⟩
  apply ((fat32_round_trip_iff rfl rfl hbuild List.mem_cons_self).2 0 512 (by rw [length_sampleKernel])).2
  exact ⟨by decide, fun hbehind => absurd hbehind.1 (by decide)⟩

/-- The loader cannot load a segment without bytes that is given at the end of such a kernel. -/
theorem behind_chain_not_read : ∃ image, sdCardImage sampleCard sampleKernel [] [] = .ok image ∧
    ¬ ReadsBack (imageDisk image) KERNEL_NAME sampleKernel 512 0 := by
  obtain ⟨image, hbuild⟩ := exists_sampleCard
  refine ⟨image, hbuild, ?_⟩
  obtain ⟨checksums, p, partition, mbr, h⟩ := stage0Card_of_build rfl hbuild
  have hlength := length_sampleKernel
  rw [readsBack_iff h rfl List.mem_cons_self (by rw [hlength]), not_and, not_not]
  intro _
  refine ⟨rfl, hlength.symm, fun hempty => ?_, ⟨1, hlength⟩⟩
  rw [hempty] at hlength
  cases hlength

end RoundTrip

end Little64.Boot

import Little64.Boot.Fat32Layout

/-! What a boot partition and a card are put together from, and where their parts are found in them. -/

namespace Little64.Boot

open CheckedAccess LittleEndian ByteFile PatchedImage
open Placement (Block Ascending)

variable {card : CardLayout} {kernelElf dtb rootfs partition image : Blob} {files : List FileSpec} {file : FileSpec}

section Sectors

lemma boot_fit (hlabel : card.volumeLabel.length = 11) (lba count fat root : ℕ) :
    Fit 0 512 (bootBlocks card (u32Bytes lba) (u32Bytes count) (u32Bytes fat) root) := by
  apply Fit.of_ascending
  simp [bootBlocks, Ascending, Block.stop, hlabel, ascii]

lemma fsinfo_fit (free next : ℕ) : Fit 0 512 (fsinfoBlocks (u32Bytes free) (u32Bytes next)) := by
  apply Fit.of_ascending
  simp [fsinfoBlocks, Ascending, Block.stop, ascii]

lemma dirEntry_fit {layout : FileLayout} (hname : layout.shortName.length = 11) :
    Fit 0 32 (dirEntryBlocks layout (u32Bytes layout.size)) := by
  apply Fit.of_ascending
  simp [dirEntryBlocks, Ascending, Block.stop, hname]

lemma partition_fit (start count : ℕ) (partitionType : Byte) :
    Fit 0 16 (partitionBlocks (u32Bytes start) (u32Bytes count) partitionType) := by
  apply Fit.of_ascending
  simp [partitionBlocks, Ascending, Block.stop]

lemma fit_zeros {n : ℕ} {blocks : List Block} (h : Fit 0 n blocks) : Fit 0 (zeros n).length blocks := by
  rwa [length_zeros]

lemma length_filled {n : ℕ} {blocks : List Block} (h : Fit 0 n blocks) : (patched (zeros n) blocks).length = n :=
  (length_patched (fit_zeros h).inside).trans (length_zeros n)

end Sectors

section Builds

lemma guarded_eq_ok {β : Type} {P : Prop} [Decidable P] {e : BuildError} {f : PUnit → Build β} {b : β} :
    (if P then reject e >>= f else f ()) = .ok b ↔ ¬ P ∧ f () = .ok b := by
  by_cases hP : P
  · rw [if_pos hP]
    exact iff_of_false (fun h => by cases h) fun h => h.1 hP
  · rw [if_neg hP, and_iff_right hP]

/-- The sectors of a boot partition, before they are written into it. -/
structure BootParts where
  fatSectors : ℕ
  clusterCount : ℕ
  fat : Blob
  boot : Blob
  fsinfo : Blob
  rootDir : Blob

def usedClusters (files : List FileSpec) : ℕ := 1 + (files.map FileSpec.clusters).sum

def BootParts.firstDataSector (p : BootParts) : ℕ := 32 + 2 * p.fatSectors

def BootParts.blocks (p : BootParts) (card : CardLayout) (files : List FileSpec) : List Block :=
  [⟨0, p.boot⟩, ⟨SECTOR_SIZE, p.fsinfo⟩, ⟨6 * SECTOR_SIZE, p.boot⟩, ⟨7 * SECTOR_SIZE, p.fsinfo⟩,
    ⟨32 * SECTOR_SIZE, p.fat⟩, ⟨(32 + p.fatSectors) * SECTOR_SIZE, p.fat⟩,
    ⟨p.firstDataSector * SECTOR_SIZE, p.rootDir⟩] ++ (files.map (fileBlocks card p.firstDataSector)).flatten

/-- Every check of the builder is passed, and the parts are those that it computes. -/
structure BuiltFrom (card : CardLayout) (files : List FileSpec) (p : BootParts) : Prop where
  cluster : 1 ≤ card.sectorsPerCluster
  label : card.volumeLabel.length = 11
  table : fatSizeSectors card.bootPartitionSectorCount 32 2 card.sectorsPerCluster =
    some (p.fatSectors, (p.clusterCount : ℤ))
  large : 65525 ≤ p.clusterCount
  used : usedClusters files + 2 ≤ p.clusterCount
  fat : fatBytes p.fatSectors p.clusterCount (fatEntries 2 files) = .ok p.fat
  boot : bootSector card p.fatSectors 2 = .ok p.boot
  fsinfo : fsinfoSector (p.clusterCount - usedClusters files) (2 + usedClusters files) = .ok p.fsinfo
  rootDir : rootDirectory card files = .ok p.rootDir

/-- Three files with short names of full length, whose long names take at most one entry each. -/
structure Fitting (payloads : List FilePayload) : Prop where
  count : payloads.length = 3
  names : ∀ file ∈ payloads, file.shortName.length = 11
  long : ∀ file ∈ payloads, ∀ longName, file.longName = some longName → (lfnUnits longName).length = 13

lemma stage0Payloads_eq_ok {payloads : List FilePayload} (h : stage0Payloads kernelElf dtb = .ok payloads) :
    ∃ checksums, payloads = [⟨fat32ShortName "VMLINUX" "", kernelElf, none⟩, ⟨fat32ShortName "BOOT" "DTB", dtb, none⟩,
      ⟨fat32ShortName "BOOT" "CRC", checksums, none⟩] := by
  rw [stage0Payloads, bind_eq_ok] at h
  obtain ⟨checksums, _, h⟩ := h
  rw [bind_eq_ok] at h
  obtain ⟨bytes, _, h⟩ := h
  exact ⟨bytes, (Except.ok.inj h).symm⟩

lemma litexBiosPayloads_eq_ok {payloads : List FilePayload} (h : litexBiosPayloads card kernelElf dtb = .ok payloads) :
    ∃ image json, payloads = [⟨fat32ShortName "BOOT" "BIN", image, some "boot.bin"⟩,
      ⟨fat32ShortName "BOOT" "DTB", dtb, some "boot.dtb"⟩, ⟨fat32ShortName "BOOTJSN" "JSN", json, some "boot.json"⟩] := by
  rw [litexBiosPayloads, bind_eq_ok] at h
  obtain ⟨base, _, h⟩ := h
  rw [bind_eq_ok] at h
  obtain ⟨image, _, h⟩ := h
  simp only [guarded_eq_ok] at h
  exact ⟨_, _, (Except.ok.inj h.2.2).symm⟩

lemma filePayloads_fitting {payloads : List FilePayload} (h : filePayloads card kernelElf dtb = .ok payloads) :
    Fitting payloads := by
  rw [filePayloads] at h
  split at h
  · obtain ⟨checksums, rfl⟩ := stage0Payloads_eq_ok h
    refine ⟨rfl, ?_, ?_⟩
    · simp only [List.forall_mem_cons]
      exact ⟨rfl, rfl, rfl, fun file hfile => absurd hfile List.not_mem_nil⟩
    · simp
  · obtain ⟨image, json, rfl⟩ := litexBiosPayloads_eq_ok h
    refine ⟨rfl, ?_, ?_⟩
    · simp only [List.forall_mem_cons]
      exact ⟨rfl, rfl, rfl, fun file hfile => absurd hfile List.not_mem_nil⟩
    · simp only [List.forall_mem_cons, Option.some.injEq, forall_eq']
      exact ⟨by decide, by decide, by decide, fun file hfile => absurd hfile List.not_mem_nil⟩

lemma mapM_eq_ok {α β : Type} {f : α → Build β} {P : α → Prop} {g : α → β} {l : List α} {bs : List β}
    (hf : ∀ a ∈ l, ∀ b, f a = .ok b ↔ P a ∧ g a = b) : l.mapM f = .ok bs ↔ (∀ a ∈ l, P a) ∧ l.map g = bs := by
  induction l generalizing bs with
  | nil =>
    change Except.ok [] = Except.ok bs ↔ _
    exact ⟨fun h => ⟨fun a ha => absurd ha List.not_mem_nil, Except.ok.inj h⟩, fun h => congrArg Except.ok h.2⟩
  | cons a l ih =>
    have hhead := hf a List.mem_cons_self
    have htail := fun bs => @ih bs fun a' ha' => hf a' (List.mem_cons_of_mem _ ha')
    rw [List.mapM_cons, bind_eq_ok, List.forall_mem_cons, List.map_cons]
    constructor
    · rintro ⟨b, hb, h⟩
      obtain ⟨bs', hbs, h⟩ := bind_eq_ok.1 h
      obtain rfl := Except.ok.inj h
      obtain ⟨hP, rfl⟩ := (hhead b).1 hb
      obtain ⟨hall, rfl⟩ := (htail bs').1 hbs
      exact ⟨⟨hP, hall⟩, rfl⟩
    · rintro ⟨⟨hP, hall⟩, rfl⟩
      exact ⟨g a, (hhead (g a)).2 ⟨hP, rfl⟩, bind_eq_ok.2 ⟨l.map g, (htail _).2 ⟨hall, rfl⟩, rfl⟩⟩

def dirEntry (file : FileLayout) : Blob := patched (zeros 32) (dirEntryBlocks file (u32Bytes file.size))

lemma fileDirEntry_eq_ok {layout : FileLayout} {entry : Blob} :
    fileDirEntry layout = .ok entry ↔ layout.size < 2 ^ 32 ∧ dirEntry layout = entry := by
  rw [fileDirEntry, packU32_bind_eq_ok, pure_eq_ok]
  rfl

lemma mapM_forall {α β : Type} {f : α → Build β} {l : List α} {bs : List β} (h : l.mapM f = .ok bs) :
    List.Forall₂ (fun a b => f a = .ok b) l bs := by
  induction l generalizing bs with
  | nil =>
    obtain rfl := Except.ok.inj (h : Except.ok [] = _)
    exact .nil
  | cons a l ih =>
    rw [List.mapM_cons, bind_eq_ok] at h
    obtain ⟨b, hb, h⟩ := h
    obtain ⟨bs', hbs, h⟩ := bind_eq_ok.1 h
    obtain rfl := Except.ok.inj h
    exact .cons hb (ih hbs)

lemma length_lfnEntry (shortName : Blob) (sequence : ℕ) (chunk : List ℕ) :
    (lfnEntry shortName sequence chunk).length = 32 := by
  have hunits : ∀ (start count : ℕ), (((chunk.drop start).take count).flatMap fun unit =>
      le 2 (BitVec.ofNat 16 unit)).length ≤ 2 * count := fun start count => by
    rw [length_flatMap fun unit _ => length_le 2 _]
    exact Nat.mul_le_mul_left 2 (List.length_take_le _ _)
  have hfirst := hunits 0 5
  have hsecond := hunits 5 6
  have hthird := hunits 11 2
  refine (length_patched ?_).trans (length_zeros 32)
  simp only [List.forall_mem_cons, Block.stop, length_zeros, List.length_singleton]
  refine ⟨by omega, by omega, by omega, by omega, by omega, by omega, by omega, fun b hb => absurd hb List.not_mem_nil⟩

lemma buildFat32LfnEntries_eq_ok {longName : String} {shortName : Blob} {entries : List Blob}
    (h : buildFat32LfnEntries longName shortName = .ok entries) (hlong : (lfnUnits longName).length = 13) :
    entries.length = 1 ∧ ∀ entry ∈ entries, entry.length = 32 := by
  rw [buildFat32LfnEntries] at h
  simp only [guarded_eq_ok] at h
  obtain rfl := Except.ok.inj h.2.2
  refine ⟨?_, fun entry hentry => ?_⟩
  · rw [List.length_map, List.length_range, hlong]
  · obtain ⟨index, _, rfl⟩ := List.mem_map.1 hentry
    exact length_lfnEntry _ _ _

/-- A file has its entry, and at most one more before it. -/
lemma dirEntries_eq_ok {entries : List Blob} (h : dirEntries file = .ok entries)
    (hlong : ∀ longName, file.longName = some longName → (lfnUnits longName).length = 13) :
    file.layout.size < 2 ^ 32 ∧ ∃ long : List Blob, long.length ≤ 1 ∧ long ++ [dirEntry file.layout] = entries ∧
      (∀ entry ∈ long, entry.length = 32) ∧ (file.longName = none → long = []) := by
  rw [dirEntries] at h
  cases hname : file.longName with
  | none =>
    rw [hname] at h
    obtain ⟨entry, hentry, h⟩ := bind_eq_ok.1 (h : fileDirEntry file.layout >>= _ = _)
    obtain ⟨hsize, rfl⟩ := fileDirEntry_eq_ok.1 hentry
    exact ⟨hsize, [], Nat.zero_le _, Except.ok.inj h, fun entry hentry => absurd hentry List.not_mem_nil, fun _ => rfl⟩
  | some longName =>
    rw [hname] at h
    obtain ⟨long, hentries, h⟩ := bind_eq_ok.1 (h : buildFat32LfnEntries longName file.layout.shortName >>= _ = _)
    obtain ⟨entry, hentry, h⟩ := bind_eq_ok.1 h
    obtain ⟨hsize, rfl⟩ := fileDirEntry_eq_ok.1 hentry
    obtain ⟨hcount, hsizes⟩ := buildFat32LfnEntries_eq_ok hentries (hlong longName hname)
    exact ⟨hsize, long, hcount.le, Except.ok.inj h, hsizes, fun hnone => by cases hnone⟩

lemma bootSector_eq_ok {fatSectors : ℕ} {boot : Blob} :
    bootSector card fatSectors 2 = .ok boot ↔ card.sectorsPerCluster < 256 ∧ card.bootPartitionLba < 2 ^ 32 ∧
      card.bootPartitionSectorCount < 2 ^ 32 ∧ fatSectors < 2 ^ 32 ∧ patched (zeros SECTOR_SIZE)
        (bootBlocks card (u32Bytes card.bootPartitionLba) (u32Bytes card.bootPartitionSectorCount) (u32Bytes fatSectors)
          2) = boot := by
  rw [bootSector, guarded_eq_ok, not_le]
  simp only [packU32_bind_eq_ok, pure_eq_ok]

lemma fsinfoSector_eq_ok {free next : ℕ} {fsinfo : Blob} :
    fsinfoSector free next = .ok fsinfo ↔ free < 2 ^ 32 ∧ next < 2 ^ 32 ∧
      patched (zeros SECTOR_SIZE) (fsinfoBlocks (u32Bytes free) (u32Bytes next)) = fsinfo := by
  rw [fsinfoSector, packU32_bind_eq_ok, packU32_bind_eq_ok, pure_eq_ok]

lemma fatBytes_eq_ok {fatSectors clusterCount : ℕ} {entries : ℕ → ℕ} {fat : Blob} :
    fatBytes fatSectors clusterCount entries = .ok fat ↔ (∀ index < clusterCount + 2, entries index < 2 ^ 32) ∧
      patched (zeros (fatSectors * SECTOR_SIZE))
        ((List.range (clusterCount + 2)).map fun index => ⟨0 + 4 * index, u32Bytes (entries index)⟩) = fat := by
  rw [fatBytes]
  by_cases hlarge : ∃ index < clusterCount + 2, 2 ^ 32 ≤ entries index
  · rw [if_pos hlarge]
    obtain ⟨index, hindex, hentry⟩ := hlarge
    exact iff_of_false (fun h => by cases h) fun h => absurd (h.1 index hindex) (not_lt.2 hentry)
  · rw [if_neg hlarge]
    simp only [not_exists, not_and, not_le] at hlarge
    exact ⟨fun h => ⟨hlarge, Except.ok.inj h⟩, fun h => congrArg Except.ok h.2⟩

lemma partitionEntry_eq_ok {start count : ℕ} {partitionType : Byte} {entry : Blob} :
    partitionEntry start count partitionType = .ok entry ↔ start < 2 ^ 32 ∧ count < 2 ^ 32 ∧
      patched (zeros 16) (partitionBlocks (u32Bytes start) (u32Bytes count) partitionType) = entry := by
  rw [partitionEntry, packU32_bind_eq_ok, packU32_bind_eq_ok, pure_eq_ok]

/-- The directory of files without long names, which are those of the stage-0 format. -/
lemma rootDirectory_eq_ok {rootDir : Blob} (hnone : ∀ file ∈ files, file.longName = none) :
    rootDirectory card files = .ok rootDir ↔ (∀ file ∈ files, file.layout.size < 2 ^ 32) ∧
      patched (zeros (clusterSize card)) (rootBlocks (files.map fun file => dirEntry file.layout)) = rootDir := by
  have hentries : ∀ file ∈ files, ∀ entries, dirEntries file = .ok entries ↔
      file.layout.size < 2 ^ 32 ∧ [dirEntry file.layout] = entries := fun file hfile entries => by
    rw [dirEntries, hnone file hfile]
    simp only [bind_eq_ok, fileDirEntry_eq_ok]
    constructor
    · rintro ⟨entry, ⟨hsize, rfl⟩, h⟩
      exact ⟨hsize, Except.ok.inj h⟩
    · rintro ⟨hsize, rfl⟩
      exact ⟨_, ⟨hsize, rfl⟩, rfl⟩
  have hflatten : (files.map fun file => [dirEntry file.layout]).flatten = files.map fun file => dirEntry file.layout := by
    rw [← List.flatMap_def, List.map_eq_flatMap]
  rw [rootDirectory, bind_eq_ok]
  constructor
  · rintro ⟨entries, h, hdir⟩
    obtain ⟨hsizes, rfl⟩ := (mapM_eq_ok hentries).1 h
    rw [hflatten] at hdir
    exact ⟨hsizes, Except.ok.inj hdir⟩
  · rintro ⟨hsizes, rfl⟩
    refine ⟨_, (mapM_eq_ok hentries).2 ⟨hsizes, rfl⟩, ?_⟩
    rw [hflatten]
    rfl

lemma dirEntries_lengths {entries : List (List Blob)} (h : files.mapM dirEntries = .ok entries)
    (hnames : ∀ file ∈ files, file.layout.shortName.length = 11)
    (hlong : ∀ file ∈ files, ∀ longName, file.longName = some longName → (lfnUnits longName).length = 13) :
    (∀ file ∈ files, file.layout.size < 2 ^ 32) ∧ entries.flatten.length ≤ 2 * files.length ∧
      ∀ entry ∈ entries.flatten, entry.length = 32 := by
  have hall := mapM_forall h
  clear h
  induction hall with
  | nil => exact ⟨fun file hfile => absurd hfile List.not_mem_nil, le_rfl, fun entry hentry => absurd hentry List.not_mem_nil⟩
  | @cons file own files entries hown _ ih =>
    obtain ⟨hsizes, hcount, hentries⟩ := ih (fun f hf => hnames f (List.mem_cons_of_mem _ hf))
      fun f hf => hlong f (List.mem_cons_of_mem _ hf)
    obtain ⟨hsize, long, hone, rfl, hlengths, _⟩ := dirEntries_eq_ok hown (hlong file List.mem_cons_self)
    rw [List.flatten_cons, List.forall_mem_cons, List.length_append, List.length_append, List.length_singleton,
      List.length_cons]
    refine ⟨⟨hsize, hsizes⟩, by omega, fun entry hentry => ?_⟩
    rcases List.mem_append.1 hentry with hentry | hentry
    · rcases List.mem_append.1 hentry with hentry | hentry
      · exact hlengths entry hentry
      · rw [List.mem_singleton.1 hentry]
        exact length_filled (dirEntry_fit (hnames file List.mem_cons_self))
    · exact hentries entry hentry

lemma dirEntry_mem {entries : List (List Blob)} (h : files.mapM dirEntries = .ok entries)
    (hlong : ∀ file ∈ files, ∀ longName, file.longName = some longName → (lfnUnits longName).length = 13)
    (hfile : file ∈ files) : dirEntry file.layout ∈ entries.flatten := by
  have hall := mapM_forall h
  clear h
  induction hall with
  | nil => exact absurd hfile List.not_mem_nil
  | @cons first own files entries hown _ ih =>
    rw [List.flatten_cons]
    rcases List.mem_cons.1 hfile with rfl | hfile
    · obtain ⟨_, long, _, rfl, _⟩ := dirEntries_eq_ok hown (hlong _ List.mem_cons_self)
      apply List.mem_append_left
      exact List.mem_append_right _ (List.mem_singleton_self _)
    · apply List.mem_append_right
      exact ih (fun f hf => hlong f (List.mem_cons_of_mem _ hf)) hfile

section Files

variable {payloads : List FilePayload} (hspc : 1 ≤ card.sectorsPerCluster) (hcount : payloads.length = 3)
  (hsizes : ∀ file ∈ fileSpecs card 3 payloads, file.layout.size < 2 ^ 32)

lemma length_fileSpecs (next : ℕ) (payloads : List FilePayload) : (fileSpecs card next payloads).length = payloads.length := by
  induction payloads generalizing next with
  | nil => rfl
  | cons p payloads ih => rw [fileSpecs, List.length_cons, ih, List.length_cons]

variable (hfile : file ∈ fileSpecs card 3 payloads)

include hfile

/-- The clusters of a file are chained in their order. -/
lemma fatEntries_of_mem {k : ℕ} (hk : k < file.clusters) :
    fatEntries 2 (fileSpecs card 3 payloads) (file.layout.firstCluster + k) =
      if k + 1 = file.clusters then 0x0FFFFFFF else file.layout.firstCluster + k + 1 := by
  have hchain := chain_of_mem (c := file.layout.firstCluster + k)
    (Function.update (Function.update (Function.update (fun _ => 0) 0 0x0FFFFFF8) 1 0xFFFFFFFF) 2 0x0FFFFFFF) hfile
    ⟨Nat.le_add_right _ _, by omega⟩
  refine hchain.trans ?_
  by_cases hlast : k + 1 = file.clusters
  · rw [if_pos hlast, if_pos (by omega)]
  · rw [if_neg hlast, if_neg (by omega)]

omit hfile

include hspc hcount hsizes

/-- The chains of the three files stay far below the numbers that end a chain. -/
lemma usedClusters_lt : usedClusters (fileSpecs card 3 payloads) < 0x02000000 := by
  have hclusters : ∀ n ∈ (fileSpecs card 3 payloads).map FileSpec.clusters, n ≤ 2 ^ 23 := by
    intro n hn
    obtain ⟨file, hfile, rfl⟩ := List.mem_map.1 hn
    have hlen := hsizes file hfile
    have hplaced := placed_of_mem hfile
    have hcluster : 512 * 2 ^ 23 ≤ clusterSize card * 2 ^ 23 := by
      apply Nat.mul_le_mul_right
      rw [clusterSize, SECTOR_SIZE]
      omega
    have hceil : ceilDiv file.payload.length (clusterSize card) ≤ 2 ^ 23 := by
      rw [ceilDiv_le_iff (clusterSize_pos hspc), ← hplaced.size]
      omega
    rw [hplaced.clusters]
    omega
  have hsum := List.sum_le_card_nsmul _ _ hclusters
  rw [List.length_map, length_fileSpecs, hcount] at hsum
  rw [usedClusters]
  change _ ≤ 3 * 2 ^ 23 at hsum
  omega

include hfile

lemma stop_lt : file.layout.firstCluster + file.clusters < 0x0FFFFFF8 := by
  have hused := usedClusters_lt hspc hcount hsizes
  have hstop := (placed_of_mem hfile).stop
  rw [usedClusters] at hused
  omega

lemma writeFile_of_mem (firstDataSector : ℕ) :
    writeFile card (fatEntries 2 (fileSpecs card 3 payloads)) firstDataSector file.payload.length
      file.layout.firstCluster file.payload = .ok (fileBlocks card firstDataSector file) := by
  have hplaced := placed_of_mem hfile
  have hclusters := hplaced.clusters
  have hstart := hplaced.start
  have hstop := stop_lt hspc hcount hsizes hfile
  have hchain : ∀ k, k + 1 < ceilDiv file.payload.length (clusterSize card) →
      fatEntries 2 (fileSpecs card 3 payloads) (file.layout.firstCluster + k) = file.layout.firstCluster + k + 1 :=
    fun k hk => by rw [fatEntries_of_mem hfile (by omega), if_neg (by omega)]
  have hrounds : ceilDiv file.payload.length (clusterSize card) ≤ file.payload.length := by
    rw [ceilDiv_le_iff (clusterSize_pos hspc)]
    exact Nat.le_mul_of_pos_left _ (clusterSize_pos hspc)
  change writeFile card _ firstDataSector _ (file.layout.firstCluster + 0)
    (file.payload.drop (clusterSize card * 0)) = _
  rw [writeFile_eq hspc (by omega) hchain (by omega) (by omega), fileBlocks, Nat.sub_zero]
  simp only [Nat.zero_add]

end Files

/-- A directory that could be built: no file is too large, and there are at most six entries. -/
lemma rootDirectory_spec {payloads : List FilePayload} {rootDir : Blob} (hfitting : Fitting payloads)
    (h : rootDirectory card (fileSpecs card 3 payloads) = .ok rootDir) :
    (∀ file ∈ fileSpecs card 3 payloads, file.layout.size < 2 ^ 32) ∧ ∃ entries : List Blob,
      patched (zeros (clusterSize card)) (rootBlocks entries) = rootDir ∧ entries.length ≤ 6 ∧
      (∀ entry ∈ entries, entry.length = 32) ∧ ∀ file ∈ fileSpecs card 3 payloads, dirEntry file.layout ∈ entries := by
  rw [rootDirectory, bind_eq_ok] at h
  obtain ⟨entries, hentries, h⟩ := h
  have hlong : ∀ file ∈ fileSpecs card 3 payloads, ∀ longName, file.longName = some longName →
      (lfnUnits longName).length = 13 := fun file hfile => hfitting.long _ (placed_of_mem hfile).source
  obtain ⟨hsizes, hcount, hlengths⟩ := dirEntries_lengths hentries
    (fun file hfile => hfitting.names _ (placed_of_mem hfile).source) hlong
  rw [length_fileSpecs, hfitting.count] at hcount
  exact ⟨hsizes, entries.flatten, Except.ok.inj h, hcount, hlengths, fun file hfile => dirEntry_mem hentries hlong hfile⟩

/-- The builder succeeds exactly when the parts can be built, and puts them together. -/
lemma buildFat32BootPartition_eq_ok : buildFat32BootPartition card kernelElf dtb = .ok partition ↔
    ∃ payloads p, filePayloads card kernelElf dtb = .ok payloads ∧ BuiltFrom card (fileSpecs card 3 payloads) p ∧
      patched (zeros (card.bootPartitionSectorCount * SECTOR_SIZE)) (p.blocks card (fileSpecs card 3 payloads)) =
        partition := by
  rw [buildFat32BootPartition]
  simp only [guarded_eq_ok]
  constructor
  · rintro ⟨hspc, hlabel, h⟩
    have hspc := not_lt.1 hspc
    cases htable : fatSizeSectors card.bootPartitionSectorCount 32 2 card.sectorsPerCluster with
    | none =>
      rw [htable] at h
      cases h
    | some table =>
      obtain ⟨fatSectors, count⟩ := table
      rw [htable] at h
      simp only [guarded_eq_ok, bind_eq_ok] at h
      obtain ⟨hlarge, payloads, hpayloads, hused, fat, hfat, boot, hboot, fsinfo, hfsinfo, rootDir, hrootDir, blocks,
        hblocks, h⟩ := h
      have hfitting := filePayloads_fitting hpayloads
      have hcount : ((count.toNat : ℕ) : ℤ) = count := by omega
      have hsizes := (rootDirectory_spec hfitting hrootDir).1
      rw [mapM_ok fun file hfile => writeFile_of_mem hspc hfitting.count hsizes hfile _] at hblocks
      obtain rfl := Except.ok.inj hblocks
      refine ⟨payloads, ⟨fatSectors, count.toNat, fat, boot, fsinfo, rootDir⟩, hpayloads, ?_, Except.ok.inj h⟩
      refine ⟨hspc, not_not.1 hlabel, ?_, ?_, not_lt.1 hused, hfat, hboot, hfsinfo, hrootDir⟩
      · rw [hcount]
        exact htable
      · change 65525 ≤ count.toNat
        omega
  · rintro ⟨payloads, p, hpayloads, hp, rfl⟩
    have hfitting := filePayloads_fitting hpayloads
    have hsizes := (rootDirectory_spec hfitting hp.rootDir).1
    rw [hp.table]
    simp only [guarded_eq_ok, bind_eq_ok]
    refine ⟨not_lt.2 hp.cluster, not_not.2 hp.label, ?_, _, hpayloads, not_lt.2 hp.used, p.fat, hp.fat, p.boot, hp.boot,
      p.fsinfo, hp.fsinfo, p.rootDir, hp.rootDir, _,
      mapM_ok fun file hfile => writeFile_of_mem hp.cluster hfitting.count hsizes hfile _, rfl⟩
    have hlarge := hp.large
    omega

end Builds

section Partition

variable {payloads : List FilePayload} {p : BootParts} (hfitting : Fitting payloads)
  (hp : BuiltFrom card (fileSpecs card 3 payloads) p)

lemma length_fsinfo {free next : ℕ} {fsinfo : Blob} (h : fsinfoSector free next = .ok fsinfo) : fsinfo.length = 512 := by
  rw [← (fsinfoSector_eq_ok.1 h).2.2]
  exact length_filled (fsinfo_fit _ _)

include hp

lemma table_spec : 1 ≤ p.fatSectors ∧
    p.firstDataSector + p.clusterCount * card.sectorsPerCluster ≤ card.bootPartitionSectorCount ∧
    (p.clusterCount + 2) * 4 ≤ 512 * p.fatSectors := by
  obtain ⟨hpos, hcount, hroom⟩ := fatSizeLoop_spec le_rfl hp.table
  have hlarge := hp.large
  have hspc : (0 : ℤ) < card.sectorsPerCluster := by exact_mod_cast hp.cluster
  have hdata : (p.clusterCount : ℤ) * card.sectorsPerCluster ≤
      card.bootPartitionSectorCount - (32 : ℕ) - (2 : ℕ) * p.fatSectors := by
    rw [hcount, clustersBeside]
    exact Int.ediv_mul_le _ hspc.ne'
  have hcast : ((p.clusterCount * card.sectorsPerCluster : ℕ) : ℤ) = p.clusterCount * card.sectorsPerCluster :=
    Nat.cast_mul _ _
  rw [BootParts.firstDataSector]
  omega

lemma length_boot : p.boot.length = 512 := by
  rw [← (bootSector_eq_ok.1 hp.boot).2.2.2.2]
  exact length_filled (boot_fit hp.label _ _ _ _)

lemma fat_fit : Fit 0 (512 * p.fatSectors) ((List.range (p.clusterCount + 2)).map fun index =>
    ⟨0 + 4 * index, u32Bytes (fatEntries 2 (fileSpecs card 3 payloads) index)⟩) := by
  have hroom := (table_spec hp).2.2
  apply (fit_table 0 4 (p.clusterCount + 2) fun index _ => (length_u32Bytes _).le).mono le_rfl
  omega

lemma fat_eq : p.fat = patched (zeros (512 * p.fatSectors)) ((List.range (p.clusterCount + 2)).map fun index =>
    ⟨0 + 4 * index, u32Bytes (fatEntries 2 (fileSpecs card 3 payloads) index)⟩) := by
  rw [← (fatBytes_eq_ok.1 hp.fat).2, SECTOR_SIZE, Nat.mul_comm]

lemma length_fat : p.fat.length = 512 * p.fatSectors := by
  rw [fat_eq hp]
  exact length_filled (fat_fit hp)

omit hp in
/-- The entries of a directory and the zero byte behind them fit into its first sector. -/
lemma root_fit {entries : List Blob} (hcount : entries.length ≤ 6) (hlengths : ∀ entry ∈ entries, entry.length = 32) :
    Fit 0 512 (rootBlocks entries) := by
  have hentries : (entries.zipIdx.map fun entry => (⟨32 * entry.2, entry.1⟩ : Block)) =
      (List.range entries.length).map fun k => ⟨0 + 32 * k, entries.getD k []⟩ := by
    apply List.ext_getElem
    · simp
    · intro k hk _
      have hk : k < entries.length := by simpa using hk
      simp [hk]
  have htable : ∀ k < entries.length, (entries.getD k []).length ≤ 32 := fun k hk => by
    rw [List.getD_eq_getElem _ _ hk, hlengths _ (List.getElem_mem hk)]
  have hlast : Fit (32 * entries.length) (32 * entries.length + 1) [⟨32 * entries.length, [0]⟩] := by
    apply Fit.of_ascending
    exact ⟨le_rfl, le_rfl, trivial⟩
  have hfit := (fit_table 0 32 entries.length htable).append (hlast.mono (Nat.zero_add _).le le_rfl) (Nat.zero_le _)
    (by omega)
  rw [rootBlocks, hentries]
  exact hfit.mono le_rfl (by omega)

include hfitting

lemma length_rootDir : p.rootDir.length = clusterSize card := by
  have hspc := hp.cluster
  obtain ⟨_, entries, hrootDir, hcount, hlengths, _⟩ := rootDirectory_spec hfitting hp.rootDir
  rw [← hrootDir]
  apply length_filled ((root_fit hcount hlengths).mono le_rfl _)
  rw [clusterSize, SECTOR_SIZE]
  omega

/-- No part of the partition is written over another one. -/
lemma blocks_fit : Fit 0 (512 * card.bootPartitionSectorCount) (p.blocks card (fileSpecs card 3 payloads)) := by
  obtain ⟨hpos, hsize, _⟩ := table_spec hp
  have hused := hp.used
  rw [usedClusters] at hused
  have hfiles : Fit (512 * p.firstDataSector + clusterSize card * (3 - 2)) _
      ((fileSpecs card 3 payloads).flatMap (fileBlocks card p.firstDataSector)) :=
    fileBlocks_fit _ _ (by omega)
  have hclusters : clusterSize card * (3 - 2 + ((fileSpecs card 3 payloads).map FileSpec.clusters).sum) ≤
      clusterSize card * p.clusterCount := Nat.mul_le_mul_left _ (by omega)
  have hroot : clusterSize card * (3 - 2) ≤ clusterSize card * p.clusterCount := Nat.mul_le_mul_left _ (by omega)
  have hdata : clusterSize card * p.clusterCount = 512 * (p.clusterCount * card.sectorsPerCluster) := by
    rw [clusterSize, SECTOR_SIZE]
    ring
  rw [List.flatMap_def] at hfiles
  rw [BootParts.blocks]
  refine Fit.append (Fit.of_ascending ?_) (hfiles.mono le_rfl ?_) (Nat.zero_le _) ?_
  · simp only [List.cons_append, List.nil_append, Ascending, Block.stop, length_boot hp, length_fsinfo hp.fsinfo,
      length_fat hp, length_rootDir hfitting hp, SECTOR_SIZE, BootParts.firstDataSector, and_true]
    omega
  · omega
  · omega

section Reads

variable (hpartition : patched (zeros (card.bootPartitionSectorCount * SECTOR_SIZE))
  (p.blocks card (fileSpecs card 3 payloads)) = partition)

include hpartition

lemma part_block {b : Block} {o n : ℕ} (hb : b ∈ p.blocks card (fileSpecs card 3 payloads))
    (ho : o + n ≤ b.bytes.length) : part partition (b.base + o) n = part b.bytes o n := by
  rw [← hpartition, SECTOR_SIZE, Nat.mul_comm]
  exact part_patched (fit_zeros (blocks_fit hfitting hp)) hb ho

lemma part_whole_block {b : Block} (hb : b ∈ p.blocks card (fileSpecs card 3 payloads)) :
    part partition b.base b.bytes.length = b.bytes := by
  rw [← hpartition, SECTOR_SIZE, Nat.mul_comm]
  exact part_patched_all (fit_zeros (blocks_fit hfitting hp)) hb

lemma length_partition : partition.length = 512 * card.bootPartitionSectorCount := by
  rw [← hpartition, SECTOR_SIZE, Nat.mul_comm]
  exact length_filled (blocks_fit hfitting hp)

lemma part_boot : part partition 0 512 = p.boot := by
  have hboot : (⟨0, p.boot⟩ : Block) ∈ p.blocks card (fileSpecs card 3 payloads) := by simp [BootParts.blocks]
  have hpart := part_whole_block hfitting hp hpartition hboot
  rwa [length_boot hp] at hpart

lemma part_rootDir : part partition (512 * p.firstDataSector) (clusterSize card) = p.rootDir := by
  have hroot : (⟨p.firstDataSector * SECTOR_SIZE, p.rootDir⟩ : Block) ∈ p.blocks card (fileSpecs card 3 payloads) := by
    simp [BootParts.blocks]
  have hpart := part_whole_block hfitting hp hpartition hroot
  rw [length_rootDir hfitting hp] at hpart
  rw [Nat.mul_comm]
  exact hpart

/-- Both tables hold the entries. -/
lemma field_fat {c table : ℕ} (htable : table < 2) (hc : c < p.clusterCount + 2) :
    field 32 partition (512 * (32 + table * p.fatSectors) + 4 * c) 4 =
      BitVec.ofNat 32 (fatEntries 2 (fileSpecs card 3 payloads) c) := by
  have hroom := (table_spec hp).2.2
  have hlength := length_fat hp
  have hfat : (⟨(32 + table * p.fatSectors) * SECTOR_SIZE, p.fat⟩ : Block) ∈
      p.blocks card (fileSpecs card 3 payloads) := by
    obtain rfl | rfl : table = 0 ∨ table = 1 := by omega
    · simp [BootParts.blocks]
    · simp [BootParts.blocks]
  have hpart : part partition ((32 + table * p.fatSectors) * SECTOR_SIZE + 4 * c) 4 = part p.fat (4 * c) 4 :=
    part_block hfitting hp hpartition hfat (by
      change 4 * c + 4 ≤ p.fat.length
      omega)
  rw [Nat.mul_comm 512]
  refine (field_congr 32 hpart).trans ?_
  rw [fat_eq hp]
  refine field_patched_le (fit_zeros (fat_fit hp)) ?_ rfl
  exact List.mem_map.2 ⟨c, List.mem_range.2 hc, by rw [Nat.zero_add]; rfl⟩

lemma part_file {k o n : ℕ} (hfile : file ∈ fileSpecs card 3 payloads) (ho : o + n ≤ clusterSize card)
    (hn : clusterSize card * k + o + n ≤ file.payload.length) :
    part partition (512 * p.firstDataSector + clusterSize card * (file.layout.firstCluster - 2) + clusterSize card * k
      + o) n = part file.payload (clusterSize card * k + o) n := by
  by_cases hzero : n = 0
  · rw [hzero]
    rfl
  have hk : k < ceilDiv file.payload.length (clusterSize card) := by
    rw [← not_le, ceilDiv_le_iff (clusterSize_pos hp.cluster)]
    omega
  have hblock : (⟨512 * p.firstDataSector + clusterSize card * (file.layout.firstCluster - 2) + clusterSize card * k,
      part file.payload (clusterSize card * k) (clusterSize card)⟩ : Block) ∈
      p.blocks card (fileSpecs card 3 payloads) := by
    apply List.mem_append_right
    apply List.mem_flatten.2
    exact ⟨_, List.mem_map.2 ⟨file, hfile, rfl⟩, List.mem_map.2 ⟨k, List.mem_range.2 hk, rfl⟩⟩
  have hlength : o + n ≤ (part file.payload (clusterSize card * k) (clusterSize card)).length := by
    rw [part, List.length_take, List.length_drop]
    omega
  have hpart := part_block hfitting hp hpartition hblock hlength
  rw [part_part _ _ ho] at hpart
  exact hpart

end Reads

end Partition

section Success

variable {payloads : List FilePayload} (hfitting : Fitting payloads) (hspc : 1 ≤ card.sectorsPerCluster)
  (hsizes : ∀ file ∈ fileSpecs card 3 payloads, file.layout.size < 2 ^ 32)

include hfitting hspc hsizes

lemma fatEntries_lt (c : ℕ) : fatEntries 2 (fileSpecs card 3 payloads) c < 2 ^ 32 := by
  by_cases hchain : ∃ file ∈ fileSpecs card 3 payloads,
      file.layout.firstCluster ≤ c ∧ c < file.layout.firstCluster + file.clusters
  · obtain ⟨file, hfile, hstart, hend⟩ := hchain
    have hstop := stop_lt hspc hfitting.count hsizes hfile
    have hentry := fatEntries_of_mem (k := c - file.layout.firstCluster) hfile (by omega)
    rw [Nat.add_sub_of_le hstart] at hentry
    rw [hentry]
    split <;> omega
  · simp only [not_exists, not_and] at hchain
    have houtside : ∀ (files : List FileSpec) (entries : ℕ → ℕ),
        (∀ file ∈ files, file.layout.firstCluster ≤ c → ¬ c < file.layout.firstCluster + file.clusters) →
        files.foldl chainFile entries c = entries c := fun files entries hout => by
      induction files generalizing entries with
      | nil => rfl
      | cons file files ih =>
        have hfile := hout file List.mem_cons_self
        rw [List.foldl_cons, ih _ fun f hf => hout f (List.mem_cons_of_mem _ hf), chainFile_apply,
          if_neg fun hin => hfile hin.1 hin.2]
    rw [fatEntries, houtside _ _ hchain]
    simp only [Function.update_apply]
    split <;> [skip; split <;> [skip; split]] <;> decide

/-- The parts can be built where the table, the sizes and the partition fit. -/
lemma exists_parts {fatSectors clusterCount : ℕ} (hcluster : card.sectorsPerCluster < 256)
    (hnone : ∀ file ∈ fileSpecs card 3 payloads, file.longName = none) (hlabel : card.volumeLabel.length = 11)
    (htable : fatSizeSectors card.bootPartitionSectorCount 32 2 card.sectorsPerCluster =
      some (fatSectors, (clusterCount : ℤ)))
    (hlarge : 65525 ≤ clusterCount) (hused : usedClusters (fileSpecs card 3 payloads) + 2 ≤ clusterCount)
    (hlba : card.bootPartitionLba < 2 ^ 32) (hcount : card.bootPartitionSectorCount < 2 ^ 32)
    (hclusters : clusterCount < 2 ^ 32) (hsectors : fatSectors < 2 ^ 32) :
    ∃ p, BuiltFrom card (fileSpecs card 3 payloads) p := by
  have hused' := usedClusters_lt hspc hfitting.count hsizes
  obtain ⟨fat, hfat⟩ : ∃ fat, fatBytes fatSectors clusterCount (fatEntries 2 (fileSpecs card 3 payloads)) = .ok fat :=
    ⟨_, fatBytes_eq_ok.2 ⟨fun index _ => fatEntries_lt hfitting hspc hsizes index, rfl⟩⟩
  obtain ⟨boot, hboot⟩ : ∃ boot, bootSector card fatSectors 2 = .ok boot :=
    ⟨_, bootSector_eq_ok.2 ⟨hcluster, hlba, hcount, hsectors, rfl⟩⟩
  obtain ⟨fsinfo, hfsinfo⟩ : ∃ fsinfo, fsinfoSector (clusterCount - usedClusters (fileSpecs card 3 payloads))
      (2 + usedClusters (fileSpecs card 3 payloads)) = .ok fsinfo :=
    ⟨_, fsinfoSector_eq_ok.2 ⟨by omega, by omega, rfl⟩⟩
  obtain ⟨rootDir, hrootDir⟩ : ∃ rootDir, rootDirectory card (fileSpecs card 3 payloads) = .ok rootDir :=
    ⟨_, (rootDirectory_eq_ok hnone).2 ⟨hsizes, rfl⟩⟩
  exact ⟨⟨fatSectors, clusterCount, fat, boot, fsinfo, rootDir⟩, hspc, hlabel, htable, hlarge, hused, hfat, hboot, hfsinfo,
    hrootDir⟩

end Success

section Card

lemma masterBootRecord_eq_ok {mbr : Blob} : masterBootRecord card = .ok mbr ↔ card.bootPartitionLba < 2 ^ 32 ∧
    card.bootPartitionSectorCount < 2 ^ 32 ∧ card.bootPartitionLba + card.bootPartitionSectorCount < 2 ^ 32 ∧
    card.rootPartitionSectorCount < 2 ^ 32 ∧ patched (zeros 512)
      (mbrBlocks (patched (zeros 16) (partitionBlocks (u32Bytes card.bootPartitionLba)
        (u32Bytes card.bootPartitionSectorCount) 0x0C)) (patched (zeros 16) (partitionBlocks
        (u32Bytes (card.bootPartitionLba + card.bootPartitionSectorCount)) (u32Bytes card.rootPartitionSectorCount)
        0x83))) = mbr := by
  rw [masterBootRecord, bind_eq_ok]
  constructor
  · rintro ⟨boot, hboot, h⟩
    obtain ⟨root, hroot, h⟩ := bind_eq_ok.1 h
    obtain ⟨hlba, hcount, rfl⟩ := partitionEntry_eq_ok.1 hboot
    obtain ⟨hrootLba, hrootCount, rfl⟩ := partitionEntry_eq_ok.1 hroot
    exact ⟨hlba, hcount, hrootLba, hrootCount, Except.ok.inj h⟩
  · rintro ⟨hlba, hcount, hrootLba, hrootCount, rfl⟩
    exact ⟨_, partitionEntry_eq_ok.2 ⟨hlba, hcount, rfl⟩,
      bind_eq_ok.2 ⟨_, partitionEntry_eq_ok.2 ⟨hrootLba, hrootCount, rfl⟩, rfl⟩⟩

variable (card) in
lemma mbr_fit : Fit 0 512 (mbrBlocks (patched (zeros 16) (partitionBlocks (u32Bytes card.bootPartitionLba)
    (u32Bytes card.bootPartitionSectorCount) 0x0C)) (patched (zeros 16) (partitionBlocks
    (u32Bytes (card.bootPartitionLba + card.bootPartitionSectorCount)) (u32Bytes card.rootPartitionSectorCount)
    0x83))) := by
  apply Fit.of_ascending
  simp [mbrBlocks, Ascending, Block.stop, length_filled (partition_fit _ _ _)]

def imageBlocks (card : CardLayout) (mbr partition rootfs : Blob) : List Block :=
  [⟨0, mbr⟩, ⟨card.bootPartitionLba * SECTOR_SIZE, partition⟩,
    ⟨(card.bootPartitionLba + card.bootPartitionSectorCount) * SECTOR_SIZE, rootfs⟩]

def diskSectors (card : CardLayout) : ℕ :=
  card.bootPartitionLba + card.bootPartitionSectorCount + card.rootPartitionSectorCount

/-- What a card that the builder returned consists of. -/
structure OnCard (card : CardLayout) (payloads : List FilePayload) (rootfs : Blob) (p : BootParts)
    (partition mbr image : Blob) : Prop where
  fitting : Fitting payloads
  parts : BuiltFrom card (fileSpecs card 3 payloads) p
  filled : patched (zeros (card.bootPartitionSectorCount * SECTOR_SIZE)) (p.blocks card (fileSpecs card 3 payloads)) =
    partition
  record : masterBootRecord card = .ok mbr
  fits : ceilDiv rootfs.length SECTOR_SIZE ≤ card.rootPartitionSectorCount
  written : patched (zeros (diskSectors card * SECTOR_SIZE)) (imageBlocks card mbr partition rootfs) = image

/-- The builder returns an image exactly when all of these can be built. -/
lemma sdCardImage_eq_ok : sdCardImage card kernelElf dtb rootfs = .ok image ↔
    ∃ payloads p partition mbr, filePayloads card kernelElf dtb = .ok payloads ∧
      OnCard card payloads rootfs p partition mbr image := by
  rw [sdCardImage]
  simp only [guarded_eq_ok, bind_eq_ok, composeSdCardImage, not_lt]
  constructor
  · rintro ⟨hrootfs, partition, hpartition, mbr, hmbr, himage⟩
    obtain ⟨payloads, p, hpayloads, hp, hparts⟩ := buildFat32BootPartition_eq_ok.1 hpartition
    exact ⟨payloads, p, partition, mbr, hpayloads, filePayloads_fitting hpayloads, hp, hparts, hmbr, hrootfs,
      Except.ok.inj himage⟩
  · rintro ⟨payloads, p, partition, mbr, hpayloads, h⟩
    refine ⟨h.fits, partition, buildFat32BootPartition_eq_ok.2 ⟨payloads, p, hpayloads, h.parts, h.filled⟩, mbr,
      h.record, ?_⟩
    exact congrArg Except.ok h.written

section Image

variable {payloads : List FilePayload} {p : BootParts} {mbr : Blob} (h : OnCard card payloads rootfs p partition mbr image)

include h

lemma length_mbr : mbr.length = 512 := by
  rw [← (masterBootRecord_eq_ok.1 h.record).2.2.2.2]
  exact length_filled (mbr_fit card)

/-- The numbers of all sectors of the boot partition fit into 32 bits. -/
lemma stop_lba_lt : card.bootPartitionLba + card.bootPartitionSectorCount < 2 ^ 32 :=
  (masterBootRecord_eq_ok.1 h.record).2.2.1

lemma dataSectors_le : p.firstDataSector + p.clusterCount ≤ card.bootPartitionSectorCount := by
  have hdata := (table_spec h.parts).2.1
  have hclusters : p.clusterCount ≤ p.clusterCount * card.sectorsPerCluster :=
    Nat.le_mul_of_pos_right _ h.parts.cluster
  omega

lemma imageBlocks_inside : ∀ b ∈ imageBlocks card mbr partition rootfs,
    b.stop ≤ (zeros (diskSectors card * SECTOR_SIZE)).length := by
  have hmbr := length_mbr h
  have hpartition := length_partition h.fitting h.parts h.filled
  have hcount := dataSectors_le h
  have hlarge := h.parts.large
  have hrootfs := h.fits
  rw [ceilDiv] at hrootfs
  simp only [imageBlocks, List.forall_mem_cons, Block.stop, length_zeros, diskSectors, SECTOR_SIZE, hmbr,
    hpartition] at hrootfs ⊢
  refine ⟨by omega, by omega, by omega, fun b hb => absurd hb List.not_mem_nil⟩

lemma length_image : image.length = diskSectors card * SECTOR_SIZE := by
  rw [← h.written]
  exact (length_patched (imageBlocks_inside h)).trans (length_zeros _)

/-- The boot partition is written behind the boot record and before the root partition. -/
lemma part_image {o n : ℕ} (ho : o + n ≤ 512 * card.bootPartitionSectorCount) :
    part image (512 * card.bootPartitionLba + o) n = part partition o n := by
  have hpartition := length_partition h.fitting h.parts h.filled
  have hbehind : ∀ b' ∈ [(⟨(card.bootPartitionLba + card.bootPartitionSectorCount) * SECTOR_SIZE, rootfs⟩ : Block)],
      (⟨card.bootPartitionLba * SECTOR_SIZE, partition⟩ : Block).stop ≤ b'.base := by
    simp only [List.forall_mem_singleton, Block.stop, SECTOR_SIZE, hpartition]
    omega
  rw [← h.written, Nat.mul_comm 512 card.bootPartitionLba]
  exact part_patched_last [⟨0, mbr⟩] _ (imageBlocks_inside h) hbehind (ho.trans_eq hpartition.symm)

end Image

end Card

end Little64.Boot

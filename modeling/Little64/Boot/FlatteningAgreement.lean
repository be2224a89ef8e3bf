import Little64.Boot.KernelHeaders
import Little64.Emulator.LoadAtomicity
import Little64.Emulator.MachineRegions
import Little64.Library.BitFields

/-! The kernel image of the boot image builder and of the emulator's loader: on which files they are the same. -/

namespace Little64.Boot

open CheckedAccess LittleEndian ByteFile PatchedImage

open Emulator.ElfImage (Copied HeadersInside Image Loader ReachesHeaders Safe SegmentFits allocate
  contained_afterScan_iff contained_copies_iff contained_loadImage_iff contained_scan_iff copies_ok copySegment
  copySegment_eq directPaged ehdr extent headerAt headerOffset headerOffset_exact_iff headerPlace headers imageBase
  imageOffset imageSize lastHeaderFits_iff loadImage ptLoad readPhdr scanHeader scan_ok segments_iff)
open Emulator.ProgramLoading

section Builder

def ParsedElf.flattened (p : ParsedElf) (file : Blob) : Blob :=
  p.segments.foldl (fun image s => patch image (s.vaddr - p.virtualBase) (part file s.offset s.filesz))
    (List.replicate p.span 0)

/-- The entry point in physical memory, if it is in the window of the kernel's addresses or of the physical ones. -/
def ParsedElf.entryFor (p : ParsedElf) (kernelPhysicalBase : ℕ) : Option ℕ :=
  if p.virtualBase ≤ p.entry ∧ p.entry < p.virtualBase + p.span then
    some (kernelPhysicalBase + (p.entry - p.virtualBase))
  else if kernelPhysicalBase ≤ p.entry ∧ p.entry < kernelPhysicalBase + p.span then some p.entry
  else none

def LinuxElfImage.dtbPhysicalAddress (kernel : LinuxElfImage) (kernelPhysicalBase : ℕ) : ℕ :=
  kernelPhysicalBase + alignUp (kernel.imageSpan + EARLY_PT_SCRATCH_PAGES * PAGE_SIZE) PAGE_SIZE

variable {file : Blob} {base : ℕ} {kernel : LinuxElfImage}

lemma flatten_eq_ok_iff : flattenLittle64LinuxElfImage file base = .ok kernel ↔
    ∃ p entry, parseLittle64ElfLoadSegments file = .ok p ∧ p.entryFor base = some entry ∧
      kernel = ⟨p.flattened file, p.span, p.virtualBase, entry⟩ := by
  rw [flattenLittle64LinuxElfImage, bind_eq_ok]
  apply exists_congr
  intro p
  rw [exists_and_left]
  apply and_congr_right
  intro hp
  change (if p.virtualBase ≤ p.entry ∧ p.entry < p.virtualBase + p.span then _ else
    if base ≤ p.entry ∧ p.entry < base + p.span then _ else _) = _ ↔ _
  rw [ParsedElf.entryFor]
  split
  · constructor
    · intro h
      exact ⟨_, rfl, (Except.ok.inj h).symm⟩
    · rintro ⟨entry, hentry, rfl⟩
      rw [← Option.some.inj hentry]
      rfl
  split
  · constructor
    · intro h
      exact ⟨_, rfl, (Except.ok.inj h).symm⟩
    · rintro ⟨entry, hentry, rfl⟩
      rw [← Option.some.inj hentry]
      rfl
  · constructor
    · intro h
      cases h
    · rintro ⟨entry, hentry, -⟩
      cases hentry

end Builder

section Copies

variable {file : Blob} {p : ParsedElf} {n : ℕ} (hp : parseLittle64ElfLoadSegments file = .ok p)

lemma mem_segments {i : ℕ} (hi : i < n) (hload : (headerAt file i).type = ptLoad) :
    segmentAt file i ∈ (loadSegments file n).segments := by
  induction n with
  | zero => exact absurd hi (Nat.not_lt_zero i)
  | succ n ih =>
    rw [loadSegments_succ, LoadSegments.addHeader]
    rcases Nat.lt_succ_iff_lt_or_eq.mp hi with hlt | rfl
    · split
      · exact List.mem_append_left _ (ih hlt)
      · exact ih hlt
    · rw [if_pos hload]
      exact List.mem_append_right _ (List.mem_singleton_self _)

lemma exists_of_mem_segments {s : LoadSegment} (hs : s ∈ (loadSegments file n).segments) :
    ∃ i < n, (headerAt file i).type = ptLoad ∧ segmentAt file i = s := by
  induction n with
  | zero => cases hs
  | succ n ih =>
    rw [loadSegments_succ, LoadSegments.addHeader] at hs
    have hbefore : s ∈ (loadSegments file n).segments →
        ∃ i < n + 1, (headerAt file i).type = ptLoad ∧ segmentAt file i = s := by
      intro h
      obtain ⟨i, hi, hsegment⟩ := ih h
      exact ⟨i, by omega, hsegment⟩
    split at hs
    · next hload =>
      rcases List.mem_append.mp hs with hs | hs
      · exact hbefore hs
      · exact ⟨n, by omega, hload, (List.mem_singleton.mp hs).symm⟩
    · exact hbefore hs

include hp

lemma segments_parsed : (loadSegments file (headers file)).segments = p.segments := by
  obtain ⟨-, -, -, -, hp⟩ := parse_eq_ok.mp hp
  rw [hp]

lemma toNat_imageOffset {i : ℕ} (hi : i < headers file) (hload : (headerAt file i).type = ptLoad) :
    (imageOffset file i).toNat = (segmentAt file i).vaddr - p.virtualBase := by
  obtain ⟨hbase, -, -, hplaces, -⟩ := parsed_places hp
  have hmem := mem_segments hi hload
  rw [segments_parsed hp] at hmem
  have hlower := (hplaces _ hmem).1
  change p.minVaddr ≤ (headerAt file i).vaddr.toNat at hlower
  have hvaddr := (headerAt file i).vaddr.isLt
  rw [imageOffset, BitVec.toNat_sub, toNat_imageBase hp]
  change _ = (headerAt file i).vaddr.toNat - _
  omega

lemma copies_eq (hexact : ∀ i < headers file, (headerOffset Loader.directPaged.variant file i).toNat = headerPlace file i)
    (hinside : HeadersInside file (headers file)) (hn : n ≤ headers file) {start ram : Blob}
    (h : (List.range n).foldlM (copySegment Loader.directPaged.variant file (imageBase file)) start = .ok ram) :
    ram = (loadSegments file n).segments.foldl
      (fun image s => patch image (s.vaddr - p.virtualBase) (part file s.offset s.filesz)) start := by
  induction n generalizing ram with
  | zero => exact (Except.ok.inj h).symm
  | succ n ih =>
    have hone : ∀ ram, [n].foldlM (copySegment Loader.directPaged.variant file (imageBase file)) ram =
        copySegment Loader.directPaged.variant file (imageBase file) ram n := fun ram => by
      rw [List.foldlM_cons]
      exact bind_pure _
    rw [List.range_succ, List.foldlM_append] at h
    obtain ⟨mid, hmid, hlast⟩ := bind_eq_ok.mp h
    rw [hone, copySegment_eq (l := .directPaged) (hexact n (by omega)) (hinside n (by omega))] at hlast
    rw [loadSegments_succ, LoadSegments.addHeader]
    split at hlast
    · next hskip =>
      rw [if_neg hskip, ← Except.ok.inj hlast]
      exact ih (by omega) hmid
    · next hload =>
      rw [not_not] at hload
      split at hlast
      · cases hlast
      · rw [copy] at hlast
        split at hlast
        · rw [if_pos hload]
          change ram = (_ ++ [_]).foldl _ start
          rw [List.foldl_append, ← ih (by omega) hmid, ← Except.ok.inj hlast, toNat_imageOffset hp (by omega) hload]
          rfl
        · cases hlast

end Copies

section Loader

variable {file : Blob} {available : ℕ} {image : Image} {p : ParsedElf}

lemma headers_exact (htable : (ehdr file).phoff.toNat + headers file * (ehdr file).phentsize.toNat ≤ file.length)
    (hlen : file.length < 2 ^ 63) :
    ∀ i < headers file, (headerOffset Loader.directPaged.variant file i).toNat = headerPlace file i := by
  intro i hi
  have hbefore : i * (ehdr file).phentsize.toNat ≤ headers file * (ehdr file).phentsize.toNat :=
    Nat.mul_le_mul_right _ hi.le
  have hproduct : i * (ehdr file).phentsize.toNat < 2 ^ 16 * 2 ^ 16 :=
    Nat.mul_lt_mul'' (hi.trans (ehdr file).phnum.isLt) (ehdr file).phentsize.isLt
  rw [headerOffset_exact_iff hi, headerPlace]
  change _ < 2 ^ 32 ∧ _
  omega

lemma toNat_product : (Loader.directPaged.variant.product (ehdr file).phnum (ehdr file).phentsize).toNat =
    headers file * (ehdr file).phentsize.toNat := by
  have hnum := (ehdr file).phnum.isLt
  have hsize := (ehdr file).phentsize.isLt
  have hproduct : (ehdr file).phnum.toNat * (ehdr file).phentsize.toNat < 2 ^ 16 * 2 ^ 16 :=
    Nat.mul_lt_mul'' hnum hsize
  change (BitVec.setWidth 64 _ * BitVec.setWidth 64 _).toNat = _
  rw [BitVec.toNat_mul, BitVec.toNat_setWidth, BitVec.toNat_setWidth,
    Nat.mod_eq_of_lt (a := (ehdr file).phnum.toNat) (by omega),
    Nat.mod_eq_of_lt (a := (ehdr file).phentsize.toNat) (by omega), Nat.mod_eq_of_lt (by omega)]
  rfl

lemma reachesHeaders_of_kernelHeader (h : KernelHeader file) (hlen : file.length < 2 ^ 63) :
    ReachesHeaders .directPaged file where
  size := h.size
  magic := h.magic
  format := h.format
  machine := h.machine
  table := by
    have htable := h.table
    rw [BitVec.toNat_add, toNat_product, Nat.mod_eq_of_lt (by omega)]
    exact htable

/-- A table whose end wraps around is read far behind the file. -/
lemma kernelHeader_of_contained (hlen : file.length < 2 ^ 63) (h : ReachesHeaders .directPaged file)
    (hcontained : Contained (loadImage Loader.directPaged.variant available file)) : KernelHeader file := by
  refine ⟨h.size, h.magic, h.format, h.machine, ?_⟩
  by_contra hbeyond
  have htable := h.table
  rw [BitVec.toNat_add, toNat_product] at htable
  have hphoff := (ehdr file).phoff.isLt
  have hproduct : headers file * (ehdr file).phentsize.toNat < 2 ^ 16 * 2 ^ 16 :=
    Nat.mul_lt_mul'' (ehdr file).phnum.isLt (ehdr file).phentsize.isLt
  have hsome : 0 < headers file := by
    rcases Nat.eq_zero_or_pos (headers file) with hnone | hsome
    · rw [hnone, Nat.zero_mul] at hbeyond htable
      omega
    · exact hsome
  have hfirst : (headerOffset Loader.directPaged.variant file 0).toNat = (ehdr file).phoff.toNat := by
    have hplace : headerPlace file 0 = (ehdr file).phoff.toNat := by rw [headerPlace, Nat.zero_mul, Nat.add_zero]
    rw [(headerOffset_exact_iff hsome).mpr, hplace]
    rw [Nat.zero_mul, hplace]
    exact ⟨by decide, hphoff⟩
  have hscan := (contained_bind.mp (contained_loadImage_iff.mp hcontained h)).1
  rw [contained_foldlM_range] at hscan
  apply hscan 0 .start hsome rfl
  have hfar : ¬ (ehdr file).phoff.toNat + 56 ≤ file.length := by omega
  rw [scanHeader, hfirst, readPhdr, if_neg hfar]
  rfl

/-- A file on which the loader stays inside has a kernel header, so its program headers are where they should be. -/
lemma safe_iff_contained (hlen : file.length < 2 ^ 63) :
    Safe .directPaged available file ↔ Contained (loadImage Loader.directPaged.variant available file) := by
  by_cases hreach : ReachesHeaders .directPaged file
  · constructor
    · rintro ⟨htable, hsegments⟩
      obtain ⟨hexact, hinside⟩ := (lastHeaderFits_iff hlen).mp (htable hreach)
      refine (contained_afterScan_iff hreach hexact).mpr ⟨hinside, fun _ hreached => ?_⟩
      exact (contained_copies_iff hexact hinside).mpr ((segments_iff hlen).mp (hsegments hreached))
    · intro h
      have hexact := headers_exact (kernelHeader_of_contained hlen hreach h).table hlen
      obtain ⟨hinside, hcopies⟩ := (contained_afterScan_iff hreach hexact).mp h
      refine ⟨fun _ => (lastHeaderFits_iff hlen).mpr ⟨hexact, hinside⟩, fun hsegments => ?_⟩
      rw [segments_iff hlen]
      exact (contained_copies_iff hexact hinside).mp (hcopies hinside hsegments)
  · have hrejected : Contained (loadImage Loader.directPaged.variant available file) :=
      contained_loadImage_iff.mpr fun h => absurd h hreach
    exact iff_of_true ⟨fun h => absurd h hreach, fun h => absurd h.toReachesHeaders hreach⟩ hrejected

lemma loadImage_eq_ok (h : KernelHeader file) (hinside : HeadersInside file (headers file)) (hlen : file.length < 2 ^ 63) :
    loadImage Loader.directPaged.variant available file = .ok image ↔
      (extent file (headers file)).foundLoad = true ∧ (imageSize file).toNat ≤ available ∧
        ∃ ram, (List.range (headers file)).foldlM (copySegment Loader.directPaged.variant file (imageBase file))
          (List.replicate (imageSize file).toNat 0) = .ok ram ∧ ⟨imageBase file, ram, (ehdr file).entry⟩ = image := by
  have hreach := reachesHeaders_of_kernelHeader h hlen
  have hscan := scan_ok (l := .directPaged) (headers_exact h.table hlen) le_rfl hinside
  rw [loadImage]
  simp only [check_eq_ok]
  constructor
  · rintro ⟨-, -, -, -, -, h⟩
    obtain ⟨e, he, h⟩ := bind_eq_ok.mp h
    obtain rfl := Except.ok.inj (hscan.symm.trans he)
    rw [check_eq_ok] at h
    obtain ⟨hfound, h⟩ := h
    obtain ⟨start, hstart, h⟩ := bind_eq_ok.mp h
    rw [allocate] at hstart
    split at hstart
    · next hfits =>
      obtain rfl := Except.ok.inj hstart
      obtain ⟨ram, hram, h⟩ := bind_eq_ok.mp h
      exact ⟨Bool.eq_true_of_not_eq_false hfound, hfits, ram, hram, Except.ok.inj h⟩
    · cases hstart
  · rintro ⟨hfound, hfits, ram, hram, rfl⟩
    refine ⟨Nat.not_lt.mpr hreach.size, not_not.mpr hreach.magic, hreach.format, not_not.mpr hreach.machine,
      Nat.not_lt.mpr hreach.table, ?_⟩
    rw [bind_eq_ok]
    refine ⟨_, hscan, ?_⟩
    rw [check_eq_ok, hfound]
    refine ⟨Bool.noConfusion, ?_⟩
    rw [bind_eq_ok]
    refine ⟨_, if_pos hfits, ?_⟩
    rw [bind_eq_ok]
    exact ⟨ram, hram, rfl⟩

/-- What the emulator loads of a file that the builder can parse. -/
lemma loadImage_parsed (hp : parseLittle64ElfLoadSegments file = .ok p) (hlen : file.length < 2 ^ 63) :
    loadImage Loader.directPaged.variant available file = .ok image ↔
      (imageSize file).toNat ≤ available ∧ (∀ i < headers file, Copied .directPaged file i) ∧
        ⟨imageBase file, p.segments.foldl (fun image s => patch image (s.vaddr - p.virtualBase)
          (part file s.offset s.filesz)) (List.replicate (imageSize file).toNat 0), (ehdr file).entry⟩ = image := by
  obtain ⟨hheader, hinside, -⟩ := parse_eq_ok.mp hp
  have hexact := headers_exact hheader.table hlen
  have hfound : (extent file (headers file)).foundLoad = true := (scanned_parsed hp).found
  have hcopies := (copies_ok (l := .directPaged) hexact hinside le_rfl).1
  rw [loadImage_eq_ok hheader hinside hlen]
  constructor
  · rintro ⟨-, hfits, ram, hram, rfl⟩
    refine ⟨hfits, hcopies.mp ⟨ram, hram⟩, ?_⟩
    rw [copies_eq hp hexact hinside le_rfl hram, segments_parsed hp]
  · rintro ⟨hfits, hcopied, rfl⟩
    obtain ⟨ram, hram⟩ := hcopies.mpr hcopied
    refine ⟨hfound, hfits, ram, hram, ?_⟩
    rw [copies_eq hp hexact hinside le_rfl hram, segments_parsed hp]

lemma length_loaded (hp : parseLittle64ElfLoadSegments file = .ok p) (hlen : file.length < 2 ^ 63)
    (himage : loadImage Loader.directPaged.variant available file = .ok image) :
    image.bytes.length = (imageSize file).toNat := by
  obtain ⟨hheader, hinside, -⟩ := parse_eq_ok.mp hp
  obtain ⟨-, -, ram, hram, rfl⟩ := (loadImage_eq_ok hheader hinside hlen).mp himage
  exact (copies_ok (l := .directPaged) (headers_exact hheader.table hlen) hinside le_rfl).2 ram hram

lemma segmentsInside_of_copied (hcopied : ∀ i < headers file, Copied .directPaged file i) :
    SegmentsInside file (headers file) := by
  intro i hi hload
  obtain ⟨hpasses, hfits⟩ := hcopied i hi
  obtain ⟨-, hfile⟩ := hpasses hload rfl
  change (headerAt file i).offset.toNat + (headerAt file i).filesz.toNat ≤ _
  rcases hfits hload with hnone | hinside
  · have hoffset := (headerAt file i).offset.isLt
    rw [BitVec.toNat_add] at hfile
    omega
  · exact hinside.1

/-- The copies succeed where the segments stay in the window. -/
lemma copied_iff (hp : parseLittle64ElfLoadSegments file = .ok p) (hlen : file.length < 2 ^ 63)
    (hsize : (imageSize file).toNat = p.span) (hsmall : p.span ≤ 2 ^ 28) :
    (∀ i < headers file, Copied .directPaged file i) ↔ p.InWindow := by
  obtain ⟨-, -, hinside, -⟩ := parse_eq_ok.mp hp
  have hsegments := segments_parsed hp
  constructor
  · intro hcopied s hs
    rw [← hsegments] at hs
    obtain ⟨i, hi, hload, rfl⟩ := exists_of_mem_segments hs
    rcases (hcopied i hi).2 hload with hnone | ⟨-, hwindow⟩
    · exact .inl hnone
    · rw [toNat_imageOffset hp hi hload, hsize] at hwindow
      exact .inr hwindow
  · intro hwindow i hi
    have hfits : (headerAt file i).type = ptLoad → SegmentFits file i := by
      intro hload
      have hmem := mem_segments hi hload
      rw [hsegments] at hmem
      rcases hwindow _ hmem with hnone | hspan
      · exact .inl hnone
      · rw [SegmentFits, toNat_imageOffset hp hi hload, hsize]
        exact .inr ⟨hinside i hi hload, hspan⟩
    refine ⟨fun hload _ => ?_, hfits⟩
    have hfile := hinside i hi hload
    change (headerAt file i).offset.toNat + (headerAt file i).filesz.toNat ≤ _ at hfile
    have hplace := toNat_imageOffset hp hi hload
    have hmem := mem_segments hi hload
    rw [hsegments] at hmem
    obtain ⟨-, -, -, hplaces, -⟩ := parsed_places hp
    obtain ⟨hlower, -, hlast, hstop, -⟩ := hplaces _ hmem
    rw [BitVec.toNat_add, BitVec.toNat_add, hplace, hsize]
    have hoffset : (segmentAt file i).vaddr - p.virtualBase ≤ p.span := by
      rw [span_eq]
      omega
    rcases hwindow _ hmem with hnone | hspan
    · change (headerAt file i).filesz.toNat = 0 at hnone
      rw [hnone]
      omega
    · change _ + (headerAt file i).filesz.toNat ≤ _ at hspan
      omega

end Loader

section Machines

variable {δ : Type} (model : DeviceModel δ) (available : ℕ) (s : State δ)

/-- The addresses that the emulator's machine takes up, whatever the image holds. -/
def machineSpans (kernelPhysicalBase : Word) : List (Word × Word) :=
  (directPagedConfig ((s.validDisk.map AttachedDisk.path).getD "") ((s.disk.map AttachedDisk.readOnly).getD true)
    ⟨0, [], 0⟩ kernelPhysicalBase).spans model

/-- A kernel that the emulator has started. -/
structure Started (image : Image) (kernelPhysicalBase stackTopReserveBytes : Word) (t : State δ) : Prop where
  fits : image.bytes.length ≤ 2 ^ 28
  apart : Apart (machineSpans model s kernelPhysicalBase)
  entry : entryPhysical image kernelPhysicalBase = some (t.registers.regs 15)
  tree : t.registers.regs 1 = dtbPhys kernelPhysicalBase (BitVec.ofNat 64 image.bytes.length)
  stack : stackTopReserveBytes ≤ litexBootromRamSize

variable {model available s} {file dtb : Blob} {kernelPhysicalBase stackTopReserveBytes : Word} {image : Image} {t : State δ}

lemma spans_eq (image : Image) (diskPath : String) (diskReadOnly : Bool) :
    (directPagedConfig diskPath diskReadOnly image kernelPhysicalBase).spans model =
      (directPagedConfig diskPath diskReadOnly ⟨0, [], 0⟩ kernelPhysicalBase).spans model := rfl

lemma started_of_returns (h : loadProgramElfDirectPaged model available s file kernelPhysicalBase dtb stackTopReserveBytes =
    .returns true t) :
    ∃ image, loadImage Loader.directPaged.variant available file = .ok image ∧
      Started model s image kernelPhysicalBase stackTopReserveBytes t := by
  rw [loadProgramElfDirectPaged, withImage] at h
  split at h
  · cases h
  · cases h
  · cases h
  · next image himage =>
    refine ⟨image, himage, ?_⟩
    split at h
    · cases h
    · next hfits =>
      rw [withMachine] at h
      split at h
      · cases h
      · next machine hmachine =>
        have hapart := (applyTo_iff _ _).mp ⟨machine, hmachine⟩
        cases hentry : entryPhysical image kernelPhysicalBase with
        | none =>
          rw [hentry] at h
          cases h
        | some entry =>
          rw [hentry] at h
          simp only at h
          split at h
          · cases h
          · next hstack =>
            injection h with _ h
            rw [← h]
            exact ⟨Nat.le_of_not_lt hfits, hapart, hentry, rfl, BitVec.not_lt.mp hstack⟩

variable (model available s file kernelPhysicalBase dtb stackTopReserveBytes) in
/-- The emulator makes of a kernel what the builder makes of it: the same bytes, which are as many as the builder says,
the same entry and the same place for the device tree, or nothing. -/
def Agree : Prop :=
  match flattenLittle64LinuxElfImage file kernelPhysicalBase.toNat with
  | .error _ =>
    Contained (loadImage Loader.directPaged.variant available file) ∧
      ∀ t, loadProgramElfDirectPaged model available s file kernelPhysicalBase dtb stackTopReserveBytes ≠ .returns true t
  | .ok kernel => ∃ image t,
    loadImage Loader.directPaged.variant available file = .ok image ∧
      loadProgramElfDirectPaged model available s file kernelPhysicalBase dtb stackTopReserveBytes = .returns true t ∧
      image.bytes = kernel.image ∧ kernel.image.length = kernel.imageSpan ∧
      (t.registers.regs 15).toNat = kernel.entryPhysical ∧
      (t.registers.regs 1).toNat = kernel.dtbPhysicalAddress kernelPhysicalBase.toNat

variable (model available s kernelPhysicalBase stackTopReserveBytes) in
/-- A kernel that neither loader has to cut off, in a machine that has the room for it. -/
structure LoadsAlike (p : ParsedElf) : Prop where
  room : p.span ≤ available
  small : p.span ≤ 2 ^ 28
  window : p.InWindow
  ends : p.EndsTogether
  reached : p.virtualBase ≤ p.entry → p.virtualBase + p.span < 2 ^ 64
  tree : kernelPhysicalBase.toNat + (p.span + EARLY_PT_SCRATCH_PAGES * PAGE_SIZE) < 2 ^ 64
  apart : Apart (machineSpans model s kernelPhysicalBase)
  stack : stackTopReserveBytes ≤ litexBootromRamSize

lemma returns_of_started (dtb : Blob) (himage : loadImage Loader.directPaged.variant available file = .ok image)
    (hfits : image.bytes.length ≤ 2 ^ 28) (hapart : Apart (machineSpans model s kernelPhysicalBase)) {entry : Word}
    (hentry : entryPhysical image kernelPhysicalBase = some entry) (hstack : stackTopReserveBytes ≤ litexBootromRamSize) :
    ∃ t, loadProgramElfDirectPaged model available s file kernelPhysicalBase dtb stackTopReserveBytes = .returns true t := by
  obtain ⟨machine, hmachine⟩ := (applyTo_iff model (directPagedConfig
    ((s.validDisk.map AttachedDisk.path).getD "") ((s.disk.map AttachedDisk.readOnly).getD true) image
    kernelPhysicalBase)).mpr hapart
  have hload : loadImage directPaged available file = .ok image := himage
  have hcheck : ¬ litexBootromRamSize.toNat < image.bytes.length := Nat.not_lt.mpr hfits
  rw [loadProgramElfDirectPaged, withImage, hload]
  simp only
  rw [if_neg hcheck, withMachine, hmachine]
  simp only
  rw [hentry]
  simp only
  rw [if_neg (BitVec.not_lt.mpr hstack)]
  exact ⟨_, rfl⟩

section Entries

variable {p : ParsedElf} (hbase : image.base.toNat = p.virtualBase) (hentry : image.entry.toNat = p.entry)

include hbase hentry

/-- An entry that the emulator finds in one of its windows is in the builder's. -/
lemma entryFor_of_entryPhysical (hbytes : image.bytes.length ≤ p.span)
    (h : entryPhysical image kernelPhysicalBase ≠ none) : p.entryFor kernelPhysicalBase.toNat ≠ none := by
  intro hnone
  apply h
  rw [ParsedElf.entryFor] at hnone
  split at hnone
  · cases hnone
  split at hnone
  · cases hnone
  next hvirtual hphysical =>
  rw [entryPhysical, if_neg ?_, if_neg ?_]
  · rintro ⟨hlower, hupper⟩
    apply hphysical
    rw [BitVec.le_def] at hlower
    rw [BitVec.lt_def, BitVec.toNat_add, BitVec.toNat_ofNat] at hupper
    have hwrapped := Nat.mod_le (kernelPhysicalBase.toNat + image.bytes.length % 2 ^ 64) (2 ^ 64)
    have hbytes' := Nat.mod_le image.bytes.length (2 ^ 64)
    omega
  · rintro ⟨hlower, hupper⟩
    apply hvirtual
    rw [BitVec.le_def] at hlower
    rw [BitVec.lt_def, BitVec.toNat_add, BitVec.toNat_ofNat] at hupper
    have hwrapped := Nat.mod_le (image.base.toNat + image.bytes.length % 2 ^ 64) (2 ^ 64)
    have hbytes' := Nat.mod_le image.bytes.length (2 ^ 64)
    omega

/-- Where the image ends behind the last address, the entry that the builder finds in it is not in the emulator's window. -/
lemma entryPhysical_iff (hbytes : image.bytes.length = p.span) (hsmall : p.span ≤ 2 ^ 28)
    (hroom : kernelPhysicalBase.toNat + p.span < 2 ^ 64) {entry : ℕ}
    (hfor : p.entryFor kernelPhysicalBase.toNat = some entry) :
    (∃ x, entryPhysical image kernelPhysicalBase = some x ∧ x.toNat = entry) ↔
      (p.virtualBase ≤ p.entry → p.virtualBase + p.span < 2 ^ 64) := by
  have hbound := image.base.isLt
  have hentryBound := image.entry.isLt
  have hvirtual : image.base ≤ image.entry ∧ image.entry < image.base + BitVec.ofNat 64 image.bytes.length ↔
      p.virtualBase ≤ p.entry ∧ p.entry < (p.virtualBase + p.span) % 2 ^ 64 := by
    rw [BitVec.le_def, BitVec.lt_def, BitVec.toNat_add, BitVec.toNat_ofNat, hbase, hentry, hbytes,
      Nat.mod_eq_of_lt (a := p.span) (by omega)]
  have hphysical : kernelPhysicalBase ≤ image.entry ∧
      image.entry < kernelPhysicalBase + BitVec.ofNat 64 image.bytes.length ↔
      kernelPhysicalBase.toNat ≤ p.entry ∧ p.entry < kernelPhysicalBase.toNat + p.span := by
    rw [BitVec.le_def, BitVec.lt_def, BitVec.toNat_add, BitVec.toNat_ofNat, hentry, hbytes,
      Nat.mod_eq_of_lt (a := p.span) (by omega), Nat.mod_eq_of_lt hroom]
  rw [entryPhysical]
  simp only [hvirtual, hphysical]
  rw [hbase] at hbound
  rw [hentry] at hentryBound
  rw [ParsedElf.entryFor] at hfor
  constructor
  · rintro ⟨x, hx, rfl⟩ hbelow
    by_contra hbeyond
    rw [if_neg (by omega)] at hx
    rw [if_pos (by omega)] at hfor
    split at hx
    · next hwindow =>
      have hsame := Option.some.inj hfor
      rw [← Option.some.inj hx, hentry] at hsame
      omega
    · cases hx
  · intro hreached
    by_cases hwindow : p.virtualBase ≤ p.entry ∧ p.entry < p.virtualBase + p.span
    · have hfits := hreached hwindow.1
      rw [if_pos hwindow] at hfor
      refine ⟨_, if_pos (by omega), ?_⟩
      rw [BitVec.toNat_add, BitVec.toNat_sub, hbase, hentry, ← Option.some.inj hfor]
      omega
    · rw [if_neg hwindow] at hfor
      split at hfor
      · next hdirect =>
        refine ⟨image.entry, ?_, hentry.trans (Option.some.inj hfor)⟩
        rw [if_neg (by omega), if_pos hdirect]
      · cases hfor

end Entries

lemma toNat_dtbPhys {p : ParsedElf} (hsmall : p.span ≤ 2 ^ 28) :
    (dtbPhys kernelPhysicalBase (BitVec.ofNat 64 p.span)).toNat =
      (kernelPhysicalBase.toNat + (p.span + EARLY_PT_SCRATCH_PAGES * PAGE_SIZE)) % 2 ^ 64 := by
  have hmask : (0xFFF : Word) = BitFields.lowMask 64 12 := rfl
  obtain ⟨pages, hpages⟩ := span_pages p
  rw [PAGE_SIZE] at hpages
  rw [dtbPhys, BitVec.toNat_add, hmask, BitFields.toNat_and_not_lowMask, BitVec.toNat_add, BitVec.toNat_add,
    BitVec.toNat_ofNat]
  change (_ + ((p.span % 2 ^ 64 + 30 * 4096) % 2 ^ 64 + 4095) % 2 ^ 64 / 4096 * 4096) % 2 ^ 64 =
    (_ + (p.span + 30 * 4096)) % 2 ^ 64
  have hplace : ((p.span % 2 ^ 64 + 30 * 4096) % 2 ^ 64 + 4095) % 2 ^ 64 / 4096 * 4096 = p.span + 30 * 4096 := by omega
  rw [hplace]

/-- A file that the emulator has an image of is one that the builder can parse. -/
lemma parsed_of_loaded (hlen : file.length < 2 ^ 63)
    (himage : loadImage Loader.directPaged.variant available file = .ok image) :
    ∃ p, parseLittle64ElfLoadSegments file = .ok p := by
  have hcontained : Contained (loadImage Loader.directPaged.variant available file) := by
    rw [himage]
    exact contained_ok image
  have hreach : ReachesHeaders .directPaged file := by
    have hchecks := himage
    rw [loadImage] at hchecks
    simp only [check_eq_ok] at hchecks
    obtain ⟨hsize, hmagic, hformat, hmachine, htable, -⟩ := hchecks
    exact ⟨Nat.not_lt.mp hsize, not_not.mp hmagic, hformat, not_not.mp hmachine, Nat.not_lt.mp htable⟩
  have hheader := kernelHeader_of_contained hlen hreach hcontained
  have hexact := headers_exact hheader.table hlen
  have hscan := (contained_bind.mp (contained_loadImage_iff.mp hcontained hreach)).1
  have hinside := (contained_scan_iff hexact le_rfl).mp hscan
  obtain ⟨hfound, -, ram, hram, -⟩ := (loadImage_eq_ok hheader hinside hlen).mp himage
  have hcopied := (copies_ok (l := .directPaged) hexact hinside le_rfl).1.mp ⟨ram, hram⟩
  rw [(scanned file (headers file)).found, Option.isSome_iff_exists] at hfound
  obtain ⟨minVaddr, hmin⟩ := hfound
  exact ⟨⟨_, _, minVaddr, _⟩, parse_eq_ok.mpr ⟨hheader, hinside, segmentsInside_of_copied hcopied, hmin, rfl⟩⟩

lemma entry_parsed {p : ParsedElf} (hp : parseLittle64ElfLoadSegments file = .ok p) : (ehdr file).entry.toNat = p.entry := by
  obtain ⟨-, -, -, -, hp⟩ := parse_eq_ok.mp hp
  rw [hp]

lemma not_returns_of_error {fault : Fault BuildError} (hlen : file.length < 2 ^ 63)
    (herror : flattenLittle64LinuxElfImage file kernelPhysicalBase.toNat = .error fault) :
    loadProgramElfDirectPaged model available s file kernelPhysicalBase dtb stackTopReserveBytes ≠ .returns true t := by
  intro hreturns
  obtain ⟨image, himage, hstarted⟩ := started_of_returns hreturns
  obtain ⟨p, hp⟩ := parsed_of_loaded hlen himage
  obtain ⟨-, hcopied, hloaded⟩ := (loadImage_parsed hp hlen).mp himage
  have hbase : image.base.toNat = p.virtualBase := by
    rw [← hloaded]
    exact toNat_imageBase hp
  have hentry : image.entry.toNat = p.entry := by
    rw [← hloaded]
    exact entry_parsed hp
  have hbytes : image.bytes.length ≤ p.span := by
    rw [length_loaded hp hlen himage]
    exact imageSize_le_span hp
  have hfound : entryPhysical image kernelPhysicalBase ≠ none := by
    rw [hstarted.entry]
    exact Option.some_ne_none _
  obtain ⟨entry, hfor⟩ := Option.ne_none_iff_exists'.mp (entryFor_of_entryPhysical hbase hentry hbytes hfound)
  rw [flatten_eq_ok_iff.mpr ⟨p, entry, hp, hfor, rfl⟩] at herror
  cases herror

section Parsed

variable {p : ParsedElf} {entry : ℕ} (hlen : file.length < 2 ^ 63) (hp : parseLittle64ElfLoadSegments file = .ok p)
  (hfor : p.entryFor kernelPhysicalBase.toNat = some entry)

include hlen hp hfor

lemma agree_of_loadsAlike (h : LoadsAlike model available s kernelPhysicalBase stackTopReserveBytes p) :
    Agree model available s file dtb kernelPhysicalBase stackTopReserveBytes := by
  have htree := h.tree
  have hsize := (imageSize_eq_span_iff hp h.small).mpr h.ends
  have hcopied := (copied_iff hp hlen hsize h.small).mpr h.window
  obtain ⟨image, himage⟩ : ∃ image, loadImage Loader.directPaged.variant available file = .ok image :=
    ⟨_, (loadImage_parsed hp hlen).mpr ⟨hsize.le.trans h.room, hcopied, rfl⟩⟩
  have hbytes := (length_loaded hp hlen himage).trans hsize
  obtain ⟨-, -, hloaded⟩ := (loadImage_parsed hp hlen).mp himage
  have hbase : image.base.toNat = p.virtualBase := by
    rw [← hloaded]
    exact toNat_imageBase hp
  have hentry : image.entry.toNat = p.entry := by
    rw [← hloaded]
    exact entry_parsed hp
  have hflattened : image.bytes = p.flattened file := by
    rw [← hloaded, hsize]
    rfl
  obtain ⟨x, hx, hsame⟩ := (entryPhysical_iff hbase hentry hbytes h.small (by omega) hfor).mpr h.reached
  obtain ⟨t, ht⟩ := returns_of_started dtb himage (hbytes.le.trans h.small) h.apart hx h.stack
  obtain ⟨image', himage', hstarted⟩ := started_of_returns ht
  obtain rfl := Except.ok.inj (himage.symm.trans himage')
  rw [Agree, flatten_eq_ok_iff.mpr ⟨p, entry, hp, hfor, rfl⟩]
  refine ⟨image, t, himage, ht, hflattened, ?_, ?_, ?_⟩
  · rw [← hflattened]
    exact hbytes
  · rw [← Option.some.inj (hx.symm.trans hstarted.entry)]
    exact hsame
  · rw [hstarted.tree, hbytes, toNat_dtbPhys h.small, Nat.mod_eq_of_lt htree]
    change _ = _ + alignUp _ _
    rw [alignUp_span]

lemma loadsAlike_of_agree (h : Agree model available s file dtb kernelPhysicalBase stackTopReserveBytes) :
    LoadsAlike model available s kernelPhysicalBase stackTopReserveBytes p := by
  rw [Agree, flatten_eq_ok_iff.mpr ⟨p, entry, hp, hfor, rfl⟩] at h
  obtain ⟨image, t, himage, hreturns, hflattened, hlength, hentered, htree⟩ := h
  obtain ⟨image', himage', hstarted⟩ := started_of_returns hreturns
  obtain rfl := Except.ok.inj (himage.symm.trans himage')
  obtain ⟨hroom, hcopied, hloaded⟩ := (loadImage_parsed hp hlen).mp himage
  have hbytes : image.bytes.length = p.span := by
    rw [hflattened]
    exact hlength
  have hsmall : p.span ≤ 2 ^ 28 := by
    rw [← hbytes]
    exact hstarted.fits
  have hsize := (length_loaded hp hlen himage).symm.trans hbytes
  have hbase : image.base.toNat = p.virtualBase := by
    rw [← hloaded]
    exact toNat_imageBase hp
  have hentry : image.entry.toNat = p.entry := by
    rw [← hloaded]
    exact entry_parsed hp
  have hfits : kernelPhysicalBase.toNat + (p.span + EARLY_PT_SCRATCH_PAGES * PAGE_SIZE) < 2 ^ 64 := by
    have hplace : (t.registers.regs 1).toNat =
        kernelPhysicalBase.toNat + alignUp (p.span + EARLY_PT_SCRATCH_PAGES * PAGE_SIZE) PAGE_SIZE := htree
    rw [alignUp_span] at hplace
    have hbound := (t.registers.regs 1).isLt
    omega
  exact
    { room := hsize.symm.le.trans hroom
      small := hsmall
      window := (copied_iff hp hlen hsize hsmall).mp hcopied
      ends := (imageSize_eq_span_iff hp hsmall).mp hsize
      reached := (entryPhysical_iff hbase hentry hbytes hsmall (by omega) hfor).mp ⟨_, hstarted.entry, hentered⟩
      tree := hfits
      apart := hstarted.apart
      stack := hstarted.stack }

end Parsed

lemma contained_of_agree (h : Agree model available s file dtb kernelPhysicalBase stackTopReserveBytes) :
    Contained (loadImage Loader.directPaged.variant available file) := by
  rw [Agree] at h
  split at h
  · exact h.1
  · obtain ⟨image, -, himage, -⟩ := h
    rw [himage]
    exact contained_ok image

end Machines

/-- The builder and the emulator make the same of a kernel exactly where the emulator stays inside the file and each kernel
with an entry fits into both. -/
theorem agree_iff {δ : Type} (model : DeviceModel δ) (available : ℕ) (s : State δ) (file dtb : Blob)
    (kernelPhysicalBase stackTopReserveBytes : Word) (hlen : file.length < 2 ^ 63) :
    Agree model available s file dtb kernelPhysicalBase stackTopReserveBytes ↔
      Safe .directPaged available file ∧ ∀ p, parseLittle64ElfLoadSegments file = .ok p →
        p.entryFor kernelPhysicalBase.toNat ≠ none →
          LoadsAlike model available s kernelPhysicalBase stackTopReserveBytes p := by
  rw [safe_iff_contained hlen]
  constructor
  · intro h
    refine ⟨contained_of_agree h, fun p hp hentry => ?_⟩
    obtain ⟨entry, hfor⟩ := Option.ne_none_iff_exists'.mp hentry
    exact loadsAlike_of_agree hlen hp hfor h
  · rintro ⟨hcontained, hloads⟩
    cases hflatten : flattenLittle64LinuxElfImage file kernelPhysicalBase.toNat with
    | error fault =>
      rw [Agree, hflatten]
      exact ⟨hcontained, fun t => not_returns_of_error hlen hflatten⟩
    | ok kernel =>
      obtain ⟨p, entry, hp, hfor, -⟩ := flatten_eq_ok_iff.mp hflatten
      exact agree_of_loadsAlike hlen hp hfor (hloads p hp (by rw [hfor]; exact Option.some_ne_none _))

/-- A kernel whose one segment takes more bytes from the file than it has in memory, at the end of a page. -/
def overlongKernel : Blob :=
  patched flashKernel [⟨24, le 8 (0x40000FF0 : BitVec 64)⟩, ⟨80, le 8 (0x40000FF0 : BitVec 64)⟩,
    ⟨96, le 8 (0x20 : BitVec 64)⟩, ⟨104, le 8 (0x10 : BitVec 64)⟩]

/-- They agree on a kernel of one page, and not where the builder lets the image grow beyond its last page. -/
theorem agree_iff_sample : Agree plainDevices 0x100000000 (usedState "" true) flashKernel [] 0x40000000 0 ∧
    ¬ Agree plainDevices 0x100000000 (usedState "" true) overlongKernel [] 0x40000000 0 := by
  constructor
  · have hsafe : Safe .directPaged 0x100000000 flashKernel := by
      refine ⟨fun _ _ => ⟨by decide +kernel, by decide +kernel⟩, fun _ i hi _ _ => ?_⟩
      have hheaders : headers flashKernel = 1 := by decide +kernel
      obtain rfl : i = 0 := by omega
      change Emulator.ElfImage.CheckedExactly .directPaged flashKernel 0
      intro _ _
      exact ⟨by decide +kernel, by decide +kernel⟩
    have happlies : ∃ m, (directPagedConfig "" true ⟨0, [], 0⟩ 0x40000000).applyTo plainDevices = some m :=
      Option.isSome_iff_exists.mp (by decide +kernel)
    rw [agree_iff plainDevices 0x100000000 (usedState "" true) flashKernel [] 0x40000000 0 (by decide +kernel)]
    refine ⟨hsafe, fun p hp _ => ?_⟩
    obtain rfl := Except.ok.inj (parse_flashKernel.symm.trans hp)
    exact
      { room := by decide
        small := by decide
        window := fun s hs => by
          rw [List.mem_singleton.mp hs]
          decide
        ends := .inl (by decide)
        reached := fun _ => by decide
        tree := by decide
        apart := (applyTo_iff _ _).mp happlies
        stack := by decide }
  · rw [agree_iff plainDevices 0x100000000 (usedState "" true) overlongKernel [] 0x40000000 0 (by decide +kernel)]
    rintro ⟨-, hloads⟩
    have hparse : parseLittle64ElfLoadSegments overlongKernel =
        .ok ⟨0x40000FF0, [⟨0, 0x40000FF0, 0x20, 0x10⟩], 0x40000FF0, 0x40001000⟩ := by
      decide +kernel
    have hwindow := (hloads _ hparse (by decide +kernel)).window _ (List.mem_singleton_self _)
    revert hwindow
    decide

end Little64.Boot

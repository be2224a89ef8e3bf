import Little64.Boot.FlashImage

/-! What the loader makes of a flash image: when it accepts the header, and what it copies to memory. -/

namespace Little64.Boot

open CheckedAccess LittleEndian ByteFile ByteMemory PatchedImage Placement

section Sizes

variable {l : Blob} {bytes : Blob} {off n : ℕ}

lemma le_alignUp (value : ℕ) : value ≤ alignUp value PAGE_SIZE := by
  rw [alignUp, PAGE_SIZE]
  omega

lemma alignUp_mul (pages : ℕ) : alignUp (pages * PAGE_SIZE) PAGE_SIZE = pages * PAGE_SIZE := by
  rw [alignUp, PAGE_SIZE]
  omega

lemma length_le_patch (l : Blob) (off : ℕ) (bytes : Blob) : l.length ≤ (patch l off bytes).length := by
  simp only [patch, List.length_append, List.length_take, List.length_drop]
  omega

lemma length_patch_eq_iff :
    (patch l off bytes).length = l.length ↔ bytes.length = 0 ∨ off + bytes.length ≤ l.length := by
  simp only [patch, List.length_append, List.length_take, List.length_drop]
  omega

lemma length_le_patches {α : Type*} (place : α → ℕ) (content : α → Blob) (items : List α) (l : Blob) :
    l.length ≤ (items.foldl (fun image s => patch image (place s) (content s)) l).length := by
  induction items generalizing l with
  | nil => exact le_rfl
  | cons s items ih => exact (length_le_patch l _ _).trans (ih _)

lemma length_patches_eq_iff {α : Type*} (place : α → ℕ) (content : α → Blob) (items : List α) (h : l.length = n) :
    (items.foldl (fun image s => patch image (place s) (content s)) l).length = n ↔
      ∀ s ∈ items, (content s).length = 0 ∨ place s + (content s).length ≤ n := by
  induction items generalizing l with
  | nil => exact iff_of_true h fun s hs => by cases hs
  | cons s items ih =>
    have hfirst := length_le_patch l (place s) (content s)
    have hrest := length_le_patches place content items (patch l (place s) (content s))
    rw [List.forall_mem_cons, List.foldl_cons]
    constructor
    · intro hall
      have hsame : (patch l (place s) (content s)).length = n := by omega
      have hinside := length_patch_eq_iff.mp (hsame.trans h.symm)
      rw [h] at hinside
      exact ⟨hinside, (ih hsame).mp hall⟩
    · rintro ⟨hinside, hall⟩
      rw [← h] at hinside
      exact (ih ((length_patch_eq_iff.mpr hinside).trans h)).mpr hall

end Sizes

section Elf

variable {elf : Blob} {kernelPhysicalBase : ℕ} {kernel : LinuxElfImage}

def ParsedElf.virtualBase (p : ParsedElf) : ℕ := p.minVaddr / PAGE_SIZE * PAGE_SIZE

/-- The bytes of memory that the segments span, in whole pages. -/
def ParsedElf.span (p : ParsedElf) : ℕ := alignUp (p.maxVaddr - p.virtualBase) PAGE_SIZE

/-- No segment has bytes in the file that lie behind the span in memory. -/
def ParsedElf.InWindow (p : ParsedElf) : Prop :=
  ∀ s ∈ p.segments, s.filesz = 0 ∨ s.vaddr - p.virtualBase + s.filesz ≤ p.span

lemma parseProgramHeader_in_file {l l' : LoadSegments} {phoff phentsize index : ℕ}
    (hl : ∀ s ∈ l.segments, s.offset + s.filesz ≤ elf.length)
    (h : parseProgramHeader elf phoff phentsize l index = .ok l') :
    ∀ s ∈ l'.segments, s.offset + s.filesz ≤ elf.length := by
  rw [parseProgramHeader, check_eq_ok] at h
  obtain ⟨-, h⟩ := h
  split at h
  · obtain rfl := Except.ok.inj h
    exact hl
  · rw [check_eq_ok] at h
    obtain ⟨hinside, h⟩ := h
    obtain rfl := Except.ok.inj h
    intro s hs
    rcases List.mem_append.mp hs with hs | hs
    · exact hl s hs
    · rw [List.mem_singleton.mp hs]
      exact Nat.le_of_not_lt hinside

lemma segments_in_file {p : ParsedElf} (h : parseLittle64ElfLoadSegments elf = .ok p) :
    ∀ s ∈ p.segments, s.offset + s.filesz ≤ elf.length := by
  have hfold : ∀ (indices : List ℕ) {l l' : LoadSegments} {phoff phentsize : ℕ},
      (∀ s ∈ l.segments, s.offset + s.filesz ≤ elf.length) →
        indices.foldlM (parseProgramHeader elf phoff phentsize) l = .ok l' →
          ∀ s ∈ l'.segments, s.offset + s.filesz ≤ elf.length := by
    intro indices
    induction indices with
    | nil =>
      intro l l' phoff phentsize hl hrun
      obtain rfl := Except.ok.inj hrun
      exact hl
    | cons index indices ih =>
      intro l l' phoff phentsize hl hrun
      rw [List.foldlM_cons] at hrun
      obtain ⟨mid, hmid, hrun⟩ := bind_eq_ok.mp hrun
      exact ih (parseProgramHeader_in_file hl hmid) hrun
  simp only [parseLittle64ElfLoadSegments, check_eq_ok] at h
  obtain ⟨-, -, -, -, -, h⟩ := h
  obtain ⟨l, hl, h⟩ := bind_eq_ok.mp h
  have hsegments := hfold _ (fun s hs => by cases hs) hl
  split at h
  · cases h
  · obtain rfl := Except.ok.inj h
    exact hsegments

lemma flatten_eq_ok (h : flattenLittle64LinuxElfImage elf kernelPhysicalBase = .ok kernel) :
    ∃ p, parseLittle64ElfLoadSegments elf = .ok p ∧ kernel.imageSpan = p.span ∧ 0 < p.span ∧
      kernelPhysicalBase ≤ kernel.entryPhysical ∧ p.span ≤ kernel.image.length ∧
      (kernel.image.length = p.span ↔ p.InWindow) := by
  rw [flattenLittle64LinuxElfImage] at h
  obtain ⟨p, hp, h⟩ := bind_eq_ok.mp h
  have hparts : ∀ s ∈ p.segments, (part elf s.offset s.filesz).length = s.filesz := fun s hs =>
    length_part (segments_in_file hp s hs)
  have hwindow := length_patches_eq_iff (fun s : LoadSegment => s.vaddr - p.virtualBase)
    (fun s => part elf s.offset s.filesz) p.segments (List.length_replicate (n := p.span) (a := (0 : Byte)))
  have hlong := length_le_patches (fun s : LoadSegment => s.vaddr - p.virtualBase)
    (fun s => part elf s.offset s.filesz) p.segments (List.replicate p.span (0 : Byte))
  have hinside : (∀ s ∈ p.segments, (part elf s.offset s.filesz).length = 0 ∨
      s.vaddr - p.virtualBase + (part elf s.offset s.filesz).length ≤ p.span) ↔ p.InWindow :=
    forall₂_congr fun s hs => by rw [hparts s hs]
  have hspan : p.span = alignUp (p.maxVaddr - p.minVaddr / PAGE_SIZE * PAGE_SIZE) PAGE_SIZE := rfl
  rw [List.length_replicate] at hlong
  refine ⟨p, hp, ?_⟩
  simp only at h
  split at h
  · next hentry =>
    obtain rfl := Except.ok.inj h
    refine ⟨rfl, ?_, Nat.le_add_right _ _, hlong, hwindow.trans hinside⟩
    rw [hspan]
    omega
  split at h
  · next hentry =>
    obtain rfl := Except.ok.inj h
    refine ⟨rfl, ?_, hentry.1, hlong, hwindow.trans hinside⟩
    rw [hspan]
    omega
  · cases h

end Elf

section Header

variable {m : Memory 64} {image : Blob}

/-- The flash stands in the memory at its base. -/
def Mapped (image : Blob) (m : Memory 64) : Prop :=
  ∀ i < image.length, m (FLASH_BASE + BitVec.ofNat 64 i) = image.getD i 0

lemma part_flatMap {α : Type*} {n : ℕ} {f : α → Blob} {items : List α} (hsize : ∀ a ∈ items, (f a).length = n)
    {k : ℕ} (hk : k < items.length) : part (items.flatMap f) (n * k) n = f items[k] := by
  induction items generalizing k with
  | nil => cases hk
  | cons a items ih =>
    have ha := hsize a List.mem_cons_self
    rw [List.flatMap_cons]
    cases k with
    | zero =>
      rw [part, Nat.mul_zero, List.drop_zero]
      exact List.take_left' ha
    | succ k =>
      have hdrop : (f a ++ items.flatMap f).drop (n * (k + 1)) = (items.flatMap f).drop (n * k) := by
        rw [Nat.mul_succ, Nat.add_comm, ← List.drop_drop, List.drop_left' ha]
      rw [part, hdrop]
      exact ih (fun b hb => hsize b (List.mem_cons_of_mem _ hb)) (Nat.lt_of_succ_lt_succ hk)

lemma load_mapped (hmapped : Mapped image m) {off : ℕ} (hoff : off + 8 ≤ image.length) :
    load 64 m (FLASH_BASE + BitVec.ofNat 64 off) 8 = field 64 image off 8 := by
  apply assemble_congr
  intro i hi
  rw [BitVec.add_assoc, ← BitVec.ofNat_add]
  exact hmapped (off + i) (by omega)

lemma headerField_eq {words : List ℕ} (hmapped : Mapped image m) (hlong : 0x2000 + 128 ≤ image.length)
    (hheader : part image 0x2000 128 = words.flatMap fun word => le 8 (BitVec.ofNat 64 word))
      (hwords : words.length = 16)
    {k : ℕ} (hk : k < words.length) : headerField m k = BitVec.ofNat 64 words[k] := by
  have hplace : FLASH_BASE + FLASH_BOOT_HEADER_OFFSET + BitVec.ofNat 64 (8 * k) =
      FLASH_BASE + BitVec.ofNat 64 (0x2000 + 8 * k) := by
    rw [BitVec.add_assoc, BitVec.ofNat_add]
    rfl
  have hword := part_flatMap (n := 8) (f := fun word => le 8 (BitVec.ofNat 64 word))
    (fun word (_ : word ∈ words) => length_le 8 (BitVec.ofNat 64 word)) hk
  have hpart : part image (0x2000 + 8 * k) 8 = part (le 8 (BitVec.ofNat 64 words[k])) 0 8 := by
    rw [← part_part image 0x2000 (o := 8 * k) (m := 8) (n := 128) (by omega), hheader, hword]
    exact (part_all _).symm
  rw [headerField, hplace, load_mapped hmapped (by omega), field_congr 64 hpart]
  exact field_le _ rfl

lemma flashHeader_eq {l : FlashImageLayout} {kernelSize dtbSize size : ℕ} (hmapped : Mapped image m)
    (hlong : 0x2000 + 128 ≤ image.length)
    (hheader : part image 0x2000 128 =
      (headerWords l kernelSize dtbSize size).flatMap fun word => le 8 (BitVec.ofNat 64 word)) :
    flashHeader m =
      { magic := FLASH_BOOT_MAGIC
        abiVersion := FLASH_BOOT_ABI_VERSION
        kernelFlashOffset := BitVec.ofNat 64 l.kernelFlashOffset
        kernelCopySize := BitVec.ofNat 64 kernelSize
        kernelPhysicalBase := BitVec.ofNat 64 l.kernelPhysicalBase
        kernelEntryPhysical := BitVec.ofNat 64 l.kernelEntryPhysical
        dtbFlashOffset := BitVec.ofNat 64 l.dtbFlashOffset
        dtbSize := BitVec.ofNat 64 dtbSize
        dtbPhysical := BitVec.ofNat 64 l.dtbPhysicalAddress
        kernelBootStackTop := BitVec.ofNat 64 l.kernelBootStackTop
        flashImageSize := BitVec.ofNat 64 size } := by
  have hfield {k : ℕ} (hk : k < (headerWords l kernelSize dtbSize size).length) :=
    headerField_eq hmapped hlong hheader rfl hk
  rw [flashHeader]
  congr 1
  · exact hfield (k := 0) (by simp [headerWords])
  · exact hfield (k := 1) (by simp [headerWords])
  · exact hfield (k := 2) (by simp [headerWords])
  · exact hfield (k := 3) (by simp [headerWords])
  · exact hfield (k := 4) (by simp [headerWords])
  · exact hfield (k := 5) (by simp [headerWords])
  · exact hfield (k := 6) (by simp [headerWords])
  · exact hfield (k := 7) (by simp [headerWords])
  · exact hfield (k := 8) (by simp [headerWords])
  · exact hfield (k := 9) (by simp [headerWords])
  · exact hfield (k := 10) (by simp [headerWords])

lemma throw_unless_eq_ok {c : Prop} [Decidable c] {message : String} {k : PUnit → Except String Unit} :
    (if c then throw message >>= k else k PUnit.unit) = .ok () ↔ ¬ c ∧ k PUnit.unit = .ok () := by
  split
  · exact iff_of_false (fun h => by cases h) fun h => h.1 ‹_›
  · exact (and_iff_right ‹_›).symm

lemma validateHeaderOrFail_eq_ok {h : Little64LiteXFlashBootHeader} :
    validateHeaderOrFail h = .ok () ↔ h.magic = FLASH_BOOT_MAGIC ∧ h.abiVersion = FLASH_BOOT_ABI_VERSION ∧
      h.kernelCopySize ≠ 0 ∧ h.dtbSize ≠ 0 ∧
      h.kernelFlashOffset ≤ h.kernelFlashOffset + h.kernelCopySize ∧ h.dtbFlashOffset ≤ h.dtbFlashOffset + h.dtbSize ∧
      h.kernelFlashOffset + h.kernelCopySize ≤ h.flashImageSize ∧ h.dtbFlashOffset + h.dtbSize ≤ h.flashImageSize ∧
      KERNEL_PHYS_BASE_MIN ≤ h.kernelPhysicalBase ∧ h.kernelPhysicalBase ≤ h.kernelEntryPhysical ∧
      h.kernelPhysicalBase + h.kernelCopySize ≤ h.dtbPhysical ∧ h.dtbPhysical + h.dtbSize < h.kernelBootStackTop := by
  have hlast : (if h.kernelBootStackTop ≤ h.dtbPhysical + h.dtbSize then
      throw "kernel boot stack overlaps the copied dtb" else pure PUnit.unit : Except String PUnit) = .ok () ↔
      ¬ h.kernelBootStackTop ≤ h.dtbPhysical + h.dtbSize := by
    split
    · exact iff_of_false (fun h => by cases h) (not_not_intro ‹_›)
    · exact iff_of_true rfl ‹_›
  simp only [validateHeaderOrFail, throw_unless_eq_ok, not_not, BitVec.not_lt]
  rw [hlast, BitVec.not_le]

end Header

section Layout

variable {stage0 kernelElf dtb : Blob} {ramBase ramSize scratchPages : ℕ} {kernel : LinuxElfImage}
  {l : FlashImageLayout}

/-- The image as built at the default header offset and kernel base. -/
structure Built (stage0 dtb : Blob) (ramBase ramSize scratchPages : ℕ) (kernel : LinuxElfImage) (l : FlashImageLayout) :
    Prop where
  fits : stage0.length ≤ 0x2000
  ram : ramBase ≤ LITTLE64_LINUX_RAM_BASE
  kernelBase : l.kernelPhysicalBase = LITTLE64_LINUX_RAM_BASE
  entry : l.kernelEntryPhysical = kernel.entryPhysical
  dtbPlace : l.dtbPhysicalAddress =
    LITTLE64_LINUX_RAM_BASE + alignUp (kernel.imageSpan + scratchPages * PAGE_SIZE) PAGE_SIZE
  stackTop : l.kernelBootStackTop = ramBase + ramSize - 8
  dtbInRam : l.dtbPhysicalAddress + dtb.length ≤ ramBase + ramSize
  kernelFlash : l.kernelFlashOffset = 0x3000
  dtbFlash : l.dtbFlashOffset = alignUp (0x3000 + kernel.image.length) PAGE_SIZE
  words : ∀ word ∈ headerWords l kernel.image.length dtb.length (l.dtbFlashOffset + dtb.length), word < 2 ^ 64
  image : l.flashImage = patched (List.replicate (l.dtbFlashOffset + dtb.length) 0)
    [⟨0, stage0⟩, ⟨0x2000, (headerWords l kernel.image.length dtb.length (l.dtbFlashOffset + dtb.length)).flatMap
      fun word => le 8 (BitVec.ofNat 64 word)⟩, ⟨l.kernelFlashOffset, kernel.image⟩, ⟨l.dtbFlashOffset, dtb⟩]

lemma packWords_eq_ok {words : List ℕ} {bytes : Blob} : packWords words = .ok bytes ↔
    (∀ word ∈ words, word < 2 ^ 64) ∧ bytes = words.flatMap fun word => le 8 (BitVec.ofNat 64 word) := by
  rw [packWords]
  split
  · next h =>
    obtain ⟨word, hword, hlarge⟩ := h
    exact iff_of_false (fun h => by cases h) fun h => (h.1 word hword).not_ge hlarge
  · next h =>
    push Not at h
    rw [Except.ok.injEq, eq_comm, and_iff_right h]

lemma built_of_build (h : buildLitexFlashImage stage0 kernelElf dtb ramBase ramSize LITTLE64_LINUX_RAM_BASE
    LITTLE64_LITEX_FLASH_BOOT_HEADER_OFFSET scratchPages = .ok l) :
    ∃ kernel, flattenLittle64LinuxElfImage kernelElf LITTLE64_LINUX_RAM_BASE = .ok kernel ∧
      Built stage0 dtb ramBase ramSize scratchPages kernel l := by
  rw [buildLitexFlashImage, check_eq_ok] at h
  obtain ⟨hstage0, h⟩ := h
  obtain ⟨kernel, hkernel, h⟩ := bind_eq_ok.mp h
  rw [check_eq_ok] at h
  obtain ⟨hfits, h⟩ := h
  obtain ⟨header, hheader, h⟩ := bind_eq_ok.mp h
  obtain ⟨hwords, rfl⟩ := packWords_eq_ok.mp hheader
  obtain rfl := Except.ok.inj h
  push Not at hfits
  exact ⟨kernel, hkernel, Nat.le_of_not_lt hstage0, hfits.1, rfl, rfl, rfl, rfl, hfits.2.2, rfl, rfl, hwords, rfl⟩

/-- The ranges of the flash image, apart from one another and with their bytes. -/
structure FlashHolds (stage0 dtb : Blob) (kernel : LinuxElfImage) (l : FlashImageLayout) : Prop where
  stage0End : stage0.length ≤ LITTLE64_LITEX_FLASH_BOOT_HEADER_OFFSET
  headerEnd : LITTLE64_LITEX_FLASH_BOOT_HEADER_OFFSET + FLASH_BOOT_HEADER_SIZE ≤ l.kernelFlashOffset
  kernelEnd : l.kernelFlashOffset + kernel.image.length ≤ l.dtbFlashOffset
  dtbEnd : l.dtbFlashOffset + dtb.length ≤ l.flashImage.length
  stage0Bytes : part l.flashImage 0 stage0.length = stage0
  headerBytes : part l.flashImage LITTLE64_LITEX_FLASH_BOOT_HEADER_OFFSET FLASH_BOOT_HEADER_SIZE =
    (headerWords l kernel.image.length dtb.length l.flashImage.length).flatMap fun word => le 8 (BitVec.ofNat 64 word)
  kernelBytes : part l.flashImage l.kernelFlashOffset kernel.image.length = kernel.image
  dtbBytes : part l.flashImage l.dtbFlashOffset dtb.length = dtb

variable (h : Built stage0 dtb ramBase ramSize scratchPages kernel l)

include h

lemma Built.kernel_end : 0x3000 + kernel.image.length ≤ l.dtbFlashOffset := by
  rw [h.dtbFlash]
  exact le_alignUp _

lemma Built.holds : FlashHolds stage0 dtb kernel l ∧ l.flashImage.length = l.dtbFlashOffset + dtb.length := by
  have hend := h.kernel_end
  have hfits := h.fits
  have hkernel := h.kernelFlash
  have hzeros : (List.replicate (l.dtbFlashOffset + dtb.length) (0 : Byte)).length = l.dtbFlashOffset + dtb.length :=
    List.length_replicate
  have hheader : ((headerWords l kernel.image.length dtb.length (l.dtbFlashOffset + dtb.length)).flatMap
      fun word => le 8 (BitVec.ofNat 64 word)).length = 128 :=
    length_flatMap fun word _ => length_le 8 (BitVec.ofNat 64 word)
  obtain ⟨header, hnamed⟩ : ∃ header, header = (headerWords l kernel.image.length dtb.length
    (l.dtbFlashOffset + dtb.length)).flatMap fun word => le 8 (BitVec.ofNat 64 word) := ⟨_, rfl⟩
  have himage := h.image
  rw [← hnamed] at hheader himage
  have hfit : Fit 0 (List.replicate (l.dtbFlashOffset + dtb.length) (0 : Byte)).length
      [⟨0, stage0⟩, ⟨0x2000, header⟩, ⟨l.kernelFlashOffset, kernel.image⟩, ⟨l.dtbFlashOffset, dtb⟩] := by
    refine ⟨fun b _ => Nat.zero_le _, ?_, ?_⟩
    · simp only [List.forall_mem_cons, List.not_mem_nil, false_imp_iff, implies_true, and_true, Block.stop, hzeros]
      omega
    · simp only [List.pairwise_cons, List.forall_mem_cons, List.not_mem_nil, false_imp_iff, implies_true, and_true,
        List.Pairwise.nil, Block.stop]
      omega
  have hlength : l.flashImage.length = l.dtbFlashOffset + dtb.length := by
    rw [himage, length_patched hfit.inside, hzeros]
  refine ⟨⟨hfits, ?_, ?_, hlength.ge, ?_, ?_, ?_, ?_⟩, hlength⟩
  · rw [hkernel]
    decide
  · rw [hkernel]
    exact hend
  · rw [himage]
    exact part_patched_all (b := ⟨0, stage0⟩) hfit (by simp)
  · rw [hlength, ← hnamed, himage]
    have hpart := part_patched_all (b := ⟨0x2000, header⟩) hfit (by simp)
    rw [hheader] at hpart
    exact hpart
  · rw [himage]
    exact part_patched_all (b := ⟨l.kernelFlashOffset, kernel.image⟩) hfit (by simp)
  · rw [himage]
    exact part_patched_all (b := ⟨l.dtbFlashOffset, dtb⟩) hfit (by simp)

end Layout

section Copies

variable {m : Memory 64} {image : Blob} {destination source x : BitVec 64} {n off : ℕ}

lemma copyToPhysical_eq (m : Memory 64) (size : BitVec 64) (h : Apart destination source size.toNat) :
    copyToPhysical m destination source size = transferred m destination source size.toNat := by
  have hsize := size.isLt
  rw [copyToPhysical]
  split
  · have hsplit : size.toNat / 8 * 8 + size.toNat % 8 * 1 = size.toNat := by omega
    have hwords : copyPieces 8 (size.toNat / 8) m destination source =
        transferred m destination source (size.toNat / 8 * 8) :=
      copyPieces_eq m (h.mono (by omega)) (by omega)
    simp only
    rw [hwords, Nat.mul_comm 8, copyPieces_eq, transferred_add, hsplit]
    · rw [hsplit]
      exact h
    · omega
    · intro i hi hin
      have hwhole := (inRange_append destination _ _ _ (by omega)).mpr (.inr hin)
      rw [hsplit, ← offset_add] at hwhole
      exact h (size.toNat / 8 * 8 + i) (by omega) hwhole
    · omega
  · have hone : size.toNat * 1 = size.toNat := Nat.mul_one _
    rw [copyPieces_eq, hone]
    · rw [hone]
      exact h
    · omega

lemma not_inRange (hx : x.toNat < destination.toNat ∨ destination.toNat + n ≤ x.toNat)
    (hn : destination.toNat + n ≤ 2 ^ 64) : ¬ InRange destination n x := by
  rw [InRange]
  rcases toNat_sub_cases x destination with h | h
  · omega
  · omega

lemma transferred_at {i : ℕ} (hi : i < n) (hn : n ≤ 2 ^ 64) :
    transferred m destination source n (destination + BitVec.ofNat 64 i) = m (source + BitVec.ofNat 64 i) := by
  have hplace : destination + BitVec.ofNat 64 i - destination = BitVec.ofNat 64 i := by ring
  rw [transferred_of_inRange m (inRange_offset destination n i hi hn), hplace]

lemma toNat_flash (hoff : off < 0x20000000) : (FLASH_BASE + BitVec.ofNat 64 off).toNat = 0x20000000 + off := by
  rw [BitVec.toNat_add, BitVec.toNat_ofNat]
  change (0x20000000 + off % 2 ^ 64) % 2 ^ 64 = _
  omega

lemma Mapped.transferred (h : Mapped image m) (himage : image.length ≤ 0x20000000)
    (hram : 0x40000000 ≤ destination.toNat) (hn : destination.toNat + n ≤ 2 ^ 64) (source : BitVec 64) :
    Mapped image (ByteMemory.transferred m destination source n) := by
  intro i hi
  have hflash := toNat_flash (hi.trans_le himage)
  rw [transferred_of_not_inRange, h i hi]
  apply not_inRange (.inl _) hn
  omega

lemma apart_of_flash (hoff : off + n ≤ 0x20000000) (hram : 0x40000000 ≤ destination.toNat)
    (hn : destination.toNat + n ≤ 2 ^ 64) : Apart destination (FLASH_BASE + BitVec.ofNat 64 off) n := by
  intro i hi
  have hflash : (FLASH_BASE + BitVec.ofNat 64 (off + i)).toNat = _ := toNat_flash (by omega)
  rw [BitVec.add_assoc, ← BitVec.ofNat_add]
  apply not_inRange (.inl _) hn
  omega

lemma getD_part (l : Blob) {o k : ℕ} (hk : k < n) : (part l o n).getD k 0 = l.getD (o + k) 0 := by
  rw [List.getD_eq_getElem?_getD, List.getD_eq_getElem?_getD, getElem?_part, if_pos hk]

end Copies

section Boots

variable {stage0 kernelElf dtb : Blob} {ramBase ramSize scratchPages : ℕ} {kernel : LinuxElfImage}
  {l : FlashImageLayout}
  {p : ParsedElf}

/-- What a flash image is for: the places in the RAM are in order, the flash holds the parts, the loader accepts the
header, and its copies put the kernel and the device tree at their places. -/
structure Bootable (stage0 dtb : Blob) (ramBase ramSize scratchPages : ℕ) (kernel : LinuxElfImage)
    (l : FlashImageLayout) : Prop where
  ram : ramBase ≤ l.kernelPhysicalBase
  gap : l.kernelPhysicalBase + kernel.image.length + scratchPages * PAGE_SIZE ≤ l.dtbPhysicalAddress
  stack : l.dtbPhysicalAddress + dtb.length < l.kernelBootStackTop
  top : l.kernelBootStackTop ≤ ramBase + ramSize
  flash : FlashHolds stage0 dtb kernel l
  accepted : ∀ m, Mapped l.flashImage m → validateHeaderOrFail (flashHeader m) = .ok ()
  copied : ∀ m, Mapped l.flashImage m → ∃ m', litexSocBootEntry m = .ok (m',
      ⟨BitVec.ofNat 64 l.dtbPhysicalAddress, BitVec.ofNat 64 l.kernelBootStackTop,
        BitVec.ofNat 64 l.kernelEntryPhysical⟩) ∧
    (∀ i < kernel.image.length,
      m' (BitVec.ofNat 64 l.kernelPhysicalBase + BitVec.ofNat 64 i) = kernel.image.getD i 0) ∧
    ∀ i < dtb.length, m' (BitVec.ofNat 64 l.dtbPhysicalAddress + BitVec.ofNat 64 i) = dtb.getD i 0

/-- A device tree that is not empty and ends below the stack, and no bytes of a segment behind its memory. -/
structure FlashBoots (p : ParsedElf) (dtb : Blob) (ramBase ramSize scratchPages : ℕ) : Prop where
  tree : dtb ≠ []
  stack : LITTLE64_LINUX_RAM_BASE + alignUp (p.span + scratchPages * PAGE_SIZE) PAGE_SIZE + dtb.length + 8 <
    ramBase + ramSize
  window : p.InWindow

lemma span_pages (p : ParsedElf) : ∃ pages, p.span = pages * PAGE_SIZE := ⟨_, rfl⟩

lemma alignUp_span (p : ParsedElf) (scratchPages : ℕ) :
    alignUp (p.span + scratchPages * PAGE_SIZE) PAGE_SIZE = p.span + scratchPages * PAGE_SIZE := by
  obtain ⟨pages, hpages⟩ := span_pages p
  rw [hpages, ← Nat.add_mul, alignUp_mul]

lemma exists_mapped {image : Blob} (hlength : image.length ≤ 2 ^ 64) : ∃ m, Mapped image m := by
  refine ⟨fun x => image.getD (x - FLASH_BASE).toNat 0, ?_⟩
  intro i hi
  have hplace : FLASH_BASE + BitVec.ofNat 64 i - FLASH_BASE = BitVec.ofNat 64 i := by ring
  have hi' : (BitVec.ofNat 64 i).toNat = i := by
    rw [BitVec.toNat_ofNat]
    omega
  simp only [hplace, hi']

lemma ofNat_le {a b : ℕ} (hb : b < 2 ^ 64) (h : a ≤ b) : BitVec.ofNat 64 a ≤ BitVec.ofNat 64 b := by
  rw [BitVec.le_def, BitVec.toNat_ofNat, BitVec.toNat_ofNat, Nat.mod_eq_of_lt hb, Nat.mod_eq_of_lt (h.trans_lt hb)]
  exact h

lemma ofNat_lt {a b : ℕ} (hb : b < 2 ^ 64) (h : a < b) : BitVec.ofNat 64 a < BitVec.ofNat 64 b := by
  rw [BitVec.lt_def, BitVec.toNat_ofNat, BitVec.toNat_ofNat, Nat.mod_eq_of_lt hb, Nat.mod_eq_of_lt (h.trans hb)]
  exact h

lemma ofNat_ne_zero {a : ℕ} (ha : 0 < a) (hlt : a < 2 ^ 64) : BitVec.ofNat 64 a ≠ 0 := by
  intro hzero
  have hnat := congrArg BitVec.toNat hzero
  rw [BitVec.toNat_ofNat, Nat.mod_eq_of_lt hlt] at hnat
  exact ha.ne' hnat

lemma toNat_ofNat_lt {a : ℕ} (hlt : a < 2 ^ 64) : (BitVec.ofNat 64 a).toNat = a := by
  rw [BitVec.toNat_ofNat, Nat.mod_eq_of_lt hlt]

section Sound

variable (h : Built stage0 dtb ramBase ramSize scratchPages kernel l)

include h

lemma Built.long : 0x2000 + 128 ≤ l.flashImage.length := by
  have hend := h.kernel_end
  rw [h.holds.2]
  omega

lemma Built.flashHeader {m : Memory 64} (hmapped : Mapped l.flashImage m) : flashHeader m =
    { magic := FLASH_BOOT_MAGIC
      abiVersion := FLASH_BOOT_ABI_VERSION
      kernelFlashOffset := BitVec.ofNat 64 l.kernelFlashOffset
      kernelCopySize := BitVec.ofNat 64 kernel.image.length
      kernelPhysicalBase := BitVec.ofNat 64 l.kernelPhysicalBase
      kernelEntryPhysical := BitVec.ofNat 64 l.kernelEntryPhysical
      dtbFlashOffset := BitVec.ofNat 64 l.dtbFlashOffset
      dtbSize := BitVec.ofNat 64 dtb.length
      dtbPhysical := BitVec.ofNat 64 l.dtbPhysicalAddress
      kernelBootStackTop := BitVec.ofNat 64 l.kernelBootStackTop
      flashImageSize := BitVec.ofNat 64 l.flashImage.length } :=
  flashHeader_eq hmapped h.long h.holds.1.headerBytes

lemma Built.small : l.kernelEntryPhysical < 2 ^ 64 ∧ l.dtbPhysicalAddress < 2 ^ 64 ∧ l.kernelBootStackTop < 2 ^ 64 ∧
    l.flashImage.length < 2 ^ 64 := by
  rw [h.holds.2]
  refine ⟨h.words _ ?_, h.words _ ?_, h.words _ ?_, h.words _ ?_⟩ <;> simp [headerWords]

lemma Built.tree_of_accepted (haccepted : ∀ m, Mapped l.flashImage m → validateHeaderOrFail
    (Boot.flashHeader m) = .ok ()) :
    dtb ≠ [] := by
  intro hnil
  obtain ⟨m, hm⟩ := exists_mapped h.small.2.2.2.le
  have hvalid := haccepted m hm
  rw [h.flashHeader hm, validateHeaderOrFail_eq_ok, hnil] at hvalid
  exact hvalid.2.2.2.1 rfl

lemma Built.accepted {m : Memory 64} (hmapped : Mapped l.flashImage m) (hkernel : 0 < kernel.image.length)
    (htree : 0 < dtb.length) (hentry : l.kernelPhysicalBase ≤ l.kernelEntryPhysical)
    (hgap : l.kernelPhysicalBase + kernel.image.length ≤ l.dtbPhysicalAddress)
    (hstack : l.dtbPhysicalAddress + dtb.length < l.kernelBootStackTop) :
    validateHeaderOrFail (Boot.flashHeader m) = .ok () := by
  obtain ⟨hentrySmall, hdtbSmall, hstackSmall, hsizeSmall⟩ := h.small
  have hflash := h.holds.1
  have hkernelEnd := hflash.kernelEnd
  have hdtbEnd := hflash.dtbEnd
  rw [h.flashHeader hmapped, validateHeaderOrFail_eq_ok]
  simp only [← BitVec.ofNat_add]
  refine ⟨trivial, trivial, ofNat_ne_zero hkernel (by omega), ofNat_ne_zero htree (by omega), ofNat_le (by omega)
    (by omega),
    ofNat_le (by omega) (by omega), ofNat_le hsizeSmall (by omega), ofNat_le hsizeSmall (by omega), ?_,
    ofNat_le hentrySmall hentry, ofNat_le hdtbSmall hgap, ofNat_lt hstackSmall hstack⟩
  rw [h.kernelBase]
  decide

lemma Built.copied {m : Memory 64} (hmapped : Mapped l.flashImage m) (hfits : l.flashImage.length ≤ 0x20000000)
    (hvalid : validateHeaderOrFail (Boot.flashHeader m) = .ok ())
    (hgap : l.kernelPhysicalBase + kernel.image.length ≤ l.dtbPhysicalAddress)
    (hstack : l.dtbPhysicalAddress + dtb.length < l.kernelBootStackTop) :
    ∃ m', litexSocBootEntry m = .ok (m', ⟨BitVec.ofNat 64 l.dtbPhysicalAddress, BitVec.ofNat 64 l.kernelBootStackTop,
        BitVec.ofNat 64 l.kernelEntryPhysical⟩) ∧
      (∀ i < kernel.image.length,
        m' (BitVec.ofNat 64 l.kernelPhysicalBase + BitVec.ofNat 64 i) = kernel.image.getD i 0) ∧
      ∀ i < dtb.length, m' (BitVec.ofNat 64 l.dtbPhysicalAddress + BitVec.ofNat 64 i) = dtb.getD i 0 := by
  obtain ⟨-, hdtbSmall, hstackSmall, -⟩ := h.small
  have hflash := h.holds.1
  have hkernelEnd := hflash.kernelEnd
  have hdtbEnd := hflash.dtbEnd
  have hbase : l.kernelPhysicalBase = 0x40000000 := h.kernelBase
  have hkernelBase : (BitVec.ofNat 64 l.kernelPhysicalBase).toNat = l.kernelPhysicalBase := toNat_ofNat_lt (by omega)
  have hdtbBase : (BitVec.ofNat 64 l.dtbPhysicalAddress).toNat = l.dtbPhysicalAddress := toNat_ofNat_lt hdtbSmall
  have hkernelSize : (BitVec.ofNat 64 kernel.image.length).toNat = kernel.image.length := toNat_ofNat_lt (by omega)
  have hdtbSize : (BitVec.ofNat 64 dtb.length).toNat = dtb.length := toNat_ofNat_lt (by omega)
  -- The kernel first.
  have hkernelApart : Apart (BitVec.ofNat 64 l.kernelPhysicalBase) (FLASH_BASE + BitVec.ofNat 64 l.kernelFlashOffset)
      kernel.image.length := apart_of_flash (by omega) (by omega) (by omega)
  have hkernelCopy := copyToPhysical_eq m (BitVec.ofNat 64 kernel.image.length) (hkernelSize ▸ hkernelApart)
  rw [hkernelSize] at hkernelCopy
  obtain ⟨m₁, hm₁⟩ : ∃ m₁, m₁ = transferred m (BitVec.ofNat 64 l.kernelPhysicalBase)
    (FLASH_BASE + BitVec.ofNat 64 l.kernelFlashOffset) kernel.image.length := ⟨_, rfl⟩
  have hmapped₁ : Mapped l.flashImage m₁ := by
    rw [hm₁]
    exact hmapped.transferred hfits (by omega) (by omega) _
  -- Then the device tree.
  have hdtbApart : Apart (BitVec.ofNat 64 l.dtbPhysicalAddress) (FLASH_BASE + BitVec.ofNat 64 l.dtbFlashOffset)
      dtb.length := apart_of_flash (by omega) (by omega) (by omega)
  have hdtbCopy := copyToPhysical_eq m₁ (BitVec.ofNat 64 dtb.length) (hdtbSize ▸ hdtbApart)
  rw [hdtbSize] at hdtbCopy
  obtain ⟨m₂, hm₂⟩ : ∃ m₂, m₂ = transferred m₁ (BitVec.ofNat 64 l.dtbPhysicalAddress)
    (FLASH_BASE + BitVec.ofNat 64 l.dtbFlashOffset) dtb.length := ⟨_, rfl⟩
  have hmapped₂ : Mapped l.flashImage m₂ := by
    rw [hm₂]
    exact hmapped₁.transferred hfits (by omega) (by omega) _
  refine ⟨m₂, ?_, ?_, ?_⟩
  · rw [litexSocBootEntry, hvalid]
    change Except.ok _ = _
    rw [h.flashHeader hmapped]
    simp only
    rw [hkernelCopy, ← hm₁, h.flashHeader hmapped₁]
    simp only
    rw [hdtbCopy, ← hm₂, h.flashHeader hmapped₂]
  · intro i hi
    have hplace : (BitVec.ofNat 64 l.kernelPhysicalBase + BitVec.ofNat 64 i).toNat = l.kernelPhysicalBase + i := by
      rw [← BitVec.ofNat_add]
      exact toNat_ofNat_lt (by omega)
    rw [hm₂, transferred_of_not_inRange _ (not_inRange (.inl (by omega)) (by omega)), hm₁, transferred_at hi (by omega),
      BitVec.add_assoc, ← BitVec.ofNat_add, hmapped _ (by omega),
        ← getD_part (n := kernel.image.length) l.flashImage hi,
      hflash.kernelBytes]
  · intro i hi
    rw [hm₂, transferred_at hi (by omega), BitVec.add_assoc, ← BitVec.ofNat_add, hmapped₁ _ (by omega),
      ← getD_part (n := dtb.length) l.flashImage hi, hflash.dtbBytes]

end Sound

/-- An image that was built boots exactly if the condition holds, as long as the flash ends where the RAM starts. -/
theorem flash_boot_layout (h : buildLitexFlashImage stage0 kernelElf dtb ramBase ramSize LITTLE64_LINUX_RAM_BASE
    LITTLE64_LITEX_FLASH_BOOT_HEADER_OFFSET scratchPages = .ok l) :
    ∃ p kernel, parseLittle64ElfLoadSegments kernelElf = .ok p ∧
      flattenLittle64LinuxElfImage kernelElf LITTLE64_LINUX_RAM_BASE = .ok kernel ∧
      (Bootable stage0 dtb ramBase ramSize scratchPages kernel l → FlashBoots p dtb ramBase ramSize scratchPages) ∧
      (FlashBoots p dtb ramBase ramSize scratchPages →
        alignUp (0x3000 + p.span) PAGE_SIZE + dtb.length ≤ 0x20000000 →
          Bootable stage0 dtb ramBase ramSize scratchPages kernel l) := by
  obtain ⟨kernel, hkernel, hbuilt⟩ := built_of_build h
  obtain ⟨p, hp, hspan, hpos, hentry, hlong, hwindow⟩ := flatten_eq_ok hkernel
  have hplace := hbuilt.dtbPlace
  have htop := hbuilt.stackTop
  have hbase := hbuilt.kernelBase
  have hram := hbuilt.ram
  have hinRam := hbuilt.dtbInRam
  rw [hspan] at hplace
  have hpages := alignUp_span p scratchPages
  refine ⟨p, kernel, hp, hkernel, fun hboot => ⟨hbuilt.tree_of_accepted hboot.accepted, ?_, ?_⟩, fun hcond hflash => ?_⟩
  · have hstack := hboot.stack
    omega
  · have hgap := hboot.gap
    exact hwindow.mp (by omega)
  · have hsame := hwindow.mpr hcond.window
    have htree := List.length_pos_of_ne_nil hcond.tree
    have hcondStack := hcond.stack
    have hfits : l.flashImage.length ≤ 0x20000000 := by
      rw [hbuilt.holds.2, hbuilt.dtbFlash, hsame]
      exact hflash
    have hgap : l.kernelPhysicalBase + kernel.image.length + scratchPages * PAGE_SIZE ≤ l.dtbPhysicalAddress := by omega
    have hstack : l.dtbPhysicalAddress + dtb.length < l.kernelBootStackTop := by omega
    have haccepted {m : Memory 64} (hm : Mapped l.flashImage m) :
      validateHeaderOrFail (Boot.flashHeader m) = .ok () := by
      apply hbuilt.accepted hm (by omega) htree _ (by omega) hstack
      rw [hbase, hbuilt.entry]
      exact hentry
    exact ⟨by omega, hgap, hstack, by omega, hbuilt.holds.1, fun m hm => haccepted hm, fun m hm =>
      hbuilt.copied hm hfits (haccepted hm) (by omega) hstack⟩

section Samples

/-- A kernel of one page. -/
def flashKernel : Blob :=
  patched (List.replicate 120 0)
    [⟨0, [0x7F, 0x45, 0x4C, 0x46, 2, 1]⟩, ⟨18, le 2 (0x4C36 : BitVec 16)⟩, ⟨24, le 8 (0x40000000 : BitVec 64)⟩,
      ⟨32, le 8 (64 : BitVec 64)⟩, ⟨54, le 2 (56 : BitVec 16)⟩, ⟨56, le 2 (1 : BitVec 16)⟩,
      ⟨64, le 4 (1 : BitVec 32)⟩, ⟨80, le 8 (0x40000000 : BitVec 64)⟩, ⟨96, le 8 (120 : BitVec 64)⟩,
      ⟨104, le 8 (4096 : BitVec 64)⟩]

lemma parse_flashKernel : parseLittle64ElfLoadSegments flashKernel =
    .ok ⟨0x40000000, [⟨0, 0x40000000, 120, 4096⟩], 0x40000000, 0x40001000⟩ := by
  decide +kernel

lemma flatten_flashKernel : ∃ kernel, flattenLittle64LinuxElfImage flashKernel LITTLE64_LINUX_RAM_BASE = .ok kernel ∧
    kernel.imageSpan = 4096 ∧ kernel.image.length = 4096 ∧ kernel.entryPhysical = 0x40000000 := by
  obtain ⟨kernel, hkernel, hentry⟩ : ∃ kernel, flattenLittle64LinuxElfImage flashKernel LITTLE64_LINUX_RAM_BASE =
      .ok kernel ∧ kernel.entryPhysical = 0x40000000 := by
    rw [flattenLittle64LinuxElfImage, parse_flashKernel]
    exact ⟨_, rfl, rfl⟩
  obtain ⟨p, hp, hspan, -, -, -, hwindow⟩ := flatten_eq_ok hkernel
  obtain rfl := Except.ok.inj (parse_flashKernel.symm.trans hp)
  refine ⟨kernel, hkernel, hspan, hwindow.mpr ?_, hentry⟩
  intro s hs
  rw [List.mem_singleton.mp hs]
  decide

lemma exists_flashImage (dtb : Blob) (htree : dtb.length ≤ 0x1000000) : ∃ l, buildLitexFlashImage [] flashKernel dtb
    LITTLE64_LINUX_RAM_BASE 0x4000000 LITTLE64_LINUX_RAM_BASE LITTLE64_LITEX_FLASH_BOOT_HEADER_OFFSET
    EARLY_PT_SCRATCH_PAGES = .ok l := by
  obtain ⟨kernel, hkernel, hspan, hlength, hentry⟩ := flatten_flashKernel
  rw [buildLitexFlashImage]
  refine ⟨_, check_eq_ok.mpr ⟨Nat.not_lt_zero _, bind_eq_ok.mpr ⟨kernel, hkernel, check_eq_ok.mpr ⟨?_,
    bind_eq_ok.mpr ⟨_, packWords_eq_ok.mpr ⟨?_, rfl⟩, rfl⟩⟩⟩⟩⟩
  · simp only [hspan, alignUp, PAGE_SIZE, EARLY_PT_SCRATCH_PAGES, LITTLE64_LINUX_RAM_BASE]
    omega
  · simp only [headerWords, List.forall_mem_cons, List.not_mem_nil, false_imp_iff, implies_true, and_true, hspan, hlength,
      hentry, alignUp, PAGE_SIZE, EARLY_PT_SCRATCH_PAGES, LITTLE64_LINUX_RAM_BASE, FLASH_BOOT_HEADER_SIZE,
      LITTLE64_LITEX_FLASH_BOOT_MAGIC, LITTLE64_LITEX_FLASH_BOOT_ABI_VERSION, LITTLE64_LITEX_FLASH_BOOT_HEADER_OFFSET]
    omega

end Samples

theorem flash_boot_layout_sample : ∃ l kernel,
    buildLitexFlashImage [] flashKernel [0xD0] LITTLE64_LINUX_RAM_BASE 0x4000000 LITTLE64_LINUX_RAM_BASE
      LITTLE64_LITEX_FLASH_BOOT_HEADER_OFFSET EARLY_PT_SCRATCH_PAGES = .ok l ∧
    Bootable [] [0xD0] LITTLE64_LINUX_RAM_BASE 0x4000000 EARLY_PT_SCRATCH_PAGES kernel l := by
  obtain ⟨l, hl⟩ := exists_flashImage [0xD0] (by decide)
  obtain ⟨p, kernel, hp, -, -, hboots⟩ := flash_boot_layout hl
  obtain rfl := Except.ok.inj (parse_flashKernel.symm.trans hp)
  refine ⟨l, kernel, hl, hboots ⟨List.cons_ne_nil _ _, by decide, ?_⟩ (by decide)⟩
  intro s hs
  rw [List.mem_singleton.mp hs]
  decide

/-- The builder takes an empty device tree, which the loader rejects. -/
theorem empty_tree_not_booted : ∃ l,
    buildLitexFlashImage [] flashKernel [] LITTLE64_LINUX_RAM_BASE 0x4000000 LITTLE64_LINUX_RAM_BASE
      LITTLE64_LITEX_FLASH_BOOT_HEADER_OFFSET EARLY_PT_SCRATCH_PAGES = .ok l ∧
    ∀ kernel, ¬ Bootable [] [] LITTLE64_LINUX_RAM_BASE 0x4000000 EARLY_PT_SCRATCH_PAGES kernel l := by
  obtain ⟨l, hl⟩ := exists_flashImage [] (by decide)
  refine ⟨l, hl, fun kernel hboot => ?_⟩
  obtain ⟨kernel', -, hbuilt⟩ := built_of_build hl
  exact hbuilt.tree_of_accepted hboot.accepted rfl

end Boots

end Little64.Boot

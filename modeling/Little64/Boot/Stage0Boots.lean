import Little64.Boot.Stage0Loading

/-! Cards of the boot image builder boot: the kernel image that the builder has in mind stands in RAM when stage 0 hands
off. -/

namespace Little64.Boot.Stage0Kernel

open CheckedAccess LittleEndian ByteFile PatchedImage
open Emulator.ElfImage (headerAt headers headerPlace ehdr ptLoad HeadersInside)

section Scratch

variable {elf scratch : Blob} {p : ParsedElf} {disk : Disk} {volume : Fat32Volume} {kernelFile : Stage0FileInfo}
  {w off k m : ℕ}

/-- The buffer holds the first bytes of the file. -/
def Holding (scratch elf : Blob) (m : ℕ) : Prop := part scratch 0 m = part elf 0 m

lemma holding_stored (scratch elf : Blob) {m : ℕ} (hm : m ≤ elf.length) :
    Holding (storeToScratch scratch (part elf 0 m)) elf m := by
  have hlength : (part elf 0 m).length = m := length_part (by omega)
  rw [Holding, storeToScratch]
  change List.take m (part elf 0 m ++ _) = _
  rw [List.take_append_of_le_length hlength.ge, List.take_of_length_le hlength.le]

section Fields

variable (h : Holding scratch elf m)

include h

lemma Holding.field (w : ℕ) (hoff : off + k ≤ m) : field w scratch off k = field w elf off k := by
  have hleft := field_part w scratch 0 hoff
  have hright := field_part w elf 0 hoff
  rw [Nat.zero_add] at hleft hright
  rw [← hleft, ← hright, h]

lemma Holding.byte (hoff : off < m) : byte scratch off = elf.getD off 0 := by
  have hfield := h.field (k := 1) 8 hoff
  exact (assemble_one _).symm.trans (hfield.trans (assemble_one _))

end Fields

/-- The low half of a word. -/
lemma field_low (elf : Blob) (off : ℕ) : readLe32 elf off = (field 64 elf off 8).setWidth 32 := by
  apply eq_of_byteAt_eq
  intro i hi
  rw [byteAt_setWidth _ _ (by omega)]
  have hword : byteAt (field 64 elf off 8) i = elf.getD (off + i) 0 :=
    byteAt_assemble (w := 64) (fun i => elf.getD (off + i) 0) 8 i (by omega) (by omega)
  rw [hword]
  exact byteAt_assemble (w := 32) (fun i => elf.getD (off + i) 0) 4 i (by omega) (by omega)

/-- The program headers stand in the part of the file that stage 0 keeps. -/
structure HeadersKept (elf : Blob) : Prop where
  table : (ehdr elf).phoff.toNat + headers elf * (ehdr elf).phentsize.toNat ≤ 4096
  size : 56 ≤ (ehdr elf).phentsize.toNat

lemma HeadersKept.place (h : HeadersKept elf) {i : ℕ} (hi : i < headers elf) : headerPlace elf i + 56 ≤ 4096 := by
  have hnext : (i + 1) * (ehdr elf).phentsize.toNat ≤ headers elf * (ehdr elf).phentsize.toNat := Nat.mul_le_mul_right _ hi
  have hsize := h.size
  have htable := h.table
  rw [Nat.succ_mul] at hnext
  rw [headerPlace]
  omega

lemma length_min {elf : Blob} (hsize : elf.length < 2 ^ 32) :
    minU32 (BitVec.ofNat 32 elf.length) (BitVec.ofNat 32 ELF_HEADER_SCRATCH_SIZE) =
      BitVec.ofNat 32 (min elf.length 4096) := by
  have hlt : BitVec.ofNat 32 elf.length < BitVec.ofNat 32 ELF_HEADER_SCRATCH_SIZE ↔ elf.length < 4096 := by
    rw [BitVec.lt_def, BitVec.toNat_ofNat, Nat.mod_eq_of_lt hsize]
    rfl
  rw [minU32]
  split
  · next h => rw [Nat.min_eq_left (hlt.mp h).le]
  · next h =>
    rw [hlt, not_lt] at h
    rw [Nat.min_eq_right h]
    rfl

/-- The header that stage 0 reads is that of the file. -/
lemma readElfHeader_ok (hp : parseLittle64ElfLoadSegments elf = .ok p) (hkept : HeadersKept elf)
    (hfile : ReadsFile volume disk kernelFile elf) (hsize : elf.length < 2 ^ 32)
    (hkernel : kernelFile.size = BitVec.ofNat 32 elf.length) (cache : FatCache disk) (scratch : Blob) :
    ∃ h, readElfHeader volume kernelFile cache scratch = .ok h ∧ Reads h elf := by
  obtain ⟨hheader, hplaces, -, -, -⟩ := parse_eq_ok.mp hp
  have hlong := hheader.size
  generalize hm : min elf.length 4096 = m
  have hread := (hfile 0 m (by omega) (fun hbehind => by have := hbehind.1; omega) cache).1
  have hheld := holding_stored scratch elf (m := m) (by omega)
  obtain ⟨h0, h1, h2, h3⟩ := (take_eq_iff (by omega)).mp ((magic_iff hlong).mpr hheader.magic)
  have hformat := hheader.format
  have hclass : (ehdr elf).fileClass = elf.getD 4 0 := assemble_one _
  have hdata : (ehdr elf).data = elf.getD 5 0 := assemble_one _
  rw [hclass, hdata] at hformat
  rw [readElfHeader, hkernel, length_min hsize, hm]
  change readFileRangeToBuffer volume kernelFile 0 _ _ = _ at hread
  rw [hread]
  change ∃ h, (if byte (storeToScratch scratch (part elf 0 m)) 0 ≠ 0x7F ∨ _ then _ else _) = _ ∧ _
  generalize storeToScratch scratch (part elf 0 m) = kept at hheld
  have hmagic : ¬ (byte kept 0 ≠ 0x7F ∨ byte kept 1 ≠ 0x45 ∨ byte kept 2 ≠ 0x4C ∨ byte kept 3 ≠ 0x46) := by
    rw [hheld.byte (by omega), hheld.byte (by omega), hheld.byte (by omega), hheld.byte (by omega), h0, h1, h2, h3]
    decide
  have hkind : ¬ (byte kept 4 ≠ 2 ∨ byte kept 5 ≠ 1) := by
    rw [hheld.byte (by omega), hheld.byte (by omega)]
    exact hformat
  have hhalf : ∀ off, off + 2 ≤ m → (readLe16 kept off).toNat = (field 16 elf off 2).toNat := by
    intro off hoff
    rw [readLe16, hheld.field 16 hoff, BitVec.toNat_setWidth]
    have hbound := (field 16 elf off 2).isLt
    omega
  have hmachine : ¬ readLe16 kept 18 ≠ EM_LITTLE64 := by
    have hvalue : (field 16 elf 18 2).toNat = 0x4C36 := congrArg BitVec.toNat hheader.machine
    rw [not_not]
    apply BitVec.eq_of_toNat_eq
    rw [hhalf 18 (by omega), hvalue]
    rfl
  have hphentsize : (readLe16 kept 54).toNat = (ehdr elf).phentsize.toNat := hhalf 54 (by omega)
  have hphnum : (readLe16 kept 56).toNat = headers elf := hhalf 56 (by omega)
  have htableSize := hkept.table
  have hphoff : (readLe32 kept 32).toNat = (ehdr elf).phoff.toNat := by
    have hlow : readLe32 kept 32 = readLe32 elf 32 := hheld.field 32 (by omega)
    rw [hlow, field_low, BitVec.toNat_setWidth]
    change (ehdr elf).phoff.toNat % 2 ^ 32 = _
    omega
  have htable : ¬ BitVec.ofNat 64 ELF_HEADER_SCRATCH_SIZE < (readLe32 kept 32).setWidth 64 +
      (readLe16 kept 54).setWidth 64 * (readLe16 kept 56).setWidth 64 := by
    have hproduct : (ehdr elf).phentsize.toNat * headers elf ≤ 4096 := by
      rw [Nat.mul_comm]
      omega
    rw [BitVec.lt_def, BitVec.toNat_add, BitVec.toNat_mul, BitVec.toNat_setWidth, BitVec.toNat_setWidth,
      BitVec.toNat_setWidth, hphoff, hphentsize, hphnum, Nat.mod_eq_of_lt (ehdr elf).phoff.isLt,
      Nat.mod_eq_of_lt (show (ehdr elf).phentsize.toNat < 2 ^ 64 by omega),
      Nat.mod_eq_of_lt (show headers elf < 2 ^ 64 by omega), Nat.mul_comm (ehdr elf).phentsize.toNat]
    change ¬ 4096 < _
    rw [Nat.mul_comm] at hproduct
    omega
  refine ⟨⟨kept, readLe64 kept 24, readLe32 kept 32, readLe16 kept 54, readLe16 kept 56⟩, ?_, ?_, hphnum, ?_⟩
  · exact (guard_passed hmagic).trans ((guard_passed hkind).trans ((guard_passed hmachine).trans (guard_passed htable)))
  · exact congrArg BitVec.toNat (hheld.field 64 (by omega))
  · intro i hi
    have hend := hkept.place hi
    have hinside := hplaces i hi
    have hplace : (readLe32 kept 32 + BitVec.ofNat 32 i * readLe16 kept 54).toNat = headerPlace elf i := by
      rw [headerPlace] at hend ⊢
      rw [BitVec.toNat_add, BitVec.toNat_mul, hphoff, hphentsize, BitVec.toNat_ofNat,
        Nat.mod_eq_of_lt (show i < 2 ^ 32 by omega)]
      omega
    rw [ElfHeader.programHeader]
    dsimp only
    rw [hplace, readLe32, readLe64, readLe64, readLe64, readLe64, hheld.field 32 (by omega), hheld.field 64 (by omega),
      hheld.field 64 (by omega), hheld.field 64 (by omega), hheld.field 64 (by omega)]
    rfl

end Scratch

section Placements

variable {board : Board} {p : ParsedElf} {window : ImageWindow} {entry : Word} {dtbSize : U32}
  {checksums : Stage0BootChecksums}

/-- Where stage 0 puts the kernel: at its own addresses if they are in RAM. -/
def Board.loadBase (board : Board) (p : ParsedElf) : ℕ :=
  if (board.ramBase.toNat ≤ p.virtualBase ∧ p.virtualBase + p.span ≤ board.ramBase.toNat + board.ramSize.toNat) ∧
    p.virtualBase ≤ p.entry ∧ p.entry < p.virtualBase + p.span then p.virtualBase
  else board.kernelPhysicalBase.toNat

def Board.dtbPlace (board : Board) (p : ParsedElf) : ℕ :=
  board.loadBase p + alignUp (p.span + Boot.EARLY_PT_SCRATCH_PAGES * Boot.PAGE_SIZE) Boot.PAGE_SIZE

/-- The image and the device tree fit in RAM with the stack of the kernel above them. -/
structure Board.HasRoom (board : Board) (p : ParsedElf) (dtbLength : ℕ) : Prop where
  ram : board.ramBase.toNat + board.ramSize.toNat < 2 ^ 64
  base : board.ramBase.toNat ≤ board.loadBase p
  stack : board.dtbPlace p + dtbLength + 520 < board.ramBase.toNat + board.ramSize.toNat

lemma dtbPlace_ge (board : Board) (p : ParsedElf) : board.loadBase p + p.span + 122880 ≤ board.dtbPlace p := by
  rw [Board.dtbPlace, alignUp, Boot.EARLY_PT_SCRATCH_PAGES, Boot.PAGE_SIZE]
  omega

lemma toNat_bootStackTop (hram : board.ramBase.toNat + board.ramSize.toNat < 2 ^ 64)
    (hlarge : 520 ≤ board.ramBase.toNat + board.ramSize.toNat) :
    board.bootStackTop.toNat = board.ramBase.toNat + board.ramSize.toNat - 520 := by
  rw [Board.bootStackTop, BitVec.toNat_sub, BitVec.toNat_sub, BitVec.toNat_add]
  change (2 ^ 64 - 8 + (2 ^ 64 - 512 + (board.ramBase.toNat + board.ramSize.toNat) % 2 ^ 64) % 2 ^ 64) % 2 ^ 64 = _
  omega

lemma toNat_alignUpU64 {value : Word} (hvalue : value.toNat + 4095 < 2 ^ 64) :
    (alignUpU64 value PAGE_SIZE).toNat = alignUp value.toNat Boot.PAGE_SIZE := by
  have hmask : PAGE_SIZE - 1 = BitFields.lowMask 64 12 := by decide
  have hadd : (value + PAGE_SIZE - 1).toNat = value.toNat + 4095 := by
    rw [BitVec.toNat_sub, BitVec.toNat_add]
    change (2 ^ 64 - 1 + (value.toNat + 4096) % 2 ^ 64) % 2 ^ 64 = _
    omega
  rw [alignUpU64, hmask, BitFields.toNat_and_not_lowMask, hadd, alignUp]
  rfl

lemma toNat_virtualBase (minVaddr : Word) :
    (minVaddr &&& ~~~(PAGE_SIZE - 1)).toNat = minVaddr.toNat / 4096 * 4096 := by
  have hmask : PAGE_SIZE - 1 = BitFields.lowMask 64 12 := by decide
  rw [hmask]
  exact BitFields.toNat_and_not_lowMask minVaddr 12

section Room

variable {virtualBase imageSpan entry : Word} {dtbLength e : ℕ} (hroom : board.HasRoom p dtbLength)
  (hlast : p.virtualBase + p.span < 2 ^ 64) (hvirtual : virtualBase.toNat = p.virtualBase)
  (hspan : imageSpan.toNat = p.span)

include hroom hspan

lemma fits_iff (base : Word) (hbase : base.toNat + p.span < 2 ^ 64) : board.imageWindowFitsRam base imageSpan = true ↔
    board.ramBase.toNat ≤ base.toNat ∧ base.toNat + p.span ≤ board.ramBase.toNat + board.ramSize.toNat := by
  have hram := hroom.ram
  rw [Board.imageWindowFitsRam, decide_eq_true_eq, BitVec.le_def, BitVec.le_def, BitVec.toNat_add, BitVec.toNat_add, hspan,
    Nat.mod_eq_of_lt hbase, Nat.mod_eq_of_lt hram]

include hlast hvirtual

lemma placeImage_ok (hentry : entry.toNat = p.entry) (hfound : p.entryFor (board.loadBase p) = some e) :
    ∃ place, board.placeImage virtualBase imageSpan entry = .ok place ∧ place.1.toNat = board.loadBase p ∧
      place.2.toNat = e := by
  have hfits := fits_iff hroom hspan virtualBase (by omega)
  have htree := dtbPlace_ge board p
  have hram := hroom.ram
  have hstack := hroom.stack
  have hwindow : (virtualBase ≤ entry ∧ entry < virtualBase + imageSpan) ↔
      p.virtualBase ≤ p.entry ∧ p.entry < p.virtualBase + p.span := by
    rw [BitVec.le_def, BitVec.lt_def, BitVec.toNat_add, hvirtual, hspan, hentry, Nat.mod_eq_of_lt hlast]
  rw [hvirtual] at hfits
  rw [Board.placeImage]
  by_cases hown : (board.ramBase.toNat ≤ p.virtualBase ∧
      p.virtualBase + p.span ≤ board.ramBase.toNat + board.ramSize.toNat) ∧
      p.virtualBase ≤ p.entry ∧ p.entry < p.virtualBase + p.span
  · have hbase : board.loadBase p = p.virtualBase := if_pos hown
    rw [hbase, ParsedElf.entryFor, if_pos hown.2] at hfound
    rw [hbase, if_pos ⟨hfits.mpr hown.1, hwindow.mpr hown.2⟩]
    refine ⟨_, rfl, hvirtual, ?_⟩
    have he := Option.some.inj hfound
    change entry.toNat = e
    omega
  have hbase : board.loadBase p = board.kernelPhysicalBase.toNat := if_neg hown
  rw [hbase] at hfound htree
  rw [hbase, if_neg fun h => hown ⟨hfits.mp h.1, hwindow.mp h.2⟩]
  rw [ParsedElf.entryFor] at hfound
  by_cases hvirtualEntry : p.virtualBase ≤ p.entry ∧ p.entry < p.virtualBase + p.span
  · rw [if_pos hvirtualEntry] at hfound
    rw [if_pos (hwindow.mpr hvirtualEntry)]
    refine ⟨_, rfl, rfl, ?_⟩
    have he := Option.some.inj hfound
    change (board.kernelPhysicalBase + (entry - virtualBase)).toNat = e
    rw [BitVec.toNat_add, BitVec.toNat_sub, hentry, hvirtual]
    omega
  · rw [if_neg hvirtualEntry] at hfound
    rw [if_neg fun h => hvirtualEntry (hwindow.mp h)]
    have hphysical : (board.kernelPhysicalBase ≤ entry ∧ entry < board.kernelPhysicalBase + imageSpan) ↔
        board.kernelPhysicalBase.toNat ≤ p.entry ∧ p.entry < board.kernelPhysicalBase.toNat + p.span := by
      rw [BitVec.le_def, BitVec.lt_def, BitVec.toNat_add, hspan, hentry, Nat.mod_eq_of_lt (by omega)]
    split at hfound
    · next h =>
      rw [if_pos (hphysical.mpr h)]
      exact ⟨_, rfl, rfl, hentry.trans (Option.some.inj hfound)⟩
    · cases hfound

end Room

/-- Stage 0 places everything as the builder does. -/
lemma placeKernel_ok {dtbLength e : ℕ} (hroom : board.HasRoom p dtbLength) (hlast : p.virtualBase + p.span < 2 ^ 64)
    (hfirst : p.minVaddr ≠ 0) (hsome : p.minVaddr < p.maxVaddr) (hmin : window.minVaddr.toNat = p.minVaddr)
    (hmax : window.maxVaddr.toNat = p.maxVaddr) (hentry : entry.toNat = p.entry)
    (hfound : p.entryFor (board.loadBase p) = some e) (hdtb : dtbSize.toNat = dtbLength)
    (hkernelSize : checksums.kernelImageSize.toNat = p.span) (hdtbSize : checksums.dtbSize = dtbSize) :
    ∃ place, board.placeKernel window entry dtbSize checksums = .ok place ∧
      place.virtualBase.toNat = p.virtualBase ∧ place.imageSpan.toNat = p.span ∧
      place.loadPhysicalBase.toNat = board.loadBase p ∧ place.entryPhysical.toNat = e ∧
      place.dtbPhysical.toNat = board.dtbPlace p := by
  have hvirtual : (window.minVaddr &&& ~~~(PAGE_SIZE - 1)).toNat = p.virtualBase := by
    rw [toNat_virtualBase, hmin]
    rfl
  have hspanEq := span_eq p
  have hpage : p.virtualBase = p.minVaddr / 4096 * 4096 := rfl
  have hspan : (alignUpU64 (window.maxVaddr - (window.minVaddr &&& ~~~(PAGE_SIZE - 1))) PAGE_SIZE).toNat = p.span := by
    have hlength : (window.maxVaddr - (window.minVaddr &&& ~~~(PAGE_SIZE - 1))).toNat = p.maxVaddr - p.virtualBase := by
      rw [BitVec.toNat_sub, hvirtual, hmax]
      omega
    rw [toNat_alignUpU64 (by omega), hlength]
    rfl
  generalize hv : window.minVaddr &&& ~~~(PAGE_SIZE - 1) = virtualBase at *
  generalize hs : alignUpU64 (window.maxVaddr - virtualBase) PAGE_SIZE = imageSpan at *
  obtain ⟨⟨loadBase, entryPhysical⟩, hplaced, hload, he⟩ := placeImage_ok hroom hlast hvirtual hspan hentry hfound
  simp only at hload he
  have hram := hroom.ram
  have hbase := hroom.base
  have hstack := hroom.stack
  have hpages := dtbPlace_ge board p
  have htree : (alignUpU64 (imageSpan + EARLY_PT_SCRATCH_PAGES * PAGE_SIZE) PAGE_SIZE).toNat =
      alignUp (p.span + Boot.EARLY_PT_SCRATCH_PAGES * Boot.PAGE_SIZE) Boot.PAGE_SIZE := by
    have hscratch : (imageSpan + EARLY_PT_SCRATCH_PAGES * PAGE_SIZE).toNat = p.span + 122880 := by
      rw [BitVec.toNat_add, hspan]
      change (p.span + 122880) % 2 ^ 64 = _
      omega
    rw [toNat_alignUpU64 (by omega), hscratch]
    rfl
  have hdtbPlace : (loadBase + alignUpU64 (imageSpan + EARLY_PT_SCRATCH_PAGES * PAGE_SIZE) PAGE_SIZE).toNat =
      board.dtbPlace p := by
    rw [Board.dtbPlace] at hstack ⊢
    rw [BitVec.toNat_add, hload, htree]
    omega
  have hinRam := (fits_iff hroom hspan loadBase (by omega)).mpr (by omega)
  generalize hd : loadBase + alignUpU64 (imageSpan + EARLY_PT_SCRATCH_PAGES * PAGE_SIZE) PAGE_SIZE = dtbPhysical at *
  have hdtbEnd : (dtbPhysical + dtbSize.setWidth 64).toNat = board.dtbPlace p + dtbLength := by
    have hshort := dtbSize.isLt
    rw [BitVec.toNat_add, BitVec.toNat_setWidth, hdtb, hdtbPlace]
    omega
  have htop : (board.ramBase + board.ramSize).toNat = board.ramBase.toNat + board.ramSize.toNat := by
    rw [BitVec.toNat_add, Nat.mod_eq_of_lt hram]
  have hwindow : ¬ (window.minVaddr = 0 ∨ window.maxVaddr ≤ window.minVaddr) := by
    rw [BitVec.le_def, hmin, hmax, ← BitVec.toNat_inj, hmin]
    exact not_or.mpr ⟨hfirst, Nat.not_le.mpr hsome⟩
  have hfit : ¬ (board.imageWindowFitsRam loadBase imageSpan = false ∨
      board.ramBase + board.ramSize < dtbPhysical + dtbSize.setWidth 64) := by
    rw [hinRam, BitVec.lt_def, hdtbEnd, htop, not_or]
    exact ⟨Bool.noConfusion, by omega⟩
  have habove : ¬ board.bootStackTop ≤ dtbPhysical + dtbSize.setWidth 64 := by
    rw [BitVec.le_def, hdtbEnd, toNat_bootStackTop hram (by omega)]
    omega
  have hsizes : ¬ checksums.kernelImageSize.setWidth 64 ≠ imageSpan := by
    rw [not_not]
    apply BitVec.eq_of_toNat_eq
    have hshort := checksums.kernelImageSize.isLt
    rw [BitVec.toNat_setWidth, hspan, ← hkernelSize]
    omega
  refine ⟨⟨virtualBase, imageSpan, loadBase, entryPhysical, dtbPhysical⟩, ?_, hvirtual, hspan, hload, he, hdtbPlace⟩
  rw [Board.placeKernel]
  refine (guard_passed hwindow).trans ?_
  dsimp only
  rw [hv, hs, hplaced, ok_then]
  dsimp only
  rw [hd]
  refine (guard_passed hfit).trans ?_
  refine (guard_passed habove).trans ?_
  exact (guard_passed hsizes).trans (guard_passed (not_not.mpr hdtbSize))

end Placements

section Cards

variable {card : CardLayout} {kernelElf dtb rootfs partition image mbr checksums : Blob} {parts : BootParts}
  (h : OnCard card (stage0Files kernelElf dtb checksums) rootfs parts partition mbr image)
  (hspc : card.sectorsPerCluster = 1)

lemma readsFile_of_holds {disk : Disk} {volume : Fat32Volume} {first : ℕ} {payload : Blob}
    (hholds : Holds disk volume first payload) (fileSize : U32) :
    ReadsFile volume disk ⟨cluster first 0, fileSize⟩ payload :=
  fun _ _ hrange hbehind => (reads_iff hholds hrange fileSize).mpr hbehind

include h hspc

/-- The checksums stand behind the two other files in the directory. -/
lemma locates_checksums : ∃ file ∈ fileSpecs card 3 (stage0Files kernelElf dtb checksums), file.payload = checksums ∧
    ∀ rounds (cache : FatCache (imageDisk image)), locateRootFile (volumeOf card parts) CHECKSUMS_NAME (rounds + 1) cache =
      .ok ⟨BitVec.ofNat 32 file.layout.firstCluster, BitVec.ofNat 32 checksums.length⟩ := by
  obtain ⟨kernelFile, dtbFile, crcFile, hfiles, hkernel, hdtb, hcrc, hpayload⟩ : ∃ kernelFile dtbFile crcFile,
      fileSpecs card 3 (stage0Files kernelElf dtb checksums) = [kernelFile, dtbFile, crcFile] ∧
      kernelFile.layout.shortName = KERNEL_NAME ∧ dtbFile.layout.shortName = DTB_NAME ∧
      crcFile.layout.shortName = CHECKSUMS_NAME ∧ crcFile.payload = checksums := ⟨_, _, _, rfl, rfl, rfl, rfl, rfl⟩
  have hnone : ∀ file ∈ fileSpecs card 3 (stage0Files kernelElf dtb checksums), file.longName = none := by
    simp [fileSpecs, stage0Files]
  have hmem : crcFile ∈ fileSpecs card 3 (stage0Files kernelElf dtb checksums) := by simp [hfiles]
  obtain ⟨hsizes, hroot⟩ := (rootDirectory_eq_ok hnone).1 h.parts.rootDir
  have hentries : rootBlocks ((fileSpecs card 3 (stage0Files kernelElf dtb checksums)).map fun file =>
      dirEntry file.layout) =
      [⟨0, dirEntry kernelFile.layout⟩, ⟨32, dirEntry dtbFile.layout⟩, ⟨64, dirEntry crcFile.layout⟩, ⟨96, [0]⟩] := by
    rw [hfiles]
    rfl
  have hlengths : ∀ entry ∈ (fileSpecs card 3 (stage0Files kernelElf dtb checksums)).map fun file =>
      dirEntry file.layout, entry.length = 32 := by
    intro entry hentry
    obtain ⟨file, hfile, rfl⟩ := List.mem_map.mp hentry
    exact length_filled (dirEntry_fit (h.fitting.names _ (placed_of_mem hfile).source))
  have hfit := fit_zeros (root_fit (by rw [hfiles]; simp) hlengths)
  rw [clusterSize_eq hspc, hentries] at hroot
  rw [hentries] at hfit
  have hstop := stop_lt h.parts.cluster h.fitting.count hsizes hmem
  have hstart := (placed_of_mem hmem).start
  have hfirst : EntryAt parts.rootDir 0 kernelFile.layout := hroot ▸ entryAt hfit (by rw [hkernel]; rfl) (by simp)
  have hsecond : EntryAt parts.rootDir 32 dtbFile.layout := hroot ▸ entryAt hfit (by rw [hdtb]; rfl) (by simp)
  have hthird : EntryAt parts.rootDir 64 crcFile.layout := hroot ▸ entryAt hfit (by rw [hcrc]; rfl) (by simp)
  have hfound := findInSector_found (n := 13) hthird (by rw [hcrc]; decide) (by rw [hcrc]; decide) hcrc (by omega)
    (by omega)
  rw [(placed_of_mem hmem).size, hpayload] at hfound
  refine ⟨crcFile, hmem, hpayload, locateRootFile_of_found h hspc ?_⟩
  calc findInSector CHECKSUMS_NAME parts.rootDir 16 0
    _ = findInSector CHECKSUMS_NAME parts.rootDir 15 32 :=
      findInSector_skip hfirst (by rw [hkernel]; decide) (by rw [hkernel]; decide)
    _ = findInSector CHECKSUMS_NAME parts.rootDir 14 64 :=
      findInSector_skip hsecond (by rw [hdtb]; decide) (by rw [hdtb]; decide)
    _ = _ := hfound

/-- All three files are found, and read as they are. -/
lemma locates_files : ∃ kernelFile dtbFile checksumsFile : Stage0FileInfo,
    (∀ rounds (cache : FatCache (imageDisk image)),
      locateRootFile (volumeOf card parts) KERNEL_NAME (rounds + 1) cache = .ok kernelFile ∧
      locateRootFile (volumeOf card parts) DTB_NAME (rounds + 1) cache = .ok dtbFile ∧
      locateRootFile (volumeOf card parts) CHECKSUMS_NAME (rounds + 1) cache = .ok checksumsFile) ∧
    (kernelFile.size.toNat = kernelElf.length ∧ dtbFile.size.toNat = dtb.length ∧
      checksumsFile.size.toNat = checksums.length) ∧
    ReadsFile (volumeOf card parts) (imageDisk image) kernelFile kernelElf ∧
    ReadsFile (volumeOf card parts) (imageDisk image) dtbFile dtb ∧
    ReadsFile (volumeOf card parts) (imageDisk image) checksumsFile checksums := by
  obtain ⟨kernelFile, hkernelIn, rfl, hkernel⟩ := locates h hspc (List.mem_cons_self (a := (KERNEL_NAME, kernelElf)))
  obtain ⟨dtbFile, hdtbIn, rfl, hdtb⟩ := locates h hspc (List.mem_cons_of_mem (KERNEL_NAME, _)
    (List.mem_singleton_self (DTB_NAME, dtb)))
  obtain ⟨crcFile, hcrcIn, rfl, hcrc⟩ := locates_checksums h hspc
  have hkernelHolds := holds h hspc hkernelIn
  have hdtbHolds := holds h hspc hdtbIn
  have hcrcHolds := holds h hspc hcrcIn
  refine ⟨_, _, _, fun rounds cache => ⟨hkernel rounds cache, hdtb rounds cache, hcrc rounds cache⟩, ⟨?_, ?_, ?_⟩,
    readsFile_of_holds hkernelHolds _, readsFile_of_holds hdtbHolds _, readsFile_of_holds hcrcHolds _⟩
  · exact BitVec.toNat_ofNat _ _ ▸ Nat.mod_eq_of_lt hkernelHolds.size
  · exact BitVec.toNat_ofNat _ _ ▸ Nat.mod_eq_of_lt hdtbHolds.size
  · exact BitVec.toNat_ofNat _ _ ▸ Nat.mod_eq_of_lt hcrcHolds.size

end Cards

section Checksums

variable {bytes : Blob} {c : SdBootChecksums}

/-- The words of the file with the checksums. -/
def checksumWords (c : SdBootChecksums) : List U32 :=
  [BitVec.ofNat 32 BOOT_CHECKSUM_MAGIC, BitVec.ofNat 32 BOOT_CHECKSUM_VERSION, c.kernelImageCrc32,
    BitVec.ofNat 32 c.kernelImageSize, c.dtbCrc32, BitVec.ofNat 32 c.dtbSize, 0, 0]

lemma serialized (h : serializeSdBootChecksums c = .ok bytes) :
    c.kernelImageSize < 2 ^ 32 ∧ c.dtbSize < 2 ^ 32 ∧ bytes = (checksumWords c).flatMap (le 4) := by
  rw [serializeSdBootChecksums] at h
  simp only [packU32_bind_eq_ok] at h
  obtain ⟨-, -, hkernel, hdtb, -, h⟩ := h
  refine ⟨hkernel, hdtb, ?_⟩
  rw [← Except.ok.inj h]
  simp [checksumWords, u32Bytes]

lemma readLe32_words {words : List U32} {i : ℕ} (hi : i < words.length) :
    readLe32 (words.flatMap (le 4)) (4 * i) = words[i] := by
  have hpart := part_flatMap (f := le 4) (fun word _ => length_le 4 word) hi
  have hword : part (le 4 words[i]) 0 4 = le 4 words[i] := part_all (le 4 words[i])
  rw [← hword] at hpart
  exact (field_congr 32 hpart).trans (field_le _ rfl)

/-- Stage 0 reads the checksums that the builder has written. -/
lemma loadBootChecksums_ok {disk : Disk} {volume : Fat32Volume} {file : Stage0FileInfo}
    (h : serializeSdBootChecksums c = .ok bytes) (hfile : ReadsFile volume disk file bytes)
    (hsize : file.size.toNat = bytes.length) (cache : FatCache disk) (scratch : Blob) :
    ∃ checksums kept, loadBootChecksums volume file cache scratch = .ok (checksums, kept) ∧
      checksums.kernelImageCrc32 = c.kernelImageCrc32 ∧ checksums.kernelImageSize.toNat = c.kernelImageSize ∧
      checksums.dtbCrc32 = c.dtbCrc32 ∧ checksums.dtbSize.toNat = c.dtbSize := by
  obtain ⟨hkernel, hdtb, rfl⟩ := serialized h
  generalize hbytes : (checksumWords c).flatMap (le 4) = bytes at hfile hsize
  have hlength : bytes.length = 32 := by
    rw [← hbytes]
    simp [checksumWords]
  have hread := (hfile 0 32 (by omega) (fun hbehind => absurd hbehind.1 (by decide)) cache).1
  have hheld := holding_stored scratch bytes (m := 32) hlength.ge
  change readFileRangeToBuffer volume file 0 32 cache = _ at hread
  rw [loadBootChecksums, hread]
  generalize hkept : storeToScratch scratch (part bytes 0 32) = kept at hheld
  have hwords : ∀ i (hi : i < 8), readLe32 kept (4 * i) = (checksumWords c)[i] := by
    intro i hi
    rw [readLe32, hheld.field 32 (by omega), ← hbytes]
    exact readLe32_words hi
  have hlong : ¬ file.size < 32 := by
    rw [BitVec.lt_def, hsize, hlength]
    decide
  have hmagic : ¬ readLe32 kept 0 ≠ STAGE0_BOOT_CHECKSUM_MAGIC := not_not.mpr (hwords 0 (by decide))
  have hversion : ¬ readLe32 kept 4 ≠ STAGE0_BOOT_CHECKSUM_VERSION := not_not.mpr (hwords 1 (by decide))
  refine ⟨⟨readLe32 kept 0, readLe32 kept 4, readLe32 kept 8, readLe32 kept 12, readLe32 kept 16, readLe32 kept 20,
    readLe32 kept 24, readLe32 kept 28⟩, kept, ?_, hwords 2 (by decide), ?_, hwords 4 (by decide), ?_⟩
  · refine (guard_passed hlong).trans ?_
    rw [ok_then]
    dsimp only
    rw [hkept]
    refine (guard_passed hmagic).trans ?_
    exact guard_passed hversion
  · change (readLe32 kept (4 * 3)).toNat = _
    rw [hwords 3 (by decide)]
    exact (BitVec.toNat_ofNat _ _).trans (Nat.mod_eq_of_lt hkernel)
  · change (readLe32 kept (4 * 5)).toNat = _
    rw [hwords 5 (by decide)]
    exact (BitVec.toNat_ofNat _ _).trans (Nat.mod_eq_of_lt hdtb)

lemma crc32Finalize_eq (bytes : Blob) : crc32Finalize (crc32UpdateBytes crc32Initialize bytes) = crc32 bytes := by
  rw [crc32UpdateBytes_eq, crc32Finalize, crc32, crc32Initialize]
  exact BitVec.xor_allOnes

/-- The checksum of what has been loaded, and of the zeros behind it. -/
lemma Loaded.finish {base : Word} {span : ℕ} {start : Ram} {l : Loading} {B : Blob} (h : Loaded base span start l B)
    (hspan : span < 2 ^ 32) : l.finish (BitVec.ofNat 64 span) = crc32 (grown B span) := by
  have hlength := h.length
  have hoffset : l.currentKernelOffset.setWidth 64 = BitVec.ofNat 64 B.length := by
    apply BitVec.eq_of_toNat_eq
    rw [h.offset, BitVec.toNat_setWidth, BitVec.toNat_ofNat, BitVec.toNat_ofNat]
    omega
  have hleft : ((BitVec.ofNat 64 span - BitVec.ofNat 64 B.length).setWidth 32 : U32).toNat = span - B.length := by
    rw [BitVec.toNat_setWidth, BitVec.toNat_sub, BitVec.toNat_ofNat, BitVec.toNat_ofNat]
    omega
  have hlt : BitVec.ofNat 64 B.length < BitVec.ofNat 64 span ↔ B.length < span := by
    rw [BitVec.lt_def, BitVec.toNat_ofNat, BitVec.toNat_ofNat, Nat.mod_eq_of_lt (by omega), Nat.mod_eq_of_lt (by omega)]
  rw [← crc32Finalize_eq, grown, crc32UpdateBytes_append, ← h.crc, ← crc32UpdateZeros_eq, Loading.finish,
    hoffset, hleft]
  split
  · rfl
  · next hfull =>
    rw [hlt] at hfull
    rw [Nat.sub_eq_zero_of_le (Nat.not_lt.mp hfull)]
    rfl

end Checksums

section Handoffs

variable {board : Board} {kernelElf dtb : Blob} {p : ParsedElf} {kernel : LinuxElfImage} {place : Placement} {start : Ram}
  {l : Loading} {B : Blob} {base : ℕ}

/-- The image of the kernel and the device tree are in memory, the registers are set for them, and nothing else was
written. -/
structure HandsOver (board : Board) (kernel : LinuxElfImage) (dtb : Blob) (base : ℕ) (ram : Ram) (h : Handoff) : Prop where
  image : physicalBytes h.ram (BitVec.ofNat 64 base) kernel.image.length = kernel.image
  whole : kernel.image.length = kernel.imageSpan
  tree : physicalBytes h.ram h.dtbPhysical dtb.length = dtb
  treePlace : h.dtbPhysical.toNat = kernel.dtbPhysicalAddress base
  entry : h.entryPhysical.toNat = kernel.entryPhysical
  stack : h.stackTop.toNat = board.ramBase.toNat + board.ramSize.toNat - 520
  inRam : board.ramBase.toNat ≤ base ∧ h.dtbPhysical.toNat + dtb.length < h.stackTop.toNat
  untouched : ∀ address : Word, kernel.image.length ≤ (address - BitVec.ofNat 64 base).toNat →
    dtb.length ≤ (address - h.dtbPhysical).toNat → h.ram address = ram address

/-- The memory behind the device tree's copy still holds the image. -/
lemma window_behind (ram : Ram) (dtb : Blob) {dtbPhysical : Word} {base span dtbPlace : ℕ} (hbase : base + span ≤ dtbPlace)
    (hend : dtbPlace + dtb.length < 2 ^ 64) (hplace : dtbPhysical = BitVec.ofNat 64 dtbPlace) :
    physicalBytes (copyToPhysical ram dtbPhysical dtb) (BitVec.ofNat 64 base) span =
      physicalBytes ram (BitVec.ofNat 64 base) span := by
  have hoff : dtbPhysical = BitVec.ofNat 64 base + BitVec.ofNat 64 (dtbPlace - base) := by
    rw [hplace, ← BitVec.ofNat_add]
    congr 1
    omega
  rw [hoff]
  exact physicalBytes_behind ram (BitVec.ofNat 64 base) (by omega) (by omega)

/-- The check of the memory passes where it holds the image and the device tree. -/
lemma verifyPhysical_ok {ram : Ram} {dtbSize : U32} {checksums : Stage0BootChecksums} {image : Blob}
    (himage : physicalBytes ram place.loadPhysicalBase image.length = image)
    (htree : physicalBytes ram place.dtbPhysical dtb.length = dtb) (hlength : image.length < 2 ^ 32)
    (hspan : place.imageSpan.toNat = image.length) (hdtbSize : dtbSize.toNat = dtb.length)
    (hkernelCrc : checksums.kernelImageCrc32 = crc32 image) (hdtbCrc : checksums.dtbCrc32 = crc32 dtb) :
    verifyPhysical ram place dtbSize checksums = .ok () := by
  have hsize : (place.imageSpan.setWidth 32 : U32).toNat = image.length := by
    rw [BitVec.toNat_setWidth, hspan]
    exact Nat.mod_eq_of_lt hlength
  rw [verifyPhysical]
  dsimp only
  rw [crc32UpdatePhysical_eq, crc32UpdatePhysical_eq, hsize, hdtbSize, himage, htree, crc32Finalize_eq, crc32Finalize_eq]
  refine (guard_passed (not_not.mpr hkernelCrc.symm)).trans ?_
  exact if_neg (not_not.mpr hdtbCrc.symm)

section Kernels

variable {disk : Disk} {volume : Fat32Volume} {kernelFile dtbFile : Stage0FileInfo} {checksums : Stage0BootChecksums}

/-- A kernel that stage 0 can load in one go: its program headers stand at the front of the file, its segments follow
one another, and none of them reaches the end of the address space. -/
structure Loadable (elf : Blob) (p : ParsedElf) : Prop where
  ordered : Ordered elf p
  kept : HeadersKept elf
  first : p.minVaddr ≠ 0
  some : p.minVaddr < p.maxVaddr
  last : p.virtualBase + p.span < 2 ^ 64

lemma length_flattened (hp : parseLittle64ElfLoadSegments kernelElf = .ok p) (ho : Ordered kernelElf p)
    (hflatten : flattenLittle64LinuxElfImage kernelElf base = .ok kernel) : kernel.image.length = p.span := by
  obtain ⟨p', hp', -, -, -, -, hwindow⟩ := flatten_eq_ok hflatten
  obtain rfl := Except.ok.inj (hp.symm.trans hp')
  obtain ⟨hvirtual, -, -, hplaces, -⟩ := parsed_places hp
  refine hwindow.mpr fun s hs => .inr ?_
  obtain ⟨hlower, -, hstop, -⟩ := hplaces s hs
  have hfilled := ho.filled s hs
  rw [LoadSegment.stop] at hstop
  rw [span_eq]
  omega

lemma loadKernelAndHandoff_ok (hp : parseLittle64ElfLoadSegments kernelElf = .ok p) (hk : Loadable kernelElf p)
    (hdtb : dtb ≠ []) (hroom : board.HasRoom p dtb.length)
    (hflatten : flattenLittle64LinuxElfImage kernelElf (board.loadBase p) = .ok kernel)
    (hkernelFile : ReadsFile volume disk kernelFile kernelElf) (hdtbFile : ReadsFile volume disk dtbFile dtb)
    (hkernelSize : kernelFile.size.toNat = kernelElf.length) (hdtbSize : dtbFile.size.toNat = dtb.length)
    (hspan : p.span < 2 ^ 32) (hkernelCrc : checksums.kernelImageCrc32 = crc32 (p.flattened kernelElf))
    (himageSize : checksums.kernelImageSize.toNat = (p.flattened kernelElf).length)
    (hdtbCrc : checksums.dtbCrc32 = crc32 dtb) (htreeSize : checksums.dtbSize.toNat = dtb.length)
    (cache : ℕ → FatCache disk) (scratch : Blob) (ram : Ram) :
    ∃ handoff, loadKernelAndHandoff volume board cache kernelFile dtbFile checksums scratch ram = .ok handoff ∧
      HandsOver board kernel dtb (board.loadBase p) ram handoff := by
  have hlength := length_flattened hp hk.ordered hflatten
  obtain ⟨p', e, hp', hentry, rfl⟩ := flatten_eq_ok_iff.mp hflatten
  obtain rfl := Except.ok.inj (hp.symm.trans hp')
  have hkernelWord : kernelFile.size = BitVec.ofNat 32 kernelElf.length := by
    rw [← hkernelSize, BitVec.ofNat_toNat, BitVec.setWidth_eq]
  have hdtbWord : dtbFile.size = BitVec.ofNat 32 dtb.length := by
    rw [← hdtbSize, BitVec.ofNat_toNat, BitVec.setWidth_eq]
  have hkernelLength : kernelElf.length < 2 ^ 32 := hkernelSize ▸ kernelFile.size.isLt
  have hdtbLength : dtb.length < 2 ^ 32 := hdtbSize ▸ dtbFile.size.isLt
  have hlong := (parse_eq_ok.mp hp).1.size
  obtain ⟨hvirtual, -⟩ := parsed_places hp
  have hmaxVaddr : p.maxVaddr ≤ p.virtualBase + p.span := by
    rw [span_eq]
    omega
  have hlast := hk.last
  have hram := hroom.ram
  have hroomStack := hroom.stack
  have hroomBase := hroom.base
  have hpages := dtbPlace_ge board p
  -- the header, the window and the places
  obtain ⟨h, hheader, hh⟩ := readElfHeader_ok hp hk.kept hkernelFile hkernelLength hkernelWord (cache 0) scratch
  obtain ⟨window, hscan, hmin, hmax, -⟩ := scans_headers hp hh hk.first (by omega) hkernelLength le_rfl
  obtain ⟨-, -, -, hfirst, hparsed⟩ := parse_eq_ok.mp hp
  have hminEq : window.minVaddr.toNat = p.minVaddr := by
    rw [hmin, hfirst]
    rfl
  have hmaxEq : window.maxVaddr.toNat = p.maxVaddr := by
    rw [hmax]
    exact (congrArg ParsedElf.maxVaddr hparsed).symm
  have hentryWord : h.entry.toNat = p.entry := hh.entry.trans (entry_parsed hp)
  have hsizes : checksums.dtbSize = dtbFile.size := BitVec.eq_of_toNat_eq (htreeSize.trans hdtbSize.symm)
  obtain ⟨place, hplaced, hvirtualPlace, himageSpan, hload, hentryPlace, hdtbPlace⟩ := placeKernel_ok hroom hlast hk.first
    hk.some hminEq hmaxEq hentryWord hentry hdtbSize (himageSize.trans hlength) hsizes
  have hbaseWord : place.loadPhysicalBase = BitVec.ofNat 64 (board.loadBase p) := by
    rw [← hload, BitVec.ofNat_toNat, BitVec.setWidth_eq]
  have hvirtualWord : place.virtualBase = BitVec.ofNat 64 p.virtualBase := by
    rw [← hvirtualPlace, BitVec.ofNat_toNat, BitVec.setWidth_eq]
  have hspanWord : place.imageSpan = BitVec.ofNat 64 p.span := by
    rw [← himageSpan, BitVec.ofNat_toNat, BitVec.setWidth_eq]
  have hdtbPlaceWord : place.dtbPhysical = BitVec.ofNat 64 (board.dtbPlace p) := by
    rw [← hdtbPlace, BitVec.ofNat_toNat, BitVec.setWidth_eq]
  -- the image, the device tree and the checks of both
  obtain ⟨l, B, hloads, hloaded, himage, -⟩ := loads_headers ram hp hk.ordered hh hspan hkernelFile hbaseWord
    hvirtualWord cache le_rfl
  rw [segments_parsed hp] at himage
  rw [← hbaseWord, ← hspanWord] at hloads
  have himage : grown B p.span = p.flattened kernelElf := himage
  have hfinish := hloaded.finish hspan
  rw [himage, ← hspanWord, ← hkernelCrc] at hfinish
  have hdtbRead := (hdtbFile 0 dtb.length (by omega) (fun hbehind => hdtb (List.length_eq_zero_iff.mp hbehind.1))
    (cache (h.phnum.toNat + 1))).2
  rw [part_all, ← hdtbWord] at hdtbRead
  change readFileRangeToPhysical volume dtbFile 0 dtbFile.size _ = _ at hdtbRead
  have hbetween : board.loadBase p + p.span ≤ board.dtbPlace p := by omega
  have hbehind := window_behind l.ram dtb hbetween (by omega) hdtbPlaceWord
  have hwindow : physicalBytes (copyToPhysical l.ram place.dtbPhysical dtb) place.loadPhysicalBase
      (p.flattened kernelElf).length = p.flattened kernelElf := by
    rw [hlength, hbaseWord, hbehind, hloaded.window, himage]
  have htree := physicalBytes_written l.ram place.dtbPhysical dtb (by omega)
  have hverified := verifyPhysical_ok hwindow htree (hlength.trans_lt hspan)
    (himageSpan.trans hlength.symm) hdtbSize hkernelCrc hdtbCrc
  have hlargeKernel : ¬ kernelFile.size < 64 := by
    rw [BitVec.lt_def, hkernelSize]
    exact Nat.not_lt.mpr hlong
  have hsomeTree : ¬ dtbFile.size = 0 := by
    intro hzero
    rw [hzero] at hdtbSize
    exact hdtb (List.length_eq_zero_iff.mp hdtbSize.symm)
  refine ⟨⟨copyToPhysical l.ram place.dtbPhysical dtb, place.dtbPhysical, board.bootStackTop, place.entryPhysical⟩, ?_, ?_⟩
  · rw [loadKernelAndHandoff]
    refine (guard_passed hlargeKernel).trans ?_
    refine (guard_passed hsomeTree).trans ?_
    rw [hheader, ok_then]
    dsimp only
    rw [hh.count] at hdtbRead ⊢
    rw [hkernelWord, hscan, ok_then, hplaced, ok_then, hloads, ok_then]
    refine (guard_passed (not_not.mpr hfinish)).trans ?_
    rw [hdtbRead, ok_then]
    refine (guard_passed (not_not.mpr ((crc32Finalize_eq dtb).trans hdtbCrc.symm))).trans ?_
    rw [hverified]
    rfl
  · have hstackTop := toNat_bootStackTop hram (by omega)
    refine ⟨?_, hlength, htree, hdtbPlace, hentryPlace, hstackTop, ⟨hroomBase, ?_⟩, ?_⟩
    · rw [← hbaseWord]
      exact hwindow
    · change place.dtbPhysical.toNat + dtb.length < board.bootStackTop.toNat
      omega
    · intro address houtside hoff
      have hrest : copyToPhysical l.ram place.dtbPhysical dtb address = l.ram address := if_neg (Nat.not_lt.mpr hoff)
      exact hrest.trans (hloaded.outside address (hlength.symm.trans_le houtside))

end Kernels

end Handoffs

section Boots

variable {card : CardLayout} {kernelElf dtb rootfs image : Blob} {board : Board} {p : ParsedElf} {kernel : LinuxElfImage}

lemma stage0Payloads_spec {payloads : List FilePayload} (h : stage0Payloads kernelElf dtb = .ok payloads) :
    ∃ k checksums, flattenLittle64LinuxElfImage kernelElf LITTLE64_LINUX_RAM_BASE = .ok k ∧
      serializeSdBootChecksums ⟨crc32 k.image, k.image.length, crc32 dtb, dtb.length⟩ = .ok checksums ∧
      payloads = stage0Files kernelElf dtb checksums := by
  rw [stage0Payloads, buildSdBootChecksums, bind_eq_ok] at h
  obtain ⟨c, hbuilt, hrest⟩ := h
  obtain ⟨k, hflatten, hc⟩ := bind_eq_ok.mp hbuilt
  obtain ⟨checksums, hserialized, hfiles⟩ := bind_eq_ok.mp hrest
  obtain rfl := Except.ok.inj hc
  exact ⟨k, checksums, hflatten, hserialized, (Except.ok.inj hfiles).symm⟩

end Boots

section Samples

def sampleBoard : Board := ⟨0x40000000, 0x4000000, 0x40000000⟩

lemma length_flashKernel : flashKernel.length = 120 := by decide +kernel

lemma flashKernel_loadable : Loadable flashKernel ⟨0x40000000, [⟨0, 0x40000000, 120, 4096⟩], 0x40000000, 0x40001000⟩ := by
  refine ⟨⟨List.pairwise_singleton _ _, ?_, ?_⟩, ⟨?_, ?_⟩, by decide, by decide, by decide⟩
  · intro s hs
    rw [List.mem_singleton.mp hs]
    decide
  · intro s hs
    rw [List.mem_singleton.mp hs]
    exact fun hbehind => absurd hbehind.1 (by decide)
  · decide +kernel
  · decide +kernel

lemma room_flashKernel :
    sampleBoard.HasRoom ⟨0x40000000, [⟨0, 0x40000000, 120, 4096⟩], 0x40000000, 0x40001000⟩ [(0xD0 : Byte)].length :=
  ⟨by decide, by decide, by decide⟩

lemma exists_bootCard : ∃ image, sdCardImage sampleCard flashKernel [0xD0] [] = .ok image := by
  obtain ⟨k, hflatten, -, hlength, -⟩ := flatten_flashKernel
  obtain ⟨bytes, hbytes, hsize⟩ := serialize_eq_ok (crc32 k.image) (hlength.trans_lt (by decide)) (crc32 [0xD0])
    (show 1 < 2 ^ 32 by decide)
  have hpayloads : stage0Payloads flashKernel [0xD0] = .ok (stage0Files flashKernel [0xD0] bytes) := by
    rw [stage0Payloads, buildSdBootChecksums, hflatten]
    change (serializeSdBootChecksums ⟨crc32 k.image, k.image.length, crc32 [0xD0], 1⟩ >>= _) = _
    rw [hbytes]
    rfl
  have hfiles : fileSpecs sampleCard 3 (stage0Files flashKernel [0xD0] bytes) =
      [⟨⟨fat32ShortName "VMLINUX" "", 3, 120⟩, flashKernel, none, 1⟩,
        ⟨⟨fat32ShortName "BOOT" "DTB", 4, 1⟩, [0xD0], none, 1⟩, ⟨⟨fat32ShortName "BOOT" "CRC", 5, 32⟩, bytes, none, 1⟩] := by
    have hkernel : max 1 (ceilDiv 120 (clusterSize sampleCard)) = 1 := by decide
    have hdtb : max 1 (ceilDiv 1 (clusterSize sampleCard)) = 1 := by decide
    have hcrc : max 1 (ceilDiv 32 (clusterSize sampleCard)) = 1 := by decide
    simp only [stage0Files, fileSpecs, length_flashKernel, hsize, List.length_singleton, hkernel, hdtb, hcrc]
  have hsizes : ∀ file ∈ fileSpecs sampleCard 3 (stage0Files flashKernel [0xD0] bytes), file.layout.size < 2 ^ 32 := by
    rw [hfiles]
    simp
  have htable : fatSizeSectors sampleCard.bootPartitionSectorCount 32 2 1 = some (1024, ((128992 : ℕ) : ℤ)) := by decide
  refine exists_card rfl rfl hpayloads hsizes rfl htable (by decide) ?_ (by decide) (by decide) (by decide) (by decide)
    (by decide)
  rw [usedClusters, hfiles]
  simp

end Samples

end Little64.Boot.Stage0Kernel

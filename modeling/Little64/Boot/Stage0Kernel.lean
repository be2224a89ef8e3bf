import Little64.Boot.Stage0Fat32
import Little64.Boot.Crc32Updates
import Little64.Emulator.Vectors

/-! The second half of the stage-0 loader: it places the kernel and its device tree in RAM, checks what it has read and
what it has written, and hands off. -/

namespace Little64.Boot.Stage0Kernel

open CheckedAccess LittleEndian ByteFile PatchedImage

/-- Where the RAM is, and where a kernel goes that cannot be loaded at its own addresses. -/
structure Board where
  ramBase : Word
  ramSize : Word
  kernelPhysicalBase : Word

abbrev Ram := Word → Byte

def PAGE_SIZE : Word := 4096
def EARLY_PT_SCRATCH_PAGES : Word := 30
def ELF_HEADER_SCRATCH_SIZE : ℕ := 4096
def STAGE0_DMA_SCRATCH_SIZE : Word := 512
def STAGE0_BOOT_CHECKSUM_MAGIC : U32 := 0x4C36434B
def STAGE0_BOOT_CHECKSUM_VERSION : U32 := 1
def EM_LITTLE64 : U32 := 0x4C36
def PT_LOAD : U32 := 1
def CHECKSUMS_NAME : Blob := ascii "BOOT    CRC"

def readLe64 (buffer : Blob) (offset : ℕ) : Word := field 64 buffer offset 8

def alignUpU64 (value alignment : Word) : Word := (value + alignment - 1) &&& ~~~(alignment - 1)

def Board.imageWindowFitsRam (board : Board) (physicalBase imageSpan : Word) : Bool :=
  decide (board.ramBase ≤ physicalBase ∧ physicalBase + imageSpan ≤ board.ramBase + board.ramSize)

def copyToPhysical (ram : Ram) (destination : Word) (source : Blob) : Ram := fun address =>
  if (address - destination).toNat < source.length then source.getD (address - destination).toNat 0 else ram address

def zeroToPhysical (ram : Ram) (destination size : Word) : Ram := fun address =>
  if address - destination < size then 0 else ram address

structure Stage0BootChecksums where
  magic : U32
  version : U32
  kernelImageCrc32 : U32
  kernelImageSize : U32
  dtbCrc32 : U32
  dtbSize : U32
  reserved0 : U32
  reserved1 : U32

/-- The scratch buffer keeps what is not overwritten. -/
def storeToScratch (scratch bytes : Blob) : Blob := bytes ++ scratch.drop bytes.length

/-- What the loader knows of the kernel's file, and the buffer that its program headers stand in. -/
structure ElfHeader where
  scratch : Blob
  entry : Word
  phoff : U32
  phentsize : U32
  phnum : U32

/-- The fields of a program header that the loader reads. -/
structure ProgramHeader where
  type : U32
  offset : Word
  vaddr : Word
  filesz : Word
  memsz : Word

def ElfHeader.programHeader (h : ElfHeader) (phIndex : ℕ) : ProgramHeader :=
  let ph := (h.phoff + BitVec.ofNat 32 phIndex * h.phentsize).toNat
  ⟨readLe32 h.scratch ph, readLe64 h.scratch (ph + 8), readLe64 h.scratch (ph + 16), readLe64 h.scratch (ph + 32),
    readLe64 h.scratch (ph + 40)⟩

/-- The lowest address of a segment, where zero stands for none, and the highest. -/
structure ImageWindow where
  minVaddr : Word
  maxVaddr : Word

def ImageWindow.scan (fileSize : U32) (w : ImageWindow) (ph : ProgramHeader) : Stage0 ImageWindow := do
  if ph.type ≠ PT_LOAD then return w
  if fileSize.setWidth 64 < ph.offset + ph.filesz then failHard "VMLINUX PT_LOAD exceeds file size"
  return ⟨if w.minVaddr = 0 ∨ ph.vaddr < w.minVaddr then ph.vaddr else w.minVaddr,
    if w.maxVaddr < ph.vaddr + ph.memsz then ph.vaddr + ph.memsz else w.maxVaddr⟩

/-- The physical base of the image, and the entry point in physical memory. -/
def Board.placeImage (board : Board) (virtualBase imageSpan entry : Word) : Stage0 (Word × Word) :=
  if board.imageWindowFitsRam virtualBase imageSpan ∧ virtualBase ≤ entry ∧ entry < virtualBase + imageSpan then
    return (virtualBase, entry)
  else if virtualBase ≤ entry ∧ entry < virtualBase + imageSpan then
    return (board.kernelPhysicalBase, board.kernelPhysicalBase + (entry - virtualBase))
  else if board.kernelPhysicalBase ≤ entry ∧ entry < board.kernelPhysicalBase + imageSpan then
    return (board.kernelPhysicalBase, entry)
  else failHard "VMLINUX entry lies outside the loadable image window"

/-- The places of the image, of the entry point and of the device tree. -/
structure Placement where
  virtualBase : Word
  imageSpan : Word
  loadPhysicalBase : Word
  entryPhysical : Word
  dtbPhysical : Word

def Board.bootStackTop (board : Board) : Word := board.ramBase + board.ramSize - STAGE0_DMA_SCRATCH_SIZE - 8

def Board.placeKernel (board : Board) (window : ImageWindow) (entry : Word) (dtbSize : U32)
    (checksums : Stage0BootChecksums) : Stage0 Placement := do
  if window.minVaddr = 0 ∨ window.maxVaddr ≤ window.minVaddr then failHard "VMLINUX has no PT_LOAD segments"
  let virtualBase := window.minVaddr &&& ~~~(PAGE_SIZE - 1)
  let imageSpan := alignUpU64 (window.maxVaddr - virtualBase) PAGE_SIZE
  let (loadPhysicalBase, entryPhysical) ← board.placeImage virtualBase imageSpan entry
  let dtbPhysical := loadPhysicalBase + alignUpU64 (imageSpan + EARLY_PT_SCRATCH_PAGES * PAGE_SIZE) PAGE_SIZE
  let dtbEnd := dtbPhysical + dtbSize.setWidth 64
  if board.imageWindowFitsRam loadPhysicalBase imageSpan = false ∨ board.ramBase + board.ramSize < dtbEnd then
    failHard "kernel image or DTB does not fit in RAM"
  if board.bootStackTop ≤ dtbEnd then failHard "kernel boot stack overlaps DTB"
  if checksums.kernelImageSize.setWidth 64 ≠ imageSpan then failHard "BOOT.CRC kernel image size mismatch"
  if checksums.dtbSize ≠ dtbSize then failHard "BOOT.CRC DTB size mismatch"
  return ⟨virtualBase, imageSpan, loadPhysicalBase, entryPhysical, dtbPhysical⟩

/-- The memory and the checksum of what has been written so far, as far as the image has come. -/
structure Loading where
  ram : Ram
  kernelLoadCrc : U32
  currentKernelOffset : U32

/-- The checksum goes over zeros that are in memory already. -/
def Loading.advance (l : Loading) (zeros : U32) : Loading :=
  { l with
    kernelLoadCrc := crc32UpdateZeros l.kernelLoadCrc zeros.toNat
    currentKernelOffset := l.currentKernelOffset + zeros }

def Loading.skipTo (l : Loading) (segmentOffset : U32) : Loading :=
  if l.currentKernelOffset < segmentOffset then
    { l.advance (segmentOffset - l.currentKernelOffset) with currentKernelOffset := segmentOffset }
  else l

def Loading.write (l : Loading) (destination : Word) (filesz : U32) (bytes : Blob) : Loading where
  ram := copyToPhysical l.ram destination bytes
  kernelLoadCrc := crc32UpdateBytes l.kernelLoadCrc bytes
  currentKernelOffset := l.currentKernelOffset + filesz

/-- The checksum of the whole image. -/
def Loading.finish (l : Loading) (imageSpan : Word) : U32 :=
  let left := imageSpan - l.currentKernelOffset.setWidth 64
  crc32Finalize (if l.currentKernelOffset.setWidth 64 < imageSpan then
    crc32UpdateZeros l.kernelLoadCrc (left.setWidth 32 : U32).toNat else l.kernelLoadCrc)

/-- What memory holds when the kernel starts, and the registers that are set. -/
structure Handoff where
  ram : Ram
  dtbPhysical : Word
  stackTop : Word
  entryPhysical : Word

section Boot

variable {disk : Disk} (volume : Fat32Volume)

/-- The checksums, and the scratch buffer that they were read into. -/
def loadBootChecksums (file : Stage0FileInfo) (cache : FatCache disk) (scratch : Blob) :
    Stage0 (Stage0BootChecksums × Blob) := do
  if file.size < 32 then failHard "BOOT.CRC is too small"
  let bytes ← readFileRangeToBuffer volume file 0 32 cache
  let scratch := storeToScratch scratch bytes
  let checksums : Stage0BootChecksums :=
    ⟨readLe32 scratch 0, readLe32 scratch 4, readLe32 scratch 8, readLe32 scratch 12, readLe32 scratch 16,
      readLe32 scratch 20, readLe32 scratch 24, readLe32 scratch 28⟩
  if checksums.magic ≠ STAGE0_BOOT_CHECKSUM_MAGIC then failHard "BOOT.CRC magic mismatch"
  if checksums.version ≠ STAGE0_BOOT_CHECKSUM_VERSION then failHard "BOOT.CRC version mismatch"
  return (checksums, scratch)

def minU32 (a b : U32) : U32 := if a < b then a else b

def readElfHeader (kernelFile : Stage0FileInfo) (cache : FatCache disk) (scratch : Blob) : Stage0 ElfHeader := do
  let bytes ← readFileRangeToBuffer volume kernelFile 0
    (minU32 kernelFile.size (BitVec.ofNat 32 ELF_HEADER_SCRATCH_SIZE)) cache
  let scratch := storeToScratch scratch bytes
  if byte scratch 0 ≠ 0x7F ∨ byte scratch 1 ≠ 0x45 ∨ byte scratch 2 ≠ 0x4C ∨ byte scratch 3 ≠ 0x46 then
    failHard "VMLINUX ELF magic missing"
  if byte scratch 4 ≠ 2 ∨ byte scratch 5 ≠ 1 then failHard "VMLINUX is not ELF64 little-endian"
  let h : ElfHeader :=
    ⟨scratch, readLe64 scratch 24, readLe32 scratch 32, readLe16 scratch 54, readLe16 scratch 56⟩
  if readLe16 scratch 18 ≠ EM_LITTLE64 then failHard "VMLINUX machine mismatch"
  if BitVec.ofNat 64 ELF_HEADER_SCRATCH_SIZE < h.phoff.setWidth 64 + h.phentsize.setWidth 64 * h.phnum.setWidth 64 then
    failHard "VMLINUX program headers exceed stage0 scratch buffer"
  return h

def loadSegment (kernelFile : Stage0FileInfo) (place : Placement) (l : Loading) (ph : ProgramHeader)
    (cache : FatCache disk) : Stage0 Loading := do
  if ph.type ≠ PT_LOAD then return l
  let destination := place.loadPhysicalBase + (ph.vaddr - place.virtualBase)
  let l := l.skipTo ((destination - place.loadPhysicalBase).setWidth 32)
  let bytes ← readFileRangeToPhysical volume kernelFile (ph.offset.setWidth 32) (ph.filesz.setWidth 32) cache
  let l := l.write destination (ph.filesz.setWidth 32) bytes
  if ph.filesz < ph.memsz then return l.advance ((ph.memsz - ph.filesz).setWidth 32)
  return l

/-- Memory is checked once more when everything stands in it. -/
def verifyPhysical (ram : Ram) (place : Placement) (dtbSize : U32) (checksums : Stage0BootChecksums) : Stage0 Unit := do
  let kernelReadbackCrc := crc32Finalize
    (crc32UpdatePhysical ram crc32Initialize place.loadPhysicalBase (place.imageSpan.setWidth 32 : U32).toNat)
  if kernelReadbackCrc ≠ checksums.kernelImageCrc32 then failHard "kernel ram verification failed"
  let dtbReadbackCrc := crc32Finalize (crc32UpdatePhysical ram crc32Initialize place.dtbPhysical dtbSize.toNat)
  if dtbReadbackCrc ≠ checksums.dtbCrc32 then failHard "dtb ram verification failed"

/-- The cache of the allocation table may hold any of its sectors before a file is read. -/
def loadKernelAndHandoff (board : Board) (cache : ℕ → FatCache disk) (kernelFile dtbFile : Stage0FileInfo)
    (checksums : Stage0BootChecksums) (scratch : Blob) (ram : Ram) : Stage0 Handoff := do
  if kernelFile.size < 64 then failHard "VMLINUX is too small"
  if dtbFile.size = 0 then failHard "BOOT.DTB is empty"
  let h ← readElfHeader volume kernelFile (cache 0) scratch
  let indices := List.range h.phnum.toNat
  let window ← indices.foldlM (fun w i => ImageWindow.scan kernelFile.size w (h.programHeader i)) ⟨0, 0⟩
  let place ← board.placeKernel window h.entry dtbFile.size checksums
  let l ← indices.foldlM (fun l i => loadSegment volume kernelFile place l (h.programHeader i) (cache (i + 1)))
    ⟨zeroToPhysical ram place.loadPhysicalBase place.imageSpan, crc32Initialize, 0⟩
  if l.finish place.imageSpan ≠ checksums.kernelImageCrc32 then failHard "kernel load verification failed"
  let dtb ← readFileRangeToPhysical volume dtbFile 0 dtbFile.size (cache (h.phnum.toNat + 1))
  if crc32Finalize (crc32UpdateBytes crc32Initialize dtb) ≠ checksums.dtbCrc32 then
    failHard "dtb load verification failed"
  let ram := copyToPhysical l.ram place.dtbPhysical dtb
  verifyPhysical ram place dtbFile.size checksums
  return ⟨ram, place.dtbPhysical, board.bootStackTop, place.entryPhysical⟩

end Boot

/-- What follows when the memory and the card are ready; so many rounds may be made in the directory. -/
def litexSocBootEntry (board : Board) (disk : Disk) (rounds : ℕ) (cache : ℕ → FatCache disk) (ram : Ram) :
    Stage0 Handoff := do
  let volume ← loadFat32Volume disk
  let kernelFile ← locateRootFile volume KERNEL_NAME rounds (FatCache.invalid disk)
  let dtbFile ← locateRootFile volume DTB_NAME rounds (cache 0)
  let checksumsFile ← locateRootFile volume CHECKSUMS_NAME rounds (cache 1)
  let (checksums, scratch) ← loadBootChecksums volume checksumsFile (cache 2)
    (List.replicate ELF_HEADER_SCRATCH_SIZE 0)
  loadKernelAndHandoff volume board (fun k => cache (k + 3)) kernelFile dtbFile checksums scratch ram

end Little64.Boot.Stage0Kernel

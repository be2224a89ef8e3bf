import Little64.Library.PatchedImage

/-! The flattened kernel image of the boot image builder, and the checksums that it records. -/

namespace Little64.Boot

open CheckedAccess LittleEndian ByteFile PatchedImage

/-- The errors that the builder raises itself, and a value that does not fit into its field. -/
inductive BuildError
  | valueError (message : String)
  | structError
  deriving DecidableEq, Repr

abbrev Build (α : Type) := Checked BuildError α

abbrev valueError {α : Type} (message : String) : Build α := reject (.valueError message)

def PAGE_SIZE : ℕ := 4096
def EM_LITTLE64 : ℕ := 0x4C36
def PT_LOAD : ℕ := 1
def EARLY_PT_SCRATCH_PAGES : ℕ := 30
def LITTLE64_LINUX_RAM_BASE : ℕ := 0x40000000

/-- The alignment is a power of two. -/
def alignUp (value alignment : ℕ) : ℕ := (value + alignment - 1) / alignment * alignment

def u32Bytes (value : ℕ) : Blob := le 4 (BitVec.ofNat 32 value)

@[simp] lemma length_u32Bytes (value : ℕ) : (u32Bytes value).length = 4 := length_le 4 _

def packU32 (value : ℕ) : Build Blob :=
  if 2 ^ 32 ≤ value then reject .structError else .ok (u32Bytes value)

section Elf

variable (elf : Blob)

def unpackU16 (offset : ℕ) : ℕ := (field 16 elf offset 2).toNat
def unpackU32 (offset : ℕ) : ℕ := (field 32 elf offset 4).toNat
def unpackU64 (offset : ℕ) : ℕ := (field 64 elf offset 8).toNat

structure LoadSegment where
  offset : ℕ
  vaddr : ℕ
  filesz : ℕ
  memsz : ℕ
  deriving DecidableEq, Repr

structure LoadSegments where
  segments : List LoadSegment
  minVaddr : Option ℕ
  maxVaddr : ℕ
  deriving DecidableEq, Repr

def parseProgramHeader (phoff phentsize : ℕ) (l : LoadSegments) (index : ℕ) : Build LoadSegments := do
  let base := phoff + index * phentsize
  if elf.length < base + 56 then reject .structError
  if unpackU32 elf base ≠ PT_LOAD then return l
  let s : LoadSegment := ⟨unpackU64 elf (base + 8), unpackU64 elf (base + 16), unpackU64 elf (base + 32),
    unpackU64 elf (base + 40)⟩
  if elf.length < s.offset + s.filesz then valueError "ELF PT_LOAD segment extends beyond the file"
  return ⟨l.segments ++ [s], some (l.minVaddr.elim s.vaddr fun m => min m s.vaddr), max l.maxVaddr (s.vaddr + s.memsz)⟩

structure ParsedElf where
  entry : ℕ
  segments : List LoadSegment
  minVaddr : ℕ
  maxVaddr : ℕ
  deriving DecidableEq, Repr

def parseLittle64ElfLoadSegments : Build ParsedElf := do
  if elf.length < 64 then valueError "ELF image is too small"
  if elf.take 4 ≠ [0x7F, 0x45, 0x4C, 0x46] then valueError "ELF image is missing the ELF magic"
  if (elf.drop 4).take 2 ≠ [2, 1] then valueError "ELF image must be ELF64 little-endian"
  let machine := unpackU16 elf 18
  let entry := unpackU64 elf 24
  let phoff := unpackU64 elf 32
  let phentsize := unpackU16 elf 54
  let phnum := unpackU16 elf 56
  if machine ≠ EM_LITTLE64 then valueError "ELF machine does not match Little64"
  if elf.length < phoff + phnum * phentsize then valueError "ELF program headers extend beyond the file"
  let l ← (List.range phnum).foldlM (parseProgramHeader elf phoff phentsize) ⟨[], none, 0⟩
  match l.minVaddr with
  | none => valueError "ELF image does not contain any PT_LOAD segments"
  | some minVaddr => return ⟨entry, l.segments, minVaddr, l.maxVaddr⟩

structure LinuxElfImage where
  image : Blob
  imageSpan : ℕ
  virtualBase : ℕ
  entryPhysical : ℕ

/-- The physical base of the kernel, and whether it is the one that the file asks for. -/
def inferLittle64LinuxKernelPhysicalBase (ramBase ramSize defaultKernelPhysicalBase : ℕ) : Build (ℕ × Bool) := do
  let p ← parseLittle64ElfLoadSegments elf
  let virtualBase := p.minVaddr / PAGE_SIZE * PAGE_SIZE
  let imageSpan := alignUp (p.maxVaddr - virtualBase) PAGE_SIZE
  if ramBase ≤ virtualBase ∧ virtualBase + imageSpan ≤ ramBase + ramSize then return (virtualBase, true)
  else return (defaultKernelPhysicalBase, false)

/-- A slice assignment grows the image where a segment reaches beyond it. -/
def flattenLittle64LinuxElfImage (kernelPhysicalBase : ℕ) : Build LinuxElfImage := do
  let p ← parseLittle64ElfLoadSegments elf
  let virtualBase := p.minVaddr / PAGE_SIZE * PAGE_SIZE
  let imageSpan := alignUp (p.maxVaddr - virtualBase) PAGE_SIZE
  let image := p.segments.foldl (fun image s => patch image (s.vaddr - virtualBase) (part elf s.offset s.filesz))
    (List.replicate imageSpan 0)
  if virtualBase ≤ p.entry ∧ p.entry < virtualBase + imageSpan then
    return ⟨image, imageSpan, virtualBase, kernelPhysicalBase + (p.entry - virtualBase)⟩
  else if kernelPhysicalBase ≤ p.entry ∧ p.entry < kernelPhysicalBase + imageSpan then
    return ⟨image, imageSpan, virtualBase, p.entry⟩
  else valueError "ELF entry point is outside the loadable image window"

end Elf

section Checksums

def crc32Shift (crc : BitVec 32) : BitVec 32 := if crc.getLsbD 0 then crc >>> 1 ^^^ 0xEDB88320 else crc >>> 1

def crc32Byte (crc : BitVec 32) (b : Byte) : BitVec 32 := crc32Shift^[8] (crc ^^^ b.setWidth 32)

/-- The CRC of the standard library. -/
def crc32 (bytes : Blob) : BitVec 32 := ~~~ bytes.foldl crc32Byte 0xFFFFFFFF

structure SdBootChecksums where
  kernelImageCrc32 : BitVec 32
  kernelImageSize : ℕ
  dtbCrc32 : BitVec 32
  dtbSize : ℕ

def BOOT_CHECKSUM_MAGIC : ℕ := 0x4C36434B
def BOOT_CHECKSUM_VERSION : ℕ := 1

def buildSdBootChecksums (kernelElf dtb : Blob) : Build SdBootChecksums := do
  let kernelImage ← flattenLittle64LinuxElfImage kernelElf LITTLE64_LINUX_RAM_BASE
  return ⟨crc32 kernelImage.image, kernelImage.image.length, crc32 dtb, dtb.length⟩

def serializeSdBootChecksums (checksums : SdBootChecksums) : Build Blob := do
  let magic ← packU32 BOOT_CHECKSUM_MAGIC
  let version ← packU32 BOOT_CHECKSUM_VERSION
  let kernelSize ← packU32 checksums.kernelImageSize
  let dtbSize ← packU32 checksums.dtbSize
  let zero ← packU32 0
  return magic ++ version ++ le 4 checksums.kernelImageCrc32 ++ kernelSize ++ le 4 checksums.dtbCrc32 ++ dtbSize ++
    zero ++ zero

end Checksums

end Little64.Boot

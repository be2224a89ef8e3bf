import Little64.Library.ByteTransfers
import Little64.Boot.KernelImage

/-! The flash boot image as the builder lays it out, and the loader that boots from it. -/

namespace Little64.Boot

open CheckedAccess LittleEndian ByteFile ByteMemory PatchedImage

def LITTLE64_LITEX_FLASH_BOOT_MAGIC : ℕ := 0x4C3634464C415348
def LITTLE64_LITEX_FLASH_BOOT_HEADER_OFFSET : ℕ := 0x2000
def LITTLE64_LITEX_FLASH_BOOT_ABI_VERSION : ℕ := 1

/-- The size of the format `<16Q`. -/
def FLASH_BOOT_HEADER_SIZE : ℕ := 128

/-- The words of a header, each of which has to fit into its field. -/
def packWords (words : List ℕ) : Build Blob :=
  if ∃ word ∈ words, 2 ^ 64 ≤ word then reject .structError else .ok (words.flatMap fun word => le 8 (BitVec.ofNat 64 word))

structure FlashImageLayout where
  flashImage : Blob
  kernelFlashOffset : ℕ
  dtbFlashOffset : ℕ
  kernelPhysicalBase : ℕ
  kernelEntryPhysical : ℕ
  dtbPhysicalAddress : ℕ
  kernelBootStackTop : ℕ

def headerWords (l : FlashImageLayout) (kernelSize dtbSize flashImageSize : ℕ) : List ℕ :=
  [LITTLE64_LITEX_FLASH_BOOT_MAGIC, LITTLE64_LITEX_FLASH_BOOT_ABI_VERSION, l.kernelFlashOffset, kernelSize,
    l.kernelPhysicalBase, l.kernelEntryPhysical, l.dtbFlashOffset, dtbSize, l.dtbPhysicalAddress, l.kernelBootStackTop,
    flashImageSize, 0, 0, 0, 0, 0]

def buildLitexFlashImage (stage0 kernelElf dtb : Blob) (ramBase ramSize kernelPhysicalBase headerOffset
    earlyPtScratchPages : ℕ) : Build FlashImageLayout := do
  if headerOffset < stage0.length then valueError "Stage-0 image is larger than the reserved flash boot gap"
  let kernelImage ← flattenLittle64LinuxElfImage kernelElf kernelPhysicalBase
  let bootStackTop := ramBase + ramSize - 8
  let dtbPhysical := kernelPhysicalBase + alignUp (kernelImage.imageSpan + earlyPtScratchPages * PAGE_SIZE) PAGE_SIZE
  let kernelEnd := kernelPhysicalBase + kernelImage.imageSpan
  let dtbEnd := dtbPhysical + dtb.length
  let ramEnd := ramBase + ramSize
  if kernelPhysicalBase < ramBase ∨ ramEnd < kernelEnd ∨ ramEnd < dtbEnd then
    valueError "Kernel image or DTB does not fit inside the configured RAM window"
  let kernelFlashOffset := alignUp (headerOffset + FLASH_BOOT_HEADER_SIZE) PAGE_SIZE
  let dtbFlashOffset := alignUp (kernelFlashOffset + kernelImage.image.length) PAGE_SIZE
  let flashImageSize := dtbFlashOffset + dtb.length
  let layout : FlashImageLayout :=
    { flashImage := []
      kernelFlashOffset := kernelFlashOffset
      dtbFlashOffset := dtbFlashOffset
      kernelPhysicalBase := kernelPhysicalBase
      kernelEntryPhysical := kernelImage.entryPhysical
      dtbPhysicalAddress := dtbPhysical
      kernelBootStackTop := bootStackTop }
  let header ← packWords (headerWords layout kernelImage.image.length dtb.length flashImageSize)
  let flashImage := patched (List.replicate flashImageSize 0)
    [⟨0, stage0⟩, ⟨headerOffset, header⟩, ⟨kernelFlashOffset, kernelImage.image⟩, ⟨dtbFlashOffset, dtb⟩]
  return { layout with flashImage := flashImage }

section Loader

def FLASH_BASE : BitVec 64 := 0x20000000
def FLASH_BOOT_MAGIC : BitVec 64 := 0x4C3634464C415348
def FLASH_BOOT_ABI_VERSION : BitVec 64 := 1
def FLASH_BOOT_HEADER_OFFSET : BitVec 64 := 0x2000
def KERNEL_PHYS_BASE_MIN : BitVec 64 := 0x40000000

structure Little64LiteXFlashBootHeader where
  magic : BitVec 64
  abiVersion : BitVec 64
  kernelFlashOffset : BitVec 64
  kernelCopySize : BitVec 64
  kernelPhysicalBase : BitVec 64
  kernelEntryPhysical : BitVec 64
  dtbFlashOffset : BitVec 64
  dtbSize : BitVec 64
  dtbPhysical : BitVec 64
  kernelBootStackTop : BitVec 64
  flashImageSize : BitVec 64
  deriving DecidableEq, Repr

variable (m : Memory 64)

def headerField (index : ℕ) : BitVec 64 :=
  load 64 m (FLASH_BASE + FLASH_BOOT_HEADER_OFFSET + BitVec.ofNat 64 (8 * index)) 8

def flashHeader : Little64LiteXFlashBootHeader :=
  { magic := headerField m 0
    abiVersion := headerField m 1
    kernelFlashOffset := headerField m 2
    kernelCopySize := headerField m 3
    kernelPhysicalBase := headerField m 4
    kernelEntryPhysical := headerField m 5
    dtbFlashOffset := headerField m 6
    dtbSize := headerField m 7
    dtbPhysical := headerField m 8
    kernelBootStackTop := headerField m 9
    flashImageSize := headerField m 10 }

/-- The loader prints the message and stops. -/
def validateHeaderOrFail (header : Little64LiteXFlashBootHeader) : Except String Unit := do
  let kernelEnd := header.kernelFlashOffset + header.kernelCopySize
  let dtbEnd := header.dtbFlashOffset + header.dtbSize
  if header.magic ≠ FLASH_BOOT_MAGIC then throw "flash boot magic mismatch"
  if header.abiVersion ≠ FLASH_BOOT_ABI_VERSION then throw "flash boot ABI mismatch"
  if header.kernelCopySize = 0 then throw "kernel copy size is zero"
  if header.dtbSize = 0 then throw "dtb size is zero"
  if kernelEnd < header.kernelFlashOffset then throw "kernel flash range overflowed"
  if dtbEnd < header.dtbFlashOffset then throw "dtb flash range overflowed"
  if header.flashImageSize < kernelEnd then throw "kernel copy range exceeds flash image size"
  if header.flashImageSize < dtbEnd then throw "dtb copy range exceeds flash image size"
  if header.kernelPhysicalBase < KERNEL_PHYS_BASE_MIN then
    throw "kernel physical base is below the reserved low-memory window"
  if header.kernelEntryPhysical < header.kernelPhysicalBase then throw "kernel entry lies below the copied kernel image"
  if header.dtbPhysical < header.kernelPhysicalBase + header.kernelCopySize then
    throw "dtb physical address overlaps the copied kernel image"
  if header.kernelBootStackTop ≤ header.dtbPhysical + header.dtbSize then
    throw "kernel boot stack overlaps the copied dtb"

/-- Words first where both addresses are aligned, then bytes. -/
def copyToPhysical (destination source size : BitVec 64) : Memory 64 :=
  if (destination ||| source) &&& 7 = 0 then
    let words := size.toNat / 8
    copyPieces 1 (size.toNat % 8) (copyPieces 8 words m destination source)
      (destination + BitVec.ofNat 64 (8 * words)) (source + BitVec.ofNat 64 (8 * words))
  else copyPieces 1 size.toNat m destination source

/-- What the kernel gets in its registers. -/
structure Handoff where
  dtbPhysical : BitVec 64
  stackTop : BitVec 64
  entryPhysical : BitVec 64
  deriving DecidableEq, Repr

/-- The header is read in the flash each time that it is used. -/
def litexSocBootEntry : Except String (Memory 64 × Handoff) := do
  validateHeaderOrFail (flashHeader m)
  let m := copyToPhysical m (flashHeader m).kernelPhysicalBase (FLASH_BASE + (flashHeader m).kernelFlashOffset)
    (flashHeader m).kernelCopySize
  let m := copyToPhysical m (flashHeader m).dtbPhysical (FLASH_BASE + (flashHeader m).dtbFlashOffset)
    (flashHeader m).dtbSize
  return (m, ⟨(flashHeader m).dtbPhysical, (flashHeader m).kernelBootStackTop, (flashHeader m).kernelEntryPhysical⟩)

end Loader

end Little64.Boot

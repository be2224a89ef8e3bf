import Little64.Emulator.HeadlessRuntime

/-! The memory image that the emulator's two loaders of executable files make of the program headers. -/

namespace Little64.Emulator.ElfImage

open CheckedAccess LittleEndian

/-- How a loader ends without an image. -/
inductive Refusal
  | returnsFalse
  /-- The allocation of the image fails. -/
  | throws
  deriving DecidableEq, Repr

abbrev Load (α : Type) := Checked Refusal α

/-- The fields of the file header that the loaders use. -/
structure Ehdr where
  magic : BitVec 32
  fileClass : BitVec 8
  data : BitVec 8
  machine : BitVec 16
  entry : Word
  phoff : Word
  phentsize : BitVec 16
  phnum : BitVec 16
  deriving DecidableEq, Repr

structure Phdr where
  type : BitVec 32
  offset : Word
  vaddr : Word
  filesz : Word
  memsz : Word
  deriving DecidableEq, Repr

def field (w : ℕ) (b : Blob) (off n : ℕ) : BitVec w := assemble w (fun i => b.getD (off + i) 0) n

def ehdr (file : Blob) : Ehdr where
  magic := field 32 file 0 4
  fileClass := field 8 file 4 1
  data := field 8 file 5 1
  machine := field 16 file 18 2
  entry := field 64 file 24 8
  phoff := field 64 file 32 8
  phentsize := field 16 file 54 2
  phnum := field 16 file 56 2

def phdr (b : Blob) (off : ℕ) : Phdr where
  type := field 32 b off 4
  offset := field 64 b (off + 8) 8
  vaddr := field 64 b (off + 16) 8
  filesz := field 64 b (off + 32) 8
  memsz := field 64 b (off + 40) 8

/-- A program header is a structure of 56 bytes. -/
def readPhdr (file : Blob) (off : ℕ) : Load Phdr :=
  if off + 56 ≤ file.length then .ok (phdr file off) else .error .outOfBounds

def ptLoad : BitVec 32 := 1

/-- What the loaders compute in their own ways. -/
structure Variant where
  /-- The product of an index or a count of headers and the size of one. -/
  product : BitVec 16 → BitVec 16 → Word
  /-- Whether the copy of a segment is checked. -/
  checked : Bool

/-- The addresses that the loadable segments take up. -/
structure Extent where
  minAddr : Word
  maxAddr : Word
  foundLoad : Bool
  deriving DecidableEq, Repr

def Extent.start : Extent := ⟨BitVec.allOnes 64, 0, false⟩

def Extent.add (e : Extent) (ph : Phdr) : Extent :=
  if ph.type ≠ ptLoad then e
  else
    { minAddr := if ph.vaddr < e.minAddr then ph.vaddr else e.minAddr
      maxAddr := if e.maxAddr < ph.vaddr + ph.memsz then ph.vaddr + ph.memsz else e.maxAddr
      foundLoad := true }

def Extent.base (e : Extent) : Word := e.minAddr / 4096 * 4096

def Extent.size (e : Extent) : Word := (e.maxAddr - e.base + 4095) / 4096 * 4096

section Load

variable (v : Variant) (available : ℕ) (file : Blob)

def headerOffset (i : ℕ) : Word := (ehdr file).phoff + v.product (BitVec.ofNat 16 i) (ehdr file).phentsize

def scanHeader (e : Extent) (i : ℕ) : Load Extent := do
  let ph ← readPhdr file (headerOffset v file i).toNat
  return e.add ph

/-- A vector of zeros; one that is too long for the memory that is available throws. -/
def allocate (n : ℕ) : Load Blob := if n ≤ available then .ok (List.replicate n 0) else reject .throws

def copySegment (base : Word) (ram : Blob) (i : ℕ) : Load Blob := do
  let ph ← readPhdr file (headerOffset v file i).toNat
  if ph.type ≠ ptLoad then return ram
  let off := ph.vaddr - base
  if v.checked = true ∧ (ram.length < (off + ph.filesz).toNat ∨ file.length < (ph.offset + ph.filesz).toNat) then
    reject .returnsFalse
  copy ph.filesz.toNat file ph.offset.toNat ram off.toNat

structure Image where
  base : Word
  bytes : Blob
  entry : Word
  deriving DecidableEq, Repr

def loadImage : Load Image := do
  if file.length < 64 then reject .returnsFalse
  if (ehdr file).magic ≠ 0x464C457F then reject .returnsFalse
  if (ehdr file).fileClass ≠ 2 ∨ (ehdr file).data ≠ 1 then reject .returnsFalse
  if (ehdr file).machine ≠ 0x4C36 then reject .returnsFalse
  if file.length < ((ehdr file).phoff + v.product (ehdr file).phnum (ehdr file).phentsize).toNat then
    reject .returnsFalse
  let e ← (List.range (ehdr file).phnum.toNat).foldlM (scanHeader v file) .start
  if e.foundLoad = false then reject .returnsFalse
  let ram ← allocate available e.size.toNat
  let ram ← (List.range (ehdr file).phnum.toNat).foldlM (copySegment v file e.base) ram
  return ⟨e.base, ram, (ehdr file).entry⟩

end Load

/-- `loadProgramElf` multiplies half-words as `int` and checks no copy. -/
def elf : Variant := ⟨HeadlessRuntime.intProduct, false⟩

def directPaged : Variant := ⟨fun a b => a.setWidth 64 * b.setWidth 64, true⟩

end Little64.Emulator.ElfImage

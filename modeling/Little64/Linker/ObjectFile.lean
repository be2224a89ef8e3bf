import Little64.Emulator.Vectors
import Little64.Library.CheckedAccess
import Little64.Library.OrderedMap

/-! Relocatable object files as the internal linker reads them. -/

namespace Little64.Linker

open CheckedAccess LittleEndian

/-- A reason to refuse the input. -/
inductive LinkMessage
  | text (message : String)
  | undefinedSymbol (name : Blob)
  deriving DecidableEq, Repr

abbrev Result (α : Type) := Checked LinkMessage α

abbrev fail {α : Type} (message : String) : Result α := reject (.text message)

structure Reloc where
  offset : Word
  sym : BitVec 32
  type : BitVec 32
  addend : Word
  deriving DecidableEq, Repr

structure SymEntry where
  name : Blob
  info : Byte
  shndx : BitVec 16
  value : Word
  deriving DecidableEq, Repr

/-- The relocations of a `.rodata` section that may not have been scanned yet. -/
structure DeferredRodataRela where
  targetShndx : BitVec 32
  relocs : List Reloc
  deriving DecidableEq, Repr

structure ObjectContext where
  textSize : Word
  dataSize : Word
  bssSize : Word
  textBytes : Blob
  dataBytes : Blob
  rodataBytes : Blob
  /-- Where each `.rodata` section starts in the bytes of all of them. -/
  rodataSecOffsets : ℕ → Option Word
  textRelocs : List Reloc
  dataRelocs : List Reloc
  rodataRelocs : List Reloc
  deferredRodataRelas : List DeferredRodataRela
  textShndx : Option ℕ
  dataShndx : Option ℕ
  bssShndx : Option ℕ
  syms : List (ℕ × SymEntry)

def ObjectContext.empty : ObjectContext where
  textSize := 0
  dataSize := 0
  bssSize := 0
  textBytes := []
  dataBytes := []
  rodataBytes := []
  rodataSecOffsets _ := none
  textRelocs := []
  dataRelocs := []
  rodataRelocs := []
  deferredRodataRelas := []
  textShndx := none
  dataShndx := none
  bssShndx := none
  syms := []

/-- `.text` -/
def textName : Blob := [0x2E, 0x74, 0x65, 0x78, 0x74]
/-- `.data` -/
def dataName : Blob := [0x2E, 0x64, 0x61, 0x74, 0x61]
/-- `.bss` -/
def bssName : Blob := [0x2E, 0x62, 0x73, 0x73]
/-- `.rodata` -/
def rodataName : Blob := [0x2E, 0x72, 0x6F, 0x64, 0x61, 0x74, 0x61]
/-- `.symtab` -/
def symtabName : Blob := [0x2E, 0x73, 0x79, 0x6D, 0x74, 0x61, 0x62]
/-- `.strtab` -/
def strtabName : Blob := [0x2E, 0x73, 0x74, 0x72, 0x74, 0x61, 0x62]
/-- `.rela` -/
def relaName : Blob := [0x2E, 0x72, 0x65, 0x6C, 0x61]
/-- `_start` -/
def startName : Blob := [0x5F, 0x73, 0x74, 0x61, 0x72, 0x74]

/-- `.rodata` itself or `.rodata.` with more behind it. -/
def isRodataName (name : Blob) : Bool :=
  rodataName.isPrefixOf name && (name.length == 7 || name[7]? == some 0x2E)

def cString (b : Blob) : Blob := b.takeWhile (· != 0)

section Parse

variable (file : Blob)

def readU16 (off : Word) : Result (BitVec 16) := read 16 file off.toNat 2
def readU32 (off : Word) : Result (BitVec 32) := read 32 file off.toNat 4
def readU64 (off : Word) : Result Word := read 64 file off.toNat 8

/-- The range check of the linker, in 64-bit arithmetic. -/
def inRange (off size : Word) : Bool := decide ((off + size).toNat ≤ file.length)

def readRela (off : Word) : Result Reloc := do
  let roff ← readU64 file off
  let rinfo ← readU64 file (off + 8)
  let radd ← readU64 file (off + 16)
  return ⟨roff, (rinfo >>> 32).setWidth 32, rinfo.setWidth 32, radd⟩

def readRelas (off : Word) : ℕ → Result (List Reloc)
  | 0 => return []
  | n + 1 => do
    let r ← readRela file off
    let rest ← readRelas (off + 24) n
    return r :: rest

/-- The object context with the tables that are read after the last section. -/
structure Scan where
  ctx : ObjectContext
  symtabOffset : Word
  symtabSize : Word
  symtabEntsize : Word
  strtabOffset : Word
  strtabSize : Word

def Scan.start : Scan := ⟨.empty, 0, 0, 0, 0, 0⟩

/-- What one section adds, by its name. -/
def scanNamed (name : Blob) (si : ℕ) (shBase off sz entsize : Word) (scan : Scan) : Result Scan := do
  let ctx := scan.ctx
  if name = textName then
    if !inRange file off sz then fail ".text out of range"
    let bytes ← slice file off.toNat sz.toNat
    return { scan with ctx := { ctx with textShndx := some si, textSize := sz, textBytes := bytes } }
  else if name = dataName then
    if !inRange file off sz then fail ".data out of range"
    let bytes ← slice file off.toNat sz.toNat
    return { scan with ctx := { ctx with dataShndx := some si, dataSize := sz, dataBytes := bytes } }
  else if name = bssName then
    return { scan with ctx := { ctx with bssShndx := some si, bssSize := sz } }
  else if isRodataName name then
    if sz = 0 then return scan
    if !inRange file off sz then fail ".rodata out of range"
    let bytes ← slice file off.toNat sz.toNat
    let start := BitVec.ofNat 64 ctx.rodataBytes.length
    return { scan with ctx := { ctx with
      rodataSecOffsets := fun i => if i = si then some start else ctx.rodataSecOffsets i
      rodataBytes := ctx.rodataBytes ++ bytes } }
  else if name = symtabName then
    return { scan with symtabOffset := off, symtabSize := sz, symtabEntsize := entsize }
  else if name = strtabName then
    if !inRange file off sz then fail ".strtab out of range"
    return { scan with strtabOffset := off, strtabSize := sz }
  else if name = relaName ++ textName then
    if !inRange file off sz then fail ".rela.text out of range"
    let relocs ← readRelas file off (sz.toNat / 24)
    return { scan with ctx := { ctx with textRelocs := ctx.textRelocs ++ relocs } }
  else if name = relaName ++ dataName then
    if !inRange file off sz then fail ".rela.data out of range"
    let relocs ← readRelas file off (sz.toNat / 24)
    return { scan with ctx := { ctx with dataRelocs := ctx.dataRelocs ++ relocs } }
  else if (relaName ++ rodataName).isPrefixOf name then
    if !inRange file off sz then fail ".rela.rodata out of range"
    let targetShndx ← readU32 file (shBase + 0x2C)
    let relocs ← readRelas file off (sz.toNat / 24)
    return { scan with ctx := { ctx with
      deferredRodataRelas := ctx.deferredRodataRelas ++ [⟨targetShndx, relocs⟩] } }
  else return scan

def scanSection (shoff : Word) (shentsize : BitVec 16) (shstr : Blob) (scan : Scan) (si : ℕ) : Result Scan := do
  let shBase := shoff + BitVec.ofNat 64 si * shentsize.setWidth 64
  let name ← readU32 file shBase
  if shstr.length ≤ name.toNat then return scan
  let off ← readU64 file (shBase + 0x18)
  let sz ← readU64 file (shBase + 0x20)
  let entsize ← readU64 file (shBase + 0x38)
  scanNamed file (cString (shstr.drop name.toNat)) si shBase off sz entsize scan

/-- The relocations of the `.rodata` sections, now that all sections are known. -/
def ObjectContext.resolveDeferred (ctx : ObjectContext) : ObjectContext :=
  { ctx with rodataRelocs := ctx.rodataRelocs ++ ctx.deferredRodataRelas.flatMap fun dr =>
      let baseInBlob := (ctx.rodataSecOffsets dr.targetShndx.toNat).getD 0
      dr.relocs.map fun r => { r with offset := baseInBlob + r.offset } }

def readSym (strtabOffset strtabSize symOff : Word) : Result SymEntry := do
  let nameIdx ← readU32 file symOff
  let info ← read 8 file (symOff + 4).toNat 1
  let shndx ← readU16 file (symOff + 6)
  let value ← readU64 file (symOff + 8)
  let name ←
    if nameIdx.toNat < strtabSize.toNat then
      readString file (strtabOffset + nameIdx.setWidth 64).toNat (strtabSize.toNat - nameIdx.toNat)
    else pure []
  return ⟨name, info, shndx, value⟩

/-- The symbols from index `i` on, up to the end of the table or of the file. -/
def readSyms (strtabOffset strtabSize symtabOffset : Word) :
    ℕ → ℕ → List (ℕ × SymEntry) → Result (List (ℕ × SymEntry))
  | _, 0, syms => return syms
  | i, n + 1, syms => do
    let symOff := symtabOffset + BitVec.ofNat 64 i * 24
    if !inRange file symOff 24 then return syms
    let entry ← readSym file strtabOffset strtabSize symOff
    readSyms strtabOffset strtabSize symtabOffset (i + 1) n (OrderedMap.insert (i % 2 ^ 32) entry syms)

def Scan.finish (scan : Scan) : Result ObjectContext := do
  let ctx := scan.ctx.resolveDeferred
  if scan.symtabOffset ≠ 0 ∧ scan.symtabSize ≠ 0 ∧ scan.symtabEntsize = 24 ∧ scan.strtabOffset ≠ 0 ∧
      scan.strtabSize ≠ 0 then
    -- the null entry at index 0 is skipped
    let syms ← readSyms file scan.strtabOffset scan.strtabSize scan.symtabOffset 1
      (scan.symtabSize.toNat / 24 - 1) ctx.syms
    return { ctx with syms := syms }
  else return ctx

def parseObject : Result ObjectContext := do
  if file.length < 64 then fail "Object file too small"
  if file.take 4 ≠ [0x7F, 0x45, 0x4C, 0x46] then fail "Not an ELF file"
  if (file.drop 4).take 2 ≠ [2, 1] then fail "Only ELF64 little endian is supported"
  let shoff ← readU64 file 0x28
  let shentsize ← readU16 file 0x3A
  let shnum ← readU16 file 0x3C
  let shstrndx ← readU16 file 0x3E
  if !inRange file shoff (shnum.setWidth 64 * shentsize.setWidth 64) then fail "ELF section header out of range"
  if shnum ≤ shstrndx then fail "e_shstrndx out of range"
  let shstrBase := shoff + shstrndx.setWidth 64 * shentsize.setWidth 64
  let shstrOffset ← readU64 file (shstrBase + 0x18)
  let shstrSize ← readU64 file (shstrBase + 0x20)
  if !inRange file shstrOffset shstrSize then fail ".shstrtab out of range"
  let shstr ← slice file shstrOffset.toNat shstrSize.toNat
  let scan ← (List.range shnum.toNat).foldlM (scanSection file shoff shentsize shstr) .start
  scan.finish file

end Parse

end Little64.Linker

import Little64.Library.Placement
import Little64.Linker.ObjectFile

/-! The internal linker: section layout, the global symbol table, relocation patches and the output words. -/

namespace Little64.Linker

open CheckedAccess LittleEndian Placement

structure ObjLayout where
  textBase : Word
  rodataBase : Word
  dataBase : Word
  bssBase : Word
  endAddr : Word
  deriving DecidableEq, Repr

def alignEven (address : Word) : Word := if address % 2 ≠ 0 then address + 1 else address

def layoutObject (nextAddress : Word) (ctx : ObjectContext) : ObjLayout :=
  let textBase := alignEven nextAddress
  let rodataBase := alignEven (textBase + ctx.textSize)
  let dataBase := alignEven (rodataBase + BitVec.ofNat 64 ctx.rodataBytes.length)
  let bssBase := alignEven (dataBase + ctx.dataSize)
  ⟨textBase, rodataBase, dataBase, bssBase, bssBase + ctx.bssSize⟩

/-- The layouts of the objects that follow an address. -/
def layouts : Word → List ObjectContext → List ObjLayout
  | _, [] => []
  | nextAddress, ctx :: ctxs =>
    layoutObject nextAddress ctx :: layouts (layoutObject nextAddress ctx).endAddr ctxs

/-- The address of a symbol of an object, where the section of the symbol is laid out. -/
def symbolAddress (ctx : ObjectContext) (lay : ObjLayout) (s : SymEntry) : Option Word :=
  if some s.shndx.toNat = ctx.textShndx then some (lay.textBase + s.value)
  else if some s.shndx.toNat = ctx.dataShndx then some (lay.dataBase + s.value)
  else if some s.shndx.toNat = ctx.bssShndx then some (lay.bssBase + s.value)
  else (ctx.rodataSecOffsets s.shndx.toNat).map fun start => lay.rodataBase + start + s.value

/-- The global symbol table: absolute addresses by name. -/
abbrev GlobalSymbols := Blob → Option Word

def defineSymbol (ctx : ObjectContext) (lay : ObjLayout) (globals : GlobalSymbols) (s : SymEntry) : GlobalSymbols :=
  if s.shndx = 0 ∨ s.name = [] then globals
  else
    match symbolAddress ctx lay s with
    | none => globals
    | some address => fun name => if name = s.name then some address else globals name

def defineObject (globals : GlobalSymbols) (object : ObjectContext × ObjLayout) : GlobalSymbols :=
  (object.1.syms.map Prod.snd).foldl (defineSymbol object.1 object.2) globals

def globalSymbols (objs : List (ObjectContext × ObjLayout)) : GlobalSymbols := objs.foldl defineObject fun _ => none

def relAbs64 : BitVec 32 := 1
def relAbs32 : BitVec 32 := 2
def relPcrel6 : BitVec 32 := 3
def relPcrel10 : BitVec 32 := 4
def relPcrel13 : BitVec 32 := 5

/-- A PC-relative field of a half-word: `width` bits from bit `low` on. -/
structure PcrelField where
  name : String
  low : ℕ
  width : ℕ
  /-- The half-words that the linker puts the field into. -/
  carries : BitVec 16 → Bool
  wrongFormat : String

def pcrel6 : PcrelField := ⟨"PCREL6", 4, 6, fun _ => true, ""⟩

def pcrel10 : PcrelField where
  name := "PCREL10"
  low := 0
  width := 10
  carries instr := instr >>> 14 == 1 && decide (11 ≤ (instr >>> 10) &&& 0xF)
  wrongFormat := "R_PCREL10 applied to non-JUMP instruction"

def pcrel13 : PcrelField where
  name := "PCREL13"
  low := 0
  width := 13
  carries instr := instr >>> 13 == 7
  wrongFormat := "R_PCREL13 applied to non-111 JUMP instruction"

namespace PcrelField

variable (field : PcrelField)

def mask : BitVec 16 := BitVec.ofNat 16 (2 ^ field.width - 1)

/-- A half-word with the field set to the low bits of a distance. -/
def insert (instr : BitVec 16) (relVal : Word) : BitVec 16 :=
  (instr &&& ~~~(field.mask <<< field.low)) ||| ((relVal.setWidth 16 &&& field.mask) <<< field.low)

/-- The field counts half-words from the address behind the instruction. -/
def encode (instr : BitVec 16) (symAddr addend patchAddr : Word) : Result (BitVec 16) := do
  if !field.carries instr then fail field.wrongFormat
  let target := symAddr + addend
  let diff := target - (patchAddr + 2)
  if diff.srem 2 ≠ 0 then fail (field.name ++ " target not instruction aligned")
  let relVal := diff.sdiv 2
  if relVal.slt (-(BitVec.ofNat 64 (2 ^ (field.width - 1)))) || (BitVec.ofNat 64 (2 ^ (field.width - 1) - 1)).slt relVal then
    fail (field.name ++ " reloc out of range")
  return field.insert instr relVal

end PcrelField

/-- The number of bytes that a relocation type patches. -/
def neededBytes (type : BitVec 32) : Option Word :=
  if type = relAbs64 then some 8
  else if type = relAbs32 then some 4
  else if type = relPcrel6 ∨ type = relPcrel10 ∨ type = relPcrel13 then some 2
  else none

/-- The address that a relocation refers to. -/
def resolveSymbol (globals : GlobalSymbols) (syms : List (ℕ × SymEntry)) (sym : BitVec 32) : Result Word :=
  match if sym = 0 then none else syms.lookup sym.toNat with
  | none => fail "Invalid symbol index in relocation"
  | some entry =>
    match globals entry.name with
    | none => reject (.undefinedSymbol entry.name)
    | some address => .ok address

def patchPcrel (linked : Blob) (patchAddr symAddr addend : Word) (field : PcrelField) : Result Blob := do
  if linked.length < (patchAddr + 2).toNat then fail (field.name ++ " patch out of range")
  let instr ← read 16 linked patchAddr.toNat 2
  let newInstr ← field.encode instr symAddr addend patchAddr
  write linked patchAddr.toNat 2 newInstr

def patchAbs (linked : Blob) (patchAddr value : Word) (needed : ℕ) (name : String) : Result Blob := do
  if linked.length < (patchAddr + BitVec.ofNat 64 needed).toNat then fail (name ++ " patch out of range")
  write linked patchAddr.toNat needed value

/-- One relocation of a section that starts at `sectionBase` and has `sectionSize` bytes. -/
def applyReloc (globals : GlobalSymbols) (syms : List (ℕ × SymEntry)) (sectionBase : Word) (sectionSize : ℕ)
    (linked : Blob) (rel : Reloc) : Result Blob :=
  match neededBytes rel.type with
  | none => fail ""
  | some needed => do
    if sectionSize < (rel.offset + needed).toNat then fail "Relocation offset out of section range"
    let symAddr ← resolveSymbol globals syms rel.sym
    let patchAddr := sectionBase + rel.offset
    if rel.type = relAbs64 then patchAbs linked patchAddr (symAddr + rel.addend) 8 "ABS64"
    else if rel.type = relAbs32 then patchAbs linked patchAddr (symAddr + rel.addend) 4 "ABS32"
    else if rel.type = relPcrel6 then patchPcrel linked patchAddr symAddr rel.addend pcrel6
    else if rel.type = relPcrel10 then patchPcrel linked patchAddr symAddr rel.addend pcrel10
    else patchPcrel linked patchAddr symAddr rel.addend pcrel13

def applyRelocs (globals : GlobalSymbols) (syms : List (ℕ × SymEntry)) (sectionBase : Word) (sectionBytes : Blob)
    (relocs : List Reloc) (linked : Blob) : Result Blob :=
  relocs.foldlM (applyReloc globals syms sectionBase sectionBytes.length) linked

/-- Append the sections of one object and apply its relocations. -/
def linkObject (globals : GlobalSymbols) (linked : Blob) (object : ObjectContext × ObjLayout) : Result Blob := do
  let ctx := object.1
  let lay := object.2
  let linked := padEven linked
  if lay.textBase.toNat < linked.length then fail "Linker internal state mismatch"
  let linked := padTo linked lay.textBase.toNat ++ ctx.textBytes
  let linked ← applyRelocs globals ctx.syms lay.textBase ctx.textBytes ctx.textRelocs linked
  let linked ←
    if ctx.rodataBytes ≠ [] then
      applyRelocs globals ctx.syms lay.rodataBase ctx.rodataBytes ctx.rodataRelocs
        (padTo (padEven linked) lay.rodataBase.toNat ++ ctx.rodataBytes)
    else pure linked
  let linked := padTo linked lay.dataBase.toNat ++ ctx.dataBytes
  let linked ← applyRelocs globals ctx.syms lay.dataBase ctx.dataBytes ctx.dataRelocs linked
  return padTo linked lay.bssBase.toNat ++ List.replicate ctx.bssSize.toNat 0

/-- The words of a program and its entry point. -/
structure Linked where
  words : List (BitVec 16)
  entry : Option Word
  deriving DecidableEq, Repr

def words : Blob → List (BitVec 16)
  | lo :: hi :: rest => (hi ++ lo) :: words rest
  | _ => []

/-- The words of a byte vector, with a zero byte behind an odd number. -/
def toWords (b : Blob) : List (BitVec 16) := words (padEven b)

def linkContexts (ctxs : List ObjectContext) : Result Linked := do
  let objs := ctxs.zip (layouts 0 ctxs)
  let globals := globalSymbols objs
  let linked ← objs.foldlM (linkObject globals) []
  return ⟨toWords linked, globals startName⟩

def linkObjectsInternal (objects : List Blob) : Result Linked := do
  let ctxs ← objects.mapM parseObject
  linkContexts ctxs

end Little64.Linker

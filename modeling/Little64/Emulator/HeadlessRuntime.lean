import Little64.Linker.Link

/-! The headless loader of the emulator for relocatable object files. -/

namespace Little64.Emulator.HeadlessRuntime

open CheckedAccess LittleEndian
open Linker (cString textName symtabName relaName toWords)

abbrev Load (α : Type) := Checked String α

/-- A read behind the end gives zero; the end is computed in 64 bits. -/
def readU16 (b : Blob) (off : Word) : Load (BitVec 16) :=
  if b.length < (off + 2).toNat then .ok 0 else read 16 b off.toNat 2

def readU32 (b : Blob) (off : Word) : Load (BitVec 32) :=
  if b.length < (off + 4).toNat then .ok 0 else read 32 b off.toNat 4

def readU64 (b : Blob) (off : Word) : Load Word := do
  let lo ← readU32 b off
  let hi ← readU32 b (off + 4)
  return lo.setWidth 64 ||| hi.setWidth 64 <<< 32

/-- The product of two half-words as an `int`. -/
def intProduct (a b : BitVec 16) : Word := (a.setWidth 32 * b.setWidth 32).signExtend 64

lemma toNat_intProduct (a b : BitVec 16) : (intProduct a b).toNat =
    if a.toNat * b.toNat < 2 ^ 31 then a.toNat * b.toNat else a.toNat * b.toNat + (2 ^ 64 - 2 ^ 32) := by
  have hproduct : a.toNat * b.toNat < 2 ^ 16 * 2 ^ 16 := Nat.mul_lt_mul'' a.isLt b.isLt
  have hwide (x : BitVec 16) : (x.setWidth 32).toNat = x.toNat := by
    have hx := x.isLt
    rw [BitVec.toNat_setWidth, Nat.mod_eq_of_lt (by omega)]
  have hmul : (a.setWidth 32 * b.setWidth 32).toNat = a.toNat * b.toNat := by
    rw [BitVec.toNat_mul, hwide, hwide, Nat.mod_eq_of_lt (by omega)]
  have hint : (intProduct a b).toInt = (a.setWidth 32 * b.setWidth 32).toInt :=
    BitVec.toInt_signExtend_of_le (by omega)
  rw [BitVec.toInt_eq_toNat_cond, BitVec.toInt_eq_toNat_cond, hmul] at hint
  have hlt := (intProduct a b).isLt
  split at hint <;> split at hint <;> split <;> omega

/-- The tables that the section headers name. -/
structure Tables where
  textOffset : Word
  textSize : Word
  symtabOffset : Word
  symtabSize : Word
  relaOffset : Word
  relaSize : Word
  deriving DecidableEq, Repr

def Tables.start : Tables := ⟨0, 0, 0, 0, 0, 0⟩

def Tables.add (t : Tables) (name : Blob) (off siz : Word) : Tables :=
  if name = textName then { t with textOffset := off, textSize := siz }
  else if name = symtabName then { t with symtabOffset := off, symtabSize := siz }
  else if name = relaName ++ textName then { t with relaOffset := off, relaSize := siz }
  else t

section Load

variable (bytes : Blob)

def loadSection (shoff : Word) (shentsize : BitVec 16) (shstr : Blob) (t : Tables) (i : ℕ) : Load Tables := do
  let shBase := shoff + BitVec.ofNat 64 i * shentsize.setWidth 64
  let nameOff ← readU32 bytes shBase
  if shstr.length ≤ nameOff.toNat then return t
  let off ← readU64 bytes (shBase + 0x18)
  let siz ← readU64 bytes (shBase + 0x20)
  if bytes.length < (off + siz).toNat then reject "Error: ELF section out of range"
  return t.add (cString (shstr.drop nameOff.toNat)) off siz

/-- The values of the symbols, the null symbol at index 0 included. -/
def loadSymbols (symtabOffset : Word) (entries : ℕ) : Load (List Word) :=
  (List.range entries).mapM fun i => readU64 bytes (symtabOffset + BitVec.ofNat 64 i * 24 + 8)

def pcrelInstr (type : BitVec 32) (instr : BitVec 16) (rel : Word) : BitVec 16 :=
  if type = 3 then (instr &&& 0xFC0F) ||| ((rel &&& 0x3F).setWidth 16 <<< 4)
  else if type = 4 then (instr &&& 0xFC00) ||| (rel &&& 0x3FF).setWidth 16
  else (instr &&& 0xE000) ||| (rel &&& 0x1FFF).setWidth 16

/-- One relocation at an offset of the text; the text is indexed without a check. -/
def patchText (text : Blob) (rOffset target : Word) (rType : BitVec 32) : Load Blob :=
  if rType = 1 then write text rOffset.toNat 8 target
  else if rType = 2 then write text rOffset.toNat 4 target
  else if rType = 3 ∨ rType = 4 ∨ rType = 5 then do
    let instr ← read 16 text rOffset.toNat 2
    let diff := target - (rOffset + 2)
    write text rOffset.toNat 2 (pcrelInstr rType instr (diff.sdiv 2))
  else return text

def symbolValue (syms : List Word) (rSym : BitVec 32) : Word :=
  if 0 < rSym ∧ rSym.toNat ≤ syms.length then syms.getD (rSym.toNat - 1) 0 else 0

def relocateText (relaOffset : Word) (syms : List Word) (text : Blob) (i : ℕ) : Load Blob := do
  let off := relaOffset + BitVec.ofNat 64 i * 24
  let rOffset ← readU64 bytes off
  let rInfo ← readU64 bytes (off + 8)
  let rAddend ← readU64 bytes (off + 16)
  let rSym := (rInfo >>> 32).setWidth 32
  patchText text rOffset (symbolValue syms rSym + rAddend) (rInfo.setWidth 32)

/-- The words that the loader passes on to the program memory. -/
def loadRelocatableElf : Load (List (BitVec 16)) := do
  if bytes.length < 64 then reject "Error: ELF file too small"
  let shoff ← readU64 bytes 0x28
  let shentsize ← readU16 bytes 0x3A
  let shnum ← readU16 bytes 0x3C
  let shstrndx ← readU16 bytes 0x3E
  if bytes.length < (shoff + intProduct shnum shentsize).toNat then reject "Error: ELF section headers out of range"
  let shstrBase := shoff + intProduct shentsize shstrndx
  let shstrOffset ← readU64 bytes (shstrBase + 0x18)
  let shstrSize ← readU64 bytes (shstrBase + 0x20)
  if bytes.length < (shstrOffset + shstrSize).toNat then reject "Error: ELF string table out of range"
  let shstr ← slice bytes shstrOffset.toNat shstrSize.toNat
  let t ← (List.range shnum.toNat).foldlM (loadSection bytes shoff shentsize shstr) .start
  if t.textSize = 0 ∨ bytes.length < (t.textOffset + t.textSize).toNat then
    reject "Error: ELF .text section missing or invalid"
  let text ← slice bytes t.textOffset.toNat t.textSize.toNat
  let syms ←
    if t.symtabOffset ≠ 0 ∧ t.symtabSize ≠ 0 then loadSymbols bytes t.symtabOffset (t.symtabSize.toNat / 24)
    else pure []
  let text ←
    if t.relaOffset ≠ 0 ∧ t.relaSize ≠ 0 then
      (List.range (t.relaSize.toNat / 24)).foldlM (relocateText bytes t.relaOffset syms) text
    else pure text
  return toWords text

end Load

end Little64.Emulator.HeadlessRuntime

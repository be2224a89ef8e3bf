import Little64.Emulator.Vectors

/-! The translation lookaside buffer of the V3 and V4 cores: direct mapped, flushed by bumping a
generation. -/

namespace Little64.Hdl

structure TlbEntry (generationBits pageNumberWidth : ℕ) where
  valid : Bool
  generation : BitVec generationBits
  virtualTag : BitVec pageNumberWidth
  physicalPage : BitVec pageNumberWidth
  permRead : Bool
  permWrite : Bool
  permExecute : Bool
  permUser : Bool
  deriving DecidableEq, Repr

structure TlbFill (pageNumberWidth : ℕ) where
  vpage : BitVec pageNumberWidth
  ppage : BitVec pageNumberWidth
  permRead : Bool
  permWrite : Bool
  permExecute : Bool
  permUser : Bool
  deriving DecidableEq, Repr

/-- Entries are indexed by the low bits of the page number. -/
structure Tlb (indexBits generationBits pageNumberWidth : ℕ) where
  currentGeneration : BitVec generationBits
  entries : BitVec indexBits → TlbEntry generationBits pageNumberWidth

namespace Tlb

variable {indexBits generationBits pageNumberWidth : ℕ}

def reset : Tlb indexBits generationBits pageNumberWidth :=
  ⟨0, fun _ => ⟨false, 0, 0, 0, false, false, false, false⟩⟩

variable (s : Tlb indexBits generationBits pageNumberWidth) (vaddr : Word)

def lookupVpage : BitVec 52 := vaddr.extractLsb' 12 52

def lookupEntry : TlbEntry generationBits pageNumberWidth := s.entries ((lookupVpage vaddr).setWidth indexBits)

def lookupHit : Bool :=
  (s.lookupEntry vaddr).valid && (s.lookupEntry vaddr).generation == s.currentGeneration &&
    (s.lookupEntry vaddr).virtualTag.setWidth 52 == lookupVpage vaddr

def lookupPaddr : Word := (s.lookupEntry vaddr).physicalPage.setWidth 64 <<< 12 ||| (vaddr &&& 0xFFF)

def step (flushAll fillValid : Bool) (fill : TlbFill pageNumberWidth) : Tlb indexBits generationBits pageNumberWidth :=
  if flushAll then
    if s.currentGeneration = BitVec.allOnes generationBits then
      ⟨0, fun x => { s.entries x with valid := false }⟩
    else { s with currentGeneration := s.currentGeneration + 1 }
  else if fillValid then
    { s with entries := fun x =>
        if x = fill.vpage.setWidth indexBits then
          ⟨true, s.currentGeneration, fill.vpage, fill.ppage, fill.permRead, fill.permWrite, fill.permExecute,
            fill.permUser⟩
        else s.entries x }
  else s

end Tlb

end Little64.Hdl

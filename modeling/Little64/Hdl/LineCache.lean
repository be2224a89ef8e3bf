import Little64.Library.ByteMemory
import Little64.Emulator.Vectors

/-! The direct-mapped line cache of the V3 and V4 cores, used as their data cache. -/

namespace Little64.Hdl

structure LineCache (indexBits : ℕ) where
  validBits : BitVec indexBits → Bool
  tags : BitVec indexBits → BitVec 61
  lineData : BitVec indexBits → Word

structure LineCacheInputs where
  fillValid : Bool
  fillAddr : Word
  fillData : Word
  flushAll : Bool
  invalidateValid : Bool
  invalidateAddr : Word
  storeUpdateValid : Bool
  storeUpdateAddr : Word
  storeUpdateSel : BitVec 8
  storeUpdateData : Word
  deriving DecidableEq, Repr

namespace LineCache

def line (addr : Word) : BitVec 61 := addr.extractLsb' 3 61

variable {indexBits : ℕ}

def index (addr : Word) : BitVec indexBits := (line addr).setWidth indexBits

def reset : LineCache indexBits := ⟨fun _ => false, fun _ => 0, fun _ => 0⟩

variable (s : LineCache indexBits)

def lookupHit (addr : Word) : Bool := s.validBits (index addr) && s.tags (index addr) == line addr

def lookupData (addr : Word) : Word := s.lineData (index addr)

/-- The bytes of a word with those selected replaced. -/
def mergeBytes (sel : BitVec 8) (data old : Word) : Word :=
  LittleEndian.assemble 64
    (fun i => if sel.getLsbD i then LittleEndian.byteAt data i else LittleEndian.byteAt old i) 8

def step (i : LineCacheInputs) : LineCache indexBits :=
  if i.flushAll then { s with validBits := fun _ => false }
  else if i.invalidateValid then
    if s.lookupHit i.invalidateAddr then
      { s with validBits := fun x => if x = index i.invalidateAddr then false else s.validBits x }
    else s
  else if i.storeUpdateValid then
    if s.lookupHit i.storeUpdateAddr then
      { s with lineData := fun x =>
          if x = index i.storeUpdateAddr then mergeBytes i.storeUpdateSel i.storeUpdateData (s.lineData x)
          else s.lineData x }
    else s
  else if i.fillValid then
    { validBits := fun x => if x = index i.fillAddr then true else s.validBits x
      tags := fun x => if x = index i.fillAddr then line i.fillAddr else s.tags x
      lineData := fun x => if x = index i.fillAddr then i.fillData else s.lineData x }
  else s

end LineCache

end Little64.Hdl

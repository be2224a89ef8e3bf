import Little64.Emulator.Vectors

/-! The page-table walk of the V4 core: the checks made on a request before a walk, and the
state machine that reads one entry a level through the load/store unit. -/

namespace Little64.Hdl

open Emulator.Vectors

def PTE_V : Word := 1 <<< 0
def PTE_R : Word := 1 <<< 1
def PTE_W : Word := 1 <<< 2
def PTE_X : Word := 1 <<< 3
def PTE_U : Word := 1 <<< 4
def PTE_RESERVED_MASK : Word := 0xFFC0000000000000

def auxSubtypeNone : Word := 0
def auxSubtypeNoValidPte : Word := 1
def auxSubtypeInvalidNonleaf : Word := 2
def auxSubtypePermission : Word := 3
def auxSubtypeReservedBit : Word := 4
def auxSubtypeCanonical : Word := 5

def isCanonical39 (addr : Word) : Bool :=
  let signBit := addr.getLsbD 38
  let upper := addr.extractLsb' 39 25
  if signBit then upper == BitVec.allOnes 25 else upper == 0

def encodeAux (subtype level : Word) : Word := subtype ||| (level <<< 8)

def rootAligned (root : Word) : Bool := root &&& 0xFFF == 0

structure FaultRecord where
  cause : Word
  aux : Word
  deriving DecidableEq, Repr

/-- The checks on a data access before it is looked up, with paging on. -/
def memoryFault (root virtualAddr : Word) : Option FaultRecord :=
  if !isCanonical39 virtualAddr then some ⟨trapPageFaultCanonical, encodeAux auxSubtypeCanonical 2⟩
  else if !rootAligned root then some ⟨trapPageFaultReserved, encodeAux auxSubtypeReservedBit 2⟩
  else none

/-- The checks on an instruction fetch before it is looked up. -/
def fetchFault (paging : Bool) (root virtualAddr : Word) : Option FaultRecord :=
  if virtualAddr.getLsbD 0 then some ⟨trapExecAlign, encodeAux auxSubtypeNone 0⟩
  else if paging then memoryFault root virtualAddr
  else none

inductive WalkResume
  | fetch
  | memory
  | vector
  deriving DecidableEq, Repr

structure PageWalk where
  active : Bool
  processing : Bool
  started : Bool
  virtualAddr : Word
  tableAddr : Word
  level : BitVec 2
  access : AccessType
  resumeKind : WalkResume
  pteLatched : Word
  deriving DecidableEq, Repr

/-- What a walk sees of the load/store unit. -/
structure WalkInputs where
  requestReady : Bool
  responseValid : Bool
  responseError : Bool
  responseLoadValue : Word
  deriving DecidableEq, Repr

namespace PageWalk

def start (virtualAddr root : Word) (access : AccessType) (resumeKind : WalkResume) : PageWalk where
  active := true
  processing := false
  started := false
  virtualAddr := virtualAddr
  tableAddr := root
  level := 2
  access := access
  resumeKind := resumeKind
  pteLatched := 0

variable (s : PageWalk) (user : Bool) (i : WalkInputs)

def index : Word :=
  if s.level = 2 then (s.virtualAddr >>> 30) &&& 0x1FF
  else if s.level = 1 then (s.virtualAddr >>> 21) &&& 0x1FF
  else (s.virtualAddr >>> 12) &&& 0x1FF

def pteAddr : Word := s.tableAddr + (s.index <<< 3)

def requestValid : Bool := s.active && !s.processing && !s.started
def requestStart : Bool := s.requestValid && i.requestReady
def responseValid : Bool := s.active && !s.processing && i.responseValid
def responseError : Bool := s.responseValid i && i.responseError

def isLeaf : Bool := s.pteLatched &&& (PTE_R ||| PTE_W ||| PTE_X) != 0

def permissionOk : Bool :=
  match s.access with
  | .execute => s.pteLatched &&& PTE_X != 0
  | .write => s.pteLatched &&& PTE_W != 0
  | .read => s.pteLatched &&& PTE_R != 0

def userOk : Bool := !user || s.pteLatched &&& PTE_U != 0
def reserved : Bool := s.pteLatched &&& PTE_RESERVED_MASK != 0
def invalid : Bool := s.pteLatched &&& PTE_V == 0
def tableNext : Word := (s.pteLatched >>> 10) <<< 12
def pageShift : ℕ := if s.level = 2 then 30 else if s.level = 1 then 21 else 12
def pageMask : Word := 1 <<< s.pageShift - 1
def pageBase : Word := (s.pteLatched >>> 10) <<< 12
def resultPhys : Word := s.pageBase + (s.virtualAddr &&& s.pageMask)

def fault : Bool :=
  s.processing &&
    (s.invalid || s.reserved ||
      (decide (0 < s.level) && s.isLeaf && (!s.permissionOk || !s.userOk user)) ||
      (s.level == 0 && (!s.isLeaf || !s.permissionOk || !s.userOk user)))

def faultCause : Word :=
  if s.invalid then trapPageFaultNotPresent
  else if s.reserved || (s.level == 0 && !s.isLeaf) then trapPageFaultReserved
  else trapPageFaultPermission

def faultAux : Word :=
  if s.invalid then encodeAux auxSubtypeNoValidPte (s.level.setWidth 64)
  else if s.reserved then encodeAux auxSubtypeReservedBit (s.level.setWidth 64)
  else if s.level == 0 && !s.isLeaf then encodeAux auxSubtypeInvalidNonleaf 0
  else encodeAux auxSubtypePermission (s.level.setWidth 64)

def leafSuccess : Bool :=
  s.processing && !s.fault user &&
    ((decide (0 < s.level) && s.isLeaf) || (s.level == 0 && s.isLeaf && s.permissionOk && s.userOk user))

def descends : Bool := s.processing && !s.fault user && !s.leafSuccess user

/-- A clock cycle of the walk on its own; the core only starts and abandons walks. -/
def step : PageWalk :=
  if s.descends user then
    { s with processing := false, started := false, tableAddr := s.tableNext, level := s.level - 1 }
  else if s.leafSuccess user then { s with active := false, processing := false, started := false }
  else if s.responseValid i && !s.responseError i then
    { s with processing := true, pteLatched := i.responseLoadValue, started := s.started || s.requestStart i }
  else { s with started := s.started || s.requestStart i }

lemma step_virtualAddr : (s.step user i).virtualAddr = s.virtualAddr := by
  rw [step]
  split_ifs <;> rfl

end PageWalk

end Little64.Hdl

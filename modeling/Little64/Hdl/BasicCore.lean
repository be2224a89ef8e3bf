import Little64.Hdl.Core

/-! The basic core: a multi-cycle sequencer that fetches, executes and, where an instruction has memory accesses,
performs one at a time. Where several synchronous statements assign a register, the last one wins. -/

namespace Little64.Hdl

open Emulator (Reg LsOpcode GpOpcode)
open Emulator.Vectors

inductive CoreState
  | reset
  | fetchTranslate
  | fetch
  | execute
  | memTranslate
  | memLoad
  | memStore
  | walk
  | walkProcess
  | halted
  | interruptVectorTranslate
  | interruptVectorLoad
  | memLoadSplit
  | memStoreSplit
  deriving DecidableEq, Repr

structure BasicConfig where
  enableMmu : Bool
  tlbIndexBits : ℕ
  optionalPlatformRegisters : Bool
  irqInputCount : ℕ
  resetVector : Word

def BasicConfig.specialRegs (c : BasicConfig) : SpecialRegisterConfig := ⟨c.optionalPlatformRegisters, c.enableMmu⟩

structure BasicInputs (c : BasicConfig) where
  iBus : BusReply
  dBus : BusReply
  irqLines : BitVec c.irqInputCount
  bootR1 : Word
  bootR13 : Word

/-- The access that the memory states carry out, and what follows it. -/
structure PendingAccess where
  addr : Word
  virtualAddr : Word
  widthBytes : ℕ
  rd : Reg
  storeValue : Word
  nextPc : Word
  faultPc : Word
  memWrite : Bool
  setReservation : Bool
  reservationAddr : Word
  postMemReg : Reg
  postMemValue : Word
  postMemDelta : Word
  postMemWrite : Bool
  postMemUseLoadResult : Bool
  chainStore : Bool
  chainStoreAddr : Word
  chainStoreUseLoadResult : Bool
  chainStoreValue : Word
  deriving DecidableEq, Repr

structure WalkRegs where
  virtualAddr : Word
  tableAddr : Word
  level : BitVec 2
  access : AccessType
  resumeState : CoreState
  pteLatched : Word
  deriving DecidableEq, Repr

structure BasicCore (c : BasicConfig) where
  state : CoreState
  currentInstruction : BitVec 16
  fetchPc : Word
  fetchPhysAddr : Word
  pending : PendingAccess
  walk : WalkRegs
  interruptEntryVector : Word
  interruptEntryEpc : Word
  interruptVectorPhys : Word
  splitFirstData : Word
  splitFirstCycle : Bool
  regs : Reg → Word
  flags : Flags
  llReservationAddr : Word
  llReservationValid : Bool
  halted : Bool
  lockedUp : Bool
  specialRegs : SpecialRegisters
  tlb : Tlb c.tlbIndexBits 8 52

/-- What one cycle assigns: the registers of the core itself, its writes to the special registers, the fill of the
lookaside buffer, and the commit of an instruction. -/
structure BasicCycle (c : BasicConfig) where
  next : BasicCore c
  special : SpecialRegisterInputs
  fillValid : Bool
  commitValid : Bool

/-- A write of the register file. `R0` has no case. -/
def writeReg (regs : Reg → Word) (index : Reg) (value : Word) : Reg → Word := fun r =>
  if r = index ∧ index ≠ 0 then value else regs r

/-- The assignment of the program counter behind the other writes. -/
def setPc (regs : Reg → Word) (value : Word) : Reg → Word := fun r => if r = 15 then value else regs r

section Shifts

variable (a : Word) (amount : ℕ)

def leftShifted : Word := if amount = 64 then 0 else (a.setWidth 128 <<< amount).setWidth 64
def rightShifted : Word := if amount = 64 then 0 else a >>> amount

def arithmeticRightShifted : Word :=
  if amount = 64 then if a.msb then 0xFFFFFFFFFFFFFFFF else 0 else a.sshiftRight amount

def sllZero : Bool :=
  if amount = 0 then a == 0 else if amount = 64 then true else a.extractLsb' 0 (64 - amount) == 0

def sllSign : Bool := if amount = 0 then a.msb else if amount = 64 then false else a.getLsbD (63 - amount)

def srlZero : Bool :=
  if amount = 0 then a == 0 else if amount = 64 then true else a.extractLsb' amount (64 - amount) == 0

def srlSign : Bool := if amount = 0 then a.msb else false

def sraZero : Bool :=
  if amount = 0 then a == 0
  else if amount = 64 then !a.msb
  else !a.msb && a.extractLsb' amount (64 - amount) == 0

def shiftFlags (zero carry sign : Bool) : Flags :=
  BitVec.ofBool sign ++ BitVec.ofBool carry ++ BitVec.ofBool zero

end Shifts

namespace PendingAccess

def clear : PendingAccess := ⟨0, 0, 0, 0, 0, 0, 0, false, false, 0, 0, 0, 0, false, false, false, 0, false, 0⟩

variable (p : PendingAccess)

/-- What every instruction with a memory access assigns. -/
def start (addr : Word) (width : ℕ) (nextPc faultPc : Word) (memWrite : Bool) : PendingAccess :=
  { p with
    addr := addr
    virtualAddr := addr
    widthBytes := width
    nextPc := nextPc
    faultPc := faultPc
    memWrite := memWrite
    setReservation := false
    postMemWrite := false
    postMemUseLoadResult := false
    postMemDelta := 0
    chainStore := false
    chainStoreUseLoadResult := false
    chainStoreValue := 0 }

/-- The value of the second register write, once the load is in. -/
def postValue (loadResult : Word) : Word :=
  if p.postMemUseLoadResult then loadResult + p.postMemDelta else p.postMemValue

def nextPcAfterLoad (loadResult : Word) : Word :=
  if p.postMemWrite ∧ p.postMemReg = 15 then p.postValue loadResult
  else if p.rd = 15 then loadResult
  else p.nextPc

def loadRegs (regs : Reg → Word) (loadResult : Word) : Reg → Word :=
  let loaded := writeReg regs p.rd loadResult
  if p.postMemWrite then writeReg loaded p.postMemReg (p.postValue loadResult) else loaded

def nextPcAfterStore : Word := if p.postMemWrite ∧ p.postMemReg = 15 then p.postMemValue else p.nextPc

def storeRegs (regs : Reg → Word) : Reg → Word :=
  if p.postMemWrite then writeReg regs p.postMemReg p.postMemValue else regs

/-- The store that follows the load of a PC-relative `PUSH` or `POP`. -/
def chained (loadResult : Word) : PendingAccess :=
  { p with
    addr := p.chainStoreAddr
    virtualAddr := p.chainStoreAddr
    widthBytes := 8
    storeValue := if p.chainStoreUseLoadResult then loadResult else p.chainStoreValue
    memWrite := true
    setReservation := false
    postMemWrite := false
    postMemUseLoadResult := false
    postMemDelta := 0
    chainStore := false
    chainStoreUseLoadResult := false
    chainStoreValue := 0 }

end PendingAccess

namespace BasicCore

variable {c : BasicConfig}

def init (c : BasicConfig) : BasicCore c where
  state := .reset
  currentInstruction := 0
  fetchPc := 0
  fetchPhysAddr := 0
  pending := .clear
  walk := ⟨0, 0, 0, .read, .reset, 0⟩
  interruptEntryVector := 0
  interruptEntryEpc := 0
  interruptVectorPhys := 0
  splitFirstData := 0
  splitFirstCycle := false
  regs r := if r = 15 then c.resetVector else 0
  flags := 0
  llReservationAddr := 0
  llReservationValid := false
  halted := false
  lockedUp := false
  specialRegs := .reset
  tlb := .reset

variable (s : BasicCore c) (i : BasicInputs c)

section Control

def currentPc : Word := s.regs 15
def postIncrementPc : Word := s.fetchPc + 2
def pagingEnabled : Bool := s.specialRegs.cpuControl.getLsbD 16
def userMode : Bool := s.specialRegs.cpuControl.getLsbD 17
def root : Word := s.specialRegs.pageTableRootPhysical

def currentInterruptVector : Word :=
  (s.specialRegs.cpuControl &&& CPU_CONTROL_CUR_INT_MASK) >>> CPU_CONTROL_CUR_INT_SHIFT

def irqLinePendingMask : Word := i.irqLines.setWidth 64 <<< 1

def pendingIrqHigh : Word :=
  (s.specialRegs.interruptStatesHigh ||| irqLinePendingMask i) &&& s.specialRegs.interruptMaskHigh

/-- The lowest pending and unmasked line. -/
def pendingIrq : Option ℕ :=
  ((List.range c.irqInputCount).map (· + 1)).find? fun bitIndex => (s.pendingIrqHigh i).getLsbD bitIndex

def pendingIrqVector : Word :=
  match s.pendingIrq i with
  | some bitIndex => BitVec.ofNat 64 (64 + bitIndex)
  | none => 0

def canPreemptPendingIrq : Bool :=
  !s.specialRegs.cpuControl.getLsbD 1 || s.currentInterruptVector == 0 ||
    decide (s.pendingIrqVector i < s.currentInterruptVector)

def interruptVectorTableAddr : Word := s.specialRegs.interruptTableBase + s.interruptEntryVector <<< 3

end Control

section Operands

def rd : Reg := instructionRd s.currentInstruction
def rs1 : Reg := instructionRs1 s.currentInstruction
def lsOpcode : LsOpcode := instructionLsOpcode s.currentInstruction
def a : Word := s.regs s.rd
def b : Word := s.regs s.rs1
def lsRdValue : Word := if s.rd = 15 then s.postIncrementPc else s.a
def lsRs1Value : Word := if s.rs1 = 15 then s.postIncrementPc else s.b
def lsAddr : Word := s.lsRs1Value + (instructionLsOffset2 s.currentInstruction).setWidth 64 <<< 1
def lsPushAddr : Word := s.lsRdValue - 8
def lsPcEffective : Word := s.postIncrementPc + pcRelative s.currentInstruction 4 6
def lsJumpEffective : Word := s.postIncrementPc + pcRelative s.currentInstruction 0 10
def lsPcPushAddr : Word := s.a - 8
def lsCondition : Bool := Hdl.lsCondition s.flags s.lsOpcode
def shiftIndex : ℕ := if 64 ≤ s.b then 64 else (s.b.setWidth 7).toNat
def imm4 : ℕ := (instructionGpImm4 s.currentInstruction).toNat
def sumValue : BitVec 65 := s.a.setWidth 65 + s.b.setWidth 65
def subValue : Word := s.a - s.b

def ldiValue : Word :=
  let imm8 := instructionLdiImm8 s.currentInstruction
  match instructionLdiShift s.currentInstruction with
  | 0 => imm8.setWidth 64
  | 1 => s.a ||| imm8.setWidth 64 <<< 8
  | 2 => s.a ||| imm8.setWidth 64 <<< 16
  | _ => s.a ||| (imm8 ++ (0 : BitVec 24)).signExtend 64

def specialWriteActive : Bool :=
  s.state == .execute && instructionTop3 s.currentInstruction == 6 &&
    instructionGpOpcode s.currentInstruction == some .ssr

end Operands

section DataPath

def byteOffset : ℕ := (s.pending.addr.setWidth 3).toNat

def baseSel : BitVec 8 :=
  match s.pending.widthBytes with
  | 1 => 0x01
  | 2 => 0x03
  | 4 => 0x0F
  | 8 => 0xFF
  | _ => 0x00

def wordAlignedAddr : Word := s.pending.addr &&& 0xFFFFFFFFFFFFFFF8
def nextWordAddr : Word := s.wordAlignedAddr + 8
def shiftedSel : BitVec 16 := s.baseSel.setWidth 16 <<< s.byteOffset
def shiftedDatW : BitVec 128 := s.pending.storeValue.setWidth 128 <<< (s.byteOffset * 8)
def firstBeatSel : BitVec 8 := s.shiftedSel.extractLsb' 0 8
def secondBeatSel : BitVec 8 := s.shiftedSel.extractLsb' 8 8
def firstBeatDatW : Word := s.shiftedDatW.extractLsb' 0 64
def secondBeatDatW : Word := s.shiftedDatW.extractLsb' 64 64
def splitNeeded : Bool := s.secondBeatSel != 0

def singleReadData : Word := i.dBus.datR >>> (s.byteOffset * 8)

def combinedReadData : Word :=
  if s.byteOffset = 0 then s.splitFirstData
  else s.splitFirstData >>> (s.byteOffset * 8) ||| i.dBus.datR <<< (64 - s.byteOffset * 8)

def reservationEnd : Word := s.llReservationAddr + 7
def writeEnd : Word := s.pending.virtualAddr + BitVec.ofNat 64 s.pending.widthBytes - 1

def storeOverlapsReservation : Bool :=
  s.llReservationValid && s.pending.widthBytes != 0 && decide (s.pending.virtualAddr ≤ s.reservationEnd) &&
    decide (s.llReservationAddr ≤ s.writeEnd)

end DataPath

section Translation

def translationAccess : AccessType :=
  if s.state = .fetchTranslate then .execute
  else if s.state = .interruptVectorTranslate then .read
  else if s.pending.memWrite then .write
  else .read

def tlbLookupVaddr : Word :=
  if s.state = .fetchTranslate then s.currentPc
  else if s.state = .interruptVectorTranslate then s.interruptVectorTableAddr
  else s.pending.addr

def tlbPermOk : Bool :=
  match s.translationAccess with
  | .read => (s.tlb.lookupEntry s.tlbLookupVaddr).permRead
  | .write => (s.tlb.lookupEntry s.tlbLookupVaddr).permWrite
  | .execute => (s.tlb.lookupEntry s.tlbLookupVaddr).permExecute

def tlbUserOk : Bool := !s.userMode || (s.tlb.lookupEntry s.tlbLookupVaddr).permUser
def tlbHitOk : Bool := s.tlb.lookupHit s.tlbLookupVaddr && s.tlbPermOk && s.tlbUserOk
def tlbLookupPaddr : Word := s.tlb.lookupPaddr s.tlbLookupVaddr

def walkIndex : BitVec 9 :=
  if s.walk.level = 2 then s.walk.virtualAddr.extractLsb' 30 9
  else if s.walk.level = 1 then s.walk.virtualAddr.extractLsb' 21 9
  else s.walk.virtualAddr.extractLsb' 12 9

def walkPteAddr : Word := s.walk.tableAddr + s.walkIndex.setWidth 64 <<< 3
def walkPte : Word := s.walk.pteLatched
def walkIsLeaf : Bool := s.walkPte &&& (PTE_R ||| PTE_W ||| PTE_X) != 0

def walkPermissionOk : Bool :=
  match s.walk.access with
  | .read => s.walkPte &&& PTE_R != 0
  | .write => s.walkPte &&& PTE_W != 0
  | .execute => s.walkPte &&& PTE_X != 0

def walkUserOk : Bool := !s.userMode || s.walkPte &&& PTE_U != 0
def walkReserved : Bool := s.walkPte &&& PTE_RESERVED_MASK != 0
def walkTableNext : Word := s.walkPte >>> 10 <<< 12
def walkPageShift : ℕ := if s.walk.level = 2 then 30 else if s.walk.level = 1 then 21 else 12
def walkPageMask : Word := 1 <<< s.walkPageShift - 1
def walkPageBase : Word := s.walkPte >>> 10 <<< 12
def walkResultPhys : Word := s.walkPageBase + (s.walk.virtualAddr &&& s.walkPageMask)

def tlbFill : TlbFill 52 where
  vpage := s.walk.virtualAddr.extractLsb' 12 52
  ppage := s.walkResultPhys.extractLsb' 12 52
  permRead := s.walkPte &&& PTE_R != 0
  permWrite := s.walkPte &&& PTE_W != 0
  permExecute := s.walkPte &&& PTE_X != 0
  permUser := s.walkPte &&& PTE_U != 0

end Translation

section Bus

def iBusAdr : Word := s.fetchPhysAddr &&& 0xFFFFFFFFFFFFFFF8
def iBusCyc : Bool := s.state == .fetch

def splitting : Bool := s.state == .memLoadSplit || s.state == .memStoreSplit

def dBusAdr : Word :=
  if s.state = .walk then s.walkPteAddr
  else if s.state = .interruptVectorLoad then s.interruptVectorPhys
  else if s.splitting then s.nextWordAddr
  else s.wordAlignedAddr

def dBusDatW : Word :=
  if s.state = .walk ∨ s.state = .interruptVectorLoad then 0
  else if s.state = .memStoreSplit then s.secondBeatDatW
  else s.firstBeatDatW

def dBusSel : BitVec 8 :=
  if s.state = .walk ∨ s.state = .interruptVectorLoad then 0xFF
  else if s.splitting then s.secondBeatSel
  else s.firstBeatSel

def dBusCyc : Bool :=
  s.state == .memLoad || s.state == .memStore || s.state == .walk || s.state == .interruptVectorLoad ||
    (s.splitting && !s.splitFirstCycle)

def dBusWe : Bool := s.state == .memStore || (s.state == .memStoreSplit && !s.splitFirstCycle)

/-- The special-register file with what software asks of it, and nothing from the core. -/
def softwareInputs : SpecialRegisterInputs where
  writeStb := s.specialWriteActive
  writeSelector := s.b.setWidth 16
  writeData := s.a
  coreCpuControlWrite := false
  coreCpuControlData := 0
  coreInterruptCpuControlWrite := false
  coreInterruptCpuControlData := 0
  coreInterruptEpcWrite := false
  coreInterruptEpcData := 0
  coreInterruptEflagsWrite := false
  coreInterruptEflagsData := 0
  coreTrapWrite := false
  coreTrapCauseData := 0
  coreTrapFaultAddrData := 0
  coreTrapAccessData := 0
  coreTrapPcData := 0
  coreTrapAuxData := 0
  interruptStatesHighSet :=
    if s.specialWriteActive && SpecialRegisters.selected (s.b.setWidth 16) == some .interruptStatesHigh then 0
    else irqLinePendingMask i

end Bus

section Cycles

/-- A cycle that assigns nothing. -/
def quiet : BasicCycle c := ⟨s, s.softwareInputs i, false, false⟩

/-- A cycle that only moves registers of the core. -/
def move (next : BasicCore c) : BasicCycle c := { s.quiet i with next := next }

/-- A cycle that ends an instruction. -/
def retire (next : BasicCore c) : BasicCycle c := { s.quiet i with next := next, commitValid := true }

def enterLockup : BasicCycle c := s.move i { s with lockedUp := true, state := .halted }

def entryCpuControl (vector : Word) : Word :=
  (s.specialRegs.cpuControl &&& ~~~(CPU_CONTROL_INT_ENABLE ||| CPU_CONTROL_IN_INTERRUPT |||
      CPU_CONTROL_CUR_INT_MASK ||| CPU_CONTROL_USER_MODE)) |||
    CPU_CONTROL_IN_INTERRUPT ||| vector <<< CPU_CONTROL_CUR_INT_SHIFT

def beginInterruptEntry (vector epc : Word) : BasicCycle c :=
  { s.quiet i with
    next := { s with
      interruptEntryVector := vector
      interruptEntryEpc := epc
      state := .interruptVectorTranslate }
    special := { s.softwareInputs i with
      coreInterruptCpuControlWrite := true
      coreInterruptCpuControlData := s.specialRegs.cpuControl
      coreCpuControlWrite := true
      coreCpuControlData := s.entryCpuControl vector } }

/-- A trap locks the core up while the handler of one that it does not preempt runs. -/
def trapLocksUp (vector : Word) : Bool :=
  s.specialRegs.cpuControl.getLsbD 1 && s.currentInterruptVector != 0 &&
    decide (s.currentInterruptVector < irqVectorBase) && decide (s.currentInterruptVector ≤ vector)

def raiseSyncTrap (vector trapPc faultAddr access aux : Word) : BasicCycle c :=
  if s.trapLocksUp vector then s.enterLockup i
  else
    let entry := s.beginInterruptEntry i vector trapPc
    { entry with
      special := { entry.special with
        coreTrapWrite := true
        coreTrapCauseData := if s.specialRegs.trapCause = 0 then vector else s.specialRegs.trapCause
        coreTrapFaultAddrData := faultAddr
        coreTrapAccessData := access
        coreTrapPcData := trapPc
        coreTrapAuxData := aux } }

/-- A trap of the instruction itself. -/
def instructionTrap (vector : Word) : BasicCycle c := s.raiseSyncTrap i vector s.fetchPc 0 0 0

/-- Start of a page-table walk. -/
def startWalk (virtualAddr : Word) (access : AccessType) (resumeState : CoreState) : BasicCore c :=
  { s with
    walk := { s.walk with
      virtualAddr := virtualAddr
      tableAddr := s.root
      level := 2
      access := access
      resumeState := resumeState }
    state := .walk }

def cycleReset : BasicCycle c :=
  { s.quiet i with
    next := { s with
      regs := fun r => if r = 1 then i.bootR1 else if r = 13 then i.bootR13 else if r = 15 then c.resetVector else s.regs r
      flags := 0
      llReservationAddr := 0
      llReservationValid := false
      halted := false
      lockedUp := false
      state := .fetchTranslate }
    special := { s.softwareInputs i with coreTrapWrite := true } }

def cycleFetchTranslate : BasicCycle c :=
  if s.currentPc.getLsbD 0 then
    s.raiseSyncTrap i trapExecAlign s.currentPc s.currentPc (accessCode .execute) (encodeAux auxSubtypeNone 0)
  else if s.pagingEnabled && !c.enableMmu then s.enterLockup i
  else if (s.pendingIrq i).isSome && s.specialRegs.cpuControl.getLsbD 0 && s.canPreemptPendingIrq i then
    s.beginInterruptEntry i (s.pendingIrqVector i) s.currentPc
  else if !s.pagingEnabled then s.move i { s with fetchPhysAddr := s.currentPc, state := .fetch }
  else if !isCanonical39 s.currentPc then
    s.raiseSyncTrap i trapPageFaultCanonical s.currentPc s.currentPc (accessCode .execute)
      (encodeAux auxSubtypeCanonical 2)
  else if !rootAligned s.root then
    s.raiseSyncTrap i trapPageFaultReserved s.currentPc s.currentPc (accessCode .execute)
      (encodeAux auxSubtypeReservedBit 2)
  else if s.tlbHitOk then s.move i { s with fetchPhysAddr := s.tlbLookupPaddr, state := .fetch }
  else
    s.move i { s.startWalk s.currentPc .execute .fetch with
      pending := { s.pending with faultPc := s.currentPc } }

def cycleFetch : BasicCycle c :=
  if i.iBus.err then s.enterLockup i
  else if i.iBus.ack then
    s.move i { s with
      fetchPc := s.currentPc
      currentInstruction := i.iBus.datR.extractLsb' (16 * (s.fetchPhysAddr.extractLsb' 1 2).toNat) 16
      state := .execute }
  else s.quiet i

/-- The end of an instruction without a memory access. -/
def next (regs : Reg → Word) (pc : Word) : BasicCore c := { s with regs := setPc regs pc, state := .fetchTranslate }

/-- An instruction with a memory access goes on to its translation. -/
def access (p : PendingAccess) : BasicCore c := { s with pending := p, state := .memTranslate }

def startAccess (addr : Word) (width : ℕ) (memWrite : Bool) : PendingAccess :=
  s.pending.start addr width s.postIncrementPc s.fetchPc memWrite

def executeLsReg : BasicCycle c :=
  match s.lsOpcode with
  | .load | .byteLoad | .shortLoad | .wordLoad =>
    s.move i (s.access { s.startAccess s.lsAddr (loadWidth s.lsOpcode) false with rd := s.rd })
  | .store | .byteStore | .shortStore | .wordStore =>
    s.move i (s.access { s.startAccess s.lsAddr (storeWidth s.lsOpcode) true with storeValue := s.lsRdValue })
  | .push =>
    s.move i { s.access { s.startAccess s.lsPushAddr 8 true with storeValue := s.lsRs1Value } with
      regs := writeReg s.regs s.rd s.lsPushAddr }
  | .pop =>
    s.move i (s.access { s.startAccess s.lsRdValue 8 false with
      rd := s.rs1
      postMemReg := s.rd
      postMemValue := s.lsRdValue + 8
      postMemDelta := 8
      postMemWrite := true
      postMemUseLoadResult := s.rd == s.rs1 })
  | .move =>
    s.retire i (s.next (writeReg s.regs s.rd s.lsAddr) (if s.rd = 15 then s.lsAddr else s.postIncrementPc))
  | .jumpZ | .jumpC | .jumpS | .jumpGT | .jumpLT =>
    s.retire i (s.next (if s.lsCondition then writeReg s.regs s.rd s.lsAddr else s.regs)
      (if s.lsCondition ∧ s.rd = 15 then s.lsAddr else s.postIncrementPc))

def executeLsPcRel : BasicCycle c :=
  match s.lsOpcode with
  | .load | .byteLoad | .shortLoad | .wordLoad =>
    s.move i (s.access { s.startAccess s.lsPcEffective (loadWidth s.lsOpcode) false with rd := s.rd })
  | .store | .byteStore | .shortStore | .wordStore =>
    s.move i (s.access { s.startAccess s.lsPcEffective (storeWidth s.lsOpcode) true with storeValue := s.a })
  | .push =>
    s.move i (s.access { s.startAccess s.lsPcEffective 8 false with
      rd := 0
      postMemReg := s.rd
      postMemValue := s.lsPcPushAddr
      postMemWrite := true
      chainStore := true
      chainStoreAddr := s.lsPcPushAddr
      chainStoreUseLoadResult := true })
  | .pop =>
    s.move i (s.access { s.startAccess s.a 8 false with
      rd := 0
      postMemReg := s.rd
      postMemValue := s.a + 8
      postMemWrite := true
      chainStore := true
      chainStoreAddr := s.lsPcEffective
      chainStoreUseLoadResult := true })
  | .move =>
    s.retire i (s.next (writeReg s.regs s.rd s.lsPcEffective)
      (if s.rd = 15 then s.lsPcEffective else s.postIncrementPc))
  | .jumpZ | .jumpC | .jumpS | .jumpGT | .jumpLT =>
    s.retire i (s.next s.regs (if s.lsCondition then s.lsJumpEffective else s.postIncrementPc))

/-- Destination and flags of an ALU operation. A result in `R15` gives way to the next address. -/
def alu (result : Word) (flags : Flags) : BasicCycle c :=
  s.retire i { s.next (writeReg s.regs s.rd result) s.postIncrementPc with flags := flags }

/-- The flags with `Z` replaced. -/
def withZero (z : Bool) : Flags := s.flags.extractLsb' 1 2 ++ BitVec.ofBool z

def executeGp : BasicCycle c :=
  match instructionGpOpcode s.currentInstruction with
  | some .add => s.alu i (s.sumValue.setWidth 64) (flagValue (s.sumValue.setWidth 64) s.sumValue.msb)
  | some .sub => s.alu i s.subValue (flagValue s.subValue (decide (s.a < s.b)))
  | some .test =>
    s.retire i { s.next s.regs s.postIncrementPc with flags := flagValue s.subValue (decide (s.a < s.b)) }
  | some .llr =>
    s.move i (s.access { s.startAccess s.b 8 false with
      rd := s.rd
      setReservation := true
      reservationAddr := s.b })
  | some .scr =>
    if s.llReservationValid && s.llReservationAddr == s.b then
      s.move i { s.access { s.startAccess s.b 8 true with storeValue := s.a } with
        llReservationValid := false
        flags := s.withZero true }
    else
      s.retire i { s.next s.regs s.postIncrementPc with
        llReservationValid := false
        flags := s.withZero false }
  | some .and => s.alu i (s.a &&& s.b) (flagValue (s.a &&& s.b) false)
  | some .or => s.alu i (s.a ||| s.b) (flagValue (s.a ||| s.b) false)
  | some .xor => s.alu i (s.a ^^^ s.b) (flagValue (s.a ^^^ s.b) false)
  | some .sll =>
    s.alu i (leftShifted s.a s.shiftIndex)
      (shiftFlags (sllZero s.a s.shiftIndex) (sllCarry s.a s.shiftIndex) (sllSign s.a s.shiftIndex))
  | some .srl =>
    s.alu i (rightShifted s.a s.shiftIndex)
      (shiftFlags (srlZero s.a s.shiftIndex) (srxCarry s.a s.shiftIndex) (srlSign s.a s.shiftIndex))
  | some .sra =>
    s.alu i (arithmeticRightShifted s.a s.shiftIndex)
      (shiftFlags (sraZero s.a s.shiftIndex) (srxCarry s.a s.shiftIndex) s.a.msb)
  | some .slli =>
    s.alu i (if s.imm4 = 0 then s.a else s.a <<< s.imm4)
      (shiftFlags (sllZero s.a s.imm4) (slliCarry s.a s.imm4) (sllSign s.a s.imm4))
  | some .srli =>
    s.alu i (if s.imm4 = 0 then s.a else s.a >>> s.imm4)
      (shiftFlags (srlZero s.a s.imm4) (srxImmCarry s.a s.imm4) (srlSign s.a s.imm4))
  | some .srai =>
    s.alu i (if s.imm4 = 0 then s.a else s.a.sshiftRight s.imm4)
      (shiftFlags (sraZero s.a s.imm4) (srxImmCarry s.a s.imm4) s.a.msb)
  | some .lsr =>
    if s.specialRegs.readAccessFault (s.b.setWidth 16) then s.instructionTrap i trapPrivilegedInstruction
    else
      s.retire i (s.next (writeReg s.regs s.rd (s.specialRegs.readData c.specialRegs (s.b.setWidth 16)))
        s.postIncrementPc)
  | some .ssr =>
    if s.specialRegs.writeAccessFault (s.softwareInputs i) then s.instructionTrap i trapPrivilegedInstruction
    else s.retire i (s.next s.regs s.postIncrementPc)
  | some .syscall => s.instructionTrap i (if s.userMode then trapSyscall else trapSyscallFromSupervisor)
  | some .iret =>
    if s.userMode then s.instructionTrap i trapPrivilegedInstruction
    else
      let cycle := s.retire i { s.next s.regs s.specialRegs.interruptEpc with
        flags := s.specialRegs.interruptEflags.setWidth 3 }
      { cycle with special := { cycle.special with
          coreCpuControlWrite := true
          coreCpuControlData := s.specialRegs.interruptCpuControl } }
  | some .stop =>
    if s.userMode then s.instructionTrap i trapPrivilegedInstruction
    else s.retire i { s.next s.regs s.postIncrementPc with halted := true, state := .halted }
  | none => s.instructionTrap i trapInvalidInstruction

def cycleExecute : BasicCycle c :=
  match instructionTop2 s.currentInstruction with
  | 2 => s.retire i (s.next (writeReg s.regs s.rd s.ldiValue) s.postIncrementPc)
  | 0 => s.executeLsReg i
  | 1 => s.executeLsPcRel i
  | _ =>
    if instructionTop3 s.currentInstruction = 7 then
      s.retire i (s.next s.regs (s.postIncrementPc + pcRelative s.currentInstruction 0 13))
    else s.executeGp i

/-- The state that performs the pending access. -/
def memState : CoreState := if s.pending.memWrite then .memStore else .memLoad

def memAccess : AccessType := if s.pending.memWrite then .write else .read

def cycleMemTranslate : BasicCycle c :=
  if s.pagingEnabled && !c.enableMmu then s.enterLockup i
  else if !s.pagingEnabled then s.move i { s with state := s.memState }
  else if !isCanonical39 s.pending.addr then
    s.raiseSyncTrap i trapPageFaultCanonical s.pending.faultPc s.pending.virtualAddr (accessCode s.memAccess)
      (encodeAux auxSubtypeCanonical 2)
  else if !rootAligned s.root then
    s.raiseSyncTrap i trapPageFaultReserved s.pending.faultPc s.pending.virtualAddr (accessCode s.memAccess)
      (encodeAux auxSubtypeReservedBit 2)
  else if s.tlbHitOk then
    s.move i { s with pending := { s.pending with addr := s.tlbLookupPaddr }, state := s.memState }
  else s.move i (s.startWalk s.pending.virtualAddr s.memAccess s.memState)

/-- A load whose last beat is in: the results, and the store that may follow. -/
def finishLoad (readData : Word) : BasicCycle c :=
  let p := s.pending
  let loadResult := narrow p.widthBytes readData
  let reserved : BasicCore c := { s with
    llReservationAddr := if p.setReservation then p.reservationAddr else s.llReservationAddr
    llReservationValid := p.setReservation || s.llReservationValid }
  if p.chainStore then
    s.move i { reserved with
      regs := p.loadRegs s.regs loadResult
      pending := p.chained loadResult
      state := .memTranslate }
  else
    s.retire i { reserved with
      regs := setPc (p.loadRegs s.regs loadResult) (p.nextPcAfterLoad loadResult)
      state := .fetchTranslate }

def cycleMemLoad : BasicCycle c :=
  if i.dBus.err then s.enterLockup i
  else if i.dBus.ack then
    if s.splitNeeded then
      s.move i { s with splitFirstData := i.dBus.datR, splitFirstCycle := true, state := .memLoadSplit }
    else s.finishLoad i (s.singleReadData i)
  else s.quiet i

def cycleMemLoadSplit : BasicCycle c :=
  if s.splitFirstCycle then s.move i { s with splitFirstCycle := false }
  else if i.dBus.err then s.enterLockup i
  else if i.dBus.ack then s.finishLoad i (s.combinedReadData i)
  else s.quiet i

/-- A store whose last beat is out. -/
def finishStore : BasicCycle c :=
  s.retire i { s with
    llReservationValid := s.llReservationValid && !s.storeOverlapsReservation
    regs := setPc (s.pending.storeRegs s.regs) s.pending.nextPcAfterStore
    state := .fetchTranslate }

def cycleMemStore : BasicCycle c :=
  if i.dBus.err then s.enterLockup i
  else if i.dBus.ack then
    if s.splitNeeded then s.move i { s with splitFirstCycle := true, state := .memStoreSplit }
    else s.finishStore i
  else s.quiet i

def cycleMemStoreSplit : BasicCycle c :=
  if s.splitFirstCycle then s.move i { s with splitFirstCycle := false }
  else if i.dBus.err then s.enterLockup i
  else if i.dBus.ack then s.finishStore i
  else s.quiet i

def cycleInterruptVectorTranslate : BasicCycle c :=
  if s.pagingEnabled && !c.enableMmu then s.enterLockup i
  else if !s.pagingEnabled then
    s.move i { s with interruptVectorPhys := s.interruptVectorTableAddr, state := .interruptVectorLoad }
  else if !isCanonical39 s.interruptVectorTableAddr then s.enterLockup i
  else if !rootAligned s.root then s.enterLockup i
  else if s.tlbHitOk then
    s.move i { s with interruptVectorPhys := s.tlbLookupPaddr, state := .interruptVectorLoad }
  else s.move i (s.startWalk s.interruptVectorTableAddr .read .interruptVectorLoad)

def cycleInterruptVectorLoad : BasicCycle c :=
  if i.dBus.err then s.enterLockup i
  else if i.dBus.ack then
    if i.dBus.datR = 0 then s.enterLockup i
    else
      { s.move i { s with regs := setPc s.regs i.dBus.datR, state := .fetchTranslate } with
        special := { s.softwareInputs i with
          coreInterruptEpcWrite := true
          coreInterruptEpcData := s.interruptEntryEpc
          coreInterruptEflagsWrite := true
          coreInterruptEflagsData := s.flags.setWidth 64 } }
  else s.quiet i

def cycleWalk : BasicCycle c :=
  if i.dBus.err then s.enterLockup i
  else if i.dBus.ack then
    s.move i { s with walk := { s.walk with pteLatched := i.dBus.datR }, state := .walkProcess }
  else s.quiet i

/-- A fault of a walk: the walk for a vector table locks the core up. -/
def walkFault (vector aux : Word) : BasicCycle c :=
  if s.walk.resumeState = .interruptVectorLoad then s.enterLockup i
  else s.raiseSyncTrap i vector s.pending.faultPc s.walk.virtualAddr (accessCode s.walk.access) aux

/-- A walk that found its page fills the lookaside buffer and goes back to where it was needed. -/
def walkResume : BasicCycle c :=
  { s.move i
      (if s.walk.resumeState = .fetch then { s with fetchPhysAddr := s.walkResultPhys, state := .fetch }
      else if s.walk.resumeState = .interruptVectorLoad then
        { s with interruptVectorPhys := s.walkResultPhys, state := .interruptVectorLoad }
      else { s with pending := { s.pending with addr := s.walkResultPhys }, state := s.walk.resumeState }) with
    fillValid := true }

def cycleWalkProcess : BasicCycle c :=
  let level := s.walk.level.setWidth 64
  if s.walkPte &&& PTE_V == 0 then s.walkFault i trapPageFaultNotPresent (encodeAux auxSubtypeNoValidPte level)
  else if decide (0 < s.walk.level) && s.walkIsLeaf then
    if !s.walkPermissionOk || !s.walkUserOk then
      s.walkFault i trapPageFaultPermission (encodeAux auxSubtypePermission level)
    else s.walkResume i
  else if s.walkReserved then s.walkFault i trapPageFaultReserved (encodeAux auxSubtypeReservedBit level)
  else if s.walk.level = 0 then
    if !s.walkIsLeaf then s.walkFault i trapPageFaultReserved (encodeAux auxSubtypeInvalidNonleaf 0)
    else if !s.walkPermissionOk || !s.walkUserOk then
      s.walkFault i trapPageFaultPermission (encodeAux auxSubtypePermission 0)
    else s.walkResume i
  else
    s.move i { s with
      walk := { s.walk with tableAddr := s.walkTableNext, level := s.walk.level - 1 }
      state := .walk }

def cycleHalted : BasicCycle c := s.move i { s with halted := s.halted || !s.lockedUp }

def cycle : BasicCycle c :=
  match s.state with
  | .reset => s.cycleReset i
  | .fetchTranslate => s.cycleFetchTranslate i
  | .fetch => s.cycleFetch i
  | .execute => s.cycleExecute i
  | .memTranslate => s.cycleMemTranslate i
  | .memLoad => s.cycleMemLoad i
  | .memStore => s.cycleMemStore i
  | .walk => s.cycleWalk i
  | .walkProcess => s.cycleWalkProcess i
  | .halted => s.cycleHalted i
  | .interruptVectorTranslate => s.cycleInterruptVectorTranslate i
  | .interruptVectorLoad => s.cycleInterruptVectorLoad i
  | .memLoadSplit => s.cycleMemLoadSplit i
  | .memStoreSplit => s.cycleMemStoreSplit i

def commitValid : Bool := (s.cycle i).commitValid

def step : BasicCore c :=
  { (s.cycle i).next with
    regs := fun r => if r = 0 then 0 else (s.cycle i).next.regs r
    specialRegs := s.specialRegs.step c.specialRegs (s.cycle i).special
    tlb := s.tlb.step (s.specialRegs.tlbFlush c.specialRegs (s.cycle i).special) (s.cycle i).fillValid s.tlbFill }

end Cycles

end BasicCore

end Little64.Hdl

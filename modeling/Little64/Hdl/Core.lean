import Little64.Hdl.DecodeStage
import Little64.Hdl.Frontend
import Little64.Hdl.LineCache
import Little64.Hdl.Lsu
import Little64.Hdl.PageWalk
import Little64.Hdl.SpecialRegisters
import Little64.Hdl.Tlb

/-! The V4 core: its latches, the combinational control signals and one clock cycle. Where several
synchronous statements assign a register, the last one wins; the conditionals below list them last first. -/

namespace Little64.Hdl

open Emulator (Reg)
open Emulator.Vectors

inductive CacheTopology
  | none
  | unified
  | split
  deriving DecidableEq, Repr

/-- The parameters of the core, and the predictor of its decode stage: the core builds it with the
backward-taken one, and the not-taken one fits its place. -/
structure CoreConfig where
  cacheTopology : CacheTopology
  enableMmu : Bool
  enableTlb : Bool
  tlbIndexBits : ℕ
  optionalPlatformRegisters : Bool
  irqInputCount : ℕ
  resetVector : Word
  busTimeoutCycles : ℕ
  predictor : PredictorPolicy

namespace CoreConfig

variable (c : CoreConfig)

/-- Sixteen cached instruction lines. -/
def frontend : FrontendConfig := ⟨64, 4, c.busTimeoutCycles⟩

def specialRegs : SpecialRegisterConfig := ⟨c.optionalPlatformRegisters, c.enableMmu⟩

def hasDcache : Bool := c.cacheTopology != .none

def uncached : CoreConfig := ⟨.none, true, true, 6, false, 1, 0, 0, .staticBackwardTaken⟩

end CoreConfig

structure CoreInputs (c : CoreConfig) where
  iBus : BusReply
  dBus : BusReply
  irqLines : BitVec c.irqInputCount
  bootR1 : Word
  bootR13 : Word

/-- An instruction bus that answers every request at once with one line, and a silent data bus. -/
def CoreInputs.endless (c : CoreConfig) (line bootR1 : Word) : CoreInputs c where
  iBus := ⟨true, false, line⟩
  dBus := ⟨false, false, 0⟩
  irqLines := 0
  bootR1 := bootR1
  bootR13 := 0

structure FetchDecodeReg where
  valid : Bool
  instruction : BitVec 16
  pc : Word
  postIncrementPc : Word
  deriving DecidableEq, Repr

structure DecodeExecuteReg where
  valid : Bool
  instruction : BitVec 16
  pc : Word
  postIncrementPc : Word
  operandA : Word
  operandB : Word
  flags : Flags
  predictedNextPc : Word
  deriving DecidableEq, Repr

structure MemoryReg where
  valid : Bool
  requestStarted : Bool
  virtualAddr : Word
  addr : Word
  physValid : Bool
  op : MemoryOp
  commitPc : Word
  faultPc : Word
  deriving DecidableEq, Repr

/-- The memory-result buffer between the memory stage and the retire latch. -/
structure MemoryResultReg where
  valid : Bool
  writes : RegWrites
  nextPc : Word
  commitNextPc : Word
  commitPc : Word
  flagsWrite : Bool
  flagsValue : Flags
  deriving DecidableEq, Repr

structure RetireReg where
  valid : Bool
  writes : RegWrites
  flagsWrite : Bool
  flagsValue : Flags
  cpuControlWrite : Bool
  cpuControlValue : Word
  nextPc : Word
  commit : Bool
  commitPc : Word
  halt : Bool
  lockup : Bool
  trap : Bool
  trapCause : Word
  deriving DecidableEq, Repr

structure FaultBundle where
  pending : Bool
  cause : Word
  pc : Word
  faultAddr : Word
  access : Word
  aux : Word
  deriving DecidableEq, Repr

structure VectorLoad where
  active : Bool
  started : Bool
  virtualAddr : Word
  addr : Word
  physValid : Bool
  epc : Word
  flags : Flags
  deriving DecidableEq, Repr

structure StoreBufferEntry where
  valid : Bool
  started : Bool
  addr : Word
  widthBytes : ℕ
  storeValue : Word
  deriving DecidableEq, Repr

structure FetchState where
  pc : Word
  physAddr : Word
  physValid : Bool
  translateVirtualAddr : Word
  translateAccess : AccessType
  deriving DecidableEq, Repr

structure Core (c : CoreConfig) where
  frontend : Frontend c.frontend
  lsu : Lsu
  dcache : LineCache 2
  specialRegs : SpecialRegisters
  tlb : Tlb c.tlbIndexBits 1 27
  regs : Reg → Word
  flags : Flags
  halted : Bool
  lockedUp : Bool
  resetPending : Bool
  fetch : FetchState
  fd : FetchDecodeReg
  de : DecodeExecuteReg
  xm : MemoryReg
  mr : MemoryResultReg
  retire : RetireReg
  pendingFault : FaultBundle
  vector : VectorLoad
  walk : PageWalk
  sb0 : StoreBufferEntry
  sb1 : StoreBufferEntry
  llReservationValid : Bool
  llReservationAddr : Word

def CPU_CONTROL_INT_ENABLE : Word := 1 <<< 0
def CPU_CONTROL_IN_INTERRUPT : Word := 1 <<< 1
def CPU_CONTROL_CUR_INT_SHIFT : ℕ := 2
def CPU_CONTROL_CUR_INT_MASK : Word := 0x7F <<< 2
def CPU_CONTROL_PAGING_ENABLE : Word := 1 <<< 16

/-- The number of an access kind in the trap registers. -/
def accessCode : AccessType → Word
  | .read => 0
  | .write => 1
  | .execute => 2

namespace MemoryOp

def clear (flags : Flags) : MemoryOp :=
  ⟨0, false, 0, false, 0, false, flags, false, 0, 0, false, 0, 0, 0, false, false, 0, false, 0⟩

end MemoryOp

def MemoryReg.clear (flags : Flags) : MemoryReg := ⟨false, false, 0, 0, false, .clear flags, 0, 0⟩

def RetireReg.clear (flags : Flags) (nextPc : Word) : RetireReg :=
  ⟨false, .none, false, flags, false, 0, nextPc, false, 0, false, false, false, 0⟩

def StoreBufferEntry.empty : StoreBufferEntry := ⟨false, false, 0, 0, 0⟩

namespace Core

variable {c : CoreConfig}

def reset (c : CoreConfig) : Core c where
  frontend := .reset c.frontend
  lsu := .reset
  dcache := .reset
  specialRegs := .reset
  tlb := .reset
  regs r := if r = 15 then c.resetVector else 0
  flags := 0
  halted := false
  lockedUp := false
  resetPending := true
  fetch := ⟨c.resetVector, c.resetVector, false, c.resetVector, .execute⟩
  fd := ⟨false, 0, 0, 0⟩
  de := ⟨false, 0, 0, 0, 0, 0, 0, 0⟩
  xm := .clear 0
  mr := ⟨false, .none, 0, 0, 0, false, 0⟩
  retire := .clear 0 0
  pendingFault := ⟨false, 0, 0, 0, 0, 0⟩
  vector := ⟨false, false, 0, 0, false, 0, 0⟩
  walk := ⟨false, false, false, 0, 0, 0, .read, .fetch, 0⟩
  sb0 := .empty
  sb1 := .empty
  llReservationValid := false
  llReservationAddr := 0

variable (s : Core c) (i : CoreInputs c)

section Control

def pagingEnabled : Bool := s.specialRegs.cpuControl &&& CPU_CONTROL_PAGING_ENABLE != 0
def userMode : Bool := s.specialRegs.cpuControl.getLsbD 17
def root : Word := s.specialRegs.pageTableRootPhysical

def memoryRedirect : Bool := s.mr.valid && s.mr.nextPc != s.mr.commitNextPc

def storebufAnyValid : Bool := s.sb0.valid || s.sb1.valid
def storebufDrainSb1 : Bool := !s.sb0.valid && s.sb1.valid
def storebufActive : StoreBufferEntry := if s.storebufDrainSb1 then s.sb1 else s.sb0

def lsuResponse : LsuResponse := s.lsu.response c.busTimeoutCycles i.dBus

end Control

section Execute

def executeInputs (specialWriteAccessFault : Bool) : ExecuteInputs where
  valid := s.de.valid
  instruction := s.de.instruction
  prePostIncrementPc := s.de.postIncrementPc
  operandA := s.de.operandA
  operandB := s.de.operandB
  flags := s.de.flags
  cpuControl := s.specialRegs.cpuControl
  interruptEpc := s.specialRegs.interruptEpc
  interruptEflags := s.specialRegs.interruptEflags
  interruptCpuControl := s.specialRegs.interruptCpuControl
  llReservationValid := s.llReservationValid
  llReservationAddr := s.llReservationAddr
  specialReadData := s.specialRegs.readData c.specialRegs (s.de.operandB.setWidth 16)
  specialReadAccessFault := s.specialRegs.readAccessFault (s.de.operandB.setWidth 16)
  specialWriteAccessFault := specialWriteAccessFault

/-- Whether the instruction starts a memory operation does not depend on the fault of a special write. -/
def memoryStart : Bool := (s.executeInputs false).outputs.memoryStart

def executeToRetire : Bool :=
  s.de.valid && !s.memoryStart && !s.xm.valid && !s.mr.valid && !s.memoryRedirect

def executeSpecialWriteCommit : Bool := (s.executeInputs false).specialWriteStb && s.executeToRetire

def specialWriteAccessFault : Bool :=
  s.specialRegs.userMode && !SpecialRegisters.userSelectorAllowed (s.executeInputs false).specialWriteSelector &&
    s.executeSpecialWriteCommit

/-- The outputs of the execute stage. -/
def execute : ExecuteOutputs := (s.executeInputs s.specialWriteAccessFault).outputs

def executeMispredict : Bool :=
  s.de.valid && !s.execute.halt && !s.execute.lockup && !s.execute.trap && !s.memoryRedirect &&
    s.execute.nextPc != s.de.predictedNextPc

def executeFlushYounger : Bool :=
  s.de.valid && (s.executeMispredict || s.execute.halt || s.execute.trap || s.execute.lockup)

def pendingExecuteLoad : PendingWrite :=
  ⟨s.de.valid && s.execute.memoryStart && !s.execute.memory.write && s.execute.memory.regWrite,
    s.execute.memory.regIndex⟩

def pendingMemoryLoad : PendingWrite := ⟨s.xm.valid && !s.xm.op.write && s.xm.op.regWrite, s.xm.op.regIndex⟩

end Execute

section StoreBuffer

/-- A buffered store that a load finds at its own address and at least as wide. -/
def loadFromEntry (entry : StoreBufferEntry) : Bool :=
  entry.valid && s.execute.memoryAddr == entry.addr && decide (s.execute.memory.widthBytes ≤ entry.widthBytes)

def storebufLoadFromSb1 : Bool := s.loadFromEntry s.sb1
def storebufLoadFromSb0 : Bool := s.loadFromEntry s.sb0
def storebufLoadMatch : Bool := s.storebufLoadFromSb1 || s.storebufLoadFromSb0

def storebufLoadValue : Word :=
  narrow s.execute.memory.widthBytes (if s.storebufLoadFromSb1 then s.sb1.storeValue else s.sb0.storeValue)

def executeToStorebuf : Bool :=
  s.de.valid && s.execute.memoryStart && s.execute.memory.write && !s.execute.memory.flagsWrite &&
    !s.execute.memory.regWrite && !s.execute.memory.postRegWrite && !s.execute.memory.chainStore &&
    !s.execute.memory.setReservation && !s.pagingEnabled && !s.walk.active && !s.vector.active && !s.sb1.valid &&
    !s.xm.valid && !s.mr.valid && !s.memoryRedirect

def executeToStorebufLoad : Bool :=
  s.de.valid && s.execute.memoryStart && !s.execute.memory.write && s.execute.memory.regWrite &&
    !s.execute.memory.postRegWrite && !s.execute.memory.chainStore && !s.pagingEnabled && s.storebufAnyValid &&
    s.storebufLoadMatch && !s.xm.valid && !s.mr.valid && !s.memoryRedirect

def executeToMemory : Bool :=
  s.de.valid && s.execute.memoryStart && !s.executeToStorebuf && !s.executeToStorebufLoad && !s.storebufAnyValid &&
    !s.xm.valid && !s.memoryRedirect

/-- The instruction in the execute slot moves on. -/
def executeLeaves : Bool :=
  s.executeToMemory || s.executeToStorebuf || s.executeToStorebufLoad || s.executeToRetire

def executeSlotAvailable : Bool := !s.de.valid || s.executeLeaves

def storebufRequestValid : Bool :=
  s.storebufAnyValid && !s.storebufActive.started && !s.walk.active && !s.vector.active

def storebufRequestStart : Bool := s.storebufRequestValid && s.lsu.requestReady
def storebufResponseValid : Bool := s.storebufAnyValid && s.storebufActive.started && (s.lsuResponse i).valid
def storebufResponseError : Bool := s.storebufResponseValid i && (s.lsuResponse i).error
def storebufPopSb1 : Bool := s.storebufResponseValid i && s.storebufDrainSb1

end StoreBuffer

section Memory

def memByteOffset : ℕ := (s.xm.addr.setWidth 3).toNat

def memBaseSel : BitVec 8 :=
  match s.xm.op.widthBytes with
  | 1 => 0x01
  | 2 => 0x03
  | 4 => 0x0F
  | 8 => 0xFF
  | _ => 0x00

def memShiftedSel : BitVec 8 := s.memBaseSel <<< s.memByteOffset
def memShiftedStoreData : Word := s.xm.op.storeValue <<< (s.memByteOffset * 8)
def memSingleLineAccess : Bool := decide (s.memByteOffset + s.xm.op.widthBytes ≤ 8)

def dcacheLookupHit : Bool := c.hasDcache && s.dcache.lookupHit s.xm.addr

def dcacheLoadResult : Word :=
  narrow s.xm.op.widthBytes
    ((if c.hasDcache then s.dcache.lookupData s.xm.addr else 0) >>> (s.memByteOffset * 8))

def dcacheCacheableLoad : Bool :=
  c.hasDcache && s.xm.valid && s.xm.physValid && !s.xm.op.write && !s.xm.requestStarted && s.memSingleLineAccess

def dcacheCacheableFill : Bool :=
  c.hasDcache && s.xm.valid && s.xm.physValid && !s.xm.op.write && s.xm.op.widthBytes == 8 && s.memByteOffset == 0

def cachedMemoryResponse : Bool := s.dcacheCacheableLoad && s.dcacheLookupHit

/-- The memory stage sees the entry once it is translated and not served by the data cache. -/
def memoryStageValid : Bool := s.xm.valid && s.xm.physValid && !s.cachedMemoryResponse

/-- The load/store unit answers the memory stage when nothing else owns it. -/
def memoryOwnsLsu : Bool := !s.vector.active && !s.walk.active && !s.storebufAnyValid

def memoryRequestValid : Bool := s.memoryStageValid && !s.xm.requestStarted
def memoryStartRequest : Bool := s.memoryRequestValid && (s.lsu.requestReady && s.memoryOwnsLsu)
def memoryComplete : Bool := s.memoryStageValid && ((s.lsuResponse i).valid && s.memoryOwnsLsu)
def memoryFinalResponse : Bool := s.memoryComplete i && !s.xm.op.chainStore

def memoryError : Bool :=
  s.xm.valid && !s.cachedMemoryResponse && s.memoryComplete i && (s.lsuResponse i).error

def memoryToRetire : Bool :=
  s.xm.valid && ((s.cachedMemoryResponse && !s.xm.op.chainStore) ||
    (s.memoryFinalResponse i && !(s.lsuResponse i).error))

def memoryChainContinue : Bool :=
  s.xm.valid && ((s.cachedMemoryResponse && s.xm.op.chainStore) ||
    (!s.cachedMemoryResponse && (s.memoryComplete i && s.xm.op.chainStore && !(s.lsuResponse i).error)))

/-- The value loaded: from the data cache or from the bus. -/
def memoryLoadValue : Word := if s.cachedMemoryResponse then s.dcacheLoadResult else (s.lsuResponse i).loadValue

def memoryResult : MemoryResult := s.xm.op.result (s.memoryLoadValue i)

def chainContinueStoreValue : Word := s.xm.op.nextChainStoreValue (s.memoryLoadValue i)

def reservationEnd : Word := s.llReservationAddr + 7
def writeEnd : Word := s.xm.virtualAddr + BitVec.ofNat 64 s.xm.op.widthBytes - 1

def storeOverlapsReservation : Bool :=
  s.llReservationValid && s.memoryToRetire i && s.xm.op.write && s.xm.op.widthBytes != 0 &&
    decide (s.xm.virtualAddr ≤ s.reservationEnd) && decide (s.llReservationAddr ≤ s.writeEnd)

/-- A memory operation that went to the bus ends in this cycle. -/
def busOperationRetires : Bool := !s.resetPending && s.memoryToRetire i && !s.cachedMemoryResponse

def lineMatch : Bool := s.frontend.lineValid && s.xm.addr &&& 0xFFFFFFFFFFFFFFF8 == s.frontend.lineBase

def frontendLineUpdateValid : Bool :=
  s.busOperationRetires i && s.xm.op.write && s.lineMatch && (c.cacheTopology == .unified && s.memSingleLineAccess)

def frontendStoreInvalidate : Bool :=
  s.busOperationRetires i && s.xm.op.write && s.lineMatch && !(c.cacheTopology == .unified && s.memSingleLineAccess)

def unifiedLineUpdateValue : Word :=
  LineCache.mergeBytes s.memShiftedSel s.memShiftedStoreData s.frontend.lineData

def dcacheInputs : LineCacheInputs where
  fillValid := s.busOperationRetires i && s.dcacheCacheableFill
  fillAddr := s.xm.addr
  fillData := (s.lsuResponse i).loadValue
  flushAll := s.busOperationRetires i && s.xm.op.write && !s.memSingleLineAccess && c.hasDcache
  invalidateValid := s.busOperationRetires i && s.xm.op.write && !s.memSingleLineAccess && c.hasDcache
  invalidateAddr := s.xm.addr
  storeUpdateValid := s.busOperationRetires i && s.xm.op.write && s.memSingleLineAccess && c.hasDcache
  storeUpdateAddr := s.xm.addr
  storeUpdateSel := s.memShiftedSel
  storeUpdateData := s.memShiftedStoreData

end Memory

section Decode

def decodeInputs : DecodeInputs where
  policy := c.predictor
  instruction := s.fd.instruction
  pc := s.fd.pc
  postIncrementPc := s.fd.postIncrementPc
  regs := s.regs
  flags := s.flags
  executeValid := s.de.valid && !s.execute.memoryStart
  executeRegWrite := s.execute.regWrite
  executeRegIndex := s.execute.regIndex
  executeRegValue := s.execute.regValue
  executeFlagsWrite := s.execute.flagsWrite
  executeFlagsValue := s.execute.flagsValue
  memoryFinalValid := s.mr.valid
  memoryFinalWrites := s.mr.writes
  memoryFinalFlagsWrite := s.mr.flagsWrite
  memoryFinalFlagsValue := s.mr.flagsValue
  retireValid := s.retire.valid
  retireWrites := s.retire.writes
  retireFlagsWrite := s.retire.flagsWrite
  retireFlagsValue := s.retire.flagsValue
  pendingLoadExecute := s.pendingExecuteLoad
  pendingLoadMemory := s.pendingMemoryLoad
  pendingWriteExecute :=
    ⟨s.de.valid && s.execute.memoryStart && s.execute.memory.postRegWrite, s.execute.memory.postRegIndex⟩
  pendingWriteMemory := ⟨s.xm.valid && s.xm.op.postRegWrite, s.xm.op.postRegIndex⟩

def decodeAdvance : Bool :=
  s.fd.valid && s.executeSlotAvailable && !s.decodeInputs.loadUseHazard && !s.executeFlushYounger &&
    !s.memoryRedirect

def predictRedirectActive : Bool := s.fd.valid && s.decodeInputs.predictRedirect && s.decodeAdvance

end Decode

section Translation

def tlbHit : Bool := c.enableTlb && s.tlb.lookupHit s.fetch.translateVirtualAddr
def tlbPaddr : Word := if c.enableTlb then s.tlb.lookupPaddr s.fetch.translateVirtualAddr else 0

def tlbPermOk : Bool :=
  c.enableTlb &&
    match s.fetch.translateAccess with
    | .execute => (s.tlb.lookupEntry s.fetch.translateVirtualAddr).permExecute
    | .write => (s.tlb.lookupEntry s.fetch.translateVirtualAddr).permWrite
    | .read => (s.tlb.lookupEntry s.fetch.translateVirtualAddr).permRead

def tlbPermUser : Bool := c.enableTlb && (s.tlb.lookupEntry s.fetch.translateVirtualAddr).permUser

def tlbHitOk : Bool := s.tlbHit && s.tlbPermOk && (!s.userMode || s.tlbPermUser)

/-- An address that the TLB may translate: canonical, under an aligned root. -/
def translatable (virtualAddr : Word) : Bool := isCanonical39 virtualAddr && rootAligned s.root

def translatedPhys (virtualAddr : Word) : Word := if s.pagingEnabled then s.tlbPaddr else virtualAddr

def memoryTranslateReady : Bool :=
  s.xm.valid && !s.xm.physValid && !s.walk.active && !s.vector.active && !s.storebufAnyValid &&
    !s.pendingFault.pending

def memoryTranslateComplete : Bool :=
  s.memoryTranslateReady && (!s.pagingEnabled || (s.translatable s.xm.virtualAddr && s.tlbHitOk))

def memoryFaultRaised : Bool :=
  s.memoryTranslateReady && s.pagingEnabled && (memoryFault s.root s.xm.virtualAddr).isSome

def vectorTranslateReady : Bool :=
  s.vector.active && !s.vector.physValid && !s.walk.active && !s.storebufAnyValid && !s.pendingFault.pending

def vectorTranslateComplete : Bool :=
  s.vectorTranslateReady && (!s.pagingEnabled || (s.translatable s.vector.virtualAddr && s.tlbHitOk))

def vectorTranslateLockup : Bool :=
  s.vectorTranslateReady && s.pagingEnabled && (memoryFault s.root s.vector.virtualAddr).isSome

def fetchTranslateReady : Bool :=
  !s.fetch.physValid && !s.walk.active && !s.storebufAnyValid && !s.fd.valid && !s.de.valid && !s.xm.valid &&
    !s.retire.valid && !s.vector.active && !s.pendingFault.pending

def fetchTranslateComplete : Bool :=
  s.fetchTranslateReady && !s.fetch.translateVirtualAddr.getLsbD 0 &&
    (!s.pagingEnabled || (s.translatable s.fetch.translateVirtualAddr && s.tlbHitOk))

def fetchFaultRaised : Bool :=
  s.fetchTranslateReady && (fetchFault s.pagingEnabled s.root s.fetch.translateVirtualAddr).isSome

def walkInputs : WalkInputs :=
  ⟨s.lsu.requestReady, (s.lsuResponse i).valid, (s.lsuResponse i).error, (s.lsuResponse i).loadValue⟩

def walkResponseError : Bool := s.walk.responseError (s.walkInputs i)
def walkFault : Bool := s.walk.fault s.userMode
def walkLeafSuccess : Bool := s.walk.leafSuccess s.userMode
def walkFaultTrap : Bool := s.walkFault && s.walk.resumeKind != .vector
def walkFaultLockup : Bool := s.walkFault && s.walk.resumeKind == .vector

def vectorWalkStart : Bool :=
  s.vectorTranslateReady && s.pagingEnabled && !s.vectorTranslateLockup && !s.vectorTranslateComplete

def memoryWalkStart : Bool :=
  s.memoryTranslateReady && s.pagingEnabled && !s.memoryFaultRaised && !s.memoryTranslateComplete

def fetchWalkStart : Bool :=
  s.fetchTranslateReady && s.pagingEnabled && !s.fetchFaultRaised && !s.fetchTranslateComplete

end Translation

section Traps

def irqLinePendingMask : Word := i.irqLines.setWidth 64 <<< 1
def pendingIrqHigh : Word := s.specialRegs.interruptStatesHigh ||| irqLinePendingMask i

/-- The lowest pending and unmasked line. -/
def pendingIrq : Option ℕ :=
  ((List.range c.irqInputCount).map (· + 1)).find? fun bitIndex =>
    (s.pendingIrqHigh i &&& s.specialRegs.interruptMaskHigh).getLsbD bitIndex

def pendingIrqVector : Word :=
  match s.pendingIrq i with
  | some bitIndex => BitVec.ofNat 64 (64 + bitIndex)
  | none => 0

def currentInterruptVector : Word :=
  (s.specialRegs.cpuControl &&& CPU_CONTROL_CUR_INT_MASK) >>> CPU_CONTROL_CUR_INT_SHIFT

def inInterrupt : Bool := s.specialRegs.cpuControl.getLsbD 1

def canPreemptPendingIrq : Bool :=
  !s.inInterrupt || s.currentInterruptVector == 0 || decide (s.pendingIrqVector i < s.currentInterruptVector)

def retireTrap : Bool := s.retire.valid && s.retire.trap
def retireHalt : Bool := s.retire.valid && s.retire.halt
def retireLockup : Bool := s.retire.valid && s.retire.lockup
def retireCommit : Bool := s.retire.valid && s.retire.commit

/-- The trap request of this cycle, by priority: retire, fetch, memory, walk. -/
def trapRequestNext : FaultBundle :=
  let va := s.fetch.translateVirtualAddr
  let record := fun (r : Option FaultRecord) => r.getD ⟨0, 0⟩
  { pending := s.retireTrap || s.fetchFaultRaised || s.memoryFaultRaised || s.walkFaultTrap
    cause :=
      if s.retireTrap then s.retire.trapCause
      else if s.fetchFaultRaised then (record (fetchFault s.pagingEnabled s.root va)).cause
      else if s.memoryFaultRaised then (record (memoryFault s.root s.xm.virtualAddr)).cause
      else s.walk.faultCause
    pc :=
      if s.retireTrap then s.retire.commitPc
      else if s.fetchFaultRaised then va
      else if s.memoryFaultRaised then s.xm.faultPc
      else if s.walk.resumeKind = .memory then s.xm.faultPc
      else s.walk.virtualAddr
    faultAddr :=
      if s.fetchFaultRaised then va
      else if s.memoryFaultRaised then s.xm.virtualAddr
      else if s.walkFaultTrap then s.walk.virtualAddr
      else 0
    access :=
      if s.fetchFaultRaised then accessCode .execute
      else if s.memoryFaultRaised then accessCode (if s.xm.op.write then .write else .read)
      else if s.walkFaultTrap then accessCode s.walk.access
      else 0
    aux :=
      if s.fetchFaultRaised then (record (fetchFault s.pagingEnabled s.root va)).aux
      else if s.memoryFaultRaised then (record (memoryFault s.root s.xm.virtualAddr)).aux
      else if s.walkFaultTrap then s.walk.faultAux
      else 0 }

def trapPreemptLockup : Bool :=
  s.pendingFault.pending && s.inInterrupt && s.currentInterruptVector != 0 &&
    decide (s.currentInterruptVector < irqVectorBase) && decide (s.currentInterruptVector ≤ s.pendingFault.cause)

def trapStart : Bool := s.pendingFault.pending && !s.trapPreemptLockup && !s.vector.active

def irqStart : Bool :=
  !s.pendingFault.pending && !s.trapRequestNext.pending && !s.vector.active && !s.walk.active &&
    !s.storebufAnyValid && !s.fd.valid && !s.de.valid && !s.xm.valid && !s.mr.valid && !s.retire.valid &&
    (s.pendingIrq i).isSome && s.specialRegs.cpuControl.getLsbD 0 && s.canPreemptPendingIrq i

def entryStart : Bool := s.trapStart || s.irqStart i
def entryVector : Word := if s.trapStart then s.pendingFault.cause else s.pendingIrqVector i
def entryEpc : Word := if s.trapStart then s.pendingFault.pc else s.fetch.pc

def trapCpuControlValue : Word :=
  (s.specialRegs.cpuControl &&& ~~~(CPU_CONTROL_INT_ENABLE ||| CPU_CONTROL_IN_INTERRUPT |||
      CPU_CONTROL_CUR_INT_MASK ||| CPU_CONTROL_USER_MODE)) |||
    CPU_CONTROL_IN_INTERRUPT ||| (s.entryVector i <<< CPU_CONTROL_CUR_INT_SHIFT)

def entryVectorAddr : Word := s.specialRegs.interruptTableBase + (s.entryVector i <<< 3)

def vectorRequestValid : Bool := s.vector.active && s.vector.physValid && !s.vector.started
def vectorRequestStart : Bool := s.vectorRequestValid && s.lsu.requestReady
def vectorResponseValid : Bool := s.vector.active && s.vector.physValid && (s.lsuResponse i).valid
def vectorResponseError : Bool := s.vectorResponseValid i && (s.lsuResponse i).error
def vectorHandlerPc : Word := (s.lsuResponse i).loadValue

/-- The vector load ends with a handler. -/
def vectorEnters : Bool := s.vectorResponseValid i && !s.vectorResponseError i && s.vectorHandlerPc i != 0

/-- The vector load ends without one. -/
def vectorFails : Bool := s.vectorResponseValid i && (s.vectorResponseError i || s.vectorHandlerPc i == 0)

def pagingWithoutMmu : Bool := !c.enableMmu && s.pagingEnabled

end Traps

section Fetch

def frontendInputs : FrontendInputs where
  pc := s.fetch.physAddr
  invalidate :=
    s.executeFlushYounger || s.memoryRedirect || s.trapStart || s.irqStart i || !s.fetch.physValid ||
      (s.walk.active && s.walk.resumeKind == .fetch) || s.frontendStoreInvalidate i
  updateLineValid := s.frontendLineUpdateValid i
  updateLineData := s.unifiedLineUpdateValue
  ack := i.iBus.ack
  err := i.iBus.err
  datR := i.iBus.datR

def fetchError : Bool := s.frontend.fetchError (s.frontendInputs i) && !s.executeFlushYounger

def nextFetchPc : Word := s.fetch.pc + 2

def fetchAccept : Bool :=
  s.fetch.physValid && s.frontend.instructionValid (s.frontendInputs i) && !s.executeFlushYounger &&
    !s.memoryRedirect && !s.vector.active && !s.trapStart && !s.predictRedirectActive &&
    (!s.fd.valid || s.decodeAdvance)

/-- A bus error or paging without its hardware: everything stops. -/
def busLockup : Bool :=
  s.fetchError i || s.pagingWithoutMmu || s.memoryError i || s.storebufResponseError i

/-- The pipeline latches are emptied in this cycle. -/
def clearPipeline : Bool :=
  s.entryStart i || s.vectorFails i || s.walkResponseError i || s.vectorTranslateLockup || s.walkFaultLockup ||
    s.trapPreemptLockup || s.busLockup i || s.retireHalt || s.retireLockup || s.halted || s.lockedUp

end Fetch

section Bus

def lsuRequest : LsuRequest :=
  if s.walk.active then ⟨s.walk.requestValid, s.walk.pteAddr, 8, false, 0⟩
  else if s.vector.active && s.vector.physValid then ⟨s.vectorRequestValid, s.vector.addr, 8, false, 0⟩
  else if s.storebufAnyValid then
    ⟨s.storebufRequestValid, s.storebufActive.addr, s.storebufActive.widthBytes, true, s.storebufActive.storeValue⟩
  else ⟨s.memoryRequestValid, s.xm.addr, s.xm.op.widthBytes, s.xm.op.write, s.xm.op.storeValue⟩

def specialRegisterInputs : SpecialRegisterInputs where
  writeStb := s.executeSpecialWriteCommit
  writeSelector := (s.executeInputs false).specialWriteSelector
  writeData := (s.executeInputs false).specialWriteData
  coreCpuControlWrite := (s.retire.valid && s.retire.cpuControlWrite) || s.entryStart i
  coreCpuControlData := if s.entryStart i then s.trapCpuControlValue i else s.retire.cpuControlValue
  coreInterruptCpuControlWrite := s.entryStart i
  coreInterruptCpuControlData := s.specialRegs.cpuControl
  coreInterruptEpcWrite := s.vectorEnters i
  coreInterruptEpcData := s.vector.epc
  coreInterruptEflagsWrite := s.vectorEnters i
  coreInterruptEflagsData := s.vector.flags.setWidth 64
  coreTrapWrite := s.resetPending || s.pendingFault.pending
  coreTrapCauseData :=
    if s.resetPending then 0
    else if s.specialRegs.trapCause = 0 then s.pendingFault.cause else s.specialRegs.trapCause
  coreTrapFaultAddrData := s.pendingFault.faultAddr
  coreTrapAccessData := s.pendingFault.access
  coreTrapPcData := if s.resetPending then 0 else s.pendingFault.pc
  coreTrapAuxData := s.pendingFault.aux
  interruptStatesHighSet :=
    if s.executeSpecialWriteCommit ∧
        SpecialRegisters.selected (s.executeInputs false).specialWriteSelector = some .interruptStatesHigh then 0
    else irqLinePendingMask i

def tlbFill : TlbFill 27 where
  vpage := s.walk.virtualAddr.extractLsb' 12 27
  ppage := s.walk.resultPhys.extractLsb' 12 27
  permRead := s.walk.pteLatched &&& PTE_R != 0
  permWrite := s.walk.pteLatched &&& PTE_W != 0
  permExecute := s.walk.pteLatched &&& PTE_X != 0
  permUser := s.walk.pteLatched &&& PTE_U != 0

end Bus

section Next

def nextRegs : Reg → Word :=
  let written := if s.retire.valid then s.retire.writes.apply s.regs else s.regs
  fun r =>
    if r = 0 then if s.regs 0 ≠ 0 then 0 else written 0
    else if r = 15 then
      if s.vectorEnters i then s.vectorHandlerPc i
      else if s.retireCommit || s.retireHalt then s.retire.nextPc
      else written 15
    else written r

def nextFlags : Flags := if s.retire.valid && s.retire.flagsWrite then s.retire.flagsValue else s.flags

def nextFetch : FetchState where
  pc :=
    if s.vectorEnters i then s.vectorHandlerPc i
    else if s.executeMispredict || s.trapStart || s.irqStart i then s.execute.nextPc
    else if s.memoryRedirect then s.mr.nextPc
    else if s.predictRedirectActive then s.decodeInputs.predictedNextPc
    else if s.fetchAccept i then s.nextFetchPc
    else s.fetch.pc
  physAddr :=
    let steered := fun (target : Word) => if s.pagingEnabled then s.fetch.physAddr else target
    if s.vectorEnters i then steered (s.vectorHandlerPc i)
    else if s.walkLeafSuccess && s.walk.resumeKind == .fetch then s.walk.resultPhys
    else if s.fetchTranslateComplete then s.translatedPhys s.fetch.translateVirtualAddr
    else if s.executeMispredict || s.trapStart || s.irqStart i then steered s.execute.nextPc
    else if s.memoryRedirect then steered s.mr.nextPc
    else if s.predictRedirectActive then steered s.decodeInputs.predictedNextPc
    else if s.fetchAccept i then steered s.nextFetchPc
    else s.fetch.physAddr
  physValid :=
    if s.vectorEnters i then !s.pagingEnabled
    else if (s.walkLeafSuccess && s.walk.resumeKind == .fetch) || s.fetchTranslateComplete then true
    else if s.executeMispredict || s.trapStart || s.irqStart i || s.memoryRedirect || s.predictRedirectActive ||
        s.fetchAccept i then !s.pagingEnabled
    else s.fetch.physValid
  translateVirtualAddr :=
    if s.entryStart i then s.entryVectorAddr i
    else if s.vectorEnters i then s.vectorHandlerPc i
    else if s.executeMispredict || s.trapStart || s.irqStart i then s.execute.nextPc
    else if s.memoryRedirect then s.mr.nextPc
    else if s.predictRedirectActive then s.decodeInputs.predictedNextPc
    else if s.fetchAccept i then s.nextFetchPc
    else if s.memoryChainContinue i then s.xm.op.chainStoreAddr
    else if s.memoryToRetire i || s.memoryError i then s.fetch.pc
    else if s.executeToMemory then s.execute.memoryAddr
    else s.fetch.translateVirtualAddr
  translateAccess :=
    if s.entryStart i then .read
    else if s.vectorEnters i || s.executeMispredict || s.trapStart || s.irqStart i || s.memoryRedirect ||
        s.predictRedirectActive || s.fetchAccept i then .execute
    else if s.memoryChainContinue i then .write
    else if s.memoryToRetire i || s.memoryError i then .execute
    else if s.executeToMemory then if s.execute.memory.write then .write else .read
    else s.fetch.translateAccess

def nextFd : FetchDecodeReg :=
  let latched :=
    if s.executeFlushYounger then { s.fd with valid := false }
    else if s.fetchAccept i then
      ⟨true, s.frontend.instructionWord (s.frontendInputs i), s.fetch.pc, s.nextFetchPc⟩
    else { s.fd with valid := s.fd.valid && !s.decodeAdvance && !s.memoryRedirect }
  { latched with valid := latched.valid && !s.clearPipeline i }

def nextDe : DecodeExecuteReg :=
  let latched :=
    if s.decodeAdvance then
      { valid := true
        instruction := s.fd.instruction
        pc := s.fd.pc
        postIncrementPc := s.fd.postIncrementPc
        operandA := s.decodeInputs.operandA
        operandB := s.decodeInputs.operandB
        flags := s.decodeInputs.operandFlags
        predictedNextPc := s.decodeInputs.predictedNextPc }
    else { s.de with valid := s.de.valid && !s.executeLeaves && !s.memoryRedirect }
  { latched with valid := latched.valid && !s.clearPipeline i }

/-- The second access of an operation takes the place of the first. -/
def chainedXm (xm : MemoryReg) : MemoryReg :=
  { xm with
    requestStarted := false
    virtualAddr := s.xm.op.chainStoreAddr
    addr := s.xm.op.chainStoreAddr
    physValid := !s.pagingEnabled
    op := { xm.op with
      widthBytes := 8
      write := true
      storeValue := s.chainContinueStoreValue i
      regWrite := false
      regIndex := 0
      chainStore := false
      chainStoreAddr := 0
      chainStoreUseLoadResult := false
      chainStoreValue := 0
      flagsWrite := false
      flagsValue := s.flags
      setReservation := false
      reservationAddr := 0 } }

/-- The memory latch as the pipeline leaves it, before a translation that completes. -/
def managedXm : MemoryReg :=
  let redirected := if s.memoryRedirect then .clear s.flags else s.xm
  if s.memoryChainContinue i then s.chainedXm i redirected
  else if s.memoryToRetire i || s.memoryError i then .clear s.flags
  else if s.executeToMemory then
    { valid := true
      requestStarted := false
      virtualAddr := s.execute.memoryAddr
      addr := s.execute.memoryAddr
      physValid := !s.pagingEnabled
      op := s.execute.memory
      commitPc := s.de.pc
      faultPc := s.de.pc }
  else { redirected with requestStarted := redirected.requestStarted || (s.xm.valid && s.memoryStartRequest) }

def nextXm : MemoryReg :=
  let managed := s.managedXm i
  let walked := s.walkLeafSuccess && s.walk.resumeKind == .memory
  { managed with
    valid := managed.valid && !s.clearPipeline i
    requestStarted := managed.requestStarted && !s.clearPipeline i
    addr :=
      if walked then s.walk.resultPhys
      else if s.memoryTranslateComplete then s.translatedPhys s.xm.virtualAddr
      else managed.addr
    physValid := managed.physValid || walked || s.memoryTranslateComplete }

def nextMr : MemoryResultReg :=
  let latched :=
    if s.memoryToRetire i then
      { valid := true
        writes := (s.memoryResult i).writes
        nextPc := (s.memoryResult i).nextPc
        commitNextPc := s.xm.op.nextPc
        commitPc := s.xm.commitPc
        flagsWrite := s.xm.op.flagsWrite
        flagsValue := s.xm.op.flagsValue }
    else { s.mr with valid := false }
  { latched with valid := latched.valid && !s.clearPipeline i }

/-- The retire entry of a store or a load that the store buffer takes or serves. -/
def storebufRetire (writes : RegWrites) : RetireReg where
  valid := s.de.valid
  writes := writes
  flagsWrite := s.execute.memory.flagsWrite
  flagsValue := s.execute.memory.flagsValue
  cpuControlWrite := false
  cpuControlValue := 0
  nextPc := s.execute.memory.nextPc
  commit := true
  commitPc := s.de.pc
  halt := false
  lockup := false
  trap := false
  trapCause := 0

def nextRetire : RetireReg :=
  let cleared := RetireReg.clear s.flags (s.regs 15)
  let latched :=
    if s.vectorEnters i then cleared
    else if s.executeToStorebuf then s.storebufRetire .none
    else if s.executeToStorebufLoad then
      s.storebufRetire ⟨s.execute.memory.regWrite, s.execute.memory.regIndex, s.storebufLoadValue, false, 0, 0⟩
    else if s.executeToRetire then
      { valid := s.de.valid
        writes := ⟨s.execute.regWrite, s.execute.regIndex, s.execute.regValue, false, 0, 0⟩
        flagsWrite := s.execute.flagsWrite
        flagsValue := s.execute.flagsValue
        cpuControlWrite := s.execute.cpuControlWrite
        cpuControlValue := s.execute.cpuControlValue
        nextPc := s.execute.nextPc
        commit := !s.execute.halt && !s.execute.lockup && !s.execute.trap
        commitPc := s.de.pc
        halt := s.execute.halt
        lockup := s.execute.lockup
        trap := s.execute.trap
        trapCause := s.execute.trapCause }
    else if s.mr.valid then
      { valid := true
        writes := s.mr.writes
        flagsWrite := s.mr.flagsWrite
        flagsValue := s.mr.flagsValue
        cpuControlWrite := false
        cpuControlValue := 0
        nextPc := s.mr.nextPc
        commit := true
        commitPc := s.mr.commitPc
        halt := false
        lockup := false
        trap := false
        trapCause := 0 }
    else cleared
  { latched with valid := latched.valid && !s.clearPipeline i }

/-- A store taken from the execute stage fills the first free entry. -/
def enqueuedStorebuf : StoreBufferEntry × StoreBufferEntry :=
  let entry : StoreBufferEntry :=
    ⟨true, false, s.execute.memoryAddr, s.execute.memory.widthBytes, s.execute.memory.storeValue⟩
  (if s.executeToStorebuf && !s.sb0.valid then entry else s.sb0,
    if s.executeToStorebuf && s.sb0.valid then entry else s.sb1)

/-- The oldest entry goes to the load/store unit. -/
def startedStorebuf : StoreBufferEntry × StoreBufferEntry :=
  let sb := s.enqueuedStorebuf
  ({ sb.1 with started := sb.1.started || (s.storebufRequestStart && !s.storebufDrainSb1) },
    { sb.2 with started := sb.2.started || (s.storebufRequestStart && s.storebufDrainSb1) })

/-- The response frees the oldest entry, and the other one moves up. -/
def poppedStorebuf : StoreBufferEntry × StoreBufferEntry :=
  let sb := s.startedStorebuf
  if s.storebufResponseValid i then
    if s.storebufPopSb1 i then (sb.1, { sb.2 with valid := false, started := false })
    else if s.sb1.valid then (s.sb1, { sb.2 with valid := false, started := false })
    else ({ sb.1 with valid := false, started := false }, sb.2)
  else sb

/-- A bus lockup drops both entries. -/
def nextStorebuf : StoreBufferEntry × StoreBufferEntry :=
  let sb := s.poppedStorebuf i
  ({ sb.1 with valid := sb.1.valid && !s.busLockup i, started := sb.1.started && !s.busLockup i },
    { sb.2 with valid := sb.2.valid && !s.busLockup i, started := sb.2.started && !s.busLockup i })

def nextVector : VectorLoad :=
  if s.vectorTranslateLockup || s.walkFaultLockup || s.vectorFails i then ⟨false, false, 0, 0, false, 0, 0⟩
  else if s.entryStart i then
    { active := true
      started := false
      virtualAddr := s.entryVectorAddr i
      addr := s.entryVectorAddr i
      physValid := !s.pagingEnabled
      epc := s.entryEpc
      flags := s.flags }
  else if s.vectorEnters i then
    { s.vector with active := false, started := false, virtualAddr := 0, addr := 0, physValid := false }
  else
    let v := { s.vector with started := s.vector.started || s.vectorRequestStart }
    if s.walkLeafSuccess && s.walk.resumeKind == .vector then { v with addr := s.walk.resultPhys, physValid := true }
    else if s.vectorTranslateComplete then
      { v with addr := s.translatedPhys s.vector.virtualAddr, physValid := true }
    else v

def abandonsWalk : Bool :=
  s.entryStart i || s.walkResponseError i || s.vectorTranslateLockup || s.walkFaultLockup || s.trapPreemptLockup ||
    s.busLockup i

/-- A walk starts only while none is active; otherwise the one under way takes a step. -/
def managedWalk : PageWalk :=
  if s.fetchWalkStart then .start s.fetch.translateVirtualAddr s.root .execute .fetch
  else if s.memoryWalkStart then .start s.xm.virtualAddr s.root (if s.xm.op.write then .write else .read) .memory
  else if s.vectorWalkStart then .start s.vector.virtualAddr s.root .read .vector
  else s.walk.step s.userMode (s.walkInputs i)

def nextWalk : PageWalk :=
  let w := s.managedWalk i
  { w with
    active := w.active && !s.abandonsWalk i
    processing := w.processing && !s.abandonsWalk i
    started := w.started && !s.abandonsWalk i }

def nextLlReservationValid : Bool :=
  if s.storeOverlapsReservation i then false
  else if s.memoryToRetire i && s.xm.op.setReservation then true
  else if s.executeToRetire && s.execute.clearReservation then false
  else s.llReservationValid

def locksUp : Bool :=
  s.retireLockup || s.vectorFails i || s.walkResponseError i || s.vectorTranslateLockup || s.walkFaultLockup ||
    s.trapPreemptLockup || s.busLockup i

def nextPendingFault : FaultBundle :=
  if s.entryStart i then { s.pendingFault with pending := false } else s.trapRequestNext

/-- The submodules run in every cycle. -/
def stepSubmodules : Core c :=
  { s with
    frontend := s.frontend.step (s.frontendInputs i)
    lsu := s.lsu.step c.busTimeoutCycles i.dBus s.lsuRequest
    dcache := s.dcache.step (s.dcacheInputs i)
    specialRegs := s.specialRegs.step c.specialRegs (s.specialRegisterInputs i)
    tlb := s.tlb.step (s.specialRegs.tlbFlush c.specialRegs (s.specialRegisterInputs i)) s.walkLeafSuccess s.tlbFill
    pendingFault := s.nextPendingFault i }

def step : Core c :=
  if s.resetPending then
    { s.stepSubmodules i with
      regs := fun r => if r = 1 then i.bootR1 else if r = 13 then i.bootR13 else s.regs r
      resetPending := false }
  else
    { s.stepSubmodules i with
      regs := s.nextRegs i
      flags := s.nextFlags
      halted := s.halted || s.retireHalt
      lockedUp := s.lockedUp || s.locksUp i
      fetch := s.nextFetch i
      fd := s.nextFd i
      de := s.nextDe i
      xm := s.nextXm i
      mr := s.nextMr i
      retire := s.nextRetire i
      vector := s.nextVector i
      walk := s.nextWalk i
      sb0 := (s.nextStorebuf i).1
      sb1 := (s.nextStorebuf i).2
      llReservationValid := s.nextLlReservationValid i
      llReservationAddr :=
        if s.memoryToRetire i && s.xm.op.setReservation then s.xm.op.reservationAddr else s.llReservationAddr }

end Next

end Core

end Little64.Hdl

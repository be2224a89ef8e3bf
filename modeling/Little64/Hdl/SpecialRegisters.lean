import Little64.Emulator.Registers

/-! The special-register file of the V3 and V4 cores: software access by selector and the writes
of the core itself. -/

namespace Little64.Hdl

open Emulator (SpecialRegister)

def CPU_CONTROL_WRITABLE_MASK : Word := 0x301FF

/-- The options of the core that the register file and the paging logic read. -/
structure SpecialRegisterConfig where
  optionalPlatformRegisters : Bool
  enableMmu : Bool
  deriving DecidableEq, Repr

structure SpecialRegisters where
  cpuControl : Word
  pageTableRootPhysical : Word
  bootInfoFramePhysical : Word
  bootSourcePageSize : Word
  bootSourcePageCount : Word
  hypercallCaps : Word
  interruptTableBase : Word
  interruptMask : Word
  interruptMaskHigh : Word
  interruptStates : Word
  interruptStatesHigh : Word
  interruptEpc : Word
  interruptEflags : Word
  interruptCpuControl : Word
  trapCause : Word
  trapFaultAddr : Word
  trapAccess : Word
  trapPc : Word
  trapAux : Word
  threadPointer : Word
  deriving DecidableEq, Repr

/-- The writes that the core and an `SSR` make in one cycle. -/
structure SpecialRegisterInputs where
  writeStb : Bool
  writeSelector : BitVec 16
  writeData : Word
  coreCpuControlWrite : Bool
  coreCpuControlData : Word
  coreInterruptCpuControlWrite : Bool
  coreInterruptCpuControlData : Word
  coreInterruptEpcWrite : Bool
  coreInterruptEpcData : Word
  coreInterruptEflagsWrite : Bool
  coreInterruptEflagsData : Word
  coreTrapWrite : Bool
  coreTrapCauseData : Word
  coreTrapFaultAddrData : Word
  coreTrapAccessData : Word
  coreTrapPcData : Word
  coreTrapAuxData : Word
  interruptStatesHighSet : Word
  deriving DecidableEq, Repr

namespace SpecialRegisters

def selected (selector : BitVec 16) : Option SpecialRegister := SpecialRegister.ofSelector (selector.setWidth 64)

def userSelectorAllowed (selector : BitVec 16) : Bool := selector == 0x8000

def reset : SpecialRegisters := ⟨0, 0, 0, 0, 0, 0, 0, 0, 0, 0, 0, 0, 0, 0, 0, 0, 0, 0, 0, 0⟩

variable (c : SpecialRegisterConfig) (s : SpecialRegisters)

def userMode : Bool := s.cpuControl.getLsbD 17

def platform (value : Word) : Word := if c.optionalPlatformRegisters then value else 0

def readData (selector : BitVec 16) : Word :=
  match selected selector with
  | some .cpuControl => s.cpuControl &&& CPU_CONTROL_WRITABLE_MASK
  | some .pageTableRootPhysical => if c.enableMmu then s.pageTableRootPhysical else 0
  | some .bootInfoFramePhysical => platform c s.bootInfoFramePhysical
  | some .bootSourcePageSize => platform c s.bootSourcePageSize
  | some .bootSourcePageCount => platform c s.bootSourcePageCount
  | some .hypercallCaps => platform c s.hypercallCaps
  | some .interruptTableBase => s.interruptTableBase
  | some .interruptMask => s.interruptMask
  | some .interruptMaskHigh => s.interruptMaskHigh
  | some .interruptStates => s.interruptStates
  | some .interruptStatesHigh => s.interruptStatesHigh
  | some .interruptEpc => s.interruptEpc
  | some .interruptEflags => s.interruptEflags
  | some .interruptCpuControl => s.interruptCpuControl &&& CPU_CONTROL_WRITABLE_MASK
  | some .trapCause => s.trapCause
  | some .trapFaultAddr => s.trapFaultAddr
  | some .trapAccess => s.trapAccess
  | some .trapPc => s.trapPc
  | some .trapAux => s.trapAux
  | some .userThreadPointer => s.threadPointer
  | none => 0

def readAccessFault (selector : BitVec 16) : Bool := s.userMode && !userSelectorAllowed selector

variable (i : SpecialRegisterInputs)

def writeAccessFault : Bool := s.userMode && !userSelectorAllowed i.writeSelector && i.writeStb

/-- The register an `SSR` writes in this cycle. -/
def softwareWrite : Option SpecialRegister :=
  if i.writeStb && !s.writeAccessFault i then selected i.writeSelector else none

def tlbFlush : Bool :=
  i.coreCpuControlWrite || s.softwareWrite i == some .cpuControl ||
    (s.softwareWrite i == some .pageTableRootPhysical && c.enableMmu)

/-- A register only software writes. -/
def written (register : SpecialRegister) (old : Word) : Word :=
  if s.softwareWrite i = some register then i.writeData else old

def writtenPlatform (register : SpecialRegister) (old : Word) : Word :=
  if c.optionalPlatformRegisters then s.written i register old else old

/-- A trap register: the core's own write shuts out software. -/
def writtenTrap (register : SpecialRegister) (coreData old : Word) : Word :=
  if i.coreTrapWrite then coreData else s.written i register old

def step : SpecialRegisters where
  cpuControl :=
    if i.coreCpuControlWrite then i.coreCpuControlData &&& CPU_CONTROL_WRITABLE_MASK
    else if s.softwareWrite i = some .cpuControl then i.writeData &&& CPU_CONTROL_WRITABLE_MASK
    else s.cpuControl
  pageTableRootPhysical :=
    if c.enableMmu then s.written i .pageTableRootPhysical s.pageTableRootPhysical else s.pageTableRootPhysical
  bootInfoFramePhysical := s.writtenPlatform c i .bootInfoFramePhysical s.bootInfoFramePhysical
  bootSourcePageSize := s.writtenPlatform c i .bootSourcePageSize s.bootSourcePageSize
  bootSourcePageCount := s.writtenPlatform c i .bootSourcePageCount s.bootSourcePageCount
  hypercallCaps := s.writtenPlatform c i .hypercallCaps s.hypercallCaps
  interruptTableBase := s.written i .interruptTableBase s.interruptTableBase
  interruptMask := s.written i .interruptMask s.interruptMask
  interruptMaskHigh := s.written i .interruptMaskHigh s.interruptMaskHigh
  interruptStates := s.written i .interruptStates s.interruptStates
  interruptStatesHigh :=
    -- an `SSR` to any register keeps the interrupt lines out for this cycle
    if i.writeStb && !s.writeAccessFault i then
      if s.softwareWrite i = some .interruptStatesHigh then i.writeData ||| i.interruptStatesHighSet
      else s.interruptStatesHigh
    else s.interruptStatesHigh ||| i.interruptStatesHighSet
  interruptEpc :=
    if s.softwareWrite i = some .interruptEpc then i.writeData
    else if i.coreInterruptEpcWrite then i.coreInterruptEpcData
    else s.interruptEpc
  interruptEflags :=
    if i.coreInterruptEflagsWrite then i.coreInterruptEflagsData else s.written i .interruptEflags s.interruptEflags
  interruptCpuControl :=
    if i.coreInterruptCpuControlWrite then i.coreInterruptCpuControlData &&& CPU_CONTROL_WRITABLE_MASK
    else if s.softwareWrite i = some .interruptCpuControl then i.writeData &&& CPU_CONTROL_WRITABLE_MASK
    else s.interruptCpuControl
  trapCause := s.writtenTrap i .trapCause i.coreTrapCauseData s.trapCause
  trapFaultAddr := s.writtenTrap i .trapFaultAddr i.coreTrapFaultAddrData s.trapFaultAddr
  trapAccess := s.writtenTrap i .trapAccess i.coreTrapAccessData s.trapAccess
  trapPc := s.writtenTrap i .trapPc i.coreTrapPcData s.trapPc
  trapAux := s.writtenTrap i .trapAux i.coreTrapAuxData s.trapAux
  threadPointer := s.written i .userThreadPointer s.threadPointer

end SpecialRegisters

end Little64.Hdl

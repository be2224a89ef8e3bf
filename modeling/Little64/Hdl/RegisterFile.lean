import Little64.Hdl.SpecialRegisters
import Little64.Library.Assignments

/-! The special-register file by itself: the assignments of a cycle in the order of the statements, with the mode as an
input. -/

namespace Little64.Hdl

open Emulator (SpecialRegister)
open Assignments

/-- What software and the core drive in one cycle, and the mode that the file is told. -/
structure RegisterFileInputs extends SpecialRegisterInputs where
  userMode : Bool
  deriving DecidableEq, Repr

namespace SpecialRegisters

def get (s : SpecialRegisters) : SpecialRegister → Word
  | .cpuControl => s.cpuControl
  | .pageTableRootPhysical => s.pageTableRootPhysical
  | .bootInfoFramePhysical => s.bootInfoFramePhysical
  | .bootSourcePageSize => s.bootSourcePageSize
  | .bootSourcePageCount => s.bootSourcePageCount
  | .hypercallCaps => s.hypercallCaps
  | .interruptTableBase => s.interruptTableBase
  | .interruptMask => s.interruptMask
  | .interruptMaskHigh => s.interruptMaskHigh
  | .interruptStates => s.interruptStates
  | .interruptStatesHigh => s.interruptStatesHigh
  | .interruptEpc => s.interruptEpc
  | .interruptEflags => s.interruptEflags
  | .interruptCpuControl => s.interruptCpuControl
  | .trapCause => s.trapCause
  | .trapFaultAddr => s.trapFaultAddr
  | .trapAccess => s.trapAccess
  | .trapPc => s.trapPc
  | .trapAux => s.trapAux
  | .userThreadPointer => s.threadPointer

def ofGet (f : SpecialRegister → Word) : SpecialRegisters where
  cpuControl := f .cpuControl
  pageTableRootPhysical := f .pageTableRootPhysical
  bootInfoFramePhysical := f .bootInfoFramePhysical
  bootSourcePageSize := f .bootSourcePageSize
  bootSourcePageCount := f .bootSourcePageCount
  hypercallCaps := f .hypercallCaps
  interruptTableBase := f .interruptTableBase
  interruptMask := f .interruptMask
  interruptMaskHigh := f .interruptMaskHigh
  interruptStates := f .interruptStates
  interruptStatesHigh := f .interruptStatesHigh
  interruptEpc := f .interruptEpc
  interruptEflags := f .interruptEflags
  interruptCpuControl := f .interruptCpuControl
  trapCause := f .trapCause
  trapFaultAddr := f .trapFaultAddr
  trapAccess := f .trapAccess
  trapPc := f .trapPc
  trapAux := f .trapAux
  threadPointer := f .userThreadPointer

lemma get_ofGet (f : SpecialRegister → Word) (r : SpecialRegister) : (ofGet f).get r = f r := by cases r <;> rfl

lemma ext_get {s t : SpecialRegisters} (h : ∀ r, s.get r = t.get r) : s = t := congrArg ofGet (funext h)

def bank : Bank SpecialRegisters SpecialRegister Word where
  get := get
  set s r v := ofGet (Function.update s.get r v)
  get_set s r v q := by rw [get_ofGet, Function.update_apply]

end SpecialRegisters

namespace RegisterFile

open SpecialRegisters

variable (c : SpecialRegisterConfig) (s : SpecialRegisters) (i : RegisterFileInputs)

def writeAccessFault : Bool := i.userMode && !userSelectorAllowed i.writeSelector && i.writeStb

/-- Software writes, and may. -/
def writes : Bool := i.writeStb && !writeAccessFault i

def writesTo (r : SpecialRegister) : Bool := writes i && selected i.writeSelector == some r

def coreTrapWrites : List (SpecialRegister × Word) :=
  [(.trapCause, i.coreTrapCauseData), (.trapFaultAddr, i.coreTrapFaultAddrData), (.trapAccess, i.coreTrapAccessData),
    (.trapPc, i.coreTrapPcData), (.trapAux, i.coreTrapAuxData)]

def trapRegisters : List SpecialRegister := [.trapCause, .trapFaultAddr, .trapAccess, .trapPc, .trapAux]

def trapBank : List (SpecialRegister × Word) :=
  if i.coreTrapWrite then coreTrapWrites i else trapRegisters.flatMap fun r => assignIf (writesTo i r) r i.writeData

def coreWrites : List (SpecialRegister × Word) :=
  assignIf i.coreCpuControlWrite SpecialRegister.cpuControl (i.coreCpuControlData &&& CPU_CONTROL_WRITABLE_MASK) ++
    assignIf i.coreInterruptCpuControlWrite SpecialRegister.interruptCpuControl
      (i.coreInterruptCpuControlData &&& CPU_CONTROL_WRITABLE_MASK) ++
    assignIf i.coreInterruptEpcWrite SpecialRegister.interruptEpc i.coreInterruptEpcData ++
    assignIf i.coreInterruptEflagsWrite SpecialRegister.interruptEflags i.coreInterruptEflagsData

/-- Of the registers that the core writes too, the interrupted program counter does not wait for the core. -/
def softwareWrites : List (SpecialRegister × Word) :=
  match selected i.writeSelector with
  | some .cpuControl =>
    assignIf (!i.coreCpuControlWrite) .cpuControl (i.writeData &&& CPU_CONTROL_WRITABLE_MASK)
  | some .pageTableRootPhysical => assignIf c.enableMmu .pageTableRootPhysical i.writeData
  | some .bootInfoFramePhysical => assignIf c.optionalPlatformRegisters .bootInfoFramePhysical i.writeData
  | some .bootSourcePageSize => assignIf c.optionalPlatformRegisters .bootSourcePageSize i.writeData
  | some .bootSourcePageCount => assignIf c.optionalPlatformRegisters .bootSourcePageCount i.writeData
  | some .hypercallCaps => assignIf c.optionalPlatformRegisters .hypercallCaps i.writeData
  | some .interruptTableBase => [(.interruptTableBase, i.writeData)]
  | some .interruptMask => [(.interruptMask, i.writeData)]
  | some .interruptMaskHigh => [(.interruptMaskHigh, i.writeData)]
  | some .interruptStates => [(.interruptStates, i.writeData)]
  | some .interruptStatesHigh => [(.interruptStatesHigh, i.writeData ||| i.interruptStatesHighSet)]
  | some .interruptEpc => [(.interruptEpc, i.writeData)]
  | some .interruptEflags => assignIf (!i.coreInterruptEflagsWrite) .interruptEflags i.writeData
  | some .interruptCpuControl =>
    assignIf (!i.coreInterruptCpuControlWrite) .interruptCpuControl (i.writeData &&& CPU_CONTROL_WRITABLE_MASK)
  | some .userThreadPointer => [(.userThreadPointer, i.writeData)]
  | _ => []

/-- The lines get in where software does not write. -/
def pendingWrites : List (SpecialRegister × Word) :=
  assignIf (i.interruptStatesHighSet != 0) .interruptStatesHigh (s.interruptStatesHigh ||| i.interruptStatesHighSet)

def elaborate : List (SpecialRegister × Word) :=
  trapBank i ++ coreWrites i ++ if writes i then softwareWrites c i else pendingWrites s i

def step : SpecialRegisters := bank.assign s (elaborate c s i)

def tlbFlush : Bool :=
  i.coreCpuControlWrite || (writesTo i .cpuControl && !i.coreCpuControlWrite) ||
    (writesTo i .pageTableRootPhysical && c.enableMmu)

end RegisterFile

end Little64.Hdl

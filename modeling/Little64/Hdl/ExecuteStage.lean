import Little64.Emulator.Instruction
import Little64.Emulator.Vectors

/-! The execute stage of the V3 and V4 cores, with the instruction fields it reads. The opcode
tables are those of the emulator. -/

namespace Little64.Hdl

open Emulator (LsOpcode GpOpcode Reg)
open Emulator.Vectors

abbrev Flags := BitVec 3

def CPU_CONTROL_USER_MODE : Word := 1 <<< 17

section Fields

variable (instruction : BitVec 16)

def instructionRd : Reg := instruction.extractLsb' 0 4
def instructionRs1 : Reg := instruction.extractLsb' 4 4
def instructionGpImm4 : BitVec 4 := instruction.extractLsb' 4 4
def instructionLdiImm8 : BitVec 8 := instruction.extractLsb' 4 8
def instructionLsOffset2 : BitVec 2 := instruction.extractLsb' 8 2
def instructionGpOpcode : Option GpOpcode := GpOpcode.ofBits (instruction.extractLsb' 8 5)
def instructionLsOpcode : LsOpcode := LsOpcode.ofBits (instruction.extractLsb' 10 4)
def instructionLdiShift : BitVec 2 := instruction.extractLsb' 12 2
def instructionTop3 : BitVec 3 := instruction.extractLsb' 13 3
def instructionTop2 : BitVec 2 := instruction.extractLsb' 14 2

/-- The half-word offset of a PC-relative instruction whose field is `width` bits from `low` on. -/
def pcRelative (low width : ℕ) : Word := (instruction.extractLsb' low width).signExtend 64 <<< 1

end Fields

def flagValue (result : Word) (carry : Bool) : Flags :=
  BitVec.ofBool result.msb ++ BitVec.ofBool carry ++ BitVec.ofBool (result == 0)

def lsCondition (flags : Flags) (opcode : LsOpcode) : Bool :=
  let z := flags.getLsbD 0
  let c := flags.getLsbD 1
  let s := flags.getLsbD 2
  match opcode with
  | .jumpZ => z
  | .jumpC => c
  | .jumpS => s
  | .jumpGT => !z && !s
  | .jumpLT => s
  | _ => false

structure ExecuteInputs where
  valid : Bool
  instruction : BitVec 16
  prePostIncrementPc : Word
  operandA : Word
  operandB : Word
  flags : Flags
  cpuControl : Word
  interruptEpc : Word
  interruptEflags : Word
  interruptCpuControl : Word
  llReservationValid : Bool
  llReservationAddr : Word
  specialReadData : Word
  specialReadAccessFault : Bool
  specialWriteAccessFault : Bool
  deriving DecidableEq, Repr

/-- The memory operation of an instruction, apart from its address: what the memory stage carries. -/
structure MemoryOp where
  widthBytes : ℕ
  write : Bool
  storeValue : Word
  regWrite : Bool
  regIndex : Reg
  flagsWrite : Bool
  flagsValue : Flags
  setReservation : Bool
  reservationAddr : Word
  nextPc : Word
  postRegWrite : Bool
  postRegIndex : Reg
  postRegValue : Word
  postRegDelta : Word
  postRegUseLoadResult : Bool
  chainStore : Bool
  chainStoreAddr : Word
  chainStoreUseLoadResult : Bool
  chainStoreValue : Word
  deriving DecidableEq, Repr

structure ExecuteOutputs where
  regWrite : Bool
  regIndex : Reg
  regValue : Word
  flagsWrite : Bool
  flagsValue : Flags
  cpuControlWrite : Bool
  cpuControlValue : Word
  nextPc : Word
  halt : Bool
  lockup : Bool
  trap : Bool
  trapCause : Word
  clearReservation : Bool
  memoryStart : Bool
  memoryAddr : Word
  memory : MemoryOp
  deriving DecidableEq, Repr

def loadWidth : LsOpcode → ℕ
  | .byteLoad => 1
  | .shortLoad => 2
  | .wordLoad => 4
  | _ => 8

def storeWidth : LsOpcode → ℕ
  | .byteStore => 1
  | .shortStore => 2
  | .wordStore => 4
  | _ => 8

def sllResult (a : Word) (amount : ℕ) : Word := if amount = 0 then a else if amount = 64 then 0 else a <<< amount

def sllCarry (a : Word) (amount : ℕ) : Bool :=
  if amount = 0 ∨ amount = 64 then false else a >>> (64 - amount) != 0

def srlResult (a : Word) (amount : ℕ) : Word := if amount = 0 then a else if amount = 64 then 0 else a >>> amount

def sraResult (a : Word) (amount : ℕ) : Word :=
  if amount = 0 then a
  else if amount = 64 then if a.msb then 0xFFFFFFFFFFFFFFFF else 0
  else a.sshiftRight amount

/-- The carry of both right shifts. -/
def srxCarry (a : Word) (amount : ℕ) : Bool :=
  if amount = 0 ∨ amount = 64 then false else a >>> (amount - 1) &&& 1 != 0

def slliCarry (a : Word) (imm4 : ℕ) : Bool := if imm4 = 0 then false else a >>> (64 - imm4) != 0

def srxImmCarry (a : Word) (imm4 : ℕ) : Bool := if imm4 = 0 then false else a >>> (imm4 - 1) &&& 1 != 0

namespace ExecuteInputs

variable (i : ExecuteInputs)

def rd : Reg := instructionRd i.instruction
def rs1 : Reg := instructionRs1 i.instruction
def lsOpcode : LsOpcode := instructionLsOpcode i.instruction
def postIncrementPc : Word := i.prePostIncrementPc
def userMode : Bool := i.cpuControl &&& CPU_CONTROL_USER_MODE != 0

def lsRdValue : Word := if i.rd = 15 then i.postIncrementPc else i.operandA
def lsRs1Value : Word := if i.rs1 = 15 then i.postIncrementPc else i.operandB
def lsAddr : Word := i.lsRs1Value + (instructionLsOffset2 i.instruction).setWidth 64 <<< 1
def lsPcEffective : Word := i.postIncrementPc + pcRelative i.instruction 4 6
def lsJumpTarget : Word := i.postIncrementPc + pcRelative i.instruction 0 10
def lsPcPushAddr : Word := i.operandA - 8
def lsJumpTaken : Bool := lsCondition i.flags i.lsOpcode
def shiftIndex : ℕ := if 64 ≤ i.operandB then 64 else (i.operandB.setWidth 7).toNat
def imm4 : ℕ := (instructionGpImm4 i.instruction).toNat
def sumValue : BitVec 65 := i.operandA.setWidth 65 + i.operandB.setWidth 65
def subValue : Word := i.operandA - i.operandB

def ldiValue : Word :=
  let imm8 := instructionLdiImm8 i.instruction
  match instructionLdiShift i.instruction with
  | 0 => imm8.setWidth 64
  | 1 => i.operandA ||| imm8.setWidth 64 <<< 8
  | 2 => i.operandA ||| imm8.setWidth 64 <<< 16
  | _ => i.operandA ||| (imm8 ++ (0 : BitVec 24)).signExtend 64

def specialReadSelector : BitVec 16 := i.operandB.setWidth 16

def specialWriteStb : Bool :=
  i.valid && instructionTop3 i.instruction == 6 && instructionGpOpcode i.instruction == some .ssr

def specialWriteSelector : BitVec 16 := i.operandB.setWidth 16
def specialWriteData : Word := i.operandA

def noMemory : MemoryOp where
  widthBytes := 0
  write := false
  storeValue := 0
  regWrite := false
  regIndex := i.rd
  flagsWrite := false
  flagsValue := i.flags
  setReservation := false
  reservationAddr := 0
  nextPc := i.postIncrementPc
  postRegWrite := false
  postRegIndex := 0
  postRegValue := 0
  postRegDelta := 0
  postRegUseLoadResult := false
  chainStore := false
  chainStoreAddr := 0
  chainStoreUseLoadResult := false
  chainStoreValue := 0

/-- The outputs before an instruction drives any of them. -/
def idle : ExecuteOutputs where
  regWrite := false
  regIndex := i.rd
  regValue := 0
  flagsWrite := false
  flagsValue := i.flags
  cpuControlWrite := false
  cpuControlValue := 0
  nextPc := i.postIncrementPc
  halt := false
  lockup := false
  trap := false
  trapCause := 0
  clearReservation := false
  memoryStart := false
  memoryAddr := 0
  memory := i.noMemory

/-- Start of a memory operation at an address. -/
def access (addr : Word) (op : MemoryOp) : ExecuteOutputs :=
  { i.idle with memoryStart := true, memoryAddr := addr, memory := op }

def loadFrom (addr : Word) (width : ℕ) : ExecuteOutputs :=
  i.access addr { i.noMemory with widthBytes := width, regWrite := true, regIndex := i.rd }

def storeTo (addr : Word) (width : ℕ) (value : Word) : ExecuteOutputs :=
  i.access addr { i.noMemory with widthBytes := width, write := true, storeValue := value }

def executeLsReg : ExecuteOutputs :=
  match i.lsOpcode with
  | .load | .byteLoad | .shortLoad | .wordLoad => i.loadFrom i.lsAddr (loadWidth i.lsOpcode)
  | .store | .byteStore | .shortStore | .wordStore => i.storeTo i.lsAddr (storeWidth i.lsOpcode) i.lsRdValue
  | .push =>
    i.access (i.lsRdValue - 8) { i.noMemory with
      widthBytes := 8, write := true, storeValue := i.lsRs1Value
      postRegWrite := true, postRegIndex := i.rd, postRegValue := i.lsRdValue - 8 }
  | .pop =>
    i.access i.lsRdValue { i.noMemory with
      widthBytes := 8, regWrite := true, regIndex := i.rs1
      postRegWrite := true, postRegIndex := i.rd, postRegValue := i.lsRdValue + 8, postRegDelta := 8
      postRegUseLoadResult := i.rd == i.rs1 }
  | .move =>
    { i.idle with
      regWrite := true, regValue := i.lsAddr
      nextPc := if i.rd = 15 then i.lsAddr else i.postIncrementPc }
  | .jumpZ | .jumpC | .jumpS | .jumpGT | .jumpLT =>
    { i.idle with
      regWrite := i.lsJumpTaken, regValue := i.lsAddr
      nextPc := if i.lsJumpTaken ∧ i.rd = 15 then i.lsAddr else i.postIncrementPc }

def executeLsPcRel : ExecuteOutputs :=
  match i.lsOpcode with
  | .load | .byteLoad | .shortLoad | .wordLoad => i.loadFrom i.lsPcEffective (loadWidth i.lsOpcode)
  | .store | .byteStore | .shortStore | .wordStore => i.storeTo i.lsPcEffective (storeWidth i.lsOpcode) i.operandA
  | .push =>
    i.access i.lsPcEffective { i.noMemory with
      widthBytes := 8
      postRegWrite := true, postRegIndex := i.rd, postRegValue := i.lsPcPushAddr
      chainStore := true, chainStoreAddr := i.lsPcPushAddr, chainStoreUseLoadResult := true }
  | .pop =>
    i.access i.operandA { i.noMemory with
      widthBytes := 8
      postRegWrite := true, postRegIndex := i.rd, postRegValue := i.operandA + 8
      chainStore := true, chainStoreAddr := i.lsPcEffective, chainStoreUseLoadResult := true }
  | .move =>
    { i.idle with
      regWrite := true, regValue := i.lsPcEffective
      nextPc := if i.rd = 15 then i.lsPcEffective else i.postIncrementPc }
  | .jumpZ | .jumpC | .jumpS | .jumpGT | .jumpLT =>
    { i.idle with nextPc := if i.lsJumpTaken then i.lsJumpTarget else i.postIncrementPc }

/-- Destination and flags of an ALU operation. -/
def alu (result : Word) (carry : Bool) : ExecuteOutputs :=
  { i.idle with
    regWrite := true, regValue := result
    flagsWrite := true, flagsValue := flagValue result carry }

def trapWith (cause : Word) : ExecuteOutputs := { i.idle with trap := true, trapCause := cause }

/-- The flags with `Z` replaced. -/
def withZero (z : Bool) : Flags := i.flags.extractLsb' 1 2 ++ BitVec.ofBool z

def executeGp : ExecuteOutputs :=
  let a := i.operandA
  let b := i.operandB
  match instructionGpOpcode i.instruction with
  | some .add => i.alu (i.sumValue.setWidth 64) i.sumValue.msb
  | some .sub => i.alu i.subValue (decide (a < b))
  | some .test => { i.idle with flagsWrite := true, flagsValue := flagValue i.subValue (decide (a < b)) }
  | some .and => i.alu (a &&& b) false
  | some .or => i.alu (a ||| b) false
  | some .xor => i.alu (a ^^^ b) false
  | some .sll => i.alu (sllResult a i.shiftIndex) (sllCarry a i.shiftIndex)
  | some .srl => i.alu (srlResult a i.shiftIndex) (srxCarry a i.shiftIndex)
  | some .sra => i.alu (sraResult a i.shiftIndex) (srxCarry a i.shiftIndex)
  | some .slli => i.alu (if i.imm4 = 0 then a else a <<< i.imm4) (slliCarry a i.imm4)
  | some .srli => i.alu (if i.imm4 = 0 then a else a >>> i.imm4) (srxImmCarry a i.imm4)
  | some .srai => i.alu (if i.imm4 = 0 then a else a.sshiftRight i.imm4) (srxImmCarry a i.imm4)
  | some .lsr =>
    if i.specialReadAccessFault then i.trapWith trapPrivilegedInstruction
    else { i.idle with regWrite := true, regValue := i.specialReadData }
  | some .llr =>
    i.access b { i.noMemory with
      widthBytes := 8, regWrite := true, regIndex := i.rd
      setReservation := true, reservationAddr := b }
  | some .scr =>
    if i.llReservationValid && i.llReservationAddr == b then
      i.access b { i.noMemory with
        widthBytes := 8, write := true, storeValue := a
        flagsWrite := true, flagsValue := i.withZero true }
    else
      { i.idle with flagsWrite := true, flagsValue := i.withZero false, clearReservation := true }
  | some .ssr => if i.specialWriteAccessFault then i.trapWith trapPrivilegedInstruction else i.idle
  | some .syscall => i.trapWith (if i.userMode then trapSyscall else trapSyscallFromSupervisor)
  | some .iret =>
    if i.userMode then i.trapWith trapPrivilegedInstruction
    else
      { i.idle with
        flagsWrite := true, flagsValue := i.interruptEflags.setWidth 3
        cpuControlWrite := true, cpuControlValue := i.interruptCpuControl
        nextPc := i.interruptEpc }
  | some .stop => if i.userMode then i.trapWith trapPrivilegedInstruction else { i.idle with halt := true }
  | none => i.trapWith trapInvalidInstruction

def outputs : ExecuteOutputs :=
  if !i.valid then i.idle
  else
    match instructionTop2 i.instruction with
    | 2 => { i.idle with regWrite := true, regValue := i.ldiValue }
    | 0 => i.executeLsReg
    | 1 => i.executeLsPcRel
    | _ =>
      if instructionTop3 i.instruction = 7 then
        { i.idle with nextPc := i.postIncrementPc + pcRelative i.instruction 0 13 }
      else i.executeGp

section Groups

variable {i}

lemma outputs_of_invalid (hv : i.valid = false) : i.outputs = i.idle := by
  rw [outputs, hv]
  rfl

lemma outputs_of_lsReg (hv : i.valid = true) (h : instructionTop2 i.instruction = 0) :
    i.outputs = i.executeLsReg := by
  rw [outputs, hv, h]
  rfl

lemma outputs_of_lsPcRel (hv : i.valid = true) (h : instructionTop2 i.instruction = 1) :
    i.outputs = i.executeLsPcRel := by
  rw [outputs, hv, h]
  rfl

lemma outputs_of_ldi (hv : i.valid = true) (h : instructionTop2 i.instruction = 2) :
    i.outputs = { i.idle with regWrite := true, regValue := i.ldiValue } := by
  rw [outputs, hv, h]
  rfl

lemma outputs_of_jump (hv : i.valid = true) (h : instructionTop2 i.instruction = 3)
    (h7 : instructionTop3 i.instruction = 7) :
    i.outputs = { i.idle with nextPc := i.postIncrementPc + pcRelative i.instruction 0 13 } := by
  rw [outputs, hv, h, h7]
  rfl

lemma outputs_of_gp (hv : i.valid = true) (h : instructionTop2 i.instruction = 3)
    (h7 : instructionTop3 i.instruction ≠ 7) : i.outputs = i.executeGp := by
  rw [outputs, hv, h]
  exact if_neg h7

variable (i)

lemma group_cases :
    instructionTop2 i.instruction = 0 ∨ instructionTop2 i.instruction = 1 ∨ instructionTop2 i.instruction = 2 ∨
      instructionTop2 i.instruction = 3 ∧ instructionTop3 i.instruction = 7 ∨
      instructionTop2 i.instruction = 3 ∧ instructionTop3 i.instruction ≠ 7 := by
  have hfields : ∀ f : BitVec 2, f = 0 ∨ f = 1 ∨ f = 2 ∨ f = 3 := by decide
  rcases hfields (instructionTop2 i.instruction) with h | h | h | h
  · exact .inl h
  · exact .inr (.inl h)
  · exact .inr (.inr (.inl h))
  · by_cases h7 : instructionTop3 i.instruction = 7
    · exact .inr (.inr (.inr (.inl ⟨h, h7⟩)))
    · exact .inr (.inr (.inr (.inr ⟨h, h7⟩)))

end Groups

end ExecuteInputs

end Little64.Hdl

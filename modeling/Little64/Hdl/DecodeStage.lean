import Little64.Hdl.MemoryStage

/-! The decode stage of the V4 core: operand bypass, hazards and the branch predictor. -/

namespace Little64.Hdl

open Emulator (LsOpcode Reg)

/-- The predictor submodule, a constructor argument of the decode stage. -/
inductive PredictorPolicy
  | staticNotTaken
  | staticBackwardTaken
  deriving DecidableEq, Repr

/-- The static predictors: one falls through, the other takes unconditional jumps and backward
conditional branches. -/
structure Predictor where
  policy : PredictorPolicy
  instruction : BitVec 16
  pc : Word

namespace Predictor

variable (p : Predictor)

def isPcRelCondBranch : Bool :=
  instructionTop2 p.instruction == 1 && decide (11 ≤ p.instruction.extractLsb' 10 4)

def isCondBackward : Bool := p.instruction.getLsbD 9
def isUjmp : Bool := instructionTop3 p.instruction == 7
def isBranch : Bool := p.isPcRelCondBranch || p.isUjmp
def postIncrementPc : Word := p.pc + 2

def condBranchTarget : Word := p.postIncrementPc + pcRelative p.instruction 0 10
def ujmpTarget : Word := p.postIncrementPc + pcRelative p.instruction 0 13

def predictedNextPc : Word :=
  match p.policy with
  | .staticNotTaken => p.postIncrementPc
  | .staticBackwardTaken =>
    if p.isUjmp then p.ujmpTarget
    else if p.isPcRelCondBranch && p.isCondBackward then p.condBranchTarget
    else p.postIncrementPc

end Predictor

/-- A register that an instruction ahead of decode will write with a value that cannot be forwarded yet. -/
structure PendingWrite where
  valid : Bool
  index : Reg
  deriving DecidableEq, Repr

structure DecodeInputs where
  policy : PredictorPolicy
  instruction : BitVec 16
  pc : Word
  postIncrementPc : Word
  regs : Reg → Word
  flags : Flags
  executeValid : Bool
  executeRegWrite : Bool
  executeRegIndex : Reg
  executeRegValue : Word
  executeFlagsWrite : Bool
  executeFlagsValue : Flags
  memoryFinalValid : Bool
  memoryFinalWrites : RegWrites
  memoryFinalFlagsWrite : Bool
  memoryFinalFlagsValue : Flags
  retireValid : Bool
  retireWrites : RegWrites
  retireFlagsWrite : Bool
  retireFlagsValue : Flags
  pendingLoadExecute : PendingWrite
  pendingLoadMemory : PendingWrite
  pendingWriteExecute : PendingWrite
  pendingWriteMemory : PendingWrite

namespace DecodeInputs

variable (d : DecodeInputs)

def predictor : Predictor := ⟨d.policy, d.instruction, d.pc⟩
def predictedNextPc : Word := d.predictor.predictedNextPc

def predictRedirect : Bool := d.predictor.isBranch && d.predictor.predictedNextPc != d.postIncrementPc

/-- The bypass chain of one operand. -/
def operand (r : Reg) : Word :=
  if r = 0 then 0
  else if d.executeValid ∧ d.executeRegWrite ∧ d.executeRegIndex = r then d.executeRegValue
  else
    match if d.memoryFinalValid then d.memoryFinalWrites.lookup r else none with
    | some value => value
    | none =>
      match if d.retireValid then d.retireWrites.lookup r else none with
      | some value => value
      | none => d.regs r

lemma operand_eq_getD {r : Reg} (h : r ≠ 0) :
    d.operand r =
      if d.executeValid ∧ d.executeRegWrite ∧ d.executeRegIndex = r then d.executeRegValue
      else
        (if d.memoryFinalValid then d.memoryFinalWrites.lookup r else none).getD
          ((if d.retireValid then d.retireWrites.lookup r else none).getD (d.regs r)) := by
  rw [operand, if_neg h]
  generalize (if d.memoryFinalValid then d.memoryFinalWrites.lookup r else none) = result
  generalize (if d.retireValid then d.retireWrites.lookup r else none) = retired
  cases result <;> cases retired <;> rfl

def operandA : Word := d.operand (instructionRd d.instruction)
def operandB : Word := d.operand (instructionRs1 d.instruction)

def operandFlags : Flags :=
  if d.executeValid ∧ d.executeFlagsWrite then d.executeFlagsValue
  else if d.memoryFinalValid ∧ d.memoryFinalFlagsWrite then d.memoryFinalFlagsValue
  else if d.retireValid ∧ d.retireFlagsWrite then d.retireFlagsValue
  else d.flags

def hazard (pending : PendingWrite) : Bool :=
  pending.valid && pending.index != 0 &&
    (pending.index == instructionRd d.instruction || pending.index == instructionRs1 d.instruction)

def loadUseHazard : Bool :=
  d.hazard d.pendingLoadExecute || d.hazard d.pendingLoadMemory || d.hazard d.pendingWriteExecute ||
    d.hazard d.pendingWriteMemory

end DecodeInputs

end Little64.Hdl

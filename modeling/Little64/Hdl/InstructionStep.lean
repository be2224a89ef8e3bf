import Little64.Emulator.DataAccess
import Little64.Hdl.Core

/-! One instruction alone in the V3 and V4 cores: operand selection, execute stage, memory stage and the
second access of the memory latch. -/

namespace Little64.Hdl

open Emulator (Reg)

/-- A memory request of an instruction. -/
inductive Request
  | read (addr : Word) (widthBytes : ℕ)
  | write (addr : Word) (widthBytes : ℕ) (data : Word)
  deriving DecidableEq, Repr

/-- What one instruction leaves, with the requests it made in order. -/
structure StepResult where
  regs : Reg → Word
  flags : Flags
  nextPc : Word
  requests : List Request

namespace MemoryOp

variable (op : MemoryOp) (loadValue : Word) (flags : Flags)

/-- The operation once its first access has ended: the second access of a PC-relative `PUSH` or `POP`. -/
def chained : MemoryOp :=
  { op with
    widthBytes := 8
    write := true
    storeValue := op.nextChainStoreValue loadValue
    regWrite := false
    regIndex := 0
    chainStore := false
    chainStoreAddr := 0
    chainStoreUseLoadResult := false
    chainStoreValue := 0
    flagsWrite := false
    flagsValue := flags
    setReservation := false
    reservationAddr := 0 }

/-- The operation that ends the instruction. -/
def final : MemoryOp := if op.chainStore then op.chained loadValue flags else op

def request (addr : Word) : Request :=
  if op.write then .write addr op.widthBytes (narrow op.widthBytes op.storeValue) else .read addr op.widthBytes

def requests (addr : Word) : List Request :=
  if op.chainStore then [op.request addr, (op.chained loadValue flags).request op.chainStoreAddr]
  else [op.request addr]

end MemoryOp

/-- Decode with no other instruction in the pipeline. -/
def DecodeInputs.alone (instruction : BitVec 16) (regs : Reg → Word) (flags : Flags) : DecodeInputs where
  policy := .staticBackwardTaken
  instruction := instruction
  pc := regs 15 - 2
  postIncrementPc := regs 15
  regs := regs
  flags := flags
  executeValid := false
  executeRegWrite := false
  executeRegIndex := 0
  executeRegValue := 0
  executeFlagsWrite := false
  executeFlagsValue := 0
  memoryFinalValid := false
  memoryFinalWrites := .none
  memoryFinalFlagsWrite := false
  memoryFinalFlagsValue := 0
  retireValid := false
  retireWrites := .none
  retireFlagsWrite := false
  retireFlagsValue := 0
  pendingLoadExecute := ⟨false, 0⟩
  pendingLoadMemory := ⟨false, 0⟩
  pendingWriteExecute := ⟨false, 0⟩
  pendingWriteMemory := ⟨false, 0⟩

/-- Execution of what decode selected, beside the special registers and the reservation. -/
def ExecuteInputs.decoded (i : ExecuteInputs) (d : DecodeInputs) : ExecuteInputs :=
  { i with
    valid := true
    instruction := d.instruction
    prePostIncrementPc := d.postIncrementPc
    operandA := d.operandA
    operandB := d.operandB
    flags := d.operandFlags }

/-- What the execute and memory stages make of an execute output, when memory answers with a value. -/
def ExecuteOutputs.perform (o : ExecuteOutputs) (regs : Reg → Word) (flags : Flags) (answer : Word) : StepResult :=
  if o.memoryStart then
    let op := o.memory.final answer flags
    { regs := (op.result answer).writes.apply regs
      flags := if op.flagsWrite then op.flagsValue else flags
      nextPc := (op.result answer).nextPc
      requests := o.memory.requests answer flags o.memoryAddr }
  else
    { regs := RegWrites.apply ⟨o.regWrite, o.regIndex, o.regValue, false, 0, 0⟩ regs
      flags := if o.flagsWrite then o.flagsValue else flags
      nextPc := o.nextPc
      requests := [] }

def instructionStep (i : ExecuteInputs) (instruction : BitVec 16) (regs : Reg → Word) (flags : Flags)
    (answer : Word) : StepResult :=
  (i.decoded (.alone instruction regs flags)).outputs.perform regs flags answer

/-- The write of one result. -/
def written (regs : Reg → Word) (r : Reg) (value : Word) : Reg → Word :=
  RegWrites.apply ⟨true, r, value, false, 0, 0⟩ regs

lemma written_eq (regs : Reg → Word) (r : Reg) (value : Word) {x : Reg} (h : x ≠ 0) :
    written regs r value x = if x = r then value else regs x := by
  simp only [written, RegWrites.apply, Bool.false_eq_true, false_and, if_false, true_and]
  by_cases hx : x = r
  · rw [if_pos hx, if_pos ⟨by rwa [← hx], hx.symm⟩]
  · rw [if_neg hx, if_neg fun he => hx he.2.symm]

section Perform

variable (i : ExecuteInputs) (addr value answer : Word) (width : ℕ) (regs : Reg → Word) (flags : Flags)

lemma perform_access (op : MemoryOp) :
    (i.access addr op).perform regs flags answer =
      { regs := ((op.final answer flags).result answer).writes.apply regs
        flags := if (op.final answer flags).flagsWrite then (op.final answer flags).flagsValue else flags
        nextPc := ((op.final answer flags).result answer).nextPc
        requests := op.requests answer flags addr } := rfl

lemma perform_loadFrom :
    (i.loadFrom addr width).perform regs flags answer =
      ⟨written regs i.rd answer, flags, if i.rd = 15 then answer else i.postIncrementPc, [.read addr width]⟩ := by
  rw [ExecuteInputs.loadFrom, perform_access]
  simp [ExecuteInputs.noMemory, MemoryOp.final, MemoryOp.result, MemoryOp.resultWrites, MemoryOp.resultNextPc,
    MemoryOp.requests, MemoryOp.request, written]

lemma perform_storeTo :
    (i.storeTo addr width value).perform regs flags answer =
      ⟨regs, flags, i.postIncrementPc, [.write addr width (narrow width value)]⟩ := by
  rw [ExecuteInputs.storeTo, perform_access]
  simp only [ExecuteInputs.noMemory, MemoryOp.final, MemoryOp.result, MemoryOp.resultWrites, MemoryOp.resultNextPc,
    MemoryOp.requests, MemoryOp.request, Bool.false_eq_true, false_and, if_false, if_true, StepResult.mk.injEq,
    and_self, and_true]
  funext r
  simp [RegWrites.apply]

lemma perform_push (h : i.lsOpcode = .push) :
    i.executeLsReg.perform regs flags answer =
      ⟨written regs i.rd (i.lsRdValue - 8), flags, if i.rd = 15 then i.lsRdValue - 8 else i.postIncrementPc,
        [.write (i.lsRdValue - 8) 8 i.lsRs1Value]⟩ := by
  rw [ExecuteInputs.executeLsReg, h, perform_access]
  simp [ExecuteInputs.noMemory, MemoryOp.final, MemoryOp.result, MemoryOp.resultWrites, MemoryOp.resultNextPc,
    MemoryOp.requests, MemoryOp.request, MemoryOp.postValue, written, narrow]

/-- A `POP` writes the value popped and then the pointer, also where they are the same register. -/
lemma perform_pop (h : i.lsOpcode = .pop) :
    i.executeLsReg.perform regs flags answer =
      ⟨written (written regs i.rs1 answer) i.rd (if i.rd = i.rs1 then answer + 8 else i.lsRdValue + 8), flags,
        if i.rd = 15 then if i.rd = i.rs1 then answer + 8 else i.lsRdValue + 8
        else if i.rs1 = 15 then answer else i.postIncrementPc,
        [.read i.lsRdValue 8]⟩ := by
  rw [ExecuteInputs.executeLsReg, h, perform_access]
  simp only [ExecuteInputs.noMemory, MemoryOp.final, MemoryOp.result, MemoryOp.resultWrites, MemoryOp.resultNextPc,
    MemoryOp.requests, MemoryOp.request, MemoryOp.postValue, written, Bool.false_eq_true, if_false, if_true, true_and,
    beq_iff_eq, StepResult.mk.injEq, and_true]
  funext r
  by_cases he : i.rd = i.rs1
  · simp only [he, if_true, RegWrites.apply, Bool.false_eq_true, false_and, if_false, true_and]
    split_ifs <;> rfl
  · simp only [he, if_false, RegWrites.apply, Bool.false_eq_true, false_and, true_and]

lemma perform_pushFrom (h : i.lsOpcode = .push) :
    i.executeLsPcRel.perform regs flags answer =
      ⟨written regs i.rd i.lsPcPushAddr, flags, if i.rd = 15 then i.lsPcPushAddr else i.postIncrementPc,
        [.read i.lsPcEffective 8, .write i.lsPcPushAddr 8 answer]⟩ := by
  rw [ExecuteInputs.executeLsPcRel, h, perform_access]
  simp [ExecuteInputs.noMemory, MemoryOp.final, MemoryOp.result, MemoryOp.resultWrites, MemoryOp.resultNextPc,
    MemoryOp.requests, MemoryOp.request, MemoryOp.postValue, MemoryOp.chained, MemoryOp.nextChainStoreValue, written,
    narrow]

lemma perform_popTo (h : i.lsOpcode = .pop) :
    i.executeLsPcRel.perform regs flags answer =
      ⟨written regs i.rd (i.operandA + 8), flags, if i.rd = 15 then i.operandA + 8 else i.postIncrementPc,
        [.read i.operandA 8, .write i.lsPcEffective 8 answer]⟩ := by
  rw [ExecuteInputs.executeLsPcRel, h, perform_access]
  simp [ExecuteInputs.noMemory, MemoryOp.final, MemoryOp.result, MemoryOp.resultWrites, MemoryOp.resultNextPc,
    MemoryOp.requests, MemoryOp.request, MemoryOp.postValue, MemoryOp.chained, MemoryOp.nextChainStoreValue, written,
    narrow]

lemma perform_quiet {o : ExecuteOutputs} (h : o.memoryStart = false) :
    o.perform regs flags answer =
      { regs := RegWrites.apply ⟨o.regWrite, o.regIndex, o.regValue, false, 0, 0⟩ regs
        flags := if o.flagsWrite then o.flagsValue else flags
        nextPc := o.nextPc
        requests := [] } := by
  rw [ExecuteOutputs.perform, h]
  rfl

end Perform

end Little64.Hdl

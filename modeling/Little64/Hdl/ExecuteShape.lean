import Little64.Hdl.CoreStep

/-! What the outputs of the execute stage can look like, whatever the instruction. -/

namespace Little64.Hdl

open Emulator (LsOpcode GpOpcode)

/-- What a memory operation that an instruction starts can ask for. -/
structure MemoryOp.Shape (op : MemoryOp) : Prop where
  width : op.widthBytes = 1 ∨ op.widthBytes = 2 ∨ op.widthBytes = 4 ∨ op.widthBytes = 8
  store : op.write = true → op.regWrite = false ∧ op.chainStore = false ∧ op.setReservation = false
  conditional : op.flagsWrite = true →
    op.write = true ∧ op.widthBytes = 8 ∧ op.postRegWrite = false ∧ op.flagsValue.getLsbD 0 = true
  chain : op.chainStore = true → op.regWrite = false ∧ op.setReservation = false ∧ op.widthBytes = 8
  linked : op.setReservation = true → op.widthBytes = 8

structure ExecuteOutputs.Shape (i : ExecuteInputs) (o : ExecuteOutputs) : Prop where
  regIndex : o.regIndex = i.rd
  memory : o.memoryStart = true → o.memory.Shape
  nextPc : o.memory.nextPc = i.postIncrementPc
  memoryQuiet : o.memoryStart = true →
    o.nextPc = i.postIncrementPc ∧ (o.trap || o.halt || o.lockup) = false ∧ o.clearReservation = false
  links : o.memoryStart = true → o.memory.setReservation = true → o.memory.reservationAddr = o.memoryAddr
  holds : o.memoryStart = true → o.memory.flagsWrite = true →
    i.llReservationValid = true ∧ i.llReservationAddr = o.memoryAddr
  fails : o.clearReservation = true →
    (i.llReservationValid && i.llReservationAddr == i.operandB) = false ∧ o.flagsValue.getLsbD 0 = false
  terminal : (o.trap || o.halt || o.lockup) = true → o.regWrite = false ∧ o.flagsWrite = false

namespace ExecuteInputs

variable (i : ExecuteInputs)

lemma withZero_zero (z : Bool) : (i.withZero z).getLsbD 0 = z := by
  rw [withZero, BitVec.getLsbD_append]
  cases z <;> rfl

lemma shape_quiet {o : ExecuteOutputs} (hr : o.regIndex = i.rd) (hm : o.memoryStart = false)
    (ho : o.memory = i.noMemory)
    (hc : o.clearReservation = true →
      (i.llReservationValid && i.llReservationAddr == i.operandB) = false ∧ o.flagsValue.getLsbD 0 = false)
    (ht : (o.trap || o.halt || o.lockup) = true → o.regWrite = false ∧ o.flagsWrite = false) : o.Shape i := by
  have hf : o.memoryStart = true → False := fun h => Bool.false_ne_true (hm.symm.trans h)
  refine ⟨hr, fun h => (hf h).elim, ?_, fun h => (hf h).elim, fun h => (hf h).elim, fun h => (hf h).elim, hc, ht⟩
  rw [ho]
  rfl

lemma shape_plain {o : ExecuteOutputs} (hr : o.regIndex = i.rd) (hm : o.memoryStart = false)
    (ho : o.memory = i.noMemory) (hc : o.clearReservation = false)
    (ht : (o.trap || o.halt || o.lockup) = true → o.regWrite = false ∧ o.flagsWrite = false) : o.Shape i :=
  i.shape_quiet hr hm ho (fun h => absurd h (by simp [hc])) ht

lemma shape_access (addr : Word) {op : MemoryOp} (hop : op.Shape) (hn : op.nextPc = i.postIncrementPc)
    (hl : op.setReservation = true → op.reservationAddr = addr)
    (hf : op.flagsWrite = true → i.llReservationValid = true ∧ i.llReservationAddr = addr) :
    (i.access addr op).Shape i :=
  ⟨rfl, fun _ => hop, hn, fun _ => ⟨rfl, rfl, rfl⟩, fun _ => hl, fun _ => hf, nofun, nofun⟩

lemma shape_unlinked (addr : Word) {op : MemoryOp} (hop : op.Shape) (hn : op.nextPc = i.postIncrementPc)
    (hl : op.setReservation = false) (hf : op.flagsWrite = false) : (i.access addr op).Shape i :=
  i.shape_access addr hop hn (fun h => absurd h (by simp [hl])) (fun h => absurd h (by simp [hf]))

lemma shape_loadFrom (addr : Word) (op : LsOpcode) : (i.loadFrom addr (loadWidth op)).Shape i := by
  apply i.shape_unlinked addr _ rfl rfl rfl
  constructor <;> cases op <;> simp [loadWidth, noMemory]

lemma shape_storeTo (addr value : Word) (op : LsOpcode) : (i.storeTo addr (storeWidth op) value).Shape i := by
  apply i.shape_unlinked addr _ rfl rfl rfl
  constructor <;> cases op <;> simp [storeWidth, noMemory]

lemma shape_executeLsReg : i.executeLsReg.Shape i := by
  unfold executeLsReg
  cases i.lsOpcode with
  | load | byteLoad | shortLoad | wordLoad => exact i.shape_loadFrom _ _
  | store | byteStore | shortStore | wordStore => exact i.shape_storeTo _ _ _
  | push | pop => exact i.shape_unlinked _ (by constructor <;> simp [noMemory]) rfl rfl rfl
  | move | jumpZ | jumpC | jumpS | jumpGT | jumpLT => exact i.shape_plain rfl rfl rfl rfl nofun

lemma shape_executeLsPcRel : i.executeLsPcRel.Shape i := by
  unfold executeLsPcRel
  cases i.lsOpcode with
  | load | byteLoad | shortLoad | wordLoad => exact i.shape_loadFrom _ _
  | store | byteStore | shortStore | wordStore => exact i.shape_storeTo _ _ _
  | push | pop => exact i.shape_unlinked _ (by constructor <;> simp [noMemory]) rfl rfl rfl
  | move | jumpZ | jumpC | jumpS | jumpGT | jumpLT => exact i.shape_plain rfl rfl rfl rfl nofun

lemma shape_executeGp : i.executeGp.Shape i := by
  unfold executeGp
  cases instructionGpOpcode i.instruction with
  | none => exact i.shape_plain rfl rfl rfl rfl fun _ => ⟨rfl, rfl⟩
  | some op =>
    cases op with
    | llr =>
      exact i.shape_access _ (by constructor <;> simp [noMemory]) rfl (fun _ => rfl) nofun
    | scr =>
      cases h : i.llReservationValid && i.llReservationAddr == i.operandB with
      | true =>
        simp only [h, if_true]
        simp only [Bool.and_eq_true, beq_iff_eq] at h
        exact i.shape_access _ (by constructor <;> simp [noMemory, withZero_zero]) rfl nofun (fun _ => h)
      | false =>
        simp only [h, Bool.false_eq_true, if_false]
        exact i.shape_quiet rfl rfl rfl (fun _ => ⟨h, i.withZero_zero false⟩) nofun
    | lsr | ssr | iret | stop =>
      simp only
      split <;> first
        | exact i.shape_plain rfl rfl rfl rfl (fun h => absurd h Bool.false_ne_true)
        | exact i.shape_plain rfl rfl rfl rfl fun _ => ⟨rfl, rfl⟩
    | syscall => exact i.shape_plain rfl rfl rfl rfl fun _ => ⟨rfl, rfl⟩
    | _ => exact i.shape_plain rfl rfl rfl rfl nofun

theorem shape_outputs : i.outputs.Shape i := by
  cases hv : i.valid with
  | false =>
    rw [outputs_of_invalid hv]
    exact i.shape_plain rfl rfl rfl rfl nofun
  | true =>
    rcases i.group_cases with h | h | h | ⟨h, h7⟩ | ⟨h, h7⟩
    · rw [outputs_of_lsReg hv h]
      exact i.shape_executeLsReg
    · rw [outputs_of_lsPcRel hv h]
      exact i.shape_executeLsPcRel
    · rw [outputs_of_ldi hv h]
      exact i.shape_plain rfl rfl rfl rfl nofun
    · rw [outputs_of_jump hv h h7]
      exact i.shape_plain rfl rfl rfl rfl nofun
    · rw [outputs_of_gp hv h h7]
      exact i.shape_executeGp

end ExecuteInputs

namespace Core

variable {c : CoreConfig} (s : Core c)

theorem execute_shape : s.execute.Shape (s.executeInputs s.specialWriteAccessFault) :=
  ExecuteInputs.shape_outputs _

variable {s} {i : CoreInputs c}

/-- The memory latch holds an operation of the shape that the execute stage gives. -/
lemma nextXm_shape (hs : s.xm.valid = true → s.xm.op.Shape) (h : (s.nextXm i).valid = true) :
    (s.nextXm i).op.Shape := by
  change (s.managedXm i).op.Shape
  obtain ⟨_, _, _, ⟨_, _, hm⟩ | ⟨_, hx, hm⟩ | ⟨_, _, hv, hm⟩⟩ := nextXm_cases h
  · rw [hm]
    exact ⟨by simp [chainedXm], by simp [chainedXm], by simp [chainedXm], by simp [chainedXm], by simp [chainedXm]⟩
  · rw [hm]
    apply (execute_shape s).memory
    simp only [executeToMemory, Bool.and_eq_true] at hx
    exact hx.1.1.1.1.1.2
  · rw [hm]
    exact hs hv

end Core

end Little64.Hdl

import Little64.Hdl.BasicSystem
import Little64.Hdl.InstructionStep
import Little64.Hdl.StepEquivalence

/-! One instruction over a byte memory, as the pipelined cores execute it, and the same instruction in the execute
state of the basic core. -/

namespace Little64.Hdl

open Emulator (Reg LsOpcode GpOpcode)
open ByteMemory

/-- What instructions read and leave, with the next address in `R15`, and how many there were. -/
@[ext]
structure Machine where
  regs : Reg → Word
  flags : Flags
  memory : Memory 64
  retired : ℕ

/-- A request against a memory that is writable in places. -/
def Request.serve (writable : Word → Bool) (m : Memory 64) : Request → Memory 64
  | .read _ _ => m
  | .write addr widthBytes data => masked writable (store m addr widthBytes data) m

namespace Machine

variable (writable : Word → Bool) (i : ExecuteInputs) (m : Machine)

def fetched : BitVec 16 := load 16 m.memory (m.regs 15) 2

/-- The registers as the instruction finds them, with the PC behind it. -/
def entry : Reg → Word := setPc m.regs (m.regs 15 + 2)

def executeInputs : ExecuteInputs := i.decoded (.alone m.fetched m.entry m.flags)

def outputs : ExecuteOutputs := (m.executeInputs i).outputs

/-- What memory answers to the first access of an execute output. -/
def answer (o : ExecuteOutputs) : Word := load 64 m.memory o.memoryAddr o.memory.widthBytes

/-- The machine behind an instruction with this result. -/
def leave (r : StepResult) : Machine where
  regs := setPc r.regs r.nextPc
  flags := r.flags
  memory := r.requests.foldl (Request.serve writable) m.memory
  retired := m.retired + 1

def step : Machine := m.leave writable (instructionStep i m.fetched m.entry m.flags (m.answer (m.outputs i)))

end Machine

namespace PendingAccess

variable (writable : Word → Bool) (p : PendingAccess) (m : Machine)

/-- A pending store over the memory. -/
def performStore : Machine where
  regs := setPc (p.storeRegs m.regs) p.nextPcAfterStore
  flags := m.flags
  memory := masked writable (store m.memory p.addr p.widthBytes p.storeValue) m.memory
  retired := m.retired + 1

/-- A pending load over the memory, with the store that it may be chained to. -/
def performLoad : Machine :=
  let loadResult := load 64 m.memory p.addr p.widthBytes
  if p.chainStore then
    (p.chained loadResult).performStore writable { m with regs := p.loadRegs m.regs loadResult }
  else { m with
    regs := setPc (p.loadRegs m.regs loadResult) (p.nextPcAfterLoad loadResult)
    retired := m.retired + 1 }

def perform : Machine := if p.memWrite then p.performStore writable m else p.performLoad writable m

/-- The widths of the loads and stores. -/
def Sized : Prop := p.widthBytes = 1 ∨ p.widthBytes = 2 ∨ p.widthBytes = 4 ∨ p.widthBytes = 8

end PendingAccess

lemma written_eq_writeReg (regs : Reg → Word) (r : Reg) (value : Word) : written regs r value = writeReg regs r value := by
  funext x
  simp only [written, RegWrites.apply, writeReg, Bool.false_eq_true, false_and, if_false, true_and]
  split_ifs with h h' h'
  · rfl
  · exact absurd ⟨h.2.symm, h.1⟩ h'
  · exact absurd ⟨h'.2, h'.1.symm⟩ h
  · rfl

lemma writeReg_at_zero (regs : Reg → Word) (r : Reg) (value : Word) : writeReg regs r value 0 = regs 0 :=
  if_neg fun h => h.2 h.1.symm

lemma setPc_congr {f g : Reg → Word} (h : ∀ r, r ≠ 15 → f r = g r) (pc : Word) : setPc f pc = setPc g pc := by
  funext r
  simp only [setPc]
  split
  · rfl
  · next hr => exact h r hr

lemma setPc_writeReg_entry (m : Machine) (r : Reg) (value pc : Word) :
    setPc (writeReg m.entry r value) pc = setPc (writeReg m.regs r value) pc := by
  apply setPc_congr
  intro x hx
  simp only [writeReg, Machine.entry, setPc, if_neg hx]

lemma setPc_entry (m : Machine) (pc : Word) : setPc m.entry pc = setPc m.regs pc := by
  apply setPc_congr
  intro x hx
  exact if_neg hx

section Shifts

variable {a : Word} {n : ℕ}

lemma leftShifted_eq (a : Word) (n : ℕ) : leftShifted a n = sllResult a n := by
  rw [leftShifted, sllResult]
  by_cases h0 : n = 0
  · simp [h0]
  · rw [if_neg h0]
    split
    · rfl
    · ext j hj
      simp

lemma rightShifted_eq (a : Word) (n : ℕ) : rightShifted a n = srlResult a n := by
  rw [rightShifted, srlResult]
  by_cases h0 : n = 0
  · simp [h0]
  · rw [if_neg h0]

lemma arithmeticRightShifted_eq (a : Word) (n : ℕ) : arithmeticRightShifted a n = sraResult a n := by
  rw [arithmeticRightShifted, sraResult]
  by_cases h0 : n = 0
  · simp [h0]
  · rw [if_neg h0]

lemma shiftLeft_eq_zero_iff (a : Word) (n : ℕ) : a <<< n = 0 ↔ a.extractLsb' 0 (64 - n) = 0 := by
  have hlow : ∀ j, (a.extractLsb' 0 (64 - n)).getLsbD j = (decide (j < 64 - n) && a.getLsbD j) := fun j => by
    rw [BitVec.getLsbD_extractLsb', Nat.zero_add]
  have hzero : ∀ w j, (0 : BitVec w).getLsbD j = false := fun _ _ => BitVec.getLsbD_zero
  constructor
  · intro h
    apply BitVec.eq_of_getLsbD_eq
    intro j hj
    have hbit := congrArg (fun x => x.getLsbD (j + n)) h
    simp only [BitVec.getLsbD_shiftLeft, Nat.add_sub_cancel, hzero,
      show j + n < 64 by omega, show ¬ j + n < n by omega, decide_true, decide_false, Bool.not_false,
      Bool.true_and] at hbit
    rw [hlow, hbit, Bool.and_false, hzero]
  · intro h
    apply BitVec.eq_of_getLsbD_eq
    intro j hj
    have hbit := (hlow (j - n)).symm.trans (congrArg (fun x => x.getLsbD (j - n)) h)
    rw [BitVec.getLsbD_shiftLeft, hzero, decide_eq_true hj, Bool.true_and]
    by_cases hn : j < n
    · rw [decide_eq_true hn]
      rfl
    · rw [decide_eq_true (by omega), Bool.true_and] at hbit
      rw [hbit, hzero, Bool.and_false]

lemma ushiftRight_eq_zero_iff (a : Word) (n : ℕ) : a >>> n = 0 ↔ a.extractLsb' n (64 - n) = 0 := by
  constructor
  · intro h
    apply BitVec.eq_of_getLsbD_eq
    intro j hj
    have hbit := congrArg (fun x => x.getLsbD j) h
    simpa [hj] using hbit
  · intro h
    apply BitVec.eq_of_getLsbD_eq
    intro j hj
    have hbit := congrArg (fun x => x.getLsbD j) h
    by_cases hn : j < 64 - n
    · simpa [hn] using hbit
    · simp [BitVec.getLsbD_of_ge a (n + j) (by omega)]

/-- Flags computed apart from the result, where they are those of the result. -/
lemma shiftFlags_eq {result : Word} {zero sign : Bool} (carry : Bool) (hzero : zero = (result == 0))
    (hsign : sign = result.msb) : shiftFlags zero carry sign = flagValue result carry := by
  rw [hzero, hsign]
  rfl

lemma sll_flags {n : ℕ} (hn : n ≤ 64) (a : Word) (carry : Bool) :
    shiftFlags (sllZero a n) carry (sllSign a n) = flagValue (sllResult a n) carry := by
  apply shiftFlags_eq carry
  · rw [sllZero, sllResult]
    split
    · rfl
    split
    · rfl
    · rw [Bool.eq_iff_iff, beq_iff_eq, beq_iff_eq]
      exact (shiftLeft_eq_zero_iff a n).symm
  · rw [sllSign, sllResult]
    split
    · rfl
    split
    · rfl
    · rw [BitVec.msb_eq_getLsbD_last, BitVec.getLsbD_shiftLeft]
      simp [show ¬ 63 < n by omega]

lemma srl_flags (a : Word) (n : ℕ) (carry : Bool) :
    shiftFlags (srlZero a n) carry (srlSign a n) = flagValue (srlResult a n) carry := by
  apply shiftFlags_eq carry
  · rw [srlZero, srlResult]
    split
    · rfl
    split
    · rfl
    · rw [Bool.eq_iff_iff, beq_iff_eq, beq_iff_eq]
      exact (ushiftRight_eq_zero_iff a n).symm
  · rw [srlSign, srlResult]
    split
    · rfl
    split
    · rfl
    · next h0 _ =>
      rw [BitVec.msb_eq_getLsbD_last, BitVec.getLsbD_ushiftRight, BitVec.getLsbD_of_ge a _ (by omega)]

lemma sra_flags (a : Word) (n : ℕ) (carry : Bool) :
    shiftFlags (sraZero a n) carry a.msb = flagValue (sraResult a n) carry := by
  apply shiftFlags_eq carry
  · rw [sraZero, sraResult]
    split
    · rfl
    split
    · cases a.msb <;> rfl
    · cases hm : a.msb with
      | false =>
        rw [BitVec.sshiftRight_eq_of_msb_false hm, Bool.not_false, Bool.true_and, Bool.eq_iff_iff, beq_iff_eq,
          beq_iff_eq]
        exact (ushiftRight_eq_zero_iff a n).symm
      | true =>
        have hne : a.sshiftRight n ≠ 0 := fun h => by
          have hmsb := congrArg BitVec.msb h
          rw [BitVec.msb_sshiftRight, hm] at hmsb
          cases hmsb
        rw [beq_eq_false_iff_ne.2 hne]
        rfl
  · rw [sraResult]
    split
    · rfl
    split
    · cases h : a.msb <;> rfl
    · rw [BitVec.msb_sshiftRight]

end Shifts

/-- The core is about to execute the instruction at the machine's PC. -/
structure Executes {c : BasicConfig} (m : Machine) (s : BasicCore c) : Prop where
  state : s.state = .execute
  instruction : s.currentInstruction = m.fetched
  fetchPc : s.fetchPc = m.regs 15
  regs : s.regs = m.regs
  zero : m.regs 0 = 0
  flags : s.flags = m.flags

namespace Executes

variable {c : BasicConfig} {m : Machine} {s : BasicCore c} (h : Executes m s) (i : ExecuteInputs)
include h

lemma rd : (m.executeInputs i).rd = s.rd := by
  rw [BasicCore.rd, h.instruction]
  rfl

lemma rs1 : (m.executeInputs i).rs1 = s.rs1 := by
  rw [BasicCore.rs1, h.instruction]
  rfl

lemma lsOpcode : (m.executeInputs i).lsOpcode = s.lsOpcode := by
  rw [BasicCore.lsOpcode, h.instruction]
  rfl

lemma postIncrementPc : (m.executeInputs i).postIncrementPc = s.postIncrementPc := by
  rw [BasicCore.postIncrementPc, h.fetchPc]
  rfl

lemma operand {r : Reg} (hr : r ≠ 15) : (DecodeInputs.alone m.fetched m.entry m.flags).operand r = s.regs r := by
  rw [h.regs]
  by_cases h0 : r = 0
  · rw [DecodeInputs.operand, if_pos h0, h0, h.zero]
  · rw [DecodeInputs.operand, if_neg h0]
    exact if_neg hr

lemma operandA (hr : s.rd ≠ 15) : (m.executeInputs i).operandA = s.a := by
  have hrd : instructionRd m.fetched = s.rd := h.rd i
  change (DecodeInputs.alone m.fetched m.entry m.flags).operand (instructionRd m.fetched) = s.regs s.rd
  rw [hrd, h.operand hr]

lemma operandB (hr : s.rs1 ≠ 15) : (m.executeInputs i).operandB = s.b := by
  have hrs1 : instructionRs1 m.fetched = s.rs1 := h.rs1 i
  change (DecodeInputs.alone m.fetched m.entry m.flags).operand (instructionRs1 m.fetched) = s.regs s.rs1
  rw [hrs1, h.operand hr]

lemma lsRdValue : (m.executeInputs i).lsRdValue = s.lsRdValue := by
  rw [ExecuteInputs.lsRdValue, BasicCore.lsRdValue, h.rd i, h.postIncrementPc i]
  split
  · rfl
  · next hr => exact h.operandA i hr

lemma lsRs1Value : (m.executeInputs i).lsRs1Value = s.lsRs1Value := by
  rw [ExecuteInputs.lsRs1Value, BasicCore.lsRs1Value, h.rs1 i, h.postIncrementPc i]
  split
  · rfl
  · next hr => exact h.operandB i hr

lemma lsAddr : (m.executeInputs i).lsAddr = s.lsAddr := by
  rw [ExecuteInputs.lsAddr, BasicCore.lsAddr, h.lsRs1Value i, h.instruction]
  rfl

lemma lsPcEffective : (m.executeInputs i).lsPcEffective = s.lsPcEffective := by
  rw [ExecuteInputs.lsPcEffective, BasicCore.lsPcEffective, h.postIncrementPc i, h.instruction]
  rfl

lemma lsJumpTarget : (m.executeInputs i).lsJumpTarget = s.lsJumpEffective := by
  rw [ExecuteInputs.lsJumpTarget, BasicCore.lsJumpEffective, h.postIncrementPc i, h.instruction]
  rfl

lemma lsJumpTaken : (m.executeInputs i).lsJumpTaken = s.lsCondition := by
  rw [ExecuteInputs.lsJumpTaken, BasicCore.lsCondition, h.lsOpcode i, h.flags]
  rfl

end Executes

/-- What the execute state makes of an instruction that leaves the machine so: it ends it, or starts the access that
ends it. -/
inductive Executed {c : BasicConfig} (writable : Word → Bool) (inputs : BasicInputs c) (s : BasicCore c) (m m' : Machine)
    (cycle : BasicCycle c) : Prop
  | retires (next : BasicCore c) : cycle = s.retire inputs next → next.state = .fetchTranslate →
      next.splitFirstCycle = s.splitFirstCycle → m' = ⟨next.regs, next.flags, m.memory, m.retired + 1⟩ →
      Executed writable inputs s m m' cycle
  | accesses (next : BasicCore c) : cycle = s.move inputs next → next.state = .memTranslate →
      next.splitFirstCycle = s.splitFirstCycle → next.regs 0 = s.regs 0 → next.pending.Sized →
      m' = next.pending.perform writable ⟨next.regs, next.flags, m.memory, m.retired⟩ →
      Executed writable inputs s m m' cycle

section Groups

variable {c : BasicConfig} {m : Machine} {s : BasicCore c} {writable : Word → Bool} {inputs : BasicInputs c}
  {i : ExecuteInputs} (h : Executes m s)

lemma Machine.step_eq {o : ExecuteOutputs} (ho : m.outputs i = o) :
    m.step writable i = m.leave writable (o.perform m.entry m.flags (m.answer o)) := by
  subst ho
  rfl

lemma Machine.step_zero (i : ExecuteInputs) : (m.step writable i).regs 0 = m.regs 0 := by
  change (instructionStep i m.fetched m.entry m.flags (m.answer (m.outputs i))).regs 0 = _
  rw [instructionStep, ExecuteOutputs.perform]
  split
  · exact RegWrites.apply_zero _ m.entry
  · change RegWrites.apply ⟨_, _, _, false, 0, 0⟩ m.entry 0 = m.entry 0
    exact RegWrites.apply_zero _ m.entry

lemma sized_loadWidth (op : LsOpcode) : loadWidth op = 1 ∨ loadWidth op = 2 ∨ loadWidth op = 4 ∨ loadWidth op = 8 := by
  cases op <;> simp [loadWidth]

lemma sized_storeWidth (op : LsOpcode) :
    storeWidth op = 1 ∨ storeWidth op = 2 ∨ storeWidth op = 4 ∨ storeWidth op = 8 := by
  cases op <;> simp [storeWidth]

lemma store_narrow {width : ℕ} (hw : width = 1 ∨ width = 2 ∨ width = 4 ∨ width = 8) (memory : Memory 64)
    (addr value : Word) : store memory addr width (narrow width value) = store memory addr width value := by
  have hsized : (⟨.idle, 0, width, false, 0, 0, 0⟩ : Lsu).Sized := hw
  have hwidth : width ≤ 8 := by
    rcases hw with rfl | rfl | rfl | rfl <;> decide
  rw [show narrow width value = LittleEndian.lowBytes width value from Lsu.narrow_eq hsized value]
  funext x
  by_cases hx : InRange addr width x
  · have hlt : (x - addr).toNat < width := hx
    rw [store_of_inRange _ _ _ _ hx, store_of_inRange _ _ _ _ hx, LittleEndian.lowBytes,
      LittleEndian.byteAt_assemble _ _ _ hlt (by omega)]
  · rw [store_of_not_inRange _ _ _ _ hx, store_of_not_inRange _ _ _ _ hx]

lemma writeReg_zero (regs : Reg → Word) (value : Word) : writeReg regs 0 value = regs := by
  funext r
  exact if_neg fun hr => hr.2 rfl

/-- A result without a memory access. -/
lemma Executed.of_quiet {o : ExecuteOutputs} {regs : Reg → Word} {pc : Word} {flags : Flags} (ho : m.outputs i = o)
    (hstart : o.memoryStart = false)
    (hregs : setPc (RegWrites.apply ⟨o.regWrite, o.regIndex, o.regValue, false, 0, 0⟩ m.entry) o.nextPc = setPc regs pc)
    (hflags : (if o.flagsWrite then o.flagsValue else m.flags) = flags) :
    Executed writable inputs s m (m.step writable i) (s.retire inputs { s.next regs pc with flags := flags }) := by
  refine .retires _ rfl rfl rfl ?_
  rw [Machine.step_eq ho, perform_quiet _ _ _ hstart, Machine.leave, hregs, hflags]
  rfl

include h

/-- A load, whatever its address. -/
lemma Executes.startsLoad {addr : Word} {width : ℕ} (hw : width = 1 ∨ width = 2 ∨ width = 4 ∨ width = 8)
    (ho : m.outputs i = (m.executeInputs i).loadFrom addr width) :
    Executed writable inputs s m (m.step writable i)
      (s.move inputs (s.access { s.startAccess addr width false with rd := s.rd })) := by
  refine .accesses _ rfl rfl rfl rfl hw ?_
  rw [Machine.step_eq ho, perform_loadFrom, h.rd i, h.postIncrementPc i, written_eq_writeReg, Machine.leave,
    setPc_writeReg_entry, ← h.regs, ← h.flags]
  rfl

lemma Executes.startsStore {addr value : Word} {width : ℕ} (hw : width = 1 ∨ width = 2 ∨ width = 4 ∨ width = 8)
    (ho : m.outputs i = (m.executeInputs i).storeTo addr width value) :
    Executed writable inputs s m (m.step writable i)
      (s.move inputs (s.access { s.startAccess addr width true with storeValue := value })) := by
  refine .accesses _ rfl rfl rfl rfl hw ?_
  rw [Machine.step_eq ho, perform_storeTo, h.postIncrementPc i, Machine.leave, setPc_entry, ← h.regs, ← h.flags]
  change (⟨_, _, masked writable (store m.memory addr width (narrow width value)) m.memory, _⟩ : Machine) = _
  rw [store_narrow hw]
  rfl

lemma Executes.startsPush (hrd : s.rd ≠ 15) (hop : s.lsOpcode = .push)
    (ho : m.outputs i = (m.executeInputs i).executeLsReg) :
    Executed writable inputs s m (m.step writable i) (s.executeLsReg inputs) := by
  have hcycle : s.executeLsReg inputs =
      s.move inputs { s.access { s.startAccess s.lsPushAddr 8 true with storeValue := s.lsRs1Value } with
        regs := writeReg s.regs s.rd s.lsPushAddr } := by
    rw [BasicCore.executeLsReg, hop]
  rw [hcycle]
  refine .accesses _ rfl rfl rfl (writeReg_at_zero _ _ _) (.inr (.inr (.inr rfl))) ?_
  rw [Machine.step_eq ho, perform_push _ _ _ _ (by rw [h.lsOpcode i, hop]), h.rd i, h.lsRdValue i, h.lsRs1Value i,
    h.postIncrementPc i, written_eq_writeReg, Machine.leave, setPc_writeReg_entry, if_neg hrd, ← h.regs, ← h.flags]
  rfl

lemma Executes.startsPop (hop : s.lsOpcode = .pop) (ho : m.outputs i = (m.executeInputs i).executeLsReg) :
    Executed writable inputs s m (m.step writable i) (s.executeLsReg inputs) := by
  have hop' : (m.executeInputs i).lsOpcode = .pop := (h.lsOpcode i).trans hop
  have hcycle : s.executeLsReg inputs =
      s.move inputs (s.access { s.startAccess s.lsRdValue 8 false with
        rd := s.rs1
        postMemReg := s.rd
        postMemValue := s.lsRdValue + 8
        postMemDelta := 8
        postMemWrite := true
        postMemUseLoadResult := s.rd == s.rs1 }) := by
    rw [BasicCore.executeLsReg, hop]
  have hanswer : m.answer (m.executeInputs i).executeLsReg = load 64 m.memory s.lsRdValue 8 := by
    rw [Machine.answer, ExecuteInputs.executeLsReg, hop', ← h.lsRdValue i]
    rfl
  have hregs : ∀ (r r' : Reg) (v v' pc : Word),
      setPc (writeReg (writeReg m.entry r v) r' v') pc = setPc (writeReg (writeReg m.regs r v) r' v') pc := by
    intro r r' v v' pc
    apply setPc_congr
    intro x hx
    simp only [writeReg, Machine.entry, setPc, if_neg hx]
  have hpc : ∀ v v' : Word, (if s.rd = 15 then v' else if s.rs1 = 15 then v else s.postIncrementPc) =
      if true = true ∧ s.rd = 15 then v' else if s.rs1 = 15 then v else s.postIncrementPc := by
    intro v v'
    simp only [true_and]
  rw [hcycle]
  refine .accesses _ rfl rfl rfl rfl (.inr (.inr (.inr rfl))) ?_
  rw [Machine.step_eq ho, perform_pop _ _ _ _ hop', h.rd i, h.rs1 i, h.lsRdValue i, h.postIncrementPc i, hanswer,
    written_eq_writeReg, written_eq_writeReg, Machine.leave, hregs, ← h.regs, ← h.flags]
  by_cases hsame : s.rd = s.rs1
  · rw [if_pos hsame, hpc, beq_iff_eq.2 hsame]
    rfl
  · rw [if_neg hsame, hpc, beq_eq_false_iff_ne.2 hsame]
    rfl

lemma Executes.startsPushFrom (hrd : s.rd ≠ 15) (hop : s.lsOpcode = .push)
    (ho : m.outputs i = (m.executeInputs i).executeLsPcRel) :
    Executed writable inputs s m (m.step writable i) (s.executeLsPcRel inputs) := by
  have hop' : (m.executeInputs i).lsOpcode = .push := (h.lsOpcode i).trans hop
  have hcycle : s.executeLsPcRel inputs =
      s.move inputs (s.access { s.startAccess s.lsPcEffective 8 false with
        rd := 0
        postMemReg := s.rd
        postMemValue := s.lsPcPushAddr
        postMemWrite := true
        chainStore := true
        chainStoreAddr := s.lsPcPushAddr
        chainStoreUseLoadResult := true }) := by
    rw [BasicCore.executeLsPcRel, hop]
  have hpush : (m.executeInputs i).lsPcPushAddr = s.lsPcPushAddr := by
    rw [ExecuteInputs.lsPcPushAddr, h.operandA i hrd]
    rfl
  have hanswer : m.answer (m.executeInputs i).executeLsPcRel = load 64 m.memory s.lsPcEffective 8 := by
    rw [Machine.answer, ExecuteInputs.executeLsPcRel, hop', ← h.lsPcEffective i]
    rfl
  rw [hcycle]
  refine .accesses _ rfl rfl rfl rfl (.inr (.inr (.inr rfl))) ?_
  rw [Machine.step_eq ho, perform_pushFrom _ _ _ _ hop', h.rd i, h.lsPcEffective i, hpush, h.postIncrementPc i, hanswer,
    written_eq_writeReg, Machine.leave, setPc_writeReg_entry, if_neg hrd, ← h.regs, ← h.flags,
    ← writeReg_zero s.regs (load 64 m.memory s.lsPcEffective 8)]
  rfl

lemma Executes.startsPopTo (hrd : s.rd ≠ 15) (hop : s.lsOpcode = .pop)
    (ho : m.outputs i = (m.executeInputs i).executeLsPcRel) :
    Executed writable inputs s m (m.step writable i) (s.executeLsPcRel inputs) := by
  have hop' : (m.executeInputs i).lsOpcode = .pop := (h.lsOpcode i).trans hop
  have hcycle : s.executeLsPcRel inputs =
      s.move inputs (s.access { s.startAccess s.a 8 false with
        rd := 0
        postMemReg := s.rd
        postMemValue := s.a + 8
        postMemWrite := true
        chainStore := true
        chainStoreAddr := s.lsPcEffective
        chainStoreUseLoadResult := true }) := by
    rw [BasicCore.executeLsPcRel, hop]
  have hanswer : m.answer (m.executeInputs i).executeLsPcRel = load 64 m.memory s.a 8 := by
    rw [Machine.answer, ExecuteInputs.executeLsPcRel, hop', ← h.operandA i hrd]
    rfl
  rw [hcycle]
  refine .accesses _ rfl rfl rfl rfl (.inr (.inr (.inr rfl))) ?_
  rw [Machine.step_eq ho, perform_popTo _ _ _ _ hop', h.rd i, h.lsPcEffective i, h.operandA i hrd, h.postIncrementPc i,
    hanswer, written_eq_writeReg, Machine.leave, setPc_writeReg_entry, if_neg hrd, ← h.regs, ← h.flags,
    ← writeReg_zero s.regs (load 64 m.memory s.a 8)]
  rfl

/-- A result for `rd`. -/
lemma Executes.writes {o : ExecuteOutputs} {value pc : Word} {flags : Flags} (ho : m.outputs i = o)
    (hstart : o.memoryStart = false) (hwrite : o.regWrite = true) (hindex : o.regIndex = (m.executeInputs i).rd)
    (hvalue : o.regValue = value) (hpc : o.nextPc = pc)
    (hflags : (if o.flagsWrite then o.flagsValue else m.flags) = flags) :
    Executed writable inputs s m (m.step writable i)
      (s.retire inputs { s.next (writeReg s.regs s.rd value) pc with flags := flags }) := by
  refine .of_quiet ho hstart ?_ hflags
  rw [hwrite, hindex, hvalue, hpc, h.rd i, h.regs, ← setPc_writeReg_entry, ← written_eq_writeReg]
  rfl

/-- No result but the next address. -/
lemma Executes.jumps {o : ExecuteOutputs} {pc : Word} {flags : Flags} (ho : m.outputs i = o)
    (hstart : o.memoryStart = false) (hwrite : o.regWrite = false) (hpc : o.nextPc = pc)
    (hflags : (if o.flagsWrite then o.flagsValue else m.flags) = flags) :
    Executed writable inputs s m (m.step writable i) (s.retire inputs { s.next s.regs pc with flags := flags }) := by
  refine .of_quiet ho hstart ?_ hflags
  rw [hwrite, hpc, h.regs, ← setPc_entry]
  rfl

/-- The source or destination is the PC where the execute state reads the address of the instruction for it. -/
def ReadsPc (raw : BitVec 16) : Prop :=
  instructionTop2 raw = 0 ∧ instructionRd raw = 15 ∧ instructionLsOpcode raw = .push ∨
    instructionTop2 raw = 1 ∧ instructionRd raw = 15 ∧
      instructionLsOpcode raw ∈ [LsOpcode.store, .byteStore, .shortStore, .wordStore, .push, .pop] ∨
    instructionTop2 raw = 3 ∧ instructionTop3 raw ≠ 7 ∧
      (instructionRd raw = 15 ∨ instructionRs1 raw = 15 ∧
        instructionGpOpcode raw ∉ [some GpOpcode.slli, some .srli, some .srai])

instance (raw : BitVec 16) : Decidable (ReadsPc raw) := inferInstanceAs (Decidable (_ ∨ _ ∨ _))

lemma Executes.lsReg (hpc : ¬ ReadsPc m.fetched) (htop : instructionTop2 m.fetched = 0) :
    Executed writable inputs s m (m.step writable i) (s.executeLsReg inputs) := by
  have ho : m.outputs i = (m.executeInputs i).executeLsReg := ExecuteInputs.outputs_of_lsReg rfl htop
  have hop := h.lsOpcode i
  cases hcase : s.lsOpcode with
  | load | byteLoad | shortLoad | wordLoad =>
    rw [hcase] at hop
    rw [ExecuteInputs.executeLsReg, hop, h.lsAddr i] at ho
    rw [BasicCore.executeLsReg, hcase]
    exact h.startsLoad (sized_loadWidth _) ho
  | store | byteStore | shortStore | wordStore =>
    rw [hcase] at hop
    rw [ExecuteInputs.executeLsReg, hop, h.lsAddr i, h.lsRdValue i] at ho
    rw [BasicCore.executeLsReg, hcase]
    exact h.startsStore (sized_storeWidth _) ho
  | push =>
    refine h.startsPush (fun hrd => hpc (.inl ⟨htop, ?_, ?_⟩)) hcase ho
    · exact (h.rd i).trans hrd
    · exact hop.trans hcase
  | pop => exact h.startsPop hcase ho
  | move =>
    rw [hcase] at hop
    rw [ExecuteInputs.executeLsReg, hop, h.lsAddr i, h.rd i, h.postIncrementPc i] at ho
    rw [BasicCore.executeLsReg, hcase]
    exact h.writes ho rfl rfl rfl rfl rfl h.flags.symm
  | jumpZ | jumpC | jumpS | jumpGT | jumpLT =>
    rw [hcase] at hop
    rw [ExecuteInputs.executeLsReg, hop, h.lsJumpTaken i, h.lsAddr i, h.rd i, h.postIncrementPc i] at ho
    rw [BasicCore.executeLsReg, hcase]
    cases htaken : s.lsCondition with
    | false =>
      rw [htaken] at ho
      exact h.jumps ho rfl rfl rfl h.flags.symm
    | true =>
      rw [htaken] at ho
      exact h.writes ho rfl rfl rfl rfl rfl h.flags.symm

lemma Executes.lsPcRel (hpc : ¬ ReadsPc m.fetched) (htop : instructionTop2 m.fetched = 1) :
    Executed writable inputs s m (m.step writable i) (s.executeLsPcRel inputs) := by
  have ho : m.outputs i = (m.executeInputs i).executeLsPcRel := ExecuteInputs.outputs_of_lsPcRel rfl htop
  have hop := h.lsOpcode i
  have hrd : s.lsOpcode ∈ [LsOpcode.store, .byteStore, .shortStore, .wordStore, .push, .pop] → s.rd ≠ 15 :=
    fun hmem he => hpc (.inr (.inl ⟨htop, (h.rd i).trans he, by rw [← hop] at hmem; exact hmem⟩))
  cases hcase : s.lsOpcode with
  | load | byteLoad | shortLoad | wordLoad =>
    rw [hcase] at hop
    rw [ExecuteInputs.executeLsPcRel, hop, h.lsPcEffective i] at ho
    rw [BasicCore.executeLsPcRel, hcase]
    exact h.startsLoad (sized_loadWidth _) ho
  | store | byteStore | shortStore | wordStore =>
    have hkept : s.rd ≠ 15 := hrd (by rw [hcase]; decide)
    rw [hcase] at hop
    rw [ExecuteInputs.executeLsPcRel, hop, h.lsPcEffective i, h.operandA i hkept] at ho
    rw [BasicCore.executeLsPcRel, hcase]
    exact h.startsStore (sized_storeWidth _) ho
  | push => exact h.startsPushFrom (hrd (by rw [hcase]; decide)) hcase ho
  | pop => exact h.startsPopTo (hrd (by rw [hcase]; decide)) hcase ho
  | move =>
    rw [hcase] at hop
    rw [ExecuteInputs.executeLsPcRel, hop, h.lsPcEffective i, h.rd i, h.postIncrementPc i] at ho
    rw [BasicCore.executeLsPcRel, hcase]
    exact h.writes ho rfl rfl rfl rfl rfl h.flags.symm
  | jumpZ | jumpC | jumpS | jumpGT | jumpLT =>
    rw [hcase] at hop
    rw [ExecuteInputs.executeLsPcRel, hop, h.lsJumpTaken i, h.lsJumpTarget i, h.postIncrementPc i] at ho
    rw [BasicCore.executeLsPcRel, hcase]
    exact h.jumps ho rfl rfl rfl h.flags.symm

/-- An immediate for `R15` gives way to the next address, in whatever it was put together from. -/
lemma Executes.ldi (htop : instructionTop2 m.fetched = 2) :
    Executed writable inputs s m (m.step writable i)
      (s.retire inputs (s.next (writeReg s.regs s.rd s.ldiValue) s.postIncrementPc)) := by
  have ho := ExecuteInputs.outputs_of_ldi (i := m.executeInputs i) rfl htop
  refine .of_quiet ho rfl ?_ h.flags.symm
  change setPc (written m.entry (m.executeInputs i).rd (m.executeInputs i).ldiValue)
    (m.executeInputs i).postIncrementPc = _
  rw [written_eq_writeReg, setPc_writeReg_entry, h.rd i, h.postIncrementPc i, h.regs]
  by_cases hrd : s.rd = 15
  · apply setPc_congr
    intro r hr
    rw [writeReg, writeReg, if_neg fun he => hr (he.1.trans hrd), if_neg fun he => hr (he.1.trans hrd)]
  · have hvalue : (m.executeInputs i).ldiValue = s.ldiValue := by
      rw [ExecuteInputs.ldiValue, BasicCore.ldiValue, h.operandA i hrd, h.instruction]
      rfl
    rw [hvalue]

lemma Executes.jump (htop : instructionTop2 m.fetched = 3) (htop3 : instructionTop3 m.fetched = 7) :
    Executed writable inputs s m (m.step writable i)
      (s.retire inputs (s.next s.regs (s.postIncrementPc + pcRelative s.currentInstruction 0 13))) := by
  have ho := ExecuteInputs.outputs_of_jump (i := m.executeInputs i) rfl htop htop3
  refine h.jumps ho rfl rfl ?_ h.flags.symm
  rw [h.instruction, ← h.postIncrementPc i]
  rfl

omit h

lemma BasicCore.shiftIndex_eq (s : BasicCore c) : s.shiftIndex = min 64 s.b.toNat := by
  rw [shiftIndex]
  by_cases hb : 64 ≤ s.b.toNat
  · rw [min_eq_left hb]
    exact if_pos hb
  · rw [min_eq_right (by omega)]
    refine (if_neg hb).trans ?_
    rw [BitVec.toNat_setWidth]
    omega

lemma BasicCore.imm4_lt (s : BasicCore c) : s.imm4 < 16 := (instructionGpImm4 s.currentInstruction).isLt

/-- The ALU operations of the execute state. -/
lemma executeGp_plain {op : GpOpcode} (hop : instructionGpOpcode s.currentInstruction = some op)
    (hplain : PlainOpcode op) :
    s.executeGp inputs =
      if op = .test then
        s.retire inputs { s.next s.regs s.postIncrementPc with
          flags := flagValue (aluOutcome s.a s.b s.imm4 op).1 (aluOutcome s.a s.b s.imm4 op).2 }
      else
        s.alu inputs (aluOutcome s.a s.b s.imm4 op).1
          (flagValue (aluOutcome s.a s.b s.imm4 op).1 (aluOutcome s.a s.b s.imm4 op).2) := by
  have himm : s.imm4 ≤ 64 := s.imm4_lt.le.trans (by decide)
  have hshort : s.imm4 ≠ 64 := (s.imm4_lt.trans (by decide)).ne
  have hindex := s.shiftIndex_eq
  have hle : s.shiftIndex ≤ 64 := by rw [hindex]; exact min_le_left _ _
  rw [BasicCore.executeGp, hop]
  cases op with
  | add =>
    obtain ⟨hsum, hcarry⟩ := sum_eq s.a s.b
    simp only [BasicCore.sumValue, hsum, hcarry]
    rfl
  | sub | test | and | or | xor => rfl
  | sll =>
    have hresult : aluOutcome s.a s.b s.imm4 .sll = (sllResult s.a s.shiftIndex, sllCarry s.a s.shiftIndex) := by
      rw [hindex]
      rfl
    simp only [leftShifted_eq, sll_flags hle, hresult]
    rfl
  | srl =>
    have hresult : aluOutcome s.a s.b s.imm4 .srl = (srlResult s.a s.shiftIndex, srxCarry s.a s.shiftIndex) := by
      rw [hindex]
      rfl
    simp only [rightShifted_eq, srl_flags, hresult]
    rfl
  | sra =>
    have hresult : aluOutcome s.a s.b s.imm4 .sra = (sraResult s.a s.shiftIndex, srxCarry s.a s.shiftIndex) := by
      rw [hindex]
      rfl
    simp only [arithmeticRightShifted_eq, sra_flags, hresult]
    rfl
  | slli =>
    simp only [sll_flags himm, sllResult, if_neg hshort]
    rfl
  | srli =>
    simp only [srl_flags, srlResult, if_neg hshort]
    rfl
  | srai =>
    simp only [sra_flags, sraResult, if_neg hshort]
    rfl
  | llr | scr | syscall | lsr | ssr | iret | stop => exact hplain.elim

include h in
lemma Executes.gp {op : GpOpcode} (hpc : ¬ ReadsPc m.fetched) (htop : instructionTop2 m.fetched = 3)
    (htop3 : instructionTop3 m.fetched ≠ 7) (hop : instructionGpOpcode m.fetched = some op) (hplain : PlainOpcode op) :
    Executed writable inputs s m (m.step writable i) (s.executeGp inputs) := by
  have hrd : s.rd ≠ 15 := fun he => hpc (.inr (.inr ⟨htop, htop3, .inl ((h.rd i).trans he)⟩))
  have himm : (instructionGpImm4 m.fetched).toNat = s.imm4 := by rw [← h.instruction]; rfl
  -- the shifts by an immediate have it where the others name their second operand
  have hresult : aluOutcome s.a (m.executeInputs i).operandB (instructionGpImm4 m.fetched).toNat op =
      aluOutcome s.a s.b s.imm4 op := by
    rw [himm]
    by_cases hrs1 : s.rs1 = 15
    · have hshift : instructionGpOpcode m.fetched ∈ [some GpOpcode.slli, some .srli, some .srai] := by
        by_contra hnot
        exact hpc (.inr (.inr ⟨htop, htop3, .inr ⟨(h.rs1 i).trans hrs1, hnot⟩⟩))
      rw [hop] at hshift
      simp only [List.mem_cons, Option.some.injEq, List.not_mem_nil, or_false] at hshift
      rcases hshift with rfl | rfl | rfl <;> rfl
    · rw [h.operandB i hrs1]
  have ho := outputs_alu (i := m.executeInputs i) rfl rfl (h.operandA i hrd) rfl htop htop3 hop hplain
    hresult
  rw [executeGp_plain (by rw [h.instruction, hop]) hplain]
  by_cases htest : op = .test
  · rw [if_pos htest] at ho ⊢
    exact h.jumps ho rfl rfl (h.postIncrementPc i) rfl
  · rw [if_neg htest] at ho ⊢
    exact h.writes ho rfl rfl rfl rfl (h.postIncrementPc i) rfl

variable (writable inputs i) in
include h in
/-- The execute state on every plain instruction that does not read the PC as an operand. -/
theorem Executes.executed (hplain : PlainInstruction m.fetched) (hpc : ¬ ReadsPc m.fetched) :
    Executed writable inputs s m (m.step writable i) (s.cycle inputs) := by
  have hcycle : s.cycle inputs = s.cycleExecute inputs := by rw [BasicCore.cycle, h.state]
  rw [hcycle, BasicCore.cycleExecute, h.instruction]
  rcases (m.executeInputs i).group_cases with (htop : instructionTop2 m.fetched = 0) |
    (htop : instructionTop2 m.fetched = 1) | (htop : instructionTop2 m.fetched = 2) |
    ⟨(htop : instructionTop2 m.fetched = 3), (htop3 : instructionTop3 m.fetched = 7)⟩ |
    ⟨(htop : instructionTop2 m.fetched = 3), (htop3 : instructionTop3 m.fetched ≠ 7)⟩
  · rw [htop]
    exact h.lsReg hpc htop
  · rw [htop]
    exact h.lsPcRel hpc htop
  · rw [htop]
    exact h.ldi htop
  · rw [htop, htop3]
    rw [← h.instruction]
    exact h.jump htop htop3
  · obtain ⟨op, hop, hplain⟩ := hplain htop htop3
    rw [htop]
    change Executed _ _ _ _ _ (if instructionTop3 m.fetched = 7 then _ else _)
    rw [if_neg htop3]
    exact h.gp hpc htop htop3 hop hplain

end Groups

/-- What the core executes as the execute stage does: an instruction at an even address, without special registers and
traps, that does not read the PC where the execute state has no case for it. -/
structure Machine.Plain (m : Machine) : Prop where
  even : (m.regs 15).getLsbD 0 = false
  plain : PlainInstruction m.fetched
  operands : ¬ ReadsPc m.fetched

/-- The machine after some instructions. -/
def Machine.run (writable : Word → Bool) (i : ExecuteInputs) (m : Machine) : ℕ → Machine
  | 0 => m
  | n + 1 => (m.run writable i n).step writable i

end Little64.Hdl

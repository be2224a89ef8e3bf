import Little64.Emulator.DataFaults
import Little64.Emulator.Exceptions

/-! User-mode confinement of the special registers: an instruction run in user mode keeps them,
or enters a trap, or stops the CPU. -/

namespace Little64.Emulator

open Vectors

/-- The special registers that no user instruction may change: all but the thread pointer and the pending banks. -/
def Registers.privileged (r : Registers) : Registers :=
  { r.special with threadPointer := 0, interruptStates := 0, interruptStatesHigh := 0 }

def Registers.pending (r : Registers) : Word × Word := (r.interruptStates, r.interruptStatesHigh)

/-- The pending banks follow the device lines alone. -/
structure SpecialKept (s : Cpu) (lines : List Event) (t : Cpu) : Prop where
  privileged : t.registers.privileged = s.registers.privileged
  pending : t.registers.pending = (Runs.run step s lines).registers.pending
  user : t.registers.isUserMode = true

structure TrapEntry (s t : Cpu) : Prop where
  supervisor : t.registers.isUserMode = false
  inInterrupt : t.registers.isInInterrupt = true
  interruptsOff : t.registers.isInterruptEnabled = false
  saved : t.registers.interruptCpuControl = s.registers.cpuControl
  handler : s.handlerAddress t.registers.getCurrentInterruptNumber = some (t.reg 15)

def Confined (s : Cpu) (lines : List Event) (t : Cpu) : Prop :=
  SpecialKept s lines t ∨ TrapEntry s t ∨ t.isRunning = false

/-- What a user instruction must not do: go on in supervisor mode without the entry of one trap. -/
structure Escaped (s t : Cpu) : Prop where
  supervisor : t.registers.isUserMode = false
  entry : ¬ TrapEntry s t
  running : t.isRunning = s.isRunning

namespace Cpu

variable (s : Cpu)

/-- Where the access faults and enters its handler, the handler address is `value`. -/
def EntersAt (addr : Word) (access : AccessType) (value : Word) : Prop :=
  ∀ cause aux, s.mapResult addr access = .fault cause aux → s.Delivers cause → s.handlerAddress cause = some value

/-- The access does not fault, or its fault enters no handler. -/
def EntersNowhere (addr : Word) (access : AccessType) : Prop :=
  ∀ cause aux, s.mapResult addr access = .fault cause aux → ¬ s.Delivers cause

/-- The write after a read whose fault entered its handler leaves the entry of the first trap standing. -/
def TransferConfined (rd : Reg) (source delta : Word) (target : Word → Word) : Prop :=
  ∀ cause aux handler, s.mapResult source .read = .fault cause aux → s.Delivers cause →
    s.handlerAddress cause = some handler →
      match s.supervisorResult (target (if rd = 15 then handler + delta else s.reg rd + delta)) .write with
      | .mapped _ => rd ≠ 15
      | .fault next _ => ¬ s.Preempts cause next

/-- When a data access made in user mode is confined; `rd` is the destination of the instruction. -/
def KeepsConfinement (rd : Reg) : DataAccess → Prop
  | .load width rd addr => rd = 15 → s.EntersAt addr .read ((BitVec.allOnes width).setWidth 64)
  | .pop rd rs1 =>
    (rd = 15 → rs1 = 15 → s.EntersAt (s.reg rd) .read 7) ∧ (rd = 15 → rs1 ≠ 15 → s.EntersNowhere (s.reg rd) .read) ∧
      (rd ≠ 15 → rs1 = 15 → s.EntersAt (s.reg rd) .read (BitVec.allOnes 64))
  | .pushFrom rd effective => s.TransferConfined rd effective (-8) id
  | .popTo rd effective => s.TransferConfined rd (s.reg rd) 8 fun _ => effective
  | .loadLinked addr => rd = 15 → s.EntersAt addr .read (BitVec.allOnes 64)
  | _ => True

end Cpu

section Entry

variable {s s' t t' : Cpu} {n epc cause aux addr opPc handler : Word} {access : AccessType}

lemma isInterruptEnabled_entering {r : Registers} {control : Word} {num : BitVec 8}
    (h : r.cpuControl = Registers.enteringControl control num) : r.isInterruptEnabled = false := by
  have hbit : r.isInterruptEnabled = r.cpuControl.getLsbD 0 := BitFields.and_bit_ne_zero _ 0 (by decide)
  rw [hbit, h, Registers.getLsbD_enteringControl _ _ _ (by decide)]
  rfl

lemma TrapEntry.of_same (h : TrapEntry s t) (hc : s'.registers.cpuControl = s.registers.cpuControl)
    (hv : s'.SameVectors s) (h15 : t'.reg 15 = t.reg 15) (hcontrol : t'.registers.cpuControl = t.registers.cpuControl)
    (hsaved : t'.registers.interruptCpuControl = t.registers.interruptCpuControl) : TrapEntry s' t' where
  supervisor := (congrArg (· &&& Registers.cpuControlUserMode != 0) hcontrol).trans h.supervisor
  inInterrupt := (congrArg (· &&& 2 != 0) hcontrol).trans h.inInterrupt
  interruptsOff := (congrArg (· &&& 1 != 0) hcontrol).trans h.interruptsOff
  saved := hsaved.trans (h.saved.trans hc.symm)
  handler := by
    have hnum : t'.registers.getCurrentInterruptNumber = t.registers.getCurrentInterruptNumber := by
      rw [Registers.getCurrentInterruptNumber, hcontrol, Registers.getCurrentInterruptNumber]
    rw [hnum, h15, ← h.handler, hv.handlerAddress]

lemma first_le_of_ne (h : n ≠ noTrap) : firstExceptionVector ≤ n := by
  have h0 : n.toNat ≠ 0 := fun h0 => h (BitVec.eq_of_toNat_eq h0)
  rw [BitVec.le_def]
  exact Nat.one_le_iff_ne_zero.mpr h0

lemma trapEntry_raiseInterrupt (hn : n < 128) (h : (s.raiseInterrupt n true epc).1 = true) :
    TrapEntry s (s.raiseInterrupt n true epc).2 := by
  obtain ⟨handler, ha, he⟩ := Cpu.raiseInterrupt_entered h
  rw [he]
  have hcontrol : (s.enteredRegisters n true epc handler).cpuControl =
      Registers.enteringControl s.registers.cpuControl (n.setWidth 8) := rfl
  refine ⟨Registers.isUserMode_entering hcontrol, Registers.isInInterrupt_entering hcontrol,
    isInterruptEnabled_entering hcontrol, rfl, ?_⟩
  rw [Registers.currentInterrupt_entering hn hcontrol, ha]
  rfl

lemma stopped_raiseInterrupt (hn : n ≤ lastExceptionVector) (h : (s.raiseInterrupt n true epc).1 = false) :
    (s.raiseInterrupt n true epc).2.isRunning = false := by
  rw [Cpu.raiseInterrupt] at h ⊢
  simp only [Bool.not_true, Bool.false_and, Bool.false_eq_true, if_false] at h ⊢
  by_cases hp : (s.registers.isInInterrupt && s.registers.getCurrentInterruptNumber != noTrap &&
      decide (s.registers.getCurrentInterruptNumber ≤ n)) = true
  · rw [if_pos hp, if_pos]
    simp only [Bool.and_eq_true, bne_iff_ne, decide_eq_true_eq] at hp
    have h0 := hp.1.2
    have hle := BitVec.le_trans hp.2 hn
    simp only [isExceptionVector, Bool.true_and, Bool.and_eq_true, decide_eq_true_eq]
    exact ⟨first_le_of_ne h0, hle⟩
  · rw [if_neg hp, Cpu.enterInterrupt] at h ⊢
    cases ht : s.handlerTranslation n with
    | fault cause aux => rfl
    | mapped physical =>
      by_cases hz : s.bus.read64 physical .read = 0
      · simp only [hz, if_true]
      · simp only [ht, hz, if_false] at h
        cases h

lemma exception_of_translationCause (h : AddressTranslator.TranslationCause cause) : cause ≤ lastExceptionVector := by
  simp only [AddressTranslator.TranslationCause, List.mem_cons, List.not_mem_nil, or_false] at h
  rcases h with rfl | rfl | rfl | rfl | rfl <;> decide

lemma raiseFault_cases (opPc : Word) (hm : s.mapResult addr access = .fault cause aux) :
    (∃ handler, s.Delivers cause ∧ s.Entered (s.raiseFault addr access opPc cause aux).2 opPc cause handler ∧
      TrapEntry s (s.raiseFault addr access opPc cause aux).2 ∧
        (s.raiseFault addr access opPc cause aux).2.isRunning = s.isRunning) ∨
      ¬ s.Delivers cause ∧ (s.raiseFault addr access opPc cause aux).2.isRunning = false := by
  have hcause := Cpu.mapResult_cause hm
  have hdel := Cpu.raiseFault_delivers s addr access opPc cause aux
  cases hr : (s.raiseFault addr access opPc cause aux).1 with
  | true =>
    obtain ⟨handler, hu⟩ := Cpu.raiseFault_entered hr
    refine .inl ⟨handler, hdel.mp hr, hu, ?_, ?_⟩
    · exact (trapEntry_raiseInterrupt hcause.vector.2 hr).of_same rfl ⟨rfl, rfl, rfl, rfl⟩ rfl rfl rfl
    · obtain ⟨_, _, he⟩ := Cpu.raiseInterrupt_entered hr
      rw [Cpu.raiseFault, he]
      rfl
  | false =>
    refine .inr ⟨fun h => ?_, stopped_raiseInterrupt (exception_of_translationCause hcause) hr⟩
    rw [hdel.mpr h] at hr
    cases hr

end Entry

section Shapes

variable {s t u : Cpu} {cause aux addr opPc handler : Word} {access : AccessType} {rd : Reg} {condition : Prop}

/-- The condition tells a confined outcome from an escape. -/
def Settled (s t : Cpu) (condition : Prop) : Prop := condition ∧ Confined s [] t ∨ ¬ condition ∧ Escaped s t

lemma settled_threadPointer (hu : s.registers.isUserMode = true) (hc : condition) {value : Word}
    (h : t.registers.special = { s.registers with threadPointer := value }.special) : Settled s t condition := by
  refine .inl ⟨hc, .inl ⟨?_, ?_, ?_⟩⟩
  · have hp := congrArg (fun r : Registers =>
      { r with threadPointer := 0, interruptStates := 0, interruptStatesHigh := 0 }) h
    exact hp
  · have hp := congrArg Registers.pending h
    exact hp
  · have hm := congrArg Registers.isUserMode h
    exact hm.trans hu

lemma settled_kept (hu : s.registers.isUserMode = true) (hc : condition)
    (h : t.registers.special = s.registers.special) : Settled s t condition :=
  settled_threadPointer hu hc h

lemma settled_stopped (hc : condition) (h : t.isRunning = false) : Settled s t condition := .inl ⟨hc, .inr (.inr h)⟩

lemma settled_entry (hc : condition) (h : TrapEntry s t) : Settled s t condition := .inl ⟨hc, .inr (.inl h)⟩

/-- After trap entry, an instruction that goes on is confined when it leaves `R15` at the handler. -/
lemma settled_entered (hu : TrapEntry s u) (hcontrol : t.registers.cpuControl = u.registers.cpuControl)
    (hsaved : t.registers.interruptCpuControl = u.registers.interruptCpuControl) (hrun : t.isRunning = s.isRunning)
    (hc : condition ↔ t.reg 15 = u.reg 15) : Settled s t condition := by
  by_cases h15 : t.reg 15 = u.reg 15
  · exact settled_entry (hc.mpr h15) (hu.of_same rfl ⟨rfl, rfl, rfl, rfl⟩ h15 hcontrol hsaved)
  · refine .inr ⟨fun h => h15 (hc.mp h), ?_, fun ht => h15 ?_, hrun⟩
    · rw [← hu.supervisor, Registers.isUserMode, hcontrol, Registers.isUserMode]
    · have hnum : t.registers.getCurrentInterruptNumber = u.registers.getCurrentInterruptNumber := by
        rw [Registers.getCurrentInterruptNumber, hcontrol, Registers.getCurrentInterruptNumber]
      have hh := ht.handler
      rw [hnum, hu.handler, Option.some.injEq] at hh
      exact hh.symm

lemma entersAt_mapped {physical : Word} (hm : s.mapResult addr access = .mapped physical) (value : Word) :
    s.EntersAt addr access value := by
  intro cause aux h
  rw [hm] at h
  cases h

lemma entersAt_undelivered (hm : s.mapResult addr access = .fault cause aux) (hd : ¬ s.Delivers cause) (value : Word) :
    s.EntersAt addr access value := by
  intro cause' aux' h hd'
  rw [hm, PagingTranslateResult.fault.injEq] at h
  rw [h.1] at hd
  exact absurd hd' hd

lemma entersAt_iff (hm : s.mapResult addr access = .fault cause aux) (hd : s.Delivers cause)
    (ha : s.handlerAddress cause = some handler) (value : Word) : s.EntersAt addr access value ↔ handler = value := by
  constructor
  · intro h
    have hv := h cause aux hm hd
    rw [ha] at hv
    exact Option.some.inj hv
  · rintro rfl cause' aux' h _
    rw [hm, PagingTranslateResult.fault.injEq] at h
    rw [← h.1, ha]

lemma settled_load {w : ℕ} (busRead : MemoryBus → Word → AccessType → BitVec w) (hu : s.registers.isUserMode = true)
    (rd : Reg) (addr opPc : Word) :
    Settled s (s.load (fun s => s.readMemory w busRead) rd addr opPc)
      (rd = 15 → s.EntersAt addr .read ((BitVec.allOnes w).setWidth 64)) := by
  rw [Cpu.load]
  cases hm : s.mapResult addr .read with
  | mapped physical =>
    obtain ⟨tlb, he⟩ := Cpu.readMemory_mapped busRead opPc hm
    rw [he]
    exact settled_kept hu (fun _ => entersAt_mapped hm _) rfl
  | fault cause aux =>
    rw [Cpu.readMemory_fault busRead opPc hm]
    rcases raiseFault_cases opPc hm with ⟨handler, hd, hent, htrap, hrun⟩ | ⟨hd, hstop⟩
    · refine settled_entered htrap rfl rfl hrun ?_
      rw [entersAt_iff hm hd hent.handlerAddress, reg_setReg, hent.reg15]
      by_cases hr : rd = 15
      · rw [if_pos hr.symm]
        exact ⟨fun h => (h hr).symm, fun h _ => h.symm⟩
      · rw [if_neg (Ne.symm hr)]
        exact ⟨fun _ => hent.reg15, fun _ h => absurd h hr⟩
    · exact settled_stopped (fun _ => entersAt_undelivered hm hd _) hstop

lemma settled_write {w : ℕ} (busWrite : MemoryBus → Word → BitVec w → AccessType → MemoryBus) {v : Cpu}
    (hv : v.registers.special = s.registers.special) (hvec : s.SameVectors v) (hu : s.registers.isUserMode = true)
    (addr opPc : Word) (value : BitVec w) : Settled s (v.writeMemory w busWrite addr value opPc) True := by
  have hcontrol : s.registers.cpuControl = v.registers.cpuControl := by
    have hc := congrArg Registers.cpuControl hv
    exact hc.symm
  cases hm : v.mapResult addr .write with
  | mapped physical =>
    obtain ⟨tlb, valid, he⟩ := Cpu.writeMemory_mapped busWrite value opPc hm
    rw [he]
    exact settled_kept hu trivial hv
  | fault cause aux =>
    rw [Cpu.writeMemory_fault busWrite value opPc hm]
    rcases raiseFault_cases opPc hm with ⟨handler, hd, hent, htrap, hrun⟩ | ⟨hd, hstop⟩
    · refine settled_entry trivial (htrap.of_same hcontrol hvec rfl rfl rfl)
    · exact settled_stopped trivial hstop

lemma reg15_popped (u : Cpu) (rd rs1 : Reg) (value : Word) :
    ((u.setReg rs1 value).setReg rd ((u.setReg rs1 value).reg rd + 8)).reg 15 =
      if rd = 15 then (if rs1 = 15 then value else u.reg 15) + 8 else if rs1 = 15 then value else u.reg 15 := by
  simp only [reg_setReg, eq_comm (a := (15 : Reg))]
  by_cases hr : rd = 15
  · simp only [hr, if_true, eq_comm (a := (15 : Reg))]
  · simp only [hr, if_false]

lemma popped_iff {p q nowhere : Prop} [Decidable p] [Decidable q] (hn : ¬ nowhere) (handler : Word) :
    (p → q → handler = 7) ∧ (p → ¬ q → nowhere) ∧ (¬ p → q → handler = BitVec.allOnes 64) ↔
      (if p then (if q then BitVec.allOnes 64 else handler) + 8 else if q then BitVec.allOnes 64 else handler) =
        handler := by
  by_cases hp : p <;> by_cases hq : q <;> simp [hp, hq, hn, eq_comm]

lemma settled_pop (hu : s.registers.isUserMode = true) (rd rs1 : Reg) (opPc : Word) (popped : Word × Cpu)
    (hp : popped = s.readMemory64 (s.reg rd) opPc .read) :
    Settled s ((popped.2.setReg rs1 popped.1).setReg rd ((popped.2.setReg rs1 popped.1).reg rd + 8))
      (s.KeepsConfinement rd (.pop rd rs1)) := by
  rw [Cpu.KeepsConfinement]
  cases hm : s.mapResult (s.reg rd) .read with
  | mapped physical =>
    obtain ⟨tlb, he⟩ := Cpu.readMemory_mapped MemoryBus.read64 opPc hm
    rw [hp, Cpu.readMemory64, he]
    refine settled_kept hu ⟨fun _ _ => entersAt_mapped hm _, fun _ _ cause aux h => ?_, fun _ _ =>
      entersAt_mapped hm _⟩ rfl
    rw [hm] at h
    cases h
  | fault cause aux =>
    rw [hp, Cpu.readMemory64, Cpu.readMemory_fault MemoryBus.read64 opPc hm]
    rcases raiseFault_cases opPc hm with ⟨handler, hd, hent, htrap, hrun⟩ | ⟨hd, hstop⟩
    · refine settled_entered htrap rfl rfl hrun ?_
      have hnowhere : ¬ s.EntersNowhere (s.reg rd) .read := fun h => h cause aux hm hd
      rw [entersAt_iff hm hd hent.handlerAddress, entersAt_iff hm hd hent.handlerAddress, hent.reg15]
      generalize (s.raiseFault (s.reg rd) .read opPc cause aux).2 = u at hent
      rw [reg15_popped]
      rw [show (Cpu.record u _).reg 15 = handler from hent.reg15]
      exact popped_iff hnowhere handler
    · refine settled_stopped ⟨fun _ _ => entersAt_undelivered hm hd _, fun _ _ cause' aux' h => ?_, fun _ _ =>
        entersAt_undelivered hm hd _⟩ hstop
      rw [hm, PagingTranslateResult.fault.injEq] at h
      rw [← h.1]
      exact hd

lemma Settled.of_true (h : Settled s t True) (hc : condition) : Settled s t condition :=
  .inl ⟨hc, h.elim And.right fun hn => absurd trivial hn.1⟩

lemma stopped_write {w : ℕ} {busWrite : MemoryBus → Word → BitVec w → AccessType → MemoryBus} {v : Cpu}
    (hv : v.isRunning = false) (addr opPc : Word) (value : BitVec w) :
    (v.writeMemory w busWrite addr value opPc).isRunning = false := by
  cases hm : v.mapResult addr .write with
  | mapped physical =>
    obtain ⟨tlb, valid, he⟩ := Cpu.writeMemory_mapped busWrite value opPc hm
    rw [he]
    exact hv
  | fault cause aux =>
    rw [Cpu.writeMemory_fault busWrite value opPc hm]
    rcases raiseFault_cases opPc hm with ⟨_, _, _, _, hrun⟩ | ⟨_, hstop⟩
    · exact hrun.trans hv
    · exact hstop

lemma transferConfined_iff {source delta : Word} {target : Word → Word} (hm : s.mapResult source .read = .fault cause aux)
    (hd : s.Delivers cause) (ha : s.handlerAddress cause = some handler) :
    s.TransferConfined rd source delta target ↔
      match s.supervisorResult (target (if rd = 15 then handler + delta else s.reg rd + delta)) .write with
      | .mapped _ => rd ≠ 15
      | .fault next _ => ¬ s.Preempts cause next := by
  constructor
  · exact fun h => h cause aux handler hm hd ha
  · intro h cause' aux' handler' hm' _ ha'
    rw [hm, PagingTranslateResult.fault.injEq] at hm'
    rw [← hm'.1, ha, Option.some.injEq] at ha'
    rw [← hm'.1, ← ha']
    exact h

lemma settled_afterEntry {delta : Word} {e : MemoryEvent} (hdelta : delta = 8 ∨ delta = -8)
    (hu : s.registers.isUserMode = true) (hc : AddressTranslator.TranslationCause cause)
    (hent : s.Entered u opPc cause handler) (htrap : TrapEntry s u) (hrun : u.isRunning = s.isRunning) (addr value : Word) :
    Settled s ((afterEntry u e rd delta).writeMemory64 addr value opPc)
      (match s.supervisorResult addr .write with
      | .mapped _ => rd ≠ 15
      | .fault next _ => ¬ s.Preempts cause next) := by
  rw [← mapResult_afterEntry e rd delta hent]
  cases hm : (afterEntry u e rd delta).mapResult addr .write with
  | mapped physical =>
    obtain ⟨tlb, valid, he⟩ := Cpu.writeMemory_mapped MemoryBus.write64 value opPc hm
    rw [Cpu.writeMemory64, he]
    refine settled_entered htrap rfl rfl hrun ?_
    refine Iff.trans ?_ (Eq.congr_left (reg15_afterEntry e rd delta hent)).symm
    rw [hent.reg15]
    by_cases hr : rd = 15
    · rw [if_pos hr]
      exact iff_of_false (fun h => h hr) (add_ne_self (by rcases hdelta with rfl | rfl <;> decide) _)
    · rw [if_neg hr]
      exact iff_of_true hr rfl
  | fault next aux' =>
    rw [Cpu.writeMemory64, Cpu.writeMemory_fault MemoryBus.write64 value opPc hm]
    simp only [← delivers_afterEntry e rd delta hent hc next]
    rcases raiseFault_cases opPc hm with ⟨handler₂, hd, hent₂, htrap₂, hrun₂⟩ | ⟨hd, hstop⟩
    · refine .inr ⟨fun h => h hd, htrap₂.supervisor, fun h => ?_, hrun₂.trans hrun⟩
      -- the second entry saved the control word of the first
      have hsaved : u.registers.cpuControl = s.registers.cpuControl := htrap₂.saved.symm.trans h.saved
      have huser := htrap.supervisor
      rw [Registers.isUserMode, hsaved] at huser
      exact absurd (hu.symm.trans huser) (by decide)
    · exact settled_stopped hd hstop

lemma settled_transfer {delta : Word} (hdelta : delta = 8 ∨ delta = -8) (hu : s.registers.isUserMode = true) (rd : Reg)
    (source : Word) (target : Word → Word) (opPc : Word) :
    Settled s (s.transfer rd source delta target opPc) (s.TransferConfined rd source delta target) := by
  rw [Cpu.transfer, Cpu.readMemory64]
  cases hm : s.mapResult source .read with
  | mapped physical =>
    obtain ⟨tlb, he⟩ := Cpu.readMemory_mapped MemoryBus.read64 opPc hm
    rw [he]
    refine Settled.of_true (settled_write _ ?_ ?_ hu _ opPc _) ?_
    · rfl
    · exact ⟨rfl, rfl, rfl, rfl⟩
    · intro cause aux handler h
      rw [hm] at h
      cases h
  | fault cause aux =>
    rw [Cpu.readMemory_fault MemoryBus.read64 opPc hm]
    rcases raiseFault_cases opPc hm with ⟨handler, hd, hent, htrap, hrun⟩ | ⟨hd, hstop⟩
    · rw [transferConfined_iff hm hd hent.handlerAddress]
      generalize s.accessEvent .read source 64 _ = e
      rw [← pointer_afterEntry e rd delta hent]
      exact settled_afterEntry hdelta hu (Cpu.mapResult_cause hm) hent htrap hrun _ _
    · refine settled_stopped (fun cause' aux' handler h hd' => ?_) (stopped_write ?_ _ opPc _)
      · rw [hm, PagingTranslateResult.fault.injEq] at h
        rw [h.1] at hd
        exact absurd hd' hd
      · exact hstop

lemma settled_trap (hn : cause ≤ lastExceptionVector) : Settled s (s.raise (.instruction cause)).2 True := by
  have hlt : cause < 128 := by
    rw [BitVec.lt_def]
    exact Nat.lt_of_le_of_lt (BitVec.le_def.mp hn) (by decide)
  cases h : (s.raise (.instruction cause)).1 with
  | true =>
    refine settled_entry trivial ?_
    exact (trapEntry_raiseInterrupt hlt h).of_same rfl ⟨rfl, rfl, rfl, rfl⟩ rfl rfl rfl
  | false => exact settled_stopped trivial (stopped_raiseInterrupt hn h)

lemma gpTrap_exception {instr : Instruction} (h : s.instructionTrapOf instr = some cause) :
    cause ≤ lastExceptionVector := by
  rw [Cpu.instructionTrapOf] at h
  split at h
  · simp only [Cpu.gpTrap] at h
    split at h
    · split at h <;> rw [← Option.some.inj h] <;> decide
    · split at h
      · cases h
      · split at h
        · rw [← Option.some.inj h]
          decide
        · cases h
    · split at h
      · cases h
      · split at h
        · rw [← Option.some.inj h]
          decide
        · cases h
    · split at h
      · rw [← Option.some.inj h]
        decide
      · cases h
    · split at h
      · rw [← Option.some.inj h]
        decide
      · cases h
    · cases h
    · rw [← Option.some.inj h]
      decide
  · cases h

/-- The one special register that software may write in user mode is the thread pointer. -/
lemma settled_quiet {instr : Instruction} (hu : s.registers.isUserMode = true) (h : Quiet s t instr) :
    Settled s t True := by
  cases h with
  | kept _ h => exact settled_kept hu trivial h
  | written value _ hacc h =>
    have hsel := hacc hu
    rw [SpecialRegister.isUserAccessibleSelector, beq_iff_eq] at hsel
    have hset : s.registers.setSpecialRegister (SpecialRegister.normalizeSelector (s.reg instr.rs1)) value =
        { s.registers with threadPointer := value } := by
      rw [Registers.setSpecialRegister, SpecialRegister.ofSelector, hsel]
      rfl
    rw [hset] at h
    exact settled_threadPointer hu trivial h
  | returned hs _ _ =>
    rw [hu] at hs
    cases hs

end Shapes

section Dispatch

variable {s t : Cpu} {addr : Word} {instr : Instruction}

lemma lsRegAccess_ne : s.lsRegAccess instr ≠ .loadLinked addr := by
  simp only [Cpu.lsRegAccess]
  cases LsOpcode.ofBits instr.opcodeLs <;> intro h <;> cases h

lemma lsPCRelAccess_ne : s.lsPCRelAccess instr ≠ .loadLinked addr := by
  simp only [Cpu.lsPCRelAccess]
  cases LsOpcode.ofBits instr.opcodeLs <;> intro h <;> cases h

lemma dispatchGP_loadLinked (h : s.gpAccess instr = .loadLinked addr) :
    s.dispatchGP instr =
      { s.load Cpu.readMemory64 instr.rd addr (s.reg 15) with
        registers := { (s.load Cpu.readMemory64 instr.rd addr (s.reg 15)).registers with
          llReservationAddr := addr
          llReservationValid := true } } := by
  simp only [Cpu.gpAccess] at h
  simp only [Cpu.dispatchGP]
  cases ho : GpOpcode.ofBits instr.opcodeGp with
  | none =>
    rw [ho] at h
    cases h
  | some op =>
    rw [ho] at h
    cases op with
    | llr => rw [← DataAccess.loadLinked.inj h]
    | scr =>
      simp only at h
      split at h <;> cases h
    | _ => cases h

lemma dispatch_loadLinked (h : s.dataAccess instr = .loadLinked addr) :
    s.dispatchInstruction instr =
      { s.load Cpu.readMemory64 instr.rd addr (s.reg 15) with
        registers := { (s.load Cpu.readMemory64 instr.rd addr (s.reg 15)).registers with
          llReservationAddr := addr
          llReservationValid := true } } := by
  have hf : ∀ f : BitVec 2, f = 0 ∨ f = 1 ∨ f = 2 ∨ f = 3 := by decide
  rw [Cpu.dataAccess] at h
  rw [Cpu.dispatchInstruction]
  rcases hf instr.format with hi | hi | hi | hi <;> rw [hi] at h ⊢
  · exact absurd h lsRegAccess_ne
  · exact absurd h lsPCRelAccess_ne
  · cases h
  · by_cases hj : instr.isUnconditionalJump = true
    · simp only [hj, if_true] at h
      cases h
    · simp only [hj] at h ⊢
      exact dispatchGP_loadLinked h

lemma Settled.reserve {condition : Prop} (h : Settled s t condition) (reservation : Word) (valid : Bool) (flags : Word) :
    Settled s { t with registers := { t.registers with
      llReservationAddr := reservation, llReservationValid := valid, flags := flags } } condition := by
  refine h.imp (fun h => ⟨h.1, h.2.imp (fun hk => ⟨hk.privileged, hk.pending, hk.user⟩) fun hr => hr.imp (fun he => ?_) id⟩)
    fun h => ⟨h.1, h.2.supervisor, fun he => h.2.entry ?_, h.2.running⟩
  · exact ⟨he.supervisor, he.inInterrupt, he.interruptsOff, he.saved, he.handler⟩
  · exact ⟨he.supervisor, he.inInterrupt, he.interruptsOff, he.saved, he.handler⟩

lemma settled_dispatch (hu : s.registers.isUserMode = true) (instr : Instruction) :
    Settled s (s.dispatchInstruction instr) (s.KeepsConfinement instr.rd (s.dataAccess instr)) := by
  have hp := dispatchInstruction_performs s instr
  generalize ht : s.dispatchInstruction instr = t at hp ⊢
  cases ha : s.dataAccess instr with
  | none =>
    cases hi : s.instructionTrapOf instr with
    | none =>
      have hq := dispatchInstruction_quiet s instr hi ha
      rw [ht] at hq
      exact settled_quiet hu hq
    | some cause =>
      rw [← ht, dispatchInstruction_trap s instr hi]
      exact settled_trap (gpTrap_exception hi)
  | load width rd addr =>
    rw [ha] at hp
    cases hp with
    | load busRead _ _ ht => rw [ht]; exact settled_load busRead hu rd addr _
  | store width addr =>
    rw [ha] at hp
    cases hp with
    | store busWrite _ value _ ht => rw [ht]; exact settled_write busWrite rfl ⟨rfl, rfl, rfl, rfl⟩ hu addr _ value
  | push rd =>
    rw [ha] at hp
    cases hp with
    | push _ value ht =>
      rw [ht]
      refine settled_write _ ?_ ?_ hu _ _ value
      · rfl
      · exact ⟨rfl, rfl, rfl, rfl⟩
  | pop rd rs1 =>
    rw [ha] at hp
    cases hp with
    | pop _ _ popped hp ht => rw [ht]; exact settled_pop hu rd rs1 _ popped hp
  | pushFrom rd effective =>
    rw [ha] at hp
    cases hp with
    | pushFrom _ _ ht => rw [ht]; exact settled_transfer (.inr rfl) hu rd effective id _
  | popTo rd effective =>
    rw [ha] at hp
    cases hp with
    | popTo _ _ ht => rw [ht]; exact settled_transfer (.inl rfl) hu rd (s.reg rd) (fun _ => effective) _
  | loadLinked addr =>
    rw [dispatch_loadLinked ha] at ht
    rw [← ht]
    exact (settled_load MemoryBus.read64 hu instr.rd addr (s.reg 15)).reserve addr true _
  | storeConditional addr =>
    rw [ha] at hp
    cases hp with
    | storeConditional _ value u hw ht =>
      have hs := settled_write (s := s) (v := s) MemoryBus.write64 rfl ⟨rfl, rfl, rfl, rfl⟩ hu addr (s.reg 15) value
      rw [ht, hw]
      exact hs.reserve _ false _

end Dispatch

section Lines

variable {s t : Cpu} {lines : List Event}

lemma run_lines (h : ∀ e ∈ lines, e ≠ .cycle) (t : Cpu) :
    ∃ low high, Runs.run step t lines =
      { t with registers := { t.registers with interruptStates := low, interruptStatesHigh := high } } := by
  induction lines generalizing t with
  | nil => exact ⟨_, _, rfl⟩
  | cons e lines ih =>
    obtain ⟨low, high, he⟩ : ∃ low high, step t e =
        { t with registers := { t.registers with interruptStates := low, interruptStatesHigh := high } } := by
      cases e with
      | cycle => exact absurd rfl (h _ List.mem_cons_self)
      | assertInterrupt num =>
        rw [step, Cpu.assertInterrupt, Registers.setInterruptPending]
        simp only
        split_ifs <;> exact ⟨_, _, rfl⟩
      | clearInterrupt num =>
        rw [step, Cpu.clearInterrupt, Registers.clearInterruptPending]
        simp only
        split_ifs <;> exact ⟨_, _, rfl⟩
    obtain ⟨low', high', hr⟩ := ih (fun e' he' => h e' (List.mem_cons_of_mem _ he')) (step t e)
    refine ⟨low', high', ?_⟩
    rw [Runs.run, List.foldl_cons]
    rw [Runs.run] at hr
    rw [hr, he]

lemma pending_step {e : Event} (he : e ≠ .cycle) (h : t.registers.pending = s.registers.pending) :
    (step t e).registers.pending = (step s e).registers.pending := by
  rw [Registers.pending, Registers.pending, Prod.mk.injEq] at h
  cases e with
  | cycle => exact absurd rfl he
  | assertInterrupt num =>
    rw [step, step, Cpu.assertInterrupt, Cpu.assertInterrupt, Registers.setInterruptPending,
      Registers.setInterruptPending]
    simp only
    split_ifs <;> simp only [Registers.pending, h.1, h.2]
  | clearInterrupt num =>
    rw [step, step, Cpu.clearInterrupt, Cpu.clearInterrupt, Registers.clearInterruptPending,
      Registers.clearInterruptPending]
    simp only
    split_ifs <;> simp only [Registers.pending, h.1, h.2]

lemma pending_run (hl : ∀ e ∈ lines, e ≠ .cycle) (h : t.registers.pending = s.registers.pending) :
    (Runs.run step t lines).registers.pending = (Runs.run step s lines).registers.pending := by
  induction lines generalizing s t with
  | nil => exact h
  | cons e lines ih =>
    exact ih (fun e' he' => hl e' (List.mem_cons_of_mem _ he')) (pending_step (hl e List.mem_cons_self) h)

lemma confined_lines (hl : ∀ e ∈ lines, e ≠ .cycle) (h : Confined s [] t) :
    Confined s lines (Runs.run step t lines) := by
  obtain ⟨low, high, hr⟩ := run_lines hl t
  rcases h with hk | he | hs
  · refine .inl ⟨?_, pending_run hl hk.pending, ?_⟩
    · rw [hr]
      exact hk.privileged
    · rw [hr]
      exact hk.user
  · refine .inr (.inl ?_)
    rw [hr]
    exact ⟨he.supervisor, he.inInterrupt, he.interruptsOff, he.saved, he.handler⟩
  · refine .inr (.inr ?_)
    rw [hr]
    exact hs

lemma Escaped.not_confined (hl : ∀ e ∈ lines, e ≠ .cycle) (hs : s.isRunning = true) (h : Escaped s t) :
    ¬ Confined s lines (Runs.run step t lines) := by
  obtain ⟨low, high, hr⟩ := run_lines hl t
  rw [hr]
  rintro (hk | he | hstop)
  · have huser : t.registers.isUserMode = true := hk.user
    rw [h.supervisor] at huser
    cases huser
  · exact h.entry ⟨he.supervisor, he.inInterrupt, he.interruptsOff, he.saved, he.handler⟩
  · have hrun : t.isRunning = false := hstop
    rw [h.running, hs] at hrun
    cases hrun

/-- Whatever the device lines do meanwhile, an instruction run in user mode is confined exactly under
`KeepsConfinement`. -/
theorem user_confined_iff (s : Cpu) (raw : BitVec 16) (lines : List Event) (hl : ∀ e ∈ lines, e ≠ .cycle)
    (hu : s.registers.isUserMode = true) :
    Confined s lines (Runs.run step (s.dispatchInstruction (Instruction.decode raw)) lines) ↔
      (s.isRunning = true →
        s.KeepsConfinement (Instruction.decode raw).rd (s.dataAccess (Instruction.decode raw))) := by
  rcases settled_dispatch hu (Instruction.decode raw) with ⟨hc, h⟩ | ⟨hc, h⟩
  · exact iff_of_true (confined_lines hl h) fun _ => hc
  · constructor
    · intro hconf hs
      exact absurd hconf (h.not_confined hl hs)
    · intro himp
      have hs : s.isRunning = false := Bool.eq_false_iff.mpr fun hs => hc (himp hs)
      obtain ⟨low, high, hr⟩ := run_lines hl (s.dispatchInstruction (Instruction.decode raw))
      refine .inr (.inr ?_)
      rw [hr]
      exact h.running.trans hs

theorem user_confined_iff_sample :
    Confined dataFaultCpu [.assertInterrupt 66]
        (Runs.run step (dataFaultCpu.dispatchInstruction (Instruction.decode 0x0021)) [.assertInterrupt 66]) ↔
      (dataFaultCpu.isRunning = true →
        dataFaultCpu.KeepsConfinement (Instruction.decode 0x0021).rd
          (dataFaultCpu.dataAccess (Instruction.decode 0x0021))) :=
  user_confined_iff dataFaultCpu 0x0021 [.assertInterrupt 66] (by simp) (by decide)

/-- `LOAD R15, [R2]` enters the handler and then jumps to the word the failed read returned, in supervisor mode. -/
theorem load_escapes_handler :
    dataFaultCpu.registers.isUserMode = true ∧
      ¬ Confined dataFaultCpu [] (dataFaultCpu.dispatchInstruction (Instruction.decode 0x002F)) := by
  refine ⟨by decide, ?_⟩
  rintro (hk | he | hs)
  · exact absurd hk.user (by decide +kernel)
  · exact absurd he.handler (by decide +kernel)
  · exact absurd hs (by decide +kernel)

end Lines

end Little64.Emulator

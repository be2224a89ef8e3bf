import Little64.Emulator.TlbCoherence
import Little64.Emulator.DataAccess

/-! The exceptions that a cycle raises, and how the trap registers go from one of them to the next. -/

namespace Little64.Emulator

open Vectors

/-- An exception with what the code records of it before it is raised. -/
inductive Exception
  | instruction (cause : Word)
  | translation (virtualAddr : Word) (access : AccessType) (operationPc cause aux : Word)
  deriving DecidableEq, Repr

structure TrapRecord where
  cause : Word
  faultAddr : Word
  access : Word
  pc : Word
  aux : Word
  deriving DecidableEq, Repr

def Registers.trapRecord (r : Registers) : TrapRecord :=
  ⟨r.trapCause, r.trapFaultAddr, r.trapAccess, r.trapPc, r.trapAux⟩

def Exception.cause : Exception → Word
  | .instruction cause => cause
  | .translation _ _ _ cause _ => cause

namespace Cpu

variable (s : Cpu)

def raise : Exception → Bool × Cpu
  | .instruction cause =>
    let pc := s.reg 15 - 2
    { s with registers := { s.registers with trapPc := pc, trapCause := cause } }.raiseInterrupt cause true pc
  | .translation virtualAddr access operationPc cause aux => s.raiseFault virtualAddr access operationPc cause aux

/-- The trap registers that raising an exception leaves. -/
def recorded : Exception → TrapRecord
  | .instruction cause => { s.registers.trapRecord with cause := cause, pc := s.reg 15 - 2 }
  | .translation virtualAddr access operationPc cause aux =>
    ⟨cause, virtualAddr, BitVec.ofNat 64 (accessNumber access), operationPc, aux⟩

/-- The exception of one mapping attempt, with the state it is raised in. -/
def accessRaised (virtualAddr : Word) (access : AccessType) (operationPc : Word) : List (Cpu × Exception) :=
  match s.mapResult virtualAddr access with
  | .mapped _ => []
  | .fault cause aux => [(s, .translation virtualAddr access operationPc cause aux)]

def transferRaised (rd : Reg) (source delta : Word) (target : Word → Word) (opPc : Word) : List (Cpu × Exception) :=
  let value := s.readMemory64 source opPc .read
  let t := value.2.setReg rd (value.2.reg rd + delta)
  s.accessRaised source .read opPc ++ t.accessRaised (target (t.reg rd)) .write opPc

def dataRaised : DataAccess → List (Cpu × Exception)
  | .none => []
  | .load _ _ addr => s.accessRaised addr .read (s.reg 15 - 2)
  | .store _ addr => s.accessRaised addr .write (s.reg 15 - 2)
  | .push rd => (s.setReg rd (s.reg rd + -8)).accessRaised (s.reg rd + -8) .write (s.reg 15 - 2)
  | .pop rd _ => s.accessRaised (s.reg rd) .read (s.reg 15 - 2)
  | .pushFrom rd effective => s.transferRaised rd effective (-8) id (s.reg 15 - 2)
  | .popTo rd effective => s.transferRaised rd (s.reg rd) 8 (fun _ => effective) (s.reg 15 - 2)
  | .loadLinked addr => s.accessRaised addr .read (s.reg 15)
  | .storeConditional addr => s.accessRaised addr .write (s.reg 15)

/-- The trap of a general-purpose instruction that is not about a data access. -/
def gpTrap (instr : Instruction) : Option Word :=
  let privileged := if s.registers.isUserMode then some trapPrivilegedInstruction else none
  let selector := SpecialRegister.normalizeSelector (s.reg instr.rs1)
  match GpOpcode.ofBits instr.opcodeGp with
  | some .syscall => some (if s.registers.isUserMode then trapSyscall else trapSyscallFromSupervisor)
  | some .lsr => if SpecialRegister.isUserAccessibleSelector selector then none else privileged
  | some .ssr => if SpecialRegister.isUserAccessibleSelector selector then none else privileged
  | some .iret => privileged
  | some .stop => privileged
  | some _ => none
  | none => some trapInvalidInstruction

def instructionTrapOf (instr : Instruction) : Option Word :=
  if instr.format = 3 ∧ ¬ instr.isUnconditionalJump then s.gpTrap instr else none

/-- The special register that an instruction writes by `SSR`. -/
def softwareWrites (instr : Instruction) : Option SpecialRegister :=
  if s.instructionTrapOf instr = none ∧ instr.format = 3 ∧ ¬ instr.isUnconditionalJump ∧
      GpOpcode.ofBits instr.opcodeGp = some .ssr then
    SpecialRegister.ofSelector (SpecialRegister.normalizeSelector (s.reg instr.rs1))
  else none

/-- The exceptions of one instruction, each with the state it is raised in. -/
def raisedBy (instr : Instruction) : List (Cpu × Exception) :=
  match s.instructionTrapOf instr with
  | some cause => [(s, .instruction cause)]
  | none => s.dataRaised (s.dataAccess instr)

/-- The state and the instruction that a cycle dispatches, where its fetch lets it. -/
def dispatching : Option (Cpu × Instruction) :=
  let fetched := (s.setReg 0 0).readMemory16 (s.reg 15) (s.reg 15) .execute
  if s.isRunning && fetched.2.isRunning then
    some (fetched.2.setReg 15 (fetched.2.reg 15 + 2), Instruction.decode fetched.1)
  else none

def raisedInCycle : List (Cpu × Exception) :=
  if !s.isRunning then []
  else
    (s.setReg 0 0).accessRaised (s.reg 15) .execute (s.reg 15) ++
      match s.dispatching with
      | some (t, instr) => t.raisedBy instr
      | none => []

end Cpu

/-- The exceptions of a step, in the order in which they are raised. -/
def raised (s : Cpu) : Event → List (Cpu × Exception)
  | .cycle => s.raisedInCycle
  | _ => []

/-- The trap registers change from one state to another by raising these exceptions in turn. -/
inductive Through : Cpu → List (Cpu × Exception) → Cpu → Prop
  | nil {s t : Cpu} : t.registers.trapRecord = s.registers.trapRecord → Through s [] t
  | cons {s u t : Cpu} {x : Exception} {rest : List (Cpu × Exception)} :
      u.registers.trapRecord = s.registers.trapRecord → Through (u.raise x).2 rest t → Through s ((u, x) :: rest) t

section Raise

variable {s t u : Cpu}

lemma trapRecord_setInterruptPending (r : Registers) (n : Word) :
    (r.setInterruptPending n).trapRecord = r.trapRecord := by
  rw [Registers.setInterruptPending]
  simp only
  split_ifs <;> rfl

lemma trapRecord_enteredRegisters {n : Word} {exception : Bool} (epc handler : Word)
    (h : exception = true → s.registers.trapCause = n) :
    (s.enteredRegisters n exception epc handler).trapRecord = s.registers.trapRecord := by
  cases exception with
  | false => exact trapRecord_setInterruptPending (s.enteringRegisters n) n
  | true =>
    have hc : (s.enteringRegisters n).trapCause = n := h rfl
    simp only [Cpu.enteredRegisters, if_true, hc, ite_self, Registers.trapRecord]
    rw [← h rfl]
    rfl

lemma trapRecord_raiseInterrupt {n : Word} {exception : Bool} (epc : Word)
    (h : exception = true → s.registers.trapCause = n) :
    (s.raiseInterrupt n exception epc).2.registers.trapRecord = s.registers.trapRecord := by
  cases hr : (s.raiseInterrupt n exception epc).1 with
  | true =>
    obtain ⟨handler, _, he⟩ := Cpu.raiseInterrupt_entered hr
    rw [he]
    exact trapRecord_enteredRegisters epc handler h
  | false =>
    rw [Cpu.raiseInterrupt]
    split_ifs
    iterate 5 rfl
    rw [Cpu.enterInterrupt]
    cases s.handlerTranslation n with
    | fault cause aux =>
      simp only
      split <;> rfl
    | mapped physical =>
      simp only
      split
      · rfl
      · exact trapRecord_enteredRegisters epc _ h

lemma trapRecord_raise (s : Cpu) (x : Exception) : (s.raise x).2.registers.trapRecord = s.recorded x := by
  cases x with
  | instruction cause => exact trapRecord_raiseInterrupt _ fun _ => rfl
  | translation virtualAddr access operationPc cause aux => exact trapRecord_raiseInterrupt _ fun _ => rfl

lemma raise_delivers (s : Cpu) (x : Exception) : (s.raise x).1 = true ↔ s.Delivers x.cause := by
  cases x with
  | instruction cause => exact Cpu.raiseInterrupt_exception_iff
  | translation virtualAddr access operationPc cause aux => exact Cpu.raiseFault_delivers s _ _ _ _ _

lemma cause_recorded (s : Cpu) (x : Exception) : (s.recorded x).cause = x.cause := by
  cases x <;> rfl

end Raise

section Through

variable {s s' t t' u : Cpu} {l l' : List (Cpu × Exception)}

lemma Through.before (h : Through s l t) (hs : s.registers.trapRecord = s'.registers.trapRecord) : Through s' l t := by
  cases h with
  | nil ht => exact .nil (ht.trans hs)
  | cons hu hrest => exact .cons (hu.trans hs) hrest

lemma Through.append (h : Through s l t) (h' : Through t l' u) : Through s (l ++ l') u := by
  induction h with
  | nil ht => exact h'.before ht
  | cons hu _ ih => exact .cons hu (ih h')

lemma Through.after (h : Through s l t) (ht : t'.registers.trapRecord = t.registers.trapRecord) :
    Through s l t' := by
  have happ := h.append (.nil ht)
  rwa [List.append_nil] at happ

lemma Through.single (x : Exception) (ht : t.registers.trapRecord = (s.raise x).2.registers.trapRecord) :
    Through s [(s, x)] t := .cons rfl (.nil ht)

end Through

section Accesses

variable {s t : Cpu} {w : ℕ}

lemma through_readMemory (busRead : MemoryBus → Word → AccessType → BitVec w) (addr opPc : Word)
    (access : AccessType) :
    Through s (s.accessRaised addr access opPc) (s.readMemory w busRead addr opPc access).2 := by
  rw [Cpu.accessRaised]
  cases hm : s.mapResult addr access with
  | mapped physical =>
    obtain ⟨tlb, he⟩ := Cpu.readMemory_mapped busRead opPc hm
    rw [he]
    exact .nil rfl
  | fault cause aux =>
    rw [Cpu.readMemory_fault busRead opPc hm]
    exact .single _ rfl

lemma through_writeMemory (busWrite : MemoryBus → Word → BitVec w → AccessType → MemoryBus) (addr : Word)
    (value : BitVec w) (opPc : Word) :
    Through s (s.accessRaised addr .write opPc) (s.writeMemory w busWrite addr value opPc) := by
  rw [Cpu.accessRaised]
  cases hm : s.mapResult addr .write with
  | mapped physical =>
    obtain ⟨tlb, valid, he⟩ := Cpu.writeMemory_mapped busWrite value opPc hm
    rw [he]
    exact .nil rfl
  | fault cause aux =>
    rw [Cpu.writeMemory_fault busWrite value opPc hm]
    exact .single _ rfl

lemma through_transfer (rd : Reg) (source delta : Word) (target : Word → Word) (opPc : Word) :
    Through s (s.transferRaised rd source delta target opPc) (s.transfer rd source delta target opPc) := by
  have hread : Through s (s.accessRaised source .read opPc) (s.readMemory64 source opPc .read).2 :=
    through_readMemory MemoryBus.read64 source opPc .read
  rw [Cpu.transferRaised, Cpu.transfer]
  exact hread.append ((through_writeMemory MemoryBus.write64 _ _ opPc).before rfl)

/-- An instruction that makes a data access raises the exceptions of the access. -/
lemma through_performs {access : DataAccess} (h : Performs s t access) (hne : access ≠ .none) :
    Through s (s.dataRaised access) t := by
  cases h with
  | none _ => exact absurd rfl hne
  | load busRead rd addr ht =>
    rw [ht]
    exact (through_readMemory busRead addr _ .read).after rfl
  | store busWrite addr value _ ht =>
    rw [ht]
    exact through_writeMemory busWrite addr value _
  | push rd value ht =>
    rw [ht]
    exact (through_writeMemory MemoryBus.write64 _ value _).before rfl
  | pop rd rs1 popped hp ht =>
    rw [ht, hp]
    exact (through_readMemory MemoryBus.read64 (s.reg rd) _ .read).after rfl
  | pushFrom rd effective ht =>
    rw [ht]
    exact through_transfer rd effective _ id _
  | popTo rd effective ht =>
    rw [ht]
    exact through_transfer rd (s.reg rd) 8 (fun _ => effective) _
  | loadLinked rd addr u hu ht =>
    rw [ht, hu]
    exact (through_readMemory MemoryBus.read64 addr _ .read).after rfl
  | storeConditional addr value u hu ht =>
    rw [ht, hu]
    exact (through_writeMemory MemoryBus.write64 addr value _).after rfl

end Accesses

section Quiet

variable {s t : Cpu}

/-- The special registers alone: the general registers, the flags and the reservation are blanked. -/
def Registers.special (r : Registers) : Registers :=
  { r with regs := fun _ => 0, flags := 0, llReservationAddr := 0, llReservationValid := false }

/-- What an instruction without data access or trap does to the special registers. -/
inductive Quiet (s t : Cpu) (instr : Instruction) : Prop
  | kept : s.softwareWrites instr = none → t.registers.special = s.registers.special → Quiet s t instr
  | written (value : Word) :
      s.softwareWrites instr =
        SpecialRegister.ofSelector (SpecialRegister.normalizeSelector (s.reg instr.rs1)) →
      (s.registers.isUserMode = true →
        SpecialRegister.isUserAccessibleSelector (SpecialRegister.normalizeSelector (s.reg instr.rs1)) = true) →
      t.registers.special = (s.registers.setSpecialRegister
        (SpecialRegister.normalizeSelector (s.reg instr.rs1)) value).special → Quiet s t instr
  | returned : s.registers.isUserMode = false → s.softwareWrites instr = none →
      t.registers.special = { s.registers.special with cpuControl := s.registers.interruptCpuControl } →
        Quiet s t instr

lemma special_executeHypercall : s.executeHypercall.registers.special = s.registers.special := by
  rw [Cpu.executeHypercall]
  simp only
  split_ifs <;> rfl

lemma special_ssr (selector value : Word) :
    let t := { s with registers := s.registers.setSpecialRegister selector value }
    let register := SpecialRegister.ofSelector selector
    let t := if register = some .cpuControl ∨ register = some .pageTableRootPhysical then t.flushTLB else t
    (if register = some .hypercallCaps then t.executeHypercall else t).registers.special =
      (s.registers.setSpecialRegister selector value).special := by
  simp only
  split_ifs
  · rw [special_executeHypercall]
    rfl
  · rw [special_executeHypercall]
  · rfl
  · rfl

lemma special_shiftLeftLogical (rd : Reg) (a : Word) (count : ℕ) :
    (s.shiftLeftLogical rd a count).registers.special = s.registers.special := by
  rw [Cpu.shiftLeftLogical]
  split <;> rfl

lemma special_shiftRightLogical (rd : Reg) (a : Word) (count : ℕ) :
    (s.shiftRightLogical rd a count).registers.special = s.registers.special := by
  rw [Cpu.shiftRightLogical]
  split <;> rfl

lemma special_shiftRightArithmetic (rd : Reg) (a : Word) (count : ℕ) :
    (s.shiftRightArithmetic rd a count).registers.special = s.registers.special := by
  rw [Cpu.shiftRightArithmetic]
  split <;> rfl

lemma softwareWrites_other {instr : Instruction} (h : GpOpcode.ofBits instr.opcodeGp ≠ some .ssr) :
    s.softwareWrites instr = none := if_neg fun hw => h hw.2.2.2

lemma dispatchGP_trap {instr : Instruction} {cause : Word} (h : s.gpTrap instr = some cause) :
    s.dispatchGP instr = s.instructionTrap cause := by
  simp only [Cpu.gpTrap] at h
  simp only [Cpu.dispatchGP]
  cases ho : GpOpcode.ofBits instr.opcodeGp with
  | none =>
    simp only [ho, Option.some.injEq] at h
    rw [← h]
  | some op =>
    simp only [ho] at h
    cases op with
    | syscall =>
      simp only [Option.some.injEq] at h
      rw [← h]
    | lsr | ssr =>
      simp only at h ⊢
      split at h
      · cases h
      · next ha =>
        split at h
        · next hu =>
          rw [if_pos (by simp [hu, ha]), ← Option.some.inj h]
        · cases h
    | iret | stop =>
      simp only at h ⊢
      split at h
      · next hu => rw [if_pos hu, ← Option.some.inj h]
      · cases h
    | _ => cases h

lemma quiet_dispatchLSReg {instr : Instruction} (hw : s.softwareWrites instr = none)
    (ha : s.lsRegAccess instr = .none) : Quiet s (s.dispatchLSReg instr) instr := by
  simp only [Cpu.lsRegAccess] at ha
  simp only [Cpu.dispatchLSReg]
  cases ho : LsOpcode.ofBits instr.opcodeLs with
  | load | store | push | pop | byteLoad | byteStore | shortLoad | shortStore | wordLoad | wordStore =>
    rw [ho] at ha
    cases ha
  | move => exact .kept hw rfl
  | _ =>
    refine .kept hw ?_
    simp only
    split <;> rfl

lemma quiet_dispatchLSPCRel {instr : Instruction} (hw : s.softwareWrites instr = none)
    (ha : s.lsPCRelAccess instr = .none) : Quiet s (s.dispatchLSPCRel instr) instr := by
  simp only [Cpu.lsPCRelAccess] at ha
  simp only [Cpu.dispatchLSPCRel]
  cases ho : LsOpcode.ofBits instr.opcodeLs with
  | load | store | push | pop | byteLoad | byteStore | shortLoad | shortStore | wordLoad | wordStore =>
    rw [ho] at ha
    cases ha
  | move => exact .kept hw rfl
  | _ =>
    refine .kept hw ?_
    simp only
    split <;> rfl

lemma quiet_dispatchLDI {instr : Instruction} (hw : s.softwareWrites instr = none) :
    Quiet s (s.dispatchLDI instr) instr := by
  refine .kept hw ?_
  rw [Cpu.dispatchLDI]
  simp only
  split_ifs <;> rfl

lemma quiet_dispatchGP {instr : Instruction} (hf : instr.format = 3) (hj : ¬ instr.isUnconditionalJump = true)
    (hg : s.gpTrap instr = none) (ha : s.gpAccess instr = .none) : Quiet s (s.dispatchGP instr) instr := by
  have hn : s.instructionTrapOf instr = none := (if_pos ⟨hf, hj⟩).trans hg
  simp only [Cpu.gpTrap] at hg
  simp only [Cpu.gpAccess] at ha
  simp only [Cpu.dispatchGP]
  cases ho : GpOpcode.ofBits instr.opcodeGp with
  | none =>
    rw [ho] at hg
    cases hg
  | some op =>
    have hw : op ≠ .ssr → s.softwareWrites instr = none := fun hne =>
      softwareWrites_other (by rw [ho]; exact fun h => hne (Option.some.inj h))
    simp only [ho] at hg ha
    cases op with
    | syscall => cases hg
    | llr => cases ha
    | scr =>
      refine .kept (hw (by decide)) ?_
      simp only at ha ⊢
      split at ha
      · cases ha
      · next hr =>
        rw [if_neg hr]
        rfl
    | add | sub | test | and | or | xor => exact .kept (hw (by decide)) rfl
    | sll =>
      refine .kept (hw (by decide)) ?_
      simp only
      split
      · rfl
      · exact special_shiftLeftLogical _ _ _
    | srl =>
      refine .kept (hw (by decide)) ?_
      simp only
      split
      · rfl
      · exact special_shiftRightLogical _ _ _
    | sra =>
      refine .kept (hw (by decide)) ?_
      simp only
      split
      · rfl
      · exact special_shiftRightArithmetic _ _ _
    | slli => exact .kept (hw (by decide)) (special_shiftLeftLogical _ _ _)
    | srli => exact .kept (hw (by decide)) (special_shiftRightLogical _ _ _)
    | srai => exact .kept (hw (by decide)) (special_shiftRightArithmetic _ _ _)
    | lsr =>
      refine .kept (hw (by decide)) ?_
      simp only at hg ⊢
      rw [if_neg]
      · rfl
      · intro hc
        rw [Bool.and_eq_true, Bool.not_eq_true'] at hc
        rw [if_neg (by rw [hc.2]; exact Bool.false_ne_true), if_pos hc.1] at hg
        cases hg
    | ssr =>
      simp only at hg ⊢
      have hu : ¬ (s.registers.isUserMode && !SpecialRegister.isUserAccessibleSelector
          (SpecialRegister.normalizeSelector (s.reg instr.rs1))) = true := by
        intro hc
        rw [Bool.and_eq_true, Bool.not_eq_true'] at hc
        rw [if_neg (by rw [hc.2]; exact Bool.false_ne_true), if_pos hc.1] at hg
        cases hg
      rw [if_neg hu]
      refine .written (s.reg instr.rd) (if_pos ⟨hn, hf, hj, ho⟩) (fun hm => ?_) (special_ssr _ _)
      simpa only [hm, Bool.true_and, Bool.not_eq_true', Bool.not_eq_false] using hu
    | iret =>
      simp only at hg ⊢
      split at hg
      · cases hg
      · next hu =>
        rw [if_neg hu]
        exact .returned (Bool.not_eq_true _ ▸ hu) (hw (by decide)) rfl
    | stop =>
      simp only at hg ⊢
      split at hg
      · cases hg
      · next hu =>
        rw [if_neg hu]
        exact .kept (hw (by decide)) rfl

/-- An instruction traps by itself, or makes a data access, or is quiet. -/
theorem dispatchInstruction_quiet (s : Cpu) (instr : Instruction) (ht : s.instructionTrapOf instr = none)
    (ha : s.dataAccess instr = .none) : Quiet s (s.dispatchInstruction instr) instr := by
  have hf : ∀ f : BitVec 2, f = 0 ∨ f = 1 ∨ f = 2 ∨ f = 3 := by decide
  have hw : instr.format ≠ 3 → s.softwareWrites instr = none := fun h => if_neg fun hc => h hc.2.1
  rw [Cpu.dataAccess] at ha
  rw [Cpu.dispatchInstruction]
  rcases hf instr.format with h | h | h | h <;> rw [h] at ha ⊢
  · exact quiet_dispatchLSReg (hw (by rw [h]; decide)) ha
  · exact quiet_dispatchLSPCRel (hw (by rw [h]; decide)) ha
  · exact quiet_dispatchLDI (hw (by rw [h]; decide))
  · by_cases hj : instr.isUnconditionalJump = true
    · simp only [hj, if_true]
      exact .kept (if_neg fun hc => hc.2.2.1 hj) rfl
    · simp only [hj] at ha ⊢
      exact quiet_dispatchGP h hj ((if_pos ⟨h, hj⟩).symm.trans ht) ha

lemma dispatchInstruction_trap (s : Cpu) (instr : Instruction) {cause : Word}
    (ht : s.instructionTrapOf instr = some cause) : s.dispatchInstruction instr = (s.raise (.instruction cause)).2 := by
  rw [Cpu.instructionTrapOf] at ht
  split at ht
  · next h =>
    have hd : s.dispatchInstruction instr = s.dispatchGP instr := by
      rw [Cpu.dispatchInstruction, h.1]
      simp only [h.2]
      rfl
    rw [hd]
    exact dispatchGP_trap ht
  · cases ht

end Quiet

end Little64.Emulator

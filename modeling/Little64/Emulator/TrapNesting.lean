import Little64.Emulator.Exceptions

/-! The first trap cause: when further exceptions leave the trap registers of the first one alone. -/

namespace Little64.Emulator

open Vectors

/-- Whether software writes `trap_cause` in a step. -/
def writesTrapCause (s : Cpu) : Event → Bool
  | .cycle =>
    match s.dispatching with
    | some (t, instr) => t.softwareWrites instr == some .trapCause
    | none => false
  | _ => false

/-- The nesting rule: a recorded cause outlives further exceptions, up to a write by software,
and an exception that cannot be delivered records nothing. -/
structure NestingRule (s : Cpu) (e : Event) : Prop where
  first : ∀ r ∈ raised s e, r.1.registers.trapCause ≠ noTrap →
    (r.1.raise r.2).2.registers.trapCause = r.1.registers.trapCause
  undelivered : ∀ r ∈ raised s e, (r.1.raise r.2).1 = false →
    (r.1.raise r.2).2.registers.trapRecord = r.1.registers.trapRecord
  kept : writesTrapCause s e = false → s.registers.trapCause ≠ noTrap →
    (step s e).registers.trapCause = s.registers.trapCause

/-- Each exception finds no cause recorded, or its own, and is delivered unless all it records is there already. -/
def RecordsOnce (s : Cpu) (e : Event) : Prop :=
  ∀ r ∈ raised s e, (r.1.registers.trapCause ≠ noTrap → r.2.cause = r.1.registers.trapCause) ∧
    (¬ r.1.Delivers r.2.cause → r.1.recorded r.2 = r.1.registers.trapRecord)

section Cycle

variable {s t : Cpu} {instr : Instruction} {e : Event}

lemma trapCause_special {r r' : Registers} (h : r'.special = r.special) : r'.trapCause = r.trapCause := by
  have hc := congrArg Registers.trapCause h
  exact hc

lemma trapCause_setSpecialRegister (selector value : Word) (r : Registers)
    (h : SpecialRegister.ofSelector selector ≠ some .trapCause) :
    (r.setSpecialRegister selector value).trapCause = r.trapCause := by
  rw [Registers.setSpecialRegister]
  cases hs : SpecialRegister.ofSelector selector with
  | none => rfl
  | some register =>
    cases register with
    | trapCause => exact absurd hs h
    | _ => rfl

lemma raisedBy_quiet (ht : s.instructionTrapOf instr = none) (ha : s.dataAccess instr = .none) :
    s.raisedBy instr = [] := by
  rw [Cpu.raisedBy, ht, ha]
  rfl

/-- Dispatch changes `trap_cause` by raising exceptions, unless software writes it. -/
lemma dispatch_through (hw : s.softwareWrites instr ≠ some .trapCause) :
    Through s (s.raisedBy instr) (s.dispatchInstruction instr) ∨
      s.raisedBy instr = [] ∧ (s.dispatchInstruction instr).registers.trapCause = s.registers.trapCause := by
  cases ht : s.instructionTrapOf instr with
  | some cause =>
    rw [Cpu.raisedBy, ht, dispatchInstruction_trap s instr ht]
    exact .inl (.single _ rfl)
  | none =>
    by_cases ha : s.dataAccess instr = .none
    · refine .inr ⟨raisedBy_quiet ht ha, ?_⟩
      cases dispatchInstruction_quiet s instr ht ha with
      | kept _ h => exact trapCause_special h
      | written value hs _ h =>
        refine (trapCause_special h).trans ?_
        exact trapCause_setSpecialRegister _ _ _ fun hc => hw (hs.trans hc)
      | returned _ _ h =>
        have hc := congrArg Registers.trapCause h
        exact hc
    · refine .inl ?_
      rw [Cpu.raisedBy, ht]
      exact through_performs (dispatchInstruction_performs s instr) ha

/-- Each exception of a list finds no cause recorded, or its own. -/
def FindsOwnCause (l : List (Cpu × Exception)) : Prop :=
  ∀ r ∈ l, r.1.registers.trapCause ≠ noTrap → r.2.cause = r.1.registers.trapCause

lemma Through.kept {l : List (Cpu × Exception)} (h : Through s l t) (hl : FindsOwnCause l)
    (hs : s.registers.trapCause ≠ noTrap) : t.registers.trapCause = s.registers.trapCause := by
  induction h with
  | nil ht => exact congrArg TrapRecord.cause ht
  | @cons s u t x rest hu _ ih =>
    have hus : u.registers.trapCause = s.registers.trapCause := congrArg TrapRecord.cause hu
    have hx : x.cause = u.registers.trapCause := hl (u, x) List.mem_cons_self (by rw [hus]; exact hs)
    have hraise : (u.raise x).2.registers.trapCause = x.cause :=
      (congrArg TrapRecord.cause (trapRecord_raise u x)).trans (cause_recorded u x)
    rw [ih (fun r hr => hl r (List.mem_cons_of_mem _ hr)) (by rw [hraise, hx, hus]; exact hs), hraise, hx, hus]

lemma dispatch_kept (instr : Instruction) (hw : s.softwareWrites instr ≠ some .trapCause) (hl : FindsOwnCause (s.raisedBy instr))
    (hs : s.registers.trapCause ≠ noTrap) :
    (s.dispatchInstruction instr).registers.trapCause = s.registers.trapCause := by
  rcases dispatch_through hw with h | ⟨_, h⟩
  · exact h.kept hl hs
  · exact h

/-- The end of a cycle, where a pending interrupt may be taken, leaves `trap_cause` alone. -/
lemma trapCause_interrupt (vector : Word) :
    (s.raiseInterrupt vector false (BitVec.allOnes 64)).2.registers.trapCause = s.registers.trapCause :=
  congrArg TrapRecord.cause (trapRecord_raiseInterrupt _ fun h => by cases h)

lemma cycle_kept (hw : writesTrapCause s .cycle = false) (hl : FindsOwnCause s.raisedInCycle)
    (hs : s.registers.trapCause ≠ noTrap) : s.cycle.registers.trapCause = s.registers.trapCause := by
  have hfetch := through_readMemory (s := s.setReg 0 0) MemoryBus.read16 (s.reg 15) (s.reg 15) .execute
  rw [Cpu.raisedInCycle] at hl
  rw [writesTrapCause] at hw
  rw [Cpu.cycle]
  by_cases hr : s.isRunning = true
  · simp only [hr, Bool.not_true, Bool.false_eq_true, if_false] at hl ⊢
    rw [Cpu.dispatching] at hl hw
    simp only [hr, Bool.true_and] at hl hw
    have hkept : ∀ t : Cpu, t = ((s.setReg 0 0).readMemory16 (s.reg 15) (s.reg 15) .execute).2 →
        t.registers.trapCause = s.registers.trapCause := fun t ht => by
      rw [ht]
      exact hfetch.kept (fun r h => hl r (List.mem_append_left _ h)) hs
    generalize (s.setReg 0 0).readMemory16 (s.reg 15) (s.reg 15) .execute = fetched at hl hw hkept ⊢
    by_cases hf : fetched.2.isRunning = true
    · simp only [hf, if_true, Bool.not_true, Bool.false_eq_true, if_false] at hl hw ⊢
      have hd := dispatch_kept (s := fetched.2.setReg 15 (fetched.2.reg 15 + 2)) (Instruction.decode fetched.1)
        (fun h => by rw [h] at hw; cases hw)
        (fun r h => hl r (List.mem_append_right _ h)) (by rw [← hkept _ rfl] at hs; exact hs)
      have hd := hd.trans
        (hkept fetched.2 rfl : (fetched.2.setReg 15 _).registers.trapCause = s.registers.trapCause)
      generalize (fetched.2.setReg 15 (fetched.2.reg 15 + 2)).dispatchInstruction
        (Instruction.decode fetched.1) = u at hd ⊢
      split
      · exact hd
      · split
        · split
          · exact (trapCause_interrupt _).trans hd
          · exact hd
        · exact hd
    · rw [if_pos (by simp [hf])]
      exact hkept _ rfl
  · rw [if_pos (by simp [hr])]

lemma step_kept (hw : writesTrapCause s e = false) (hl : FindsOwnCause (raised s e))
    (hs : s.registers.trapCause ≠ noTrap) : (step s e).registers.trapCause = s.registers.trapCause := by
  cases e with
  | cycle => exact cycle_kept hw hl hs
  | assertInterrupt num => exact congrArg TrapRecord.cause (trapRecord_setInterruptPending _ num)
  | clearInterrupt num =>
    rw [step, Cpu.clearInterrupt, Registers.clearInterruptPending]
    simp only
    split_ifs <;> rfl

lemma nestingRule_iff (s : Cpu) (e : Event) : NestingRule s e ↔ RecordsOnce s e := by
  have hcause : ∀ r : Cpu × Exception, (r.1.raise r.2).2.registers.trapCause = r.2.cause := fun r =>
    (congrArg TrapRecord.cause (trapRecord_raise r.1 r.2)).trans (cause_recorded r.1 r.2)
  have hdel : ∀ r : Cpu × Exception, (r.1.raise r.2).1 = false ↔ ¬ r.1.Delivers r.2.cause := fun r => by
    rw [← raise_delivers, Bool.not_eq_true]
  constructor
  · intro h r hr
    refine ⟨fun hc => (hcause r).symm.trans (h.first r hr hc), fun hd => ?_⟩
    rw [← trapRecord_raise]
    exact h.undelivered r hr ((hdel r).mpr hd)
  · intro h
    refine ⟨fun r hr hc => (hcause r).trans ((h r hr).1 hc), fun r hr hd => ?_, fun hw hs => ?_⟩
    · rw [trapRecord_raise]
      exact (h r hr).2 ((hdel r).mp hd)
    · exact step_kept hw (fun r hr => (h r hr).1) hs

/-- A run obeys the nesting rule exactly when each of its exceptions records its cause once. -/
theorem trap_cause_nesting_iff (s : Cpu) (events : List Event) :
    Runs.Along step NestingRule s events ↔ Runs.Along step RecordsOnce s events :=
  ⟨.mono fun s e => (nestingRule_iff s e).mp, .mono fun s e => (nestingRule_iff s e).mpr⟩

/-- Between two writes by software the first cause stays. -/
theorem first_cause_outlives_run {events : List Event} (hs : s.registers.trapCause ≠ noTrap)
    (h : Runs.Along step (fun s e => RecordsOnce s e ∧ writesTrapCause s e = false) s events) :
    (Runs.run step s events).registers.trapCause = s.registers.trapCause := by
  induction h with
  | nil s => rfl
  | @cons s e events hr _ ih =>
    have hk := step_kept hr.2 (fun r h => (hr.1 r h).1) hs
    exact (ih (by rw [hk]; exact hs)).trans hk

/-- A `SYSCALL` at `0x2000`, whose handler at `0x2800` starts with a word that is no instruction. -/
def nestedRam : MemoryRegion where
  base := 0
  size := 0x10000
  kind := .ram
  data addr := if addr = 0x2001 then 0xDB else if addr = 0x2801 then 0xC5 else if addr = 0x3021 then 0x28 else 0

def nestedCpu : Cpu where
  registers := { Registers.initial with
    regs := fun i => if i = 15 then 0x2000 else 0
    interruptTableBase := 0x3000 }
  isRunning := true
  bus := ⟨[nestedRam], List.pairwise_singleton _ _⟩
  tlb _ := TlbEntry.initial
  memBase := 0
  memSize := 0x10000
  bootSourceBytes := []
  events := []

/-- The second exception locks the CPU up and still replaces the first cause. -/
theorem lockup_overwrites_trap_cause :
    (step nestedCpu .cycle).registers.trapCause = trapSyscallFromSupervisor ∧
      (step (step nestedCpu .cycle) .cycle).isRunning = false ∧
        (step (step nestedCpu .cycle) .cycle).registers.trapCause = trapInvalidInstruction ∧
          ¬ Runs.Along step NestingRule nestedCpu [.cycle, .cycle] := by
  refine ⟨by decide +kernel, by decide +kernel, by decide +kernel, fun h => ?_⟩
  cases h with
  | cons _ h =>
    cases h with
    | cons hr _ => exact absurd (hr.kept (by decide +kernel) (by decide +kernel)) (by decide +kernel)

end Cycle

end Little64.Emulator

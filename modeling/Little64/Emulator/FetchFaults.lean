import Little64.Emulator.Exceptions

/-! A cycle whose fetch faults: the word that the failed read returns undoes the advance of `R15` and nothing else. -/

namespace Little64.Emulator.Cpu

open Vectors

variable {s t : Cpu}

/-- The state between the two halves of a cycle: after the dispatch, before the self-loop check. -/
def instructionPart (s : Cpu) : Cpu :=
  match s.dispatching with
  | some (t, instr) => t.dispatchInstruction instr
  | none => ((s.setReg 0 0).readMemory16 (s.reg 15) (s.reg 15) .execute).2

lemma setReg_setReg (rd : Reg) (a b : Word) : (t.setReg rd a).setReg rd b = t.setReg rd b := by
  have hregs : (fun i => if i = rd then b else if i = rd then a else t.registers.regs i) =
      fun i => if i = rd then b else t.registers.regs i := by
    funext i
    by_cases hi : i = rd
    · rw [if_pos hi, if_pos hi]
    · rw [if_neg hi, if_neg hi, if_neg hi]
  exact congrArg (fun regs => ({ t with registers := { t.registers with regs := regs } } : Cpu)) hregs

lemma setReg_self (rd : Reg) : t.setReg rd (t.reg rd) = t := by
  have hregs : (fun i => if i = rd then t.reg rd else t.registers.regs i) = t.registers.regs := by
    funext i
    by_cases hi : i = rd
    · rw [if_pos hi, hi]
      rfl
    · rw [if_neg hi]
  exact congrArg (fun regs => ({ t with registers := { t.registers with regs := regs } } : Cpu)) hregs

lemma dispatch_allOnes (t : Cpu) :
    (t.setReg 15 (t.reg 15 + 2)).dispatchInstruction (.decode (BitVec.allOnes 16)) = t := by
  have hjump : (t.setReg 15 (t.reg 15 + 2)).dispatchInstruction (.decode (BitVec.allOnes 16)) =
      (t.setReg 15 (t.reg 15 + 2)).setReg 15 (t.reg 15 + 2 + (0xFFFF : BitVec 16).signExtend 64 * 2) := rfl
  have hback : t.reg 15 + 2 + (0xFFFF : BitVec 16).signExtend 64 * 2 = t.reg 15 := by
    have hoffset : (0xFFFF : BitVec 16).signExtend 64 * 2 = -(2 : Word) := by decide
    rw [hoffset, BitVec.add_assoc, BitVec.add_right_neg, BitVec.add_zero]
  rw [hjump, setReg_setReg, hback, setReg_self]

/-- What a fetch fault whose handler is entered leaves after the instruction part of its cycle. -/
structure FetchFaulted (s t : Cpu) (cause handler : Word) : Prop where
  handlerAddress : s.handlerAddress cause = some handler
  reg15 : t.reg 15 = handler
  regs : ∀ i, i ≠ 15 → t.reg i = (s.setReg 0 0).reg i
  flags : t.registers.flags = s.registers.flags
  bus : t.bus = s.bus
  interruptEpc : t.registers.interruptEpc = s.reg 15

theorem fetch_fault_exact (s : Cpu) (cause aux : Word) (hrunning : s.isRunning = true)
    (hfault : (s.setReg 0 0).mapResult (s.reg 15) .execute = .fault cause aux)
    (hentered : ((s.setReg 0 0).raiseFault (s.reg 15) .execute (s.reg 15) cause aux).1 = true) :
    ∃ handler, FetchFaulted s s.instructionPart cause handler ∧
      s.instructionPart = ((s.setReg 0 0).raiseFault (s.reg 15) .execute (s.reg 15) cause aux).2.record
        ((s.setReg 0 0).accessEvent .execute (s.reg 15) 16 (.faulted cause true)) := by
  obtain ⟨handler, hhandler⟩ := raiseFault_entered hentered
  have hread := readMemory_fault (s := s.setReg 0 0) (w := 16) MemoryBus.read16 (s.reg 15) hfault
  rw [hentered] at hread
  obtain ⟨u, hu⟩ : ∃ u, u = ((s.setReg 0 0).raiseFault (s.reg 15) .execute (s.reg 15) cause aux).2.record
      ((s.setReg 0 0).accessEvent .execute (s.reg 15) 16 (.faulted cause true)) := ⟨_, rfl⟩
  have hrunning' : u.isRunning = true := by
    obtain ⟨_, _, hraise⟩ := raiseInterrupt_entered hentered
    rw [hu, raiseFault, hraise]
    exact hrunning
  have hpart : s.instructionPart = u := by
    have hread' : (s.setReg 0 0).readMemory16 (s.reg 15) (s.reg 15) .execute = (BitVec.allOnes 16, u) := by
      rw [hu]
      exact hread
    have hdispatching : s.dispatching = some (u.setReg 15 (u.reg 15 + 2), .decode (BitVec.allOnes 16)) := by
      rw [dispatching, hread']
      simp only [hrunning, hrunning']
      rfl
    rw [instructionPart, hdispatching]
    exact dispatch_allOnes u
  have hreg15 : (s.setReg 0 0).reg 15 = s.reg 15 := rfl
  refine ⟨handler, ⟨hhandler.handlerAddress, ?_, ?_, ?_, ?_, ?_⟩, hpart.trans hu⟩
  all_goals rw [hpart, hu]
  · exact hhandler.reg15
  · exact hhandler.regs
  · exact hhandler.flags
  · exact hhandler.vectors.bus
  · refine hhandler.interruptEpc.trans ?_
    rw [hreg15]
    exact ite_eq_right_iff.mpr fun _ => rfl

/-- The PC lies in a page that is not present. -/
def missingPage : Cpu := sampleCpu fun i => if i = 15 then 0x40000000 else 7

theorem fetch_fault_exact_missingPage : ∃ handler, FetchFaulted missingPage missingPage.instructionPart 5 handler ∧
    missingPage.instructionPart =
      ((missingPage.setReg 0 0).raiseFault (missingPage.reg 15) .execute (missingPage.reg 15) 5 0x201).2.record
        ((missingPage.setReg 0 0).accessEvent .execute (missingPage.reg 15) 16 (.faulted 5 true)) :=
  fetch_fault_exact missingPage 5 0x201 rfl (by decide +kernel) (by decide +kernel)

end Little64.Emulator.Cpu

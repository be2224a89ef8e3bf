import Little64.Hdl.Architecture

/-! When an instruction in the execute slot turns the fetch away from the predicted path, and why it
keeps doing so while it waits. -/

namespace Little64.Hdl

open Emulator (Reg)

namespace ExecuteInputs

variable (i : ExecuteInputs)

/-- An instruction with a memory operation goes on to the next one, whatever the state around it. -/
lemma nextPc_of_memory (j : ExecuteInputs) (hv : j.valid = i.valid) (hi : j.instruction = i.instruction)
    (hm : i.outputs.memoryStart = true) : j.outputs.nextPc = j.postIncrementPc := by
  cases hiv : i.valid with
  | false =>
    rw [outputs_of_invalid hiv] at hm
    exact absurd hm Bool.false_ne_true
  | true =>
    have hjv : j.valid = true := hv.trans hiv
    have hls : j.lsOpcode = i.lsOpcode := by rw [lsOpcode, lsOpcode, hi]
    rcases i.group_cases with h | h | h | ⟨h, h7⟩ | ⟨h, h7⟩
    · rw [outputs_of_lsReg hiv h, executeLsReg] at hm
      rw [outputs_of_lsReg hjv (hi ▸ h), executeLsReg, hls]
      cases ho : i.lsOpcode <;> rw [ho] at hm <;> first
        | exact absurd hm Bool.false_ne_true
        | rfl
    · rw [outputs_of_lsPcRel hiv h, executeLsPcRel] at hm
      rw [outputs_of_lsPcRel hjv (hi ▸ h), executeLsPcRel, hls]
      cases ho : i.lsOpcode <;> rw [ho] at hm <;> first
        | exact absurd hm Bool.false_ne_true
        | rfl
    · rw [outputs_of_ldi hiv h] at hm
      exact absurd hm Bool.false_ne_true
    · rw [outputs_of_jump hiv h h7] at hm
      exact absurd hm Bool.false_ne_true
    · rw [outputs_of_gp hiv h h7, executeGp] at hm
      rw [outputs_of_gp hjv (hi ▸ h) (hi ▸ h7), executeGp, hi]
      cases ho : instructionGpOpcode i.instruction with
      | none =>
        rw [ho] at hm
        exact absurd hm Bool.false_ne_true
      | some op =>
        rw [ho] at hm
        cases op with
        | llr => rfl
        | scr =>
          change (if _ then _ else _ : ExecuteOutputs).nextPc = _
          split <;> rfl
        | lsr | ssr | iret | stop =>
          simp only at hm
          split at hm <;> exact absurd hm Bool.false_ne_true
        | _ => exact absurd hm Bool.false_ne_true

end ExecuteInputs

/-- The outputs end the program, trap or lead away from the predicted path. -/
def ExecuteOutputs.steers (o : ExecuteOutputs) (predicted : Word) : Bool :=
  o.halt || o.lockup || o.trap || o.nextPc != predicted

namespace ExecuteInputs

variable (i : ExecuteInputs)

/-- The inputs with everything replaced that can change while the instruction waits. -/
def waiting (eflags control : Word) (linked : Bool) (reservation special : Word) (fault : Bool) : ExecuteInputs :=
  { i with
    interruptEflags := eflags
    interruptCpuControl := control
    llReservationValid := linked
    llReservationAddr := reservation
    specialReadData := special
    specialWriteAccessFault := fault }

lemma executeGp_steers_waiting (hf : i.specialWriteAccessFault = false) (eflags control : Word) (linked : Bool)
    (reservation special : Word) (fault : Bool) (predicted : Word) (h : i.executeGp.steers predicted = true) :
    (i.waiting eflags control linked reservation special fault).executeGp.steers predicted = true := by
  unfold executeGp at h ⊢
  have hi : (i.waiting eflags control linked reservation special fault).instruction = i.instruction := rfl
  rw [hi]
  cases ho : instructionGpOpcode i.instruction with
  | none => rfl
  | some op =>
    rw [ho] at h
    cases op with
    | scr =>
      have hn : i.postIncrementPc ≠ predicted := by
        simp only at h
        split at h <;> simpa [ExecuteOutputs.steers, access, idle] using h
      simp only
      have hn' : (i.waiting eflags control linked reservation special fault).postIncrementPc ≠ predicted := hn
      split <;> simpa [ExecuteOutputs.steers, access, idle] using hn'
    | ssr =>
      rw [hf] at h
      have hn : i.postIncrementPc ≠ predicted := by
        simpa [ExecuteOutputs.steers, idle] using h
      cases fault with
      | true => rfl
      | false =>
        have hn' : (i.waiting eflags control linked reservation special false).postIncrementPc ≠ predicted := hn
        change (i.waiting eflags control linked reservation special false).idle.steers predicted = true
        simpa [ExecuteOutputs.steers, idle] using hn'
    | lsr =>
      change (if i.specialReadAccessFault then _ else _ : ExecuteOutputs).steers predicted = true at h
      change (if i.specialReadAccessFault then _ else _ : ExecuteOutputs).steers predicted = true
      cases hr : i.specialReadAccessFault <;> rw [hr] at h <;> exact h
    | iret | stop =>
      change (if i.userMode then _ else _ : ExecuteOutputs).steers predicted = true at h
      change (if i.userMode then _ else _ : ExecuteOutputs).steers predicted = true
      cases hr : i.userMode <;> rw [hr] at h <;> exact h
    | _ => exact h

lemma steers_waiting (hf : i.specialWriteAccessFault = false) (eflags control : Word) (linked : Bool)
    (reservation special : Word) (fault : Bool) (predicted : Word) (h : i.outputs.steers predicted = true) :
    (i.waiting eflags control linked reservation special fault).outputs.steers predicted = true := by
  cases hv : i.valid with
  | false =>
    have hv' : (i.waiting eflags control linked reservation special fault).valid = false := hv
    rw [outputs_of_invalid hv] at h
    rw [outputs_of_invalid hv']
    exact h
  | true =>
    have hv' : (i.waiting eflags control linked reservation special fault).valid = true := hv
    rcases i.group_cases with h2 | h2 | h2 | ⟨h2, h7⟩ | ⟨h2, h7⟩
    · rw [outputs_of_lsReg hv h2] at h
      rw [outputs_of_lsReg hv' h2]
      exact h
    · rw [outputs_of_lsPcRel hv h2] at h
      rw [outputs_of_lsPcRel hv' h2]
      exact h
    · rw [outputs_of_ldi hv h2] at h
      rw [outputs_of_ldi hv' h2]
      exact h
    · rw [outputs_of_jump hv h2 h7] at h
      rw [outputs_of_jump hv' h2 h7]
      exact h
    · rw [outputs_of_gp hv h2 h7] at h
      rw [outputs_of_gp hv' h2 h7]
      exact i.executeGp_steers_waiting hf eflags control linked reservation special fault predicted h

end ExecuteInputs

namespace Core

variable {c : CoreConfig} (s : Core c)

/-- The instruction in the execute slot steers the fetch. -/
def steers : Bool := s.de.valid && s.execute.steers s.de.predictedNextPc

variable {s} {i : CoreInputs c}

lemma executeFlushYounger_eq (h : s.memoryRedirect = false) : s.executeFlushYounger = s.steers := by
  simp only [executeFlushYounger, executeMispredict, steers, ExecuteOutputs.steers, h]
  cases s.de.valid <;> cases s.execute.halt <;> cases s.execute.lockup <;> cases s.execute.trap <;> simp

lemma executeMispredict_of_steers (h : s.memoryRedirect = false) (hs : s.steers = true)
    (ht : (s.execute.trap || s.execute.halt || s.execute.lockup) = false) : s.executeMispredict = true := by
  simp only [Bool.or_eq_false_iff] at ht
  simp only [steers, ExecuteOutputs.steers, ht.1.1, ht.1.2, ht.2, Bool.false_or, Bool.and_eq_true] at hs
  simp [executeMispredict, hs.1, hs.2, ht.1.1, ht.1.2, ht.2, h]

lemma steers_step (hr : s.resetPending = false) (hde : (s.nextDe i).valid = true)
    (hkept : s.decodeAdvance = false) (hl : s.executeLeaves = false) (hentry : s.entryStart i = false)
    (hvec : s.vectorEnters i = false)
    (hctl : s.retire.valid = true → s.retire.cpuControlWrite = true → s.xm.valid = false ∧ s.mr.valid = false)
    (hs : s.steers = true) : (s.step i).steers = true := by
  have hd : s.de.valid = true := by
    rcases (nextDe_valid hde).2 with h | ⟨_, h, _⟩
    · exact absurd h (by simp [hkept])
    · exact h
  have hred : s.memoryRedirect = false := by
    rcases (nextDe_valid hde).2 with h | ⟨_, _, _, h⟩
    · exact absurd h (by simp [hkept])
    · exact h
  have hret := (executeLeaves_eq_false hl).2.2.2
  have hcommit : s.executeSpecialWriteCommit = false := by simp [executeSpecialWriteCommit, hret]
  have hfault : s.specialWriteAccessFault = false := by simp [specialWriteAccessFault, hcommit]
  have hnext : s.nextDe i = s.de := by
    have hclear := (nextDe_valid hde).1
    simp [nextDe, hkept, hclear, hl, hred]
  have hde' : (s.step i).de = s.de := by
    rw [step_eq i hr]
    exact hnext
  have hregs : (s.step i).specialRegs = s.specialRegs.step c.specialRegs (s.specialRegisterInputs i) := by
    rw [step_eq i hr]
    rfl
  have hepc : (s.step i).specialRegs.interruptEpc = s.specialRegs.interruptEpc := by
    rw [hregs]
    simp [SpecialRegisters.step, SpecialRegisters.softwareWrite, specialRegisterInputs, hcommit, hvec]
  simp only [steers, Bool.and_eq_true] at hs
  rw [steers, hde', hd, Bool.true_and]
  cases hm : s.execute.memoryStart with
  | true =>
    have hn : s.execute.nextPc = s.de.postIncrementPc := ((execute_shape s).memoryQuiet hm).1
    have hn' : (s.step i).execute.nextPc = (s.step i).de.postIncrementPc := by
      apply ExecuteInputs.nextPc_of_memory (s.executeInputs s.specialWriteAccessFault)
      · exact congrArg (·.valid) hde'
      · exact congrArg (·.instruction) hde'
      · exact hm
    have hq := ((execute_shape s).memoryQuiet hm).2.1
    simp only [Bool.or_eq_false_iff] at hq
    have hne := hs.2
    simp only [ExecuteOutputs.steers, hq.1.1, hq.1.2, hq.2, Bool.false_or, hn] at hne
    simp only [ExecuteOutputs.steers, hn', hde', hne, Bool.or_true]
  | false =>
    have hctl' : (s.retire.valid && s.retire.cpuControlWrite) = false := by
      apply Bool.eq_false_of_not_eq_true
      intro h
      rw [Bool.and_eq_true] at h
      obtain ⟨hx, hmr⟩ := hctl h.1 h.2
      simp [executeToRetire, memoryStart_eq, hd, hm, hx, hmr, hred] at hret
    have hcpu : (s.step i).specialRegs.cpuControl = s.specialRegs.cpuControl := by
      rw [hregs]
      simp [SpecialRegisters.step, SpecialRegisters.softwareWrite, specialRegisterInputs, hcommit, hctl', hentry]
    have hinputs : ∀ fault, (s.step i).executeInputs fault =
        (s.executeInputs false).waiting (s.step i).specialRegs.interruptEflags
          (s.step i).specialRegs.interruptCpuControl (s.step i).llReservationValid (s.step i).llReservationAddr
          ((s.step i).specialRegs.readData c.specialRegs (s.de.operandB.setWidth 16)) fault := by
      intro fault
      simp only [executeInputs, ExecuteInputs.waiting, hde', hcpu, hepc, SpecialRegisters.readAccessFault,
        SpecialRegisters.userMode]
    rw [execute, hinputs]
    apply ExecuteInputs.steers_waiting _ rfl
    have hsame := hs.2
    rw [execute, hfault] at hsame
    exact hsame

end Core

end Little64.Hdl

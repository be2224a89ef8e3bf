import Little64.Hdl.Core

/-! What one cycle of the core can do: the fields of the next state, and where each valid latch comes from. -/

namespace Little64.Hdl

namespace ExecuteInputs

variable (i : ExecuteInputs) (fault : Bool)

/-- The inputs with the fault of a special write replaced. -/
def withWriteFault : ExecuteInputs := { i with specialWriteAccessFault := fault }

structure SameMemory (o o' : ExecuteOutputs) : Prop where
  memoryStart : o.memoryStart = o'.memoryStart
  memoryAddr : o.memoryAddr = o'.memoryAddr
  memory : o.memory = o'.memory

lemma executeGp_withWriteFault : SameMemory (i.withWriteFault fault).executeGp i.executeGp := by
  unfold executeGp
  cases h : instructionGpOpcode i.instruction with
  | none =>
    simp only [withWriteFault, h]
    exact ⟨rfl, rfl, rfl⟩
  | some op =>
    cases op with
    | ssr =>
      simp only [withWriteFault, h]
      cases fault <;> cases i.specialWriteAccessFault <;> exact ⟨rfl, rfl, rfl⟩
    | _ =>
      simp only [withWriteFault, h]
      exact ⟨rfl, rfl, rfl⟩

lemma outputs_withWriteFault : SameMemory (i.withWriteFault fault).outputs i.outputs := by
  cases hv : i.valid with
  | false =>
    have hv' : (i.withWriteFault fault).valid = false := hv
    rw [outputs_of_invalid hv, outputs_of_invalid hv']
    exact ⟨rfl, rfl, rfl⟩
  | true =>
    have hv' : (i.withWriteFault fault).valid = true := hv
    rcases i.group_cases with h | h | h | ⟨h, h7⟩ | ⟨h, h7⟩
    · rw [outputs_of_lsReg hv h, outputs_of_lsReg hv' h]
      exact ⟨rfl, rfl, rfl⟩
    · rw [outputs_of_lsPcRel hv h, outputs_of_lsPcRel hv' h]
      exact ⟨rfl, rfl, rfl⟩
    · rw [outputs_of_ldi hv h, outputs_of_ldi hv' h]
      exact ⟨rfl, rfl, rfl⟩
    · rw [outputs_of_jump hv h h7, outputs_of_jump hv' h h7]
      exact ⟨rfl, rfl, rfl⟩
    · rw [outputs_of_gp hv h h7, outputs_of_gp hv' h h7]
      exact executeGp_withWriteFault i fault

end ExecuteInputs

namespace Core

variable {c : CoreConfig} (s : Core c) (i : CoreInputs c)

lemma execute_memory : ExecuteInputs.SameMemory s.execute (s.executeInputs false).outputs :=
  ExecuteInputs.outputs_withWriteFault (s.executeInputs false) s.specialWriteAccessFault

lemma memoryStart_eq : s.memoryStart = s.execute.memoryStart := (execute_memory s).memoryStart.symm

section Fields

variable {s}

lemma step_eq (h : s.resetPending = false) :
    s.step i =
      { s.stepSubmodules i with
        regs := s.nextRegs i
        flags := s.nextFlags
        halted := s.halted || s.retireHalt
        lockedUp := s.lockedUp || s.locksUp i
        fetch := s.nextFetch i
        fd := s.nextFd i
        de := s.nextDe i
        xm := s.nextXm i
        mr := s.nextMr i
        retire := s.nextRetire i
        vector := s.nextVector i
        walk := s.nextWalk i
        sb0 := (s.nextStorebuf i).1
        sb1 := (s.nextStorebuf i).2
        llReservationValid := s.nextLlReservationValid i
        llReservationAddr :=
          if s.memoryToRetire i && s.xm.op.setReservation then s.xm.op.reservationAddr
          else s.llReservationAddr } := by
  rw [step, h]
  rfl

lemma step_reset_eq (h : s.resetPending = true) :
    s.step i =
      { s.stepSubmodules i with
        regs := fun r => if r = 1 then i.bootR1 else if r = 13 then i.bootR13 else s.regs r
        resetPending := false } := by
  rw [step, h]
  rfl

lemma resetPending_step : (s.step i).resetPending = false := by
  cases hr : s.resetPending with
  | true =>
    rw [step_reset_eq i hr]
  | false =>
    rw [step_eq i hr]
    exact hr

end Fields

section Latches

variable {s i}

lemma nextFd_valid (h : (s.nextFd i).valid = true) :
    s.clearPipeline i = false ∧ s.executeFlushYounger = false ∧
      (s.fetchAccept i = true ∨
        s.fetchAccept i = false ∧ s.fd.valid = true ∧ s.decodeAdvance = false ∧ s.memoryRedirect = false) := by
  simp only [nextFd, Bool.and_eq_true, Bool.not_eq_true'] at h
  obtain ⟨hv, hc⟩ := h
  refine ⟨hc, ?_⟩
  cases hf : s.executeFlushYounger with
  | true => simp [hf] at hv
  | false =>
    cases ha : s.fetchAccept i with
    | true => exact ⟨rfl, .inl rfl⟩
    | false =>
      simp only [hf, ha, Bool.and_eq_true, Bool.not_eq_true', Bool.false_eq_true, if_false] at hv
      exact ⟨rfl, .inr ⟨rfl, hv.1.1, hv.1.2, hv.2⟩⟩

lemma nextDe_valid (h : (s.nextDe i).valid = true) :
    s.clearPipeline i = false ∧
      (s.decodeAdvance = true ∨
        s.decodeAdvance = false ∧ s.de.valid = true ∧ s.executeLeaves = false ∧ s.memoryRedirect = false) := by
  simp only [nextDe, Bool.and_eq_true, Bool.not_eq_true'] at h
  obtain ⟨hv, hc⟩ := h
  refine ⟨hc, ?_⟩
  cases ha : s.decodeAdvance with
  | true => exact .inl rfl
  | false =>
    simp only [ha, Bool.and_eq_true, Bool.not_eq_true', Bool.false_eq_true, if_false] at hv
    exact .inr ⟨rfl, hv.1.1, hv.1.2, hv.2⟩

lemma nextMr_valid (h : (s.nextMr i).valid = true) : s.clearPipeline i = false ∧ s.memoryToRetire i = true := by
  simp only [nextMr, Bool.and_eq_true, Bool.not_eq_true'] at h
  obtain ⟨hv, hc⟩ := h
  refine ⟨hc, ?_⟩
  cases hm : s.memoryToRetire i with
  | true => rfl
  | false => simp [hm] at hv

/-- An operation ends, fails or goes on to its second access in a cycle, never two of them. -/
lemma memoryChainContinue_exclusive (h : s.memoryChainContinue i = true) :
    s.xm.valid = true ∧ s.xm.op.chainStore = true ∧ s.memoryToRetire i = false ∧ s.memoryError i = false := by
  simp only [memoryChainContinue, Bool.and_eq_true, Bool.or_eq_true, Bool.not_eq_true'] at h
  obtain ⟨hv, hcase⟩ := h
  have hs : s.xm.op.chainStore = true := by
    rcases hcase with h | h
    · exact h.2
    · exact h.2.1.2
  refine ⟨hv, hs, ?_, ?_⟩
  · simp [memoryToRetire, memoryFinalResponse, hs]
  · rcases hcase with h | h
    · simp [memoryError, h.1]
    · simp [memoryError, h.2.2]

lemma nextXm_valid (h : (s.nextXm i).valid = true) :
    s.clearPipeline i = false ∧ s.memoryToRetire i = false ∧ s.memoryError i = false ∧
      (s.executeToMemory = true ∨ s.xm.valid = true ∧ s.memoryRedirect = false) := by
  simp only [nextXm, Bool.and_eq_true, Bool.not_eq_true'] at h
  obtain ⟨hv, hc⟩ := h
  refine ⟨hc, ?_⟩
  rw [managedXm] at hv
  cases hch : s.memoryChainContinue i with
  | true =>
    obtain ⟨hx, _, hm, he⟩ := memoryChainContinue_exclusive hch
    refine ⟨hm, he, .inr ⟨hx, ?_⟩⟩
    cases hr : s.memoryRedirect with
    | true => simp [hch, hr, chainedXm, MemoryReg.clear] at hv
    | false => rfl
  | false =>
    cases hm : s.memoryToRetire i with
    | true => simp [hch, hm, MemoryReg.clear] at hv
    | false =>
      cases he : s.memoryError i with
      | true => simp [hch, he, MemoryReg.clear] at hv
      | false =>
        refine ⟨rfl, rfl, ?_⟩
        cases hx : s.executeToMemory with
        | true => exact .inl rfl
        | false =>
          cases hr : s.memoryRedirect with
          | true => simp [hch, hm, he, hx, hr, MemoryReg.clear] at hv
          | false => exact .inr ⟨by simpa [hch, hm, he, hx, hr] using hv, rfl⟩

/-- The memory latch of an instruction that comes from the execute stage. -/
def startedXm (s : Core c) : MemoryReg where
  valid := true
  requestStarted := false
  virtualAddr := s.execute.memoryAddr
  addr := s.execute.memoryAddr
  physValid := !s.pagingEnabled
  op := s.execute.memory
  commitPc := s.de.pc
  faultPc := s.de.pc

lemma nextXm_cases (h : (s.nextXm i).valid = true) :
    s.clearPipeline i = false ∧ s.memoryToRetire i = false ∧ s.memoryError i = false ∧
      (s.memoryChainContinue i = true ∧ s.xm.valid = true ∧ s.managedXm i = s.chainedXm i s.xm ∨
        s.memoryChainContinue i = false ∧ s.executeToMemory = true ∧ s.managedXm i = s.startedXm ∨
        s.memoryChainContinue i = false ∧ s.executeToMemory = false ∧ s.xm.valid = true ∧
          s.managedXm i = { s.xm with requestStarted := s.xm.requestStarted || (s.xm.valid && s.memoryStartRequest) }) := by
  obtain ⟨hc, hm, he, hx⟩ := nextXm_valid h
  refine ⟨hc, hm, he, ?_⟩
  have hv : (s.managedXm i).valid = true := by
    simp only [nextXm, Bool.and_eq_true] at h
    exact h.1
  cases hch : s.memoryChainContinue i with
  | true =>
    have hxv := (memoryChainContinue_exclusive hch).1
    cases hr : s.memoryRedirect with
    | true => simp [managedXm, hch, hr, chainedXm, MemoryReg.clear] at hv
    | false => exact .inl ⟨rfl, hxv, by simp [managedXm, hch, hr]⟩
  | false =>
    cases hem : s.executeToMemory with
    | true => exact .inr (.inl ⟨rfl, rfl, by simp [managedXm, hch, hm, he, hem, startedXm]⟩)
    | false =>
      rcases hx with hx | ⟨hx, hr⟩
      · exact absurd hx (by simp [hem])
      · exact .inr (.inr ⟨rfl, rfl, hx, by simp [managedXm, hch, hm, he, hem, hr]⟩)

/-- An operation stays in the memory latch until it ends or is cleared away. -/
lemma nextXm_stays (hx : s.xm.valid = true) (hc : s.clearPipeline i = false) (hm : s.memoryToRetire i = false)
    (hr : s.memoryRedirect = false) : (s.nextXm i).valid = true := by
  have he : s.memoryError i = false := by
    apply Bool.eq_false_of_not_eq_true
    intro he
    simp [clearPipeline, busLockup, he] at hc
  simp only [nextXm, managedXm, hm, he, hr, hc, Bool.or_self, Bool.false_eq_true, if_false, Bool.not_false,
    Bool.and_true]
  cases s.memoryChainContinue i with
  | true => exact hx
  | false => cases s.executeToMemory <;> simp [hx]

lemma nextXm_started (h : s.executeToMemory = true) (hc : s.clearPipeline i = false) :
    (s.nextXm i).valid = true := by
  have hx : s.xm.valid = false := by
    simp only [executeToMemory, Bool.and_eq_true, Bool.not_eq_true'] at h
    exact h.1.2
  have hch : s.memoryChainContinue i = false := by simp [memoryChainContinue, hx]
  have hm : s.memoryToRetire i = false := by simp [memoryToRetire, hx]
  have he : s.memoryError i = false := by simp [memoryError, hx]
  simp [nextXm, managedXm, hch, hm, he, h, hc]

lemma nextRetire_valid (h : (s.nextRetire i).valid = true) :
    s.clearPipeline i = false ∧ s.vectorEnters i = false ∧
      (s.executeToStorebuf = true ∨ s.executeToStorebufLoad = true ∨ s.executeToRetire = true ∨
        s.mr.valid = true) := by
  simp only [nextRetire, Bool.and_eq_true, Bool.not_eq_true'] at h
  obtain ⟨hv, hc⟩ := h
  refine ⟨hc, ?_⟩
  cases h1 : s.vectorEnters i with
  | true => simp [h1, RetireReg.clear] at hv
  | false =>
    refine ⟨rfl, ?_⟩
    cases h2 : s.executeToStorebuf with
    | true => exact .inl rfl
    | false =>
      cases h3 : s.executeToStorebufLoad with
      | true => exact .inr (.inl rfl)
      | false =>
        cases h4 : s.executeToRetire with
        | true => exact .inr (.inr (.inl rfl))
        | false =>
          cases h5 : s.mr.valid with
          | true => exact .inr (.inr (.inr rfl))
          | false => simp [h1, h2, h3, h4, h5, RetireReg.clear] at hv

end Latches

end Core

end Little64.Hdl

import Little64.Hdl.ExecuteShape
import Little64.Hdl.Occupancy

/-! The architectural state beside the core: what the instructions completed so far leave, in
program order. -/

namespace Little64.Hdl

open Emulator (Reg)

/-- The registers, the flags and the next PC that the completed instructions leave. -/
structure Arch where
  regs : Reg → Word
  flags : Flags
  pc : Word

/-- What one completed instruction does to the architectural state. -/
structure Effect where
  writes : RegWrites
  flags : Option Flags
  nextPc : Word
  deriving DecidableEq, Repr

def Effect.apply (e : Effect) (a : Arch) : Arch := ⟨e.writes.apply a.regs, e.flags.getD a.flags, e.nextPc⟩

namespace Core

variable {c : CoreConfig} (s : Core c) (i : CoreInputs c)

/-- The instruction that completes in this cycle: in the memory stage, in the store buffer, from it,
or in the execute stage, where one that traps or halts does not complete. -/
def effect : Option Effect :=
  if s.memoryToRetire i then
    some
      { writes := (s.memoryResult i).writes
        flags := if s.xm.op.flagsWrite then some s.xm.op.flagsValue else none
        nextPc := (s.memoryResult i).nextPc }
  else if s.executeToStorebuf then some ⟨.none, none, s.execute.memory.nextPc⟩
  else if s.executeToStorebufLoad then
    some
      { writes := ⟨s.execute.memory.regWrite, s.execute.memory.regIndex, s.storebufLoadValue, false, 0, 0⟩
        flags := none
        nextPc := if s.execute.memory.regIndex = 15 then s.storebufLoadValue else s.execute.memory.nextPc }
  else if s.executeToRetire && !(s.execute.trap || s.execute.halt || s.execute.lockup) then
    some
      { writes := ⟨s.execute.regWrite, s.execute.regIndex, s.execute.regValue, false, 0, 0⟩
        flags := if s.execute.flagsWrite then some s.execute.flagsValue else none
        nextPc := s.execute.nextPc }
  else none

/-- The boot registers come first; an exception or an interrupt changes the next PC alone. -/
def architecturalStep (a : Arch) : Arch :=
  if s.resetPending then
    { a with regs := fun r => if r = 1 then i.bootR1 else if r = 13 then i.bootR13 else a.regs r }
  else if s.vectorEnters i then { a with pc := s.vectorHandlerPc i }
  else (s.effect i).elim a fun e => e.apply a

def architecturalReset (c : CoreConfig) : Arch := ⟨fun r => if r = 15 then c.resetVector else 0, 0, c.resetVector⟩

/-- The core with the architectural state beside it. -/
def shadowed : Core c × Arch → CoreInputs c → Core c × Arch :=
  fun p i => (p.1.step i, p.1.architecturalStep i p.2)

/-- The results that wait behind the memory stage and in the retire latch, written back. -/
def settledRegs : Reg → Word :=
  let retired := if s.retire.valid then s.retire.writes.apply s.regs else s.regs
  if s.mr.valid then s.mr.writes.apply retired else retired

def settledFlags : Flags :=
  if s.mr.valid && s.mr.flagsWrite then s.mr.flagsValue
  else if s.retire.valid && s.retire.flagsWrite then s.retire.flagsValue
  else s.flags

section Exclusive

variable {s i}

/-- An operation in the memory stage keeps the execute stage from completing an instruction. -/
lemma executeLeaves_of_memory (h : s.xm.valid = true) : s.executeLeaves = false := by
  apply Bool.eq_false_of_not_eq_true
  intro he
  exact Bool.false_ne_true ((executeLeaves_spec he).2.symm.trans h)

lemma executeLeaves_eq_false (h : s.executeLeaves = false) :
    s.executeToMemory = false ∧ s.executeToStorebuf = false ∧ s.executeToStorebufLoad = false ∧
      s.executeToRetire = false := by
  simp only [executeLeaves, Bool.or_eq_false_iff] at h
  exact ⟨h.1.1.1, h.1.1.2, h.1.2, h.2⟩

lemma entryStart_quiet (hs : s.Occupancy) (h : s.entryStart i = true) :
    s.executeLeaves = false ∧ s.memoryToRetire i = false ∧ s.memoryChainContinue i = false ∧
      s.mr.valid = false ∧ s.vector.active = false := by
  rw [entryStart, Bool.or_eq_true] at h
  rcases h with h | h
  · simp only [trapStart, Bool.and_eq_true, Bool.not_eq_true'] at h
    obtain ⟨⟨hp, _⟩, hv⟩ := h
    obtain ⟨hmr, hphys, hde⟩ := hs.faulting hp
    refine ⟨?_, ?_, ?_, hmr, hv⟩
    · apply Bool.eq_false_of_not_eq_true
      intro he
      exact Bool.false_ne_true ((executeLeaves_spec he).2.symm.trans (hde (executeLeaves_spec he).1))
    · apply Bool.eq_false_of_not_eq_true
      intro hm
      obtain ⟨hx, hpv, _⟩ := memoryToRetire_spec hm
      exact Bool.false_ne_true ((hphys hx).symm.trans hpv)
    · apply Bool.eq_false_of_not_eq_true
      intro hm
      exact Bool.false_ne_true ((hphys (memoryChainContinue_exclusive hm).1).symm.trans (memoryChainContinue_phys hm))
  · simp only [irqStart, Bool.and_eq_true, Bool.not_eq_true'] at h
    obtain ⟨⟨⟨⟨⟨⟨⟨⟨⟨⟨⟨⟨_, _⟩, hv⟩, _⟩, _⟩, _⟩, hd⟩, hx⟩, hm⟩, _⟩, _⟩, _⟩, _⟩ := h
    refine ⟨?_, by simp [memoryToRetire, hx], by simp [memoryChainContinue, hx], hm, hv⟩
    apply Bool.eq_false_of_not_eq_true
    intro he
    exact Bool.false_ne_true (hd.symm.trans (executeLeaves_spec he).1)

lemma clearPipeline_cases (hr : s.resetPending = false) (h : s.clearPipeline i = true) :
    (s.step i).stopped = true ∨ s.entryStart i = true := by
  rw [step_eq i hr]
  simp only [clearPipeline, Bool.or_eq_true] at h
  simp only [stopped, locksUp, Bool.or_eq_true]
  tauto

lemma vectorEnters_spec (h : s.vectorEnters i = true) : s.vector.active = true := by
  simp only [vectorEnters, vectorResponseValid, Bool.and_eq_true] at h
  exact h.1.1.1.1

lemma effect_of_memory (h : s.memoryToRetire i = true) :
    s.effect i = some
      { writes := (s.memoryResult i).writes
        flags := if s.xm.op.flagsWrite then some s.xm.op.flagsValue else none
        nextPc := (s.memoryResult i).nextPc } := by
  rw [effect, h]
  rfl

lemma effect_of_retire (h : s.executeToRetire = true)
    (ht : (s.execute.trap || s.execute.halt || s.execute.lockup) = false) :
    s.effect i = some
      { writes := ⟨s.execute.regWrite, s.execute.regIndex, s.execute.regValue, false, 0, 0⟩
        flags := if s.execute.flagsWrite then some s.execute.flagsValue else none
        nextPc := s.execute.nextPc } := by
  have hspec := executeToRetire_spec h
  have hm : s.memoryToRetire i = false := by simp [memoryToRetire, hspec.2.2.1]
  have hb : s.executeToStorebuf = false := by simp [executeToStorebuf, hspec.2.1]
  have hbl : s.executeToStorebufLoad = false := by simp [executeToStorebufLoad, hspec.2.1]
  rw [effect, hm, hb, hbl, h, ht]
  rfl

/-- An instruction without a memory operation retires as the next one takes its place. -/
lemma executeToRetire_of_decode (hadv : s.decodeAdvance = true) (hd : s.de.valid = true)
    (hm : s.execute.memoryStart = false) : s.executeToRetire = true := by
  have hl : s.executeLeaves = true := by
    rcases (decodeAdvance_spec hadv).2.1 with h | h
    · exact absurd h (by simp [hd])
    · exact h
  have hem : s.executeToMemory = false := by simp [executeToMemory, hm]
  have hb : s.executeToStorebuf = false := by simp [executeToStorebuf, hm]
  have hbl : s.executeToStorebufLoad = false := by simp [executeToStorebufLoad, hm]
  simpa [executeLeaves, hem, hb, hbl] using hl

lemma nextXm_of_retire (h : s.executeToRetire = true) : (s.nextXm i).valid = false := by
  obtain ⟨_, hm, hx, _⟩ := executeToRetire_spec h
  apply Bool.eq_false_of_not_eq_true
  intro hv
  rcases (nextXm_valid hv).2.2.2 with hem | ⟨hxv, _⟩
  · exact Bool.false_ne_true (hm.symm.trans (executeToMemory_spec hem).2.1)
  · exact Bool.false_ne_true (hx.symm.trans hxv)

lemma effect_of_started (hx : s.executeToMemory = true) : s.effect i = none := by
  have hspec := executeToMemory_spec hx
  have hm : s.memoryToRetire i = false := by simp [memoryToRetire, hspec.2.2.2.2.2.1]
  have hret : s.executeToRetire = false := by
    apply Bool.eq_false_of_not_eq_true
    intro h
    exact Bool.false_ne_true ((executeToRetire_spec h).2.1.symm.trans hspec.2.1)
  simp [effect, hm, hspec.2.2.1, hspec.2.2.2.1, hret]

lemma effect_none (hm : s.memoryToRetire i = false) (hl : s.executeLeaves = false) : s.effect i = none := by
  obtain ⟨_, hb, hbl, hret⟩ := executeLeaves_eq_false hl
  simp [effect, hm, hb, hbl, hret]

end Exclusive

section Settling

variable {s i}

lemma nextRegs_written {r : Reg} (h0 : r ≠ 0) (h15 : r ≠ 15) :
    s.nextRegs i r = if s.retire.valid then s.retire.writes.apply s.regs r else s.regs r := by
  simp only [nextRegs, h0, h15, if_false]
  cases s.retire.valid <;> rfl

/-- What the result registers hold after a cycle, when the core goes on. -/
inductive Settles (s : Core c) (i : CoreInputs c) : Prop
  | memory : s.memoryToRetire i = true → s.mr.valid = false → (s.nextMr i).valid = true →
      (s.nextRetire i).valid = false → Settles s i
  | result : s.memoryToRetire i = false → (s.nextMr i).valid = false → s.mr.valid = true → s.effect i = none →
      (s.nextRetire i).valid = true → (s.nextRetire i).writes = s.mr.writes →
      (s.nextRetire i).flagsWrite = s.mr.flagsWrite → (s.nextRetire i).flagsValue = s.mr.flagsValue → Settles s i
  | direct (e : Effect) : (s.nextMr i).valid = false → s.mr.valid = false → s.effect i = some e →
      (s.nextRetire i).valid = true → (s.nextRetire i).writes = e.writes →
      e.flags = (if (s.nextRetire i).flagsWrite then some (s.nextRetire i).flagsValue else none) → Settles s i
  | terminal : (s.nextMr i).valid = false → s.mr.valid = false → s.effect i = none →
      (s.nextRetire i).valid = true → (s.nextRetire i).writes.regWrite = false →
      (s.nextRetire i).writes.auxRegWrite = false → (s.nextRetire i).flagsWrite = false → Settles s i
  | idle : (s.nextMr i).valid = false → s.mr.valid = false → s.effect i = none → (s.nextRetire i).valid = false →
      Settles s i

lemma nextMr_of_quiet (h : s.memoryToRetire i = false) : (s.nextMr i).valid = false := by
  simp [nextMr, h]

lemma settles (hs : s.Occupancy) (hr : s.resetPending = false) (hlive : (s.step i).stopped = false) :
    s.Settles i := by
  cases hc : s.clearPipeline i with
  | true =>
    rcases clearPipeline_cases hr hc with h | h
    · exact absurd h (by simp [hlive])
    · obtain ⟨hl, hm, _, hmr, _⟩ := entryStart_quiet hs h
      exact .idle (nextMr_of_quiet hm) hmr (effect_none hm hl) (next_of_clear hc).2
  | false =>
    cases hm : s.memoryToRetire i with
    | true =>
      have hx := (memoryToRetire_spec hm).1
      have hmr : s.mr.valid = false := by
        apply Bool.eq_false_of_not_eq_true
        intro h
        exact Bool.false_ne_true ((hs.resultAlone h).symm.trans hx)
      obtain ⟨_, hb, hbl, hret⟩ := executeLeaves_eq_false (executeLeaves_of_memory hx)
      refine .memory hm hmr (by simp [nextMr, hm, hc]) ?_
      cases hv : s.vectorEnters i <;> simp [nextRetire, hv, hb, hbl, hret, hmr, RetireReg.clear]
    | false =>
      have hmr' := nextMr_of_quiet hm
      cases hv : s.vectorEnters i with
      | true =>
        obtain ⟨hd, _⟩ := hs.entering (vectorEnters_spec hv)
        refine .idle hmr' hd.mr (effect_none hm ?_) (by simp [nextRetire, hv, RetireReg.clear])
        apply Bool.eq_false_of_not_eq_true
        intro h
        exact Bool.false_ne_true (hd.de.symm.trans (executeLeaves_spec h).1)
      | false =>
        cases hb : s.executeToStorebuf with
        | true =>
          have hspec := executeToStorebuf_spec hb
          refine .direct ⟨.none, none, s.execute.memory.nextPc⟩ hmr' hspec.2.2.2.2.2.2.2.2.2.2 ?_ ?_ ?_ ?_
          · simp [effect, hm, hb]
          · simp [nextRetire, hv, hb, hc, storebufRetire, hspec.1]
          · simp [nextRetire, hv, hb, storebufRetire]
          · simp [nextRetire, hv, hb, storebufRetire, hspec.2.2.2.1]
        | false =>
          cases hbl : s.executeToStorebufLoad with
          | true =>
            have hspec := executeToStorebufLoad_spec hbl
            have hf : s.execute.memory.flagsWrite = false := by
              apply Bool.eq_false_of_not_eq_true
              intro hf
              have hw := ((execute_shape s).memory hspec.2.1).conditional hf
              exact Bool.false_ne_true (hspec.2.2.1.symm.trans hw.1)
            refine .direct _ hmr' hspec.2.2.2.2.2.2.2.2 (by simp [effect, hm, hb, hbl]; rfl) ?_ ?_ ?_
            · simp [nextRetire, hv, hb, hbl, hc, storebufRetire, hspec.1]
            · simp [nextRetire, hv, hb, hbl, storebufRetire]
            · simp [nextRetire, hv, hb, hbl, storebufRetire, hf]
          | false =>
            cases hret : s.executeToRetire with
            | true =>
              have hspec := executeToRetire_spec hret
              cases ht : s.execute.trap || s.execute.halt || s.execute.lockup with
              | true =>
                obtain ⟨hw, hf⟩ := (execute_shape s).terminal ht
                have he : s.effect i = none := by simp only [effect, hm, hb, hbl, hret, ht]; rfl
                refine .terminal hmr' hspec.2.2.2 he ?_ ?_ ?_ ?_ <;>
                  simp [nextRetire, hv, hb, hbl, hret, hc, hspec.1, hw, hf]
              | false =>
                refine .direct _ hmr' hspec.2.2.2 (effect_of_retire hret ht) ?_ ?_ ?_ <;>
                  simp [nextRetire, hv, hb, hbl, hret, hc, hspec.1]
            | false =>
              have he : s.effect i = none := by simp [effect, hm, hb, hbl, hret]
              cases hmr : s.mr.valid with
              | true =>
                refine .result hm hmr' hmr he ?_ ?_ ?_ ?_ <;> simp [nextRetire, hv, hb, hbl, hret, hmr, hc]
              | false => exact .idle hmr' hmr he (by simp [nextRetire, hv, hb, hbl, hret, hmr, RetireReg.clear])

/-- The result registers carry the flags of the completed instructions. -/
theorem settledFlags_step (hs : s.Occupancy) (hr : s.resetPending = false) (hlive : (s.step i).stopped = false) :
    (s.step i).settledFlags = (s.effect i).elim s.settledFlags fun e => e.flags.getD s.settledFlags := by
  have hnext : (s.step i).settledFlags =
      if (s.nextMr i).valid && (s.nextMr i).flagsWrite then (s.nextMr i).flagsValue
      else if (s.nextRetire i).valid && (s.nextRetire i).flagsWrite then (s.nextRetire i).flagsValue
      else if s.retire.valid && s.retire.flagsWrite then s.retire.flagsValue
      else s.flags := by
    rw [step_eq i hr]
    rfl
  rw [hnext]
  cases settles hs hr hlive with
  | memory hm hmr hmr' hret =>
    have hf : (s.nextMr i).flagsWrite = s.xm.op.flagsWrite ∧ (s.nextMr i).flagsValue = s.xm.op.flagsValue := by
      simp [nextMr, hm]
    rw [effect_of_memory hm, hmr', hret, hf.1, hf.2]
    cases s.xm.op.flagsWrite <;> simp [settledFlags, hmr]
  | result hm hmr' hmr he hv hw hf hf' =>
    rw [he, hmr', hv, hf, hf']
    simp [settledFlags, hmr]
  | direct e hmr' hmr he hv hw hf =>
    rw [he, hmr', hv]
    simp only [Option.elim_some, hf]
    cases (s.nextRetire i).flagsWrite <;> simp [settledFlags, hmr]
  | terminal hmr' hmr he hv _ _ hf =>
    rw [he, hmr', hv, hf]
    simp [settledFlags, hmr]
  | idle hmr' hmr he hv =>
    rw [he, hmr', hv]
    simp [settledFlags, hmr]

/-- The result registers carry the register results of the completed instructions, except for `R15`. -/
theorem settledRegs_step (hs : s.Occupancy) (hr : s.resetPending = false) (hlive : (s.step i).stopped = false)
    {r : Reg} (h0 : r ≠ 0) (h15 : r ≠ 15) :
    (s.step i).settledRegs r = (s.effect i).elim (s.settledRegs r) fun e => e.writes.apply s.settledRegs r := by
  have hnext : (s.step i).settledRegs =
      let retired := if (s.nextRetire i).valid then (s.nextRetire i).writes.apply (s.nextRegs i) else s.nextRegs i
      if (s.nextMr i).valid then (s.nextMr i).writes.apply retired else retired := by
    rw [step_eq i hr]
    rfl
  have hregs : s.nextRegs i r = (if s.retire.valid then s.retire.writes.apply s.regs else s.regs) r := by
    rw [nextRegs_written h0 h15]
    cases s.retire.valid <;> rfl
  rw [hnext]
  cases settles hs hr hlive with
  | memory hm hmr hmr' hret =>
    have hw : (s.nextMr i).writes = (s.memoryResult i).writes := by simp [nextMr, hm]
    simp only [effect_of_memory hm, hmr', hret, hw, settledRegs, hmr, if_true, Bool.false_eq_true, if_false,
      Option.elim_some]
    exact RegWrites.apply_congr _ hregs
  | result hm hmr' hmr he hv hw hf hf' =>
    simp only [he, hmr', hv, hw, settledRegs, hmr, if_true, Bool.false_eq_true, if_false, Option.elim_none]
    exact RegWrites.apply_congr _ hregs
  | direct e hmr' hmr he hv hw hf =>
    simp only [he, hmr', hv, hw, settledRegs, hmr, if_true, Bool.false_eq_true, if_false, Option.elim_some]
    exact RegWrites.apply_congr _ hregs
  | terminal hmr' hmr he hv hw haux hf =>
    simp only [he, hmr', hv, settledRegs, hmr, if_true, Bool.false_eq_true, if_false, Option.elim_none]
    rw [← hregs]
    simp [RegWrites.apply, hw, haux]
  | idle hmr' hmr he hv =>
    simp only [he, hmr', hv, settledRegs, hmr, Bool.false_eq_true, if_false, Option.elim_none]
    exact hregs

/-- Only the effect of a completed instruction changes the registers and the flags. -/
lemma architecturalStep_eq (hs : s.Occupancy) (hr : s.resetPending = false) (a : Arch) :
    (s.architecturalStep i a).flags = ((s.effect i).elim a.flags fun e => e.flags.getD a.flags) ∧
      (s.architecturalStep i a).regs = (s.effect i).elim a.regs fun e => e.writes.apply a.regs := by
  rw [architecturalStep, hr]
  cases hv : s.vectorEnters i with
  | true =>
    obtain ⟨hd, _⟩ := hs.entering (vectorEnters_spec hv)
    have hl : s.executeLeaves = false := by
      apply Bool.eq_false_of_not_eq_true
      intro h
      exact Bool.false_ne_true (hd.de.symm.trans (executeLeaves_spec h).1)
    have hm : s.memoryToRetire i = false := by simp [memoryToRetire, hd.xm]
    rw [effect_none hm hl]
    exact ⟨rfl, rfl⟩
  | false =>
    simp only [Bool.false_eq_true, if_false]
    cases s.effect i with
    | none => exact ⟨rfl, rfl⟩
    | some e => exact ⟨rfl, rfl⟩

lemma stopped_step (hlive : (s.step i).stopped = false) : s.stopped = false := by
  apply Bool.eq_false_of_not_eq_true
  intro h
  refine Bool.false_ne_true (hlive.symm.trans ?_)
  simp only [stopped, Bool.or_eq_true] at h ⊢
  cases hr : s.resetPending with
  | true =>
    rw [step_reset_eq i hr]
    exact h
  | false =>
    rw [step_eq i hr]
    rcases h with h | h
    · exact .inl (by simp [h])
    · exact .inr (by simp [h])

end Settling

end Core

end Little64.Hdl

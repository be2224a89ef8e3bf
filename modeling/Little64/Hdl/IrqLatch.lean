import Little64.Hdl.CoreStep
import Little64.Library.BitFields
import Little64.Library.Runs

/-! The latch for the interrupt lines against software writes of the special registers. -/

namespace Little64.Hdl.Core

open Runs

variable {c : CoreConfig}

/-- Software writes INTERRUPT_STATES_HIGH in this cycle. -/
def writesStates (s : Core c) (i : CoreInputs c) : Bool :=
  s.specialRegs.softwareWrite (s.specialRegisterInputs i) == some .interruptStatesHigh

/-- A line that was high is pending at the end of the run, if software has not written the pending register
in its cycle or later. -/
def PulsesKept (c : CoreConfig) (is : List (CoreInputs c)) : Prop :=
  ∀ before i since, is = before ++ i :: since →
    Along step (fun s i => s.writesStates i = false) (run step (reset c) before) (i :: since) →
      ∀ k, i.irqLines.getLsbD k = true →
        (run step (reset c) is).specialRegs.interruptStatesHigh.getLsbD (k + 1) = true

/-- An `SSR` leaves the execute stage and keeps the lines out of the pending register. -/
def blocksLatch (s : Core c) (i : CoreInputs c) : Prop :=
  s.executeSpecialWriteCommit = true ∧
    (s.specialRegs.writeAccessFault (s.specialRegisterInputs i) = true →
      SpecialRegisters.selected (s.executeInputs false).specialWriteSelector = some .interruptStatesHigh)

/-- Only lines that are pending already are high while the latch is blocked. -/
def LatchOpen (s : Core c) (i : CoreInputs c) : Prop :=
  s.writesStates i = false → s.blocksLatch i → irqLinePendingMask i &&& ~~~s.specialRegs.interruptStatesHigh = 0

instance (s : Core c) (i : CoreInputs c) : Decidable (s.LatchOpen i) :=
  inferInstanceAs (Decidable (_ → _ ∧ (_ → _) → _))

variable {s : Core c} {i : CoreInputs c}

lemma specialRegs_step (s : Core c) (i : CoreInputs c) :
    (s.step i).specialRegs = s.specialRegs.step c.specialRegs (s.specialRegisterInputs i) := by
  cases hr : s.resetPending <;> simp [step, hr, stepSubmodules]

lemma states_step (h : s.writesStates i = false) :
    (s.blocksLatch i → (s.step i).specialRegs.interruptStatesHigh = s.specialRegs.interruptStatesHigh) ∧
      (¬ s.blocksLatch i →
        (s.step i).specialRegs.interruptStatesHigh = s.specialRegs.interruptStatesHigh ||| irqLinePendingMask i) := by
  have hwrite : s.specialRegs.softwareWrite (s.specialRegisterInputs i) ≠ some .interruptStatesHigh := by
    intro hw
    rw [writesStates, hw] at h
    exact Bool.false_ne_true h.symm
  have hset : (s.specialRegisterInputs i).interruptStatesHighSet =
      if s.executeSpecialWriteCommit ∧
        SpecialRegisters.selected (s.executeInputs false).specialWriteSelector = some .interruptStatesHigh then 0
      else irqLinePendingMask i := rfl
  have hstb : (s.specialRegisterInputs i).writeStb = s.executeSpecialWriteCommit := rfl
  rw [specialRegs_step, SpecialRegisters.step, blocksLatch]
  change (_ → ite _ _ _ = _) ∧ (_ → ite _ _ _ = _)
  rw [if_neg hwrite, hset, hstb]
  cases hcommit : s.executeSpecialWriteCommit with
  | false => simp
  | true =>
    cases hfault : s.specialRegs.writeAccessFault (s.specialRegisterInputs i) with
    | false => simp
    | true =>
      simp only [Bool.not_true, Bool.and_false, Bool.false_eq_true, if_false, true_and, forall_const]
      constructor
      · intro hsel
        rw [if_pos hsel]
        exact BitVec.or_zero
      · intro hsel
        rw [if_neg hsel]

lemma pending_step {k : ℕ} (h : s.writesStates i = false)
    (hk : s.specialRegs.interruptStatesHigh.getLsbD k = true) :
    (s.step i).specialRegs.interruptStatesHigh.getLsbD k = true := by
  by_cases hblocks : s.blocksLatch i
  · rw [(states_step h).1 hblocks, hk]
  · rw [(states_step h).2 hblocks, BitVec.getLsbD_or, hk, Bool.true_or]

lemma pending_run {is : List (CoreInputs c)} {k : ℕ} (h : Along step (fun s i => s.writesStates i = false) s is)
    (hk : s.specialRegs.interruptStatesHigh.getLsbD k = true) :
    (run step s is).specialRegs.interruptStatesHigh.getLsbD k = true := by
  apply h.invariant (fun s => s.specialRegs.interruptStatesHigh.getLsbD k = true) _ hk
  intro s i hs hwrites
  exact pending_step hwrites hs

lemma getLsbD_irqLinePendingMask {k : ℕ} (hk : k < 63) :
    (irqLinePendingMask i).getLsbD (k + 1) = i.irqLines.getLsbD k := by
  rw [irqLinePendingMask, BitVec.getLsbD_shiftLeft, BitVec.getLsbD_setWidth]
  simp [show k + 1 < 64 by omega, show k < 64 by omega]

lemma latches_iff (hcount : c.irqInputCount ≤ 63) (h : s.writesStates i = false) :
    (∀ k, i.irqLines.getLsbD k = true → (s.step i).specialRegs.interruptStatesHigh.getLsbD (k + 1) = true) ↔
      s.LatchOpen i := by
  have hline : ∀ k, i.irqLines.getLsbD k = true → k < 63 := fun k hk => (BitVec.lt_of_getLsbD hk).trans_le hcount
  by_cases hblocks : s.blocksLatch i
  · have hopen : s.LatchOpen i ↔ irqLinePendingMask i &&& ~~~s.specialRegs.interruptStatesHigh = 0#64 :=
      ⟨fun ho => ho h hblocks, fun ho _ _ => ho⟩
    rw [(states_step h).1 hblocks, hopen, BitFields.and_not_eq_zero_iff]
    constructor
    · intro hlatched k hk
      cases k with
      | zero => simp [irqLinePendingMask] at hk
      | succ k =>
        have hlt := BitVec.lt_of_getLsbD hk
        rw [getLsbD_irqLinePendingMask (by omega)] at hk
        exact hlatched k hk
    · intro hpending k hk
      apply hpending
      rw [getLsbD_irqLinePendingMask (hline k hk), hk]
  · rw [(states_step h).2 hblocks]
    refine iff_of_true (fun k hk => ?_) fun _ hb => absurd hb hblocks
    rw [BitVec.getLsbD_or, getLsbD_irqLinePendingMask (hline k hk), hk, Bool.or_true]

/-- Pulses on the interrupt lines are kept all along a run exactly when the latch is open in every cycle. -/
theorem pulses_kept_iff (c : CoreConfig) (hcount : c.irqInputCount ≤ 63) (is : List (CoreInputs c)) :
    (∀ is', is' <+: is → PulsesKept c is') ↔ Along step LatchOpen (reset c) is := by
  constructor
  · intro h
    induction is using List.reverseRecOn with
    | nil => exact .nil _
    | append_singleton is i ih =>
      apply (ih fun is' hbefore => h is' (hbefore.trans (List.prefix_append is [i]))).concat
      intro hwrites
      apply (latches_iff hcount hwrites).1 _ hwrites
      intro k hk
      have hpulse := h _ List.prefix_rfl is i [] rfl (.cons hwrites (.nil _)) k hk
      rw [run_append] at hpulse
      exact hpulse
  · rintro h is' ⟨rest, rfl⟩ before i since rfl hwrites k hk
    have hopen := along_cons_iff.1 h.of_append.append_right
    obtain ⟨hfirst, hrest⟩ := along_cons_iff.1 hwrites
    rw [run_append]
    exact pending_run (s := (run step (reset c) before).step i) hrest ((latches_iff hcount hfirst).2 hopen.1 k hk)

/-- A run of six cycles, a pulse on the one line, and the cycle behind it. -/
def pulse (line bootR1 : Word) : List (CoreInputs .uncached) :=
  List.replicate 6 (.endless .uncached line bootR1) ++
    [{ CoreInputs.endless .uncached line bootR1 with irqLines := 1 }, .endless .uncached line bootR1]

theorem pulses_kept_iff_sample : PulsesKept .uncached (pulse 0xDF00DF00DF00C010 0) :=
  (pulses_kept_iff .uncached (by decide) (pulse 0xDF00DF00DF00C010 0)).2 (by decide +kernel) _ List.prefix_rfl

/-- `SSR` to the thread pointer in the cycle of the pulse: the interrupt is lost. -/
theorem thread_pointer_write_loses_pulse : ¬ PulsesKept .uncached (pulse 0xDF00DF00DF00DD10 0x8000) := by
  intro h
  have hpending := h (List.replicate 6 (.endless .uncached 0xDF00DF00DF00DD10 0x8000)) _ _ rfl (by decide +kernel) 0
    (by decide)
  revert hpending
  decide +kernel

end Little64.Hdl.Core

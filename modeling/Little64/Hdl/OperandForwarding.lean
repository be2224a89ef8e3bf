import Little64.Hdl.Architecture

/-! The operands that an instruction executes with, against the registers that the instructions
before it leave. -/

namespace Little64.Hdl

open Emulator (Reg)
open Runs

namespace Core

variable {c : CoreConfig} {s : Core c} {i : CoreInputs c} {a : Arch}

/-- The registers whose values decode latches. -/
def Operand (instruction : BitVec 16) (r : Reg) : Prop :=
  r = instructionRd instruction ∨ r = instructionRs1 instruction

/-- The registers that are due, and the operands that the execute slot holds. -/
structure RegsAgree (s : Core c) (a : Arch) : Prop where
  shape : s.xm.valid = true → s.xm.op.Shape
  zero : a.regs 0 = 0
  settled : ∀ r, r ≠ 0 → r ≠ 15 → s.settledRegs r = a.regs r
  resultPorts : s.mr.valid = true → s.mr.writes.Distinct
  retirePorts : s.retire.valid = true → s.retire.writes.Distinct
  operandA : s.de.valid = true → instructionRd s.de.instruction ≠ 15 →
    s.de.operandA = a.regs (instructionRd s.de.instruction)
  operandB : s.de.valid = true → instructionRs1 s.de.instruction ≠ 15 →
    s.de.operandB = a.regs (instructionRs1 s.de.instruction)
  stalled : s.de.valid = true → s.xm.valid = true → ∀ r, r ≠ 0 → Operand s.de.instruction r → ¬ s.xm.op.Writes r

/-- Decode sees the result of the execute stage, or else the registers as they settle. -/
lemma operand_eq (ha : s.RegsAgree a) {r : Reg} (h0 : r ≠ 0) :
    s.decodeInputs.operand r =
      if s.de.valid = true ∧ s.execute.memoryStart = false ∧ s.execute.regWrite = true ∧ s.execute.regIndex = r then
        s.execute.regValue
      else s.settledRegs r := by
  have hsettled : s.settledRegs r =
      (if s.mr.valid then s.mr.writes.lookup r else none).getD
        ((if s.retire.valid then s.retire.writes.lookup r else none).getD (s.regs r)) := by
    have hretired : (if s.retire.valid then s.retire.writes.apply s.regs else s.regs) r =
        (if s.retire.valid then s.retire.writes.lookup r else none).getD (s.regs r) := by
      cases hr : s.retire.valid with
      | true => exact RegWrites.apply_eq_lookup (ha.retirePorts hr) _ h0
      | false => rfl
    rw [← hretired, settledRegs]
    cases hm : s.mr.valid with
    | true => exact RegWrites.apply_eq_lookup (ha.resultPorts hm) _ h0
    | false => rfl
  have hcond : (s.de.valid && !s.execute.memoryStart) = true ∧ s.execute.regWrite = true ∧ s.execute.regIndex = r ↔
      s.de.valid = true ∧ s.execute.memoryStart = false ∧ s.execute.regWrite = true ∧ s.execute.regIndex = r := by
    rw [Bool.and_eq_true, Bool.not_eq_true', and_assoc]
  rw [hsettled, DecodeInputs.operand_eq_getD _ h0]
  exact if_congr hcond rfl rfl

lemma regs_kept {r : Reg}
    (hm : s.memoryToRetire i = true → ¬ s.xm.op.Writes r)
    (hl : s.executeToStorebufLoad = true → s.execute.memory.regIndex ≠ r)
    (hr : s.executeToRetire = true → s.execute.regWrite = true → s.execute.regIndex ≠ r) :
    ((s.effect i).elim a.regs fun e => e.writes.apply a.regs) r = a.regs r := by
  rw [effect]
  cases hmr : s.memoryToRetire i with
  | true => exact MemoryOp.apply_of_not_writes _ _ (hm hmr) _
  | false =>
    cases s.executeToStorebuf with
    | true => exact congrFun (RegWrites.apply_none a.regs) r
    | false =>
      cases hbl : s.executeToStorebufLoad with
      | true => simp [RegWrites.apply, hl hbl]
      | false =>
        cases hret : s.executeToRetire && !(s.execute.trap || s.execute.halt || s.execute.lockup) with
        | false => rfl
        | true =>
          rw [Bool.and_eq_true] at hret
          cases hw : s.execute.regWrite with
          | true => simp [RegWrites.apply, hr hret.1 hw]
          | false => simp [RegWrites.apply]

section Hazards

variable {r : Reg} (h0 : r ≠ 0) (hop : Operand s.fd.instruction r)

include h0 hop

lemma index_ne_of_noHazard {pending : PendingWrite} (h : s.decodeInputs.hazard pending = false)
    (hv : pending.valid = true) : pending.index ≠ r := by
  rintro rfl
  simp only [DecodeInputs.hazard, hv, Bool.true_and, Bool.and_eq_false_iff, bne_eq_false_iff_eq, Bool.or_eq_false_iff,
    beq_eq_false_iff_ne] at h
  rcases h with h | ⟨h1, h2⟩
  · exact h0 h
  · rcases hop with hop | hop
    · exact h1 hop
    · exact h2 hop

lemma memory_not_writes (h : s.decodeInputs.loadUseHazard = false) (hx : s.xm.valid = true)
    (hshape : s.xm.op.Shape) : ¬ s.xm.op.Writes r := by
  simp only [DecodeInputs.loadUseHazard, Bool.or_eq_false_iff] at h
  rintro (⟨hw, hi⟩ | ⟨hw, hi⟩)
  · have hstore : s.xm.op.write = false := by
      apply Bool.eq_false_of_not_eq_true
      intro hwr
      exact Bool.false_ne_true ((hshape.store hwr).1.symm.trans hw)
    exact index_ne_of_noHazard h0 hop h.1.1.2 (by simp [decodeInputs, pendingMemoryLoad, hx, hstore, hw]) hi
  · exact index_ne_of_noHazard h0 hop h.2 (by simp [decodeInputs, hx, hw]) hi

/-- Decode waits for a register that an operation leaving for the memory stage owes. -/
lemma started_not_writes (h : s.decodeInputs.loadUseHazard = false) (hd : s.de.valid = true)
    (hm : s.execute.memoryStart = true) : ¬ s.execute.memory.Writes r := by
  simp only [DecodeInputs.loadUseHazard, Bool.or_eq_false_iff] at h
  rintro (⟨hw, hi⟩ | ⟨hw, hi⟩)
  · have hstore : s.execute.memory.write = false := by
      apply Bool.eq_false_of_not_eq_true
      intro hwr
      exact Bool.false_ne_true ((((execute_shape s).memory hm).store hwr).1.symm.trans hw)
    exact index_ne_of_noHazard h0 hop h.1.1.1 (by simp [decodeInputs, pendingExecuteLoad, hd, hm, hstore, hw]) hi
  · exact index_ne_of_noHazard h0 hop h.1.2 (by simp [decodeInputs, hd, hm, hw]) hi

end Hazards

/-- An operand is latched with the value that the instructions completed up to this cycle leave. -/
lemma operand_next (ha : s.RegsAgree a) (hadv : s.decodeAdvance = true) {r : Reg}
    (hop : Operand s.fd.instruction r) (h15 : r ≠ 15) :
    s.decodeInputs.operand r = ((s.effect i).elim a.regs fun e => e.writes.apply a.regs) r := by
  by_cases h0 : r = 0
  · rw [h0, DecodeInputs.operand, if_pos rfl]
    cases s.effect i with
    | none => exact ha.zero.symm
    | some e => exact ((RegWrites.apply_zero e.writes a.regs).trans ha.zero).symm
  · have hhazard := (decodeAdvance_spec hadv).2.2.1
    rw [operand_eq ha h0]
    split
    · next hby =>
      obtain ⟨hd, hm, hw, hi⟩ := hby
      have hret := executeToRetire_of_decode hadv hd hm
      have ht : (s.execute.trap || s.execute.halt || s.execute.lockup) = false := by
        apply Bool.eq_false_of_not_eq_true
        intro ht
        exact Bool.false_ne_true (((execute_shape s).terminal ht).1.symm.trans hw)
      have happly : (⟨true, r, s.execute.regValue, false, 0, 0⟩ : RegWrites).apply a.regs r = s.execute.regValue := by
        rw [RegWrites.apply, if_neg fun h => Bool.false_ne_true h.1, if_pos ⟨rfl, h0, rfl⟩]
      rw [effect_of_retire hret ht, hw, hi]
      exact happly.symm
    · next hby =>
      rw [ha.settled r h0 h15]
      refine (regs_kept (fun hm => ?_) (fun hl => ?_) (fun hret hw hi => ?_)).symm
      · have hx := (memoryToRetire_spec hm).1
        exact memory_not_writes h0 hop hhazard hx (ha.shape hx)
      · have hspec := executeToStorebufLoad_spec hl
        intro hi
        exact started_not_writes h0 hop hhazard hspec.1 hspec.2.1 (.inl ⟨hspec.2.2.2.1, hi⟩)
      · have hspec := executeToRetire_spec hret
        exact hby ⟨hspec.1, hspec.2.1, hw, hi⟩

/-- The operation that the memory stage holds after a cycle writes no register of a decoded instruction. -/
lemma nextXm_not_writes (ha : s.RegsAgree a) (hhazard : s.decodeInputs.loadUseHazard = false)
    (hv : (s.nextXm i).valid = true) {r : Reg} (h0 : r ≠ 0) (hop : Operand s.fd.instruction r) :
    ¬ (s.nextXm i).op.Writes r := by
  change ¬ (s.managedXm i).op.Writes r
  obtain ⟨_, _, _, ⟨_, hx, hm⟩ | ⟨_, hem, hm⟩ | ⟨_, _, hx, hm⟩⟩ := nextXm_cases hv
  · rw [hm]
    rintro (⟨hw, _⟩ | hw)
    · exact Bool.false_ne_true hw
    · exact memory_not_writes h0 hop hhazard hx (ha.shape hx) (.inr hw)
  · rw [hm]
    have hspec := executeToMemory_spec hem
    exact started_not_writes h0 hop hhazard hspec.1 hspec.2.1
  · rw [hm]
    exact memory_not_writes h0 hop hhazard hx (ha.shape hx)

/-- A waiting instruction keeps its operands, which no completing instruction writes. -/
lemma waiting_kept (ha : s.RegsAgree a) (hd : s.de.valid = true) (hl : s.executeLeaves = false) {r : Reg}
    (hop : Operand s.de.instruction r) :
    ((s.effect i).elim a.regs fun e => e.writes.apply a.regs) r = a.regs r := by
  by_cases h0 : r = 0
  · rw [h0]
    cases s.effect i with
    | none => rfl
    | some e => exact RegWrites.apply_zero e.writes a.regs
  · obtain ⟨_, _, hbl, hret⟩ := executeLeaves_eq_false hl
    refine regs_kept (fun hm => ?_) (fun h => absurd h (by simp [hbl])) (fun h => absurd h (by simp [hret]))
    exact ha.stalled hd (memoryToRetire_spec hm).1 r h0 hop

lemma effect_distinct {e : Effect} (h : s.effect i = some e) : e.writes.Distinct := by
  cases hm : s.memoryToRetire i with
  | true =>
    rw [effect_of_memory hm] at h
    obtain rfl := Option.some.inj h
    exact MemoryOp.resultWrites_distinct _ _
  | false =>
    rw [effect, hm] at h
    cases hb : s.executeToStorebuf with
    | true =>
      rw [hb] at h
      obtain rfl := Option.some.inj h
      exact fun hw => absurd hw Bool.false_ne_true
    | false =>
      cases hbl : s.executeToStorebufLoad with
      | true =>
        rw [hb, hbl] at h
        obtain rfl := Option.some.inj h
        exact fun _ hw => absurd hw Bool.false_ne_true
      | false =>
        cases hret : s.executeToRetire && !(s.execute.trap || s.execute.halt || s.execute.lockup) with
        | true =>
          rw [hb, hbl, hret] at h
          obtain rfl := Option.some.inj h
          exact fun _ hw => absurd hw Bool.false_ne_true
        | false =>
          rw [hb, hbl, hret] at h
          exact absurd h.symm (Option.some_ne_none e)

lemma nextRetire_distinct (hs : s.Occupancy) (ha : s.RegsAgree a) (hr : s.resetPending = false)
    (hlive : (s.step i).stopped = false) (hv : (s.nextRetire i).valid = true) :
    (s.nextRetire i).writes.Distinct := by
  cases settles hs hr hlive with
  | memory _ _ _ h => exact absurd (h.symm.trans hv) Bool.false_ne_true
  | result _ _ hm _ _ hw =>
    rw [hw]
    exact ha.resultPorts hm
  | direct e _ _ he _ hw =>
    rw [hw]
    exact effect_distinct he
  | terminal _ _ _ _ _ haux _ => exact fun _ h => absurd (haux.symm.trans h) Bool.false_ne_true
  | idle _ _ _ h => exact absurd (h.symm.trans hv) Bool.false_ne_true

lemma nextDe_operand (ha : s.RegsAgree a) (hv : (s.nextDe i).valid = true) :
    (instructionRd (s.nextDe i).instruction ≠ 15 → (s.nextDe i).operandA =
      ((s.effect i).elim a.regs fun e => e.writes.apply a.regs) (instructionRd (s.nextDe i).instruction)) ∧
    (instructionRs1 (s.nextDe i).instruction ≠ 15 → (s.nextDe i).operandB =
      ((s.effect i).elim a.regs fun e => e.writes.apply a.regs) (instructionRs1 (s.nextDe i).instruction)) := by
  obtain ⟨_, hadv | ⟨hadv, hd, hl, _⟩⟩ := nextDe_valid hv
  · have hde : (s.nextDe i).instruction = s.fd.instruction ∧ (s.nextDe i).operandA = s.decodeInputs.operandA ∧
        (s.nextDe i).operandB = s.decodeInputs.operandB := by
      simp [nextDe, hadv]
    rw [hde.1, hde.2.1, hde.2.2]
    exact ⟨operand_next ha hadv (.inl rfl), operand_next ha hadv (.inr rfl)⟩
  · have hde : (s.nextDe i).instruction = s.de.instruction ∧ (s.nextDe i).operandA = s.de.operandA ∧
        (s.nextDe i).operandB = s.de.operandB := by
      simp [nextDe, hadv]
    rw [hde.1, hde.2.1, hde.2.2]
    constructor
    · intro h15
      rw [waiting_kept ha hd hl (.inl rfl)]
      exact ha.operandA hd h15
    · intro h15
      rw [waiting_kept ha hd hl (.inr rfl)]
      exact ha.operandB hd h15

theorem RegsAgree.step (hs : s.Occupancy) (ha : s.RegsAgree a) (hr : s.resetPending = false)
    (hlive : (s.step i).stopped = false) : (s.step i).RegsAgree (s.architecturalStep i a) := by
  have hregs := (architecturalStep_eq (i := i) hs hr a).2
  have hxm : (s.step i).xm = s.nextXm i := by rw [step_eq i hr]
  have hde : (s.step i).de = s.nextDe i := by rw [step_eq i hr]
  have hmr : (s.step i).mr = s.nextMr i := by rw [step_eq i hr]
  have hrt : (s.step i).retire = s.nextRetire i := by rw [step_eq i hr]
  refine ⟨?_, ?_, fun r h0 h15 => ?_, ?_, ?_, ?_, ?_, ?_⟩
  · rw [hxm]
    exact nextXm_shape ha.shape
  · rw [hregs]
    cases s.effect i with
    | none => exact ha.zero
    | some e => exact (RegWrites.apply_zero e.writes a.regs).trans ha.zero
  · rw [settledRegs_step hs hr hlive h0 h15, hregs]
    cases s.effect i with
    | none => exact ha.settled r h0 h15
    | some e => exact RegWrites.apply_congr e.writes (ha.settled r h0 h15)
  · rw [hmr]
    intro hv
    have hw : (s.nextMr i).writes = (s.memoryResult i).writes := by simp [nextMr, (nextMr_valid hv).2]
    rw [hw]
    exact MemoryOp.resultWrites_distinct _ _
  · rw [hrt]
    exact nextRetire_distinct hs ha hr hlive
  · rw [hde, hregs]
    exact fun hv => (nextDe_operand ha hv).1
  · rw [hde, hregs]
    exact fun hv => (nextDe_operand ha hv).2
  · rw [hde, hxm]
    intro hv hx r h0 hop
    obtain ⟨_, hadv | ⟨hadv, hd, hl, _⟩⟩ := nextDe_valid hv
    · have hinstr : (s.nextDe i).instruction = s.fd.instruction := by simp [nextDe, hadv]
      rw [hinstr] at hop
      exact nextXm_not_writes ha (decodeAdvance_spec hadv).2.2.1 hx h0 hop
    · have hinstr : (s.nextDe i).instruction = s.de.instruction := by simp [nextDe, hadv]
      rw [hinstr] at hop
      change ¬ (s.managedXm i).op.Writes r
      obtain ⟨_, _, _, ⟨_, hxv, hm⟩ | ⟨_, hem, _⟩ | ⟨_, _, hxv, hm⟩⟩ := nextXm_cases hx
      · rw [hm]
        rintro (⟨hw, _⟩ | hw)
        · exact Bool.false_ne_true hw
        · exact ha.stalled hd hxv r h0 hop (.inr hw)
      · exact absurd hem (by simp [(executeLeaves_eq_false hl).1])
      · rw [hm]
        exact ha.stalled hd hxv r h0 hop

lemma RegsAgree.start (hs : s.Occupancy) (ha : s.RegsAgree a) (hr : s.resetPending = true) :
    (s.step i).RegsAgree (s.architecturalStep i a) := by
  obtain ⟨hd, hrv, _⟩ := hs.starting hr
  have hstep := step_reset_eq i hr
  have hregs : (s.architecturalStep i a).regs =
      fun r => if r = 1 then i.bootR1 else if r = 13 then i.bootR13 else a.regs r := by
    rw [architecturalStep, hr]
    rfl
  have hnone : ∀ {p : Prop}, false = true → p := fun h => absurd h Bool.false_ne_true
  refine ⟨?_, ?_, fun r h0 h15 => ?_, ?_, ?_, ?_, ?_, ?_⟩
  · rw [hstep]
    exact ha.shape
  · rw [hregs]
    exact ha.zero
  · have hset : ∀ s : Core c, s.mr.valid = false → s.retire.valid = false → s.settledRegs r = s.regs r := by
      intro s hm hret
      simp [settledRegs, hm, hret]
    have hs0 := ha.settled r h0 h15
    rw [hset s hd.mr hrv] at hs0
    have hs1 : (s.step i).settledRegs r = (s.step i).regs r := by
      apply hset
      · rw [hstep]
        exact hd.mr
      · rw [hstep]
        exact hrv
    rw [hs1, hstep, hregs]
    simp only [hs0]
  · rw [hstep]
    exact ha.resultPorts
  · rw [hstep]
    exact ha.retirePorts
  · rw [hstep]
    exact fun hv => hnone (hd.de.symm.trans hv)
  · rw [hstep]
    exact fun hv => hnone (hd.de.symm.trans hv)
  · rw [hstep]
    exact fun hv => hnone (hd.de.symm.trans hv)

lemma regsAgree_reset (c : CoreConfig) : (reset c).RegsAgree (architecturalReset c) where
  shape h := absurd h Bool.false_ne_true
  zero := rfl
  settled _ _ _ := rfl
  resultPorts h := absurd h Bool.false_ne_true
  retirePorts h := absurd h Bool.false_ne_true
  operandA h := absurd h Bool.false_ne_true
  operandB h := absurd h Bool.false_ne_true
  stalled h := absurd h Bool.false_ne_true

structure RegInvariant (p : Core c × Arch) : Prop where
  occupancy : p.1.Occupancy
  agree : p.1.stopped = false → p.1.RegsAgree p.2

lemma RegInvariant.step {p : Core c × Arch} (h : RegInvariant p) : RegInvariant (shadowed p i) := by
  refine ⟨h.occupancy.step i, fun hlive => ?_⟩
  have ha := h.agree (stopped_step hlive)
  cases hr : p.1.resetPending with
  | true => exact ha.start h.occupancy hr
  | false => exact ha.step h.occupancy hr hlive

lemma regInvariant_run (c : CoreConfig) (is : List (CoreInputs c)) :
    RegInvariant (run shadowed (reset c, architecturalReset c) is) := by
  induction is using List.reverseRecOn with
  | nil => exact ⟨occupancy_reset c, fun _ => regsAgree_reset c⟩
  | append_singleton is i ih =>
    rw [run, List.foldl_append]
    exact ih.step

/-- Every instruction executes with the registers that the completed instructions leave. -/
theorem operands_architectural (c : CoreConfig) (is : List (CoreInputs c)) :
    let p := run shadowed (reset c, architecturalReset c) is
    p.1.executeLeaves = true →
      (instructionRd p.1.de.instruction ≠ 15 → p.1.de.operandA = p.2.regs (instructionRd p.1.de.instruction)) ∧
      (instructionRs1 p.1.de.instruction ≠ 15 →
        p.1.de.operandB = p.2.regs (instructionRs1 p.1.de.instruction)) := by
  intro p hl
  have hinv : RegInvariant p := regInvariant_run c is
  have hd := (executeLeaves_spec hl).1
  have hlive : p.1.stopped = false := by
    apply Bool.eq_false_of_not_eq_true
    intro hst
    exact Bool.false_ne_true ((hinv.occupancy.stopped hst).1.de.symm.trans hd)
  exact ⟨(hinv.agree hlive).operandA hd, (hinv.agree hlive).operandB hd⟩

/-- `LDI R2, 0x21` and `ADD R1, R2` right behind it. -/
theorem operands_architectural_sample :
    let p := run shadowed (reset .uncached, architecturalReset .uncached)
      (List.replicate 7 (.endless .uncached 0xDF00DF00C0218212 0x100))
    p.1.de.operandA = p.2.regs (instructionRd p.1.de.instruction) ∧
      p.1.de.operandB = p.2.regs (instructionRs1 p.1.de.instruction) :=
  have h := operands_architectural .uncached (List.replicate 7 (.endless .uncached 0xDF00DF00C0218212 0x100))
    (by decide +kernel)
  ⟨h.1 (by decide +kernel), h.2 (by decide +kernel)⟩

end Core

end Little64.Hdl

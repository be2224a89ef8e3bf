import Little64.Hdl.Architecture

/-! The flags that a conditional jump or a store-conditional executes with, against the flags that the
instructions before it leave. -/

namespace Little64.Hdl

open Emulator (LsOpcode GpOpcode)
open Runs

/-- The instructions whose outputs depend on the flags. -/
def readsFlags (instruction : BitVec 16) : Bool :=
  match instructionTop2 instruction with
  | 2 => false
  | 0 | 1 =>
    match instructionLsOpcode instruction with
    | .jumpZ | .jumpC | .jumpS | .jumpGT | .jumpLT => true
    | _ => false
  | _ => instructionTop3 instruction != 7 && instructionGpOpcode instruction == some .scr

section Readers

variable {instruction : BitVec 16}

lemma readsFlags_of_ls (h : instructionTop2 instruction = 0 ∨ instructionTop2 instruction = 1) :
    readsFlags instruction =
      match instructionLsOpcode instruction with
      | .jumpZ | .jumpC | .jumpS | .jumpGT | .jumpLT => true
      | _ => false := by
  rcases h with h | h <;> rw [readsFlags, h] <;> rfl

lemma readsFlags_of_gp (h : instructionTop2 instruction = 3) (h7 : instructionTop3 instruction ≠ 7) :
    readsFlags instruction = (instructionGpOpcode instruction == some .scr) := by
  rw [readsFlags, h]
  change (instructionTop3 instruction != 7 && instructionGpOpcode instruction == some GpOpcode.scr) = _
  rw [bne_iff_ne.2 h7, Bool.true_and]

end Readers

/-- The flags with `Z` set. -/
def zeroSet (flags : Flags) : Flags := flags.extractLsb' 1 2 ++ BitVec.ofBool true

lemma zeroSet_of_zero : ∀ flags : Flags, flags.getLsbD 0 = true → zeroSet flags = flags := by decide

namespace ExecuteInputs

variable (i : ExecuteInputs)

lemma executeGp_flagsWrite (hm : i.executeGp.memoryStart = true) (hf : i.executeGp.memory.flagsWrite = true) :
    instructionGpOpcode i.instruction = some .scr ∧ i.executeGp.memory.flagsValue = zeroSet i.flags := by
  unfold executeGp at hm hf ⊢
  cases ho : instructionGpOpcode i.instruction with
  | none =>
    rw [ho] at hm
    exact absurd hm Bool.false_ne_true
  | some op =>
    rw [ho] at hm hf
    cases op with
    | scr =>
      cases hl : i.llReservationValid && i.llReservationAddr == i.operandB with
      | true =>
        simp only [hl, if_true, true_and]
        rfl
      | false =>
        simp only [hl, Bool.false_eq_true, if_false] at hm
        exact absurd hm Bool.false_ne_true
    | llr => exact absurd hf Bool.false_ne_true
    | lsr | ssr | iret | stop =>
      simp only at hm
      split at hm <;> exact absurd hm Bool.false_ne_true
    | _ => exact absurd hm Bool.false_ne_true

/-- The flags that an operation of the memory stage writes come from a store-conditional. -/
lemma memory_flagsWrite (hm : i.outputs.memoryStart = true) (hf : i.outputs.memory.flagsWrite = true) :
    readsFlags i.instruction = true ∧ i.outputs.memory.flagsValue = zeroSet i.flags := by
  cases hv : i.valid with
  | false =>
    rw [outputs_of_invalid hv] at hm
    exact absurd hm Bool.false_ne_true
  | true =>
    rcases i.group_cases with h | h | h | ⟨h, h7⟩ | ⟨h, h7⟩
    · rw [outputs_of_lsReg hv h, executeLsReg] at hm hf
      cases ho : i.lsOpcode <;> rw [ho] at hm hf <;> first
        | exact absurd hm Bool.false_ne_true
        | exact absurd hf Bool.false_ne_true
    · rw [outputs_of_lsPcRel hv h, executeLsPcRel] at hm hf
      cases ho : i.lsOpcode <;> rw [ho] at hm hf <;> first
        | exact absurd hm Bool.false_ne_true
        | exact absurd hf Bool.false_ne_true
    · rw [outputs_of_ldi hv h] at hm
      exact absurd hm Bool.false_ne_true
    · rw [outputs_of_jump hv h h7] at hm
      exact absurd hm Bool.false_ne_true
    · rw [outputs_of_gp hv h h7] at hm hf ⊢
      obtain ⟨ho, hz⟩ := i.executeGp_flagsWrite hm hf
      rw [readsFlags_of_gp h h7, ho]
      exact ⟨rfl, hz⟩

/-- The inputs with other flags. -/
def withFlags (flags : Flags) : ExecuteInputs := { i with flags := flags }

/-- Outputs that agree on everything but flags that are not written. -/
structure SameButFlags (o o' : ExecuteOutputs) : Prop where
  flagsWrite : o.flagsWrite = o'.flagsWrite
  flagsValue : o.flagsWrite = true → o.flagsValue = o'.flagsValue
  memoryFlagsValue : o.memory.flagsWrite = true → o.memory.flagsValue = o'.memory.flagsValue
  rest : { o with flagsValue := 0, memory := { o.memory with flagsValue := 0 } } =
    { o' with flagsValue := 0, memory := { o'.memory with flagsValue := 0 } }

/-- The flags reach no output of an instruction outside `readsFlags`. -/
theorem outputs_withFlags (flags : Flags) (h : readsFlags i.instruction = false) :
    SameButFlags (i.withFlags flags).outputs i.outputs := by
  cases hv : i.valid with
  | false =>
    have hv' : (i.withFlags flags).valid = false := hv
    rw [outputs_of_invalid hv, outputs_of_invalid hv']
    exact ⟨rfl, nofun, nofun, rfl⟩
  | true =>
    have hv' : (i.withFlags flags).valid = true := hv
    rcases i.group_cases with h2 | h2 | h2 | ⟨h2, h7⟩ | ⟨h2, h7⟩
    · rw [readsFlags_of_ls (.inl h2)] at h
      rw [outputs_of_lsReg hv h2, outputs_of_lsReg hv' h2, executeLsReg, executeLsReg]
      have ho : (i.withFlags flags).lsOpcode = i.lsOpcode := rfl
      rw [ho]
      change (match i.lsOpcode with | .jumpZ | .jumpC | .jumpS | .jumpGT | .jumpLT => true | _ => false) = false at h
      cases hop : i.lsOpcode <;> rw [hop] at h <;> first
        | exact absurd h.symm Bool.false_ne_true
        | exact ⟨rfl, nofun, nofun, rfl⟩
    · rw [readsFlags_of_ls (.inr h2)] at h
      rw [outputs_of_lsPcRel hv h2, outputs_of_lsPcRel hv' h2, executeLsPcRel, executeLsPcRel]
      have ho : (i.withFlags flags).lsOpcode = i.lsOpcode := rfl
      rw [ho]
      change (match i.lsOpcode with | .jumpZ | .jumpC | .jumpS | .jumpGT | .jumpLT => true | _ => false) = false at h
      cases hop : i.lsOpcode <;> rw [hop] at h <;> first
        | exact absurd h.symm Bool.false_ne_true
        | exact ⟨rfl, nofun, nofun, rfl⟩
    · rw [outputs_of_ldi hv h2, outputs_of_ldi hv' h2]
      exact ⟨rfl, nofun, nofun, rfl⟩
    · rw [outputs_of_jump hv h2 h7, outputs_of_jump hv' h2 h7]
      exact ⟨rfl, nofun, nofun, rfl⟩
    · rw [readsFlags_of_gp h2 h7] at h
      rw [outputs_of_gp hv h2 h7, outputs_of_gp hv' h2 h7, executeGp, executeGp]
      have ho : instructionGpOpcode (i.withFlags flags).instruction = instructionGpOpcode i.instruction := rfl
      rw [ho]
      cases hop : instructionGpOpcode i.instruction with
      | none => exact ⟨rfl, nofun, nofun, rfl⟩
      | some op =>
        cases op with
        | scr => exact absurd h (by simp [hop])
        | lsr =>
          change SameButFlags (if i.specialReadAccessFault then _ else _) (if i.specialReadAccessFault then _ else _)
          cases i.specialReadAccessFault <;> exact ⟨rfl, nofun, nofun, rfl⟩
        | ssr =>
          change SameButFlags (if i.specialWriteAccessFault then _ else _) (if i.specialWriteAccessFault then _ else _)
          cases i.specialWriteAccessFault <;> exact ⟨rfl, nofun, nofun, rfl⟩
        | iret | stop =>
          change SameButFlags (if i.userMode then _ else _) (if i.userMode then _ else _)
          cases i.userMode <;> first
            | exact ⟨rfl, fun h => absurd h Bool.false_ne_true, nofun, rfl⟩
            | exact ⟨rfl, fun _ => rfl, nofun, rfl⟩
        | syscall | llr => exact ⟨rfl, nofun, nofun, rfl⟩
        | _ => exact ⟨rfl, fun _ => rfl, nofun, rfl⟩

end ExecuteInputs

namespace Core

variable {c : CoreConfig}

/-- The flags that are due, and the flags that the latches hold for the next reader. -/
structure FlagsAgree (s : Core c) (a : Arch) : Prop where
  shape : s.xm.valid = true → s.xm.op.Shape
  settled : s.settledFlags = a.flags
  conditional : s.xm.valid = true → s.xm.op.flagsWrite = true → s.xm.op.flagsValue = zeroSet a.flags
  reader : s.de.valid = true → readsFlags s.de.instruction = true →
    s.de.flags = if s.xm.valid ∧ s.xm.op.flagsWrite then s.xm.op.flagsValue else a.flags

/-- No reader of the flags is decoded while a store-conditional that succeeds is in or on its way to
the memory stage, unless `Z` is set already. -/
def FlagsDue (s : Core c) (a : Arch) : Prop :=
  s.decodeAdvance = true → readsFlags s.fd.instruction = true →
    s.xm.valid = true ∧ s.xm.op.flagsWrite = true ∨
      s.executeToMemory = true ∧ s.execute.memory.flagsWrite = true →
    a.flags.getLsbD 0 = true

instance (s : Core c) (a : Arch) : Decidable (s.FlagsDue a) := by
  unfold FlagsDue
  infer_instance

variable {s : Core c} {i : CoreInputs c} {a : Arch}

lemma operandFlags_eq :
    s.decodeInputs.operandFlags =
      if (s.de.valid && !s.execute.memoryStart && s.execute.flagsWrite) = true then s.execute.flagsValue
      else s.settledFlags := by
  simp only [DecodeInputs.operandFlags, decodeInputs, settledFlags, Bool.and_eq_true]
  rfl

lemma startedConditional (ha : s.FlagsAgree a) (hx : s.executeToMemory = true)
    (hf : s.execute.memory.flagsWrite = true) : s.execute.memory.flagsValue = zeroSet a.flags := by
  have hspec := executeToMemory_spec hx
  obtain ⟨hr, hz⟩ := ExecuteInputs.memory_flagsWrite _ hspec.2.1 hf
  have hflags := ha.reader hspec.1 hr
  rw [if_neg (by simp [hspec.2.2.2.2.2.1])] at hflags
  have hz' : s.execute.memory.flagsValue = zeroSet s.de.flags := hz
  rw [hz', hflags]

/-- An instruction that bypasses its flags to decode completes in the same cycle. -/
lemma effect_of_bypass (hadv : s.decodeAdvance = true)
    (h : (s.de.valid && !s.execute.memoryStart && s.execute.flagsWrite) = true) :
    (s.nextXm i).valid = false ∧ ∃ e, s.effect i = some e ∧ e.flags = some s.execute.flagsValue := by
  simp only [Bool.and_eq_true, Bool.not_eq_true'] at h
  obtain ⟨⟨hd, hm⟩, hf⟩ := h
  have hret := executeToRetire_of_decode hadv hd hm
  have ht : (s.execute.trap || s.execute.halt || s.execute.lockup) = false := by
    apply Bool.eq_false_of_not_eq_true
    intro ht
    exact Bool.false_ne_true (((execute_shape s).terminal ht).2.symm.trans hf)
  exact ⟨nextXm_of_retire hret, _, effect_of_retire hret ht, by simp [hf]⟩

/-- Without a bypass from the execute stage the flags due stay what they are in a cycle that decodes a reader. -/
lemma flags_kept (ha : s.FlagsAgree a) (hdue : s.FlagsDue a) (hadv : s.decodeAdvance = true)
    (hread : readsFlags s.fd.instruction = true)
    (h : (s.de.valid && !s.execute.memoryStart && s.execute.flagsWrite) = false) :
    ((s.effect i).elim a.flags fun e => e.flags.getD a.flags) = a.flags := by
  cases hm : s.memoryToRetire i with
  | true =>
    rw [effect_of_memory hm]
    have hx := (memoryToRetire_spec hm).1
    cases hf : s.xm.op.flagsWrite with
    | true =>
      change s.xm.op.flagsValue = a.flags
      rw [ha.conditional hx hf]
      exact zeroSet_of_zero _ (hdue hadv hread (.inl ⟨hx, hf⟩))
    | false => rfl
  | false =>
    rw [effect, hm]
    cases hb : s.executeToStorebuf with
    | true => rfl
    | false =>
      cases hbl : s.executeToStorebufLoad with
      | true => rfl
      | false =>
        cases hret : s.executeToRetire && !(s.execute.trap || s.execute.halt || s.execute.lockup) with
        | false => rfl
        | true =>
          rw [Bool.and_eq_true] at hret
          have hspec := executeToRetire_spec hret.1
          have hf : s.execute.flagsWrite = false := by simpa [hspec.1, hspec.2.1] using h
          simp [hf]

lemma pending_kept (ha : s.FlagsAgree a) (hl : s.executeLeaves = false) (hc : s.clearPipeline i = false)
    (hr : s.memoryRedirect = false) :
    (if s.xm.valid ∧ s.xm.op.flagsWrite then s.xm.op.flagsValue else a.flags) =
      if (s.nextXm i).valid ∧ (s.nextXm i).op.flagsWrite then (s.nextXm i).op.flagsValue
      else (s.effect i).elim a.flags fun e => e.flags.getD a.flags := by
  cases hm : s.memoryToRetire i with
  | true =>
    have hx : (s.nextXm i).valid = false := by
      apply Bool.eq_false_of_not_eq_true
      intro hv
      exact Bool.false_ne_true ((nextXm_valid hv).2.1.symm.trans hm)
    rw [effect_of_memory hm, hx, (memoryToRetire_spec hm).1]
    cases s.xm.op.flagsWrite <;> simp
  | false =>
    rw [effect_none hm hl, Option.elim_none]
    cases hx : s.xm.valid with
    | false =>
      have hx' : (s.nextXm i).valid = false := by
        apply Bool.eq_false_of_not_eq_true
        intro hv
        rcases (nextXm_valid hv).2.2.2 with h | ⟨h, _⟩
        · exact Bool.false_ne_true ((executeLeaves_eq_false hl).1.symm.trans h)
        · exact Bool.false_ne_true (hx.symm.trans h)
      simp [hx']
    | true =>
      have hv := nextXm_stays hx hc hm hr
      obtain ⟨_, _, _, ⟨hch, _, hmx⟩ | ⟨_, hem, _⟩ | ⟨_, _, _, hmx⟩⟩ := nextXm_cases hv
      · have hf : s.xm.op.flagsWrite = false := by
          apply Bool.eq_false_of_not_eq_true
          intro hf
          have hshape := ha.shape hx
          have hchain := (memoryChainContinue_exclusive hch).2.1
          exact Bool.false_ne_true ((hshape.store (hshape.conditional hf).1).2.1.symm.trans hchain)
        have hf' : (s.nextXm i).op.flagsWrite = false := by
          change (s.managedXm i).op.flagsWrite = false
          rw [hmx]
          rfl
        simp [hf, hf']
      · exact absurd hem (by simp [(executeLeaves_eq_false hl).1])
      · have hop : (s.nextXm i).op = s.xm.op := by
          change (s.managedXm i).op = _
          rw [hmx]
        rw [hop, hv]

theorem FlagsAgree.step (hs : s.Occupancy) (ha : s.FlagsAgree a) (hdue : s.FlagsDue a)
    (hr : s.resetPending = false) (hlive : (s.step i).stopped = false) :
    (s.step i).FlagsAgree (s.architecturalStep i a) := by
  have hflags := (architecturalStep_eq (i := i) hs hr a).1
  have hxm : (s.step i).xm = s.nextXm i := by rw [step_eq i hr]
  have hde : (s.step i).de = s.nextDe i := by rw [step_eq i hr]
  have hcond : (s.nextXm i).valid = true → (s.nextXm i).op.flagsWrite = true →
      (s.nextXm i).op.flagsValue = zeroSet (s.architecturalStep i a).flags := by
    intro hv
    obtain ⟨_, hmr, _, ⟨_, _, hm⟩ | ⟨_, hem, hm⟩ | ⟨_, _, hxv, hm⟩⟩ := nextXm_cases hv
    · change (s.managedXm i).op.flagsWrite = true → _
      rw [hm]
      exact nofun
    · change (s.managedXm i).op.flagsWrite = true → (s.managedXm i).op.flagsValue = _
      rw [hm, hflags, effect_of_started hem]
      exact startedConditional ha hem
    · change (s.managedXm i).op.flagsWrite = true → (s.managedXm i).op.flagsValue = _
      rw [hm, hflags, effect_none hmr (executeLeaves_of_memory hxv)]
      exact ha.conditional hxv
  refine ⟨?_, ?_, ?_, ?_⟩
  · rw [hxm]
    exact nextXm_shape ha.shape
  · rw [settledFlags_step hs hr hlive, hflags, ha.settled]
  · rw [hxm]
    exact hcond
  · rw [hxm, hde]
    intro hv hread
    obtain ⟨hclear, hadv | ⟨hadv, hd, hl, hred⟩⟩ := nextDe_valid hv
    · have hinstr : (s.nextDe i).instruction = s.fd.instruction := by simp [nextDe, hadv]
      have hdeflags : (s.nextDe i).flags = s.decodeInputs.operandFlags := by simp [nextDe, hadv]
      rw [hinstr] at hread
      rw [hdeflags, operandFlags_eq]
      cases hby : s.de.valid && !s.execute.memoryStart && s.execute.flagsWrite with
      | true =>
        obtain ⟨hx, e, he, hef⟩ := effect_of_bypass (i := i) hadv hby
        rw [hx, hflags, he]
        simp [hef]
      | false =>
        have hkept := flags_kept (i := i) ha hdue hadv hread hby
        rw [← hflags] at hkept
        rw [if_neg Bool.false_ne_true, ha.settled, hkept]
        split
        · next hx =>
          rw [hcond hx.1 hx.2, hkept, zeroSet_of_zero]
          apply hdue hadv hread
          obtain ⟨_, _, _, ⟨_, _, hm⟩ | ⟨_, hem, hm⟩ | ⟨_, _, hxv, hm⟩⟩ := nextXm_cases hx.1
          · have hf : (s.managedXm i).op.flagsWrite = true := hx.2
            rw [hm] at hf
            exact absurd hf Bool.false_ne_true
          · have hf : (s.managedXm i).op.flagsWrite = true := hx.2
            rw [hm] at hf
            exact .inr ⟨hem, hf⟩
          · have hf : (s.managedXm i).op.flagsWrite = true := hx.2
            rw [hm] at hf
            exact .inl ⟨hxv, hf⟩
        · rfl
    · have hsame : (s.nextDe i).instruction = s.de.instruction ∧ (s.nextDe i).flags = s.de.flags := by
        simp [nextDe, hadv]
      rw [hsame.1] at hread
      rw [hsame.2, ha.reader hd hread, hflags]
      exact pending_kept ha hl hclear hred

lemma FlagsAgree.start (hs : s.Occupancy) (ha : s.FlagsAgree a) (hr : s.resetPending = true) :
    (s.step i).FlagsAgree (s.architecturalStep i a) := by
  have hd := (hs.starting hr).1
  have hstep := step_reset_eq i hr
  refine ⟨?_, ?_, ?_, ?_⟩
  · rw [hstep]
    exact ha.shape
  · have hset : (s.step i).settledFlags = s.settledFlags := by
      rw [hstep]
      rfl
    have hflags : (s.architecturalStep i a).flags = a.flags := by
      rw [architecturalStep, hr]
      rfl
    rw [hset, hflags, ha.settled]
  · rw [hstep]
    intro hx
    exact absurd (hd.xm.symm.trans hx) Bool.false_ne_true
  · rw [hstep]
    intro hv
    exact absurd (hd.de.symm.trans hv) Bool.false_ne_true

lemma flagsAgree_reset (c : CoreConfig) : (reset c).FlagsAgree (architecturalReset c) :=
  ⟨fun h => absurd h Bool.false_ne_true, rfl, fun h => absurd h Bool.false_ne_true,
    fun h => absurd h Bool.false_ne_true⟩

structure FlagInvariant (p : Core c × Arch) : Prop where
  occupancy : p.1.Occupancy
  agree : p.1.stopped = false → p.1.FlagsAgree p.2

lemma FlagInvariant.step {p : Core c × Arch} (h : FlagInvariant p) (hdue : p.1.FlagsDue p.2) :
    FlagInvariant (shadowed p i) := by
  refine ⟨h.occupancy.step i, fun hlive => ?_⟩
  have ha := h.agree (stopped_step hlive)
  cases hr : p.1.resetPending with
  | true => exact ha.start h.occupancy hr
  | false => exact ha.step h.occupancy hdue hr hlive

/-- An instruction that reads the flags executes with those that the completed instructions leave. -/
theorem reader_executes_with_flags (c : CoreConfig) (is : List (CoreInputs c))
    (h : Along shadowed (fun p _ => p.1.FlagsDue p.2) (reset c, architecturalReset c) is)
    (hl : (run shadowed (reset c, architecturalReset c) is).1.executeLeaves = true)
    (hread : readsFlags (run shadowed (reset c, architecturalReset c) is).1.de.instruction = true) :
    (run shadowed (reset c, architecturalReset c) is).1.de.flags =
      (run shadowed (reset c, architecturalReset c) is).2.flags := by
  have hinv : FlagInvariant (run shadowed (reset c, architecturalReset c) is) :=
    h.invariant _ (fun _ _ hp hdue => hp.step hdue) ⟨occupancy_reset c, fun _ => flagsAgree_reset c⟩
  obtain ⟨hd, hx⟩ := executeLeaves_spec hl
  have hlive : (run shadowed (reset c, architecturalReset c) is).1.stopped = false := by
    apply Bool.eq_false_of_not_eq_true
    intro hst
    exact Bool.false_ne_true ((hinv.occupancy.stopped hst).1.de.symm.trans hd)
  rw [(hinv.agree hlive).reader hd hread, if_neg (by simp [hx])]

/-- `TEST R1, R1` and a conditional jump. -/
theorem reader_executes_with_flags_sample :
    (run shadowed (reset .uncached, architecturalReset .uncached)
      (List.replicate 7 (.endless .uncached 0xDF00DF006C04C211 0x100))).1.de.flags =
    (run shadowed (reset .uncached, architecturalReset .uncached)
      (List.replicate 7 (.endless .uncached 0xDF00DF006C04C211 0x100))).2.flags :=
  reader_executes_with_flags .uncached _ (by decide +kernel) (by decide +kernel) (by decide +kernel)

/-- `LLR`, a store-conditional that succeeds and a conditional jump right behind it: the jump
executes with the flags from before the store-conditional. -/
theorem conditional_jump_misses_conditional_store : ¬ ∀ (c : CoreConfig) (is : List (CoreInputs c)),
    let p := run shadowed (reset c, architecturalReset c) is
    p.1.executeLeaves = true → readsFlags p.1.de.instruction = true → p.1.de.flags = p.2.flags := by
  intro h
  have hflags := h .uncached
    (List.replicate 13 { CoreInputs.endless .uncached 0xDF006C04C413C312 0x100 with dBus := ⟨true, false, 0⟩ })
    (by decide +kernel) (by decide +kernel)
  revert hflags
  decide +kernel

end Core

end Little64.Hdl

import Little64.Hdl.Steering

/-! The program counters along the pipeline, against the next PC that the completed instructions leave. -/

namespace Little64.Hdl

open Runs

/-- The PCs that the physical fetch address and the two front latches were obtained for. -/
structure Sources where
  line : Word
  fd : Word
  de : Word
  deriving DecidableEq, Repr

namespace Core

variable {c : CoreConfig} (s : Core c) (i : CoreInputs c) (a : Arch) (g : Sources)

/-- The source of the physical fetch address follows its assignments. -/
def nextLine : Word :=
  let steered := fun (target : Word) => if s.pagingEnabled then g.line else target
  if s.vectorEnters i then steered (s.vectorHandlerPc i)
  else if s.walkLeafSuccess && s.walk.resumeKind == .fetch then s.walk.virtualAddr
  else if s.fetchTranslateComplete then s.fetch.translateVirtualAddr
  else if s.executeMispredict || s.trapStart || s.irqStart i then steered s.execute.nextPc
  else if s.memoryRedirect then steered s.mr.nextPc
  else if s.predictRedirectActive then steered s.decodeInputs.predictedNextPc
  else if s.fetchAccept i then steered s.nextFetchPc
  else g.line

def sourceStep : Sources :=
  if s.resetPending then g
  else
    { line := s.nextLine i g
      fd := if s.fetchAccept i then g.line else g.fd
      de := if s.decodeAdvance then g.fd else g.de }

/-- The core with the architectural state and the sources of its instructions beside it. -/
def traced : Core c × Arch × Sources → CoreInputs c → Core c × Arch × Sources :=
  fun p i => (p.1.step i, p.1.architecturalStep i p.2.1, p.1.sourceStep i p.2.2)

def tracedReset (c : CoreConfig) : Core c × Arch × Sources :=
  (reset c, architecturalReset c, ⟨c.resetVector, 0, 0⟩)

/-- The next PC once the operation in the memory stage is done, as it was predicted. -/
def base : Word := if s.xm.valid then s.xm.op.nextPc else a.pc

/-- The next PC that was predicted behind the execute slot. -/
def nextAfter : Word := if s.de.valid then s.de.predictedNextPc else s.base a

/-- No exception, interrupt or redirect from memory is under way. -/
structure Flowing : Prop where
  vector : s.vector.active = false
  terminal : s.retireTerminal = false
  pending : s.pendingFault.pending = false
  redirect : s.memoryRedirect = false

structure FlowAgree : Prop where
  starting : s.resetPending = true → s.Flowing
  redirect : s.memoryRedirect = true → s.mr.nextPc = a.pc
  memory : s.xm.valid = true → s.xm.faultPc = a.pc
  controlWrite : s.retire.valid = true → s.retire.cpuControlWrite = true → s.xm.valid = false ∧ s.mr.valid = false
  trapPc : s.retire.valid = true → s.retire.trap = true → s.retire.commitPc = a.pc
  faultPc : s.pendingFault.pending = true → s.pendingFault.pc = a.pc
  entryPc : s.vector.active = true → s.vector.epc = a.pc
  line : s.vector.active = false → s.fetch.physValid = true → g.line = s.fetch.pc
  translate : s.vector.active = false → s.xm.valid = false → s.fetch.translateVirtualAddr = s.fetch.pc
  walk : s.walk.active = true → s.walk.resumeKind = .fetch → s.walk.virtualAddr = s.fetch.pc ∧ s.fetch.pc = a.pc
  execute : s.Flowing → s.de.valid = true → s.de.pc = s.base a ∧ g.de = s.de.pc
  decode : s.Flowing → s.steers = false → s.fd.valid = true →
    s.fd.pc = s.nextAfter a ∧ g.fd = s.fd.pc ∧ s.fd.postIncrementPc = s.fd.pc + 2
  fetch : s.Flowing → s.steers = false →
    s.fetch.pc = if s.fd.valid then s.fd.postIncrementPc else s.nextAfter a

/-- A load into `R15` is not served by the store buffer, unless it loads the next PC, and no load
redirects the fetch in a cycle that translates a fetch address. -/
def RedirectsAlone : Prop :=
  (s.executeToStorebufLoad = true → s.execute.memory.regIndex = 15 →
    s.storebufLoadValue = s.execute.memory.nextPc) ∧
  (s.memoryRedirect = true → s.fetchTranslateReady = false)

instance : Decidable s.RedirectsAlone := by
  unfold RedirectsAlone
  infer_instance

variable {s i a g}

section Phases

lemma memoryRedirect_spec (h : s.memoryRedirect = true) : s.mr.valid = true ∧ s.mr.nextPc ≠ s.mr.commitNextPc := by
  simpa [memoryRedirect] using h

lemma flowing_of_leaves (hs : s.Occupancy) (h : s.executeLeaves = true) : s.Flowing := by
  obtain ⟨hd, hx⟩ := executeLeaves_spec h
  have hred : s.memoryRedirect = false := by
    apply Bool.eq_false_of_not_eq_true
    intro hr
    simp [executeLeaves, executeToMemory, executeToStorebuf, executeToStorebufLoad, executeToRetire, hr] at h
  refine ⟨?_, ?_, ?_, hred⟩
  · apply Bool.eq_false_of_not_eq_true
    intro hv
    exact Bool.false_ne_true ((hs.entering hv).1.de.symm.trans hd)
  · apply Bool.eq_false_of_not_eq_true
    intro ht
    exact Bool.false_ne_true ((hs.terminal ht).de.symm.trans hd)
  · apply Bool.eq_false_of_not_eq_true
    intro hp
    exact Bool.false_ne_true (hx.symm.trans ((hs.faulting hp).2.2 hd))

lemma clear_of_noEntry (hr : s.resetPending = false) (hlive : (s.step i).stopped = false)
    (he : s.entryStart i = false) : s.clearPipeline i = false := by
  apply Bool.eq_false_of_not_eq_true
  intro hc
  rcases clearPipeline_cases hr hc with h | h
  · exact Bool.false_ne_true (hlive.symm.trans h)
  · exact Bool.false_ne_true (he.symm.trans h)

lemma vector_goes_on (hr : s.resetPending = false) (hlive : (s.step i).stopped = false) :
    (s.vectorTranslateLockup || s.walkFaultLockup || s.vectorFails i) = false := by
  apply Bool.eq_false_of_not_eq_true
  intro h
  refine Bool.false_ne_true (hlive.symm.trans ?_)
  rw [step_eq i hr]
  simp only [Bool.or_eq_true] at h
  simp only [stopped, locksUp, Bool.or_eq_true]
  tauto

lemma entry_next (hr : s.resetPending = false) (hlive : (s.step i).stopped = false) (he : s.entryStart i = true) :
    (s.step i).vector = ⟨true, false, s.entryVectorAddr i, s.entryVectorAddr i, !s.pagingEnabled, s.entryEpc, s.flags⟩ := by
  rw [step_eq i hr]
  simp only [nextVector, vector_goes_on hr hlive, he, Bool.false_eq_true, if_false, if_true]

lemma entry_of_pending (hs : s.Occupancy) (hr : s.resetPending = false) (hlive : (s.step i).stopped = false)
    (hp : s.pendingFault.pending = true) : s.entryStart i = true := by
  have hv : s.vector.active = false := by
    apply Bool.eq_false_of_not_eq_true
    intro hv
    exact Bool.false_ne_true ((hs.entering hv).2.2.symm.trans hp)
  have hl : s.trapPreemptLockup = false := by
    apply Bool.eq_false_of_not_eq_true
    intro h
    refine Bool.false_ne_true (hlive.symm.trans ?_)
    rw [step_eq i hr]
    simp [stopped, locksUp, h]
  simp [entryStart, trapStart, hp, hl, hv]

end Phases

section Fetch

lemma entry_false (h : s.entryStart i = false) : s.trapStart = false ∧ s.irqStart i = false := by
  simpa [entryStart] using h

lemma redirect_of_ready (halone : s.RedirectsAlone) (h : s.fetchTranslateReady = true) : s.memoryRedirect = false := by
  apply Bool.eq_false_of_not_eq_true
  intro hred
  exact Bool.false_ne_true ((halone.2 hred).symm.trans h)

lemma fetchLeaf_spec (hs : s.Occupancy) (h : (s.walkLeafSuccess && s.walk.resumeKind == .fetch) = true) :
    s.walk.active = true ∧ s.walk.resumeKind = .fetch ∧ s.Drained ∧ s.vector.active = false ∧
      s.fetch.physValid = false := by
  simp only [walkLeafSuccess, PageWalk.leafSuccess, Bool.and_eq_true, beq_iff_eq] at h
  have ha := hs.walking h.1.1.1
  exact ⟨ha, h.2, hs.fetchWalk ha h.2⟩

lemma fetchTranslateComplete_spec (h : s.fetchTranslateComplete = true) : s.fetchTranslateReady = true := by
  simp only [fetchTranslateComplete, Bool.and_eq_true] at h
  exact h.1.1

lemma predictRedirect_spec (h : s.predictRedirectActive = true) :
    s.fd.valid = true ∧ s.decodeInputs.predictRedirect = true ∧ s.decodeAdvance = true := by
  simp only [predictRedirectActive, Bool.and_eq_true] at h
  exact ⟨h.1.1, h.1.2, h.2⟩

/-- A fetch translation that ends finds nothing in the pipeline that moves the fetch. -/
lemma fetch_still (hd : s.de.valid = false) (hf : s.fd.valid = false) (hp : s.fetch.physValid = false) :
    s.executeMispredict = false ∧ s.predictRedirectActive = false ∧ s.fetchAccept i = false := by
  refine ⟨?_, ?_, ?_⟩
  · simp [executeMispredict, hd]
  · simp [predictRedirectActive, hf]
  · simp [fetchAccept, hp]

lemma line_kept (hve : s.vectorEnters i = false) (hleaf : (s.walkLeafSuccess && s.walk.resumeKind == .fetch) = false)
    (hcomp : s.fetchTranslateComplete = false) (hentry : s.entryStart i = false)
    (hline : s.memoryRedirect = false → s.fetchAccept i = false → s.fetch.physValid = true → g.line = s.fetch.pc)
    (hp : (s.nextFetch i).physValid = true) : s.nextLine i g = (s.nextFetch i).pc := by
  obtain ⟨ht, hi⟩ := entry_false hentry
  simp only [nextFetch, hve, hleaf, hcomp, ht, hi, Bool.or_false, Bool.false_eq_true, if_false] at hp
  simp only [nextLine, nextFetch, hve, hleaf, hcomp, ht, hi, Bool.or_false, Bool.false_eq_true, if_false]
  -- the assignments to the fetch PC and to its physical address have the same conditions, in the same order
  cases hm : s.executeMispredict with
  | true => simp_all
  | false =>
    cases hred : s.memoryRedirect with
    | true => simp_all
    | false =>
      cases hpr : s.predictRedirectActive with
      | true => simp_all
      | false =>
        cases hac : s.fetchAccept i with
        | true => simp_all
        | false => simpa using hline hred hac (by simpa [hm, hred, hpr, hac] using hp)

/-- The physical fetch address was obtained for the fetch PC, before and after a cycle. -/
lemma line_next (hs : s.Occupancy) (hf : s.FlowAgree a g) (halone : s.RedirectsAlone)
    (hentry : s.entryStart i = false) (hv : s.vector.active = false ∨ s.vectorEnters i = true)
    (hp : (s.nextFetch i).physValid = true) : s.nextLine i g = (s.nextFetch i).pc := by
  obtain ⟨ht, hi⟩ := entry_false hentry
  cases hve : s.vectorEnters i with
  | true =>
    simp only [nextFetch, hve, if_true, Bool.not_eq_true'] at hp
    simp [nextLine, nextFetch, hve, hp]
  | false =>
    have hv : s.vector.active = false := hv.resolve_right (by simp [hve])
    cases hleaf : s.walkLeafSuccess && s.walk.resumeKind == .fetch with
    | true =>
      obtain ⟨ha, hk, hd, _, hpv⟩ := fetchLeaf_spec hs hleaf
      obtain ⟨hm, hpr, hac⟩ := fetch_still (i := i) hd.de hd.fd hpv
      have hred : s.memoryRedirect = false := by simp [memoryRedirect, hd.mr]
      simp [nextLine, nextFetch, hve, hleaf, hm, hpr, hac, hred, ht, hi, (hf.walk ha hk).1]
    | false =>
      cases hcomp : s.fetchTranslateComplete with
      | true =>
        have hready := fetchTranslateComplete_spec hcomp
        obtain ⟨hpv, _, hfd, hde, hxm, _⟩ := fetchTranslateReady_spec hready
        obtain ⟨hm, hpr, hac⟩ := fetch_still (i := i) hde hfd hpv
        have hred := redirect_of_ready halone hready
        simp [nextLine, nextFetch, hve, hleaf, hcomp, hm, hpr, hac, hred, ht, hi, hf.translate hv hxm]
      | false => exact line_kept hve hleaf hcomp hentry (fun _ _ hpv => hf.line hv hpv) hp

/-- Without an operation in the memory stage the translated address is the fetch PC. -/
lemma translate_next (htranslate : s.vector.active = false → s.xm.valid = false →
      s.fetch.translateVirtualAddr = s.fetch.pc) (hclear : s.clearPipeline i = false) (hentry : s.entryStart i = false)
    (hv : s.vector.active = false ∨ s.vectorEnters i = true) (hx : (s.nextXm i).valid = false) :
    (s.nextFetch i).translateVirtualAddr = (s.nextFetch i).pc := by
  obtain ⟨ht, hi⟩ := entry_false hentry
  cases hve : s.vectorEnters i with
  | true => simp [nextFetch, hve, hentry]
  | false =>
    have hv : s.vector.active = false := hv.resolve_right (by simp [hve])
    simp only [nextFetch, hve, hentry, ht, hi, Bool.or_false, Bool.false_eq_true, if_false]
    cases s.executeMispredict with
    | true => rfl
    | false =>
      cases hred : s.memoryRedirect with
      | true => rfl
      | false =>
        cases s.predictRedirectActive with
        | true => rfl
        | false =>
          cases s.fetchAccept i with
          | true => rfl
          | false =>
            cases hm : s.memoryToRetire i with
            | true =>
              have hch : s.memoryChainContinue i = false := by
                apply Bool.eq_false_of_not_eq_true
                intro hch
                exact Bool.false_ne_true ((memoryChainContinue_exclusive hch).2.2.1.symm.trans hm)
              simp [hch]
            | false =>
              have hxv : s.xm.valid = false := by
                apply Bool.eq_false_of_not_eq_true
                intro hxv
                exact Bool.false_ne_true (hx.symm.trans (nextXm_stays hxv hclear hm hred))
              have hem : s.executeToMemory = false := by
                apply Bool.eq_false_of_not_eq_true
                intro hem
                exact Bool.false_ne_true (hx.symm.trans (nextXm_started hem hclear))
              have hch : s.memoryChainContinue i = false := by simp [memoryChainContinue, hxv]
              have herr : s.memoryError i = false := by simp [memoryError, hxv]
              simpa [hch, herr, hem] using htranslate hv hxv

lemma vectorEnters_of_inactive (hv : s.vector.active = false) : s.vectorEnters i = false := by
  simp [vectorEnters, vectorResponseValid, hv]

lemma architectural_pc (hr : s.resetPending = false) (hv : s.vectorEnters i = false) :
    (s.architecturalStep i a).pc = (s.effect i).elim a.pc fun e => e.nextPc := by
  rw [architecturalStep, hr, hv]
  cases s.effect i <;> rfl

lemma executeLeaves_of_empty (hd : s.de.valid = false) : s.executeLeaves = false := by
  apply Bool.eq_false_of_not_eq_true
  intro h
  exact Bool.false_ne_true (hd.symm.trans (executeLeaves_spec h).1)

lemma pc_kept (hr : s.resetPending = false) (hv : s.vector.active = false) (hl : s.executeLeaves = false)
    (hm : s.memoryToRetire i = false) : (s.architecturalStep i a).pc = a.pc := by
  rw [architectural_pc hr (vectorEnters_of_inactive hv), effect_none hm hl]
  rfl

lemma fetch_pc_kept (hentry : s.entryStart i = false) (hv : s.vector.active = false)
    (hm : s.executeMispredict = false) (hred : s.memoryRedirect = false) (hpr : s.predictRedirectActive = false)
    (hac : s.fetchAccept i = false) : (s.nextFetch i).pc = s.fetch.pc := by
  obtain ⟨ht, hi⟩ := entry_false hentry
  simp [nextFetch, vectorEnters_of_inactive hv, ht, hi, hm, hred, hpr, hac]

/-- In an empty pipeline that no exception waits for, the fetch PC is the next PC. -/
lemma fetch_pc_of_ready (hf : s.FlowAgree a g) (halone : s.RedirectsAlone) (h : s.fetchTranslateReady = true) :
    s.fetch.translateVirtualAddr = s.fetch.pc ∧ s.fetch.pc = a.pc := by
  obtain ⟨_, _, hfd, hde, hxm, hret, hv, _⟩ := fetchTranslateReady_spec h
  have hp : s.pendingFault.pending = false := by
    simp only [fetchTranslateReady, Bool.and_eq_true, Bool.not_eq_true'] at h
    exact h.2
  have hred := redirect_of_ready halone h
  have hflow : s.Flowing := ⟨hv, by simp [retireTerminal, hret], hp, hred⟩
  refine ⟨hf.translate hv hxm, ?_⟩
  rw [hf.fetch hflow (by simp [steers, hde]), hfd, nextAfter, hde, base, hxm]
  rfl

lemma nextWalk_virtualAddr (hact : s.walk.active = true) : (s.nextWalk i).virtualAddr = s.walk.virtualAddr := by
  have h1 : s.fetchWalkStart = false := by simp [fetchWalkStart, fetchTranslateReady, hact]
  have h2 : s.memoryWalkStart = false := by simp [memoryWalkStart, memoryTranslateReady, hact]
  have h3 : s.vectorWalkStart = false := by simp [vectorWalkStart, vectorTranslateReady, hact]
  simp only [nextWalk, managedWalk, h1, h2, h3, Bool.false_eq_true, if_false]
  exact PageWalk.step_virtualAddr _ _ _

lemma walk_next (hs : s.Occupancy) (hf : s.FlowAgree a g) (halone : s.RedirectsAlone) (hr : s.resetPending = false)
    (ha : (s.nextWalk i).active = true) (hk : (s.nextWalk i).resumeKind = .fetch) :
    (s.nextWalk i).virtualAddr = (s.nextFetch i).pc ∧ (s.nextFetch i).pc = (s.architecturalStep i a).pc := by
  obtain ⟨hab, hcase⟩ := nextWalk_active ha
  have hentry : s.entryStart i = false := by
    simp only [abandonsWalk, Bool.or_eq_false_iff] at hab
    exact hab.1.1.1.1.1
  rcases hcase with ⟨hstart, _⟩ | ⟨_, hk'⟩ | ⟨_, hk'⟩ | ⟨hact, _, hk'⟩
  · have hready : s.fetchTranslateReady = true := by
      simp only [fetchWalkStart, Bool.and_eq_true] at hstart
      exact hstart.1.1.1
    obtain ⟨hpv, _, hfd, hde, hxm, _, hv, _⟩ := fetchTranslateReady_spec hready
    obtain ⟨htva, hpc⟩ := fetch_pc_of_ready hf halone hready
    obtain ⟨hm, hpr, hac⟩ := fetch_still (i := i) hde hfd hpv
    have hred := redirect_of_ready halone hready
    have hva : (s.nextWalk i).virtualAddr = s.fetch.translateVirtualAddr := by
      simp [nextWalk, managedWalk, hstart, PageWalk.start]
    rw [hva, htva, fetch_pc_kept hentry hv hm hred hpr hac, pc_kept hr hv (executeLeaves_of_empty hde) (by simp [memoryToRetire, hxm])]
    exact ⟨rfl, hpc⟩
  · rw [hk'] at hk
    cases hk
  · rw [hk'] at hk
    cases hk
  · rw [hk'] at hk
    obtain ⟨hd, hv, hpv⟩ := hs.fetchWalk hact hk
    obtain ⟨hm, hpr, hac⟩ := fetch_still (i := i) hd.de hd.fd hpv
    have hred : s.memoryRedirect = false := by simp [memoryRedirect, hd.mr]
    rw [nextWalk_virtualAddr hact, fetch_pc_kept hentry hv hm hred hpr hac, pc_kept hr hv (executeLeaves_of_empty hd.de) (by simp [memoryToRetire, hd.xm])]
    exact hf.walk hact hk

/-- A fault is recorded with the next PC, in a cycle in which nothing completes. -/
lemma fault_next (hs : s.Occupancy) (hf : s.FlowAgree a g) (halone : s.RedirectsAlone)
    (h : s.trapRequestNext.pending = true) :
    s.trapRequestNext.pc = a.pc ∧ s.vector.active = false ∧ s.executeLeaves = false ∧ s.memoryToRetire i = false := by
  simp only [trapRequestNext, Bool.or_eq_true] at h
  simp only [trapRequestNext]
  cases ht : s.retireTrap with
  | true =>
    simp only [retireTrap, Bool.and_eq_true] at ht
    have hd : s.Drained := hs.terminal (by simp [retireTerminal, ht.1, ht.2])
    have hv : s.vector.active = false := by
      apply Bool.eq_false_of_not_eq_true
      intro hv
      exact Bool.false_ne_true ((hs.entering hv).2.1.symm.trans ht.1)
    exact ⟨hf.trapPc ht.1 ht.2, hv, executeLeaves_of_empty hd.de, by simp [memoryToRetire, hd.xm]⟩
  | false =>
    cases hff : s.fetchFaultRaised with
    | true =>
      have hready : s.fetchTranslateReady = true := by
        simp only [fetchFaultRaised, Bool.and_eq_true] at hff
        exact hff.1
      obtain ⟨_, _, _, hde, hxm, _, hv, _⟩ := fetchTranslateReady_spec hready
      obtain ⟨htva, hpc⟩ := fetch_pc_of_ready hf halone hready
      exact ⟨htva.trans hpc, hv, executeLeaves_of_empty hde, by simp [memoryToRetire, hxm]⟩
    | false =>
      have hstage : s.xm.valid = true → s.xm.physValid = false →
          s.vector.active = false ∧ s.executeLeaves = false ∧ s.memoryToRetire i = false := by
        intro hx hp
        refine ⟨?_, executeLeaves_of_memory hx, ?_⟩
        · apply Bool.eq_false_of_not_eq_true
          intro hv
          exact Bool.false_ne_true ((hs.entering hv).1.xm.symm.trans hx)
        · apply Bool.eq_false_of_not_eq_true
          intro hm
          exact Bool.false_ne_true (hp.symm.trans (memoryToRetire_spec hm).2.1)
      cases hmf : s.memoryFaultRaised with
      | true =>
        have hready : s.memoryTranslateReady = true := by
          simp only [memoryFaultRaised, Bool.and_eq_true] at hmf
          exact hmf.1.1
        obtain ⟨hx, hp, _⟩ := memoryTranslateReady_spec hready
        exact ⟨hf.memory hx, hstage hx hp⟩
      | false =>
        have hw : s.walkFaultTrap = true := by simpa [ht, hff, hmf] using h
        simp only [walkFaultTrap, walkFault, PageWalk.fault, Bool.and_eq_true, bne_iff_ne] at hw
        have ha := hs.walking hw.1.1
        cases hk : s.walk.resumeKind with
        | vector => exact absurd hk hw.2
        | memory =>
          obtain ⟨hx, hp⟩ := hs.memoryWalk ha hk
          exact ⟨hf.memory hx, hstage hx hp⟩
        | fetch =>
          obtain ⟨hd, hv, _⟩ := hs.fetchWalk ha hk
          obtain ⟨hva, hpc⟩ := hf.walk ha hk
          exact ⟨hva.trans hpc, hv, executeLeaves_of_empty hd.de, by simp [memoryToRetire, hd.xm]⟩

lemma irqStart_flowing (h : s.irqStart i = true) :
    s.Flowing ∧ s.fd.valid = false ∧ s.de.valid = false ∧ s.xm.valid = false ∧ s.entryEpc = s.fetch.pc := by
  simp only [irqStart, Bool.and_eq_true, Bool.not_eq_true'] at h
  obtain ⟨⟨⟨⟨⟨⟨⟨⟨⟨⟨⟨⟨hp, _⟩, hv⟩, _⟩, _⟩, hfd⟩, hd⟩, hx⟩, hm⟩, hret⟩, _⟩, _⟩, _⟩ := h
  have ht : s.trapStart = false := by simp [trapStart, hp]
  refine ⟨⟨hv, by simp [retireTerminal, hret], hp, by simp [memoryRedirect, hm]⟩, hfd, hd, hx, ?_⟩
  rw [entryEpc, ht, if_neg Bool.false_ne_true]

lemma entryEpc_eq (hf : s.FlowAgree a g) (h : s.entryStart i = true) : s.entryEpc = a.pc := by
  cases ht : s.trapStart with
  | true =>
    have hp : s.pendingFault.pending = true := by
      simp only [trapStart, Bool.and_eq_true] at ht
      exact ht.1.1
    rw [entryEpc, ht]
    exact hf.faultPc hp
  | false =>
    rw [entryStart, ht, Bool.false_or] at h
    obtain ⟨hflow, hfd, hd, hx, hepc⟩ := irqStart_flowing h
    rw [hepc, hf.fetch hflow (by simp [steers, hd]), hfd, nextAfter, hd, base, hx]
    rfl

end Fetch

section Path

lemma memory_nextPc (hm : s.execute.memoryStart = true) : s.execute.memory.nextPc = s.execute.nextPc :=
  (execute_shape s).nextPc.trans ((execute_shape s).memoryQuiet hm).1.symm

/-- An instruction that completes in the execute stage without ending the program goes on where its
outputs say. -/
lemma effect_of_leaves (halone : s.RedirectsAlone) (hl : s.executeLeaves = true) (hem : s.executeToMemory = false)
    (ht : s.executeToRetire = true → (s.execute.trap || s.execute.halt || s.execute.lockup) = false) :
    ∃ e, s.effect i = some e ∧ e.nextPc = s.execute.nextPc := by
  have hm : s.memoryToRetire i = false := by simp [memoryToRetire, (executeLeaves_spec hl).2]
  simp only [executeLeaves, hem, Bool.false_or, Bool.or_eq_true] at hl
  rcases hl with (hb | hbl) | hret
  · refine ⟨⟨.none, none, s.execute.memory.nextPc⟩, by simp [effect, hm, hb], ?_⟩
    exact memory_nextPc (executeToStorebuf_spec hb).2.1
  · have hspec := executeToStorebufLoad_spec hbl
    have hb : s.executeToStorebuf = false := by
      apply Bool.eq_false_of_not_eq_true
      intro hb
      exact Bool.false_ne_true (hspec.2.2.1.symm.trans (executeToStorebuf_spec hb).2.2.1)
    refine ⟨_, by rw [effect, hm, hb, hbl]; rfl, ?_⟩
    change (if s.execute.memory.regIndex = 15 then s.storebufLoadValue else s.execute.memory.nextPc) = _
    rw [← memory_nextPc hspec.2.1]
    split
    · next h15 => exact halone.1 hbl h15
    · rfl
  · exact ⟨_, effect_of_retire hret (ht hret), rfl⟩

lemma base_next (halone : s.RedirectsAlone) (hr : s.resetPending = false)
    (hv : s.vector.active = false) (hclear : s.clearPipeline i = false) (hred : s.memoryRedirect = false)
    (ht : s.executeToRetire = true → (s.execute.trap || s.execute.halt || s.execute.lockup) = false)
    (hload : s.memoryToRetire i = true → (s.memoryResult i).nextPc = s.xm.op.nextPc) :
    (s.step i).base (s.architecturalStep i a) = if s.executeLeaves then s.execute.nextPc else s.base a := by
  have hve := vectorEnters_of_inactive (i := i) hv
  have hxm : (s.step i).xm = s.nextXm i := by rw [step_eq i hr]
  rw [base, hxm]
  cases hl : s.executeLeaves with
  | true =>
    have hm : s.memoryToRetire i = false := by simp [memoryToRetire, (executeLeaves_spec hl).2]
    cases hem : s.executeToMemory with
    | true =>
      have hx := nextXm_started hem hclear
      have hop : (s.nextXm i).op = s.execute.memory := by
        obtain ⟨_, _, _, ⟨_, hxv, _⟩ | ⟨_, _, hmx⟩ | ⟨_, hno, _⟩⟩ := nextXm_cases hx
        · exact absurd hxv (by simp [(executeLeaves_spec hl).2])
        · change (s.managedXm i).op = _
          rw [hmx]
          rfl
        · exact absurd hem (by simp [hno])
      rw [hx, hop]
      exact memory_nextPc (executeToMemory_spec hem).2.1
    | false =>
      have hx : (s.nextXm i).valid = false := by
        apply Bool.eq_false_of_not_eq_true
        intro hx
        rcases (nextXm_valid hx).2.2.2 with h | ⟨h, _⟩
        · exact Bool.false_ne_true (hem.symm.trans h)
        · exact Bool.false_ne_true ((executeLeaves_spec hl).2.symm.trans h)
      obtain ⟨e, he, hpc⟩ := effect_of_leaves (i := i) halone hl hem ht
      rw [hx, architectural_pc hr hve, he]
      exact hpc
  | false =>
    cases hm : s.memoryToRetire i with
    | true =>
      have hx : (s.nextXm i).valid = false := by
        apply Bool.eq_false_of_not_eq_true
        intro hx
        exact Bool.false_ne_true ((nextXm_valid hx).2.1.symm.trans hm)
      rw [hx, architectural_pc hr hve, effect_of_memory hm, base, (memoryToRetire_spec hm).1]
      exact hload hm
    | false =>
      rw [pc_kept hr hv hl hm]
      cases hxv : s.xm.valid with
      | false =>
        have hx : (s.nextXm i).valid = false := by
          apply Bool.eq_false_of_not_eq_true
          intro hx
          rcases (nextXm_valid hx).2.2.2 with h | ⟨h, _⟩
          · exact Bool.false_ne_true ((executeLeaves_eq_false hl).1.symm.trans h)
          · exact Bool.false_ne_true (hxv.symm.trans h)
        rw [hx, base, hxv]
        rfl
      | true =>
        have hx := nextXm_stays hxv hclear hm hred
        have hop : (s.nextXm i).op.nextPc = s.xm.op.nextPc := by
          change (s.managedXm i).op.nextPc = _
          obtain ⟨_, _, _, ⟨_, _, hmx⟩ | ⟨_, hem, _⟩ | ⟨_, _, _, hmx⟩⟩ := nextXm_cases hx
          · rw [hmx]
            rfl
          · exact absurd hem (by simp [(executeLeaves_eq_false hl).1])
          · rw [hmx]
        rw [hx, hop, base, hxv]
        rfl

/-- What the next cycle's freedom from redirects and exceptions says about this one. -/
lemma flowing_back (hr : s.resetPending = false) (hv : s.vector.active = false) (hclear : s.clearPipeline i = false)
    (hflow : (s.step i).Flowing) :
    (s.executeToRetire = true → (s.execute.trap || s.execute.halt || s.execute.lockup) = false) ∧
      (s.memoryToRetire i = true → (s.memoryResult i).nextPc = s.xm.op.nextPc) := by
  have hve := vectorEnters_of_inactive (i := i) hv
  constructor
  · intro hret
    have hspec := executeToRetire_spec hret
    have hb : s.executeToStorebuf = false := by simp [executeToStorebuf, hspec.2.1]
    have hbl : s.executeToStorebufLoad = false := by simp [executeToStorebufLoad, hspec.2.1]
    have ht := hflow.terminal
    rw [step_eq i hr] at ht
    simpa [retireTerminal, nextRetire, hve, hb, hbl, hret, hclear, hspec.1] using ht
  · intro hm
    have hred := hflow.redirect
    rw [step_eq i hr] at hred
    simpa [memoryRedirect, nextMr, hm, hclear] using hred

lemma nextPc_of_not_steers (hd : s.de.valid = true) (hst : s.steers = false) :
    s.execute.nextPc = s.de.predictedNextPc := by
  simp only [steers, hd, Bool.true_and, ExecuteOutputs.steers, Bool.or_eq_false_iff, bne_eq_false_iff_eq] at hst
  exact hst.2

lemma predicted_of_noRedirect (hpost : s.fd.postIncrementPc = s.fd.pc + 2) (hadv : s.decodeAdvance = true)
    (hpr : s.predictRedirectActive = false) : s.decodeInputs.predictedNextPc = s.fd.postIncrementPc := by
  have hfd := (decodeAdvance_spec hadv).1
  have h : s.decodeInputs.predictRedirect = false := by
    simpa [predictRedirectActive, hfd, hadv] using hpr
  simp only [DecodeInputs.predictRedirect, Bool.and_eq_false_iff, bne_eq_false_iff_eq] at h
  rcases h with h | h
  · simp only [Predictor.isBranch, Bool.or_eq_false_iff] at h
    rw [DecodeInputs.predictedNextPc, Predictor.predictedNextPc, h.2, h.1, hpost]
    cases s.decodeInputs.predictor.policy <;> rfl
  · exact h

/-- A cycle that keeps to the predicted path. -/
structure Keeps (s : Core c) (i : CoreInputs c) : Prop where
  clear : s.clearPipeline i = false
  entry : s.entryStart i = false
  flow : s.Flowing
  next : (s.step i).Flowing

/-- An instruction that still steers the fetch in the next cycle waits; one that does not has left
and the fetch has followed it. -/
lemma steered_leaves (hr : s.resetPending = false) (hk : s.Keeps i)
    (hctl : s.retire.valid = true → s.retire.cpuControlWrite = true → s.xm.valid = false ∧ s.mr.valid = false)
    (hst : s.steers = true) (hst' : (s.step i).steers = false) :
    s.executeLeaves = true ∧ (s.execute.trap || s.execute.halt || s.execute.lockup) = false ∧
      (s.step i).fd.valid = false ∧ (s.step i).de.valid = false ∧ (s.step i).fetch.pc = s.execute.nextPc := by
  have hflush : s.executeFlushYounger = true := (executeFlushYounger_eq hk.flow.redirect).trans hst
  have hadv : s.decodeAdvance = false := by simp [decodeAdvance, hflush]
  have hd : s.de.valid = true := by
    simp only [steers, Bool.and_eq_true] at hst
    exact hst.1
  have hve := vectorEnters_of_inactive (i := i) hk.flow.vector
  have hl : s.executeLeaves = true := by
    apply Bool.eq_true_of_not_eq_false
    intro hl
    have hn : (s.nextDe i).valid = true := by simp [nextDe, hadv, hk.clear, hl, hk.flow.redirect, hd]
    exact Bool.false_ne_true (hst'.symm.trans (steers_step hr hn hadv hl hk.entry hve hctl hst))
  have ht : (s.execute.trap || s.execute.halt || s.execute.lockup) = false := by
    cases hm : s.execute.memoryStart with
    | true => exact ((execute_shape s).memoryQuiet hm).2.1
    | false =>
      apply (flowing_back hr hk.flow.vector hk.clear hk.next).1
      simpa [executeLeaves, executeToMemory, executeToStorebuf, executeToStorebufLoad, hm] using hl
  have hmis := executeMispredict_of_steers hk.flow.redirect hst ht
  rw [step_eq i hr]
  exact ⟨hl, ht, by simp [nextFd, hflush], by simp [nextDe, hadv, hl], by simp [nextFetch, hve, hmis]⟩

/-- Without an entry, a misprediction or a redirect the fetch follows decode. -/
lemma fetchPc_next (hr : s.resetPending = false) (hentry : s.entryStart i = false) (hv : s.vector.active = false)
    (hmis : s.executeMispredict = false) (hred : s.memoryRedirect = false) : (s.step i).fetch.pc =
      if s.predictRedirectActive then s.decodeInputs.predictedNextPc
      else if s.fetchAccept i then s.nextFetchPc
      else s.fetch.pc := by
  obtain ⟨ht, hi⟩ := entry_false hentry
  rw [step_eq i hr]
  simp [nextFetch, vectorEnters_of_inactive hv, hmis, ht, hi, hred]

variable (hr : s.resetPending = false) (halone : s.RedirectsAlone) (hk : s.Keeps i)

include hr halone hk

lemma base_kept : (s.step i).base (s.architecturalStep i a) = if s.executeLeaves then s.execute.nextPc else s.base a := by
  obtain ⟨ht, hload⟩ := flowing_back hr hk.flow.vector hk.clear hk.next
  exact base_next halone hr hk.flow.vector hk.clear hk.flow.redirect ht hload

lemma nextAfter_next (hst : s.steers = false) :
    (s.step i).nextAfter (s.architecturalStep i a) =
      if s.decodeAdvance then s.decodeInputs.predictedNextPc else s.nextAfter a := by
  have hbase := base_kept (a := a) hr halone hk
  have hde : (s.step i).de = s.nextDe i := by rw [step_eq i hr]
  rw [nextAfter, hde]
  cases hadv : s.decodeAdvance with
  | true => simp [nextDe, hadv, hk.clear]
  | false =>
    cases hd : s.de.valid with
    | false =>
      have hv : (s.nextDe i).valid = false := by simp [nextDe, hadv, hd]
      rw [hv, hbase, executeLeaves_of_empty hd, nextAfter, hd]
      rfl
    | true =>
      cases hl : s.executeLeaves with
      | false =>
        have hn : s.nextDe i = s.de := by simp [nextDe, hadv, hk.clear, hl, hk.flow.redirect]
        rw [hn, nextAfter, hd]
        rfl
      | true =>
        have hv : (s.nextDe i).valid = false := by simp [nextDe, hadv, hl]
        rw [hv, hbase, hl, nextAfter, hd]
        exact nextPc_of_not_steers hd hst

lemma execute_next (hf : s.FlowAgree a g) (hde : (s.step i).de.valid = true) :
    (s.step i).de.pc = (s.step i).base (s.architecturalStep i a) ∧ (s.sourceStep i g).de = (s.step i).de.pc := by
  have hbase := base_kept (a := a) hr halone hk
  have hsrc : (s.sourceStep i g).de = if s.decodeAdvance then g.fd else g.de := by rw [sourceStep, hr]; rfl
  have hstep : (s.step i).de = s.nextDe i := by rw [step_eq i hr]
  rw [hstep] at hde ⊢
  rw [hbase, hsrc]
  obtain ⟨_, hadv | ⟨hadv, hd, hl, _⟩⟩ := nextDe_valid hde
  · obtain ⟨hfd, hslot, _, hflush, _⟩ := decodeAdvance_spec hadv
    rw [executeFlushYounger_eq hk.flow.redirect] at hflush
    obtain ⟨hpc, hg, _⟩ := hf.decode hk.flow hflush hfd
    have hpc' : (s.nextDe i).pc = s.fd.pc := by simp [nextDe, hadv]
    rw [hpc', hadv]
    refine ⟨?_, hg⟩
    rw [hpc, nextAfter]
    cases hd : s.de.valid with
    | true =>
      rw [hslot.resolve_left (by simp [hd])]
      exact (nextPc_of_not_steers hd hflush).symm
    | false =>
      rw [executeLeaves_of_empty hd]
      rfl
  · obtain ⟨hpc, hg⟩ := hf.execute hk.flow hd
    have hn : s.nextDe i = s.de := by simp [nextDe, hadv, hk.clear, hl, hk.flow.redirect]
    rw [hn, hadv, hl]
    exact ⟨hpc, hg⟩

lemma steered_next (hf : s.FlowAgree a g) (hst : s.steers = true) (hst' : (s.step i).steers = false) :
    (s.step i).fd.valid = false ∧
      (s.step i).fetch.pc = (s.step i).nextAfter (s.architecturalStep i a) := by
  obtain ⟨hl, _, hfd, hde, hpc⟩ := steered_leaves hr hk hf.controlWrite hst hst'
  rw [nextAfter, hde, base_kept hr halone hk, hl, hpc]
  exact ⟨hfd, rfl⟩

/-- The instruction that the decode latch holds after a cycle that steers nothing. -/
lemma decode_next (hf : s.FlowAgree a g) (hst : s.steers = false) (hfd : (s.step i).fd.valid = true) :
    (s.step i).fd.pc = (s.step i).nextAfter (s.architecturalStep i a) ∧
      (s.sourceStep i g).fd = (s.step i).fd.pc ∧ (s.step i).fd.postIncrementPc = (s.step i).fd.pc + 2 := by
  have hflush : s.executeFlushYounger = false := (executeFlushYounger_eq hk.flow.redirect).trans hst
  have hsrc : (s.sourceStep i g).fd = if s.fetchAccept i then g.line else g.fd := by rw [sourceStep, hr]; rfl
  have hstep : (s.step i).fd = s.nextFd i := by rw [step_eq i hr]
  have hfetch := hf.fetch hk.flow hst
  rw [nextAfter_next hr halone hk hst, hsrc]
  rw [hstep] at hfd ⊢
  obtain ⟨_, _, hac | ⟨hac, hfdv, hadv, _⟩⟩ := nextFd_valid hfd
  · obtain ⟨hpv, _, _, _, _, hpr, hslot⟩ := fetchAccept_spec hac
    have hn : (s.nextFd i).pc = s.fetch.pc ∧ (s.nextFd i).postIncrementPc = s.fetch.pc + 2 := by
      simp [nextFd, hflush, hac, nextFetchPc]
    rw [hac, hn.1, hn.2]
    refine ⟨?_, hf.line hk.flow.vector hpv, rfl⟩
    cases hfdv : s.fd.valid with
    | false =>
      have hadv : s.decodeAdvance = false := by simp [decodeAdvance, hfdv]
      rw [hfetch, hfdv, hadv]
      rfl
    | true =>
      have hadv := hslot.resolve_left (by simp [hfdv])
      obtain ⟨_, _, hpost⟩ := hf.decode hk.flow hst hfdv
      rw [hfetch, hfdv, hadv]
      exact (predicted_of_noRedirect hpost hadv hpr).symm
  · have hn : (s.nextFd i).pc = s.fd.pc ∧ (s.nextFd i).postIncrementPc = s.fd.postIncrementPc := by
      simp [nextFd, hflush, hac]
    obtain ⟨hpc, hg, hpost⟩ := hf.decode hk.flow hst hfdv
    rw [hac, hn.1, hn.2, hadv]
    exact ⟨hpc, hg, hpost⟩

lemma fetch_next (hf : s.FlowAgree a g) (hst : s.steers = false) :
    (s.step i).fetch.pc = if (s.step i).fd.valid then (s.step i).fd.postIncrementPc
      else (s.step i).nextAfter (s.architecturalStep i a) := by
  have hflush : s.executeFlushYounger = false := (executeFlushYounger_eq hk.flow.redirect).trans hst
  have hmis : s.executeMispredict = false := by
    simp only [executeFlushYounger, Bool.and_eq_false_iff, Bool.or_eq_false_iff] at hflush
    rcases hflush with h | h
    · simp [executeMispredict, h]
    · exact h.1.1.1
  have hfetch := hf.fetch hk.flow hst
  have hfd : (s.step i).fd = s.nextFd i := by rw [step_eq i hr]
  rw [nextAfter_next hr halone hk hst, fetchPc_next hr hk.entry hk.flow.vector hmis hk.flow.redirect, hfd]
  cases hpr : s.predictRedirectActive with
  | true =>
    have hadv := (predictRedirect_spec hpr).2.2
    have hac : s.fetchAccept i = false := by simp [fetchAccept, hpr]
    have hn : (s.nextFd i).valid = false := by simp [nextFd, hflush, hac, hadv]
    rw [hn, hadv]
    rfl
  | false =>
    cases hac : s.fetchAccept i with
    | true =>
      have hn : (s.nextFd i).valid = true ∧ (s.nextFd i).postIncrementPc = s.nextFetchPc := by
        simp [nextFd, hflush, hac, hk.clear]
      rw [hn.1, hn.2]
      rfl
    | false =>
      simp only [Bool.false_eq_true, if_false]
      have hn : (s.nextFd i).valid = (s.fd.valid && !s.decodeAdvance) ∧
          (s.nextFd i).postIncrementPc = s.fd.postIncrementPc := by
        simp [nextFd, hflush, hac, hk.clear, hk.flow.redirect]
      rw [hn.1, hn.2, hfetch]
      cases hfdv : s.fd.valid with
      | false =>
        have hadv : s.decodeAdvance = false := by simp [decodeAdvance, hfdv]
        rw [hadv]
        rfl
      | true =>
        cases hadv : s.decodeAdvance with
        | false => rfl
        | true =>
          obtain ⟨_, _, hpost⟩ := hf.decode hk.flow hst hfdv
          exact (predicted_of_noRedirect hpost hadv hpr).symm

end Path

section Step

variable (hs : s.Occupancy) (hr : s.resetPending = false)

lemma path_restarts (hd : (s.step i).de.valid = false) (hfd : (s.step i).fd.valid = false)
    (hx : (s.step i).xm.valid = false) {target : Word} (hpc : (s.step i).fetch.pc = target) {a' : Arch}
    (ha : a'.pc = target) :
    (s.step i).fetch.pc = if (s.step i).fd.valid then (s.step i).fd.postIncrementPc else (s.step i).nextAfter a' := by
  rw [hpc, hfd, nextAfter, hd, base, hx]
  exact ha.symm

include hs hr

omit hs in
lemma redirect_empties (hred : s.memoryRedirect = true) :
    (s.step i).de.valid = false ∧ (s.step i).fd.valid = false := by
  have hadv : s.decodeAdvance = false := by simp [decodeAdvance, hred]
  have hac : s.fetchAccept i = false := by simp [fetchAccept, hred]
  rw [step_eq i hr]
  exact ⟨by simp [nextDe, hadv, hred], by simp [nextFd, hac, hred]⟩

omit hs in
lemma redirect_pc (hred : s.memoryRedirect = true) (hentry : s.entryStart i = false) (hv : s.vector.active = false) :
    (s.step i).fetch.pc = s.mr.nextPc := by
  obtain ⟨ht, hi⟩ := entry_false hentry
  have hmis : s.executeMispredict = false := by simp [executeMispredict, hred]
  rw [step_eq i hr]
  simp [nextFetch, vectorEnters_of_inactive hv, ht, hi, hmis, hred]

lemma redirect_next (hf : s.FlowAgree a g) (hred : s.memoryRedirect = true) (hentry : s.entryStart i = false)
    (hv : s.vector.active = false) :
    (s.step i).de.valid = false ∧ (s.step i).fd.valid = false ∧ (s.step i).xm.valid = false ∧
      (s.step i).fetch.pc = a.pc ∧ (s.architecturalStep i a).pc = a.pc := by
  obtain ⟨hde, hfd⟩ := redirect_empties (i := i) hr hred
  have hl : s.executeLeaves = false := by
    simp [executeLeaves, executeToMemory, executeToStorebuf, executeToStorebufLoad, executeToRetire, hred]
  have hx : (s.step i).xm.valid = false := by
    rw [step_eq i hr]
    apply Bool.eq_false_of_not_eq_true
    intro hx
    rcases (nextXm_valid hx).2.2.2 with h | ⟨_, h⟩
    · exact Bool.false_ne_true ((executeLeaves_eq_false hl).1.symm.trans h)
    · exact Bool.false_ne_true (h.symm.trans hred)
  have hm : s.memoryToRetire i = false := by
    apply Bool.eq_false_of_not_eq_true
    intro hm
    have hmr := (memoryRedirect_spec hred).1
    exact Bool.false_ne_true ((hs.resultAlone hmr).symm.trans (memoryToRetire_spec hm).1)
  exact ⟨hde, hfd, hx, (redirect_pc hr hred hentry hv).trans (hf.redirect hred), pc_kept hr hv hl hm⟩

omit hs hr in
/-- An instruction that retires with an exception or a control write comes from the execute stage. -/
lemma retire_of_execute (hve : s.vectorEnters i = false) (hv : (s.nextRetire i).valid = true)
    (h : ((s.nextRetire i).trap || (s.nextRetire i).cpuControlWrite) = true) :
    s.executeToRetire = true ∧ (s.nextRetire i).commitPc = s.de.pc ∧ (s.nextRetire i).trap = s.execute.trap := by
  have hb : s.executeToStorebuf = false := by
    apply Bool.eq_false_of_not_eq_true
    intro hb
    simp [nextRetire, hve, hb, storebufRetire] at h
  have hbl : s.executeToStorebufLoad = false := by
    apply Bool.eq_false_of_not_eq_true
    intro hbl
    simp [nextRetire, hve, hb, hbl, storebufRetire] at h
  cases hret : s.executeToRetire with
  | true => exact ⟨rfl, by simp [nextRetire, hve, hb, hbl, hret], by simp [nextRetire, hve, hb, hbl, hret]⟩
  | false =>
    cases hm : s.mr.valid with
    | true => simp [nextRetire, hve, hb, hbl, hret, hm] at h
    | false => simp [nextRetire, hve, hb, hbl, hret, hm, RetireReg.clear] at hv

omit hs in
lemma controlWrite_next (hve : s.vectorEnters i = false) (hrv : (s.step i).retire.valid = true)
    (hc : (s.step i).retire.cpuControlWrite = true) : (s.step i).xm.valid = false ∧ (s.step i).mr.valid = false := by
  rw [step_eq i hr] at hrv hc ⊢
  have hret := (retire_of_execute hve hrv (Bool.or_eq_true_iff.2 (.inr hc))).1
  exact ⟨nextXm_of_retire hret, nextMr_of_empty (executeToRetire_spec hret).2.2.1⟩

lemma FlowAgree.entry (hf : s.FlowAgree a g) (hlive : (s.step i).stopped = false) (he : s.entryStart i = true) :
    (s.step i).FlowAgree (s.architecturalStep i a) (s.sourceStep i g) := by
  obtain ⟨hl, hm, _, _, hv⟩ := entryStart_quiet hs he
  have hclear : s.clearPipeline i = true := by simp [clearPipeline, he]
  obtain ⟨⟨hfd, hde, hxm, hmr⟩, hret⟩ := next_of_clear hclear
  have hvec := entry_next hr hlive he
  have hpc : (s.architecturalStep i a).pc = a.pc := pc_kept hr hv hl hm
  have hnone : ∀ {p : Prop}, false = true → p := fun h => absurd h Bool.false_ne_true
  have hwalk : (s.step i).walk.active = false := by
    rw [step_eq i hr]
    simp [nextWalk, abandonsWalk, he]
  have hact : (s.step i).vector.active = true := by rw [hvec]
  refine ⟨fun h => hnone ((resetPending_step i).symm.trans h), ?_, ?_, ?_, ?_, ?_, ?_, ?_, ?_, ?_, ?_, ?_, ?_⟩
  · intro h
    have h' := (memoryRedirect_spec h).1
    rw [step_eq i hr] at h'
    exact hnone (hmr.symm.trans h')
  · rw [step_eq i hr]
    exact fun h => hnone (hxm.symm.trans h)
  · rw [step_eq i hr]
    exact fun h => hnone (hret.symm.trans h)
  · rw [step_eq i hr]
    exact fun h => hnone (hret.symm.trans h)
  · intro h
    rw [step_eq i hr] at h
    simp only [stepSubmodules, nextPendingFault, he, if_true] at h
    exact hnone h
  · rw [hvec, hpc]
    exact fun _ => entryEpc_eq hf he
  · exact fun h => hnone (h.symm.trans hact)
  · exact fun h => hnone (h.symm.trans hact)
  · exact fun h => hnone (hwalk.symm.trans h)
  · exact fun h => hnone (h.vector.symm.trans hact)
  · exact fun h => hnone (h.vector.symm.trans hact)
  · exact fun h => hnone (h.vector.symm.trans hact)

lemma faultPc_next (hf : s.FlowAgree a g) (halone : s.RedirectsAlone) (he : s.entryStart i = false)
    (h : (s.step i).pendingFault.pending = true) :
    (s.step i).pendingFault.pc = (s.architecturalStep i a).pc := by
  have hp : (s.step i).pendingFault = s.trapRequestNext := by
    rw [step_eq i hr]
    simp [stepSubmodules, nextPendingFault, he]
  rw [hp] at h ⊢
  obtain ⟨hpc, hv, hl, hm⟩ := fault_next (i := i) hs hf halone h
  rw [hpc, pc_kept hr hv hl hm]

omit hs in
lemma vector_next (hlive : (s.step i).stopped = false) (he : s.entryStart i = false) :
    (s.step i).vector.active = (s.vector.active && !s.vectorEnters i) ∧
      (s.step i).vector.epc = s.vector.epc := by
  rw [step_eq i hr]
  simp only [nextVector, vector_goes_on hr hlive, he, Bool.false_eq_true, if_false]
  cases s.vectorEnters i with
  | true => simp
  | false =>
    simp only [Bool.false_eq_true, if_false, Bool.not_false, Bool.and_true]
    cases s.walkLeafSuccess && s.walk.resumeKind == .vector with
    | true => simp
    | false => cases s.vectorTranslateComplete <;> simp

lemma FlowAgree.entering (hf : s.FlowAgree a g) (halone : s.RedirectsAlone) (hlive : (s.step i).stopped = false)
    (he : s.entryStart i = false) (hv : s.vector.active = true) :
    (s.step i).FlowAgree (s.architecturalStep i a) (s.sourceStep i g) := by
  obtain ⟨hd, hret, _⟩ := hs.entering hv
  have hclear := clear_of_noEntry hr hlive he
  obtain ⟨hfd, hde, hxm, hmr⟩ := hd.next (entering_blocked (i := i) hv)
  have hret' : (s.nextRetire i).valid = false := hd.nextRetire
  obtain ⟨hact, hepc⟩ := vector_next hr hlive he
  have hnone : ∀ {p : Prop}, false = true → p := fun h => absurd h Bool.false_ne_true
  have hstep : (s.step i).fd = s.nextFd i ∧ (s.step i).de = s.nextDe i ∧ (s.step i).xm = s.nextXm i ∧
      (s.step i).mr = s.nextMr i ∧ (s.step i).retire = s.nextRetire i ∧ (s.step i).fetch = s.nextFetch i ∧
      (s.step i).walk = s.nextWalk i := by
    rw [step_eq i hr]
    exact ⟨rfl, rfl, rfl, rfl, rfl, rfl, rfl⟩
  obtain ⟨hsfd, hsde, hsxm, hsmr, hsret, hsfetch, hswalk⟩ := hstep
  have hline : (s.sourceStep i g).line = s.nextLine i g := by rw [sourceStep, hr]; rfl
  refine ⟨fun h => hnone ((resetPending_step i).symm.trans h), ?_, ?_, ?_, ?_, faultPc_next hs hr hf halone he, ?_, ?_,
    ?_, ?_, ?_, ?_, ?_⟩
  · intro h
    have h' := (memoryRedirect_spec h).1
    rw [hsmr] at h'
    exact hnone (hmr.symm.trans h')
  · rw [hsxm]
    exact fun h => hnone (hxm.symm.trans h)
  · rw [hsret]
    exact fun h => hnone (hret'.symm.trans h)
  · rw [hsret]
    exact fun h => hnone (hret'.symm.trans h)
  · intro h
    rw [hact, hv, Bool.true_and, Bool.not_eq_true'] at h
    have hm : s.memoryToRetire i = false := by simp [memoryToRetire, hd.xm]
    rw [hepc, architectural_pc hr h, effect_none hm (executeLeaves_of_empty hd.de)]
    exact hf.entryPc hv
  · intro h
    rw [hact, hv, Bool.true_and, Bool.not_eq_false'] at h
    rw [hsfetch, hline]
    exact line_next hs hf halone he (.inr h)
  · intro h
    rw [hact, hv, Bool.true_and, Bool.not_eq_false'] at h
    rw [hsfetch, hsxm]
    exact translate_next hf.translate hclear he (.inr h)
  · rw [hswalk, hsfetch]
    exact walk_next hs hf halone hr
  · rw [hsde]
    exact fun _ h => hnone (hde.symm.trans h)
  · rw [hsfd]
    exact fun _ _ h => hnone (hfd.symm.trans h)
  · intro hflow _
    have h := hflow.vector
    rw [hact, hv, Bool.true_and, Bool.not_eq_false'] at h
    have hpc : (s.step i).fetch.pc = s.vectorHandlerPc i := by
      rw [hsfetch]
      simp [nextFetch, h]
    have ha : (s.architecturalStep i a).pc = s.vectorHandlerPc i := by
      rw [architecturalStep, hr, h]
      rfl
    exact path_restarts (hsde ▸ hde) (hsfd ▸ hfd) (hsxm ▸ hxm) hpc ha

lemma keeps_or_redirect (hlive : (s.step i).stopped = false) (he : s.entryStart i = false)
    (hv : s.vector.active = false) (hflow : (s.step i).Flowing) : s.Keeps i ∨ s.memoryRedirect = true := by
  cases hred : s.memoryRedirect with
  | true => exact .inr rfl
  | false =>
    refine .inl ⟨clear_of_noEntry hr hlive he, he, ⟨hv, ?_, ?_, hred⟩, hflow⟩
    · apply Bool.eq_false_of_not_eq_true
      intro ht
      have hp := hflow.pending
      rw [step_eq i hr] at hp hlive
      simp only [stepSubmodules, nextPendingFault, he, Bool.false_eq_true, if_false, trapRequestNext,
        Bool.or_eq_false_iff] at hp
      simp only [stopped, locksUp, retireHalt, retireLockup, Bool.or_eq_false_iff] at hlive
      simp only [retireTrap] at hp
      simp only [retireTerminal, Bool.and_eq_true, Bool.or_eq_true] at ht
      obtain ⟨hrv, (ht | ht) | ht⟩ := ht <;> simp_all
    · apply Bool.eq_false_of_not_eq_true
      intro hp
      exact Bool.false_ne_true (he.symm.trans (entry_of_pending hs hr hlive hp))

lemma FlowAgree.advance (hf : s.FlowAgree a g) (halone : s.RedirectsAlone) (hlive : (s.step i).stopped = false)
    (he : s.entryStart i = false) (hv : s.vector.active = false) :
    (s.step i).FlowAgree (s.architecturalStep i a) (s.sourceStep i g) := by
  have hclear := clear_of_noEntry hr hlive he
  have hve := vectorEnters_of_inactive (i := i) hv
  obtain ⟨hact, _⟩ := vector_next hr hlive he
  have hnone : ∀ {p : Prop}, false = true → p := fun h => absurd h Bool.false_ne_true
  have hstep : (s.step i).xm = s.nextXm i ∧ (s.step i).mr = s.nextMr i ∧ (s.step i).retire = s.nextRetire i ∧
      (s.step i).fetch = s.nextFetch i ∧ (s.step i).walk = s.nextWalk i := by
    rw [step_eq i hr]
    exact ⟨rfl, rfl, rfl, rfl, rfl⟩
  obtain ⟨hsxm, hsmr, hsret, hsfetch, hswalk⟩ := hstep
  have hline : (s.sourceStep i g).line = s.nextLine i g := by rw [sourceStep, hr]; rfl
  have hpath := keeps_or_redirect (i := i) hs hr hlive he hv
  refine ⟨fun h => hnone ((resetPending_step i).symm.trans h), ?_, ?_, ?_, ?_, faultPc_next hs hr hf halone he, ?_, ?_,
    ?_, ?_, ?_, ?_, ?_⟩
  · intro h
    have hm : s.memoryToRetire i = true := by
      have h' := (memoryRedirect_spec h).1
      rw [hsmr] at h'
      exact (nextMr_valid h').2
    rw [hsmr, architectural_pc hr hve, effect_of_memory hm]
    simp [nextMr, hm]
  · rw [hsxm]
    intro hx
    change (s.managedXm i).faultPc = _
    obtain ⟨_, hm, _, ⟨_, hxv, hmx⟩ | ⟨_, hem, hmx⟩ | ⟨_, _, hxv, hmx⟩⟩ := nextXm_cases hx
    · rw [hmx, pc_kept hr hv (executeLeaves_of_memory hxv) hm]
      exact hf.memory hxv
    · have hspec := executeToMemory_spec hem
      have hl : s.executeLeaves = true := by simp [executeLeaves, hem]
      rw [hmx, architectural_pc hr hve, effect_of_started hem]
      have hpc := (hf.execute (flowing_of_leaves hs hl) hspec.1).1
      rw [base, hspec.2.2.2.2.2.1] at hpc
      exact hpc
    · rw [hmx, pc_kept hr hv (executeLeaves_of_memory hxv) hm]
      exact hf.memory hxv
  · exact controlWrite_next hr hve
  · rw [hsret]
    intro hrv ht
    obtain ⟨hret, hpc', ht'⟩ := retire_of_execute hve hrv (by simp [ht])
    have hl : s.executeLeaves = true := by simp [executeLeaves, hret]
    obtain ⟨hd, hx⟩ := executeLeaves_spec hl
    have hpc := (hf.execute (flowing_of_leaves hs hl) hd).1
    rw [base, hx] at hpc
    rw [ht] at ht'
    have hm : s.memoryToRetire i = false := by simp [memoryToRetire, hx]
    have hspec := executeToRetire_spec hret
    have heff : s.effect i = none := by
      simp [effect, hm, executeToStorebuf, executeToStorebufLoad, hspec.2.1, ← ht']
    rw [hpc', architectural_pc hr hve, heff]
    exact hpc
  · rw [hact, hv]
    exact fun h => hnone h
  · rw [hsfetch, hline]
    exact fun _ => line_next hs hf halone he (.inl hv)
  · rw [hsfetch, hsxm]
    exact fun _ => translate_next hf.translate hclear he (.inl hv)
  · rw [hswalk, hsfetch]
    exact walk_next hs hf halone hr
  · intro hflow hde
    rcases hpath hflow with hk | hred
    · exact execute_next hr halone hk hf hde
    · exact hnone ((redirect_next hs hr hf hred he hv).1.symm.trans hde)
  · intro hflow hst hfd
    rcases hpath hflow with hk | hred
    · cases hst0 : s.steers with
      | true => exact hnone ((steered_next hr halone hk hf hst0 hst).1.symm.trans hfd)
      | false => exact decode_next hr halone hk hf hst0 hfd
    · exact hnone ((redirect_next hs hr hf hred he hv).2.1.symm.trans hfd)
  · intro hflow hst
    rcases hpath hflow with hk | hred
    · cases hst0 : s.steers with
      | true =>
        obtain ⟨hfd, hpc⟩ := steered_next hr halone hk hf hst0 hst
        rw [hpc, hfd]
        rfl
      | false => exact fetch_next hr halone hk hf hst0
    · obtain ⟨hde, hfd, hxm, hpc, ha⟩ := redirect_next hs hr hf hred he hv
      exact path_restarts hde hfd hxm hpc ha

omit hr in
/-- The first cycle leaves the pipeline and the fetch alone; only a fault of the first fetch can be raised. -/
lemma FlowAgree.start (hf : s.FlowAgree a g) (hr : s.resetPending = true) :
    (s.step i).FlowAgree (s.architecturalStep i a) (s.sourceStep i g) := by
  obtain ⟨hd, hret, hv, hw⟩ := hs.starting hr
  have hflow := hf.starting hr
  have halone : s.RedirectsAlone := by simp [RedirectsAlone, executeToStorebufLoad, hd.de, hflow.redirect]
  have hpc : (s.architecturalStep i a).pc = a.pc := by
    rw [architecturalStep, hr]
    rfl
  have hsrc : s.sourceStep i g = g := by
    rw [sourceStep, hr]
    rfl
  have hnone : ∀ {p : Prop}, false = true → p := fun h => absurd h Bool.false_ne_true
  have hstep : (s.step i).fd = s.fd ∧ (s.step i).de = s.de ∧ (s.step i).xm = s.xm ∧ (s.step i).mr = s.mr ∧
      (s.step i).retire = s.retire ∧ (s.step i).fetch = s.fetch ∧ (s.step i).walk = s.walk ∧
      (s.step i).vector = s.vector ∧ (s.step i).pendingFault = s.nextPendingFault i := by
    rw [step_reset_eq i hr]
    exact ⟨rfl, rfl, rfl, rfl, rfl, rfl, rfl, rfl, rfl⟩
  obtain ⟨hsfd, hsde, hsxm, hsmr, hsret, hsfetch, hswalk, hsvec, hspend⟩ := hstep
  have hsteers : s.steers = false := by simp [steers, hd.de]
  have hfetch : s.fetch.pc = a.pc := by
    rw [hf.fetch hflow hsteers, hd.fd, nextAfter, hd.de, base, hd.xm]
    rfl
  rw [hsrc]
  refine ⟨fun h => hnone ((resetPending_step i).symm.trans h), ?_, ?_, ?_, ?_, ?_, ?_, ?_, ?_, ?_, ?_, ?_, ?_⟩
  · intro h
    have h' := (memoryRedirect_spec h).1
    rw [hsmr] at h'
    exact hnone (hd.mr.symm.trans h')
  · rw [hsxm]
    exact fun h => hnone (hd.xm.symm.trans h)
  · rw [hsret]
    exact fun h => hnone (hret.symm.trans h)
  · rw [hsret]
    exact fun h => hnone (hret.symm.trans h)
  · rw [hspend, hpc, nextPendingFault]
    cases he : s.entryStart i with
    | true => exact fun h => hnone h
    | false => exact fun h => (fault_next (i := i) hs hf halone h).1
  · rw [hsvec]
    exact fun h => hnone (hv.symm.trans h)
  · rw [hsvec, hsfetch]
    exact hf.line
  · rw [hsvec, hsxm, hsfetch]
    exact hf.translate
  · rw [hswalk]
    exact fun h => hnone (hw.symm.trans h)
  · rw [hsde]
    exact fun _ h => hnone (hd.de.symm.trans h)
  · rw [hsfd]
    exact fun _ _ h => hnone (hd.fd.symm.trans h)
  · intro _ _
    rw [hsfetch, hsfd, hd.fd, nextAfter, hsde, hd.de, base, hsxm, hd.xm, hpc]
    exact hfetch

end Step

section Runs

lemma flowAgree_reset (c : CoreConfig) :
    (reset c).FlowAgree (architecturalReset c) ⟨c.resetVector, 0, 0⟩ where
  starting _ := ⟨rfl, rfl, rfl, rfl⟩
  redirect h := absurd h Bool.false_ne_true
  memory h := absurd h Bool.false_ne_true
  controlWrite h := absurd h Bool.false_ne_true
  trapPc h := absurd h Bool.false_ne_true
  faultPc h := absurd h Bool.false_ne_true
  entryPc h := absurd h Bool.false_ne_true
  line _ h := absurd h Bool.false_ne_true
  translate _ _ := rfl
  walk h := absurd h Bool.false_ne_true
  execute _ h := absurd h Bool.false_ne_true
  decode _ _ h := absurd h Bool.false_ne_true
  fetch _ _ := rfl

structure FlowInvariant (p : Core c × Arch × Sources) : Prop where
  occupancy : p.1.Occupancy
  agree : p.1.stopped = false → p.1.FlowAgree p.2.1 p.2.2

lemma FlowInvariant.step {p : Core c × Arch × Sources} (h : FlowInvariant p) (halone : p.1.RedirectsAlone) :
    FlowInvariant (traced p i) := by
  refine ⟨h.occupancy.step i, fun hlive => ?_⟩
  have hf := h.agree (stopped_step hlive)
  cases hr : p.1.resetPending with
  | true => exact hf.start h.occupancy hr
  | false =>
    cases he : p.1.entryStart i with
    | true => exact hf.entry h.occupancy hr hlive he
    | false =>
      cases hv : p.1.vector.active with
      | true => exact hf.entering h.occupancy hr halone hlive he hv
      | false => exact hf.advance h.occupancy hr halone hlive he hv

lemma flowInvariant_run {is : List (CoreInputs c)}
    (h : Along traced (fun p _ => p.1.RedirectsAlone) (tracedReset c) is) :
    FlowInvariant (run traced (tracedReset c) is) :=
  h.invariant _ (fun _ _ hp halone => hp.step halone) ⟨occupancy_reset c, fun _ => flowAgree_reset c⟩

lemma executes_next {p : Core c × Arch × Sources} (h : FlowInvariant p) (hl : p.1.executeLeaves = true) :
    p.1.de.pc = p.2.1.pc ∧ p.2.2.de = p.2.1.pc := by
  obtain ⟨hd, hx⟩ := executeLeaves_spec hl
  have hlive : p.1.stopped = false := by
    apply Bool.eq_false_of_not_eq_true
    intro hst
    exact Bool.false_ne_true ((h.occupancy.stopped hst).1.de.symm.trans hd)
  obtain ⟨hpc, hg⟩ := (h.agree hlive).execute (flowing_of_leaves h.occupancy hl) hd
  rw [base, hx] at hpc
  exact ⟨hpc, hg.trans hpc⟩

end Runs

end Core

end Little64.Hdl

import Little64.Hdl.ControlFlow

/-! Branch prediction: whatever was predicted, the next instruction to execute is the one that the last one led to. -/

namespace Little64.Hdl

open Runs

section Target

variable {p : Predictor} {x : ExecuteInputs} (hv : x.valid = true) (hi : x.instruction = p.instruction)
  (hpc : x.postIncrementPc = p.postIncrementPc)

include hv hi hpc

lemma ujmpTarget_eq (hj : p.isUjmp = true) : x.outputs.nextPc = p.ujmpTarget := by
  have h7 : instructionTop3 x.instruction = 7 := by
    rw [hi]
    exact beq_iff_eq.1 hj
  have h3 : instructionTop2 x.instruction = 3 := by
    have hbits : instructionTop2 x.instruction = (instructionTop3 x.instruction).extractLsb' 1 2 := by
      rw [instructionTop2, instructionTop3]
      ext k hk
      have hk' : 1 + k < 3 := by omega
      simp [BitVec.getElem_extractLsb', hk', ← Nat.add_assoc]
    rw [hbits, h7]
    rfl
  rw [ExecuteInputs.outputs_of_jump hv h3 h7, hpc, hi]
  rfl

lemma condBranchTarget_eq (hb : p.isPcRelCondBranch = true) (ht : x.lsJumpTaken = true) :
    x.outputs.nextPc = p.condBranchTarget := by
  simp only [Predictor.isPcRelCondBranch, Bool.and_eq_true, beq_iff_eq] at hb
  have hout : x.executeLsPcRel.nextPc = x.lsJumpTarget := by
    rw [ExecuteInputs.lsJumpTaken] at ht
    rw [ExecuteInputs.executeLsPcRel]
    cases ho : x.lsOpcode with
    | jumpZ | jumpC | jumpS | jumpGT | jumpLT => simp [ExecuteInputs.lsJumpTaken, ht]
    | _ =>
      rw [ho] at ht
      exact absurd ht Bool.false_ne_true
  rw [ExecuteInputs.outputs_of_lsPcRel hv (hi ▸ hb.1), hout, ExecuteInputs.lsJumpTarget, hpc, hi]
  rfl

end Target

/-- Where the core is to go on, and whether an instruction that left the execute slot said so, rather than
a load that redirects the fetch or an entry. -/
structure Expectation where
  next : Option Word
  executed : Bool
  deriving DecidableEq, Repr

namespace Core

variable {c : CoreConfig} (s : Core c) (i : CoreInputs c) (e : Expectation) (g : Sources)

/-- An instruction that traps, halts or locks up leads nowhere. -/
def nextExpected : Expectation :=
  if s.resetPending then e
  else if s.entryStart i then ⟨none, false⟩
  else if s.vectorEnters i then ⟨some (s.vectorHandlerPc i), false⟩
  else if s.memoryRedirect then ⟨some s.mr.nextPc, false⟩
  else if s.executeLeaves then
    ⟨if s.execute.trap || s.execute.halt || s.execute.lockup then none else some s.execute.nextPc, true⟩
  else e

/-- The core with the next PC that its execute stage computed and the sources of its instructions beside it. -/
def followed : Core c × Expectation × Sources → CoreInputs c → Core c × Expectation × Sources :=
  fun p i => (p.1.step i, p.1.nextExpected i p.2.1, p.1.sourceStep i p.2.2)

def followedReset (c : CoreConfig) : Core c × Expectation × Sources :=
  (reset c, ⟨some c.resetVector, false⟩, ⟨c.resetVector, 0, 0⟩)

/-- The next PC that was predicted behind the execute slot. -/
def path : Option Word := if s.de.valid then some s.de.predictedNextPc else e.next

/-- The predictor on the instruction in the execute slot. -/
def dePredictor : Predictor := ⟨c.predictor, s.de.instruction, s.de.pc⟩

structure PathAgree : Prop where
  starting : s.resetPending = true → s.Flowing
  controlWrite : s.retire.valid = true → s.retire.cpuControlWrite = true → s.xm.valid = false ∧ s.mr.valid = false
  latched : s.fd.valid = true → s.fd.postIncrementPc = s.fd.pc + 2
  predicted : s.de.valid = true →
    s.de.postIncrementPc = s.de.pc + 2 ∧ s.de.predictedNextPc = s.dePredictor.predictedNextPc
  line : s.vector.active = false → s.fetch.physValid = true → (s.fd.valid || s.de.valid || e.executed) = true →
    g.line = s.fetch.pc
  translate : s.vector.active = false → s.xm.valid = false → s.fetch.translateVirtualAddr = s.fetch.pc
  walk : s.walk.active = true → s.walk.resumeKind = .fetch → e.executed = true → s.walk.virtualAddr = s.fetch.pc
  execute : s.de.valid = true → e.next = some s.de.pc ∧ (e.executed = true → g.de = s.de.pc)
  decode : s.Flowing → s.steers = false → s.fd.valid = true →
    s.path e = some s.fd.pc ∧ ((s.de.valid || e.executed) = true → g.fd = s.fd.pc)
  fetch : s.Flowing → s.steers = false →
    (s.fd.valid = true → s.fetch.pc = s.fd.postIncrementPc) ∧ (s.fd.valid = false → s.path e = some s.fetch.pc)

variable {s i e g}

section Expected

variable (hr : s.resetPending = false) (hentry : s.entryStart i = false)

include hr hentry

lemma nextExpected_eq (hv : s.vector.active = false) (hred : s.memoryRedirect = false) : s.nextExpected i e =
    if s.executeLeaves then
      ⟨if s.execute.trap || s.execute.halt || s.execute.lockup then none else some s.execute.nextPc, true⟩
    else e := by
  rw [nextExpected, hr, hentry, vectorEnters_of_inactive hv, hred]
  rfl

lemma nextExpected_kept (hv : s.vector.active = false) (hred : s.memoryRedirect = false)
    (hl : s.executeLeaves = false) : s.nextExpected i e = e := by
  rw [nextExpected_eq hr hentry hv hred, hl]
  rfl

lemma redirect_of_executed (h : (s.nextExpected i e).executed = true) : s.memoryRedirect = false := by
  apply Bool.eq_false_of_not_eq_true
  intro hred
  rw [nextExpected, hr, hentry, hred] at h
  cases hve : s.vectorEnters i <;> rw [hve] at h <;> cases h

end Expected

section Path

variable (hr : s.resetPending = false) (hentry : s.entryStart i = false) (hflow : s.Flowing)

lemma quiet_of_not_steers (hd : s.de.valid = true) (hst : s.steers = false) :
    (s.execute.trap || s.execute.halt || s.execute.lockup) = false := by
  simp only [steers, hd, Bool.true_and, ExecuteOutputs.steers, Bool.or_eq_false_iff] at hst
  simp [hst.1.1.1, hst.1.1.2, hst.1.2]

include hr hentry hflow

lemma nextExpected_flowing : s.nextExpected i e =
    if s.executeLeaves then
      ⟨if s.execute.trap || s.execute.halt || s.execute.lockup then none else some s.execute.nextPc, true⟩
    else e :=
  nextExpected_eq hr hentry hflow.vector hflow.redirect

variable (hclear : s.clearPipeline i = false)

include hclear

lemma path_next (hst : s.steers = false) : (s.step i).path (s.nextExpected i e) =
    if s.decodeAdvance then some s.decodeInputs.predictedNextPc else s.path e := by
  have hexpected := nextExpected_flowing (e := e) hr hentry hflow
  have hde : (s.step i).de = s.nextDe i := by rw [step_eq i hr]
  rw [path, hde]
  cases hadv : s.decodeAdvance with
  | true => simp [nextDe, hadv, hclear]
  | false =>
    cases hd : s.de.valid with
    | false =>
      have hv : (s.nextDe i).valid = false := by simp [nextDe, hadv, hd]
      rw [hv, hexpected, executeLeaves_of_empty hd, path, hd]
      rfl
    | true =>
      cases hl : s.executeLeaves with
      | false =>
        have hn : s.nextDe i = s.de := by simp [nextDe, hadv, hclear, hl, hflow.redirect]
        rw [hn, path, hd]
        rfl
      | true =>
        have hv : (s.nextDe i).valid = false := by simp [nextDe, hadv, hl]
        rw [hv, hexpected, hl, path, hd, quiet_of_not_steers hd hst, nextPc_of_not_steers hd hst]
        rfl

omit hclear in
/-- What the sources are known for after a cycle without an accepted instruction was known before it. -/
lemma known_of_next (hadv : s.decodeAdvance = false)
    (h : ((s.step i).de.valid || (s.nextExpected i e).executed) = true) : (s.de.valid || e.executed) = true := by
  cases hd : s.de.valid with
  | true => rfl
  | false =>
    have hde : (s.step i).de.valid = false := by
      rw [step_eq i hr]
      simp [nextDe, hadv, hd]
    rwa [hde, nextExpected_flowing hr hentry hflow, executeLeaves_of_empty hd] at h

lemma execute_follows (h : s.PathAgree e g) (hde : (s.step i).de.valid = true) :
    (s.nextExpected i e).next = some (s.step i).de.pc ∧
      ((s.nextExpected i e).executed = true → (s.sourceStep i g).de = (s.step i).de.pc) := by
  rw [nextExpected_flowing hr hentry hflow]
  have hsrc : (s.sourceStep i g).de = if s.decodeAdvance then g.fd else g.de := by rw [sourceStep, hr]; rfl
  have hstep : (s.step i).de = s.nextDe i := by rw [step_eq i hr]
  rw [hstep] at hde ⊢
  rw [hsrc]
  obtain ⟨_, hadv | ⟨hadv, hd, hl, _⟩⟩ := nextDe_valid hde
  · obtain ⟨hfd, hslot, _, hflush, _⟩ := decodeAdvance_spec hadv
    rw [executeFlushYounger_eq hflow.redirect] at hflush
    obtain ⟨hpath, hg⟩ := h.decode hflow hflush hfd
    have hpc : (s.nextDe i).pc = s.fd.pc := by simp [nextDe, hadv]
    rw [hpc, hadv]
    rw [path] at hpath
    cases hd : s.de.valid with
    | true =>
      rw [hd] at hpath hg
      rw [hslot.resolve_left (by simp [hd]), quiet_of_not_steers hd hflush, nextPc_of_not_steers hd hflush]
      exact ⟨hpath, fun _ => hg rfl⟩
    | false =>
      rw [hd] at hpath hg
      rw [executeLeaves_of_empty hd]
      exact ⟨hpath, hg⟩
  · have hn : s.nextDe i = s.de := by simp [nextDe, hadv, hclear, hl, hflow.redirect]
    rw [hn, hadv, hl]
    exact h.execute hd

/-- The instruction that the decode latch holds after a cycle that steers nothing. -/
lemma decode_follows (h : s.PathAgree e g) (hst : s.steers = false) (hfd : (s.step i).fd.valid = true) :
    (s.step i).path (s.nextExpected i e) = some (s.step i).fd.pc ∧
      (((s.step i).de.valid || (s.nextExpected i e).executed) = true →
        (s.sourceStep i g).fd = (s.step i).fd.pc) := by
  have hflush : s.executeFlushYounger = false := (executeFlushYounger_eq hflow.redirect).trans hst
  have hsrc : (s.sourceStep i g).fd = if s.fetchAccept i then g.line else g.fd := by rw [sourceStep, hr]; rfl
  have hstep : (s.step i).fd = s.nextFd i := by rw [step_eq i hr]
  rw [path_next hr hentry hflow hclear hst, hsrc]
  rw [hstep] at hfd ⊢
  obtain ⟨_, _, hac | ⟨hac, hfdv, hadv, _⟩⟩ := nextFd_valid hfd
  · obtain ⟨hpv, _, _, _, _, hpr, hslot⟩ := fetchAccept_spec hac
    have hn : (s.nextFd i).pc = s.fetch.pc := by simp [nextFd, hflush, hac]
    rw [hac, hn]
    cases hfdv : s.fd.valid with
    | false =>
      have hadv : s.decodeAdvance = false := by simp [decodeAdvance, hfdv]
      rw [hadv]
      refine ⟨(h.fetch hflow hst).2 hfdv, fun hknown => h.line hflow.vector hpv ?_⟩
      rw [hfdv]
      exact known_of_next hr hentry hflow hadv hknown
    | true =>
      have hadv := hslot.resolve_left (by simp [hfdv])
      rw [hadv, (h.fetch hflow hst).1 hfdv, ← predicted_of_noRedirect (h.latched hfdv) hadv hpr]
      refine ⟨rfl, fun _ => ?_⟩
      rw [predicted_of_noRedirect (h.latched hfdv) hadv hpr, ← (h.fetch hflow hst).1 hfdv]
      exact h.line hflow.vector hpv (by rw [hfdv]; rfl)
  · have hn : (s.nextFd i).pc = s.fd.pc := by simp [nextFd, hflush, hac]
    rw [hadv, hac, hn]
    obtain ⟨hpath, hg⟩ := h.decode hflow hst hfdv
    exact ⟨hpath, fun hknown => hg (known_of_next hr hentry hflow hadv hknown)⟩

lemma fetch_follows (h : s.PathAgree e g) (hst : s.steers = false) :
    ((s.step i).fd.valid = true → (s.step i).fetch.pc = (s.step i).fd.postIncrementPc) ∧
      ((s.step i).fd.valid = false → (s.step i).path (s.nextExpected i e) = some (s.step i).fetch.pc) := by
  have hflush : s.executeFlushYounger = false := (executeFlushYounger_eq hflow.redirect).trans hst
  have hfd : (s.step i).fd = s.nextFd i := by rw [step_eq i hr]
  have hmis : s.executeMispredict = false := by
    simp only [executeFlushYounger, Bool.and_eq_false_iff, Bool.or_eq_false_iff] at hflush
    rcases hflush with h | h
    · simp [executeMispredict, h]
    · exact h.1.1.1
  rw [path_next hr hentry hflow hclear hst, fetchPc_next hr hentry hflow.vector hmis hflow.redirect, hfd]
  cases hpr : s.predictRedirectActive with
  | true =>
    have hadv := (predictRedirect_spec hpr).2.2
    have hac : s.fetchAccept i = false := by simp [fetchAccept, hpr]
    have hn : (s.nextFd i).valid = false := by simp [nextFd, hflush, hac, hadv]
    rw [hn, hadv]
    exact ⟨fun h => absurd h Bool.false_ne_true, fun _ => rfl⟩
  | false =>
    cases hac : s.fetchAccept i with
    | true =>
      have hn : (s.nextFd i).valid = true ∧ (s.nextFd i).postIncrementPc = s.nextFetchPc := by
        simp [nextFd, hflush, hac, hclear]
      rw [hn.1, hn.2]
      exact ⟨fun _ => rfl, fun h => absurd h.symm Bool.false_ne_true⟩
    | false =>
      simp only [Bool.false_eq_true, if_false]
      have hn : (s.nextFd i).valid = (s.fd.valid && !s.decodeAdvance) ∧
          (s.nextFd i).postIncrementPc = s.fd.postIncrementPc := by
        simp [nextFd, hflush, hac, hclear, hflow.redirect]
      rw [hn.1, hn.2]
      cases hfdv : s.fd.valid with
      | false =>
        have hadv : s.decodeAdvance = false := by simp [decodeAdvance, hfdv]
        rw [hadv]
        exact ⟨fun h => absurd h Bool.false_ne_true, fun _ => (h.fetch hflow hst).2 hfdv⟩
      | true =>
        rw [(h.fetch hflow hst).1 hfdv]
        cases hadv : s.decodeAdvance with
        | false => exact ⟨fun _ => rfl, fun h => absurd h.symm Bool.false_ne_true⟩
        | true => exact ⟨fun _ => rfl, fun _ => by rw [← predicted_of_noRedirect (h.latched hfdv) hadv hpr]; rfl⟩

end Path

/-- After an instruction that steered the fetch has left, the path starts where it led to. -/
lemma steered_follows (hr : s.resetPending = false) (hk : s.Keeps i) (h : s.PathAgree e g) (hst : s.steers = true)
    (hst' : (s.step i).steers = false) :
    (s.step i).fd.valid = false ∧ (s.step i).path (s.nextExpected i e) = some (s.step i).fetch.pc := by
  obtain ⟨hl, ht, hfd, hde, hpc⟩ := steered_leaves hr hk h.controlWrite hst hst'
  refine ⟨hfd, ?_⟩
  rw [path, hde, nextExpected_flowing hr hk.entry hk.flow, hl, ht, hpc]
  rfl

section Fetch

variable (hr : s.resetPending = false) (hentry : s.entryStart i = false)

include hr hentry

/-- The physical fetch address was obtained for the fetch PC, once an instruction was accepted behind a redirect. -/
lemma line_follows (hs : s.Occupancy) (h : s.PathAgree e g) (hv : s.vector.active = false)
    (hp : (s.nextFetch i).physValid = true)
    (hknown : ((s.nextFd i).valid || (s.nextDe i).valid || (s.nextExpected i e).executed) = true) :
    s.nextLine i g = (s.nextFetch i).pc := by
  obtain ⟨ht, hi⟩ := entry_false hentry
  have hve := vectorEnters_of_inactive (i := i) hv
  -- an empty front end knows its line by the last instruction executed alone
  have hempty : s.fd.valid = false → s.de.valid = false → s.fetchAccept i = false →
      (s.nextExpected i e).executed = true := fun hfd hd hac => by
    have hd' : (s.nextDe i).valid = false := by simp [nextDe, decodeAdvance, hfd, hd]
    rwa [nextFd_of_blocked hfd hac, hd'] at hknown
  cases hleaf : s.walkLeafSuccess && s.walk.resumeKind == .fetch with
  | true =>
    obtain ⟨ha, hk, hd, _, hpv⟩ := fetchLeaf_spec hs hleaf
    obtain ⟨hm, hpr, hac⟩ := fetch_still (i := i) hd.de hd.fd hpv
    have hred : s.memoryRedirect = false := by simp [memoryRedirect, hd.mr]
    have he := hempty hd.fd hd.de hac
    rw [nextExpected_kept hr hentry hv hred (executeLeaves_of_empty hd.de)] at he
    simp [nextLine, nextFetch, hve, hleaf, hm, hpr, hac, hred, ht, hi, h.walk ha hk he]
  | false =>
    cases hcomp : s.fetchTranslateComplete with
    | true =>
      obtain ⟨hpv, _, hfd, hd, hxm, _⟩ := fetchTranslateReady_spec (fetchTranslateComplete_spec hcomp)
      obtain ⟨hm, hpr, hac⟩ := fetch_still (i := i) hd hfd hpv
      have hred := redirect_of_executed hr hentry (hempty hfd hd hac)
      simp [nextLine, nextFetch, hve, hleaf, hcomp, hm, hpr, hac, hred, ht, hi, h.translate hv hxm]
    | false =>
      refine line_kept hve hleaf hcomp hentry (fun hred hac hpv => ?_) hp
      refine h.line hv hpv ?_
      cases hfd : s.fd.valid with
      | true => rfl
      | false =>
        cases hd : s.de.valid with
        | true => rfl
        | false =>
          have he := hempty hfd hd hac
          rwa [nextExpected_kept hr hentry hv hred (executeLeaves_of_empty hd)] at he

lemma walk_follows (hs : s.Occupancy) (h : s.PathAgree e g)
    (ha : (s.nextWalk i).active = true) (hk : (s.nextWalk i).resumeKind = .fetch)
    (he : (s.nextExpected i e).executed = true) : (s.nextWalk i).virtualAddr = (s.nextFetch i).pc := by
  have hred := redirect_of_executed hr hentry he
  obtain ⟨_, hcase⟩ := nextWalk_active ha
  rcases hcase with ⟨hstart, _⟩ | ⟨_, hk'⟩ | ⟨_, hk'⟩ | ⟨hact, _, hk'⟩
  · have hready : s.fetchTranslateReady = true := by
      simp only [fetchWalkStart, Bool.and_eq_true] at hstart
      exact hstart.1.1.1
    obtain ⟨hpv, _, hfd, hde, hxm, _, hv, _⟩ := fetchTranslateReady_spec hready
    obtain ⟨hm, hpr, hac⟩ := fetch_still (i := i) hde hfd hpv
    have hva : (s.nextWalk i).virtualAddr = s.fetch.translateVirtualAddr := by
      simp [nextWalk, managedWalk, hstart, PageWalk.start]
    rw [hva, h.translate hv hxm, fetch_pc_kept hentry hv hm hred hpr hac]
  · rw [hk'] at hk
    cases hk
  · rw [hk'] at hk
    cases hk
  · rw [hk'] at hk
    obtain ⟨hd, hv, hpv⟩ := hs.fetchWalk hact hk
    obtain ⟨hm, hpr, hac⟩ := fetch_still (i := i) hd.de hd.fd hpv
    rw [nextExpected_kept hr hentry hv hred (executeLeaves_of_empty hd.de)] at he
    rw [nextWalk_virtualAddr hact, fetch_pc_kept hentry hv hm hred hpr hac]
    exact h.walk hact hk he

end Fetch

section Step

variable (hs : s.Occupancy) (hr : s.resetPending = false)

lemma latched_next (h : s.PathAgree e g) (hfd : (s.nextFd i).valid = true) :
    (s.nextFd i).postIncrementPc = (s.nextFd i).pc + 2 := by
  obtain ⟨_, hflush, hac | ⟨hac, hfdv, _, _⟩⟩ := nextFd_valid hfd
  · simp [nextFd, hflush, hac, nextFetchPc]
  · have hn : (s.nextFd i).pc = s.fd.pc ∧ (s.nextFd i).postIncrementPc = s.fd.postIncrementPc := by
      simp [nextFd, hflush, hac]
    rw [hn.1, hn.2]
    exact h.latched hfdv

lemma predicted_next (h : s.PathAgree e g) (hde : (s.nextDe i).valid = true) :
    (s.nextDe i).postIncrementPc = (s.nextDe i).pc + 2 ∧ (s.nextDe i).predictedNextPc =
      (⟨c.predictor, (s.nextDe i).instruction, (s.nextDe i).pc⟩ : Predictor).predictedNextPc := by
  obtain ⟨_, hadv | ⟨hadv, hd, _, _⟩⟩ := nextDe_valid hde
  · have hn : (s.nextDe i).postIncrementPc = s.fd.postIncrementPc ∧ (s.nextDe i).pc = s.fd.pc ∧
        (s.nextDe i).instruction = s.fd.instruction ∧
        (s.nextDe i).predictedNextPc = s.decodeInputs.predictedNextPc := by
      simp [nextDe, hadv]
    rw [hn.1, hn.2.1, hn.2.2.1, hn.2.2.2]
    exact ⟨h.latched (decodeAdvance_spec hadv).1, rfl⟩
  · have hn : (s.nextDe i).postIncrementPc = s.de.postIncrementPc ∧ (s.nextDe i).pc = s.de.pc ∧
        (s.nextDe i).instruction = s.de.instruction ∧
        (s.nextDe i).predictedNextPc = s.de.predictedNextPc := by
      simp [nextDe, hadv]
    rw [hn.1, hn.2.1, hn.2.2.1, hn.2.2.2]
    exact h.predicted hd

include hs

lemma PathAgree.restart (hfd : (s.step i).fd.valid = false) (hde : (s.step i).de.valid = false)
    (hret : (s.step i).retire.valid = false)
    (hex : (s.step i).vector.active = false → (s.nextExpected i e).executed = false)
    (htranslate : (s.step i).vector.active = false → (s.step i).xm.valid = false →
      (s.step i).fetch.translateVirtualAddr = (s.step i).fetch.pc)
    (hpc : (s.step i).vector.active = false → (s.nextExpected i e).next = some (s.step i).fetch.pc) :
    (s.step i).PathAgree (s.nextExpected i e) (s.sourceStep i g) := by
  have hnone : ∀ {p : Prop}, false = true → p := fun h => absurd h Bool.false_ne_true
  refine ⟨fun h => hnone ((resetPending_step i).symm.trans h), fun h => hnone (hret.symm.trans h),
    fun h => hnone (hfd.symm.trans h), fun h => hnone (hde.symm.trans h), fun hv _ h => ?_, htranslate,
    fun ha hk h => ?_, fun h => hnone (hde.symm.trans h), fun _ _ h => hnone (hfd.symm.trans h), fun hflow _ => ?_⟩
  · rw [hfd, hde, hex hv] at h
    exact hnone h
  · exact hnone ((hex ((hs.step i).fetchWalk ha hk).2.1).symm.trans h)
  · refine ⟨fun h => hnone (hfd.symm.trans h), fun _ => ?_⟩
    rw [path, hde]
    exact hpc hflow.vector

include hr

lemma PathAgree.entry (hlive : (s.step i).stopped = false) (he : s.entryStart i = true) :
    (s.step i).PathAgree (s.nextExpected i e) (s.sourceStep i g) := by
  have hclear : s.clearPipeline i = true := by simp [clearPipeline, he]
  obtain ⟨⟨hfd, hde, _, _⟩, hret⟩ := next_of_clear hclear
  have hact : (s.step i).vector.active = true := by rw [entry_next hr hlive he]
  have hstep : (s.step i).fd = s.nextFd i ∧ (s.step i).de = s.nextDe i ∧ (s.step i).retire = s.nextRetire i := by
    rw [step_eq i hr]
    exact ⟨rfl, rfl, rfl⟩
  obtain ⟨hsfd, hsde, hsret⟩ := hstep
  have hnot : ∀ {p : Prop}, (s.step i).vector.active = false → p := fun hv =>
    absurd (hv.symm.trans hact) Bool.false_ne_true
  exact .restart hs (hsfd ▸ hfd) (hsde ▸ hde) (hsret ▸ hret) (fun hv => hnot hv) (fun hv => hnot hv) fun hv => hnot hv

lemma PathAgree.entering (h : s.PathAgree e g) (hlive : (s.step i).stopped = false) (he : s.entryStart i = false)
    (hv : s.vector.active = true) : (s.step i).PathAgree (s.nextExpected i e) (s.sourceStep i g) := by
  obtain ⟨hd, _, _⟩ := hs.entering hv
  have hclear := clear_of_noEntry hr hlive he
  obtain ⟨hfd, hde, _, _⟩ := hd.next (entering_blocked (i := i) hv)
  obtain ⟨hact, _⟩ := vector_next hr hlive he
  have hstep : (s.step i).fd = s.nextFd i ∧ (s.step i).de = s.nextDe i ∧ (s.step i).xm = s.nextXm i ∧
      (s.step i).retire = s.nextRetire i ∧ (s.step i).fetch = s.nextFetch i := by
    rw [step_eq i hr]
    exact ⟨rfl, rfl, rfl, rfl, rfl⟩
  obtain ⟨hsfd, hsde, hsxm, hsret, hsfetch⟩ := hstep
  have henters : (s.step i).vector.active = false → s.vectorEnters i = true := fun h => by
    rwa [hact, hv, Bool.true_and, Bool.not_eq_false'] at h
  have hexpected : (s.step i).vector.active = false → s.nextExpected i e = ⟨some (s.vectorHandlerPc i), false⟩ :=
    fun h => by
      rw [nextExpected, hr, he, henters h]
      rfl
  refine .restart hs (hsfd ▸ hfd) (hsde ▸ hde) (hsret ▸ hd.nextRetire) (fun hv' => ?_) (fun hv' hx => ?_) fun hv' => ?_
  · rw [hexpected hv']
  · rw [hsxm] at hx
    rw [hsfetch]
    exact translate_next h.translate hclear he (.inr (henters hv')) hx
  · rw [hexpected hv', hsfetch]
    simp [nextFetch, henters hv']

/-- An instruction comes to the execute slot, or waits in it, only where nothing else is under way. -/
lemma flowing_of_executes (hlive : (s.step i).stopped = false) (he : s.entryStart i = false)
    (hv : s.vector.active = false) (hde : (s.step i).de.valid = true) : s.Flowing := by
  refine ⟨hv, ?_, ?_, ?_⟩
  · apply Bool.eq_false_of_not_eq_true
    intro ht
    have hd := hs.terminal ht
    rw [step_eq i hr] at hde
    simp [nextDe, decodeAdvance, hd.fd, hd.de] at hde
  · apply Bool.eq_false_of_not_eq_true
    intro hp
    exact Bool.false_ne_true (he.symm.trans (entry_of_pending hs hr hlive hp))
  · apply Bool.eq_false_of_not_eq_true
    intro hred
    exact Bool.false_ne_true ((redirect_empties hr hred).1.symm.trans hde)

lemma PathAgree.advance (h : s.PathAgree e g) (hlive : (s.step i).stopped = false) (he : s.entryStart i = false)
    (hv : s.vector.active = false) : (s.step i).PathAgree (s.nextExpected i e) (s.sourceStep i g) := by
  have hclear := clear_of_noEntry hr hlive he
  have hve := vectorEnters_of_inactive (i := i) hv
  have hnone : ∀ {p : Prop}, false = true → p := fun h => absurd h Bool.false_ne_true
  have hstep : (s.step i).fd = s.nextFd i ∧ (s.step i).de = s.nextDe i ∧ (s.step i).xm = s.nextXm i ∧
      (s.step i).fetch = s.nextFetch i ∧ (s.step i).walk = s.nextWalk i := by
    rw [step_eq i hr]
    exact ⟨rfl, rfl, rfl, rfl, rfl⟩
  obtain ⟨hsfd, hsde, hsxm, hsfetch, hswalk⟩ := hstep
  have hline : (s.sourceStep i g).line = s.nextLine i g := by rw [sourceStep, hr]; rfl
  have hpath := keeps_or_redirect (i := i) hs hr hlive he hv
  refine ⟨fun h => hnone ((resetPending_step i).symm.trans h), controlWrite_next hr hve, ?_, ?_, fun _ hp hp' => ?_,
    fun _ hx => ?_, fun ha hk hex => ?_, fun hde => ?_, fun hflow hst hfd => ?_, fun hflow hst => ?_⟩
  · rw [hsfd]
    exact latched_next h
  · rw [dePredictor, hsde]
    exact predicted_next h
  · rw [hsfetch] at hp ⊢
    rw [hsfd, hsde] at hp'
    rw [hline]
    exact line_follows hr he hs h hv hp hp'
  · rw [hsxm] at hx
    rw [hsfetch]
    exact translate_next h.translate hclear he (.inl hv) hx
  · rw [hswalk] at ha hk ⊢
    rw [hsfetch]
    exact walk_follows hr he hs h ha hk hex
  · exact execute_follows hr he (flowing_of_executes hs hr hlive he hv hde) hclear h hde
  · rcases hpath hflow with hk | hred
    · cases hst0 : s.steers with
      | true => exact hnone ((steered_follows hr hk h hst0 hst).1.symm.trans hfd)
      | false => exact decode_follows hr he hk.flow hclear h hst0 hfd
    · exact hnone ((redirect_empties hr hred).2.symm.trans hfd)
  · rcases hpath hflow with hk | hred
    · cases hst0 : s.steers with
      | true =>
        obtain ⟨hfd, hfetch⟩ := steered_follows hr hk h hst0 hst
        exact ⟨fun hfd' => hnone (hfd.symm.trans hfd'), fun _ => hfetch⟩
      | false => exact fetch_follows hr he hk.flow hclear h hst0
    · obtain ⟨hde, hfd⟩ := redirect_empties (i := i) hr hred
      refine ⟨fun hfd' => hnone (hfd.symm.trans hfd'), fun _ => ?_⟩
      rw [path, hde, nextExpected, hr, he, hve, hred, redirect_pc hr hred he hv]
      rfl

omit hr in
lemma PathAgree.start (h : s.PathAgree e g) (hr : s.resetPending = true) :
    (s.step i).PathAgree (s.nextExpected i e) (s.sourceStep i g) := by
  obtain ⟨hd, hret, _, hw⟩ := hs.starting hr
  have hflow := h.starting hr
  have hnone : ∀ {p : Prop}, false = true → p := fun h => absurd h Bool.false_ne_true
  have hexpected : s.nextExpected i e = e := by
    rw [nextExpected, hr]
    rfl
  have hsrc : s.sourceStep i g = g := by
    rw [sourceStep, hr]
    rfl
  have hstep : (s.step i).fd = s.fd ∧ (s.step i).de = s.de ∧ (s.step i).xm = s.xm ∧ (s.step i).retire = s.retire ∧
      (s.step i).fetch = s.fetch ∧ (s.step i).walk = s.walk ∧ (s.step i).vector = s.vector := by
    rw [step_reset_eq i hr]
    exact ⟨rfl, rfl, rfl, rfl, rfl, rfl, rfl⟩
  obtain ⟨hsfd, hsde, hsxm, hsret, hsfetch, hswalk, hsvec⟩ := hstep
  have hsteers : s.steers = false := by simp [steers, hd.de]
  rw [hexpected, hsrc]
  refine ⟨fun h => hnone ((resetPending_step i).symm.trans h), ?_, ?_, ?_, ?_, ?_, ?_, ?_, ?_, fun _ _ => ?_⟩
  · rw [hsret]
    exact fun h => hnone (hret.symm.trans h)
  · rw [hsfd]
    exact fun h => hnone (hd.fd.symm.trans h)
  · rw [hsde]
    exact fun h => hnone (hd.de.symm.trans h)
  · rw [hsvec, hsfetch, hsfd, hsde]
    exact h.line
  · rw [hsvec, hsxm, hsfetch]
    exact h.translate
  · rw [hswalk]
    exact fun h => hnone (hw.symm.trans h)
  · rw [hsde]
    exact fun h => hnone (hd.de.symm.trans h)
  · rw [hsfd]
    exact fun _ _ h => hnone (hd.fd.symm.trans h)
  · rw [path, hsfd, hsde, hsfetch]
    exact h.fetch hflow hsteers

end Step

section Runs

lemma pathAgree_reset (c : CoreConfig) :
    (reset c).PathAgree ⟨some c.resetVector, false⟩ ⟨c.resetVector, 0, 0⟩ where
  starting _ := ⟨rfl, rfl, rfl, rfl⟩
  controlWrite h := absurd h Bool.false_ne_true
  latched h := absurd h Bool.false_ne_true
  predicted h := absurd h Bool.false_ne_true
  line _ h := absurd h Bool.false_ne_true
  translate _ _ := rfl
  walk h := absurd h Bool.false_ne_true
  execute h := absurd h Bool.false_ne_true
  decode _ _ h := absurd h Bool.false_ne_true
  fetch _ _ := ⟨fun h => absurd h Bool.false_ne_true, fun _ => rfl⟩

structure PathInvariant (p : Core c × Expectation × Sources) : Prop where
  occupancy : p.1.Occupancy
  agree : p.1.stopped = false → p.1.PathAgree p.2.1 p.2.2

lemma PathInvariant.step {p : Core c × Expectation × Sources} (h : PathInvariant p) :
    PathInvariant (followed p i) := by
  refine ⟨h.occupancy.step i, fun hlive => ?_⟩
  have ha := h.agree (stopped_step hlive)
  cases hr : p.1.resetPending with
  | true => exact ha.start h.occupancy hr
  | false =>
    cases he : p.1.entryStart i with
    | true => exact .entry h.occupancy hr hlive he
    | false =>
      cases hv : p.1.vector.active with
      | true => exact ha.entering h.occupancy hr hlive he hv
      | false => exact ha.advance h.occupancy hr hlive he hv

lemma pathInvariant_run (is : List (CoreInputs c)) : PathInvariant (run followed (followedReset c) is) := by
  induction is using List.reverseRecOn with
  | nil => exact ⟨occupancy_reset c, fun _ => pathAgree_reset c⟩
  | append_singleton is i ih =>
    rw [run_append]
    exact ih.step

/-- Whichever predictor the core has, every instruction that reaches the execute slot is the one at the PC
that the last one led to, fetched for that PC if an instruction led there; an interrupt saves that PC;
and the target of a taken branch is the one that its prediction was made with. -/
theorem prediction_invisible (c : CoreConfig) (is : List (CoreInputs c)) :
    let p := run followed (followedReset c) is
    (p.1.de.valid = true → p.2.1.next = some p.1.de.pc ∧ (p.2.1.executed = true → p.2.2.de = p.1.de.pc)) ∧
      (p.1.stopped = false → ∀ i, p.1.irqStart i = true → p.2.1.next = some p.1.entryEpc) ∧
      (p.1.de.valid = true → p.1.de.predictedNextPc = p.1.dePredictor.predictedNextPc ∧
        (p.1.dePredictor.isUjmp = true → p.1.execute.nextPc = p.1.dePredictor.ujmpTarget) ∧
        (p.1.dePredictor.isPcRelCondBranch = true → (p.1.executeInputs p.1.specialWriteAccessFault).lsJumpTaken = true →
          p.1.execute.nextPc = p.1.dePredictor.condBranchTarget)) := by
  intro p
  have hinv : PathInvariant p := pathInvariant_run is
  have hagree : p.1.de.valid = true → p.1.PathAgree p.2.1 p.2.2 := by
    intro hd
    apply hinv.agree
    apply Bool.eq_false_of_not_eq_true
    intro hst
    exact Bool.false_ne_true ((hinv.occupancy.stopped hst).1.de.symm.trans hd)
  refine ⟨fun hd => (hagree hd).execute hd, fun hlive i hirq => ?_, fun hd => ?_⟩
  · obtain ⟨hflow, hfd, hd, _, hepc⟩ := irqStart_flowing hirq
    have hpath := ((hinv.agree hlive).fetch hflow (by simp [steers, hd])).2 hfd
    rw [path, hd] at hpath
    rw [hepc]
    exact hpath
  · obtain ⟨hpc, hpred⟩ := (hagree hd).predicted hd
    exact ⟨hpred, fun hj => ujmpTarget_eq hd rfl hpc hj, fun hb ht => condBranchTarget_eq hd rfl hpc hb ht⟩

/-- A backward branch that is predicted taken, to a target below address zero, and falls through. -/
theorem prediction_invisible_sample :
    (run followed (followedReset .uncached)
      (List.replicate 11 (CoreInputs.endless .uncached 0xDF00800280026FFD 0))).2.2.de = 2 := by
  have h := (prediction_invisible .uncached
    (List.replicate 11 (CoreInputs.endless .uncached 0xDF00800280026FFD 0))).1 (by decide +kernel)
  refine (h.2 (by decide +kernel)).trans ?_
  decide +kernel

end Runs

end Core

end Little64.Hdl

import Little64.Library.Runs
import Little64.Hdl.CoreStep

/-! Which latches of the core can hold an instruction at the same time. -/

namespace Little64.Hdl.Core

variable {c : CoreConfig} {s : Core c} {i : CoreInputs c}

/-- No instruction is under way before the retire latch. -/
structure Drained (s : Core c) : Prop where
  fd : s.fd.valid = false
  de : s.de.valid = false
  xm : s.xm.valid = false
  mr : s.mr.valid = false

def retireTerminal (s : Core c) : Bool := s.retire.valid && (s.retire.trap || s.retire.halt || s.retire.lockup)

def stopped (s : Core c) : Bool := s.halted || s.lockedUp

structure Occupancy (s : Core c) : Prop where
  starting : s.resetPending = true →
    s.Drained ∧ s.retire.valid = false ∧ s.vector.active = false ∧ s.walk.active = false
  resultAlone : s.mr.valid = true → s.xm.valid = false
  bufferEmpty : s.xm.valid = true → s.storebufAnyValid = false
  terminal : s.retireTerminal = true → s.Drained
  stopped : s.stopped = true → s.Drained ∧ s.retire.valid = false
  entering : s.vector.active = true → s.Drained ∧ s.retire.valid = false ∧ s.pendingFault.pending = false
  faulting : s.pendingFault.pending = true →
    s.mr.valid = false ∧ (s.xm.valid = true → s.xm.physValid = false) ∧ (s.de.valid = true → s.xm.valid = true)
  walking : s.walk.processing = true → s.walk.active = true
  fetchWalk : s.walk.active = true → s.walk.resumeKind = .fetch →
    s.Drained ∧ s.vector.active = false ∧ s.fetch.physValid = false
  memoryWalk : s.walk.active = true → s.walk.resumeKind = .memory → s.xm.valid = true ∧ s.xm.physValid = false
  vectorWalk : s.walk.active = true → s.walk.resumeKind = .vector →
    s.vector.active = true ∧ s.vector.physValid = false

section Moves

lemma executeToRetire_spec (h : s.executeToRetire = true) :
    s.de.valid = true ∧ s.execute.memoryStart = false ∧ s.xm.valid = false ∧ s.mr.valid = false := by
  simp only [executeToRetire, memoryStart_eq, Bool.and_eq_true, Bool.not_eq_true'] at h
  exact ⟨h.1.1.1.1, h.1.1.1.2, h.1.1.2, h.1.2⟩

lemma executeToStorebuf_spec (h : s.executeToStorebuf = true) :
    s.de.valid = true ∧ s.execute.memoryStart = true ∧ s.execute.memory.write = true ∧
      s.execute.memory.flagsWrite = false ∧ s.execute.memory.postRegWrite = false ∧ s.pagingEnabled = false ∧
      s.walk.active = false ∧ s.vector.active = false ∧ s.sb1.valid = false ∧ s.xm.valid = false ∧
      s.mr.valid = false := by
  simp only [executeToStorebuf, Bool.and_eq_true, Bool.not_eq_true'] at h
  obtain ⟨⟨⟨⟨⟨⟨⟨⟨⟨⟨⟨⟨⟨⟨hd, hm⟩, hw⟩, hf⟩, _⟩, hp⟩, _⟩, _⟩, hg⟩, hk⟩, hv⟩, hb⟩, hx⟩, hr⟩, _⟩ := h
  exact ⟨hd, hm, hw, hf, hp, hg, hk, hv, hb, hx, hr⟩

lemma executeToStorebufLoad_spec (h : s.executeToStorebufLoad = true) :
    s.de.valid = true ∧ s.execute.memoryStart = true ∧ s.execute.memory.write = false ∧
      s.execute.memory.regWrite = true ∧ s.execute.memory.postRegWrite = false ∧ s.pagingEnabled = false ∧
      s.storebufLoadMatch = true ∧ s.xm.valid = false ∧ s.mr.valid = false := by
  simp only [executeToStorebufLoad, Bool.and_eq_true, Bool.not_eq_true'] at h
  obtain ⟨⟨⟨⟨⟨⟨⟨⟨⟨⟨⟨hd, hm⟩, hw⟩, hg⟩, hp⟩, _⟩, hpg⟩, _⟩, hl⟩, hx⟩, hr⟩, _⟩ := h
  exact ⟨hd, hm, hw, hg, hp, hpg, hl, hx, hr⟩

lemma executeToMemory_spec (h : s.executeToMemory = true) :
    s.de.valid = true ∧ s.execute.memoryStart = true ∧ s.executeToStorebuf = false ∧
      s.executeToStorebufLoad = false ∧ s.storebufAnyValid = false ∧ s.xm.valid = false ∧
      s.memoryRedirect = false := by
  simp only [executeToMemory, Bool.and_eq_true, Bool.not_eq_true'] at h
  obtain ⟨⟨⟨⟨⟨⟨hd, hm⟩, hb⟩, hl⟩, hs⟩, hx⟩, hr⟩ := h
  exact ⟨hd, hm, hb, hl, hs, hx, hr⟩

lemma cachedMemoryResponse_spec (h : s.cachedMemoryResponse = true) :
    s.xm.valid = true ∧ s.xm.physValid = true ∧ s.xm.op.write = false ∧ s.xm.requestStarted = false ∧
      s.memSingleLineAccess = true ∧ s.dcacheLookupHit = true := by
  simp only [cachedMemoryResponse, dcacheCacheableLoad, Bool.and_eq_true, Bool.not_eq_true'] at h
  obtain ⟨⟨⟨⟨⟨⟨_, hv⟩, hp⟩, hw⟩, hr⟩, hl⟩, hh⟩ := h
  exact ⟨hv, hp, hw, hr, hl, hh⟩

lemma memoryComplete_spec (h : s.memoryComplete i = true) :
    s.xm.valid = true ∧ s.xm.physValid = true ∧ s.cachedMemoryResponse = false ∧ (s.lsuResponse i).valid = true ∧
      s.memoryOwnsLsu = true := by
  simp only [memoryComplete, memoryStageValid, Bool.and_eq_true, Bool.not_eq_true'] at h
  obtain ⟨⟨⟨hv, hp⟩, hc⟩, hl, ho⟩ := h
  exact ⟨hv, hp, hc, hl, ho⟩

lemma memoryToRetire_spec (h : s.memoryToRetire i = true) :
    s.xm.valid = true ∧ s.xm.physValid = true ∧ s.xm.op.chainStore = false := by
  simp only [memoryToRetire, memoryFinalResponse, Bool.and_eq_true, Bool.or_eq_true, Bool.not_eq_true'] at h
  obtain ⟨hv, hc | hf⟩ := h
  · exact ⟨hv, (cachedMemoryResponse_spec hc.1).2.1, hc.2⟩
  · exact ⟨hv, (memoryComplete_spec hf.1.1).2.1, hf.1.2⟩

lemma memoryChainContinue_phys (h : s.memoryChainContinue i = true) : s.xm.physValid = true := by
  simp only [memoryChainContinue, Bool.and_eq_true, Bool.or_eq_true, Bool.not_eq_true'] at h
  rcases h.2 with hc | hf
  · exact (cachedMemoryResponse_spec hc.1).2.1
  · exact (memoryComplete_spec hf.2.1.1).2.1

lemma decodeAdvance_spec (h : s.decodeAdvance = true) :
    s.fd.valid = true ∧ (s.de.valid = false ∨ s.executeLeaves = true) ∧ s.decodeInputs.loadUseHazard = false ∧
      s.executeFlushYounger = false ∧ s.memoryRedirect = false := by
  simp only [decodeAdvance, executeSlotAvailable, Bool.and_eq_true, Bool.or_eq_true, Bool.not_eq_true'] at h
  exact ⟨h.1.1.1.1, h.1.1.1.2, h.1.1.2, h.1.2, h.2⟩

lemma executeLeaves_spec (h : s.executeLeaves = true) : s.de.valid = true ∧ s.xm.valid = false := by
  simp only [executeLeaves, Bool.or_eq_true] at h
  rcases h with ((h | h) | h) | h
  · exact ⟨(executeToMemory_spec h).1, (executeToMemory_spec h).2.2.2.2.2.1⟩
  · have hs := executeToStorebuf_spec h
    exact ⟨hs.1, hs.2.2.2.2.2.2.2.2.2.1⟩
  · have hs := executeToStorebufLoad_spec h
    exact ⟨hs.1, hs.2.2.2.2.2.2.2.1⟩
  · exact ⟨(executeToRetire_spec h).1, (executeToRetire_spec h).2.2.1⟩

end Moves

section Next

lemma fetchAccept_spec (h : s.fetchAccept i = true) :
    s.fetch.physValid = true ∧ s.executeFlushYounger = false ∧ s.memoryRedirect = false ∧
      s.vector.active = false ∧ s.trapStart = false ∧ s.predictRedirectActive = false ∧
      (s.fd.valid = false ∨ s.decodeAdvance = true) := by
  simp only [fetchAccept, Bool.and_eq_true, Bool.or_eq_true, Bool.not_eq_true'] at h
  obtain ⟨⟨⟨⟨⟨⟨⟨hp, _⟩, hf⟩, hm⟩, hv⟩, ht⟩, hr⟩, hd⟩ := h
  exact ⟨hp, hf, hm, hv, ht, hr, hd⟩

lemma Drained.nextDe (h : s.Drained) : (s.nextDe i).valid = false := by
  apply Bool.eq_false_of_not_eq_true
  intro hv
  rcases (nextDe_valid hv).2 with ha | ⟨_, hd, _⟩
  · exact Bool.false_ne_true (h.fd.symm.trans (decodeAdvance_spec ha).1)
  · exact Bool.false_ne_true (h.de.symm.trans hd)

lemma nextXm_of_empty (hd : s.de.valid = false) (hx : s.xm.valid = false) : (s.nextXm i).valid = false := by
  apply Bool.eq_false_of_not_eq_true
  intro hv
  rcases (nextXm_valid hv).2.2.2 with hm | ⟨hm, _⟩
  · exact Bool.false_ne_true (hd.symm.trans (executeToMemory_spec hm).1)
  · exact Bool.false_ne_true (hx.symm.trans hm)

lemma nextMr_of_empty (hx : s.xm.valid = false) : (s.nextMr i).valid = false := by
  apply Bool.eq_false_of_not_eq_true
  intro hv
  exact Bool.false_ne_true (hx.symm.trans (memoryToRetire_spec (nextMr_valid hv).2).1)

lemma nextFd_of_blocked (hf : s.fd.valid = false) (ha : s.fetchAccept i = false) : (s.nextFd i).valid = false := by
  apply Bool.eq_false_of_not_eq_true
  intro hv
  rcases (nextFd_valid hv).2.2 with h | ⟨_, h, _⟩
  · exact Bool.false_ne_true (ha.symm.trans h)
  · exact Bool.false_ne_true (hf.symm.trans h)

lemma Drained.next (h : s.Drained) (ha : s.fetchAccept i = false) :
    (s.nextFd i).valid = false ∧ (s.nextDe i).valid = false ∧ (s.nextXm i).valid = false ∧
      (s.nextMr i).valid = false :=
  ⟨nextFd_of_blocked h.fd ha, h.nextDe, nextXm_of_empty h.de h.xm, nextMr_of_empty h.xm⟩

lemma Drained.nextRetire (h : s.Drained) : (s.nextRetire i).valid = false := by
  apply Bool.eq_false_of_not_eq_true
  intro hv
  rcases (nextRetire_valid hv).2.2 with hb | hb | hb | hb
  · exact Bool.false_ne_true (h.de.symm.trans (executeToStorebuf_spec hb).1)
  · exact Bool.false_ne_true (h.de.symm.trans (executeToStorebufLoad_spec hb).1)
  · exact Bool.false_ne_true (h.de.symm.trans (executeToRetire_spec hb).1)
  · exact Bool.false_ne_true (h.mr.symm.trans hb)

lemma next_of_clear (h : s.clearPipeline i = true) :
    ((s.nextFd i).valid = false ∧ (s.nextDe i).valid = false ∧ (s.nextXm i).valid = false ∧
      (s.nextMr i).valid = false) ∧ (s.nextRetire i).valid = false := by
  simp only [nextFd, nextDe, nextXm, nextMr, nextRetire, h, Bool.not_true, Bool.and_false, and_self]

end Next

section Preservation

lemma nextMr_alone (h : (s.nextMr i).valid = true) : (s.nextXm i).valid = false := by
  apply Bool.eq_false_of_not_eq_true
  intro hv
  exact Bool.false_ne_true ((nextXm_valid hv).2.1.symm.trans (nextMr_valid h).2)

lemma nextXm_bufferEmpty (hs : s.Occupancy) (h : (s.nextXm i).valid = true) :
    (s.nextStorebuf i).1.valid = false ∧ (s.nextStorebuf i).2.valid = false := by
  have hempty : s.storebufAnyValid = false ∧ s.executeToStorebuf = false := by
    rcases (nextXm_valid h).2.2.2 with hm | ⟨hx, _⟩
    · exact ⟨(executeToMemory_spec hm).2.2.2.2.1, (executeToMemory_spec hm).2.2.1⟩
    · refine ⟨hs.bufferEmpty hx, ?_⟩
      apply Bool.eq_false_of_not_eq_true
      intro hb
      exact Bool.false_ne_true ((executeToStorebuf_spec hb).2.2.2.2.2.2.2.2.2.1.symm.trans hx)
  have hsb := hempty.1
  simp only [storebufAnyValid, Bool.or_eq_false_iff] at hsb
  have hr : s.storebufResponseValid i = false := by rw [storebufResponseValid, hempty.1]; rfl
  simp [nextStorebuf, poppedStorebuf, startedStorebuf, enqueuedStorebuf, hempty.2, hr, hsb.1, hsb.2]

lemma nextRetire_terminal (h : (s.nextRetire i).valid = true)
    (ht : ((s.nextRetire i).trap || (s.nextRetire i).halt || (s.nextRetire i).lockup) = true) :
    (s.nextFd i).valid = false ∧ (s.nextDe i).valid = false ∧ (s.nextXm i).valid = false ∧
      (s.nextMr i).valid = false := by
  have hv := nextRetire_valid h
  have he : s.executeToRetire = true ∧ (s.execute.trap || s.execute.halt || s.execute.lockup) = true := by
    cases h2 : s.executeToStorebuf with
    | true => simp [nextRetire, hv.2.1, h2, storebufRetire] at ht
    | false =>
      cases h3 : s.executeToStorebufLoad with
      | true => simp [nextRetire, hv.2.1, h2, h3, storebufRetire] at ht
      | false =>
        cases h4 : s.executeToRetire with
        | true => exact ⟨rfl, by simpa [nextRetire, hv.2.1, h2, h3, h4] using ht⟩
        | false =>
          cases h5 : s.mr.valid with
          | true => simp [nextRetire, hv.2.1, h2, h3, h4, h5] at ht
          | false => simp [nextRetire, hv.2.1, h2, h3, h4, h5, RetireReg.clear] at ht
  obtain ⟨hd, hm, hx, hr⟩ := executeToRetire_spec he.1
  have hflush : s.executeFlushYounger = true := by
    rw [executeFlushYounger, hd]
    revert he
    cases s.execute.trap <;> cases s.execute.halt <;> cases s.execute.lockup <;> simp
  refine ⟨?_, ?_, ?_, nextMr_of_empty hx⟩
  · apply Bool.eq_false_of_not_eq_true
    intro hf
    exact Bool.false_ne_true ((nextFd_valid hf).2.1.symm.trans hflush)
  · apply Bool.eq_false_of_not_eq_true
    intro hn
    rcases (nextDe_valid hn).2 with ha | ⟨_, _, hl, _⟩
    · exact Bool.false_ne_true ((decodeAdvance_spec ha).2.2.2.1.symm.trans hflush)
    · simp [executeLeaves, he.1] at hl
  · apply Bool.eq_false_of_not_eq_true
    intro hn
    rcases (nextXm_valid hn).2.2.2 with hm' | ⟨hx', _⟩
    · exact Bool.false_ne_true (hm.symm.trans (executeToMemory_spec hm').2.1)
    · exact Bool.false_ne_true (hx.symm.trans hx')

lemma entering_blocked (h : s.vector.active = true) : s.fetchAccept i = false := by
  apply Bool.eq_false_of_not_eq_true
  intro ha
  exact Bool.false_ne_true ((fetchAccept_spec ha).2.2.2.1.symm.trans h)

lemma fetchWalk_blocked (hs : s.Occupancy) (h : s.walk.active = true) (hk : s.walk.resumeKind = .fetch) :
    s.fetchAccept i = false := by
  apply Bool.eq_false_of_not_eq_true
  intro ha
  exact Bool.false_ne_true ((hs.fetchWalk h hk).2.2.symm.trans (fetchAccept_spec ha).1)

lemma fetchTranslateReady_spec (h : s.fetchTranslateReady = true) :
    s.fetch.physValid = false ∧ s.walk.active = false ∧ s.fd.valid = false ∧ s.de.valid = false ∧
      s.xm.valid = false ∧ s.retire.valid = false ∧ s.vector.active = false ∧ s.storebufAnyValid = false := by
  simp only [fetchTranslateReady, Bool.and_eq_true, Bool.not_eq_true'] at h
  obtain ⟨⟨⟨⟨⟨⟨⟨⟨hp, hw⟩, hb⟩, hf⟩, hd⟩, hx⟩, hr⟩, hv⟩, _⟩ := h
  exact ⟨hp, hw, hf, hd, hx, hr, hv, hb⟩

lemma memoryTranslateReady_spec (h : s.memoryTranslateReady = true) :
    s.xm.valid = true ∧ s.xm.physValid = false ∧ s.walk.active = false ∧ s.vector.active = false := by
  simp only [memoryTranslateReady, Bool.and_eq_true, Bool.not_eq_true'] at h
  exact ⟨h.1.1.1.1.1, h.1.1.1.1.2, h.1.1.1.2, h.1.1.2⟩

lemma vectorTranslateReady_spec (h : s.vectorTranslateReady = true) :
    s.vector.active = true ∧ s.vector.physValid = false ∧ s.walk.active = false := by
  simp only [vectorTranslateReady, Bool.and_eq_true, Bool.not_eq_true'] at h
  exact ⟨h.1.1.1.1, h.1.1.1.2, h.1.1.2⟩

lemma nextWalk_active (h : (s.nextWalk i).active = true) :
    s.abandonsWalk i = false ∧
      (s.fetchWalkStart = true ∧ (s.nextWalk i).resumeKind = .fetch ∨
        s.memoryWalkStart = true ∧ (s.nextWalk i).resumeKind = .memory ∨
        s.vectorWalkStart = true ∧ (s.nextWalk i).resumeKind = .vector ∨
        s.walk.active = true ∧ s.walkLeafSuccess = false ∧ (s.nextWalk i).resumeKind = s.walk.resumeKind) := by
  simp only [nextWalk, Bool.and_eq_true, Bool.not_eq_true'] at h
  refine ⟨h.2, ?_⟩
  have ha := h.1
  simp only [nextWalk]
  unfold managedWalk at ha ⊢
  cases h1 : s.fetchWalkStart with
  | true => exact .inl ⟨rfl, rfl⟩
  | false =>
    cases h2 : s.memoryWalkStart with
    | true => exact .inr (.inl ⟨rfl, rfl⟩)
    | false =>
      cases h3 : s.vectorWalkStart with
      | true => exact .inr (.inr (.inl ⟨rfl, rfl⟩))
      | false =>
        refine .inr (.inr (.inr ?_))
        rw [h1, h2, h3] at ha
        simp only [Bool.false_eq_true, if_false] at ha ⊢
        unfold PageWalk.step at ha ⊢
        cases hd : s.walk.descends s.userMode with
        | true =>
          have hl : s.walkLeafSuccess = false := by
            simp only [PageWalk.descends, Bool.and_eq_true, Bool.not_eq_true'] at hd
            exact hd.2
          simp only [hd, if_true] at ha
          exact ⟨ha, hl, rfl⟩
        | false =>
          cases hl : s.walk.leafSuccess s.userMode with
          | true => simp [hd, hl] at ha
          | false =>
            simp only [hd, hl, Bool.false_eq_true, if_false] at ha ⊢
            split at ha <;> exact ⟨ha, hl, by split <;> rfl⟩

lemma nextWalk_processing (hs : s.Occupancy) (h : (s.nextWalk i).processing = true) :
    (s.nextWalk i).active = true := by
  simp only [nextWalk, Bool.and_eq_true, Bool.not_eq_true'] at h ⊢
  refine ⟨?_, h.2⟩
  have hp := h.1
  unfold managedWalk at hp ⊢
  cases h1 : s.fetchWalkStart with
  | true => rfl
  | false =>
    cases h2 : s.memoryWalkStart with
    | true => rfl
    | false =>
      cases h3 : s.vectorWalkStart with
      | true => rfl
      | false =>
        rw [h1, h2, h3] at hp
        simp only [Bool.false_eq_true, if_false] at hp ⊢
        unfold PageWalk.step at hp ⊢
        cases hd : s.walk.descends s.userMode with
        | true => simp [hd] at hp
        | false =>
          cases hl : s.walk.leafSuccess s.userMode with
          | true => simp [hd, hl] at hp
          | false =>
            simp only [hd, hl, Bool.false_eq_true, if_false] at hp ⊢
            split at hp
            · next hr =>
              simp only [hr, if_true]
              simp only [PageWalk.responseValid, Bool.and_eq_true] at hr
              exact hr.1.1.1
            · next hr =>
              simp only [hr]
              exact hs.walking hp

lemma entryStart_clear (h : s.entryStart i = true) : s.clearPipeline i = true := by
  simp [clearPipeline, h]

lemma stops_clear (h : (s.halted || s.retireHalt || (s.lockedUp || s.locksUp i)) = true) :
    s.clearPipeline i = true := by
  revert h
  simp only [clearPipeline, locksUp]
  cases s.halted <;> cases s.lockedUp <;> cases s.retireHalt <;> cases s.retireLockup <;> cases s.vectorFails i <;>
    cases s.walkResponseError i <;> cases s.vectorTranslateLockup <;> cases s.walkFaultLockup <;>
    cases s.trapPreemptLockup <;> cases s.busLockup i <;> simp

lemma nextVector_active (h : (s.nextVector i).active = true) :
    s.entryStart i = true ∨
      s.entryStart i = false ∧ s.vector.active = true ∧ s.vectorEnters i = false ∧ s.vectorFails i = false := by
  unfold nextVector at h
  cases hl : s.vectorTranslateLockup || s.walkFaultLockup || s.vectorFails i with
  | true => simp [hl] at h
  | false =>
    cases he : s.entryStart i with
    | true => exact .inl rfl
    | false =>
      cases hv : s.vectorEnters i with
      | true => simp [hl, he, hv] at h
      | false =>
        simp only [hl, he, hv, Bool.false_eq_true, if_false] at h
        simp only [Bool.or_eq_false_iff] at hl
        refine .inr ⟨rfl, ?_, rfl, hl.2⟩
        split at h
        · exact h
        · split at h <;> exact h

lemma walk_of_fault (hs : s.Occupancy) (h : s.walkFault = true) : s.walk.active = true ∧ s.walkLeafSuccess = false := by
  have hp : s.walk.processing = true := by
    simp only [walkFault, PageWalk.fault, Bool.and_eq_true] at h
    exact h.1
  refine ⟨hs.walking hp, ?_⟩
  simp only [walkLeafSuccess, PageWalk.leafSuccess, walkFault] at h ⊢
  simp [h]

lemma entering_quiet (hs : s.Occupancy) (h : s.vector.active = true) : s.trapRequestNext.pending = false := by
  obtain ⟨hd, hr, _⟩ := hs.entering h
  have h1 : s.retireTrap = false := by simp [retireTrap, hr]
  have h2 : s.fetchFaultRaised = false := by simp [fetchFaultRaised, fetchTranslateReady, h]
  have h3 : s.memoryFaultRaised = false := by simp [memoryFaultRaised, memoryTranslateReady, h]
  have h4 : s.walkFaultTrap = false := by
    apply Bool.eq_false_of_not_eq_true
    intro hw
    simp only [walkFaultTrap, Bool.and_eq_true, bne_iff_ne] at hw
    have ha := (walk_of_fault hs hw.1).1
    cases hk : s.walk.resumeKind with
    | fetch => exact Bool.false_ne_true ((hs.fetchWalk ha hk).2.1.symm.trans h)
    | memory => exact Bool.false_ne_true (hd.xm.symm.trans (hs.memoryWalk ha hk).1)
    | vector => exact hw.2 hk
  simp [trapRequestNext, h1, h2, h3, h4]

/-- An untranslated operation stays where it is until its translation or a cleared pipeline. -/
lemma nextXm_physValid (hx : s.xm.valid = true) (hp : s.xm.physValid = false)
    (hl : s.walkLeafSuccess = false) (ht : s.memoryTranslateComplete = false)
    (hv : (s.nextXm i).valid = true) : (s.nextXm i).physValid = false := by
  have hch : s.memoryChainContinue i = false := by
    apply Bool.eq_false_of_not_eq_true
    intro h
    exact Bool.false_ne_true (hp.symm.trans (memoryChainContinue_phys h))
  obtain ⟨_, hm, he, hcase⟩ := nextXm_valid hv
  have hr : s.memoryRedirect = false ∧ s.executeToMemory = false := by
    rcases hcase with h | ⟨_, h⟩
    · exact absurd hx (by simp [(executeToMemory_spec h).2.2.2.2.2.1])
    · refine ⟨h, ?_⟩
      apply Bool.eq_false_of_not_eq_true
      intro hc
      exact Bool.false_ne_true ((executeToMemory_spec hc).2.2.2.2.2.1.symm.trans hx)
  simp [nextXm, managedXm, hch, hm, he, hr.1, hr.2, hl, ht, hp]

lemma memoryFaultRaised_spec (h : s.memoryFaultRaised = true) :
    s.memoryTranslateReady = true ∧ s.memoryTranslateComplete = false := by
  simp only [memoryFaultRaised, Bool.and_eq_true] at h
  refine ⟨h.1.1, ?_⟩
  have hf := h.2
  simp only [memoryTranslateComplete, translatable, h.1.2, memoryFault] at hf ⊢
  revert hf
  cases isCanonical39 s.xm.virtualAddr <;> cases rootAligned s.root <;> simp

lemma nextXm_stalled (hs : s.Occupancy) (hx : s.xm.valid = true) (hp : s.xm.physValid = false)
    (hl : s.walkLeafSuccess = false) (ht : s.memoryTranslateComplete = false) :
    (s.nextMr i).valid = false ∧ ((s.nextXm i).valid = true → (s.nextXm i).physValid = false) ∧
      ((s.nextDe i).valid = true → (s.nextXm i).valid = true) := by
  have hmr : s.mr.valid = false := by
    apply Bool.eq_false_of_not_eq_true
    intro hm
    exact Bool.false_ne_true ((hs.resultAlone hm).symm.trans hx)
  have hm : s.memoryToRetire i = false := by
    apply Bool.eq_false_of_not_eq_true
    intro h
    exact Bool.false_ne_true (hp.symm.trans (memoryToRetire_spec h).2.1)
  refine ⟨?_, fun hv => nextXm_physValid hx hp hl ht hv, fun hd => ?_⟩
  · apply Bool.eq_false_of_not_eq_true
    intro h
    exact Bool.false_ne_true (hm.symm.trans (nextMr_valid h).2)
  · have hc := (nextDe_valid hd).1
    have hch : s.memoryChainContinue i = false := by
      apply Bool.eq_false_of_not_eq_true
      intro h
      exact Bool.false_ne_true (hp.symm.trans (memoryChainContinue_phys h))
    have he : s.memoryError i = false := by simp [memoryError, memoryComplete, memoryStageValid, hp]
    have hr : s.memoryRedirect = false := by simp [memoryRedirect, hmr]
    have hxm : s.executeToMemory = false := by
      apply Bool.eq_false_of_not_eq_true
      intro h
      exact Bool.false_ne_true ((executeToMemory_spec h).2.2.2.2.2.1.symm.trans hx)
    simp [nextXm, managedXm, hch, hm, he, hr, hxm, hx, hc]

lemma nextPendingFault_spec (hs : s.Occupancy) (h : (s.nextPendingFault i).pending = true) :
    (s.nextMr i).valid = false ∧ ((s.nextXm i).valid = true → (s.nextXm i).physValid = false) ∧
      ((s.nextDe i).valid = true → (s.nextXm i).valid = true) := by
  have hn : s.trapRequestNext.pending = true := by
    unfold nextPendingFault at h
    cases he : s.entryStart i with
    | true => simp [he] at h
    | false => simpa [he] using h
  have drained : s.Drained → (s.nextMr i).valid = false ∧
      ((s.nextXm i).valid = true → (s.nextXm i).physValid = false) ∧
      ((s.nextDe i).valid = true → (s.nextXm i).valid = true) := fun hd =>
    ⟨nextMr_of_empty hd.xm, fun hv => absurd hv (by simp [nextXm_of_empty hd.de hd.xm]),
      fun hv => absurd hv (by simp [hd.nextDe])⟩
  simp only [trapRequestNext, Bool.or_eq_true] at hn
  rcases hn with ((hn | hn) | hn) | hn
  · refine drained (hs.terminal ?_)
    simp only [retireTrap, Bool.and_eq_true] at hn
    simp [retireTerminal, hn.1, hn.2]
  · simp only [fetchFaultRaised, Bool.and_eq_true] at hn
    obtain ⟨_, _, hf, hd, hx, _⟩ := fetchTranslateReady_spec hn.1
    refine ⟨nextMr_of_empty hx, fun hv => absurd hv (by simp [nextXm_of_empty hd hx]), fun hv => ?_⟩
    rcases (nextDe_valid hv).2 with ha | ⟨_, hd', _⟩
    · exact absurd (decodeAdvance_spec ha).1 (by simp [hf])
    · exact absurd hd' (by simp [hd])
  · obtain ⟨hready, hc⟩ := memoryFaultRaised_spec hn
    obtain ⟨hx, hp, hw, _⟩ := memoryTranslateReady_spec hready
    have hl : s.walkLeafSuccess = false := by
      apply Bool.eq_false_of_not_eq_true
      intro h
      simp only [walkLeafSuccess, PageWalk.leafSuccess, Bool.and_eq_true] at h
      exact Bool.false_ne_true (hw.symm.trans (hs.walking h.1.1))
    exact nextXm_stalled hs hx hp hl hc
  · simp only [walkFaultTrap, Bool.and_eq_true, bne_iff_ne] at hn
    obtain ⟨ha, hl⟩ := walk_of_fault hs hn.1
    cases hk : s.walk.resumeKind with
    | fetch => exact drained (hs.fetchWalk ha hk).1
    | memory =>
      obtain ⟨hx, hp⟩ := hs.memoryWalk ha hk
      exact nextXm_stalled hs hx hp hl (by simp [memoryTranslateComplete, memoryTranslateReady, ha])
    | vector => exact absurd hk hn.2

lemma nextWalk_fetch (hs : s.Occupancy) (h : (s.nextWalk i).active = true)
    (hk : (s.nextWalk i).resumeKind = .fetch) :
    ((s.nextFd i).valid = false ∧ (s.nextDe i).valid = false ∧ (s.nextXm i).valid = false ∧
      (s.nextMr i).valid = false) ∧ (s.nextVector i).active = false ∧ (s.nextFetch i).physValid = false := by
  obtain ⟨hab, hcase⟩ := nextWalk_active h
  have hes : s.entryStart i = false := by
    simp only [abandonsWalk, Bool.or_eq_false_iff] at hab
    exact hab.1.1.1.1.1
  have htr : s.trapStart = false ∧ s.irqStart i = false := by
    simpa [entryStart, Bool.or_eq_false_iff] using hes
  rcases hcase with ⟨hw, _⟩ | ⟨_, h'⟩ | ⟨_, h'⟩ | ⟨ha, hl, hk'⟩
  · simp only [fetchWalkStart, Bool.and_eq_true, Bool.not_eq_true'] at hw
    obtain ⟨⟨⟨hready, hpg⟩, _⟩, hc⟩ := hw
    obtain ⟨hp, hwk, hf, hd, hx, hr, hv, _⟩ := fetchTranslateReady_spec hready
    have hacc : s.fetchAccept i = false := by
      apply Bool.eq_false_of_not_eq_true
      intro ha
      exact Bool.false_ne_true (hp.symm.trans (fetchAccept_spec ha).1)
    have hl : s.walkLeafSuccess = false := by
      apply Bool.eq_false_of_not_eq_true
      intro h
      simp only [walkLeafSuccess, PageWalk.leafSuccess, Bool.and_eq_true] at h
      exact Bool.false_ne_true (hwk.symm.trans (hs.walking h.1.1))
    refine ⟨⟨nextFd_of_blocked hf hacc, ?_, nextXm_of_empty hd hx, nextMr_of_empty hx⟩, ?_, ?_⟩
    · apply Bool.eq_false_of_not_eq_true
      intro hn
      rcases (nextDe_valid hn).2 with ha | ⟨_, hd', _⟩
      · exact Bool.false_ne_true (hf.symm.trans (decodeAdvance_spec ha).1)
      · exact Bool.false_ne_true (hd.symm.trans hd')
    · apply Bool.eq_false_of_not_eq_true
      intro hn
      rcases nextVector_active hn with h1 | ⟨_, h1, _⟩
      · exact Bool.false_ne_true (hes.symm.trans h1)
      · exact Bool.false_ne_true (hv.symm.trans h1)
    · simp [nextFetch, vectorEnters, vectorResponseValid, hv, hl, hc, hpg, hp]
  · rw [hk] at h'
    cases h'
  · rw [hk] at h'
    cases h'
  · rw [hk] at hk'
    obtain ⟨hd, hv, hp⟩ := hs.fetchWalk ha hk'.symm
    refine ⟨hd.next (fetchWalk_blocked hs ha hk'.symm), ?_, ?_⟩
    · apply Bool.eq_false_of_not_eq_true
      intro hn
      rcases nextVector_active hn with h1 | ⟨_, h1, _⟩
      · exact Bool.false_ne_true (hes.symm.trans h1)
      · exact Bool.false_ne_true (hv.symm.trans h1)
    · have hc : s.fetchTranslateComplete = false := by simp [fetchTranslateComplete, fetchTranslateReady, ha]
      have hm : s.executeMispredict = false := by simp [executeMispredict, hd.de]
      have hr : s.memoryRedirect = false := by simp [memoryRedirect, hd.mr]
      have hpr : s.predictRedirectActive = false := by simp [predictRedirectActive, hd.fd]
      simp [nextFetch, vectorEnters, vectorResponseValid, hv, hl, hc, hm, htr.1, htr.2, hr, hpr,
        fetchWalk_blocked hs ha hk'.symm, hp]

lemma nextWalk_memory (hs : s.Occupancy) (h : (s.nextWalk i).active = true)
    (hk : (s.nextWalk i).resumeKind = .memory) :
    (s.nextXm i).valid = true ∧ (s.nextXm i).physValid = false := by
  obtain ⟨hab, hcase⟩ := nextWalk_active h
  have stays : s.xm.valid = true → s.xm.physValid = false → s.walkLeafSuccess = false →
      s.memoryTranslateComplete = false → (s.nextXm i).valid = true ∧ (s.nextXm i).physValid = false := by
    intro hx hp hl ht
    have hnd : ¬ s.Drained := fun hd => Bool.false_ne_true (hd.xm.symm.trans hx)
    have hmr : s.mr.valid = false := by
      apply Bool.eq_false_of_not_eq_true
      intro hm
      exact Bool.false_ne_true ((hs.resultAlone hm).symm.trans hx)
    have hch : s.memoryChainContinue i = false := by
      apply Bool.eq_false_of_not_eq_true
      intro h
      exact Bool.false_ne_true (hp.symm.trans (memoryChainContinue_phys h))
    have hm : s.memoryToRetire i = false := by
      apply Bool.eq_false_of_not_eq_true
      intro h
      exact Bool.false_ne_true (hp.symm.trans (memoryToRetire_spec h).2.1)
    have he : s.memoryError i = false := by simp [memoryError, memoryComplete, memoryStageValid, hp]
    have hr : s.memoryRedirect = false := by simp [memoryRedirect, hmr]
    have hxm : s.executeToMemory = false := by
      apply Bool.eq_false_of_not_eq_true
      intro h
      exact Bool.false_ne_true ((executeToMemory_spec h).2.2.2.2.2.1.symm.trans hx)
    have hc : s.clearPipeline i = false := by
      simp only [abandonsWalk, Bool.or_eq_false_iff] at hab
      obtain ⟨⟨⟨⟨⟨h1, h2⟩, h3⟩, h4⟩, h5⟩, h6⟩ := hab
      have hvf : s.vectorFails i = false := by
        apply Bool.eq_false_of_not_eq_true
        intro hv
        simp only [vectorFails, vectorResponseValid, Bool.and_eq_true] at hv
        exact hnd (hs.entering hv.1.1.1).1
      have hrt : s.retireHalt = false ∧ s.retireLockup = false := by
        constructor <;> apply Bool.eq_false_of_not_eq_true <;> intro hv
        · simp only [retireHalt, Bool.and_eq_true] at hv
          exact hnd (hs.terminal (by simp [retireTerminal, hv.1, hv.2]))
        · simp only [retireLockup, Bool.and_eq_true] at hv
          exact hnd (hs.terminal (by simp [retireTerminal, hv.1, hv.2]))
      have hst : s.halted = false ∧ s.lockedUp = false := by
        rw [← Bool.or_eq_false_iff]
        apply Bool.eq_false_of_not_eq_true
        intro hv
        exact hnd (hs.stopped hv).1
      simp [clearPipeline, h1, h2, h3, h4, h5, h6, hvf, hrt.1, hrt.2, hst.1, hst.2]
    simp [nextXm, managedXm, hch, hm, he, hr, hxm, hl, ht, hc, hx, hp]
  rcases hcase with ⟨_, h'⟩ | ⟨hw, _⟩ | ⟨_, h'⟩ | ⟨ha, hl, hk'⟩
  · rw [hk] at h'
    cases h'
  · simp only [memoryWalkStart, Bool.and_eq_true, Bool.not_eq_true'] at hw
    obtain ⟨⟨⟨hready, _⟩, _⟩, hc⟩ := hw
    obtain ⟨hx, hp, hwk, _⟩ := memoryTranslateReady_spec hready
    refine stays hx hp ?_ hc
    apply Bool.eq_false_of_not_eq_true
    intro h
    simp only [walkLeafSuccess, PageWalk.leafSuccess, Bool.and_eq_true] at h
    exact Bool.false_ne_true (hwk.symm.trans (hs.walking h.1.1))
  · rw [hk] at h'
    cases h'
  · rw [hk] at hk'
    obtain ⟨hx, hp⟩ := hs.memoryWalk ha hk'.symm
    exact stays hx hp hl (by simp [memoryTranslateComplete, memoryTranslateReady, ha])

lemma nextWalk_vector (hs : s.Occupancy) (h : (s.nextWalk i).active = true)
    (hk : (s.nextWalk i).resumeKind = .vector) :
    (s.nextVector i).active = true ∧ (s.nextVector i).physValid = false := by
  obtain ⟨hab, hcase⟩ := nextWalk_active h
  simp only [abandonsWalk, Bool.or_eq_false_iff] at hab
  obtain ⟨⟨⟨⟨⟨h1, _⟩, h3⟩, h4⟩, _⟩, _⟩ := hab
  have stays : s.vector.active = true → s.vector.physValid = false → s.walkLeafSuccess = false →
      s.vectorTranslateComplete = false → (s.nextVector i).active = true ∧ (s.nextVector i).physValid = false := by
    intro hv hp hl ht
    simp [nextVector, h1, h3, h4, vectorFails, vectorEnters, vectorResponseValid, hp, hl, ht, hv]
  rcases hcase with ⟨_, h'⟩ | ⟨_, h'⟩ | ⟨hw, _⟩ | ⟨ha, hl, hk'⟩
  · rw [hk] at h'
    cases h'
  · rw [hk] at h'
    cases h'
  · simp only [vectorWalkStart, Bool.and_eq_true, Bool.not_eq_true'] at hw
    obtain ⟨⟨⟨hready, _⟩, _⟩, hc⟩ := hw
    obtain ⟨hv, hp, hwk⟩ := vectorTranslateReady_spec hready
    refine stays hv hp ?_ hc
    apply Bool.eq_false_of_not_eq_true
    intro h
    simp only [walkLeafSuccess, PageWalk.leafSuccess, Bool.and_eq_true] at h
    exact Bool.false_ne_true (hwk.symm.trans (hs.walking h.1.1))
  · rw [hk] at hk'
    obtain ⟨hv, hp⟩ := hs.vectorWalk ha hk'.symm
    exact stays hv hp hl (by simp [vectorTranslateComplete, vectorTranslateReady, ha])

end Preservation

section Runs

lemma occupancy_reset (c : CoreConfig) : (reset c).Occupancy where
  starting _ := ⟨⟨rfl, rfl, rfl, rfl⟩, rfl, rfl, rfl⟩
  resultAlone h := by cases h
  bufferEmpty h := by cases h
  terminal h := by cases h
  stopped h := by cases h
  entering h := by cases h
  faulting h := by cases h
  walking h := by cases h
  fetchWalk h := by cases h
  memoryWalk h := by cases h
  vectorWalk h := by cases h

lemma occupancy_start (hs : s.Occupancy) (hr : s.resetPending = true) : (s.step i).Occupancy := by
  obtain ⟨hd, hret, hv, hw⟩ := hs.starting hr
  rw [step_reset_eq i hr]
  exact
    { starting := fun h => by cases h
      resultAlone := fun h => absurd h (by simp [stepSubmodules, hd.mr])
      bufferEmpty := fun h => absurd h (by simp [stepSubmodules, hd.xm])
      terminal := fun h => absurd h (by simp [retireTerminal, stepSubmodules, hret])
      stopped := fun _ => ⟨⟨hd.fd, hd.de, hd.xm, hd.mr⟩, hret⟩
      entering := fun h => absurd h (by simp [stepSubmodules, hv])
      faulting := fun _ =>
        ⟨hd.mr, fun h => absurd h (by simp [stepSubmodules, hd.xm]),
          fun h => absurd h (by simp [stepSubmodules, hd.de])⟩
      walking := fun h => absurd (hs.walking h) (by simp [hw])
      fetchWalk := fun h => absurd h (by simp [stepSubmodules, hw])
      memoryWalk := fun h => absurd h (by simp [stepSubmodules, hw])
      vectorWalk := fun h => absurd h (by simp [stepSubmodules, hw]) }

theorem Occupancy.step (hs : s.Occupancy) (i : CoreInputs c) : (s.step i).Occupancy := by
  cases hr : s.resetPending with
  | true => exact occupancy_start hs hr
  | false =>
    rw [step_eq i hr]
    refine ⟨fun h => ?_, nextMr_alone, fun h => ?_, fun h => ?_, fun h => ?_, fun h => ?_,
      nextPendingFault_spec hs, nextWalk_processing hs, fun h hk => ?_, nextWalk_memory hs, nextWalk_vector hs⟩
    · exact absurd (hr.symm.trans h) (by simp)
    · have hb := nextXm_bufferEmpty hs h
      exact Bool.or_eq_false_iff.mpr hb
    · simp only [retireTerminal, Bool.and_eq_true] at h
      obtain ⟨h1, h2, h3, h4⟩ := nextRetire_terminal h.1 h.2
      exact ⟨h1, h2, h3, h4⟩
    · obtain ⟨⟨h1, h2, h3, h4⟩, h5⟩ := next_of_clear (stops_clear h)
      exact ⟨⟨h1, h2, h3, h4⟩, h5⟩
    · rcases nextVector_active h with he | ⟨he, ha, _⟩
      · obtain ⟨⟨h1, h2, h3, h4⟩, h5⟩ := next_of_clear (entryStart_clear he)
        exact ⟨⟨h1, h2, h3, h4⟩, h5, by simp [stepSubmodules, nextPendingFault, he]⟩
      · obtain ⟨hd, _⟩ := hs.entering ha
        obtain ⟨h1, h2, h3, h4⟩ := hd.next (i := i) (entering_blocked ha)
        exact ⟨⟨h1, h2, h3, h4⟩, hd.nextRetire,
          by simp [stepSubmodules, nextPendingFault, he, entering_quiet hs ha]⟩
    · obtain ⟨⟨h1, h2, h3, h4⟩, h5, h6⟩ := nextWalk_fetch hs h hk
      exact ⟨⟨h1, h2, h3, h4⟩, h5, h6⟩

end Runs

end Little64.Hdl.Core

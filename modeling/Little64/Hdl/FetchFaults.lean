import Little64.Hdl.ControlFlow

/-! Exceptions of the instruction fetch: which program counters trap or lock the core up. -/

namespace Little64.Hdl.Core

open Runs

variable {c : CoreConfig}

/-- The fetch address faults in this cycle, or the walk for it does. -/
def raisesFetchFault (s : Core c) : Bool :=
  s.fetchFaultRaised || (s.walkFaultTrap && s.walk.resumeKind == .fetch)

/-- The fetch faults only at the next PC, and a bus error locks the core up only for the line that was
translated for it. -/
structure FetchFaultsDue (s : Core c) (i : CoreInputs c) (a : Arch) (g : Sources) : Prop where
  raised : s.raisesFetchFault = true → s.trapRequestNext.pc = a.pc
  entered : s.stopped = false → s.trapStart = true → s.entryEpc = a.pc
  lockup : s.fetchError i = true →
    g.line = a.pc ∧ s.frontend.requestLineBase = s.fetch.physAddr &&& fetchLineMask

/-- Every instruction fetched has left the pipeline, and nothing will move the fetch address. -/
structure FetchSettled (s : Core c) : Prop where
  fd : s.fd.valid = false
  de : s.de.valid = false
  xm : s.xm.valid = false
  flowing : s.Flowing

/-- A stopped core raises no fetch fault, and a bus error answers a demand request for the line that the
settled fetch address lies in. -/
structure FetchesOnPath (s : Core c) (i : CoreInputs c) : Prop where
  redirects : s.RedirectsAlone
  running : s.raisesFetchFault = true → s.stopped = false
  errors : s.fetchError i = true →
    s.stopped = false ∧ s.FetchSettled ∧ s.fetch.physValid = true ∧
      s.frontend.requestLineBase = s.fetch.physAddr &&& fetchLineMask

instance (s : Core c) : Decidable s.FetchSettled :=
  decidable_of_iff
    (s.fd.valid = false ∧ s.de.valid = false ∧ s.xm.valid = false ∧ s.vector.active = false ∧
      s.retireTerminal = false ∧ s.pendingFault.pending = false ∧ s.memoryRedirect = false)
    ⟨fun h => ⟨h.1, h.2.1, h.2.2.1, ⟨h.2.2.2.1, h.2.2.2.2.1, h.2.2.2.2.2.1, h.2.2.2.2.2.2⟩⟩,
      fun h => ⟨h.fd, h.de, h.xm, h.flowing.vector, h.flowing.terminal, h.flowing.pending, h.flowing.redirect⟩⟩

instance (s : Core c) (i : CoreInputs c) : Decidable (s.FetchesOnPath i) :=
  decidable_of_iff
    (s.RedirectsAlone ∧ (s.raisesFetchFault = true → s.stopped = false) ∧
      (s.fetchError i = true → s.stopped = false ∧ s.FetchSettled ∧ s.fetch.physValid = true ∧
        s.frontend.requestLineBase = s.fetch.physAddr &&& fetchLineMask))
    ⟨fun h => ⟨h.1, h.2.1, h.2.2⟩, fun h => ⟨h.redirects, h.running, h.errors⟩⟩

variable {s : Core c} {i : CoreInputs c} {a : Arch} {g : Sources}

lemma pending_of_raises (h : s.raisesFetchFault = true) : s.trapRequestNext.pending = true := by
  simp only [raisesFetchFault, Bool.or_eq_true, Bool.and_eq_true] at h
  rcases h with h | h
  · simp [trapRequestNext, h]
  · simp [trapRequestNext, h.1]

lemma FetchSettled.pc (hs : s.FetchSettled) (hf : s.FlowAgree a g) : s.fetch.pc = a.pc := by
  have hsteers : s.steers = false := by simp [steers, hs.de]
  rw [hf.fetch hs.flowing hsteers, hs.fd, nextAfter, hs.de, base, hs.xm]
  rfl

lemma FetchesOnPath.due {p : Core c × Arch × Sources} (hp : FlowInvariant p) (h : p.1.FetchesOnPath i) :
    p.1.FetchFaultsDue i p.2.1 p.2.2 where
  raised hr := by
    have hf := hp.agree (h.running hr)
    exact (fault_next (i := i) hp.occupancy hf h.redirects (pending_of_raises hr)).1
  entered hlive ht := by
    apply entryEpc_eq (i := i) (hp.agree hlive)
    rw [entryStart, ht, Bool.true_or]
  lockup he := by
    obtain ⟨hlive, hs, hv, hline⟩ := h.errors he
    have hf := hp.agree hlive
    exact ⟨(hf.line hs.flowing.vector hv).trans (hs.pc hf), hline⟩

/-- No fetch of a wrong path traps or locks the core up. -/
theorem fetch_faults_due (c : CoreConfig) (is : List (CoreInputs c)) (i : CoreInputs c)
    (h : Along traced (fun p i => p.1.FetchesOnPath i) (tracedReset c) (is ++ [i])) :
    let p := run traced (tracedReset c) is
    p.1.FetchFaultsDue i p.2.1 p.2.2 := by
  have hrun := flowInvariant_run (h.of_append.mono fun _ _ h => h.redirects)
  exact FetchesOnPath.due hrun h.last

/-- A bus error for the line of the reset vector. -/
theorem fetch_faults_due_sample :
    (run traced (tracedReset .uncached) (List.replicate 3 (.endless .uncached 0 0))).2.2.line = 0 := by
  have h := fetch_faults_due .uncached (List.replicate 3 (.endless .uncached 0 0))
    { CoreInputs.endless .uncached 0 0 with iBus := ⟨false, true, 0⟩ } (by decide +kernel)
  exact (h.lockup (by decide +kernel)).1.trans (by decide +kernel)

/-- `LOAD R15, [R1]` in the last half-word of the first line: while it waits for the data bus, a bus error of
the next line locks the core up. -/
theorem pending_load_locks_up : ¬ ∀ (c : CoreConfig) (is : List (CoreInputs c)) (i : CoreInputs c),
    let p := run traced (tracedReset c) is
    p.1.FetchFaultsDue i p.2.1 p.2.2 := by
  intro h
  have hline := ((h .uncached
    (List.replicate 4 (.endless .uncached 0x001F800280028002 0x100) ++
      List.replicate 6 { CoreInputs.endless .uncached 0 0x100 with iBus := ⟨false, true, 0⟩ })
    { CoreInputs.endless .uncached 0 0x100 with iBus := ⟨false, true, 0⟩ }).lockup (by decide +kernel)).1
  revert hline
  decide +kernel

end Little64.Hdl.Core

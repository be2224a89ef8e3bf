import Little64.Hdl.ControlFlow

/-! Control transfers by memory reads: the instruction that executes after a load into `R15`. -/

namespace Little64.Hdl.Core

open Runs

variable {c : CoreConfig}

/-- In this cycle a memory operation completes that writes a value to `R15`: in the memory stage, from
the bus or the data cache, or from the store buffer. -/
def LoadsPc (s : Core c) (i : CoreInputs c) (value : Word) : Prop :=
  s.memoryToRetire i = true ∧ (s.memoryResult i).writes.lookup 15 = some value ∨
    s.executeToStorebufLoad = true ∧ s.execute.memory.regIndex = 15 ∧ s.storebufLoadValue = value

/-- No instruction completes and no exception enters in this cycle. -/
def NothingCompletes (s : Core c) (i : CoreInputs c) : Prop := s.effect i = none ∧ s.vectorEnters i = false

instance (s : Core c) (i : CoreInputs c) : Decidable (s.NothingCompletes i) := by
  unfold NothingCompletes
  infer_instance

variable {s : Core c} {i : CoreInputs c} {a : Arch} {value : Word}

lemma pc_of_load (hs : s.Occupancy) (h : s.LoadsPc i value) : (s.architecturalStep i a).pc = value := by
  have hx : s.memoryToRetire i = true ∨ s.de.valid = true := by
    rcases h with h | h
    · exact .inl h.1
    · exact .inr (executeToStorebufLoad_spec h.1).1
  have hr : s.resetPending = false := by
    apply Bool.eq_false_of_not_eq_true
    intro hr
    have hd := (hs.starting hr).1
    rcases hx with hx | hx
    · exact Bool.false_ne_true (hd.xm.symm.trans (memoryToRetire_spec hx).1)
    · exact Bool.false_ne_true (hd.de.symm.trans hx)
  have hve : s.vectorEnters i = false := by
    apply Bool.eq_false_of_not_eq_true
    intro hve
    have hd := (hs.entering (vectorEnters_spec hve)).1
    rcases hx with hx | hx
    · exact Bool.false_ne_true (hd.xm.symm.trans (memoryToRetire_spec hx).1)
    · exact Bool.false_ne_true (hd.de.symm.trans hx)
  rw [architectural_pc hr hve]
  rcases h with ⟨hm, hv⟩ | ⟨hbl, h15, hv⟩
  · rw [effect_of_memory hm]
    exact MemoryOp.resultNextPc_of_lookup _ _ hv
  · have hspec := executeToStorebufLoad_spec hbl
    have hb : s.executeToStorebuf = false := by
      apply Bool.eq_false_of_not_eq_true
      intro hb
      exact Bool.false_ne_true (hspec.2.2.1.symm.trans (executeToStorebuf_spec hb).2.2.1)
    have hm : s.memoryToRetire i = false := by simp [memoryToRetire, hspec.2.2.2.2.2.2.2.1]
    rw [effect, hm, hb, hbl]
    exact (if_pos h15).trans hv

lemma pc_of_nothing {p : Core c × Arch × Sources} {js : List (CoreInputs c)}
    (h : Along traced (fun p i => p.1.NothingCompletes i) p js) : (run traced p js).2.1.pc = p.2.1.pc := by
  induction h with
  | nil p => rfl
  | @cons p i js hn _ ih =>
    refine ih.trans ?_
    change (p.1.architecturalStep i p.2.1).pc = p.2.1.pc
    cases hr : p.1.resetPending with
    | true =>
      rw [architecturalStep, hr]
      rfl
    | false =>
      rw [architectural_pc hr hn.2, hn.1]
      rfl

/-- After a memory operation that writes `R15`, the first instruction to execute is the one fetched for
the value written, and an exception or interrupt that comes first saves that value. -/
theorem load_transfers_control (c : CoreConfig) (is : List (CoreInputs c)) (i : CoreInputs c)
    (js : List (CoreInputs c)) (value : Word)
    (h : Along traced (fun p _ => p.1.RedirectsAlone) (tracedReset c) (is ++ i :: js))
    (hload : (run traced (tracedReset c) is).1.LoadsPc i value)
    (hnext : Along traced (fun p i => p.1.NothingCompletes i) (run traced (tracedReset c) (is ++ [i])) js) :
    let p := run traced (tracedReset c) (is ++ i :: js)
    (p.1.executeLeaves = true → p.1.de.pc = value ∧ p.2.2.de = value) ∧
      (p.1.stopped = false → ∀ i', p.1.entryStart i' = true → p.1.entryEpc = value) := by
  intro p
  have hinv : FlowInvariant p := flowInvariant_run h
  have hinv0 : FlowInvariant (run traced (tracedReset c) is) := flowInvariant_run h.of_append
  have hrun : p = run traced (run traced (tracedReset c) (is ++ [i])) js := by
    rw [← run_append, List.append_assoc]
    rfl
  have hpc : p.2.1.pc = value := by
    rw [hrun, pc_of_nothing hnext, run_append]
    exact pc_of_load hinv0.occupancy hload
  constructor
  · intro hl
    rw [← hpc]
    exact executes_next hinv hl
  · intro hlive i' he
    rw [← hpc]
    exact entryEpc_eq (hinv.agree hlive) he

/-- `LOAD R15, [R1]` from a bus that answers with `0x200`. -/
theorem load_transfers_control_sample :
    (run traced (tracedReset .uncached)
      (List.replicate 14
        { CoreInputs.endless .uncached 0xDF00DF00DF00001F 0x100 with dBus := ⟨true, false, 0x200⟩ })).1.de.pc =
      0x200 := by
  have h := load_transfers_control .uncached
    (List.replicate 8 { CoreInputs.endless .uncached 0xDF00DF00DF00001F 0x100 with dBus := ⟨true, false, 0x200⟩ })
    { CoreInputs.endless .uncached 0xDF00DF00DF00001F 0x100 with dBus := ⟨true, false, 0x200⟩ }
    (List.replicate 5 { CoreInputs.endless .uncached 0xDF00DF00DF00001F 0x100 with dBus := ⟨true, false, 0x200⟩ })
    0x200 (by decide +kernel) (.inl ⟨by decide +kernel, by decide +kernel⟩) (by decide +kernel)
  exact (h.1 (by decide +kernel)).1

/-- `STORE R13, [R1]` and `LOAD R15, [R1]`, served by the store buffer: the instruction behind the load executes. -/
theorem buffered_load_falls_through : ¬ ∀ (c : CoreConfig) (is : List (CoreInputs c)) (i : CoreInputs c)
    (js : List (CoreInputs c)) (value : Word),
    (run traced (tracedReset c) is).1.LoadsPc i value →
    Along traced (fun p i => p.1.NothingCompletes i) (run traced (tracedReset c) (is ++ [i])) js →
    let p := run traced (tracedReset c) (is ++ i :: js)
    p.1.executeLeaves = true → p.1.de.pc = value := by
  intro h
  have hpc := h .uncached
    (List.replicate 7 { CoreInputs.endless .uncached 0xDF00DF00001F041D 0x100 with bootR13 := 0x200 })
    { CoreInputs.endless .uncached 0xDF00DF00001F041D 0x100 with bootR13 := 0x200 } [] 0x200
    (.inr ⟨by decide +kernel, by decide +kernel, by decide +kernel⟩) (.nil _) (by decide +kernel)
  revert hpc
  decide +kernel

end Little64.Hdl.Core

import Little64.Library.Runs
import Little64.Hdl.LineCache

/-! The line cache beside the memory that its fills come from and its store updates mirror. -/

namespace Little64.Hdl

open LineCache

structure CachedMemory (indexBits : ℕ) where
  cache : LineCache indexBits
  /-- The lines of the memory, under their numbers. -/
  memory : BitVec 61 → Word

namespace CachedMemory

variable {indexBits : ℕ} {s : CachedMemory indexBits} {i : LineCacheInputs} {addr : Word}

/-- The line that a store leaves in the memory. -/
def stored (s : CachedMemory indexBits) (i : LineCacheInputs) : Word :=
  mergeBytes i.storeUpdateSel i.storeUpdateData (s.memory (line i.storeUpdateAddr))

/-- A cycle: a fill brings what the memory holds, and a store update goes with the write that it mirrors. -/
def step (s : CachedMemory indexBits) (i : LineCacheInputs) : CachedMemory indexBits where
  cache := s.cache.step { i with fillData := s.memory (line i.fillAddr) }
  memory := if i.storeUpdateValid then Function.update s.memory (line i.storeUpdateAddr) (s.stored i) else s.memory

/-- What a lookup finds is what the memory holds. -/
def Coherent (s : CachedMemory indexBits) : Prop :=
  ∀ addr, s.cache.lookupHit addr = true → s.cache.lookupData addr = s.memory (line addr)

/-- The update of a cached line gives way to the invalidation of another one. -/
def Lost (s : CachedMemory indexBits) (i : LineCacheInputs) : Prop :=
  i.flushAll = false ∧ i.invalidateValid = true ∧ i.storeUpdateValid = true ∧
    line i.invalidateAddr ≠ line i.storeUpdateAddr ∧ s.cache.lookupHit i.storeUpdateAddr = true ∧
    s.stored i ≠ s.memory (line i.storeUpdateAddr)

instance (s : CachedMemory indexBits) (i : LineCacheInputs) : Decidable (s.Lost i) := by
  unfold Lost
  infer_instance

lemma lookupHit_iff {c : LineCache indexBits} :
    c.lookupHit addr = true ↔ c.validBits (index addr) = true ∧ c.tags (index addr) = line addr := by
  rw [lookupHit, Bool.and_eq_true, beq_iff_eq]

lemma index_congr {addr' : Word} (h : line addr = line addr') : (index addr : BitVec indexBits) = index addr' := by
  rw [index, index, h]

section Steps

lemma coherent_flush (hflush : i.flushAll = true) : Coherent (s.step i) := by
  intro addr hhit
  have hcache : (s.step i).cache = { s.cache with validBits := fun _ => false } := by
    rw [step, LineCache.step, hflush, if_pos rfl]
  rw [hcache, lookupHit_iff] at hhit
  cases hhit.1

section Invalidations

variable (hflush : i.flushAll = false) (hinvalidate : i.invalidateValid = true)

include hflush hinvalidate

lemma lookupData_invalidate : (s.step i).cache.lookupData addr = s.cache.lookupData addr := by
  rw [step, LineCache.step, hflush, hinvalidate, if_neg Bool.false_ne_true, if_pos rfl]
  split <;> rfl

lemma lookupHit_invalidate : (s.step i).cache.lookupHit addr = true ↔
    s.cache.lookupHit addr = true ∧ line addr ≠ line i.invalidateAddr := by
  rw [step, LineCache.step, hflush, hinvalidate, if_neg Bool.false_ne_true, if_pos rfl]
  simp only
  split
  · next hhit =>
    rw [lookupHit_iff] at hhit
    rw [lookupHit_iff, lookupHit_iff]
    simp only
    by_cases hindex : (index addr : BitVec indexBits) = index i.invalidateAddr
    · rw [if_pos hindex, hindex, hhit.2]
      refine iff_of_false (fun h => Bool.false_ne_true h.1) fun h => h.2 h.1.2.symm
    · rw [if_neg hindex]
      exact ⟨fun h => ⟨h, fun hline => hindex (index_congr hline)⟩, And.left⟩
  · next hhit =>
    refine ⟨fun h => ⟨h, fun hline => hhit ?_⟩, And.left⟩
    rw [lookupHit_iff, ← index_congr hline, ← hline]
    exact lookupHit_iff.1 h

lemma coherent_invalidate (h : Coherent s) : Coherent (s.step i) ↔ ¬ s.Lost i := by
  rw [Lost, and_iff_right hflush, and_iff_right hinvalidate]
  by_cases hstore : i.storeUpdateValid = true
  · have hmemory : (s.step i).memory = Function.update s.memory (line i.storeUpdateAddr) (s.stored i) := if_pos hstore
    rw [and_iff_right hstore]
    constructor
    · intro hcoherent hlost
      have hlookup := hcoherent i.storeUpdateAddr
        ((lookupHit_invalidate hflush hinvalidate).2 ⟨hlost.2.1, hlost.1.symm⟩)
      rw [lookupData_invalidate hflush hinvalidate, h _ hlost.2.1, hmemory, Function.update_self] at hlookup
      exact hlost.2.2 hlookup.symm
    · intro hkept addr hhit
      obtain ⟨hhit, hother⟩ := (lookupHit_invalidate hflush hinvalidate).1 hhit
      rw [lookupData_invalidate hflush hinvalidate, h addr hhit, hmemory]
      by_cases hline : line addr = line i.storeUpdateAddr
      · rw [hline, Function.update_self]
        by_contra hchanged
        apply hkept
        refine ⟨fun hsame => hother (hline.trans hsame.symm), ?_, fun hsame => hchanged hsame.symm⟩
        rw [lookupHit_iff, ← index_congr hline, ← hline]
        exact lookupHit_iff.1 hhit
      · rw [Function.update_of_ne hline]
  · have hmemory : (s.step i).memory = s.memory := if_neg hstore
    refine iff_of_true (fun addr hhit => ?_) fun hlost => hstore hlost.1
    rw [lookupData_invalidate hflush hinvalidate, hmemory]
    exact h addr ((lookupHit_invalidate hflush hinvalidate).1 hhit).1

end Invalidations

lemma coherent_store (hflush : i.flushAll = false) (hinvalidate : i.invalidateValid = false)
    (hstore : i.storeUpdateValid = true) (h : Coherent s) : Coherent (s.step i) := by
  intro addr hhit
  have hmemory : (s.step i).memory = Function.update s.memory (line i.storeUpdateAddr) (s.stored i) := if_pos hstore
  rw [hmemory]
  rw [step, LineCache.step, hflush, hinvalidate, hstore, if_neg Bool.false_ne_true, if_neg Bool.false_ne_true,
    if_pos rfl] at hhit ⊢
  simp only at hhit ⊢
  by_cases hupdate : s.cache.lookupHit i.storeUpdateAddr = true
  · rw [if_pos hupdate] at hhit ⊢
    have hold : s.cache.lookupHit addr = true := hhit
    rw [lookupData]
    simp only
    by_cases hline : line addr = line i.storeUpdateAddr
    · have hdata := h _ hold
      rw [lookupData, hline] at hdata
      rw [if_pos (index_congr hline), hline, Function.update_self, hdata, stored]
    · have hindex : (index addr : BitVec indexBits) ≠ index i.storeUpdateAddr := by
        intro hindex
        apply hline
        rw [← (lookupHit_iff.1 hold).2, ← (lookupHit_iff.1 hupdate).2, hindex]
      rw [if_neg hindex, Function.update_of_ne hline]
      exact h _ hold
  · rw [if_neg hupdate] at hhit ⊢
    have hline : line addr ≠ line i.storeUpdateAddr := by
      intro hline
      apply hupdate
      rw [lookupHit_iff, ← index_congr hline, ← hline]
      exact lookupHit_iff.1 hhit
    rw [Function.update_of_ne hline]
    exact h _ hhit

lemma coherent_fill (hflush : i.flushAll = false) (hinvalidate : i.invalidateValid = false)
    (hstore : i.storeUpdateValid = false) (h : Coherent s) : Coherent (s.step i) := by
  intro addr hhit
  have hmemory : (s.step i).memory = s.memory := if_neg (by rw [hstore]; exact Bool.false_ne_true)
  rw [hmemory]
  rw [step, LineCache.step, hflush, hinvalidate, hstore, if_neg Bool.false_ne_true, if_neg Bool.false_ne_true,
    if_neg Bool.false_ne_true] at hhit ⊢
  simp only at hhit ⊢
  by_cases hfill : i.fillValid = true
  · rw [if_pos hfill] at hhit ⊢
    rw [lookupHit_iff] at hhit
    rw [lookupData]
    simp only at hhit ⊢
    by_cases hindex : (index addr : BitVec indexBits) = index i.fillAddr
    · rw [if_pos hindex, if_pos hindex] at hhit
      rw [if_pos hindex, hhit.2]
    · rw [if_neg hindex, if_neg hindex] at hhit
      rw [if_neg hindex]
      exact h addr (lookupHit_iff.2 hhit)
  · rw [if_neg hfill] at hhit ⊢
    exact h addr hhit

/-- The chain of priorities, branch by branch. -/
lemma coherent_step (h : Coherent s) : Coherent (s.step i) ↔ ¬ s.Lost i := by
  cases hflush : i.flushAll with
  | true =>
    have hkept : ¬ s.Lost i := fun hlost => by
      rw [Lost, hflush] at hlost
      cases hlost.1
    exact iff_of_true (coherent_flush hflush) hkept
  | false =>
    cases hinvalidate : i.invalidateValid with
    | true => exact coherent_invalidate hflush hinvalidate h
    | false =>
      have hkept : ¬ s.Lost i := fun hlost => by
        rw [Lost, hinvalidate] at hlost
        cases hlost.2.1
      cases hstore : i.storeUpdateValid with
      | true => exact iff_of_true (coherent_store hflush hinvalidate hstore h) hkept
      | false => exact iff_of_true (coherent_fill hflush hinvalidate hstore h) hkept

end Steps

/-- Nothing is cached yet. -/
def start (indexBits : ℕ) (memory : BitVec 61 → Word) : CachedMemory indexBits := ⟨LineCache.reset, memory⟩

/-- Lookups find what the memory holds all along a run exactly when none of its steps loses an update. -/
theorem lookups_coherent_iff (indexBits : ℕ) (memory : BitVec 61 → Word) (inputs : List LineCacheInputs) :
    (∀ before, before <+: inputs → Coherent (Runs.run step (start indexBits memory) before)) ↔
      Runs.Along step (fun s i => ¬ s.Lost i) (start indexBits memory) inputs := by
  have hstart : Coherent (start indexBits memory) := fun addr hhit => by
    rw [lookupHit_iff] at hhit
    cases hhit.1
  exact Runs.along_iff (fun s i hs => ⟨coherent_step hs, (coherent_step hs).2⟩) hstart hstart inputs

/-- A line is filled; then it is written while another one is invalidated. -/
def sampleInputs : List LineCacheInputs :=
  [⟨true, 0, 0, false, false, 0, false, 0, 0, 0⟩, ⟨false, 0, 0, false, true, 8, true, 0, 1, 1⟩]

theorem update_lost : ∃ addr, (Runs.run step (start 1 fun _ => 0) sampleInputs).cache.lookupHit addr = true ∧
    (Runs.run step (start 1 fun _ => 0) sampleInputs).cache.lookupData addr ≠
      (Runs.run step (start 1 fun _ => 0) sampleInputs).memory (line addr) :=
  ⟨0, by decide +kernel, by decide +kernel⟩

end CachedMemory

end Little64.Hdl

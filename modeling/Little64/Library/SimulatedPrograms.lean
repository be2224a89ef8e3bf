import Mathlib

/-! Programs over a state, seen through a simulation: what a program does to every state that stands for an abstract
one. -/

namespace SimulatedPrograms

variable {σ τ ε α β : Type}

/-- From every state that `t` stands for, the program returns `a` and ends in one that `t'` stands for. -/
def Does (R : σ → τ → Prop) (m : StateT σ (Except ε) α) (t : τ) (a : α) (t' : τ) : Prop :=
  ∀ s, R s t → ∃ s', m s = .ok (a, s') ∧ R s' t'

variable {R : σ → τ → Prop} {m : StateT σ (Except ε) α} {f : α → StateT σ (Except ε) β} {t t' t'' : τ} {a : α} {b : β}

lemma Does.pure (a : α) : Does R (pure a : StateT σ (Except ε) α) t a t := fun s hs => ⟨s, rfl, hs⟩

lemma Does.bind (hm : Does R m t a t') (hf : Does R (f a) t' b t'') : Does R (m >>= f) t b t'' := by
  intro s hs
  obtain ⟨s', hrun, hs'⟩ := hm s hs
  obtain ⟨s'', hrest, hs''⟩ := hf s' hs'
  refine ⟨s'', ?_, hs''⟩
  change (m s >>= fun r => f r.1 r.2) = _
  rw [hrun]
  exact hrest

/-- What a program has read of its state may be used by what follows. -/
lemma Does.get {f : σ → StateT σ (Except ε) β} (h : ∀ s, R s t → ∃ s', f s s = .ok (b, s') ∧ R s' t') :
    Does R (MonadState.get >>= f) t b t' := h

lemma Does.modify {g : σ → σ} (h : ∀ s, R s t → R (g s) t') :
    Does R (modify g : StateT σ (Except ε) PUnit) t ⟨⟩ t' := fun s hs => ⟨g s, rfl, h s hs⟩

lemma Does.map (g : α → β) (hm : Does R m t a t') : Does R (g <$> m) t (g a) t' := by
  intro s hs
  obtain ⟨s', hrun, hs'⟩ := hm s hs
  refine ⟨s', ?_, hs'⟩
  change (m s >>= fun r => (Except.ok (g r.1, r.2) : Except ε (β × σ))) = _
  rw [hrun]
  rfl

lemma run_discard {s s' : σ} (h : m s = .ok (a, s')) :
    (Functor.discard m : StateT σ (Except ε) PUnit) s = .ok (PUnit.unit, s') := by
  change (m s >>= fun r => (Except.ok (PUnit.unit, r.2) : Except ε (PUnit × σ))) = _
  rw [h]
  rfl

lemma Does.discard (hm : Does R m t a t') : Does R (Functor.discard m) t PUnit.unit t' :=
  hm.map (Function.const α PUnit.unit)

/-- A step for each of some values, with what each does to the part of the abstract state that changes. -/
lemma Does.forM {γ : Type} (at' : γ → τ) {g : γ → β → γ} {step : β → StateT σ (Except ε) PUnit}
    (hstep : ∀ c x, Does R (step x) (at' c) ⟨⟩ (at' (g c x))) (xs : List β) (c : γ) :
    Does R (xs.forM step) (at' c) ⟨⟩ (at' (xs.foldl g c)) := by
  induction xs generalizing c with
  | nil => exact .pure _
  | cons x xs ih => exact (hstep c x).bind (ih (g c x))

end SimulatedPrograms

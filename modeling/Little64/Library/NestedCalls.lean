import Mathlib

/-! Handlers that are called again from within their own calls: how deep a call nests, and when it never returns. -/

namespace NestedCalls

variable {α σ : Type}

abbrev Handler (α σ : Type) := α → σ → Option σ

/-- The handler when its calls may nest that deep and no deeper. -/
def within (handle : Handler α σ → Handler α σ) : ℕ → Handler α σ
  | 0 => fun _ _ => none
  | depth + 1 => handle (within handle depth)

def Returns (handle : Handler α σ → Handler α σ) (call : α) (s : σ) : Prop :=
  ∃ depth, (within handle depth call s).isSome

variable {handle : Handler α σ → Handler α σ} {call : α} {s : σ}

lemma within_eq_none {P : α → σ → Prop} (hnested : ∀ nested call s, P call s → (handle nested call s).isSome →
      ∃ call' s', P call' s' ∧ (nested call' s').isSome) (depth : ℕ) :
    ∀ call s, P call s → within handle depth call s = none := by
  induction depth with
  | zero =>
    intro call s _
    rfl
  | succ depth ih =>
    intro call s hP
    rw [Option.eq_none_iff_forall_not_mem]
    intro t ht
    obtain ⟨call', s', hP', hs'⟩ := hnested (within handle depth) call s hP (Option.isSome_of_mem ht)
    rw [ih call' s' hP'] at hs'
    exact Bool.noConfusion hs'

/-- A call that cannot return without a nested call of its kind does not return at any depth. -/
lemma not_returns {P : α → σ → Prop} (hnested : ∀ nested call s, P call s → (handle nested call s).isSome →
      ∃ call' s', P call' s' ∧ (nested call' s').isSome) (hP : P call s) : ¬ Returns handle call s := by
  rintro ⟨depth, hdepth⟩
  rw [within_eq_none hnested depth call s hP] at hdepth
  exact Bool.noConfusion hdepth

end NestedCalls

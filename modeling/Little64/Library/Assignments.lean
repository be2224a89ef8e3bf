import Mathlib

/-! Registers that a list of assignments is applied to: the last assignment to a register stands. -/

namespace Assignments

variable {σ ι α : Type*}

/-- A state with named parts that are set one by one. -/
structure Bank (σ ι α : Type*) [DecidableEq ι] where
  get : σ → ι → α
  set : σ → ι → α → σ
  get_set : ∀ s r v q, get (set s r v) q = if q = r then v else get s q

def assignIf (b : Bool) (r : ι) (v : α) : List (ι × α) := if b then [(r, v)] else []

lemma mem_assignIf {b : Bool} {r q : ι} {v w : α} : (q, w) ∈ assignIf b r v ↔ b = true ∧ q = r ∧ w = v := by
  cases b <;> simp [assignIf]

namespace Bank

variable [DecidableEq ι] (bank : Bank σ ι α)

def assign (s : σ) (l : List (ι × α)) : σ := l.foldl (fun s a => bank.set s a.1 a.2) s

variable {bank} {s : σ} {r q : ι} {v : α} {l after : List (ι × α)}

lemma assign_append : bank.assign s (l ++ after) = bank.assign (bank.assign s l) after := List.foldl_append

lemma get_assign_of_notMem (h : ∀ a ∈ l, a.1 ≠ r) : bank.get (bank.assign s l) r = bank.get s r := by
  induction l generalizing s with
  | nil => rfl
  | cons a l ih =>
    have hrest := ih (s := bank.set s a.1 a.2) fun b hb => h b (List.mem_cons_of_mem _ hb)
    rw [bank.get_set, if_neg (h a List.mem_cons_self).symm] at hrest
    exact hrest

/-- Assignments that leave a register alone do not matter to it. -/
lemma get_assign_append_left (h : ∀ a ∈ after, a.1 ≠ r) :
    bank.get (bank.assign s (l ++ after)) r = bank.get (bank.assign s l) r := by
  rw [assign_append, get_assign_of_notMem h]

/-- Where all assignments to a register are of one value, it has that value. -/
lemma get_assign_of_mem (hmem : (r, v) ∈ l) (hall : ∀ w, (r, w) ∈ l → w = v) :
    bank.get (bank.assign s l) r = v := by
  induction l using List.reverseRecOn with
  | nil => cases hmem
  | append_singleton l a ih =>
    rw [assign_append]
    change bank.get (bank.set _ a.1 a.2) r = v
    rw [bank.get_set]
    by_cases hr : r = a.1
    · rw [if_pos hr]
      apply hall
      rw [hr]
      exact List.mem_append_right _ (List.mem_singleton_self _)
    · rw [if_neg hr]
      rcases List.mem_append.mp hmem with hmem | hmem
      · exact ih hmem fun w hw => hall w (List.mem_append_left _ hw)
      · exact absurd (congrArg Prod.fst (List.mem_singleton.mp hmem)) hr

lemma get_assign_snoc_if {b : Bool} : bank.get (bank.assign s (l ++ assignIf b q v)) r =
    if b = true ∧ r = q then v else bank.get (bank.assign s l) r := by
  rw [assign_append]
  cases b with
  | false => exact (if_neg fun h => Bool.false_ne_true h.1).symm
  | true =>
    change bank.get (bank.set _ q v) r = _
    rw [bank.get_set]
    simp only [true_and]

/-- What the registers have before, and every assignment keeps, they have behind the assignments. -/
lemma get_assign_invariant (P : ι → α → Prop) (hs : ∀ r, P r (bank.get s r)) (hl : ∀ a ∈ l, P a.1 a.2) (r : ι) :
    P r (bank.get (bank.assign s l) r) := by
  induction l generalizing s with
  | nil => exact hs r
  | cons a l ih =>
    apply ih (s := bank.set s a.1 a.2) _ fun b hb => hl b (List.mem_cons_of_mem _ hb)
    intro q
    rw [bank.get_set]
    split
    · next hq =>
      rw [hq]
      exact hl a List.mem_cons_self
    · exact hs q

end Bank

end Assignments

import Mathlib

/-! Walks down a radix tree of tables: which entries a walk visits, when two
memories or two walkers give the same answer. -/

namespace RadixWalk

variable {Table Addr Entry Result Result' : Type*}

/-- At level `n + 1` an entry ends the walk or names the next table; at level `0` it ends it. -/
structure Walker (Table Addr Entry Result : Type*) where
  slot : ℕ → Table → Addr
  descend : ℕ → Entry → Result ⊕ Table
  last : Entry → Result

namespace Walker

variable (W V : Walker Table Addr Entry Result) (read read' : Addr → Entry)

def run : ℕ → Table → Result
  | 0, t => W.last (read (W.slot 0 t))
  | n + 1, t =>
    match W.descend (n + 1) (read (W.slot (n + 1) t)) with
    | .inl r => r
    | .inr t' => run n t'

/-- The levels, slots and entries a walk visits, in order. -/
def trail : ℕ → Table → List (ℕ × Addr × Entry)
  | 0, t => [(0, W.slot 0 t, read (W.slot 0 t))]
  | n + 1, t =>
    (n + 1, W.slot (n + 1) t, read (W.slot (n + 1) t)) ::
      match W.descend (n + 1) (read (W.slot (n + 1) t)) with
      | .inl _ => []
      | .inr t' => trail n t'

def map (f : Result → Result') : Walker Table Addr Entry Result' where
  slot := W.slot
  descend n e := (W.descend n e).map f id
  last e := f (W.last e)

lemma run_map (f : Result → Result') (n : ℕ) (t : Table) : (W.map f).run read n t = f (W.run read n t) := by
  induction n generalizing t with
  | zero => rfl
  | succ n ih =>
    simp only [run, map]
    cases W.descend (n + 1) (read (W.slot (n + 1) t)) with
    | inl r => rfl
    | inr t' => exact ih t'

lemma trail_map (f : Result → Result') (n : ℕ) (t : Table) : (W.map f).trail read n t = W.trail read n t := by
  induction n generalizing t with
  | zero => rfl
  | succ n ih =>
    simp only [trail, map]
    cases W.descend (n + 1) (read (W.slot (n + 1) t)) with
    | inl r => rfl
    | inr t' => exact congrArg _ (ih t')

lemma trail_entry {n : ℕ} {t : Table} {v : ℕ × Addr × Entry} (h : v ∈ W.trail read n t) : v.2.2 = read v.2.1 := by
  induction n generalizing t with
  | zero => rw [List.mem_singleton.mp h]
  | succ n ih =>
    rcases List.mem_cons.mp h with rfl | ht
    · rfl
    · cases hd : W.descend (n + 1) (read (W.slot (n + 1) t)) with
      | inl r => rw [hd] at ht; exact absurd ht List.not_mem_nil
      | inr t' => rw [hd] at ht; exact ih ht

lemma run_congr {n : ℕ} {t : Table} (h : ∀ v ∈ W.trail read n t, read' v.2.1 = v.2.2) :
    W.run read' n t = W.run read n t := by
  induction n generalizing t with
  | zero => simp only [run, h _ (List.mem_singleton_self _)]
  | succ n ih =>
    have hr : read' (W.slot (n + 1) t) = read (W.slot (n + 1) t) := h _ List.mem_cons_self
    simp only [run, hr]
    have ht : ∀ v ∈ W.trail read (n + 1) t, read' v.2.1 = v.2.2 := h
    simp only [trail] at ht
    cases hd : W.descend (n + 1) (read (W.slot (n + 1) t)) with
    | inl r => rfl
    | inr t' =>
      rw [hd] at ht
      exact ih fun v hv => ht v (List.mem_cons_of_mem _ hv)

/-- Two walkers that read the same slots, and part ways only at entries where both end with
different results, agree exactly on the walks that visit no such entry. -/
theorem run_eq_iff {parts : ℕ → Entry → Prop} (hs : W.slot = V.slot)
    (hlast : ∀ e, W.last e = V.last e ↔ ¬ parts 0 e) (n : ℕ)
    (hsame : ∀ k e, k < n → ¬ parts (k + 1) e → W.descend (k + 1) e = V.descend (k + 1) e)
    (hdiff : ∀ k e, k < n → parts (k + 1) e →
      ∃ r r', W.descend (k + 1) e = .inl r ∧ V.descend (k + 1) e = .inl r' ∧ r ≠ r') (t : Table) :
    W.run read n t = V.run read n t ↔ ∀ v ∈ W.trail read n t, ¬ parts v.1 v.2.2 := by
  induction n generalizing t with
  | zero => simp only [run, trail, ← hs, List.forall_mem_singleton, hlast]
  | succ n ih =>
    have ih := ih (fun k e hk => hsame k e (Nat.lt_succ_of_lt hk)) (fun k e hk => hdiff k e (Nat.lt_succ_of_lt hk))
    simp only [run, trail, ← hs, List.forall_mem_cons]
    by_cases hp : parts (n + 1) (read (W.slot (n + 1) t))
    · obtain ⟨r, r', hw, hv, hne⟩ := hdiff n _ (Nat.lt_succ_self n) hp
      simp only [hw, hv, hp, hne, not_true, false_and]
    · rw [← hsame n _ (Nat.lt_succ_self n) hp]
      cases W.descend (n + 1) (read (W.slot (n + 1) t)) with
      | inl r => simp only [hp, not_false_eq_true, List.not_mem_nil, false_implies, implies_true, and_self]
      | inr t' => simp only [hp, not_false_eq_true, true_and, ih t']

end Walker

end RadixWalk

import Mathlib

/-! Machines that take one input a step: runs under a condition on their steps,
invariants of such runs, and machines watched by a monitor. -/

namespace Runs

variable {State Input Event : Type*}

def run (step : State → Input → State) (s : State) (is : List Input) : State := is.foldl step s

/-- A machine with the list of all that its steps emitted. -/
def logged (step : State → Input → State) (emits : State → Input → List Event) :
    State × List Event → Input → State × List Event :=
  fun p i => (step p.1 i, p.2 ++ emits p.1 i)

lemma append_singleton_eq_split {log before after : List Event} {e x : Event} :
    log ++ [e] = before ++ x :: after ↔
      after = [] ∧ log = before ∧ e = x ∨ ∃ rest, after = rest ++ [e] ∧ log = before ++ x :: rest := by
  constructor
  · intro heq
    rcases List.eq_nil_or_concat after with rfl | ⟨rest, last, rfl⟩
    · obtain ⟨hl, he⟩ := List.append_inj' heq rfl
      exact .inl ⟨rfl, hl, by simpa using he⟩
    · rw [List.concat_eq_append, ← List.cons_append, ← List.append_assoc] at heq
      obtain ⟨hl, he⟩ := List.append_inj' heq rfl
      have hlast : e = last := by simpa using he
      exact .inr ⟨rest, by rw [List.concat_eq_append, hlast], hl⟩
  · rintro (⟨rfl, rfl, rfl⟩ | ⟨rest, rfl, rfl⟩) <;> simp

/-- A mark that nothing behind it takes away, in a list that grows by one. -/
lemma exists_mark_append {log : List Event} {e mark : Event} {Keeps : Event → Prop} :
    (∃ before after, log ++ [e] = before ++ mark :: after ∧ ∀ x ∈ after, Keeps x) ↔
      e = mark ∨ (∃ before after, log = before ++ mark :: after ∧ ∀ x ∈ after, Keeps x) ∧ Keeps e := by
  simp only [append_singleton_eq_split]
  constructor
  · rintro ⟨before, after, ⟨rfl, rfl, rfl⟩ | ⟨rest, rfl, rfl⟩, hkeeps⟩
    · exact .inl rfl
    · refine .inr ⟨⟨before, rest, rfl, fun x h => hkeeps x (List.mem_append_left _ h)⟩, ?_⟩
      exact hkeeps e (List.mem_append_right _ (List.mem_singleton_self e))
  · rintro (rfl | ⟨⟨before, after, rfl, hkeeps⟩, he⟩)
    · exact ⟨log, [], .inl ⟨rfl, rfl, rfl⟩, fun _ h => absurd h List.not_mem_nil⟩
    · refine ⟨before, after ++ [e], .inr ⟨after, rfl, rfl⟩, fun x h => ?_⟩
      rcases List.mem_append.1 h with h | h
      · exact hkeeps x h
      · rw [List.mem_singleton.1 h]
        exact he

lemma run_append (step : State → Input → State) (s : State) (is js : List Input) :
    run step s (is ++ js) = run step (run step s is) js := List.foldl_append

/-- Where each step emits one event, the beginnings of the log are the logs of the beginnings of the run. -/
lemma prefix_logged_iff (step : State → Input → State) (emit : State → Input → Event) (s : State) {is : List Input}
    {log : List Event} :
    log <+: (run (logged step fun s i => [emit s i]) (s, []) is).2 ↔
      ∃ is', is' <+: is ∧ (run (logged step fun s i => [emit s i]) (s, []) is').2 = log := by
  induction is using List.reverseRecOn with
  | nil =>
    simp only [List.prefix_nil, exists_eq_left]
    exact List.prefix_nil.trans eq_comm
  | append_singleton is i ih =>
    have hlog : (run (logged step fun s i => [emit s i]) (s, []) (is ++ [i])).2 =
        (run (logged step fun s i => [emit s i]) (s, []) is).2 ++
          [emit (run (logged step fun s i => [emit s i]) (s, []) is).1 i] := by
      rw [run_append]
      rfl
    rw [hlog, List.prefix_concat_iff, ih, ← hlog]
    constructor
    · rintro (rfl | ⟨is', hbefore, rfl⟩)
      · exact ⟨is ++ [i], List.prefix_rfl, rfl⟩
      · exact ⟨is', hbefore.trans (List.prefix_append is [i]), rfl⟩
    · rintro ⟨is', hbefore, rfl⟩
      rcases List.prefix_concat_iff.1 hbefore with rfl | hbefore
      · exact .inl rfl
      · exact .inr ⟨is', hbefore, rfl⟩

/-- What lasts until something happens, and is bound to happen, is there when it happens. -/
lemma exists_fires {P fires : ℕ → Prop} (hkeep : ∀ k, P k → ¬ fires k → P (k + 1)) {n : ℕ} (hn : P n)
    (hfires : ∃ m ≥ n, P m → fires m) : ∃ k, P k ∧ fires k := by
  obtain ⟨m, hm, hlast⟩ := hfires
  obtain ⟨d, rfl⟩ := Nat.exists_eq_add_of_le hm
  induction d generalizing n with
  | zero => exact ⟨n, hn, hlast hn⟩
  | succ d ih =>
    by_cases hf : fires n
    · exact ⟨n, hn, hf⟩
    · apply ih (hkeep n hn hf) (by omega)
      rw [Nat.add_right_comm]
      exact hlast

section Conditional

variable (step : State → Input → State) (Allowed : State → Input → Prop)

/-- The states of the runs from a start state whose steps are all allowed. -/
inductive Reach (Start : State → Prop) : State → Prop
  | start {s} : Start s → Reach Start s
  | next {s} (i : Input) : Reach Start s → Allowed s i → Reach Start (step s i)

variable {step Allowed}

theorem Reach.invariant {Start Inv : State → Prop} (h0 : ∀ s, Start s → Inv s)
    (hstep : ∀ s i, Inv s → Allowed s i → Inv (step s i)) {s : State}
    (h : Reach step Allowed Start s) : Inv s := by
  induction h with
  | start hs => exact h0 _ hs
  | next i _ ha ih => exact hstep _ i ih ha

lemma Reach.mono {Allowed' : State → Input → Prop} {Start : State → Prop}
    (hm : ∀ s i, Allowed s i → Allowed' s i) {s : State} (h : Reach step Allowed Start s) :
    Reach step Allowed' Start s := by
  induction h with
  | start hs => exact .start hs
  | next i _ ha ih => exact .next i ih (hm _ i ha)

/-- Each step of a run is allowed in the state it is taken from. -/
inductive Along (step : State → Input → State) (Allowed : State → Input → Prop) :
    State → List Input → Prop
  | nil (s) : Along step Allowed s []
  | cons {s i is} : Allowed s i → Along step Allowed (step s i) is → Along step Allowed s (i :: is)

lemma Along.mono {Allowed' : State → Input → Prop} (hm : ∀ s i, Allowed s i → Allowed' s i) {s : State}
    {is : List Input} (h : Along step Allowed s is) : Along step Allowed' s is := by
  induction h with
  | nil s => exact .nil s
  | cons ha _ ih => exact .cons (hm _ _ ha) ih

lemma Along.of_append {s : State} {is is' : List Input} (h : Along step Allowed s (is ++ is')) :
    Along step Allowed s is := by
  induction is generalizing s with
  | nil => exact .nil s
  | cons i is ih =>
    cases h with
    | cons ha hrest => exact .cons ha (ih hrest)

lemma Along.append_right {s : State} {is is' : List Input} (h : Along step Allowed s (is ++ is')) :
    Along step Allowed (run step s is) is' := by
  induction is generalizing s with
  | nil => exact h
  | cons i is ih =>
    cases h with
    | cons _ hrest => exact ih hrest

lemma Along.last {s : State} {is : List Input} {i : Input} (h : Along step Allowed s (is ++ [i])) :
    Allowed (run step s is) i := by
  cases h.append_right with
  | cons ha _ => exact ha

/-- What the start state has and every allowed step keeps holds at the end of a run. -/
theorem Along.invariant (Inv : State → Prop) (hstep : ∀ s i, Inv s → Allowed s i → Inv (step s i)) {s : State}
    {is : List Input} (h : Along step Allowed s is) (hs : Inv s) : Inv (run step s is) := by
  induction h with
  | nil s => exact hs
  | @cons s i is ha _ ih => exact ih (hstep s i hs ha)

lemma Along.concat {s : State} {is : List Input} {i : Input} (h : Along step Allowed s is)
    (hi : Allowed (run step s is) i) : Along step Allowed s (is ++ [i]) := by
  induction h with
  | nil s => exact .cons hi (.nil _)
  | cons ha _ ih => exact .cons ha (ih hi)

lemma along_cons_iff {s : State} {i : Input} {is : List Input} :
    Along step Allowed s (i :: is) ↔ Allowed s i ∧ Along step Allowed (step s i) is :=
  ⟨fun h => by cases h with | cons ha hrest => exact ⟨ha, hrest⟩, fun h => .cons h.1 h.2⟩

instance decidableAlong [∀ s i, Decidable (Allowed s i)] (s : State) :
    (is : List Input) → Decidable (Along step Allowed s is)
  | [] => .isTrue (.nil s)
  | i :: is =>
    haveI := decidableAlong (step s i) is
    decidable_of_iff _ along_cons_iff.symm

/-- Steps that keep an invariant, and keep a property exactly when they are allowed: the property
holds all along a run exactly when all its steps are allowed. -/
theorem along_iff {Inv Good : State → Prop}
    (hstep : ∀ s i, Inv s → (Good (step s i) ↔ Allowed s i) ∧ (Allowed s i → Inv (step s i)))
    {s : State} (hs : Inv s) (hg : Good s) (is : List Input) :
    (∀ is', is' <+: is → Good (run step s is')) ↔ Along step Allowed s is := by
  induction is generalizing s with
  | nil =>
    refine ⟨fun _ => .nil s, fun _ is' h => ?_⟩
    rw [List.prefix_nil] at h
    rw [h]
    exact hg
  | cons i is ih =>
    obtain ⟨hiff, hinv⟩ := hstep s i hs
    constructor
    · intro h
      have ha : Allowed s i := hiff.1 (h [i] (List.prefix_append [i] is))
      refine .cons ha ((ih (hinv ha) (hiff.2 ha)).1 fun is' h' => ?_)
      exact h (i :: is') (List.cons_prefix_cons.2 ⟨rfl, h'⟩)
    · intro h is' h'
      obtain ⟨ha, hrest⟩ := along_cons_iff.1 h
      cases is' with
      | nil => exact hg
      | cons j js =>
        obtain ⟨rfl, hjs⟩ := List.cons_prefix_cons.1 h'
        exact (ih (hinv ha) (hiff.2 ha)).2 hrest js hjs

lemma Along.reach {Start : State → Prop} {s : State} {is : List Input}
    (h : Along step Allowed s is) (hs : Reach step Allowed Start s) :
    Reach step Allowed Start (run step s is) := by
  induction h with
  | nil s => exact hs
  | @cons s i is ha _ ih => exact ih (.next i hs ha)

end Conditional

end Runs

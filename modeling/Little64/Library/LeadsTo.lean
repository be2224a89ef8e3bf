import Little64.Library.Runs

/-! Machines fed by an endless sequence of inputs: what holds at one time leads to what holds at a later one. -/

namespace LeadsTo

variable {State Input : Type*}

/-- The states of the machine over its inputs. -/
def trace (step : State → Input → State) (s : State) (inputs : ℕ → Input) : ℕ → State
  | 0 => s
  | n + 1 => step (trace step s inputs n) (inputs n)

/-- From each time at which the one holds there is a later one, or the same, at which the other holds. -/
def Leads (σ : ℕ → State) (P Q : State → Prop) : Prop := ∀ n, P (σ n) → ∃ m, n ≤ m ∧ Q (σ m)

variable {σ : ℕ → State} {P Q R : State → Prop}

lemma Leads.refl (σ : ℕ → State) (P : State → Prop) : Leads σ P P := fun n hn => ⟨n, le_rfl, hn⟩

lemma Leads.trans (hpq : Leads σ P Q) (hqr : Leads σ Q R) : Leads σ P R := by
  intro n hn
  obtain ⟨m, hm, hq⟩ := hpq n hn
  obtain ⟨k, hk, hr⟩ := hqr m hq
  exact ⟨k, hm.trans hk, hr⟩

lemma Leads.of_step (h : ∀ n, P (σ n) → Q (σ (n + 1))) : Leads σ P Q := fun n hn => ⟨n + 1, Nat.le_succ n, h n hn⟩

/-- What lasts until something happens that it waits for, and that happens some time, leads to what that makes of it. -/
lemma Leads.of_fires {fires : ℕ → Prop} (hfires : ∀ n, P (σ n) → ∃ m, n ≤ m ∧ fires m)
    (hkeep : ∀ n, P (σ n) → ¬ fires n → P (σ (n + 1))) (hmove : ∀ n, P (σ n) → fires n → Q (σ (n + 1))) :
    Leads σ P Q := by
  intro n hn
  have hlater : ∀ k, n ≤ k ∧ P (σ k) → ¬ fires k → n ≤ k + 1 ∧ P (σ (k + 1)) := fun k hk hf =>
    ⟨Nat.le_succ_of_le hk.1, hkeep k hk.2 hf⟩
  obtain ⟨m, hm, hf⟩ := hfires n hn
  obtain ⟨k, ⟨hk, hp⟩, hf⟩ := Runs.exists_fires hlater ⟨le_refl n, hn⟩ ⟨m, hm, fun _ => hf⟩
  exact ⟨k + 1, Nat.le_succ_of_le hk, hmove k hp hf⟩

/-- A chain of such steps, one for each number. -/
lemma Leads.iterate {P : ℕ → State → Prop} {n : ℕ} (h : ∀ k < n, Leads σ (P k) (P (k + 1))) : Leads σ (P 0) (P n) := by
  induction n with
  | zero => exact .refl σ (P 0)
  | succ n ih => exact (ih fun k hk => h k (hk.trans (Nat.lt_succ_self n))).trans (h n (Nat.lt_succ_self n))

end LeadsTo

import Mathlib.Tactic.Common

/-! Programs that may fail and that log what they do, also where they fail. -/

structure Logged (ι ε α : Type) where
  log : List ι
  outcome : Except ε α

namespace Logged

variable {ι ε α β : Type}

instance : Monad (Logged ι ε) where
  pure a := ⟨[], .ok a⟩
  bind x f :=
    match x.outcome with
    | .ok a => ⟨x.log ++ (f a).log, (f a).outcome⟩
    | .error e => ⟨x.log, .error e⟩

/-- A program that logs nothing. -/
def silent (x : Except ε α) : Logged ι ε α := ⟨[], x⟩

def note (entries : List ι) : Logged ι ε Unit := ⟨entries, .ok ()⟩

@[simp] lemma log_pure (a : α) : (pure a : Logged ι ε α).log = [] := rfl

@[simp] lemma outcome_pure (a : α) : (pure a : Logged ι ε α).outcome = .ok a := rfl

@[simp] lemma outcome_silent (x : Except ε α) : (silent x : Logged ι ε α).outcome = x := rfl

@[simp] lemma outcome_note (entries : List ι) : (note entries : Logged ι ε Unit).outcome = .ok () := rfl

lemma bind_of_ok {x : Logged ι ε α} {a : α} (h : x.outcome = .ok a) (f : α → Logged ι ε β) :
    x >>= f = ⟨x.log ++ (f a).log, (f a).outcome⟩ := by
  obtain ⟨log, outcome⟩ := x
  subst h
  rfl

lemma bind_of_error {x : Logged ι ε α} {e : ε} (h : x.outcome = .error e) (f : α → Logged ι ε β) :
    x >>= f = ⟨x.log, .error e⟩ := by
  obtain ⟨log, outcome⟩ := x
  subst h
  rfl

lemma outcome_bind (x : Logged ι ε α) (f : α → Logged ι ε β) :
    (x >>= f).outcome = x.outcome >>= fun a => (f a).outcome := by
  obtain ⟨log, outcome⟩ := x
  cases outcome <;> rfl

lemma log_bind_pure (x : Logged ι ε α) (f : α → β) : (x >>= fun a => pure (f a)).log = x.log := by
  obtain ⟨log, outcome⟩ := x
  cases outcome with
  | error e => rfl
  | ok a => exact List.append_nil log

end Logged

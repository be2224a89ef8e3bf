import Little64.Library.Runs

/-! Direct-mapped tables under fills and flushes: an entry is there exactly when it is the last one
filled for its index. -/

namespace DirectMapped

variable {Index Entry : Type*}

inductive Op (Entry : Type*)
  | flush
  | fill (e : Entry)
  | keep
  deriving DecidableEq

def Op.map {Entry' : Type*} (g : Entry → Entry') : Op Entry → Op Entry'
  | .flush => .flush
  | .fill e => .fill (g e)
  | .keep => .keep

/-- The operation leaves no entry with this key behind but its own. -/
def Op.Drops (key : Entry → Index) (x : Index) : Op Entry → Prop
  | .flush => True
  | .fill e => key e = x
  | .keep => False

/-- The entry was filled last among those with its key, and after the last flush. -/
def LastFill (key : Entry → Index) (ops : List (Op Entry)) (e : Entry) : Prop :=
  ∃ before after, ops = before ++ .fill e :: after ∧ ∀ op ∈ after, ¬ op.Drops key (key e)

variable {key : Entry → Index} {ops : List (Op Entry)} {e : Entry}

lemma not_lastFill_nil : ¬ LastFill key [] e := by
  rintro ⟨before, after, heq, -⟩
  cases before <;> cases heq

lemma lastFill_append (op : Op Entry) :
    LastFill key (ops ++ [op]) e ↔ op = .fill e ∨ LastFill key ops e ∧ ¬ op.Drops key (key e) :=
  Runs.exists_mark_append

lemma LastFill.mem (h : LastFill key ops e) : .fill e ∈ ops := by
  obtain ⟨before, after, rfl, -⟩ := h
  exact List.mem_append_right _ List.mem_cons_self

lemma LastFill.of_key {Index' : Type*} {key' : Entry → Index'} (hkey : ∀ a b, key' a = key' b → key a = key b)
    (h : LastFill key ops e) : LastFill key' ops e := by
  obtain ⟨before, after, heq, hkept⟩ := h
  refine ⟨before, after, heq, fun op hop hdrops => hkept op hop ?_⟩
  cases op with
  | flush => exact hdrops
  | fill e' => exact hkey e' e hdrops
  | keep => exact hdrops

lemma LastFill.after_flush {before after : List (Op Entry)} (h : LastFill key (before ++ .flush :: after) e) :
    LastFill key after e := by
  induction after using List.reverseRecOn with
  | nil =>
    rcases (lastFill_append .flush).1 h with h | ⟨-, h⟩
    · cases h
    · exact absurd trivial h
  | append_singleton after op ih =>
    rw [← List.cons_append, ← List.append_assoc, lastFill_append] at h
    exact (lastFill_append op).2 (h.imp_right (And.imp_left ih))

variable [DecidableEq Index]

def apply (key : Entry → Index) (t : Index → Option Entry) : Op Entry → Index → Option Entry
  | .flush, _ => none
  | .fill e, x => if x = key e then some e else t x
  | .keep, x => t x

def contents (key : Entry → Index) (ops : List (Op Entry)) : Index → Option Entry :=
  Runs.run (apply key) (fun _ => none) ops

lemma contents_append (op : Op Entry) : contents key (ops ++ [op]) = apply key (contents key ops) op :=
  Runs.run_append _ _ ops [op]

lemma contents_map {Entry' : Type*} (g : Entry → Entry') (key : Entry' → Index) (ops : List (Op Entry)) (x : Index) :
    contents key (ops.map (.map g)) x = (contents (key ∘ g) ops x).map g := by
  induction ops using List.reverseRecOn with
  | nil => rfl
  | append_singleton ops op ih =>
    rw [List.map_append, List.map_singleton, contents_append, contents_append]
    cases op with
    | flush => rfl
    | keep => exact ih
    | fill e =>
      simp only [Op.map, apply, Function.comp_apply, apply_ite (Option.map g), Option.map_some, ih]

theorem contents_eq_some_iff {x : Index} : contents key ops x = some e ↔ key e = x ∧ LastFill key ops e := by
  induction ops using List.reverseRecOn with
  | nil => simp [contents, Runs.run, not_lastFill_nil]
  | append_singleton ops op ih =>
    rw [contents_append, lastFill_append]
    cases op with
    | flush => simp [apply, Op.Drops]
    | keep => simp [apply, Op.Drops, ih]
    | fill e' =>
      by_cases hx : x = key e'
      · subst hx
        simp only [apply, if_true, Option.some.injEq, Op.fill.injEq, Op.Drops]
        constructor
        · rintro rfl
          exact ⟨rfl, .inl rfl⟩
        · rintro ⟨he, rfl | ⟨-, hne⟩⟩
          · rfl
          · exact absurd he.symm hne
      · simp only [apply, if_neg hx, ih, Op.fill.injEq, Op.Drops]
        constructor
        · rintro ⟨rfl, h⟩
          exact ⟨rfl, .inr ⟨h, fun he => hx he.symm⟩⟩
        · rintro ⟨rfl, rfl | ⟨h, -⟩⟩
          · exact absurd rfl hx
          · exact ⟨rfl, h⟩

end DirectMapped

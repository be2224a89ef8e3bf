import Little64.Library.RadixWalk

/-! Radix trees laid out in a memory: tables at the ends of paths of indices, links to them in the tables above, and
what a new table or a new leaf does to the walks. -/

namespace RadixTree

variable {Table Index Addr Entry Result : Type*}

/-- A memory that holds a radix tree of some depth. A path is written with its last index first. -/
structure Laid (slot : Table → Index → Addr) (link : Table → Entry) (empty : Entry) (depth : ℕ) (read : Addr → Entry)
    (tables : List Index → Option Table) (leaf : List Index → Entry) : Prop where
  injective : ∀ p q t, tables p = some t → tables q = some t → p = q
  closed : ∀ p i, tables p = none → tables (i :: p) = none
  unreached : ∀ p i, tables p = none → p.length = depth → leaf (i :: p) = empty
  inner : ∀ p i t, tables p = some t → p.length < depth → read (slot t i) = (tables (i :: p)).elim empty link
  last : ∀ p i t, tables p = some t → p.length = depth → read (slot t i) = leaf (i :: p)

/-- A path prolonged by one index for each level from `n` down. -/
def descent (index : ℕ → Index) : ℕ → List Index → List Index
  | 0, p => index 0 :: p
  | n + 1, p => descent index n (index (n + 1) :: p)

namespace Laid

variable {slot : Table → Index → Addr} {link : Table → Entry} {empty : Entry} {depth : ℕ} {read read' : Addr → Entry}
  {tables : List Index → Option Table} {leaf : List Index → Entry} {index : ℕ → Index}

lemma leaf_of_none (h : Laid slot link empty depth read tables leaf) {n : ℕ} {p : List Index} (hp : tables p = none)
    (hn : p.length + n = depth) : leaf (descent index n p) = empty := by
  induction n generalizing p with
  | zero => exact h.unreached p _ hp hn
  | succ n ih =>
    apply ih (h.closed p _ hp)
    rw [List.length_cons]
    omega

/-- A walk ends at the leaf of its path, or at the first missing table where there is no leaf. -/
theorem run_eq (h : Laid slot link empty depth read tables leaf) {W : RadixWalk.Walker Table Addr Entry Result}
    {missing : ℕ → Result} (hslot : ∀ k t, W.slot k t = slot t (index k))
    (hmissing : ∀ k, W.descend (k + 1) empty = .inl (missing (k + 1))) (hlast : W.last empty = missing 0)
    (hlink : ∀ k p i t, tables (i :: p) = some t → W.descend (k + 1) (link t) = .inr t) {n : ℕ} {p : List Index}
    {t : Table} (hp : tables p = some t) (hn : p.length + n = depth) :
    (leaf (descent index n p) ≠ empty → W.run read n t = W.last (leaf (descent index n p))) ∧
      (leaf (descent index n p) = empty → ∃ k ≤ n, W.run read n t = missing k) := by
  induction n generalizing p t with
  | zero =>
    have hleaf : W.run read 0 t = W.last (leaf (descent index 0 p)) := by
      rw [RadixWalk.Walker.run, hslot, h.last p _ t hp hn]
      rfl
    refine ⟨fun _ => hleaf, fun he => ⟨0, Nat.le_refl _, ?_⟩⟩
    rw [hleaf, he, hlast]
  | succ n ih =>
    have hread : read (W.slot (n + 1) t) = (tables (index (n + 1) :: p)).elim empty link := by
      rw [hslot]
      exact h.inner p _ t hp (by omega)
    cases ht : tables (index (n + 1) :: p) with
    | none =>
      rw [ht, Option.elim_none] at hread
      have hstop : W.run read (n + 1) t = missing (n + 1) := by rw [RadixWalk.Walker.run, hread, hmissing]
      have hempty : leaf (descent index (n + 1) p) = empty :=
        h.leaf_of_none (n := n) ht (by rw [List.length_cons]; omega)
      exact ⟨fun hne => absurd hempty hne, fun _ => ⟨n + 1, Nat.le_refl _, hstop⟩⟩
    | some u =>
      rw [ht, Option.elim_some] at hread
      have hnext : W.run read (n + 1) t = W.run read n u := by
        rw [RadixWalk.Walker.run, hread, hlink n p _ u ht]
      obtain ⟨hfound, hmiss⟩ := ih ht (by rw [List.length_cons]; omega)
      rw [hnext]
      refine ⟨hfound, fun he => ?_⟩
      obtain ⟨k, hk, hrun⟩ := hmiss he
      exact ⟨k, by omega, hrun⟩

variable [DecidableEq Index] {p : List Index} {i : Index} {t fresh : Table}

/-- An empty table linked where none was. -/
theorem grow (h : Laid slot link empty depth read tables leaf) (hp : tables p = some t) (hdepth : p.length < depth)
    (hnone : tables (i :: p) = none) (hfresh : ∀ q, tables q ≠ some fresh) (hnew : ∀ j, read' (slot fresh j) = empty)
    (hlink : read' (slot t i) = link fresh)
    (hsame : ∀ q u j, tables q = some u → (q = p → j ≠ i) → read' (slot u j) = read (slot u j)) :
    Laid slot link empty depth read' (Function.update tables (i :: p) (some fresh)) leaf where
  injective q r u hq hr := by
    by_cases hqi : q = i :: p
    · by_cases hri : r = i :: p
      · rw [hqi, hri]
      · rw [hqi, Function.update_self] at hq
        rw [Function.update_of_ne hri] at hr
        cases hq
        exact absurd hr (hfresh r)
    · rw [Function.update_of_ne hqi] at hq
      by_cases hri : r = i :: p
      · rw [hri, Function.update_self] at hr
        cases hr
        exact absurd hq (hfresh q)
      · rw [Function.update_of_ne hri] at hr
        exact h.injective q r u hq hr
  closed q j hq := by
    have hqi : q ≠ i :: p := by
      rintro rfl
      rw [Function.update_self] at hq
      cases hq
    rw [Function.update_of_ne hqi] at hq
    have hqj : j :: q ≠ i :: p := by
      intro he
      cases he
      rw [hp] at hq
      cases hq
    rw [Function.update_of_ne hqj]
    exact h.closed q j hq
  unreached q j hq hlen := by
    have hqi : q ≠ i :: p := by
      rintro rfl
      rw [Function.update_self] at hq
      cases hq
    rw [Function.update_of_ne hqi] at hq
    exact h.unreached q j hq hlen
  inner q j u hq hlen := by
    by_cases hqi : q = i :: p
    · subst hqi
      rw [Function.update_self] at hq
      cases hq
      have hlong : j :: i :: p ≠ i :: p := fun he => by simpa using congrArg List.length he
      rw [hnew, Function.update_of_ne hlong, h.closed _ j hnone, Option.elim_none]
    · rw [Function.update_of_ne hqi] at hq
      by_cases hqj : j :: q = i :: p
      · cases hqj
        rw [hp] at hq
        cases hq
        rw [Function.update_self, hlink, Option.elim_some]
      · rw [Function.update_of_ne hqj, hsame q u j hq fun he hj => hqj (by rw [he, hj])]
        exact h.inner q j u hq hlen
  last q j u hq hlen := by
    by_cases hqi : q = i :: p
    · subst hqi
      rw [Function.update_self] at hq
      cases hq
      rw [hnew, h.unreached _ j hnone hlen]
    · rw [Function.update_of_ne hqi] at hq
      have hne : q ≠ p := by
        rintro rfl
        omega
      rw [hsame q u j hq fun he => absurd he hne]
      exact h.last q j u hq hlen

/-- A leaf entry written. -/
theorem write (h : Laid slot link empty depth read tables leaf) (hp : tables p = some t) (hdepth : p.length = depth)
    {e : Entry} (hentry : read' (slot t i) = e)
    (hsame : ∀ q u j, tables q = some u → (q = p → j ≠ i) → read' (slot u j) = read (slot u j)) :
    Laid slot link empty depth read' tables (Function.update leaf (i :: p) e) where
  injective := h.injective
  closed := h.closed
  unreached q j hq hlen := by
    have hqj : j :: q ≠ i :: p := by
      intro he
      cases he
      rw [hp] at hq
      cases hq
    rw [Function.update_of_ne hqj]
    exact h.unreached q j hq hlen
  inner q j u hq hlen := by
    have hne : q ≠ p := by
      rintro rfl
      omega
    rw [hsame q u j hq fun he => absurd he hne]
    exact h.inner q j u hq hlen
  last q j u hq hlen := by
    by_cases hqj : j :: q = i :: p
    · cases hqj
      rw [hp] at hq
      cases hq
      rw [Function.update_self, hentry]
    · rw [Function.update_of_ne hqj, hsame q u j hq fun he hj => hqj (by rw [he, hj])]
      exact h.last q j u hq hlen

end Laid

end RadixTree

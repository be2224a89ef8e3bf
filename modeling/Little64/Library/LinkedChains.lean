import Mathlib.Data.List.Chain
import Mathlib.Data.List.Nodup
import Mathlib.Logic.Function.Iterate
import Mathlib.Tactic.Common

/-! Chains of links, and the paths of a walk that follows one until it ends or the walk stops. -/

namespace LinkedChains

variable {α : Type*} (next : α → α) (start : α)

def chain (k : ℕ) : α := next^[k] start

variable (ends stops : ℕ → α → Prop) (good : α → Prop)

/-- The chain has neither ended nor been left before this link. -/
def Reached (k : ℕ) : Prop := ∀ j < k, ¬ ends j (chain next start j) ∧ ¬ stops j (chain next start j)

/-- Every link that is reached ends the chain, or is a good one that has not been there before. -/
def Sound : Prop := ∀ k, Reached next start ends stops k →
  ends k (chain next start k) ∨ good (chain next start k) ∧ ∀ j < k, chain next start j ≠ chain next start k

/-- A path from the start on, that takes the links of the chain wherever it knows them. -/
structure Walked (known : α → Prop) (turns : α → α → Prop) (path : List α) : Prop where
  first : ∀ x ∈ path.head?, x = start
  linked : path.IsChain fun x y => (known x → y = next x) ∧ turns x y

/-- A path goes where the chain has not ended, and on from where it has not been left. -/
structure Open (path : List α) : Prop where
  going : ∀ k x, path[k]? = some x → ¬ ends k x
  followed : ∀ k x, path[k]? = some x → k + 1 < path.length → ¬ stops k x

variable {next start ends stops good} {known : α → Prop} {turns : α → α → Prop} {path rest : List α} {x y : α}
  {j k m : ℕ}

lemma chain_succ (next : α → α) (start : α) (k : ℕ) : chain next start (k + 1) = next (chain next start k) :=
  Function.iterate_succ_apply' next k start

lemma chain_ne {p : α → Prop} (hlater : p (chain next start m)) (hk : k ≤ m)
    (hother : ¬ p (chain next start (j + (m - k)))) : chain next start j ≠ chain next start k := by
  intro hsame
  apply hother
  have hshift (i : ℕ) : chain next start (i + (m - k)) = next^[m - k] (chain next start i) := by
    rw [chain, chain, Nat.add_comm, Function.iterate_add_apply]
  have hm : k + (m - k) = m := by omega
  rw [hshift, hsame, ← hshift, hm]
  exact hlater

lemma turns_of_isChain {r : α → α → Prop} (h : path.IsChain r) (hx : path[k]? = some x) (hy : path[k + 1]? = some y) :
    r x y := by
  obtain ⟨hk, rfl⟩ := List.getElem?_eq_some_iff.mp hx
  obtain ⟨hk', rfl⟩ := List.getElem?_eq_some_iff.mp hy
  exact List.isChain_iff_getElem.mp h k hk'

namespace Walked

lemma cons (h : Walked next x known turns rest) (hlink : (known start → x = next start) ∧ turns start x) :
    Walked next start known turns (start :: rest) := by
  constructor
  · intro z hz
    exact (Option.mem_some_iff.mp hz).symm
  · refine List.isChain_cons.mpr ⟨fun y hy => ?_, h.linked⟩
    rw [h.first y hy]
    exact hlink

lemma snoc (h : Walked next start known turns path) (hne : path ≠ [])
    (hlink : ∀ x ∈ path.getLast?, (known x → y = next x) ∧ turns x y) :
    Walked next start known turns (path ++ [y]) := by
  constructor
  · intro z hz
    apply h.first z
    rwa [List.head?_append_of_ne_nil _ hne] at hz
  · refine List.isChain_append.mpr ⟨h.linked, List.isChain_singleton y, fun x hx z hz => ?_⟩
    obtain rfl := Option.mem_some_iff.mp hz
    exact hlink x hx

lemma append (h : Walked next start known turns (path ++ [x])) (hrest : Walked next x known turns rest)
    (hne : rest ≠ []) : Walked next start known turns (path ++ rest) := by
  obtain ⟨y, tail, rfl⟩ := List.exists_cons_of_ne_nil hne
  obtain rfl : y = x := hrest.first y rfl
  constructor
  · intro z hz
    apply h.first z
    cases path with
    | nil => exact hz
    | cons z' path => exact hz
  · have hbefore := List.isChain_append.mp h.linked
    exact List.isChain_append.mpr ⟨hbefore.1, hrest.linked, hbefore.2.2⟩

lemma getElem?_eq_chain (h : Walked next start known turns path) (hknown : ∀ x ∈ path, known x)
    (hx : path[k]? = some x) : x = chain next start k := by
  induction k generalizing x with
  | zero => exact h.first x (List.head?_eq_getElem? ▸ hx)
  | succ k ih =>
    have hlt := (List.getElem?_eq_some_iff.mp hx).1
    have hbefore : path[k]? = some path[k] := List.getElem?_eq_getElem (by omega)
    rw [chain_succ, ← ih hbefore]
    exact (turns_of_isChain h.linked hbefore hx).1 (hknown _ (List.getElem_mem _))

end Walked

section Soundness

variable (hsound : Sound next start ends stops good) (hwalked : Walked next start known turns path)
  (hopen : Open ends stops path) (hknown : ∀ x, good x → known x)

include hsound hwalked hopen hknown

/-- The induction is along the path: a good link is known, so that the next one is the chain's and is reached. -/
lemma Sound.getElem? (hx : path[k]? = some x) :
    x = chain next start k ∧ good x ∧ Reached next start ends stops k := by
  induction k generalizing x with
  | zero =>
    obtain rfl : x = start := hwalked.first x (List.head?_eq_getElem? ▸ hx)
    have hreached : Reached next x ends stops 0 := fun j hj => by cases hj
    rcases hsound 0 hreached with hends | hgood
    · exact absurd hends (hopen.going 0 x hx)
    · exact ⟨rfl, hgood.1, hreached⟩
  | succ k ih =>
    have hlt := (List.getElem?_eq_some_iff.mp hx).1
    have hbefore : path[k]? = some path[k] := List.getElem?_eq_getElem (by omega)
    obtain ⟨hplace, hgood, hreached⟩ := ih hbefore
    have hnext : x = chain next start (k + 1) := by
      rw [chain_succ, ← hplace]
      exact (turns_of_isChain hwalked.linked hbefore hx).1 (hknown _ hgood)
    have hthere : Reached next start ends stops (k + 1) := by
      intro j hj
      rcases Nat.lt_succ_iff_lt_or_eq.mp hj with hj | rfl
      · exact hreached j hj
      · rw [← hplace]
        exact ⟨hopen.going j _ hbefore, hopen.followed j _ hbefore hlt⟩
    rcases hsound (k + 1) hthere with hends | hnew
    · rw [← hnext] at hends
      exact absurd hends (hopen.going _ x hx)
    · rw [← hnext] at hnew
      exact ⟨hnext, hnew.1, hthere⟩

lemma Sound.good_of_mem (hx : x ∈ path) : good x := by
  obtain ⟨k, hk⟩ := List.mem_iff_getElem?.mp hx
  exact (hsound.getElem? hwalked hopen hknown hk).2.1

lemma Sound.nodup : path.Nodup := by
  rw [List.nodup_iff_getElem?_ne_getElem?]
  intro i j hij hj hsame
  have hi : path[i]? = some path[i] := List.getElem?_eq_getElem (by omega)
  have hj' : path[j]? = some path[j] := List.getElem?_eq_getElem hj
  obtain ⟨hplace, -, -⟩ := hsound.getElem? hwalked hopen hknown hi
  obtain ⟨hplace', -, hreached⟩ := hsound.getElem? hwalked hopen hknown hj'
  rw [hi, hj', Option.some.injEq, hplace, hplace'] at hsame
  rcases hsound j hreached with hends | hnew
  · exact hopen.going j _ hj' (hplace' ▸ hends)
  · exact hnew.2 i hij hsame

end Soundness

end LinkedChains

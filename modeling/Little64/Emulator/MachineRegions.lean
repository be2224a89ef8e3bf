import Little64.Emulator.ProgramLoading

/-! Which configurations make a machine: those whose regions and device windows do not overlap, whatever they hold. -/

namespace Little64.Emulator.ProgramLoading

variable {δ : Type} {model : DeviceModel δ}

/-- The addresses that a region takes up. -/
def BusRegion.span (r : BusRegion) : Word × Word := (r.base, r.size)

def SpansOverlap (r q : Word × Word) : Prop := r.1 < q.1 + q.2 ∧ q.1 < r.1 + r.2

def MachineConfig.spans (model : DeviceModel δ) (cfg : MachineConfig) : List (Word × Word) :=
  cfg.regions.map BusRegion.span ++ cfg.devices.map fun d => (d.base, model.size d)

/-- No region overlaps one that is added before it. -/
def Apart (spans : List (Word × Word)) : Prop := spans.Pairwise fun q r => ¬ SpansOverlap r q

def Installed.spans (m : Installed δ) : List (Word × Word) := m.regions.map BusRegion.span

lemma overlaps_iff (r q : BusRegion) : r.overlaps q = true ↔ SpansOverlap r.span q.span := by
  rw [BusRegion.overlaps, Bool.and_eq_true, decide_eq_true_iff, decide_eq_true_iff]
  rfl

lemma Apart.snoc_iff {spans : List (Word × Word)} {r : Word × Word} :
    Apart (spans ++ [r]) ↔ Apart spans ∧ ∀ q ∈ spans, ¬ SpansOverlap r q := by
  rw [Apart, List.pairwise_append]
  constructor
  · rintro ⟨hspans, -, hlast⟩
    exact ⟨hspans, fun q hq => hlast q hq r (List.mem_singleton_self r)⟩
  · rintro ⟨hspans, hlast⟩
    refine ⟨hspans, List.pairwise_singleton _ _, fun q hq r' hr' => ?_⟩
    rw [List.mem_singleton.mp hr']
    exact hlast q hq

lemma Apart.left {spans more : List (Word × Word)} (h : Apart (spans ++ more)) : Apart spans :=
  (List.pairwise_append.mp h).1

lemma addRegion_eq_some {m m' : Installed δ} {r : BusRegion} (h : m.addRegion r = some m') :
    m'.spans = m.spans ++ [r.span] ∧ (Apart m.spans → Apart m'.spans) := by
  rw [Installed.addRegion] at h
  split at h
  · cases h
  · next hfree =>
    obtain rfl := Option.some.inj h
    have hspans : Installed.spans { m with regions := m.regions ++ [r] } = m.spans ++ [r.span] := List.map_append
    refine ⟨hspans, fun hapart => ?_⟩
    rw [hspans, Apart.snoc_iff]
    refine ⟨hapart, fun q hq hoverlap => hfree ?_⟩
    obtain ⟨q', hq', rfl⟩ := List.mem_map.mp hq
    exact ⟨q', hq', (overlaps_iff r q').mpr hoverlap⟩

lemma addRegion_of_apart {m : Installed δ} {r : BusRegion} (h : Apart (m.spans ++ [r.span])) :
    ∃ m', m.addRegion r = some m' := by
  refine ⟨_, if_neg ?_⟩
  rintro ⟨q, hq, hoverlap⟩
  exact (Apart.snoc_iff.mp h).2 q.span (List.mem_map_of_mem hq) ((overlaps_iff r q).mp hoverlap)

section Folds

variable {α : Type} (place : α → Word × Word) (add : Installed δ → α → Option (Installed δ))

/-- Things added one after the other are all added exactly where nothing overlaps. -/
lemma foldlM_add (hadd : ∀ m a m', add m a = some m' → m'.spans = m.spans ++ [place a] ∧ (Apart m.spans → Apart m'.spans))
    (hplaced : ∀ m a, Apart (m.spans ++ [place a]) → ∃ m', add m a = some m') (items : List α) (m : Installed δ)
    (hm : Apart m.spans) :
    (Apart (m.spans ++ items.map place) → ∃ m', items.foldlM add m = some m') ∧
      ∀ m', items.foldlM add m = some m' → m'.spans = m.spans ++ items.map place ∧ Apart m'.spans := by
  induction items generalizing m with
  | nil =>
    refine ⟨fun _ => ⟨m, rfl⟩, fun m' h => ?_⟩
    obtain rfl := Option.some.inj h
    exact ⟨(List.append_nil _).symm, hm⟩
  | cons a items ih =>
    have hspans : ∀ m' : Installed δ, m'.spans = m.spans ++ [place a] →
        m.spans ++ (a :: items).map place = m'.spans ++ items.map place := by
      intro m' h
      rw [h, List.append_assoc]
      rfl
    constructor
    · intro hapart
      have hfirst : m.spans ++ (a :: items).map place = (m.spans ++ [place a]) ++ items.map place := by
        rw [List.append_assoc]
        rfl
      rw [hfirst] at hapart
      obtain ⟨mid, hmid⟩ := hplaced m a hapart.left
      obtain ⟨hmidSpans, hmidApart⟩ := hadd m a mid hmid
      rw [← hmidSpans] at hapart
      obtain ⟨m', hm'⟩ := (ih mid (hmidApart hm)).1 hapart
      refine ⟨m', ?_⟩
      rw [List.foldlM_cons, hmid]
      exact hm'
    · intro m' h
      rw [List.foldlM_cons] at h
      obtain ⟨mid, hmid, hrest⟩ := Option.bind_eq_some_iff.mp h
      obtain ⟨hmidSpans, hmidApart⟩ := hadd m a mid hmid
      rw [hspans mid hmidSpans]
      exact (ih mid (hmidApart hm)).2 m' hrest

end Folds

/-- A machine is made of a configuration exactly where nothing in it overlaps. -/
lemma applyTo_iff (model : DeviceModel δ) (cfg : MachineConfig) :
    (∃ m, cfg.applyTo model = some m) ↔ Apart (cfg.spans model) := by
  have hregions := foldlM_add (δ := δ) BusRegion.span Installed.addRegion
    (fun m r m' h => addRegion_eq_some h) (fun m r h => addRegion_of_apart h) cfg.regions .empty List.Pairwise.nil
  have hdevices : ∀ m : Installed δ, Apart m.spans → _ := fun m hm =>
    foldlM_add (δ := δ) (fun d : DeviceConfig => (d.base, model.size d)) (Installed.addDevice model)
      (fun m d m' h => addRegion_eq_some h) (fun m d h => addRegion_of_apart h) cfg.devices m hm
  constructor
  · rintro ⟨m, h⟩
    obtain ⟨mid, hmid, hrest⟩ := Option.bind_eq_some_iff.mp h
    obtain ⟨hspans, hapart⟩ := hregions.2 mid hmid
    obtain ⟨hall, hallApart⟩ := (hdevices mid hapart).2 m hrest
    rw [hall, hspans] at hallApart
    exact hallApart
  · intro h
    obtain ⟨mid, hmid⟩ := hregions.1 h.left
    obtain ⟨hspans, hapart⟩ := hregions.2 mid hmid
    have hall : Apart (mid.spans ++ cfg.devices.map fun d => (d.base, model.size d)) := by
      rw [hspans]
      exact h
    obtain ⟨m, hm⟩ := (hdevices mid hapart).1 hall
    exact ⟨m, Option.bind_eq_some_iff.mpr ⟨mid, hmid, hm⟩⟩

end Little64.Emulator.ProgramLoading

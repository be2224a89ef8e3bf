import Little64.Linker.Layout
import Little64.Linker.Relocation

/-! The image before the words: the blocks of all objects at their bases, changed in the relocated fields only. -/

namespace Little64.Linker

open CheckedAccess LittleEndian Placement

/-- An address that a relocation patches. -/
def Patched (objs : List (ObjectContext × ObjLayout)) (k : ℕ) : Prop :=
  ∃ object ∈ objs, ∃ s ∈ sections object, ∃ rel ∈ s.relocs, ∃ needed, neededBytes rel.type = some needed ∧
    (s.base + rel.offset).toNat ≤ k ∧ k < (s.base + rel.offset).toNat + needed.toNat

/-- The steps without their patches. -/
def grow (image : Blob) : LinkStep → Blob
  | .start base bytes => padTo (padEven image) base.toNat ++ bytes
  | .align => padEven image
  | .append base bytes => padTo image base.toNat ++ bytes
  | .patch _ _ _ _ => image

def LinkStep.Patches (step : LinkStep) (fields : ℕ → Prop) : Prop :=
  match step with
  | .patch _ base _ rel => ∀ needed, neededBytes rel.type = some needed → ∀ k, (base + rel.offset).toNat ≤ k →
      k < (base + rel.offset).toNat + needed.toNat → fields k
  | _ => True

variable {globals : GlobalSymbols} {linked linked' image : Blob} {fields : ℕ → Prop}

lemma agrees_step {step : LinkStep} (hfields : step.Patches fields) (h : AgreesOutside fields linked image)
    (hstep : perform globals linked step = .ok linked') : AgreesOutside fields linked' (grow image step) := by
  cases step with
  | start base bytes =>
    rw [perform] at hstep
    split at hstep
    · cases hstep
    · rw [← Except.ok.inj hstep]
      exact (h.padEven.padTo _).append _
  | align =>
    rw [← Except.ok.inj hstep]
    exact h.padEven
  | append base bytes =>
    rw [← Except.ok.inj hstep]
    exact (h.padTo _).append _
  | patch syms base size rel =>
    obtain ⟨needed, symAddr, bytes, happ⟩ := applyReloc_ok.1 hstep
    rw [happ.patched]
    apply h.patch
    · rw [happ.length_bytes]
      exact happ.inside
    · rw [happ.length_bytes]
      exact hfields needed happ.size

theorem agrees_steps {steps : List LinkStep} (hfields : ∀ step ∈ steps, step.Patches fields)
    (h : AgreesOutside fields linked image) (hsteps : steps.foldlM (perform globals) linked = .ok linked') :
    AgreesOutside fields linked' (steps.foldl grow image) := by
  induction steps generalizing linked image with
  | nil =>
    rw [← Except.ok.inj hsteps]
    exact h
  | cons step steps ih =>
    rw [List.foldlM_cons] at hsteps
    obtain ⟨middle, hstep, hrest⟩ := bind_eq_ok.1 hsteps
    apply ih (fun s hs => hfields s (List.mem_cons_of_mem _ hs)) _ hrest
    exact agrees_step (hfields step List.mem_cons_self) h hstep

lemma foldl_grow_patches (ctx : ObjectContext) (base : Word) (bytes : Blob) (relocs : List Reloc) :
    (patches ctx base bytes relocs).foldl grow image = image := by
  rw [patches, List.foldl_map]
  induction relocs with
  | nil => rfl
  | cons rel relocs ih => exact ih

lemma foldl_grow_object {object : ObjectContext × ObjLayout} (hasc : Ascending image.length (objectBlocks object))
    (heven : ∀ b ∈ objectBlocks object, b.base % 2 = 0) :
    (objectSteps object).foldl grow image = (objectBlocks object).foldl place image := by
  obtain ⟨ctx, lay⟩ := object
  have htext : image.length ≤ lay.textBase.toNat := hasc.1
  have hrodata : lay.textBase.toNat + ctx.textBytes.length ≤ lay.rodataBase.toNat := hasc.2.1
  have hdata : lay.rodataBase.toNat + ctx.rodataBytes.length ≤ lay.dataBase.toNat := hasc.2.2.1
  have htexteven : lay.textBase.toNat % 2 = 0 := heven ⟨_, ctx.textBytes⟩ (.head _)
  have hrodataeven : lay.rodataBase.toNat % 2 = 0 := heven ⟨_, ctx.rodataBytes⟩ (.tail _ (.head _))
  have hstart : padTo (padEven image) lay.textBase.toNat ++ ctx.textBytes =
      place image ⟨lay.textBase.toNat, ctx.textBytes⟩ := by
    rw [place, padTo_padEven htext htexteven]
  have hlen : (place image ⟨lay.textBase.toNat, ctx.textBytes⟩).length ≤ lay.rodataBase.toNat := by
    rw [length_place (b := ⟨lay.textBase.toNat, ctx.textBytes⟩) htext]
    exact hrodata
  have hmiddle : padTo ((rodataSteps ctx lay).foldl grow (place image ⟨lay.textBase.toNat, ctx.textBytes⟩))
        lay.dataBase.toNat =
      padTo (place (place image ⟨lay.textBase.toNat, ctx.textBytes⟩) ⟨lay.rodataBase.toNat, ctx.rodataBytes⟩)
        lay.dataBase.toNat := by
    rw [rodataSteps]
    split
    · simp only [List.foldl_append, List.foldl_cons, List.foldl_nil, foldl_grow_patches, grow]
      rw [padTo_padEven hlen hrodataeven]
      rfl
    · rename_i hempty
      have hstop : lay.rodataBase.toNat ≤ lay.dataBase.toNat := (Nat.le_add_right _ _).trans hdata
      rw [not_not] at hempty
      have hnone (l : Blob) : place l ⟨lay.rodataBase.toNat, []⟩ = padTo l lay.rodataBase.toNat :=
        List.append_nil _
      rw [List.foldl_nil, hempty, hnone, padTo_padTo hstop]
  simp only [objectSteps, List.foldl_append, List.foldl_cons, List.foldl_nil, foldl_grow_patches, grow]
  rw [hstart, hmiddle]
  rfl

theorem foldl_grow {objs : List (ObjectContext × ObjLayout)} (hasc : Ascending image.length (blocks objs))
    (heven : ∀ b ∈ blocks objs, b.base % 2 = 0) :
    (linkSteps objs).foldl grow image = (blocks objs).foldl place image := by
  induction objs generalizing image with
  | nil => rfl
  | cons object objs ih =>
    have hsplit : blocks (object :: objs) = objectBlocks object ++ blocks objs := rfl
    rw [hsplit] at hasc heven ⊢
    have hfirst := foldl_grow_object hasc.left fun b hb => heven b (List.mem_append_left _ hb)
    rw [linkSteps, List.flatMap_cons, List.foldl_append, List.foldl_append, hfirst]
    exact ih hasc.right fun b hb => heven b (List.mem_append_right _ hb)

lemma patches_patches {ctx : ObjectContext} {base : Word} {bytes : Blob} {relocs : List Reloc}
    (hfields : ∀ rel ∈ relocs, ∀ needed, neededBytes rel.type = some needed → ∀ k, (base + rel.offset).toNat ≤ k →
      k < (base + rel.offset).toNat + needed.toNat → fields k) :
    ∀ step ∈ patches ctx base bytes relocs, step.Patches fields := by
  intro step hstep
  obtain ⟨rel, hrel, rfl⟩ := List.mem_map.1 hstep
  exact hfields rel hrel

lemma linkSteps_patches {objs : List (ObjectContext × ObjLayout)} :
    ∀ step ∈ linkSteps objs, step.Patches (Patched objs) := by
  intro step hstep
  obtain ⟨object, hobject, hstep⟩ := List.mem_flatMap.1 hstep
  have hfield {s : PlacedSection} (hs : s ∈ sections object) :
      ∀ rel ∈ s.relocs, ∀ needed, neededBytes rel.type = some needed → ∀ k, (s.base + rel.offset).toNat ≤ k →
        k < (s.base + rel.offset).toNat + needed.toNat → Patched objs k := by
    intro rel hrel needed hneeded k hle hlt
    exact ⟨object, hobject, s, hs, rel, hrel, needed, hneeded, hle, hlt⟩
  simp only [objectSteps, rodataSteps, List.mem_append, List.mem_singleton] at hstep
  rcases hstep with ((rfl | hstep) | hstep) | ((rfl | hstep) | rfl)
  · trivial
  · exact patches_patches (hfield (.head _)) step hstep
  · split at hstep
    · rename_i hrodata
      rcases List.mem_append.1 hstep with hstep | hstep
      · simp only [List.mem_cons, List.not_mem_nil, or_false] at hstep
        rcases hstep with rfl | rfl <;> trivial
      · have hrelocs := hfield (.tail _ (.head _))
        dsimp only at hrelocs
        rw [if_neg hrodata] at hrelocs
        exact patches_patches hrelocs step hstep
    · exact absurd hstep List.not_mem_nil
  · trivial
  · exact patches_patches (hfield (.tail _ (.tail _ (.head _)))) step hstep
  · trivial

lemma patch_mem_linkSteps {objs : List (ObjectContext × ObjLayout)} {object : ObjectContext × ObjLayout}
    {s : PlacedSection} {rel : Reloc} (hobject : object ∈ objs) (hs : s ∈ sections object) (hrel : rel ∈ s.relocs) :
    .patch object.1.syms s.base s.bytes.length rel ∈ linkSteps objs := by
  refine List.mem_flatMap.2 ⟨object, hobject, ?_⟩
  have hpatch {base : Word} {bytes : Blob} {relocs : List Reloc} (h : rel ∈ relocs) :
      .patch object.1.syms base bytes.length rel ∈ patches object.1 base bytes relocs :=
    List.mem_map.2 ⟨rel, h, rfl⟩
  simp only [sections, List.mem_cons, List.not_mem_nil, or_false] at hs
  rcases hs with rfl | rfl | rfl | rfl
  · exact List.mem_append_left _ (List.mem_append_left _ (List.mem_append_right _ (hpatch hrel)))
  · apply List.mem_append_left
    apply List.mem_append_right
    rw [rodataSteps]
    dsimp only at hrel
    split at hrel
    · exact absurd hrel List.not_mem_nil
    · rename_i hrodata
      rw [if_pos hrodata]
      exact List.mem_append_right _ (hpatch hrel)
  · exact List.mem_append_right _ (List.mem_append_left _ (List.mem_append_right _ (hpatch hrel)))
  · exact absurd hrel List.not_mem_nil

lemma performed {steps : List LinkStep} {step : LinkStep} (hsteps : steps.foldlM (perform globals) linked = .ok linked')
    (hstep : step ∈ steps) : ∃ before after, perform globals before step = .ok after := by
  induction steps generalizing linked with
  | nil => exact absurd hstep List.not_mem_nil
  | cons first steps ih =>
    rw [List.foldlM_cons] at hsteps
    obtain ⟨middle, hfirst, hrest⟩ := bind_eq_ok.1 hsteps
    rcases List.mem_cons.1 hstep with rfl | hstep
    · exact ⟨linked, middle, hfirst⟩
    · exact ih hrest hstep

/-- Every relocation of the sections is applied in a link that succeeds. -/
theorem relocation_applied {objs : List (ObjectContext × ObjLayout)} {object : ObjectContext × ObjLayout}
    {s : PlacedSection} {rel : Reloc} (h : objs.foldlM (linkObject globals) [] = .ok linked) (hobject : object ∈ objs)
    (hs : s ∈ sections object) (hrel : rel ∈ s.relocs) : ∃ before after needed symAddr bytes,
      Applied globals object.1.syms s.base s.bytes.length rel before after needed symAddr bytes := by
  rw [foldlM_linkObject] at h
  obtain ⟨before, after, hstep⟩ := performed h (patch_mem_linkSteps hobject hs hrel)
  obtain ⟨needed, symAddr, bytes, happ⟩ := applyReloc_ok.1 hstep
  exact ⟨before, after, needed, symAddr, bytes, happ⟩

/-- The image of a link that succeeds: the blocks in their places, changed in the relocated fields only. -/
theorem linked_agrees {objs : List (ObjectContext × ObjLayout)} (hasc : Ascending 0 (blocks objs))
    (heven : ∀ b ∈ blocks objs, b.base % 2 = 0) (h : objs.foldlM (linkObject globals) [] = .ok linked) :
    AgreesOutside (Patched objs) linked ((blocks objs).foldl place []) := by
  rw [foldlM_linkObject] at h
  have hgrow : (linkSteps objs).foldl grow [] = (blocks objs).foldl place [] := foldl_grow hasc heven
  rw [← hgrow]
  exact agrees_steps linkSteps_patches (.refl _ _) h

end Little64.Linker

import Little64.Linker.Link

/-! A link as a sequence of steps: the sections that are appended and the relocations that are applied. -/

namespace Little64.Linker

open CheckedAccess LittleEndian Placement

inductive LinkStep
  | start (base : Word) (bytes : Blob)
  | align
  | append (base : Word) (bytes : Blob)
  | patch (syms : List (ℕ × SymEntry)) (sectionBase : Word) (sectionSize : ℕ) (rel : Reloc)
  deriving DecidableEq

def perform (globals : GlobalSymbols) (linked : Blob) : LinkStep → Result Blob
  | .start base bytes =>
    if base.toNat < (padEven linked).length then fail "Linker internal state mismatch"
    else .ok (padTo (padEven linked) base.toNat ++ bytes)
  | .align => .ok (padEven linked)
  | .append base bytes => .ok (padTo linked base.toNat ++ bytes)
  | .patch syms sectionBase sectionSize rel => applyReloc globals syms sectionBase sectionSize linked rel

def patches (ctx : ObjectContext) (base : Word) (bytes : Blob) (relocs : List Reloc) : List LinkStep :=
  relocs.map (.patch ctx.syms base bytes.length)

def rodataSteps (ctx : ObjectContext) (lay : ObjLayout) : List LinkStep :=
  if ctx.rodataBytes ≠ [] then
    [.align, .append lay.rodataBase ctx.rodataBytes] ++ patches ctx lay.rodataBase ctx.rodataBytes ctx.rodataRelocs
  else []

def objectSteps (object : ObjectContext × ObjLayout) : List LinkStep :=
  let ctx := object.1
  let lay := object.2
  [.start lay.textBase ctx.textBytes] ++ patches ctx lay.textBase ctx.textBytes ctx.textRelocs ++
    rodataSteps ctx lay ++
      ([.append lay.dataBase ctx.dataBytes] ++ patches ctx lay.dataBase ctx.dataBytes ctx.dataRelocs ++
        [.append lay.bssBase (List.replicate ctx.bssSize.toNat 0)])

def linkSteps (objs : List (ObjectContext × ObjLayout)) : List LinkStep := objs.flatMap objectSteps

variable {globals : GlobalSymbols} {linked : Blob}

lemma foldlM_patches (ctx : ObjectContext) (base : Word) (bytes : Blob) (relocs : List Reloc) :
    (patches ctx base bytes relocs).foldlM (perform globals) linked =
      applyRelocs globals ctx.syms base bytes relocs linked := by
  rw [patches, List.foldlM_map]
  rfl

lemma foldlM_rodataSteps (ctx : ObjectContext) (lay : ObjLayout) :
    (rodataSteps ctx lay).foldlM (perform globals) linked =
      if ctx.rodataBytes ≠ [] then
        applyRelocs globals ctx.syms lay.rodataBase ctx.rodataBytes ctx.rodataRelocs
          (padTo (padEven linked) lay.rodataBase.toNat ++ ctx.rodataBytes)
      else pure linked := by
  rw [rodataSteps]
  split
  · rw [List.foldlM_append, ← foldlM_patches]
    rfl
  · rfl

lemma linkObject_eq (object : ObjectContext × ObjLayout) :
    linkObject globals linked object = (objectSteps object).foldlM (perform globals) linked := by
  obtain ⟨ctx, lay⟩ := object
  rw [objectSteps, linkObject]
  simp only [List.foldlM_append, List.foldlM_cons, List.foldlM_nil, foldlM_patches, foldlM_rodataSteps, perform]
  by_cases hmismatch : lay.textBase.toNat < (padEven linked).length
  · simp only [hmismatch, if_true]
    rfl
  · simp only [hmismatch, if_false]
    have hok : ∀ b : Blob, (Except.ok b : Result Blob) = pure b := fun _ => rfl
    by_cases hrodata : ctx.rodataBytes ≠ []
    · simp only [if_pos hrodata, hok, pure_bind, bind_assoc]
    · simp only [if_neg hrodata, hok, pure_bind, bind_assoc]

theorem foldlM_linkObject (objs : List (ObjectContext × ObjLayout)) :
    objs.foldlM (linkObject globals) linked = (linkSteps objs).foldlM (perform globals) linked := by
  induction objs generalizing linked with
  | nil => rfl
  | cons object objs ih =>
    rw [linkSteps, List.flatMap_cons, List.foldlM_append, List.foldlM_cons, linkObject_eq]
    exact bind_congr fun l => ih

end Little64.Linker

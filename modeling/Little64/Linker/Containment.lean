import Little64.Linker.ParseContainment

/-! Where a link reads and writes: inside the files and inside the relocated sections, as long as no range check
passes by wrap-around and the section headers lie in the files. -/

namespace Little64.Linker

open CheckedAccess LittleEndian Placement

/-- A file that is parsed: all files before it are accepted. -/
def Reached (files : List Blob) (file : Blob) : Prop :=
  ∃ before behind, files = before ++ file :: behind ∧ ∃ ctxs, before.mapM parseObject = .ok ctxs

/-- A relocation of a known type in a link, with the image before it. -/
structure ReachedReloc (files : List Blob) where
  ctxs : List ObjectContext
  before : List LinkStep
  behind : List LinkStep
  syms : List (ℕ × SymEntry)
  base : Word
  size : ℕ
  rel : Reloc
  needed : Word
  image : Blob
  parses : files.mapM parseObject = .ok ctxs
  split : linkSteps (placedObjects ctxs) = before ++ .patch syms base size rel :: behind
  run : before.foldlM (perform (globalSymbols (placedObjects ctxs))) [] = .ok image
  typed : neededBytes rel.type = some needed

namespace ReachedReloc

variable {files : List Blob} (r : ReachedReloc files)

def address : Word := r.base + r.rel.offset

def apply : Result Blob := applyReloc (globalSymbols (placedObjects r.ctxs)) r.syms r.base r.size r.image r.rel

end ReachedReloc

/-- What holds of every range check that a link reaches before it patches. -/
structure LinkChecks (files : List Blob) (holds : ℕ → Word → Word → Prop) : Prop where
  parse : ∀ file, Reached files file → ParseChecks file holds
  offset : ∀ r : ReachedReloc files, holds r.size r.rel.offset r.needed

/-- A link that keeps to its vectors, to the relocated sections and to exact range checks. -/
structure LinkContained (files : List Blob) : Prop where
  inside : Contained (linkObjectsInternal files)
  checks : LinkChecks files Exact
  field : ∀ r : ReachedReloc files, (r.rel.offset + r.needed).toNat ≤ r.size →
    Exact r.image.length r.address r.needed
  written : ∀ r : ReachedReloc files, ∀ image, r.apply = .ok image →
    r.base.toNat ≤ r.address.toNat ∧ r.address.toNat + r.needed.toNat ≤ r.base.toNat + r.size

structure LinkSafe (files : List Blob) : Prop where
  checks : LinkChecks files NoWrap
  headers : ∀ file, Reached files file → HeadersInside file

variable {files : List Blob}

lemma Reached.mem {file : Blob} (h : Reached files file) : file ∈ files := by
  obtain ⟨before, behind, rfl, -⟩ := h
  exact List.mem_append_right _ List.mem_cons_self

lemma of_mem_patches {ctx : ObjectContext} {start base : Word} {bytes : Blob} {relocs : List Reloc}
    {syms : List (ℕ × SymEntry)} {size : ℕ} {rel : Reloc} (h : .patch syms base size rel ∈ patches ctx start bytes relocs) :
    base = start ∧ size = bytes.length := by
  obtain ⟨rel', -, hpatch⟩ := List.mem_map.1 h
  injection hpatch with _ hbase hsize _
  exact ⟨hbase.symm, hsize.symm⟩

lemma section_of_patch {objs : List (ObjectContext × ObjLayout)} {syms : List (ℕ × SymEntry)} {base : Word} {size : ℕ}
    {rel : Reloc} (h : .patch syms base size rel ∈ linkSteps objs) :
    ∃ object ∈ objs, ∃ s ∈ sections object, base = s.base ∧ size = s.bytes.length := by
  obtain ⟨object, hobject, h⟩ := List.mem_flatMap.1 h
  refine ⟨object, hobject, ?_⟩
  simp only [objectSteps, rodataSteps, List.mem_append, List.mem_singleton] at h
  rcases h with ((h | h) | h) | ((h | h) | h)
  · cases h
  · exact ⟨_, .head _, of_mem_patches h⟩
  · split at h
    · rcases List.mem_append.1 h with h | h
      · simp only [List.mem_cons, List.not_mem_nil, or_false] at h
        rcases h with h | h <;> cases h
      · exact ⟨_, .tail _ (.head _), of_mem_patches h⟩
    · exact absurd h List.not_mem_nil
  · cases h
  · exact ⟨_, .tail _ (.tail _ (.head _)), of_mem_patches h⟩
  · cases h

lemma ReachedReloc.section_fits (r : ReachedReloc files) (himage : totalSize (parsed files) < 2 ^ 63) :
    r.base.toNat + r.size < 2 ^ 64 := by
  have hparsed : parsed files = r.ctxs := by rw [parsed, r.parses]
  rw [hparsed] at himage
  have hused : 0 + totalSize r.ctxs < 2 ^ 63 := by omega
  obtain ⟨-, -, hfit⟩ := layouts_placed (a := 0) (sized_of_keeps (parsed_keeps r.parses)) (Nat.zero_le _) hused
  have hmem : .patch r.syms r.base r.size r.rel ∈ linkSteps (placedObjects r.ctxs) := by
    rw [r.split]
    exact List.mem_append_right _ List.mem_cons_self
  obtain ⟨object, hobject, s, hs, hbase, hsize⟩ := section_of_patch hmem
  rw [hbase, hsize]
  exact hfit s.block (List.mem_flatMap.2 ⟨object, hobject, List.mem_map_of_mem hs⟩)

lemma ReachedReloc.inside (r : ReachedReloc files) (himage : totalSize (parsed files) < 2 ^ 63)
    (hexact : Exact r.size r.rel.offset r.needed) (hoffset : (r.rel.offset + r.needed).toNat ≤ r.size) :
    r.address.toNat = r.base.toNat + r.rel.offset.toNat ∧ r.rel.offset.toNat + r.needed.toNat ≤ r.size := by
  have hfits := r.section_fits himage
  have hin := hexact.1 hoffset
  have hsum : r.base.toNat + r.rel.offset.toNat ≤ 2 ^ 64 - 1 := by omega
  exact ⟨toNat_add_of_le hsum (by omega), hin⟩

section Patch

variable {image : Blob} {address value symAddr addend : Word}

lemma contained_patchAbs {needed : ℕ} {name : String}
    (h : (address + BitVec.ofNat 64 needed).toNat ≤ image.length → address.toNat + needed ≤ image.length) :
    Contained (patchAbs image address value needed name) := by
  rw [patchAbs, contained_check, not_lt]
  intro hrange
  exact (contained_write _ _ _ _).2 (h hrange)

lemma contained_encode {field : PcrelField} {instr : BitVec 16} :
    Contained (field.encode instr symAddr addend address) := by
  unfold PcrelField.encode
  dsimp only
  rw [contained_check]
  intro _
  rw [contained_check]
  intro _
  rw [contained_check]
  intro _
  exact contained_pure _

lemma contained_patchPcrel {field : PcrelField}
    (h : (address + 2).toNat ≤ image.length → address.toNat + 2 ≤ image.length) :
    Contained (patchPcrel image address symAddr addend field) := by
  rw [patchPcrel, contained_check, not_lt]
  intro hrange
  refine contained_bind.2 ⟨(contained_read _ _ _).2 (h hrange), fun instr _ => ?_⟩
  exact contained_bind.2 ⟨contained_encode, fun newInstr _ => (contained_write _ _ _ _).2 (h hrange)⟩

end Patch

lemma contained_resolveSymbol {globals : GlobalSymbols} {syms : List (ℕ × SymEntry)} {sym : BitVec 32} :
    Contained (resolveSymbol globals syms sym) := by
  rw [resolveSymbol]
  split
  · exact contained_reject _
  · split
    · exact contained_reject _
    · exact contained_ok _

lemma contained_applyReloc {globals : GlobalSymbols} {syms : List (ℕ × SymEntry)} {base : Word} {size : ℕ} {image : Blob}
    {rel : Reloc} (h : ∀ needed, neededBytes rel.type = some needed → (rel.offset + needed).toNat ≤ size →
      (base + rel.offset + needed).toNat ≤ image.length → (base + rel.offset).toNat + needed.toNat ≤ image.length) :
    Contained (applyReloc globals syms base size image rel) := by
  rw [applyReloc]
  cases hsize : neededBytes rel.type with
  | none => exact contained_reject _
  | some needed =>
    dsimp only
    rw [contained_check, not_lt]
    intro hoffset
    have hinside := h needed hsize hoffset
    refine contained_bind.2 ⟨contained_resolveSymbol, fun symAddr _ => ?_⟩
    rw [neededBytes] at hsize
    by_cases h64 : rel.type = relAbs64
    · rw [if_pos h64] at hsize ⊢
      obtain rfl := Option.some.inj hsize
      exact contained_patchAbs hinside
    rw [if_neg h64] at hsize ⊢
    by_cases h32 : rel.type = relAbs32
    · rw [if_pos h32] at hsize ⊢
      obtain rfl := Option.some.inj hsize
      exact contained_patchAbs hinside
    rw [if_neg h32] at hsize ⊢
    have hpcrel : needed = 2 := by
      split at hsize
      · exact (Option.some.inj hsize).symm
      · cases hsize
    subst hpcrel
    split
    · exact contained_patchPcrel hinside
    split
    · exact contained_patchPcrel hinside
    · exact contained_patchPcrel hinside

/-- The field of a relocation that passes the check of its offset: its section holds it, and the address does not wrap. -/
lemma ReachedReloc.field_exact (r : ReachedReloc files) (himage : totalSize (parsed files) < 2 ^ 63)
    (hexact : Exact r.size r.rel.offset r.needed) (hoffset : (r.rel.offset + r.needed).toNat ≤ r.size) :
    Exact r.image.length r.address r.needed := by
  obtain ⟨haddress, hin⟩ := r.inside himage hexact hoffset
  have hfits := r.section_fits himage
  apply NoWrap.exact
  exact .inl (by omega)

lemma contained_perform (himage : totalSize (parsed files) < 2 ^ 63) (hchecks : LinkChecks files Exact)
    {ctxs : List ObjectContext} (hparses : files.mapM parseObject = .ok ctxs) {before behind : List LinkStep}
    {step : LinkStep} {image : Blob} (hsplit : linkSteps (placedObjects ctxs) = before ++ step :: behind)
    (hrun : before.foldlM (perform (globalSymbols (placedObjects ctxs))) [] = .ok image) :
    Contained (perform (globalSymbols (placedObjects ctxs)) image step) := by
  cases step with
  | start base bytes =>
    rw [perform]
    split
    · exact contained_reject _
    · exact contained_ok _
  | align => exact contained_ok _
  | append base bytes => exact contained_ok _
  | patch syms base size rel =>
    apply contained_applyReloc
    intro needed htyped hoffset
    let r : ReachedReloc files := ⟨ctxs, before, behind, syms, base, size, rel, needed, image, hparses, hsplit, hrun, htyped⟩
    exact (r.field_exact himage (hchecks.offset r) hoffset).1

/-- A link stays inside its vectors if its checks are exact and the section headers lie in the files. -/
theorem contained_link (hfiles : ∀ file ∈ files, file.length < 2 ^ 63) (himage : totalSize (parsed files) < 2 ^ 63)
    (hchecks : LinkChecks files Exact) :
    Contained (linkObjectsInternal files) ↔ ∀ file, Reached files file → HeadersInside file := by
  have hparse {file : Blob} (hreached : Reached files file) :
      Contained (parseObject file) ↔ HeadersInside file :=
    parseObject_contained_iff (hfiles file hreached.mem) (hchecks.parse file hreached)
  rw [linkObjectsInternal, contained_bind, contained_mapM]
  constructor
  · rintro ⟨hfiles, -⟩ file ⟨before, behind, hsplit, hctxs⟩
    exact (hparse ⟨before, behind, hsplit, hctxs⟩).1 (hfiles before file behind hsplit hctxs)
  · intro h
    constructor
    · intro before file behind hsplit hctxs
      exact (hparse ⟨before, behind, hsplit, hctxs⟩).2 (h file ⟨before, behind, hsplit, hctxs⟩)
    · intro ctxs hctxs
      refine contained_bind.2 ⟨?_, fun linked _ => contained_pure _⟩
      rw [foldlM_linkObject, contained_foldlM]
      intro before step behind image hsplit hrun
      exact contained_perform himage hchecks hctxs hsplit hrun

lemma exact_parse_iff {file : Blob} (hlen : file.length < 2 ^ 63) : ParseChecks file Exact ↔ ParseChecks file NoWrap := by
  have hiff {off size : Word} : Exact file.length off size ↔ NoWrap file.length off size :=
    exact_iff_noWrap (by omega)
  constructor
  · intro h
    exact ⟨fun hr => hiff.1 (h.table hr), fun hr => hiff.1 (h.names hr),
      fun si scan s hsi hs hsec hc => hiff.1 (h.sections si scan s hsi hs hsec hc),
      fun scan hs hsym i h1 hi hb => hiff.1 (h.symbols scan hs hsym i h1 hi hb)⟩
  · intro h
    exact ⟨fun hr => hiff.2 (h.table hr), fun hr => hiff.2 (h.names hr),
      fun si scan s hsi hs hsec hc => hiff.2 (h.sections si scan s hsi hs hsec hc),
      fun scan hs hsym i h1 hi hb => hiff.2 (h.symbols scan hs hsym i h1 hi hb)⟩

lemma exact_link_iff (hfiles : ∀ file ∈ files, file.length < 2 ^ 63) (himage : totalSize (parsed files) < 2 ^ 63) :
    LinkChecks files Exact ↔ LinkChecks files NoWrap := by
  have hsize (r : ReachedReloc files) : r.size < 2 ^ 64 := by
    have hfits := r.section_fits himage
    omega
  constructor
  · intro h
    exact ⟨fun file hr => (exact_parse_iff (hfiles file hr.mem)).1 (h.parse file hr),
      fun r => (exact_iff_noWrap (hsize r)).1 (h.offset r)⟩
  · intro h
    exact ⟨fun file hr => (exact_parse_iff (hfiles file hr.mem)).2 (h.parse file hr),
      fun r => (h.offset r).exact⟩

theorem linkContained_iff (hfiles : ∀ file ∈ files, file.length < 2 ^ 63)
    (himage : totalSize (parsed files) < 2 ^ 63) : LinkContained files ↔ LinkSafe files := by
  constructor
  · intro h
    exact ⟨(exact_link_iff hfiles himage).1 h.checks, (contained_link hfiles himage h.checks).1 h.inside⟩
  · intro h
    have hchecks := (exact_link_iff hfiles himage).2 h.checks
    refine ⟨(contained_link hfiles himage hchecks).2 h.headers, hchecks, ?_, ?_⟩
    · intro r hoffset
      exact r.field_exact himage (hchecks.offset r) hoffset
    · intro r image happly
      obtain ⟨needed, symAddr, bytes, happ⟩ := applyReloc_ok.1 happly
      obtain rfl := Option.some.inj (r.typed.symm.trans happ.size)
      obtain ⟨haddress, hin⟩ := r.inside himage (hchecks.offset r) happ.offset
      omega

end Little64.Linker

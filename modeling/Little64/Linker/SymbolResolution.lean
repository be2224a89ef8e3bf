import Little64.Linker.LinkLayout

/-! The definition that a symbol table entry designates, and the one that the linker takes: the last of that name. -/

namespace Little64.Linker

open CheckedAccess LittleEndian Placement

/-- The symbol table entries of all objects in the order of the link. -/
def entries (objs : List (ObjectContext × ObjLayout)) : List ((ObjectContext × ObjLayout) × SymEntry) :=
  objs.flatMap fun object => (object.1.syms.map Prod.snd).map fun s => (object, s)

/-- An entry that defines a name for the other objects: it has a section and its binding is not local. -/
def definesGlobally (name : Blob) (e : (ObjectContext × ObjLayout) × SymEntry) : Bool :=
  e.2.shndx != 0 && e.2.name == name && e.2.info >>> 4 != 0

/-- The address that an entry designates: that of its own definition or, of an undefined symbol, of the unique global
definition of the name. -/
def Designates (objs : List (ObjectContext × ObjLayout)) (object : ObjectContext × ObjLayout) (s : SymEntry)
    (address : Word) : Prop :=
  if s.shndx ≠ 0 then symbolAddress object.1 object.2 s = some address
  else ∃ e, (entries objs).filter (definesGlobally s.name) = [e] ∧ symbolAddress e.1.1 e.1.2 e.2 = some address

/-- An entry that puts an address into the symbol table. -/
def Puts (e : (ObjectContext × ObjLayout) × SymEntry) (name : Blob) (address : Word) : Prop :=
  e.2.shndx ≠ 0 ∧ e.2.name = name ∧ symbolAddress e.1.1 e.1.2 e.2 = some address

/-- The last entry of all objects that defines a name, local or global. -/
def LastDefinition (objs : List (ObjectContext × ObjLayout)) (name : Blob) (address : Word) : Prop :=
  ∃ before e behind, entries objs = before ++ e :: behind ∧ Puts e name address ∧
    ∀ e' ∈ behind, ∀ address', ¬ Puts e' name address'

/-- Every relocation of an accepted link gets the address that its symbol designates. -/
def ResolvesDesignated (files : List Blob) : Prop :=
  ∀ out, linkObjectsInternal files = .ok out → ∀ object ∈ placedObjects (parsed files), ∀ sec ∈ sections object,
    ∀ rel ∈ sec.relocs, ∃ s address, object.1.syms.lookup rel.sym.toNat = some s ∧
      resolveSymbol (globalSymbols (placedObjects (parsed files))) object.1.syms rel.sym = .ok address ∧
      Designates (placedObjects (parsed files)) object s address

/-- The last definition of each relocated name is the designated one, or at its address. -/
def LastDesignated (files : List Blob) : Prop :=
  ∀ out, linkObjectsInternal files = .ok out → ∀ object ∈ placedObjects (parsed files), ∀ sec ∈ sections object,
    ∀ rel ∈ sec.relocs, ∀ s, object.1.syms.lookup rel.sym.toNat = some s → ∀ address,
      LastDefinition (placedObjects (parsed files)) s.name address →
        Designates (placedObjects (parsed files)) object s address

variable {files : List Blob} {objs : List (ObjectContext × ObjLayout)} {object : ObjectContext × ObjLayout}
  {s : SymEntry} {name : Blob} {address : Word}

lemma definition_eq_some (hname : name ≠ []) :
    definition object.1 object.2 s = some (name, address) ↔ Puts (object, s) name address := by
  rw [definition, Puts]
  split
  · rename_i hskip
    refine iff_of_false (fun h => by cases h) ?_
    rintro ⟨hshndx, rfl, -⟩
    exact hskip.elim hshndx hname
  · rename_i hkept
    rw [Option.map_eq_some_iff]
    constructor
    · rintro ⟨address', haddress, heq⟩
      obtain ⟨rfl, rfl⟩ := Prod.mk.inj heq
      exact ⟨(not_or.1 hkept).1, rfl, haddress⟩
    · rintro ⟨-, rfl, haddress⟩
      exact ⟨address, haddress, rfl⟩

lemma definitions_eq (objs : List (ObjectContext × ObjLayout)) :
    definitions objs = (entries objs).filterMap fun e => definition e.1.1 e.1.2 e.2 := by
  rw [definitions, entries, List.filterMap_flatMap]
  congr 1
  funext object
  rw [List.filterMap_map]
  rfl

lemma lastOf_one (hname : name ≠ []) (e : (ObjectContext × ObjLayout) × SymEntry) :
    lastOf name ([e].filterMap fun e => definition e.1.1 e.1.2 e.2) = some address ↔ Puts e name address := by
  obtain ⟨object, s⟩ := e
  rw [← definition_eq_some hname]
  cases hdef : definition object.1 object.2 s with
  | none =>
    have hskip : [(object, s)].filterMap (fun e => definition e.1.1 e.1.2 e.2) = [] := List.filterMap_cons_none hdef
    rw [hskip]
    exact iff_of_false (fun h => by cases h) fun h => by cases h
  | some d =>
    have hkeep : [(object, s)].filterMap (fun e => definition e.1.1 e.1.2 e.2) = [d] := List.filterMap_cons_some hdef
    rw [hkeep]
    change (if d.1 = name then some d.2 else none) = some address ↔ _
    split
    · rename_i hd
      rw [Option.some.injEq, Option.some.injEq, Prod.ext_iff]
      exact (and_iff_right hd).symm
    · rename_i hd
      refine iff_of_false (fun h => by cases h) fun h => ?_
      rw [Option.some.inj h] at hd
      exact hd rfl

lemma lastOf_filterMap (hname : name ≠ []) (l : List ((ObjectContext × ObjLayout) × SymEntry)) :
    lastOf name (l.filterMap fun e => definition e.1.1 e.1.2 e.2) = some address ↔
      ∃ before e behind, l = before ++ e :: behind ∧ Puts e name address ∧
        ∀ e' ∈ behind, ∀ address', ¬ Puts e' name address' := by
  induction l using List.reverseRecOn with
  | nil =>
    refine iff_of_false (fun h => by cases h) ?_
    rintro ⟨before, e, behind, h, -⟩
    exact List.append_ne_nil_of_right_ne_nil _ (List.cons_ne_nil _ _) h.symm
  | append_singleton l e ih =>
    rw [List.filterMap_append, lastOf_append, Option.or_eq_some_iff, lastOf_one hname]
    constructor
    · rintro (hputs | ⟨hnone, hlast⟩)
      · exact ⟨l, e, [], rfl, hputs, fun e' he' => absurd he' List.not_mem_nil⟩
      · obtain ⟨before, e', behind, rfl, hputs, hbehind⟩ := ih.1 hlast
        refine ⟨before, e', behind ++ [e], List.append_assoc _ _ _, hputs, ?_⟩
        intro t ht address' h
        rcases List.mem_append.1 ht with ht | ht
        · exact hbehind t ht address' h
        · obtain rfl := List.mem_singleton.1 ht
          rw [(lastOf_one hname t).2 h] at hnone
          cases hnone
    · rintro ⟨before, e', behind, hsplit, hputs, hbehind⟩
      rcases eq_append_singleton hsplit with ⟨rfl, rfl, rfl⟩ | ⟨behind', rfl, rfl⟩
      · exact .inl hputs
      · refine .inr ⟨?_, ih.2 ⟨before, e', behind', rfl, hputs, fun t ht => hbehind t (List.mem_append_left _ ht)⟩⟩
        cases hlast : lastOf name ([e].filterMap fun e => definition e.1.1 e.1.2 e.2) with
        | none => rfl
        | some address' =>
          have h := (lastOf_one hname e).1 hlast
          exact absurd h (hbehind e (List.mem_append_right _ (List.mem_singleton_self _)) address')

/-- The linker takes the last definition. -/
theorem globalSymbols_last (hname : name ≠ []) :
    globalSymbols objs name = some address ↔ LastDefinition objs name address := by
  rw [globalSymbols_eq, definitions_eq]
  exact lastOf_filterMap hname _

lemma globalSymbols_nil : globalSymbols objs [] = none := by
  rw [globalSymbols_eq]
  cases h : lastOf [] (definitions objs) with
  | none => rfl
  | some address =>
    obtain ⟨object, -, hmem⟩ := List.mem_flatMap.1 (mem_of_lastOf h)
    obtain ⟨s, -, hdef⟩ := List.mem_filterMap.1 hmem
    rw [definition] at hdef
    split at hdef
    · cases hdef
    · rename_i hkept
      obtain ⟨_, -, heq⟩ := Option.map_eq_some_iff.1 hdef
      exact absurd (Prod.mk.inj heq).1 (not_or.1 hkept).2

lemma resolveSymbol_ok {globals : GlobalSymbols} {syms : List (ℕ × SymEntry)} {sym : BitVec 32}
    (h : resolveSymbol globals syms sym = .ok address) :
    ∃ s, syms.lookup sym.toNat = some s ∧ globals s.name = some address := by
  rw [resolveSymbol] at h
  split at h
  · cases h
  · rename_i s hs
    split at hs
    · cases hs
    · refine ⟨s, hs, ?_⟩
      split at h
      · cases h
      · rename_i address' haddress
        rw [haddress, Except.ok.inj h]

/-- In an accepted link each relocation gets the address of the last definition of its symbol's name. -/
theorem resolves_last {out : Linked} (hlink : linkObjectsInternal files = .ok out)
    (hobject : object ∈ placedObjects (parsed files)) {sec : PlacedSection} (hsec : sec ∈ sections object) {rel : Reloc}
    (hrel : rel ∈ sec.relocs) : ∃ s address, object.1.syms.lookup rel.sym.toNat = some s ∧
      resolveSymbol (globalSymbols (placedObjects (parsed files))) object.1.syms rel.sym = .ok address ∧
      LastDefinition (placedObjects (parsed files)) s.name address := by
  obtain ⟨-, linked, hlinked, -⟩ := linkObjectsInternal_ok hlink
  obtain ⟨before, after, needed, address, bytes, happ⟩ := relocation_applied hlinked hobject hsec hrel
  obtain ⟨s, hs, hglobal⟩ := resolveSymbol_ok happ.symbol
  refine ⟨s, address, hs, happ.symbol, (globalSymbols_last ?_).1 hglobal⟩
  intro hname
  rw [hname, globalSymbols_nil] at hglobal
  cases hglobal

theorem resolves_designated_iff (files : List Blob) : ResolvesDesignated files ↔ LastDesignated files := by
  constructor
  · intro h out hlink object hobject sec hsec rel hrel s hs address hlast
    obtain ⟨s', address', hs', hresolve, hdesignates⟩ := h out hlink object hobject sec hsec rel hrel
    obtain rfl : s' = s := Option.some.inj (hs'.symm.trans hs)
    obtain ⟨t, ht, hglobal⟩ := resolveSymbol_ok hresolve
    obtain rfl : t = s' := Option.some.inj (ht.symm.trans hs)
    have hname : t.name ≠ [] := by
      intro hname
      rw [hname, globalSymbols_nil] at hglobal
      cases hglobal
    rw [(globalSymbols_last hname).2 hlast] at hglobal
    exact Option.some.inj hglobal ▸ hdesignates
  · intro h out hlink object hobject sec hsec rel hrel
    obtain ⟨s, address, hs, hresolve, hlast⟩ := resolves_last hlink hobject hsec hrel
    exact ⟨s, address, hs, hresolve, h out hlink object hobject sec hsec rel hrel s hs address hlast⟩

/-- Two objects with a static function of one name: the jump of the first one goes to the function of the second. -/
theorem static_function_shadowed :
    let first := objectFile [0x00, 0xE0, 0x00, 0xDF] [⟨0, 1, relPcrel13, 0⟩] [⟨[0x66], 2, 1, 2⟩]
    let second := objectFile [0x00, 0xDF] [] [⟨[0x66], 2, 1, 0⟩]
    linkObjectsInternal [first, second] = .ok ⟨[0xE001, 0xDF00, 0xDF00], none⟩ ∧
      ¬ ResolvesDesignated [first, second] := by
  intro first second
  have hlink : linkObjectsInternal [first, second] = .ok ⟨[0xE001, 0xDF00, 0xDF00], none⟩ := by decide +kernel
  refine ⟨hlink, fun h => ?_⟩
  have hfirst : (placedObjects (parsed [first, second])).head?.map
      (fun o => (o.1.syms, o.1.textShndx, o.2.textBase, o.1.textRelocs)) =
        some ([(1, ⟨[0x66], 2, 1, 2⟩)], some 1, 0, [⟨0, 1, relPcrel13, 0⟩]) := by decide +kernel
  have hglobal : globalSymbols (placedObjects (parsed [first, second])) [0x66] = some 4 := by decide +kernel
  obtain ⟨⟨ctx, lay⟩, hhead, hfields⟩ := Option.map_eq_some_iff.1 hfirst
  simp only [Prod.mk.injEq] at hfields
  obtain ⟨hsyms, hshndx, hbase, hrelocs⟩ := hfields
  have hrel : (⟨0, 1, relPcrel13, 0⟩ : Reloc) ∈ ctx.textRelocs := by
    rw [hrelocs]
    exact List.mem_cons_self
  obtain ⟨s, address, hs, hresolve, hdesignates⟩ :=
    h _ hlink _ (List.mem_of_mem_head? hhead) ⟨lay.textBase, ctx.textBytes, ctx.textRelocs⟩ (.head _) _ hrel
  obtain ⟨t, ht, htaken⟩ := resolveSymbol_ok hresolve
  rw [hsyms] at hs ht
  obtain rfl := Option.some.inj hs
  obtain rfl := Option.some.inj ht
  obtain rfl := Option.some.inj (hglobal.symm.trans htaken)
  have hown : symbolAddress ctx lay ⟨[0x66], 2, 1, 2⟩ = some 2 := by
    rw [symbolAddress, hshndx, hbase]
    rfl
  have hwrong : some (2 : Word) = some 4 := hown.symm.trans hdesignates
  exact absurd hwrong (by decide)

end Little64.Linker

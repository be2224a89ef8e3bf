import Little64.Linker.Layout
import Little64.Linker.Sections

/-! The global symbol table holds the last definition of each name; a definition is an offset in a section of its object. -/

namespace Little64.Linker

open CheckedAccess LittleEndian Placement

def definition (ctx : ObjectContext) (lay : ObjLayout) (s : SymEntry) : Option (Blob × Word) :=
  if s.shndx = 0 ∨ s.name = [] then none else (symbolAddress ctx lay s).map fun address => (s.name, address)

def objectDefinitions (object : ObjectContext × ObjLayout) : List (Blob × Word) :=
  (object.1.syms.map Prod.snd).filterMap (definition object.1 object.2)

/-- The definitions of all objects in the order of the link. -/
def definitions (objs : List (ObjectContext × ObjLayout)) : List (Blob × Word) := objs.flatMap objectDefinitions

def lastOf (name : Blob) : List (Blob × Word) → Option Word
  | [] => none
  | d :: ds => (lastOf name ds).or (if d.1 = name then some d.2 else none)

variable {name : Blob} {ds es : List (Blob × Word)} {address : Word}

lemma lastOf_append : lastOf name (ds ++ es) = (lastOf name es).or (lastOf name ds) := by
  induction ds with
  | nil => exact Option.or_none.symm
  | cons d ds ih => rw [List.cons_append, lastOf, ih, lastOf, Option.or_assoc]

lemma mem_of_lastOf (h : lastOf name ds = some address) : (name, address) ∈ ds := by
  induction ds with
  | nil => cases h
  | cons d ds ih =>
    rw [lastOf, Option.or_eq_some_iff] at h
    rcases h with h | ⟨-, h⟩
    · exact List.mem_cons_of_mem _ (ih h)
    · split at h
      · rename_i hname
        rw [← hname, ← Option.some.inj h]
        exact List.mem_cons_self
      · cases h

lemma foldl_defineSymbol (ctx : ObjectContext) (lay : ObjLayout) (globals : GlobalSymbols) (l : List SymEntry) :
    l.foldl (defineSymbol ctx lay) globals name = (lastOf name (l.filterMap (definition ctx lay))).or (globals name) := by
  induction l generalizing globals with
  | nil => rfl
  | cons s l ih =>
    rw [List.foldl_cons, ih, defineSymbol, List.filterMap_cons, definition]
    split
    · rfl
    · cases symbolAddress ctx lay s with
      | none => rfl
      | some address =>
        rw [Option.map_some]
        change _ = (lastOf name ((s.name, address) :: l.filterMap (definition ctx lay))).or (globals name)
        rw [lastOf, Option.or_assoc]
        congr 1
        dsimp only
        by_cases hname : name = s.name
        · rw [if_pos hname, if_pos hname.symm]
          rfl
        · rw [if_neg hname, if_neg (Ne.symm hname)]
          rfl

theorem globalSymbols_eq (objs : List (ObjectContext × ObjLayout)) :
    globalSymbols objs name = lastOf name (definitions objs) := by
  have hrun (globals : GlobalSymbols) :
      objs.foldl defineObject globals name = (lastOf name (definitions objs)).or (globals name) := by
    induction objs generalizing globals with
    | nil => rfl
    | cons object objs ih =>
      have hsplit : definitions (object :: objs) = objectDefinitions object ++ definitions objs := rfl
      rw [List.foldl_cons, ih, defineObject, foldl_defineSymbol, hsplit, lastOf_append, Option.or_assoc]
      rfl
  rw [globalSymbols, hrun, Option.or_none]

section Starts

variable {file : Blob} {ctx : ObjectContext} {lay : ObjLayout} {s : SymEntry} {sec : FileSection} {start : ℕ}

/-- Where a section of a file lies in the image. -/
inductive StartsAt (file : Blob) (ctx : ObjectContext) (lay : ObjLayout) (sec : FileSection) : ℕ → Prop
  | text : lastNamed textName (fileSections file) = some sec → StartsAt file ctx lay sec lay.textBase.toNat
  | data : lastNamed dataName (fileSections file) = some sec → StartsAt file ctx lay sec lay.dataBase.toNat
  | bss : lastNamed bssName (fileSections file) = some sec → StartsAt file ctx lay sec lay.bssBase.toNat
  | rodata (before behind : List FileSection) : fileSections file = before ++ sec :: behind → isRodataName sec.name →
      sec.size ≠ 0 → StartsAt file ctx lay sec (lay.rodataBase.toNat + (rodataContents file before).length)

lemma fileSections_pairwise (file : Blob) : (fileSections file).Pairwise fun s t => s.index < t.index := by
  rw [fileSections, List.pairwise_filterMap]
  have hindex {shoff : Word} {shentsize : BitVec 16} {shstr : Blob} {i : ℕ} {t : FileSection}
      (h : sectionAt file shoff shentsize shstr i = some t) : t.index = i := by
    rw [sectionAt] at h
    split at h
    · cases h
    · rw [← Option.some.inj h]
  apply List.pairwise_lt_range.imp
  intro i j hij t ht u hu
  rw [hindex ht, hindex hu]
  exact hij

lemma fileSections_inj {s t : FileSection} (hs : s ∈ fileSections file) (ht : t ∈ fileSections file)
    (h : s.index = t.index) : s = t := by
  have hnodup : ((fileSections file).map FileSection.index).Nodup :=
    List.pairwise_map.2 ((fileSections_pairwise file).imp fun hlt => Nat.ne_of_lt hlt)
  exact List.inj_on_of_nodup_map hnodup hs ht h

lemma mem_of_lastNamed {name : Blob} {secs : List FileSection} (h : lastNamed name secs = some sec) :
    sec ∈ secs ∧ sec.name = name := by
  induction secs using List.reverseRecOn with
  | nil => cases h
  | append_singleton secs t ih =>
    rw [lastNamed_append] at h
    split at h
    · obtain rfl := Option.some.inj h
      exact ⟨List.mem_append_right _ List.mem_cons_self, ‹_›⟩
    · obtain ⟨hmem, hname⟩ := ih h
      exact ⟨List.mem_append_left _ hmem, hname⟩

lemma StartsAt.mem (h : StartsAt file ctx lay sec start) : sec ∈ fileSections file := by
  cases h with
  | text h => exact (mem_of_lastNamed h).1
  | data h => exact (mem_of_lastNamed h).1
  | bss h => exact (mem_of_lastNamed h).1
  | rodata before behind h =>
    rw [h]
    exact List.mem_append_right _ List.mem_cons_self

/-- A symbol of a section that was kept gets the start of the section plus its value. -/
lemma symbolAddress_of_starts (hkeeps : Keeps file (fileSections file) ctx) (h : StartsAt file ctx lay sec start)
    (hindex : sec.index = s.shndx.toNat) : symbolAddress ctx lay s = some (BitVec.ofNat 64 start + s.value) := by
  have hother {name : Blob} {t : FileSection} (ht : lastNamed name (fileSections file) = some t)
      (hname : sec.name ≠ name) : some s.shndx.toNat ≠ some t.index := by
    intro he
    obtain ⟨hmem, htname⟩ := mem_of_lastNamed ht
    apply hname
    rw [← htname, fileSections_inj h.mem hmem (hindex.trans (Option.some.inj he))]
  have hne {name : Blob} (hname : sec.name ≠ name) :
      some s.shndx.toNat ≠ (lastNamed name (fileSections file)).map FileSection.index := by
    cases ht : lastNamed name (fileSections file) with
    | none => exact Option.some_ne_none _
    | some t => exact hother ht hname
  have hbase (base : Word) : BitVec.ofNat 64 base.toNat = base := BitVec.eq_of_toNat_eq (by simp)
  rw [symbolAddress, hkeeps.text.index, hkeeps.data.index, hkeeps.bss.index]
  cases h with
  | text h =>
    rw [h, Option.map_some, hindex, if_pos rfl, hbase]
  | data h =>
    have hname := (mem_of_lastNamed h).2
    have htext : sec.name ≠ textName := by rw [hname]; decide
    rw [if_neg (hne htext), h, Option.map_some, hindex, if_pos rfl, hbase]
  | bss h =>
    have hname := (mem_of_lastNamed h).2
    have htext : sec.name ≠ textName := by rw [hname]; decide
    have hdata : sec.name ≠ dataName := by rw [hname]; decide
    rw [if_neg (hne htext), if_neg (hne hdata), h, Option.map_some, hindex, if_pos rfl, hbase]
  | rodata before behind h hname hsize =>
    have hnot {name : Blob} (hrodata : isRodataName name = false) : sec.name ≠ name := by
      rintro rfl
      exact Bool.false_ne_true (hrodata.symm.trans hname)
    have hlast : ∀ t ∈ behind, t.index ≠ sec.index := by
      intro t ht
      have hp := fileSections_pairwise file
      rw [h] at hp
      exact (List.rel_of_pairwise_cons (List.pairwise_append.1 hp).2.1 ht).ne'
    rw [if_neg (hne (hnot (by decide))), if_neg (hne (hnot (by decide))), if_neg (hne (hnot (by decide))), ← hindex,
      hkeeps.rodata.recorded before sec behind h hname hsize hlast, Option.map_some, BitVec.ofNat_add, hbase]

lemma starts_of_symbolAddress (hkeeps : Keeps file (fileSections file) ctx)
    (h : symbolAddress ctx lay s = some address) : ∃ sec start, sec.index = s.shndx.toNat ∧
      StartsAt file ctx lay sec start ∧ address = BitVec.ofNat 64 start + s.value := by
  have hbase (base : Word) : BitVec.ofNat 64 base.toNat = base := BitVec.eq_of_toNat_eq (by simp)
  have hlast {name : Blob} (hname : some s.shndx.toNat = (lastNamed name (fileSections file)).map FileSection.index) :
      ∃ sec, lastNamed name (fileSections file) = some sec ∧ sec.index = s.shndx.toNat :=
    Option.map_eq_some_iff.1 hname.symm
  rw [symbolAddress, hkeeps.text.index, hkeeps.data.index, hkeeps.bss.index] at h
  split at h
  · obtain ⟨sec, hsec, hindex⟩ := hlast ‹_›
    refine ⟨sec, lay.textBase.toNat, hindex, .text hsec, ?_⟩
    rw [hbase, Option.some.inj h]
  split at h
  · obtain ⟨sec, hsec, hindex⟩ := hlast ‹_›
    refine ⟨sec, lay.dataBase.toNat, hindex, .data hsec, ?_⟩
    rw [hbase, Option.some.inj h]
  split at h
  · obtain ⟨sec, hsec, hindex⟩ := hlast ‹_›
    refine ⟨sec, lay.bssBase.toNat, hindex, .bss hsec, ?_⟩
    rw [hbase, Option.some.inj h]
  · obtain ⟨start, hstart, haddress⟩ := Option.map_eq_some_iff.1 h
    obtain ⟨before, sec, behind, hsplit, hindex, hname, hsize, hoffset⟩ := hkeeps.rodata.starts _ _ hstart
    refine ⟨sec, _, hindex, .rodata before behind hsplit hname hsize, ?_⟩
    rw [BitVec.ofNat_add, hbase, ← haddress, hoffset]

end Starts

end Little64.Linker

import Little64.Linker.Image
import Little64.Linker.Symbols

/-! The output of a link: every block at its base, every symbol at its place, and nothing changed outside the
relocated fields. -/

namespace Little64.Linker

open CheckedAccess LittleEndian Placement

/-- The objects that the linker reads from some files. -/
def parsed (files : List Blob) : List ObjectContext :=
  match files.mapM parseObject with
  | .ok ctxs => ctxs
  | .error _ => []

def placedObjects (ctxs : List ObjectContext) : List (ObjectContext × ObjLayout) := ctxs.zip (layouts 0 ctxs)

def bytesOfWords (ws : List (BitVec 16)) : Blob := ws.flatMap fun w : BitVec 16 => [w.setWidth 8, (w >>> 8).setWidth 8]

/-- Each symbol of an object is at its place in the image; an address is that of a symbol at its place. -/
structure SymbolsPlaced (file : Blob) (object : ObjectContext × ObjLayout) : Prop where
  assigned : ∀ s ∈ object.1.syms.map Prod.snd, s.shndx ≠ 0 → s.name ≠ [] → ∀ sec start,
    StartsAt file object.1 object.2 sec start → sec.index = s.shndx.toNat →
      (s.name, BitVec.ofNat 64 start + s.value) ∈ objectDefinitions object
  only : ∀ name address, (name, address) ∈ objectDefinitions object → ∃ s ∈ object.1.syms.map Prod.snd,
    s.shndx ≠ 0 ∧ s.name = name ∧ ∃ sec start, StartsAt file object.1 object.2 sec start ∧
      sec.index = s.shndx.toNat ∧ address = BitVec.ofNat 64 start + s.value

structure LinkLayout (files : List Blob) (objs : List (ObjectContext × ObjLayout)) (out : Linked) : Prop where
  objects : List.Forall₂ (fun file object => Keeps file (fileSections file) object.1 ∧ SymbolsPlaced file object)
    files objs
  ordered : (blocks objs).Pairwise fun b b' => b.stop ≤ b'.base
  even : ∀ b ∈ blocks objs, b.base % 2 = 0
  within : ∀ b ∈ blocks objs, b.stop ≤ (bytesOfWords out.words).length
  held : ∀ b ∈ blocks objs, ∀ k < b.bytes.length, ¬ Patched objs (b.base + k) →
    (bytesOfWords out.words)[b.base + k]? = b.bytes[k]?
  padding : ∀ a < (bytesOfWords out.words).length, ¬ Covers (blocks objs) a → ¬ Patched objs a →
    (bytesOfWords out.words)[a]? = some 0
  entry : out.entry = lastOf startName (definitions objs)

variable {files : List Blob} {ctxs : List ObjectContext} {out : Linked}

lemma bytesOfWords_words {b : Blob} (h : b.length % 2 = 0) : bytesOfWords (words b) = b := by
  fun_induction words b with
  | case1 lo hi rest ih =>
    have hlo : (hi ++ lo).setWidth 8 = lo := by
      apply BitVec.eq_of_getLsbD_eq
      intro k hk
      rw [BitVec.getLsbD_setWidth, BitVec.getLsbD_append]
      simp [hk]
    have hhi : ((hi ++ lo) >>> 8).setWidth 8 = hi := by
      apply BitVec.eq_of_getLsbD_eq
      intro k hk
      rw [BitVec.getLsbD_setWidth, BitVec.getLsbD_ushiftRight, BitVec.getLsbD_append]
      simp [hk]
    have hrest : rest.length % 2 = 0 := by
      simp only [List.length_cons] at h
      omega
    change [(hi ++ lo).setWidth 8, ((hi ++ lo) >>> 8).setWidth 8] ++ bytesOfWords (words rest) = _
    rw [hlo, hhi, ih hrest]
    rfl
  | case2 b hne =>
    rcases b with _ | ⟨x, _ | ⟨y, rest⟩⟩
    · rfl
    · cases h
    · exact absurd rfl (hne x y rest)

lemma bytesOfWords_toWords (b : Blob) : bytesOfWords (toWords b) = padEven b := by
  apply bytesOfWords_words
  rw [padEven]
  split
  · rw [List.length_append, List.length_singleton]
    omega
  · omega

lemma linkObjectsInternal_ok (h : linkObjectsInternal files = .ok out) :
    files.mapM parseObject = .ok (parsed files) ∧ ∃ linked,
      (placedObjects (parsed files)).foldlM (linkObject (globalSymbols (placedObjects (parsed files)))) [] = .ok linked ∧
        out = ⟨toWords linked, globalSymbols (placedObjects (parsed files)) startName⟩ := by
  obtain ⟨ctxs, hctxs, h⟩ := bind_eq_ok.1 h
  have hparsed : parsed files = ctxs := by rw [parsed, hctxs]
  obtain ⟨linked, hlinked, hout⟩ := bind_eq_ok.1 h
  rw [hparsed]
  exact ⟨hctxs, linked, hlinked, (Except.ok.inj hout).symm⟩

lemma symbols_placed {file : Blob} {ctx : ObjectContext} {lay : ObjLayout} (h : Keeps file (fileSections file) ctx) :
    SymbolsPlaced file (ctx, lay) := by
  constructor
  · intro s hs hshndx hname sec start hstart hindex
    refine List.mem_filterMap.2 ⟨s, hs, ?_⟩
    rw [definition, if_neg (not_or.2 ⟨hshndx, hname⟩), symbolAddress_of_starts h hstart hindex]
    rfl
  · intro name address hmem
    obtain ⟨s, hs, hdef⟩ := List.mem_filterMap.1 hmem
    rw [definition] at hdef
    split at hdef
    · cases hdef
    · rename_i hdefined
      obtain ⟨address', haddress, heq⟩ := Option.map_eq_some_iff.1 hdef
      obtain ⟨rfl, rfl⟩ := Prod.mk.inj heq
      obtain ⟨sec, start, hindex, hstart, hvalue⟩ := starts_of_symbolAddress h haddress
      exact ⟨s, hs, (not_or.1 hdefined).1, rfl, sec, start, hstart, hindex, hvalue⟩

lemma parsed_keeps {ctxs : List ObjectContext} (h : files.mapM parseObject = .ok ctxs) :
    List.Forall₂ (fun file ctx => Keeps file (fileSections file) ctx) files ctxs := by
  induction files generalizing ctxs with
  | nil =>
    obtain rfl := Except.ok.inj h
    exact .nil
  | cons file files ih =>
    rw [List.mapM_cons] at h
    obtain ⟨ctx, hctx, h⟩ := bind_eq_ok.1 h
    obtain ⟨rest, hrest, h⟩ := bind_eq_ok.1 h
    obtain rfl := Except.ok.inj h
    exact .cons (parseObject_keeps hctx) (ih hrest)

lemma sized_of_keeps {ctxs : List ObjectContext}
    (h : List.Forall₂ (fun file ctx => Keeps file (fileSections file) ctx) files ctxs) : ∀ ctx ∈ ctxs, ctx.Sized := by
  induction h with
  | nil => exact fun ctx hctx => absurd hctx List.not_mem_nil
  | cons hkeeps _ ih =>
    intro ctx hctx
    rcases List.mem_cons.1 hctx with rfl | hctx
    · exact ⟨hkeeps.text.counted, hkeeps.data.counted⟩
    · exact ih ctx hctx

lemma objects_placed {ctxs : List ObjectContext} (a : Word)
    (h : List.Forall₂ (fun file ctx => Keeps file (fileSections file) ctx) files ctxs) :
    List.Forall₂ (fun file object => Keeps file (fileSections file) object.1 ∧ SymbolsPlaced file object)
      files (ctxs.zip (layouts a ctxs)) := by
  induction h generalizing a with
  | nil => exact .nil
  | cons hkeeps _ ih => exact .cons ⟨hkeeps, symbols_placed hkeeps⟩ (ih _)

lemma getElem?_padEven_of_ne {b : Blob} {a : ℕ} (h : a ≠ b.length) : (padEven b)[a]? = b[a]? := by
  rw [padEven]
  split
  · rcases Nat.lt_or_gt_of_ne h with h | h
    · exact List.getElem?_append_left h
    · rw [List.getElem?_eq_none h.le, List.getElem?_eq_none]
      rw [List.length_append, List.length_singleton]
      omega
  · rfl

/-- For every list of files that links: layout, contents, symbols and padding. -/
theorem link_layout (hlink : linkObjectsInternal files = .ok out) (hsize : totalSize (parsed files) < 2 ^ 63) :
    LinkLayout files (placedObjects (parsed files)) out := by
  obtain ⟨hparse, linked, hlinked, rfl⟩ := linkObjectsInternal_ok hlink
  have hkeeps := parsed_keeps hparse
  have hused : 0 + totalSize (parsed files) < 2 ^ 63 := by rwa [Nat.zero_add]
  obtain ⟨hasc, heven, -⟩ := layouts_placed (a := 0) (sized_of_keeps hkeeps) (Nat.zero_le _) hused
  have hagrees := linked_agrees hasc heven hlinked
  have hplaced := placed_foldl (l := []) hasc
  have hlen : linked.length ≤ (padEven linked).length := by
    rw [padEven]
    split
    · rw [List.length_append]
      exact Nat.le_add_right _ _
    · exact le_rfl
  have hbytes : bytesOfWords (toWords linked) = padEven linked := bytesOfWords_toWords linked
  constructor
  · exact objects_placed 0 hkeeps
  · exact hasc.pairwise
  · exact heven
  · intro b hb
    rw [hbytes]
    exact (hplaced.within b hb).trans (hagrees.length ▸ hlen)
  · intro b hb k hk hpatched
    have hlt : b.base + k < linked.length := by
      have hstop := hplaced.within b hb
      rw [← hagrees.length, Block.stop] at hstop
      omega
    rw [hbytes, getElem?_padEven_of_ne hlt.ne, hagrees.eq _ hpatched, hplaced.held b hb k hk]
  · intro a ha hcovers hpatched
    rw [hbytes] at ha ⊢
    rcases Nat.lt_or_ge a linked.length with hlt | hge
    · rw [getElem?_padEven_of_ne hlt.ne, hagrees.eq a hpatched]
      exact hplaced.zero a (Nat.zero_le _) (hagrees.length ▸ hlt) hcovers
    · rw [padEven] at ha ⊢
      split at ha
      · rename_i hodd
        rw [if_pos hodd, List.getElem?_append_right hge]
        rw [List.length_append, List.length_singleton] at ha
        have : a - linked.length = 0 := by omega
        rw [this]
        rfl
      · omega
  · exact globalSymbols_eq _

section Writer

def u16 (v : ℕ) : Blob := bytesOf (BitVec.ofNat 16 v) 2
def u32 (v : ℕ) : Blob := bytesOf (BitVec.ofNat 32 v) 4
def u64 (v : ℕ) : Blob := bytesOf (BitVec.ofNat 64 v) 8

def sectionHeader (name type flags offset size link info entsize : ℕ) : Blob :=
  u32 name ++ u32 type ++ u64 flags ++ u64 0 ++ u64 offset ++ u64 size ++ u32 link ++ u32 info ++ u64 1 ++ u64 entsize

/-- Symbol table entries whose names start at an offset of the string table. -/
def symbolEntries : ℕ → List SymEntry → Blob
  | _, [] => []
  | nameIdx, s :: ss => u32 nameIdx ++ [s.info, 0] ++ bytesOf s.shndx 2 ++ bytesOf s.value 8 ++ u64 0 ++
      symbolEntries (nameIdx + s.name.length + 1) ss

/-- An object file with one `.text` section (of index 1), its relocations and a symbol table. -/
def objectFile (text : Blob) (relocs : List Reloc) (symbols : List SymEntry) : Blob :=
  let sectionNames := [0] ++ textName ++ [0] ++ (relaName ++ textName) ++ [0] ++ symtabName ++ [0] ++ strtabName ++ [0]
  let strtab := sectionNames ++ symbols.flatMap fun s => s.name ++ [0]
  let rela := relocs.flatMap fun r => bytesOf r.offset 8 ++ bytesOf r.type 4 ++ bytesOf r.sym 4 ++ bytesOf r.addend 8
  let symtab := List.replicate 24 0 ++ symbolEntries sectionNames.length symbols
  let relaOffset := 384 + text.length
  let symtabOffset := relaOffset + rela.length
  let strtabOffset := symtabOffset + symtab.length
  [0x7F, 0x45, 0x4C, 0x46, 2, 1, 1] ++ List.replicate 9 0 ++ u16 1 ++ u16 0x4C36 ++ u32 1 ++ u64 0 ++ u64 0 ++ u64 64 ++
    u32 0 ++ u16 64 ++ u16 0 ++ u16 0 ++ u16 64 ++ u16 5 ++ u16 4 ++
    List.replicate 64 0 ++ sectionHeader 1 1 6 384 text.length 0 0 0 ++ sectionHeader 7 4 0 relaOffset rela.length 3 1 24 ++
    sectionHeader 18 2 0 symtabOffset symtab.length 4 1 24 ++ sectionHeader 26 3 0 strtabOffset strtab.length 0 0 0 ++
    text ++ rela ++ symtab ++ strtab

end Writer

theorem link_layout_sample :
    let first := objectFile [0x34, 0x12, 0xAA] [] [⟨startName, 0x10, 1, 0⟩]
    let second := objectFile [0, 0, 0xFF, 0x6F] [⟨2, 1, relPcrel10, 0⟩] [⟨startName, 0x10, 0, 0⟩]
    LinkLayout [first, second] (placedObjects (parsed [first, second])) ⟨[0x1234, 0xAA, 0, 0x6FFC], some 0⟩ := by
  intro first second
  have hlink : linkObjectsInternal [first, second] = .ok ⟨[0x1234, 0xAA, 0, 0x6FFC], some 0⟩ := by decide +kernel
  exact link_layout hlink (by decide +kernel)

end Little64.Linker

import Little64.Linker.Steps

/-! The addresses of the sections: no address wraps, the blocks of all objects follow each other at even bases. -/

namespace Little64.Linker

open CheckedAccess LittleEndian Placement

/-- A section of an object at its address, with the relocations that are applied to it. -/
structure PlacedSection where
  base : Word
  bytes : Blob
  relocs : List Reloc

def sections (object : ObjectContext × ObjLayout) : List PlacedSection :=
  let ctx := object.1
  let lay := object.2
  [⟨lay.textBase, ctx.textBytes, ctx.textRelocs⟩,
    ⟨lay.rodataBase, ctx.rodataBytes, if ctx.rodataBytes = [] then [] else ctx.rodataRelocs⟩,
    ⟨lay.dataBase, ctx.dataBytes, ctx.dataRelocs⟩,
    ⟨lay.bssBase, List.replicate ctx.bssSize.toNat 0, []⟩]

def PlacedSection.block (s : PlacedSection) : Block := ⟨s.base.toNat, s.bytes⟩

def objectBlocks (object : ObjectContext × ObjLayout) : List Block := (sections object).map PlacedSection.block

def blocks (objs : List (ObjectContext × ObjLayout)) : List Block := objs.flatMap objectBlocks

/-- The section sizes of an object are those of the bytes that it holds. -/
structure ObjectContext.Sized (ctx : ObjectContext) : Prop where
  text : ctx.textSize.toNat = ctx.textBytes.length
  data : ctx.dataSize.toNat = ctx.dataBytes.length

def ObjectContext.size (ctx : ObjectContext) : ℕ :=
  ctx.textBytes.length + ctx.rodataBytes.length + ctx.dataBytes.length + ctx.bssSize.toNat

def totalSize (ctxs : List ObjectContext) : ℕ := (ctxs.map ObjectContext.size).sum

/-- An address behind so many bytes of sections: at most one byte of padding for each. -/
def Within (a : Word) (used : ℕ) : Prop := a.toNat + a.toNat % 2 ≤ 2 * used

variable {a : Word} {used : ℕ}

lemma alignEven_toNat (h : Within a used) (hused : used < 2 ^ 63) :
    (alignEven a).toNat = a.toNat + a.toNat % 2 := by
  rw [Within] at h
  have hmod : (a % 2).toNat = a.toNat % 2 := BitVec.toNat_umod
  rw [alignEven]
  split
  · rename_i hodd
    have hne : a.toNat % 2 ≠ 0 := by
      intro hz
      exact hodd (BitVec.eq_of_toNat_eq (hmod.trans hz))
    rw [BitVec.toNat_add, Nat.mod_eq_of_lt]
    · change a.toNat + 1 = _
      omega
    · change a.toNat + 1 < _
      omega
  · rename_i heven
    rw [not_not] at heven
    rw [heven] at hmod
    rw [← hmod]
    rfl

lemma within_behind {size : Word} {n : ℕ} (h : Within a used) (hsize : size.toNat = n) (hused : used + n < 2 ^ 63) :
    (alignEven a + size).toNat = (alignEven a).toNat + n ∧ Within (alignEven a + size) (used + n) := by
  have halign := alignEven_toNat h (by omega)
  rw [Within] at h
  have hadd : (alignEven a + size).toNat = (alignEven a).toNat + n := by
    rw [BitVec.toNat_add, hsize, Nat.mod_eq_of_lt (by omega)]
  refine ⟨hadd, ?_⟩
  rw [Within, hadd, halign]
  omega

lemma alignEven_even (h : Within a used) (hused : used < 2 ^ 63) : (alignEven a).toNat % 2 = 0 := by
  rw [alignEven_toNat h hused]
  omega

lemma le_alignEven (h : Within a used) (hused : used < 2 ^ 63) : a.toNat ≤ (alignEven a).toNat := by
  rw [alignEven_toNat h hused]
  omega

/-- What the layout of one object guarantees. -/
structure ObjectPlaced (next : Word) (ctx : ObjectContext) (lay : ObjLayout) : Prop where
  ascending : Ascending next.toNat (objectBlocks (ctx, lay))
  even : ∀ b ∈ objectBlocks (ctx, lay), b.base % 2 = 0
  stop : ∀ b ∈ objectBlocks (ctx, lay), b.stop ≤ lay.endAddr.toNat

lemma layoutObject_placed {ctx : ObjectContext} (hsized : ctx.Sized) (h : Within a used)
    (hused : used + ctx.size < 2 ^ 63) :
    ObjectPlaced a ctx (layoutObject a ctx) ∧ Within (layoutObject a ctx).endAddr (used + ctx.size) := by
  rw [ObjectContext.size] at hused
  have hrodata : (BitVec.ofNat 64 ctx.rodataBytes.length).toNat = ctx.rodataBytes.length := by
    rw [BitVec.toNat_ofNat, Nat.mod_eq_of_lt (by omega)]
  obtain ⟨htext, wtext⟩ := within_behind h hsized.text (by omega)
  obtain ⟨hro, wro⟩ := within_behind wtext hrodata (by omega)
  obtain ⟨hdata, wdata⟩ := within_behind wro hsized.data (by omega)
  obtain ⟨hbss, wbss⟩ := within_behind wdata (Eq.refl ctx.bssSize.toNat) (by omega)
  have ltext := le_alignEven h (by omega)
  have lro := le_alignEven wtext (by omega)
  have ldata := le_alignEven wro (by omega)
  have lbss := le_alignEven wdata (by omega)
  have hrbase : (layoutObject a ctx).textBase.toNat + ctx.textBytes.length ≤ (layoutObject a ctx).rodataBase.toNat :=
    htext ▸ lro
  have hdbase : (layoutObject a ctx).rodataBase.toNat + ctx.rodataBytes.length ≤ (layoutObject a ctx).dataBase.toNat :=
    hro ▸ ldata
  have hbbase : (layoutObject a ctx).dataBase.toNat + ctx.dataBytes.length ≤ (layoutObject a ctx).bssBase.toNat :=
    hdata ▸ lbss
  refine ⟨⟨?_, ?_, ?_⟩, ?_⟩
  · exact ⟨ltext, hrbase, hdbase, hbbase, trivial⟩
  · intro b hb
    simp only [objectBlocks, sections, List.map_cons, List.map_nil, List.mem_cons, List.not_mem_nil, or_false] at hb
    rcases hb with rfl | rfl | rfl | rfl
    · exact alignEven_even h (by omega)
    · exact alignEven_even wtext (by omega)
    · exact alignEven_even wro (by omega)
    · exact alignEven_even wdata (by omega)
  · intro b hb
    have hend : (layoutObject a ctx).endAddr.toNat = (layoutObject a ctx).bssBase.toNat + ctx.bssSize.toNat := hbss
    simp only [objectBlocks, sections, List.map_cons, List.map_nil, List.mem_cons, List.not_mem_nil, or_false] at hb
    rcases hb with rfl | rfl | rfl | rfl <;>
      simp only [Block.stop, PlacedSection.block, List.length_replicate] <;> omega
  · rw [ObjectContext.size, ← Nat.add_assoc, ← Nat.add_assoc, ← Nat.add_assoc]
    exact wbss

theorem layouts_placed {ctxs : List ObjectContext} (hsized : ∀ ctx ∈ ctxs, ctx.Sized) (h : Within a used)
    (hused : used + totalSize ctxs < 2 ^ 63) :
    Ascending a.toNat (blocks (ctxs.zip (layouts a ctxs))) ∧
      (∀ b ∈ blocks (ctxs.zip (layouts a ctxs)), b.base % 2 = 0) ∧
        ∀ b ∈ blocks (ctxs.zip (layouts a ctxs)), b.stop < 2 ^ 64 := by
  induction ctxs generalizing a used with
  | nil => exact ⟨trivial, fun b hb => absurd hb List.not_mem_nil, fun b hb => absurd hb List.not_mem_nil⟩
  | cons ctx ctxs ih =>
    have htotal : totalSize (ctx :: ctxs) = ctx.size + totalSize ctxs := by
      rw [totalSize, List.map_cons, List.sum_cons, totalSize]
    obtain ⟨hplaced, hwithin⟩ := layoutObject_placed (hsized ctx List.mem_cons_self) h (by omega)
    obtain ⟨hrest, heven, hfit⟩ := ih (fun c hc => hsized c (List.mem_cons_of_mem _ hc)) hwithin (by omega)
    have hblocks : blocks ((ctx :: ctxs).zip (layouts a (ctx :: ctxs))) =
        objectBlocks (ctx, layoutObject a ctx) ++
          blocks (ctxs.zip (layouts (layoutObject a ctx).endAddr ctxs)) := rfl
    have hle : a.toNat ≤ (layoutObject a ctx).endAddr.toNat := by
      have hbase := hplaced.ascending.1
      have hstop := hplaced.stop _ List.mem_cons_self
      rw [Block.stop] at hstop
      exact hbase.trans ((Nat.le_add_right _ _).trans hstop)
    rw [hblocks]
    refine ⟨Ascending.append hplaced.ascending hle hplaced.stop hrest, ?_, ?_⟩
    · intro b hb
      rcases List.mem_append.1 hb with hb | hb
      · exact hplaced.even b hb
      · exact heven b hb
    · intro b hb
      rcases List.mem_append.1 hb with hb | hb
      · exact (hplaced.stop b hb).trans_lt (layoutObject a ctx).endAddr.isLt
      · exact hfit b hb

end Little64.Linker

import Little64.Hdl.Core
import Little64.Library.BitFields
import Little64.Library.DirectMapped

/-! Hits of the translation lookaside buffer against its fills and flushes. -/

namespace Little64.Hdl

open DirectMapped Runs

/-- What the buffer is given in a clock cycle. -/
structure TlbCycle (Fill : Type) where
  flushAll : Bool
  fillValid : Bool
  fill : Fill
  deriving DecidableEq

namespace TlbCycle

variable {Fill : Type} (i : TlbCycle Fill)

def op : Op Fill := if i.flushAll then .flush else if i.fillValid then .fill i.fill else .keep

def map {Fill' : Type} (g : Fill → Fill') : TlbCycle Fill' := ⟨i.flushAll, i.fillValid, g i.fill⟩

lemma op_map {Fill' : Type} (g : Fill → Fill') : (i.map g).op = i.op.map g := by
  simp only [op, map, apply_ite (Op.map g)]
  rfl

end TlbCycle

namespace TlbFill

variable {pageNumberWidth : ℕ}

def index (indexBits : ℕ) (f : TlbFill pageNumberWidth) : BitVec indexBits := f.vpage.setWidth indexBits

def entry {generationBits : ℕ} (generation : BitVec generationBits) (f : TlbFill pageNumberWidth) :
    TlbEntry generationBits pageNumberWidth :=
  ⟨true, generation, f.vpage, f.ppage, f.permRead, f.permWrite, f.permExecute, f.permUser⟩

end TlbFill

namespace Tlb

variable {indexBits generationBits pageNumberWidth : ℕ}

def cycle (s : Tlb indexBits generationBits pageNumberWidth) (i : TlbCycle (TlbFill pageNumberWidth)) :
    Tlb indexBits generationBits pageNumberWidth :=
  s.step i.flushAll i.fillValid i.fill

def after (cycles : List (TlbCycle (TlbFill pageNumberWidth))) : Tlb indexBits generationBits pageNumberWidth :=
  run cycle reset cycles

def cleared (s : Tlb indexBits generationBits pageNumberWidth) : Tlb indexBits generationBits pageNumberWidth :=
  ⟨0, fun x => { s.entries x with valid := false }⟩

def filled (s : Tlb indexBits generationBits pageNumberWidth) (f : TlbFill pageNumberWidth) :
    Tlb indexBits generationBits pageNumberWidth :=
  { s with entries := fun x => if x = f.index indexBits then f.entry s.currentGeneration else s.entries x }

/-- The valid entries are of the current generation or an earlier one. -/
def Aged (s : Tlb indexBits generationBits pageNumberWidth) : Prop :=
  ∀ x, (s.entries x).valid = true → (s.entries x).generation.toNat ≤ s.currentGeneration.toNat

/-- The buffer holds exactly the fills of a table. -/
def Holds (s : Tlb indexBits generationBits pageNumberWidth)
    (t : BitVec indexBits → Option (TlbFill pageNumberWidth)) : Prop :=
  ∀ x f, t x = some f ↔ s.entries x = f.entry s.currentGeneration

variable {s : Tlb indexBits generationBits pageNumberWidth}
  {t : BitVec indexBits → Option (TlbFill pageNumberWidth)}

lemma lt_next {n : ℕ} {g : BitVec n} (h : g ≠ BitVec.allOnes n) : g.toNat < (g + 1).toNat := by
  have hne : g.toNat ≠ 2 ^ n - 1 := fun heq => h (BitVec.eq_of_toNat_eq (by rw [heq, BitVec.toNat_allOnes]))
  have hlt : g.toNat + 1 < 2 ^ n := by
    have := g.isLt
    omega
  have hone : (1 : BitVec n).toNat = 1 := by
    change 1 % 2 ^ n = 1
    exact Nat.mod_eq_of_lt (by omega)
  rw [BitVec.toNat_add, hone, Nat.mod_eq_of_lt hlt]
  exact Nat.lt_succ_self _

lemma cycle_cases (s : Tlb indexBits generationBits pageNumberWidth) (i : TlbCycle (TlbFill pageNumberWidth)) :
    (i.op = .flush ∧ s.cycle i = s.cleared) ∨
    (i.op = .flush ∧ s.currentGeneration.toNat < (s.currentGeneration + 1).toNat ∧
      s.cycle i = { s with currentGeneration := s.currentGeneration + 1 }) ∨
    (∃ f, i.op = .fill f ∧ s.cycle i = s.filled f) ∨ (i.op = .keep ∧ s.cycle i = s) := by
  rw [cycle, step, TlbCycle.op]
  split
  · split
    · exact .inl ⟨rfl, rfl⟩
    · rename_i hgen
      exact .inr (.inl ⟨rfl, lt_next hgen, rfl⟩)
  · split
    · exact .inr (.inr (.inl ⟨i.fill, rfl, rfl⟩))
    · exact .inr (.inr (.inr ⟨rfl, rfl⟩))

lemma aged_cycle (i : TlbCycle (TlbFill pageNumberWidth)) (hs : s.Aged) : (s.cycle i).Aged := by
  intro x hx
  rcases s.cycle_cases i with ⟨-, h⟩ | ⟨-, hlt, h⟩ | ⟨f, -, h⟩ | ⟨-, h⟩ <;> rw [h] at hx ⊢
  · exact absurd hx Bool.false_ne_true
  · exact (hs x hx).trans hlt.le
  · rw [filled] at hx ⊢
    by_cases heq : x = f.index indexBits
    · simp [heq, TlbFill.entry]
    · simp only [if_neg heq] at hx ⊢
      exact hs x hx
  · exact hs x hx

lemma entry_injective {generation : BitVec generationBits} {f g : TlbFill pageNumberWidth} :
    f.entry generation = g.entry generation ↔ f = g := by
  cases f
  cases g
  simp [TlbFill.entry]

lemma holds_cycle (i : TlbCycle (TlbFill pageNumberWidth)) (hs : s.Aged) (ht : s.Holds t) :
    (s.cycle i).Holds (apply (TlbFill.index indexBits) t i.op) := by
  intro x f
  rcases s.cycle_cases i with ⟨hop, h⟩ | ⟨hop, hlt, h⟩ | ⟨g, hop, h⟩ | ⟨hop, h⟩ <;> rw [h, hop]
  · refine iff_of_false (Option.some_ne_none f).symm fun heq => ?_
    exact Bool.false_ne_true (congrArg TlbEntry.valid heq)
  · refine iff_of_false (Option.some_ne_none f).symm fun heq => ?_
    have hle := hs x (congrArg TlbEntry.valid heq)
    rw [congrArg TlbEntry.generation heq] at hle
    exact absurd hlt (Nat.not_lt.2 hle)
  · rw [apply, filled]
    by_cases heq : x = g.index indexBits
    · simp only [if_pos heq, Option.some.injEq, entry_injective]
    · simp only [if_neg heq]
      exact ht x f
  · exact ht x f

lemma after_append (cycles : List (TlbCycle (TlbFill pageNumberWidth))) (i : TlbCycle (TlbFill pageNumberWidth)) :
    (after (cycles ++ [i]) : Tlb indexBits generationBits pageNumberWidth) = (after cycles).cycle i :=
  run_append _ _ cycles [i]

/-- At every time the buffer holds the last fills since the last flush. -/
theorem after_holds (cycles : List (TlbCycle (TlbFill pageNumberWidth))) :
    (after cycles : Tlb indexBits generationBits pageNumberWidth).Aged ∧
      (after cycles : Tlb indexBits generationBits pageNumberWidth).Holds
        (contents (TlbFill.index indexBits) (cycles.map TlbCycle.op)) := by
  induction cycles using List.reverseRecOn with
  | nil =>
    refine ⟨fun x hx => absurd hx Bool.false_ne_true, fun x f => ?_⟩
    refine iff_of_false (Option.some_ne_none f).symm fun heq => ?_
    exact Bool.false_ne_true (congrArg TlbEntry.valid heq)
  | append_singleton cycles i ih =>
    rw [after_append, List.map_append, List.map_singleton, contents_append]
    exact ⟨aged_cycle i ih.1, holds_cycle i ih.1 ih.2⟩

lemma lookupHit_iff_entry {vaddr : Word} :
    s.lookupHit vaddr = true ↔
      ∃ f : TlbFill pageNumberWidth, s.lookupEntry vaddr = f.entry s.currentGeneration ∧
        f.vpage.setWidth 52 = lookupVpage vaddr := by
  rw [lookupHit]
  obtain ⟨valid, generation, tag, ppage, r, w, x, u⟩ := s.lookupEntry vaddr
  simp only [Bool.and_eq_true, beq_iff_eq]
  constructor
  · rintro ⟨⟨rfl, rfl⟩, htag⟩
    exact ⟨⟨tag, ppage, r, w, x, u⟩, rfl, htag⟩
  · rintro ⟨f, heq, htag⟩
    obtain ⟨rfl, rfl, rfl⟩ : valid = true ∧ generation = s.currentGeneration ∧ tag = f.vpage :=
      ⟨congrArg TlbEntry.valid heq, congrArg TlbEntry.generation heq, congrArg TlbEntry.virtualTag heq⟩
    exact ⟨⟨rfl, rfl⟩, htag⟩

/-- A hit is on the last fill for the index looked up, and that fill was for the page looked up. -/
theorem lookupHit_iff (cycles : List (TlbCycle (TlbFill pageNumberWidth))) (vaddr : Word) :
    (after cycles : Tlb indexBits generationBits pageNumberWidth).lookupHit vaddr = true ↔
      ∃ f, LastFill (TlbFill.index indexBits) (cycles.map TlbCycle.op) f ∧
        f.index indexBits = (lookupVpage vaddr).setWidth indexBits ∧ f.vpage.setWidth 52 = lookupVpage vaddr := by
  rw [lookupHit_iff_entry]
  apply exists_congr
  intro f
  rw [lookupEntry, ← (after_holds cycles).2, contents_eq_some_iff, and_assoc, and_left_comm]

/-- Whatever was filled before a flush, a hit after it is on an entry filled after it. -/
theorem flushed_never_hit (before cycles : List (TlbCycle (TlbFill pageNumberWidth)))
    (i : TlbCycle (TlbFill pageNumberWidth)) (hflush : i.flushAll = true) (vaddr : Word)
    (hhit : (after (before ++ i :: cycles) : Tlb indexBits generationBits pageNumberWidth).lookupHit vaddr = true) :
    ∃ f, LastFill (TlbFill.index indexBits) (cycles.map TlbCycle.op) f ∧ f.vpage.setWidth 52 = lookupVpage vaddr ∧
      ∃ generation, (after (before ++ i :: cycles) : Tlb indexBits generationBits pageNumberWidth).lookupEntry vaddr =
        f.entry generation := by
  have hop : i.op = .flush := if_pos hflush
  obtain ⟨f, hentry, hpage⟩ := lookupHit_iff_entry.1 hhit
  have hlast := ((after_holds (before ++ i :: cycles)).2 _ _).2 hentry
  rw [contents_eq_some_iff, List.map_append, List.map_cons, hop] at hlast
  exact ⟨f, hlast.2.after_flush, hpage, _, hentry⟩

def fillCycle (vpage ppage : BitVec 27) : TlbCycle (TlbFill 27) :=
  ⟨false, true, ⟨vpage, ppage, true, true, false, true⟩⟩

def flushCycle : TlbCycle (TlbFill 27) := ⟨true, false, ⟨0, 0, false, false, false, false⟩⟩

/-- Two flushes wrap a one-bit generation. -/
theorem flushed_never_hit_sample :
    ∃ f, LastFill (TlbFill.index 3) ([flushCycle, fillCycle 3 0x503].map TlbCycle.op) f ∧
      f.vpage.setWidth 52 = lookupVpage 0x3567 ∧
        ∃ generation, (after [fillCycle 3 0x403, flushCycle, flushCycle, fillCycle 3 0x503] :
          Tlb 3 1 27).lookupEntry 0x3567 = f.entry generation :=
  flushed_never_hit [fillCycle 3 0x403] [flushCycle, fillCycle 3 0x503] flushCycle rfl 0x3567 (by decide)

end Tlb

/-- What a page walk finds for the page of an address. -/
structure PageResult where
  virtualAddr : Word
  physAddr : Word
  permRead : Bool
  permWrite : Bool
  permExecute : Bool
  permUser : Bool
  deriving DecidableEq

namespace PageResult

variable (f : PageResult)

def page : BitVec 52 := Tlb.lookupVpage f.virtualAddr

/-- The core wires 27 bits of both page numbers to the buffer. -/
def fill : TlbFill 27 :=
  ⟨f.virtualAddr.extractLsb' 12 27, f.physAddr.extractLsb' 12 27, f.permRead, f.permWrite, f.permExecute, f.permUser⟩

def phys (vaddr : Word) : Word := f.physAddr &&& ~~~0xFFF ||| vaddr &&& 0xFFF

/-- The operation evicts the page or flushes it. -/
def Evicts (indexBits : ℕ) : Op PageResult → Prop
  | .flush => True
  | .fill g => g.fill.index indexBits = f.fill.index indexBits ∧ g.page ≠ f.page
  | .keep => False

/-- The 27 bits hold both page numbers. -/
def Fits : Prop := f.virtualAddr.getLsbD 38 = false ∧ f.physAddr.toNat < 2 ^ 39

end PageResult

variable {indexBits generationBits : ℕ}

/-- Hits on canonical addresses give what the last fill of their page since the last flush gave, and
a page hits from its fill until it is evicted or flushed. -/
structure HitsFills (ops : List (Op PageResult)) (s : Tlb indexBits generationBits 27) : Prop where
  hit : ∀ vaddr, isCanonical39 vaddr = true → s.lookupHit vaddr = true →
    ∃ f, LastFill PageResult.page ops f ∧ f.page = Tlb.lookupVpage vaddr ∧ s.lookupPaddr vaddr = f.phys vaddr ∧
      (s.lookupEntry vaddr).permRead = f.permRead ∧ (s.lookupEntry vaddr).permWrite = f.permWrite ∧
      (s.lookupEntry vaddr).permExecute = f.permExecute ∧ (s.lookupEntry vaddr).permUser = f.permUser
  hits : ∀ before f since, ops = before ++ .fill f :: since → (∀ op ∈ since, ¬ f.Evicts indexBits op) →
    ∀ vaddr, isCanonical39 vaddr = true → f.page = Tlb.lookupVpage vaddr → s.lookupHit vaddr = true

lemma upper_bits {vaddr : Word} (hcanon : isCanonical39 vaddr = true) {k : ℕ} (hk : k < 25) :
    vaddr.getLsbD (39 + k) = vaddr.getLsbD 38 := by
  have hbit : (vaddr.extractLsb' 39 25).getLsbD k = vaddr.getLsbD (39 + k) := by
    rw [BitVec.getLsbD_extractLsb', decide_eq_true hk, Bool.true_and]
  rw [isCanonical39] at hcanon
  rw [← hbit]
  cases hsign : vaddr.getLsbD 38 with
  | true =>
    rw [hsign, if_pos rfl, beq_iff_eq] at hcanon
    rw [hcanon, BitVec.getLsbD_allOnes, decide_eq_true hk]
  | false =>
    rw [hsign, if_neg Bool.false_ne_true, beq_iff_eq] at hcanon
    rw [hcanon]
    exact BitVec.getLsbD_zero

/-- The buffer can tell the page of a canonical address exactly in the low half. -/
lemma tag_eq_page_iff {vaddr : Word} (hcanon : isCanonical39 vaddr = true) :
    (vaddr.extractLsb' 12 27).setWidth 52 = Tlb.lookupVpage vaddr ↔ vaddr.getLsbD 38 = false := by
  constructor
  · intro heq
    have hbit := congrArg (BitVec.getLsbD · 27) heq
    have hupper : vaddr.getLsbD 39 = vaddr.getLsbD 38 := upper_bits hcanon (k := 0) (by decide)
    rw [← hupper]
    simpa [Tlb.lookupVpage] using hbit
  · intro hlow
    apply BitVec.eq_of_getLsbD_eq
    intro k hk
    rw [Tlb.lookupVpage, BitVec.getLsbD_setWidth, BitVec.getLsbD_extractLsb', BitVec.getLsbD_extractLsb',
      decide_eq_true hk, Bool.true_and, Bool.true_and]
    by_cases hk' : k < 27
    · rw [decide_eq_true hk', Bool.true_and]
    · have hupper := upper_bits hcanon (show k - 27 < 25 by omega)
      rw [show 39 + (k - 27) = 12 + k by omega, hlow] at hupper
      rw [decide_eq_false hk', Bool.false_and, hupper]

lemma paddr_eq_iff (phys vaddr : Word) :
    (phys.extractLsb' 12 27).setWidth 64 <<< 12 ||| (vaddr &&& 0xFFF) = phys &&& ~~~0xFFF ||| vaddr &&& 0xFFF ↔
      phys.toNat < 2 ^ 39 := by
  have hmask : (0xFFF : Word) = BitFields.lowMask 64 12 := by decide
  have hbits : ∀ k, 12 ≤ k → k < 64 →
      ((phys.extractLsb' 12 27).setWidth 64 <<< 12 ||| (vaddr &&& 0xFFF)).getLsbD k =
          (decide (k < 39) && phys.getLsbD k) ∧
        (phys &&& ~~~0xFFF ||| vaddr &&& 0xFFF).getLsbD k = phys.getLsbD k := by
    intro k hlow hk
    have hindex : 12 + (k - 12) = k := by omega
    rw [hmask]
    simp only [BitVec.getLsbD_or, BitVec.getLsbD_and, BitVec.getLsbD_not, BitVec.getLsbD_shiftLeft,
      BitVec.getLsbD_setWidth, BitVec.getLsbD_extractLsb', BitFields.getLsbD_lowMask, hk, Nat.not_lt.2 hlow, hindex,
      decide_true, decide_false, show k - 12 < 64 by omega, show k - 12 < 27 ↔ k < 39 by omega]
    simp
  constructor
  · intro heq
    apply Nat.lt_pow_two_of_testBit
    intro k hk
    by_cases hw : k < 64
    · obtain ⟨hleft, hright⟩ := hbits k (by omega) hw
      rw [heq, hright, decide_eq_false (Nat.not_lt.2 hk), Bool.false_and] at hleft
      exact hleft
    · exact Nat.testBit_lt_two_pow (phys.isLt.trans_le (Nat.pow_le_pow_right (by decide) (Nat.not_lt.1 hw)))
  · intro hlt
    apply BitVec.eq_of_getLsbD_eq
    intro k hk
    by_cases hlow : k < 12
    · rw [hmask]
      simp only [BitVec.getLsbD_or, BitVec.getLsbD_and, BitVec.getLsbD_not, BitVec.getLsbD_shiftLeft,
        BitFields.getLsbD_lowMask, hk, hlow, decide_true]
      simp
    · obtain ⟨hleft, hright⟩ := hbits k (Nat.not_lt.1 hlow) hk
      rw [hleft, hright]
      by_cases hfield : k < 39
      · rw [decide_eq_true hfield, Bool.true_and]
      · rw [decide_eq_false hfield, Bool.false_and]
        exact (Nat.testBit_lt_two_pow (hlt.trans_le (Nat.pow_le_pow_right (by decide) (Nat.not_lt.1 hfield)))).symm

lemma PageResult.vpage_fill (f : PageResult) : f.fill.vpage = f.page.setWidth 27 :=
  (BitVec.setWidth_extractLsb'_of_le (by decide)).symm

lemma PageResult.index_eq {f : PageResult} {vaddr : Word} (h : f.fill.vpage.setWidth 52 = Tlb.lookupVpage vaddr) :
    f.fill.index indexBits = (Tlb.lookupVpage vaddr).setWidth indexBits := by
  rw [← h, BitVec.setWidth_setWidth (by omega)]
  rfl

/-- The buffer after the walks and flushes of some clock cycles. -/
def walked (cycles : List (TlbCycle PageResult)) : Tlb indexBits generationBits 27 :=
  Tlb.after (cycles.map (TlbCycle.map · PageResult.fill))

def ops (cycles : List (TlbCycle PageResult)) : List (Op PageResult) := cycles.map TlbCycle.op

section Walked

variable (indexBits) in
/-- The index of a page, as the buffer sees it. -/
def pageIndex (f : PageResult) : BitVec indexBits := f.fill.index indexBits

variable {cycles : List (TlbCycle PageResult)} {f : PageResult}

lemma ops_append (cycles : List (TlbCycle PageResult)) (i : TlbCycle PageResult) :
    ops (cycles ++ [i]) = ops cycles ++ [i.op] := by
  rw [ops, List.map_append]
  rfl

lemma walked_append (cycles : List (TlbCycle PageResult)) (i : TlbCycle PageResult) :
    (walked (cycles ++ [i]) : Tlb indexBits generationBits 27) = (walked cycles).cycle (i.map PageResult.fill) := by
  rw [walked, List.map_append]
  exact Tlb.after_append _ _

lemma walked_entry_iff (x : BitVec indexBits) (g : TlbFill 27) :
    (walked cycles : Tlb indexBits generationBits 27).entries x =
        g.entry (walked cycles : Tlb indexBits generationBits 27).currentGeneration ↔
      ∃ f, pageIndex indexBits f = x ∧ LastFill (pageIndex indexBits) (ops cycles) f ∧ f.fill = g := by
  have hops : (cycles.map (TlbCycle.map · PageResult.fill)).map TlbCycle.op =
      (ops cycles).map (Op.map PageResult.fill) := by
    rw [ops, List.map_map, List.map_map]
    exact List.map_congr_left fun i _ => i.op_map PageResult.fill
  rw [walked, ← (Tlb.after_holds _).2 x g, hops, contents_map, Option.map_eq_some_iff]
  exact exists_congr fun f => by rw [← and_assoc, ← contents_eq_some_iff]; rfl

lemma walked_hit_iff {vaddr : Word} :
    (walked cycles : Tlb indexBits generationBits 27).lookupHit vaddr = true ↔
      ∃ f, LastFill (pageIndex indexBits) (ops cycles) f ∧ f.fill.vpage.setWidth 52 = Tlb.lookupVpage vaddr := by
  rw [Tlb.lookupHit_iff_entry]
  constructor
  · rintro ⟨g, hentry, hpage⟩
    obtain ⟨f, -, hlast, rfl⟩ := (walked_entry_iff _ _).1 hentry
    exact ⟨f, hlast, hpage⟩
  · rintro ⟨f, hlast, hpage⟩
    exact ⟨f.fill, (walked_entry_iff _ _).2 ⟨f, PageResult.index_eq hpage, hlast, rfl⟩, hpage⟩

lemma walked_lookup (generationBits : ℕ) {vaddr : Word} (h : LastFill (pageIndex indexBits) (ops cycles) f)
    (hpage : f.fill.vpage.setWidth 52 = Tlb.lookupVpage vaddr) :
    (walked cycles : Tlb indexBits generationBits 27).lookupEntry vaddr =
      f.fill.entry (walked cycles : Tlb indexBits generationBits 27).currentGeneration :=
  (walked_entry_iff _ _).2 ⟨f, PageResult.index_eq hpage, h, rfl⟩

lemma page_index {f g : PageResult} (h : f.page = g.page) : pageIndex indexBits f = pageIndex indexBits g := by
  rw [pageIndex, pageIndex, TlbFill.index, TlbFill.index, f.vpage_fill, g.vpage_fill, h]

/-- Until a page is evicted or flushed, its last fill is the last one for its index. -/
lemma exists_lastFill (before : List (Op PageResult)) {since : List (Op PageResult)} (h : ∀ op ∈ since, ¬ f.Evicts indexBits op) :
    ∃ g, g.page = f.page ∧ LastFill (pageIndex indexBits) (before ++ .fill f :: since) g := by
  induction since using List.reverseRecOn with
  | nil => exact ⟨f, rfl, (lastFill_append _).2 (.inl rfl)⟩
  | append_singleton since op ih =>
    obtain ⟨g, hpage, hlast⟩ := ih fun op' hop => h op' (List.mem_append_left _ hop)
    have hop := h op (List.mem_append_right _ (List.mem_singleton_self op))
    rw [← List.cons_append, ← List.append_assoc]
    cases op with
    | flush => exact absurd trivial hop
    | keep => exact ⟨g, hpage, (lastFill_append _).2 (.inr ⟨hlast, id⟩)⟩
    | fill g' =>
      by_cases hindex : pageIndex indexBits g' = pageIndex indexBits f
      · refine ⟨g', ?_, (lastFill_append _).2 (.inl rfl)⟩
        exact by_contra fun hne => hop ⟨hindex, hne⟩
      · refine ⟨g, hpage, (lastFill_append _).2 (.inr ⟨hlast, fun hdrop => hindex ?_⟩)⟩
        exact hdrop.trans (page_index hpage)

theorem hitsFills_of_fits (hcanon : ∀ f, .fill f ∈ ops cycles → isCanonical39 f.virtualAddr = true)
    (hfits : ∀ f, .fill f ∈ ops cycles → f.Fits) :
    HitsFills (ops cycles) (walked cycles : Tlb indexBits generationBits 27) := by
  have hfill : ∀ f, .fill f ∈ ops cycles → f.fill.vpage.setWidth 52 = f.page ∧ f.physAddr.toNat < 2 ^ 39 := by
    intro f hf
    obtain ⟨hlow, hphys⟩ := hfits f hf
    exact ⟨(tag_eq_page_iff (hcanon f hf)).2 hlow, hphys⟩
  constructor
  · intro vaddr _ hhit
    obtain ⟨f, hlast, hpage⟩ := walked_hit_iff.1 hhit
    obtain ⟨htag, hphys⟩ := hfill f hlast.mem
    have hentry := walked_lookup generationBits hlast hpage
    refine ⟨f, hlast.of_key fun _ _ h => page_index h, htag.symm.trans hpage, ?_, ?_⟩
    · rw [Tlb.lookupPaddr, hentry]
      exact (paddr_eq_iff f.physAddr vaddr).2 hphys
    · rw [hentry]
      exact ⟨rfl, rfl, rfl, rfl⟩
  · intro before f since heq hkept vaddr _ hpage
    obtain ⟨g, hg, hlast⟩ := exists_lastFill before hkept
    rw [← heq] at hlast
    exact walked_hit_iff.2 ⟨g, hlast, (hfill g hlast.mem).1.trans (hg.trans hpage)⟩

theorem fits_of_hitsFills {i : TlbCycle PageResult} (hop : i.op = .fill f) (hcanon : isCanonical39 f.virtualAddr = true)
    (h : HitsFills (ops (cycles ++ [i])) (walked (cycles ++ [i]) : Tlb indexBits generationBits 27)) : f.Fits := by
  rw [ops_append, hop] at h
  have hhit := h.hits (ops cycles) f [] rfl (fun _ hmem => absurd hmem List.not_mem_nil) f.virtualAddr hcanon rfl
  have hlast : LastFill (pageIndex indexBits) (ops (cycles ++ [i])) f := by
    rw [ops_append, hop]
    exact (lastFill_append _).2 (.inl rfl)
  have htag : f.fill.vpage.setWidth 52 = f.page := by
    obtain ⟨g, -, hpage⟩ := walked_hit_iff.1 hhit
    rw [f.vpage_fill]
    change _ = f.page at hpage
    rw [← hpage, BitVec.setWidth_setWidth (x := g.fill.vpage) (by omega), BitVec.setWidth_eq]
  refine ⟨(tag_eq_page_iff hcanon).1 htag, ?_⟩
  obtain ⟨g, hg, hpage, hpaddr, -⟩ := h.hit f.virtualAddr hcanon hhit
  have hgf : g = f := by
    rcases (lastFill_append _).1 hg with heq | ⟨-, hkept⟩
    · cases heq
      rfl
    · exact absurd hpage.symm hkept
  rw [Tlb.lookupPaddr, walked_lookup _ hlast htag, hgf] at hpaddr
  exact (paddr_eq_iff f.physAddr f.virtualAddr).1 hpaddr

/-- From reset on, hits give what the walks gave exactly when every page that was filled fits. -/
theorem walked_hitsFills_iff (hcanon : ∀ f, .fill f ∈ ops cycles → isCanonical39 f.virtualAddr = true) :
    (∀ cycles', cycles' <+: cycles → HitsFills (ops cycles') (walked cycles' : Tlb indexBits generationBits 27)) ↔
      ∀ f, .fill f ∈ ops cycles → f.Fits := by
  have hbefore : ∀ cycles', cycles' <+: cycles → ∀ f, .fill f ∈ ops cycles' → .fill f ∈ ops cycles := by
    rintro cycles' ⟨rest, rfl⟩ f hf
    rw [ops, List.map_append]
    exact List.mem_append_left _ hf
  constructor
  · intro h f hf
    obtain ⟨i, hi, hop⟩ := List.mem_map.1 hf
    obtain ⟨before, since, rfl⟩ := List.append_of_mem hi
    have hbefore' : before ++ [i] <+: before ++ i :: since := ⟨since, by rw [List.append_assoc]; rfl⟩
    exact fits_of_hitsFills hop (hcanon f hf) (h (before ++ [i]) hbefore')
  · intro h cycles' hcycles
    exact hitsFills_of_fits (fun f hf => hcanon f (hbefore _ hcycles f hf)) fun f hf => h f (hbefore _ hcycles f hf)

end Walked

namespace Core

variable {c : CoreConfig}

/-- What the walk under way found. -/
def walkedPage (s : Core c) : PageResult where
  virtualAddr := s.walk.virtualAddr
  physAddr := s.walk.resultPhys
  permRead := s.walk.pteLatched &&& PTE_R != 0
  permWrite := s.walk.pteLatched &&& PTE_W != 0
  permExecute := s.walk.pteLatched &&& PTE_X != 0
  permUser := s.walk.pteLatched &&& PTE_U != 0

def tlbCycle (s : Core c) (i : CoreInputs c) : TlbCycle PageResult :=
  ⟨s.specialRegs.tlbFlush c.specialRegs (s.specialRegisterInputs i), s.walkLeafSuccess, s.walkedPage⟩

/-- The core with the walks and flushes its buffer has seen. -/
def tlbStep : Core c × List (TlbCycle PageResult) → CoreInputs c → Core c × List (TlbCycle PageResult) :=
  logged Core.step fun s i => [s.tlbCycle i]

lemma tlb_step (s : Core c) (i : CoreInputs c) : (s.step i).tlb = s.tlb.cycle ((s.tlbCycle i).map PageResult.fill) := by
  cases hr : s.resetPending <;> simp [Core.step, hr] <;> rfl

lemma canonical_of_memoryFault {root vaddr : Word} (h : (memoryFault root vaddr).isSome = false) :
    isCanonical39 vaddr = true := by
  rw [memoryFault] at h
  cases hc : isCanonical39 vaddr with
  | true => rfl
  | false => simp [hc] at h

lemma canonical_step {s : Core c} (i : CoreInputs c) (h : isCanonical39 s.walk.virtualAddr = true) :
    isCanonical39 (s.step i).walk.virtualAddr = true := by
  cases hr : s.resetPending with
  | true => simpa [Core.step, hr, stepSubmodules] using h
  | false =>
    have hwalk : (s.step i).walk.virtualAddr = (s.managedWalk i).virtualAddr := by
      rw [Core.step, hr]
      rfl
    rw [hwalk, managedWalk]
    split
    · rename_i hf
      simp only [fetchWalkStart, fetchFaultRaised, Bool.and_eq_true, Bool.not_eq_true'] at hf
      have hfault := hf.1.2
      simp only [hf.1.1.1, hf.1.1.2, fetchFault, Bool.true_and, if_true] at hfault
      split at hfault
      · exact absurd hfault (by simp)
      · exact canonical_of_memoryFault hfault
    · split
      · rename_i hm
        simp only [memoryWalkStart, memoryFaultRaised, Bool.and_eq_true, Bool.not_eq_true'] at hm
        have hfault := hm.1.2
        rw [hm.1.1.1, hm.1.1.2] at hfault
        exact canonical_of_memoryFault hfault
      · split
        · rename_i hv
          simp only [vectorWalkStart, vectorTranslateLockup, Bool.and_eq_true, Bool.not_eq_true'] at hv
          have hfault := hv.1.2
          rw [hv.1.1.1, hv.1.1.2] at hfault
          exact canonical_of_memoryFault hfault
        · rw [PageWalk.step_virtualAddr]
          exact h

/-- The buffer of the core is the one of the walks and flushes of the run, all of canonical pages. -/
lemma tlb_logged (c : CoreConfig) (is : List (CoreInputs c)) :
    (run tlbStep (reset c, []) is).1.tlb = walked (run tlbStep (reset c, []) is).2 ∧
      isCanonical39 (run tlbStep (reset c, []) is).1.walk.virtualAddr = true ∧
      ∀ f, .fill f ∈ ops (run tlbStep (reset c, []) is).2 → isCanonical39 f.virtualAddr = true := by
  induction is using List.reverseRecOn with
  | nil =>
    refine ⟨rfl, ?_, fun f hf => absurd hf List.not_mem_nil⟩
    change isCanonical39 0 = true
    decide
  | append_singleton is i ih =>
    rw [run_append]
    obtain ⟨htlb, hwalk, hcanon⟩ := ih
    set p := run tlbStep (reset c, []) is
    change (p.1.step i).tlb = walked (p.2 ++ [p.1.tlbCycle i]) ∧ isCanonical39 (p.1.step i).walk.virtualAddr = true ∧
      ∀ f, .fill f ∈ ops (p.2 ++ [p.1.tlbCycle i]) → _
    rw [tlb_step, htlb, walked_append, ops_append]
    refine ⟨rfl, canonical_step i hwalk, fun f hf => ?_⟩
    rcases List.mem_append.1 hf with hf | hf
    · exact hcanon f hf
    · have hop : (p.1.tlbCycle i).op = .fill f := (List.mem_singleton.1 hf).symm
      have hfill : p.1.walkedPage = f := by
        rw [TlbCycle.op] at hop
        split at hop
        · cases hop
        · split at hop
          · exact Op.fill.inj hop
          · cases hop
      rw [← hfill]
      exact hwalk

end Core

/-- For every sequence of walks and flushes, and in every run of the core, hits give what the walks
gave exactly when every page that was filled fits. -/
theorem hits_equal_walk_iff (c : CoreConfig) :
    (∀ cycles : List (TlbCycle PageResult), (∀ f, .fill f ∈ ops cycles → isCanonical39 f.virtualAddr = true) →
      ((∀ cycles', cycles' <+: cycles →
          HitsFills (ops cycles') (walked cycles' : Tlb indexBits generationBits 27)) ↔
        ∀ f, .fill f ∈ ops cycles → f.Fits)) ∧
    ∀ is : List (CoreInputs c),
      (∀ is', is' <+: is → HitsFills (ops (run Core.tlbStep (Core.reset c, []) is').2)
          (run Core.tlbStep (Core.reset c, []) is').1.tlb) ↔
        ∀ f, .fill f ∈ ops (run Core.tlbStep (Core.reset c, []) is).2 → f.Fits := by
  refine ⟨fun cycles hcanon => walked_hitsFills_iff hcanon, fun is => ?_⟩
  have hiff : (∀ cycles', cycles' <+: (run Core.tlbStep (Core.reset c, []) is).2 →
      HitsFills (ops cycles') (walked cycles' : Tlb c.tlbIndexBits 1 27)) ↔ _ :=
    walked_hitsFills_iff (Core.tlb_logged c is).2.2
  rw [← hiff]
  constructor
  · intro h cycles hbefore
    obtain ⟨is', hbefore', rfl⟩ := (prefix_logged_iff _ _ _).1 hbefore
    have hhits := h is' hbefore'
    rw [(Core.tlb_logged c is').1] at hhits
    exact hhits
  · intro h is' hbefore
    rw [(Core.tlb_logged c is').1]
    exact h _ ((prefix_logged_iff _ _ _).2 ⟨is', hbefore, rfl⟩)

def walkedCycle (virtualAddr physAddr : Word) : TlbCycle PageResult :=
  ⟨false, true, ⟨virtualAddr, physAddr, true, true, false, true⟩⟩

theorem hits_equal_walk_iff_sample :
    ∀ cycles', cycles' <+: [walkedCycle 0x1000 0x40003000, walkedCycle 0x41000 0x5000] →
      HitsFills (ops cycles') (walked cycles' : Tlb 6 1 27) := by
  have hmem : ∀ f, .fill f ∈ ops [walkedCycle 0x1000 0x40003000, walkedCycle 0x41000 0x5000] →
      f = (walkedCycle 0x1000 0x40003000).fill ∨ f = (walkedCycle 0x41000 0x5000).fill := by
    intro f hf
    simpa [ops, walkedCycle, TlbCycle.op] using hf
  apply ((hits_equal_walk_iff .uncached).1 _ fun f hf => ?_).2
  · intro f hf
    rcases hmem f hf with rfl | rfl <;> exact ⟨by decide, by decide⟩
  · rcases hmem f hf with rfl | rfl <;> decide

/-- A page of the high half does not hit after its fill, and a page above 2 ^ 39 hits elsewhere. -/
theorem truncated_pages_miss :
    isCanonical39 0xFFFFFFC000000000 = true ∧
      ¬ HitsFills (ops [walkedCycle 0xFFFFFFC000000000 0x80000000])
        (walked [walkedCycle 0xFFFFFFC000000000 0x80000000] : Tlb 6 1 27) ∧
      ¬ HitsFills (ops [walkedCycle 0x1000 0x8000000000]) (walked [walkedCycle 0x1000 0x8000000000] : Tlb 6 1 27) := by
  refine ⟨by decide, fun h => ?_, fun h => ?_⟩
  · have hhit := h.hits [] _ [] rfl (fun _ hmem => absurd hmem List.not_mem_nil) 0xFFFFFFC000000000 (by decide) rfl
    exact absurd hhit (by decide)
  · obtain ⟨f, hlast, -, hpaddr, -⟩ := h.hit 0x1000 (by decide) (by decide)
    have hf : f = (walkedCycle 0x1000 0x8000000000).fill := by
      simpa [ops, walkedCycle, TlbCycle.op] using hlast.mem
    rw [hf] at hpaddr
    exact absurd hpaddr (by decide)

end Little64.Hdl

import Little64.Library.BitFields
import Little64.Library.RadixWalk
import Little64.Emulator.MemoryBus

/-! Three-level page-table translation, and its reading as a walk to a leaf entry
that the access kind and the mode are then checked against. -/

namespace Little64.Emulator

open Vectors

structure PagingConfig where
  enabled : Bool
  rootTablePhysical : Word
  isUser : Bool
  deriving DecidableEq, Repr

inductive PagingTranslateResult
  | mapped (physical : Word)
  | fault (trapCause trapAux : Word)
  deriving DecidableEq, Repr

namespace AddressTranslator

def PTE_V : Word := 1 <<< 0
def PTE_R : Word := 1 <<< 1
def PTE_W : Word := 1 <<< 2
def PTE_X : Word := 1 <<< 3
def PTE_U : Word := 1 <<< 4
def PTE_RESERVED_MASK : Word := 0xFFC0000000000000

def PAGE_SIZE : Word := 4096

def auxSubtypeNone : Word := 0
def auxSubtypeNoValidPte : Word := 1
def auxSubtypePermission : Word := 3
def auxSubtypeReservedBit : Word := 4
def auxSubtypeCanonical : Word := 5

def isCanonical39 (addr : Word) : Bool :=
  let signBit := (addr >>> 38) &&& 1
  let upper := addr >>> 39
  if signBit = 0 then upper == 0 else upper == 1 <<< 25 - 1

def encodeAux (subtype level : Word) : Word := (subtype &&& 0xF) ||| ((level &&& 0xFF) <<< 8)

def makeFault (cause subtype level : Word) : PagingTranslateResult := .fault cause (encodeAux subtype level)

def permissionAllowed (access : AccessType) (pte : Word) : Bool :=
  match access with
  | .read => pte &&& PTE_R != 0
  | .write => pte &&& PTE_W != 0
  | .execute => pte &&& PTE_X != 0

def resolveLeaf (isUser : Bool) (virtualAddr : Word) (access : AccessType) (leaf level : Word) (pageShift : ℕ) :
    PagingTranslateResult :=
  if leaf &&& (PTE_R ||| PTE_W ||| PTE_X) = 0 then
    makeFault trapPageFaultNotPresent auxSubtypeNoValidPte level
  else if !permissionAllowed access leaf then makeFault trapPageFaultPermission auxSubtypePermission level
  else if isUser && leaf &&& PTE_U == 0 then makeFault trapPageFaultPermission auxSubtypePermission level
  else
    let pageMask : Word := 1 <<< pageShift - 1
    let pageBase := (leaf >>> 10) <<< 12
    .mapped (pageBase + (virtualAddr &&& pageMask))

def tableIndex (virtualAddr : Word) (level : ℕ) : Word := (virtualAddr >>> (12 + 9 * level)) &&& 0x1FF

/-- The levels of the walk from `level` down; level `0` is the code after the loop. -/
def walk (bus : MemoryBus) (isUser : Bool) (virtualAddr : Word) (access : AccessType) :
    ℕ → Word → PagingTranslateResult
  | 0, table =>
    let leaf := bus.read64 (table + tableIndex virtualAddr 0 * 8) .read
    if leaf &&& PTE_V = 0 then makeFault trapPageFaultNotPresent auxSubtypeNoValidPte 0
    else if leaf &&& PTE_RESERVED_MASK ≠ 0 then makeFault trapPageFaultReserved auxSubtypeReservedBit 0
    else resolveLeaf isUser virtualAddr access leaf 0 12
  | n + 1, table =>
    let level := BitVec.ofNat 64 (n + 1)
    let pte := bus.read64 (table + tableIndex virtualAddr (n + 1) * 8) .read
    if pte &&& PTE_V = 0 then makeFault trapPageFaultNotPresent auxSubtypeNoValidPte level
    else if pte &&& (PTE_R ||| PTE_W ||| PTE_X) ≠ 0 then
      resolveLeaf isUser virtualAddr access pte level (if level = 2 then 30 else 21)
    else if pte &&& PTE_RESERVED_MASK ≠ 0 then makeFault trapPageFaultReserved auxSubtypeReservedBit level
    else
      let table := (pte >>> 10) <<< 12
      if table &&& (PAGE_SIZE - 1) ≠ 0 then makeFault trapPageFaultReserved auxSubtypeReservedBit level
      else walk bus isUser virtualAddr access n table

def translate (bus : MemoryBus) (config : PagingConfig) (virtualAddr : Word) (access : AccessType) :
    PagingTranslateResult :=
  if access = .execute ∧ virtualAddr &&& 1 ≠ 0 then makeFault trapExecAlign auxSubtypeNone 0
  else if !config.enabled then .mapped virtualAddr
  else if config.rootTablePhysical &&& (PAGE_SIZE - 1) ≠ 0 then
    makeFault trapPageFaultReserved auxSubtypeReservedBit 2
  else if !isCanonical39 virtualAddr then makeFault trapPageFaultCanonical auxSubtypeCanonical 2
  else walk bus config.isUser virtualAddr access 2 config.rootTablePhysical

structure PageFault where
  trapCause : Word
  trapAux : Word
  deriving DecidableEq, Repr

def PageFault.make (cause subtype level : Word) : PageFault := ⟨cause, encodeAux subtype level⟩

structure Leaf where
  entry : Word
  level : Word
  shift : ℕ
  deriving DecidableEq, Repr

namespace Leaf

variable (leaf : Leaf)

def physical (virtualAddr : Word) : Word :=
  (leaf.entry >>> 10) <<< 12 + (virtualAddr &&& (1 <<< leaf.shift - 1))

def permits (isUser : Bool) (access : AccessType) : Bool :=
  permissionAllowed access leaf.entry && (!isUser || leaf.entry &&& PTE_U != 0)

end Leaf

def resolve (isUser : Bool) (virtualAddr : Word) (access : AccessType) :
    PageFault ⊕ Leaf → PagingTranslateResult
  | .inl fault => .fault fault.trapCause fault.trapAux
  | .inr leaf => resolveLeaf isUser virtualAddr access leaf.entry leaf.level leaf.shift

/-- The walk down to a leaf entry, before access kind and mode are looked at. -/
def leafWalker (virtualAddr : Word) : RadixWalk.Walker Word Word Word (PageFault ⊕ Leaf) where
  slot n table := table + tableIndex virtualAddr n * 8
  descend n pte :=
    if pte &&& PTE_V = 0 then
      .inl (.inl (PageFault.make trapPageFaultNotPresent auxSubtypeNoValidPte (BitVec.ofNat 64 n)))
    else if pte &&& (PTE_R ||| PTE_W ||| PTE_X) ≠ 0 then
      .inl (.inr ⟨pte, BitVec.ofNat 64 n, if BitVec.ofNat 64 n = (2 : Word) then 30 else 21⟩)
    else if pte &&& PTE_RESERVED_MASK ≠ 0 then
      .inl (.inl (PageFault.make trapPageFaultReserved auxSubtypeReservedBit (BitVec.ofNat 64 n)))
    else .inr ((pte >>> 10) <<< 12)
  last leaf :=
    if leaf &&& PTE_V = 0 then .inl (PageFault.make trapPageFaultNotPresent auxSubtypeNoValidPte 0)
    else if leaf &&& PTE_RESERVED_MASK ≠ 0 then .inl (PageFault.make trapPageFaultReserved auxSubtypeReservedBit 0)
    else .inr ⟨leaf, 0, 12⟩

def readEntry (bus : MemoryBus) (addr : Word) : Word := bus.read64 addr .read

/-- The leaf entry of the page of an address under a root table, or the fault met on the way. -/
def pageLeaf (bus : MemoryBus) (root virtualAddr : Word) : PageFault ⊕ Leaf :=
  if root &&& (PAGE_SIZE - 1) ≠ 0 then .inl (PageFault.make trapPageFaultReserved auxSubtypeReservedBit 2)
  else if !isCanonical39 virtualAddr then .inl (PageFault.make trapPageFaultCanonical auxSubtypeCanonical 2)
  else (leafWalker virtualAddr).run (readEntry bus) 2 root

variable {bus bus' : MemoryBus} {isUser : Bool} {access : AccessType} {root virtualAddr virtualAddr' : Word}

lemma nextTable_aligned (pte : Word) : (pte >>> 10) <<< 12 &&& (PAGE_SIZE - 1) = 0 := by
  rw [show PAGE_SIZE - 1 = BitFields.lowMask 64 12 by decide]
  exact BitFields.shiftLeft_and_lowMask _ _

lemma walk_eq (n : ℕ) (table : Word) :
    walk bus isUser virtualAddr access n table =
      resolve isUser virtualAddr access ((leafWalker virtualAddr).run (readEntry bus) n table) := by
  induction n generalizing table with
  | zero =>
    simp only [walk, RadixWalk.Walker.run, leafWalker, readEntry]
    split
    · rfl
    · split <;> rfl
  | succ n ih =>
    simp only [walk, RadixWalk.Walker.run, leafWalker, readEntry]
    split
    · rfl
    split
    · rfl
    split
    · rfl
    rw [if_neg (by rw [nextTable_aligned]; exact fun h => h rfl)]
    exact ih _

lemma translate_disabled {config : PagingConfig} (h : config.enabled = false)
    (ha : ¬ (access = .execute ∧ virtualAddr &&& 1 ≠ 0)) :
    translate bus config virtualAddr access = .mapped virtualAddr := by
  simp only [translate, if_neg ha, h, Bool.not_false, if_true]

lemma translate_misaligned (config : PagingConfig) (ha : access = .execute ∧ virtualAddr &&& 1 ≠ 0) :
    translate bus config virtualAddr access = makeFault trapExecAlign auxSubtypeNone 0 := by
  simp only [translate, if_pos ha]

lemma translate_enabled {config : PagingConfig} (h : config.enabled = true)
    (ha : ¬ (access = .execute ∧ virtualAddr &&& 1 ≠ 0)) :
    translate bus config virtualAddr access =
      resolve config.isUser virtualAddr access (pageLeaf bus config.rootTablePhysical virtualAddr) := by
  simp only [translate, if_neg ha, h, pageLeaf]
  rw [if_neg (by decide)]
  split
  · rfl
  split
  · rfl
  exact walk_eq 2 _

lemma permissionAllowed_rwx {pte : Word} (h : permissionAllowed access pte) :
    pte &&& (PTE_R ||| PTE_W ||| PTE_X) ≠ 0 := by
  intro hz
  have hb : ∀ m : Word, (PTE_R ||| PTE_W ||| PTE_X) &&& m = m → pte &&& m = 0 := fun m hm => by
    rw [← hm, ← BitVec.and_assoc, hz]; exact BitVec.zero_and
  cases access <;>
    simp only [permissionAllowed, hb PTE_R (by decide), hb PTE_W (by decide), hb PTE_X (by decide)] at h <;>
    exact absurd h (by decide)

lemma resolve_leaf_mapped (leaf : Leaf) {physical : Word} :
    resolve isUser virtualAddr access (.inr leaf) = .mapped physical ↔
      leaf.permits isUser access = true ∧ physical = leaf.physical virtualAddr := by
  simp only [resolve, resolveLeaf, makeFault, Leaf.permits, Leaf.physical]
  by_cases hp : permissionAllowed access leaf.entry
  · rw [if_neg (permissionAllowed_rwx hp)]
    rw [if_neg (by simp [hp])]
    cases isUser with
    | false => simp [hp, eq_comm (a := physical)]
    | true =>
      by_cases hu : leaf.entry &&& PTE_U = 0#64
      · simp [hp, hu]
      · simp [hp, hu, eq_comm (a := physical)]
  · split <;> simp [hp]

section SamePage

variable (hpage : virtualAddr >>> 12 = virtualAddr' >>> 12)
include hpage

lemma shift_congr (n : ℕ) : virtualAddr >>> (12 + n) = virtualAddr' >>> (12 + n) := by
  rw [BitVec.shiftRight_add, BitVec.shiftRight_add, hpage]

lemma leafWalker_congr : leafWalker virtualAddr = leafWalker virtualAddr' := by
  simp only [leafWalker, tableIndex, shift_congr hpage]

lemma isCanonical39_congr : isCanonical39 virtualAddr = isCanonical39 virtualAddr' := by
  simp only [isCanonical39, shift_congr hpage 26, shift_congr hpage 27]

lemma pageLeaf_congr : pageLeaf bus root virtualAddr = pageLeaf bus root virtualAddr' := by
  simp only [pageLeaf, leafWalker_congr hpage, isCanonical39_congr hpage]

end SamePage

lemma leafWalker_leaf {n : ℕ} {table : Word} {leaf : Leaf}
    (h : (leafWalker virtualAddr).run (readEntry bus) n table = .inr leaf) :
    leaf.entry &&& PTE_V ≠ 0 ∧ (leaf.shift = 12 ∨ leaf.shift = 21 ∨ leaf.shift = 30) := by
  induction n generalizing table with
  | zero =>
    simp only [RadixWalk.Walker.run, leafWalker] at h
    split at h
    · cases h
    split at h
    · cases h
    obtain rfl := Sum.inr.inj h
    exact ⟨‹_›, .inl rfl⟩
  | succ n ih =>
    simp only [RadixWalk.Walker.run] at h
    split at h
    · next hd =>
      subst h
      simp only [leafWalker] at hd
      split at hd
      · cases hd
      split at hd
      · obtain rfl := Sum.inr.inj (Sum.inl.inj hd)
        refine ⟨‹_›, ?_⟩
        dsimp only
        split <;> simp
      · split at hd <;> cases hd
    · exact ih h

lemma pageLeaf_leaf {leaf : Leaf} (h : pageLeaf bus root virtualAddr = .inr leaf) :
    leaf.entry &&& PTE_V ≠ 0 ∧ (leaf.shift = 12 ∨ leaf.shift = 21 ∨ leaf.shift = 30) := by
  simp only [pageLeaf] at h
  split at h
  · cases h
  split at h
  · cases h
  exact leafWalker_leaf h

lemma Leaf.toNat_physical {leaf : Leaf} (hs : leaf.shift = 12 ∨ leaf.shift = 21 ∨ leaf.shift = 30) :
    (leaf.physical virtualAddr).toNat =
      (leaf.entry.toNat / 2 ^ 10 * 2 ^ 12 % 2 ^ 64 + virtualAddr.toNat % 2 ^ leaf.shift) % 2 ^ 64 := by
  have hm : (1 <<< leaf.shift - 1 : Word) = BitFields.lowMask 64 leaf.shift := by
    rcases hs with h | h | h <;> rw [h] <;> decide
  rw [Leaf.physical, hm, BitVec.toNat_add, BitFields.toNat_and_lowMask, BitVec.toNat_shiftLeft,
    BitVec.toNat_ushiftRight, Nat.shiftLeft_eq, Nat.shiftRight_eq_div_pow]

lemma Leaf.physical_page {leaf : Leaf} (hs : leaf.shift = 12 ∨ leaf.shift = 21 ∨ leaf.shift = 30)
    (hpage : virtualAddr >>> 12 = virtualAddr' >>> 12) :
    (leaf.physical virtualAddr &&& ~~~0xFFF) ||| (virtualAddr' &&& 0xFFF) = leaf.physical virtualAddr' := by
  rw [show (0xFFF : Word) = BitFields.lowMask 64 12 by decide, ← BitVec.toNat_inj, BitFields.toNat_join,
    Leaf.toNat_physical hs, Leaf.toNat_physical hs]
  rw [BitFields.ushiftRight_eq_iff] at hpage
  rcases hs with h | h | h <;> rw [h] <;> omega

lemma Leaf.physical_add {leaf : Leaf} (hs : leaf.shift = 12 ∨ leaf.shift = 21 ∨ leaf.shift = 30) {i : ℕ}
    (hi : virtualAddr.toNat % 4096 + i < 4096) :
    leaf.physical (virtualAddr + BitVec.ofNat 64 i) = leaf.physical virtualAddr + BitVec.ofNat 64 i := by
  have hv : (virtualAddr + BitVec.ofNat 64 i).toNat = virtualAddr.toNat + i := by
    have := virtualAddr.isLt
    rw [BitVec.toNat_add, BitVec.toNat_ofNat]; omega
  rw [← BitVec.toNat_inj, Leaf.toNat_physical hs, hv, BitVec.toNat_add, Leaf.toNat_physical hs, BitVec.toNat_ofNat]
  rcases hs with h | h | h <;> rw [h] <;> omega

/-- The page-table entries that the walk for an address reads. -/
def footprint (bus : MemoryBus) (root virtualAddr : Word) : List (ℕ × Word × Word) :=
  (leafWalker virtualAddr).trail (readEntry bus) 2 root

lemma pageLeaf_unmodified (h : ∀ v ∈ footprint bus root virtualAddr, readEntry bus' v.2.1 = v.2.2) :
    pageLeaf bus' root virtualAddr = pageLeaf bus root virtualAddr := by
  simp only [pageLeaf, RadixWalk.Walker.run_congr _ _ _ h]

lemma translate_enabled_mapped {config : PagingConfig} (h : config.enabled = true) {physical : Word} :
    translate bus config virtualAddr access = .mapped physical ↔
      ¬ (access = .execute ∧ virtualAddr &&& 1 ≠ 0) ∧
        ∃ leaf, pageLeaf bus config.rootTablePhysical virtualAddr = .inr leaf ∧
          leaf.permits config.isUser access = true ∧ physical = leaf.physical virtualAddr := by
  by_cases ha : access = .execute ∧ virtualAddr &&& 1 ≠ 0
  · rw [translate_misaligned config ha]
    exact ⟨fun hf => PagingTranslateResult.noConfusion hf, fun hf => absurd ha hf.1⟩
  · rw [translate_enabled h ha]
    cases hl : pageLeaf bus config.rootTablePhysical virtualAddr with
    | inl fault =>
      refine ⟨fun hf => PagingTranslateResult.noConfusion hf, ?_⟩
      rintro ⟨_, leaf, hc, _⟩
      cases hc
    | inr leaf =>
      rw [resolve_leaf_mapped]
      refine ⟨fun hp => ⟨ha, leaf, rfl, hp⟩, ?_⟩
      rintro ⟨_, leaf', hc, hp⟩
      obtain rfl := Sum.inr.inj hc
      exact hp

/-- The causes that translation faults carry are exception vectors. -/
def TranslationCause (cause : Word) : Prop :=
  cause ∈ [trapExecAlign, trapPageFaultNotPresent, trapPageFaultPermission, trapPageFaultReserved,
    trapPageFaultCanonical]

instance (cause : Word) : Decidable (TranslationCause cause) := inferInstanceAs (Decidable (_ ∈ _))

lemma TranslationCause.vector {cause : Word} (h : TranslationCause cause) : cause ≠ noTrap ∧ cause < 128 := by
  simp only [TranslationCause, List.mem_cons, List.not_mem_nil, or_false] at h
  rcases h with rfl | rfl | rfl | rfl | rfl <;> decide

lemma leafWalker_cause {n : ℕ} {table : Word} {fault : PageFault}
    (h : (leafWalker virtualAddr).run (readEntry bus) n table = .inl fault) : TranslationCause fault.trapCause := by
  induction n generalizing table with
  | zero =>
    simp only [RadixWalk.Walker.run, leafWalker] at h
    split at h
    · rw [← Sum.inl.inj h]; decide
    split at h
    · rw [← Sum.inl.inj h]; decide
    · cases h
  | succ n ih =>
    simp only [RadixWalk.Walker.run] at h
    split at h
    · next hd =>
      subst h
      simp only [leafWalker] at hd
      split at hd
      · rw [← Sum.inl.inj (Sum.inl.inj hd)]
        exact (by decide : TranslationCause trapPageFaultNotPresent)
      split at hd
      · cases Sum.inl.inj hd
      split at hd
      · rw [← Sum.inl.inj (Sum.inl.inj hd)]
        exact (by decide : TranslationCause trapPageFaultReserved)
      · cases hd
    · exact ih h

lemma translate_cause {config : PagingConfig} {cause aux : Word}
    (h : translate bus config virtualAddr access = .fault cause aux) : TranslationCause cause := by
  by_cases ha : access = .execute ∧ virtualAddr &&& 1 ≠ 0
  · rw [translate_misaligned config ha] at h
    rw [← (PagingTranslateResult.fault.inj h).1]; decide
  cases he : config.enabled with
  | false => rw [translate_disabled he ha] at h; cases h
  | true =>
    rw [translate_enabled he ha] at h
    cases hl : pageLeaf bus config.rootTablePhysical virtualAddr with
    | inl fault =>
      rw [hl] at h
      rw [← (PagingTranslateResult.fault.inj h).1]
      simp only [pageLeaf] at hl
      split at hl
      · rw [← Sum.inl.inj hl]; decide
      split at hl
      · rw [← Sum.inl.inj hl]; decide
      · exact leafWalker_cause hl
    | inr leaf =>
      rw [hl] at h
      simp only [resolve, resolveLeaf, makeFault] at h
      split_ifs at h <;> (rw [← (PagingTranslateResult.fault.inj h).1]; decide)

end AddressTranslator

end Little64.Emulator

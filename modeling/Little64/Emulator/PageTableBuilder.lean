import Little64.Library.RadixTree
import Little64.Emulator.AddressTranslator

/-! The page-table builder: what it writes into memory is a radix tree, and the translator reads back from it the last
mapping of each page. -/

namespace Little64.Emulator

open Vectors LittleEndian
open AddressTranslator (PTE_V PTE_R PTE_W PTE_X PTE_U PTE_RESERVED_MASK PAGE_SIZE tableIndex readEntry isCanonical39)

namespace PageTableBuilder

def PTE_G : Word := 1 <<< 5

structure BuilderState where
  bus : MemoryBus
  /-- The pages the allocator has left to hand out, in order. -/
  allocator : List Word

abbrev Builder := OptionT (StateM BuilderState)

def allocatePage : Builder Word := fun s =>
  match s.allocator with
  | [] => (none, s)
  | page :: rest => (some page, { s with allocator := rest })

def zeroEntries (bus : MemoryBus) (page : Word) : ℕ → MemoryBus
  | 0 => bus
  | n + 1 => (zeroEntries bus page n).write64 (page + BitVec.ofNat 64 (8 * n)) 0 .write

def zeroPage (bus : MemoryBus) (page : Word) : MemoryBus := zeroEntries bus page 512

def makeTablePte (tablePage : Word) : Word := ((tablePage >>> 12) <<< 10) ||| PTE_V

structure Mapping where
  virtualAddr : Word
  physicalAddr : Word
  read : Bool
  write : Bool
  execute : Bool
  global : Bool
  deriving DecidableEq, Repr

def makeLeafPte (physPage : Word) (r w x g : Bool) : Word :=
  let pte := ((physPage >>> 12) <<< 10) ||| PTE_V
  let pte := if r then pte ||| PTE_R else pte
  let pte := if w then pte ||| PTE_W else pte
  let pte := if x then pte ||| PTE_X else pte
  if g then pte ||| PTE_G else pte

def ensureNextLevel (table index : Word) : Builder Word := do
  let pteAddr := table + index * 8
  let pte := readEntry (← get).bus pteAddr
  if pte &&& PTE_V ≠ 0 then return (pte >>> 10) <<< 12
  let newPage ← allocatePage
  modify fun s => { s with bus := (zeroPage s.bus newPage).write64 pteAddr (makeTablePte newPage) .write }
  return newPage

def createRoot : Builder Word := do
  let root ← allocatePage
  modify fun s => { s with bus := zeroPage s.bus root }
  return root

def map4K (root : Word) (m : Mapping) : Builder Unit := do
  if (root ||| m.virtualAddr ||| m.physicalAddr) &&& (PAGE_SIZE - 1) ≠ 0 then failure
  let l1 ← ensureNextLevel root (tableIndex m.virtualAddr 2)
  let l0 ← ensureNextLevel l1 (tableIndex m.virtualAddr 1)
  let leafAddr := l0 + tableIndex m.virtualAddr 0 * 8
  let leaf := makeLeafPte m.physicalAddr m.read m.write m.execute m.global
  modify fun s => { s with bus := s.bus.write64 leafAddr leaf .write }

def mapAll (root : Word) : List Mapping → Builder Unit
  | [] => pure ()
  | m :: maps => do
    map4K root m
    mapAll root maps

section Entries

/-- A page number with flags in the ten bits below it. -/
def entry (page flags : Word) : Word := ((page >>> 12) <<< 10) ||| flags

variable {page flags mask : Word}

lemma toNat_entry (hflags : flags.toNat < 2 ^ 10) : (entry page flags).toNat = page.toNat / 4096 * 1024 + flags.toNat := by
  have hpage := page.isLt
  rw [entry, BitVec.toNat_or, BitVec.toNat_shiftLeft, BitVec.toNat_ushiftRight, Nat.shiftLeft_eq,
    Nat.shiftRight_eq_div_pow, Nat.mod_eq_of_lt (by omega), Nat.mul_comm, ← Nat.two_pow_add_eq_or_of_lt hflags]

lemma entry_page (hpage : page.toNat % 4096 = 0) (hflags : flags.toNat < 2 ^ 10) :
    (entry page flags >>> 10) <<< 12 = page := by
  have hlt := page.isLt
  rw [← BitVec.toNat_inj, BitVec.toNat_shiftLeft, BitVec.toNat_ushiftRight, toNat_entry hflags, Nat.shiftLeft_eq,
    Nat.shiftRight_eq_div_pow]
  omega

lemma entry_and_low (hmask : BitFields.lowMask 64 10 &&& mask = mask) : entry page flags &&& mask = flags &&& mask := by
  have hzero : (page >>> 12) <<< 10 &&& mask = 0#64 := by
    rw [← hmask, ← BitVec.and_assoc, BitFields.shiftLeft_and_lowMask]
    exact BitVec.zero_and
  rw [entry, BitVec.and_comm, BitVec.and_or_distrib_left, BitVec.and_comm, hzero, BitVec.zero_or, BitVec.and_comm]

lemma entry_and_reserved (hpage : page.toNat < 2 ^ 56) (hflags : flags.toNat < 2 ^ 10) :
    entry page flags &&& PTE_RESERVED_MASK = 0 := by
  have hmask : PTE_RESERVED_MASK = ~~~BitFields.lowMask 64 54 := by decide
  rw [← BitVec.toNat_inj, hmask, BitFields.toNat_and_not_lowMask, toNat_entry hflags]
  change _ = 0
  omega

end Entries

section Slots

/-- The address of an entry of a table. -/
def slot (table : Word) (i : Fin 512) : Word := table + BitVec.ofNat 64 (8 * i)

/-- A page that can hold a table: aligned, and every byte of it in memory that can be written. -/
structure TablePage (bus : MemoryBus) (page : Word) : Prop where
  aligned : page.toNat % 4096 = 0
  writable : ∀ k < 4096, bus.writable (page + BitVec.ofNat 64 k)

variable {bus bus' : MemoryBus} {page table v : Word} {i j : Fin 512}

lemma toNat_slot (h : page.toNat % 4096 = 0) {k : ℕ} (hk : k < 8) :
    (slot page i + BitVec.ofNat 64 k).toNat = page.toNat + 8 * i + k := by
  have hlt := page.isLt
  have hi := i.isLt
  rw [slot, BitVec.toNat_add, BitVec.toNat_add, BitVec.toNat_ofNat, BitVec.toNat_ofNat]
  omega

lemma TablePage.congr (h : TablePage bus page) (hbus : ∀ x, bus'.writable x = bus.writable x) : TablePage bus' page where
  aligned := h.aligned
  writable k hk := by
    rw [hbus]
    exact h.writable k hk

lemma TablePage.slot_writable (h : TablePage bus page) {k : ℕ} (hk : k < 8) :
    bus.writable (slot page i + BitVec.ofNat 64 k) := by
  have hi := i.isLt
  rw [slot, ← ByteMemory.offset_add]
  exact h.writable _ (by omega)

lemma readEntry_write_same (h : TablePage bus page) : readEntry (bus.write64 (slot page i) v .write) (slot page i) = v := by
  have hover := MemoryBus.write64_overlay bus (slot page i) v
  rw [readEntry, MemoryBus.read64_bytes]
  refine (assemble_congr fun k hk => ?_).trans (lowBytes_all 8 v (by decide))
  have hin : ByteMemory.InRange (slot page i) 8 (slot page i + BitVec.ofNat 64 k) :=
    ByteMemory.inRange_offset _ _ _ hk (by decide)
  have hoff : (slot page i + BitVec.ofNat 64 k - slot page i).toNat = k := by
    rw [BitVec.add_comm, BitVec.add_sub_cancel, BitVec.toNat_ofNat]
    omega
  rw [hover.byte, if_pos ⟨hin, h.slot_writable hk⟩, hoff]

lemma readEntry_write_other (hp : page.toNat % 4096 = 0) (ht : table.toNat % 4096 = 0) (hne : table = page → j ≠ i) :
    readEntry (bus.write64 (slot page i) v .write) (slot table j) = readEntry bus (slot table j) := by
  have hover := MemoryBus.write64_overlay bus (slot page i) v
  have hi := i.isLt
  have hj := j.isLt
  have hsep : page.toNat + 8 * i ≠ table.toNat + 8 * j := by
    intro he
    have hpage : table = page := BitVec.eq_of_toNat_eq (by omega)
    refine hne hpage (Fin.ext ?_)
    rw [hpage] at he
    omega
  rw [readEntry, readEntry, MemoryBus.read64_bytes, MemoryBus.read64_bytes]
  apply assemble_congr
  intro k hk
  have hout : ¬ ByteMemory.InRange (slot page i) 8 (slot table j + BitVec.ofNat 64 k) := by
    have hslot : (slot page i).toNat = page.toNat + 8 * i := by
      simpa using toNat_slot (i := i) hp (show 0 < 8 by decide)
    rw [ByteMemory.InRange]
    rcases ByteMemory.toNat_sub_cases (slot table j + BitVec.ofNat 64 k) (slot page i) with h | h <;>
      rw [toNat_slot ht hk, hslot] at h <;> omega
  rw [hover.byte, if_neg fun h => hout h.1]

lemma zeroEntries_writable (bus : MemoryBus) (page : Word) (n : ℕ) (x : Word) :
    (zeroEntries bus page n).writable x = bus.writable x := by
  induction n with
  | zero => rfl
  | succ n ih =>
    rw [zeroEntries, (MemoryBus.write64_overlay _ _ _).writable]
    exact ih

lemma zeroPage_writable (bus : MemoryBus) (page x : Word) : (zeroPage bus page).writable x = bus.writable x :=
  zeroEntries_writable bus page 512 x

lemma readEntry_zeroEntries (hp : TablePage bus page) (ht : table.toNat % 4096 = 0) {n : ℕ} (hn : n ≤ 512) :
    readEntry (zeroEntries bus page n) (slot table j) =
      if table = page ∧ j.val < n then 0 else readEntry bus (slot table j) := by
  induction n with
  | zero => rw [if_neg fun h => Nat.not_lt_zero _ h.2, zeroEntries]
  | succ n ih =>
    have hpage : TablePage (zeroEntries bus page n) page := hp.congr (zeroEntries_writable bus page n)
    change readEntry (MemoryBus.write64 _ (slot page ⟨n, by omega⟩) 0 .write) _ = _
    by_cases hj : table = page ∧ j = ⟨n, by omega⟩
    · obtain ⟨rfl, rfl⟩ := hj
      rw [readEntry_write_same hpage, if_pos ⟨rfl, Nat.lt_succ_self n⟩]
    · rw [readEntry_write_other hp.aligned ht fun h he => hj ⟨h, he⟩, ih (by omega)]
      have hiff : (table = page ∧ j.val < n) ↔ (table = page ∧ j.val < n + 1) := by
        refine and_congr_right fun h => ?_
        have hne : j.val ≠ n := fun he => hj ⟨h, Fin.ext he⟩
        omega
      simp only [hiff]

lemma readEntry_zeroPage (hp : TablePage bus page) (ht : table.toNat % 4096 = 0) :
    readEntry (zeroPage bus page) (slot table j) = if table = page then 0 else readEntry bus (slot table j) := by
  rw [zeroPage, readEntry_zeroEntries hp ht (Nat.le_refl 512)]
  simp only [j.isLt, and_true]

end Slots

section Leaves

def leafFlags (r w x g : Bool) : Word :=
  let flags := PTE_V
  let flags := if r then flags ||| PTE_R else flags
  let flags := if w then flags ||| PTE_W else flags
  let flags := if x then flags ||| PTE_X else flags
  if g then flags ||| PTE_G else flags

lemma makeTablePte_eq (page : Word) : makeTablePte page = entry page PTE_V := rfl

lemma makeLeafPte_eq (page : Word) (r w x g : Bool) : makeLeafPte page r w x g = entry page (leafFlags r w x g) := by
  cases r <;> cases w <;> cases x <;> cases g <;>
    simp [makeLeafPte, entry, leafFlags, BitVec.or_assoc]

lemma leafFlags_lt (r w x g : Bool) : (leafFlags r w x g).toNat < 2 ^ 10 := by
  cases r <;> cases w <;> cases x <;> cases g <;> decide

/-- The index of an address at a level of the tree. -/
def pageIndex (virtualAddr : Word) (level : ℕ) : Fin 512 :=
  ⟨virtualAddr.toNat / 2 ^ (12 + 9 * level) % 512, Nat.mod_lt _ (by decide)⟩

lemma slot_tableIndex (table virtualAddr : Word) (level : ℕ) :
    table + tableIndex virtualAddr level * 8 = slot table (pageIndex virtualAddr level) := by
  have hindex : (tableIndex virtualAddr level).toNat = (pageIndex virtualAddr level).val := by
    rw [tableIndex, show (0x1FF : Word) = BitFields.lowMask 64 9 by decide, BitFields.toNat_and_lowMask,
      BitVec.toNat_ushiftRight, Nat.shiftRight_eq_div_pow]
    rfl
  have hlt := (pageIndex virtualAddr level).isLt
  rw [slot]
  congr 1
  rw [← BitVec.toNat_inj, BitVec.toNat_mul, hindex, BitVec.toNat_ofNat, Nat.mul_comm]
  rfl

namespace Mapping

variable (m : Mapping)

def leaf : Word := makeLeafPte m.physicalAddr m.read m.write m.execute m.global

def path : List (Fin 512) := RadixTree.descent (pageIndex m.virtualAddr) 2 []

/-- What the builder may be asked for: whole canonical pages, and something to do with them. -/
structure Valid : Prop where
  virtual_aligned : m.virtualAddr.toNat % 4096 = 0
  canonical : isCanonical39 m.virtualAddr = true
  physical_aligned : m.physicalAddr.toNat % 4096 = 0
  physical_below : m.physicalAddr.toNat < 2 ^ 56
  some_access : m.read || m.write || m.execute

/-- The builder never marks a page as a user page. -/
def allows (isUser : Bool) (access : AccessType) : Bool :=
  !isUser && match access with
    | .read => m.read
    | .write => m.write
    | .execute => m.execute

def covers (virtualAddr : Word) : Bool := decide (virtualAddr >>> 12 = m.virtualAddr >>> 12)

end Mapping

lemma isCanonical39_iff (addr : Word) :
    isCanonical39 addr = true ↔ addr.toNat < 2 ^ 38 ∨ 2 ^ 64 - 2 ^ 38 ≤ addr.toNat := by
  have hlt := addr.isLt
  have hupper : (addr >>> 39).toNat = addr.toNat / 2 ^ 39 := by
    rw [BitVec.toNat_ushiftRight, Nat.shiftRight_eq_div_pow]
  have hsign : (addr >>> 38 &&& 1).toNat = addr.toNat / 2 ^ 38 % 2 := by
    rw [show (1 : Word) = BitFields.lowMask 64 1 by decide, BitFields.toNat_and_lowMask, BitVec.toNat_ushiftRight,
      Nat.shiftRight_eq_div_pow]
    rfl
  simp only [isCanonical39]
  by_cases hs : addr >>> 38 &&& 1 = 0
  · rw [if_pos hs, beq_iff_eq, ← BitVec.toNat_inj, hupper]
    rw [← BitVec.toNat_inj, hsign] at hs
    change addr.toNat / 2 ^ 38 % 2 = 0 at hs
    change addr.toNat / 2 ^ 39 = 0 ↔ _
    omega
  · rw [if_neg hs, beq_iff_eq, ← BitVec.toNat_inj, hupper]
    rw [← BitVec.toNat_inj, hsign] at hs
    change ¬ addr.toNat / 2 ^ 38 % 2 = 0 at hs
    change addr.toNat / 2 ^ 39 = 2 ^ 25 - 1 ↔ _
    omega

/-- A canonical address is known by its three indices and its offset, in the high half as in the low one. -/
lemma covers_iff {m : Mapping} (hm : m.Valid) {virtualAddr : Word} (hcanon : isCanonical39 virtualAddr = true) :
    m.covers virtualAddr ↔ m.path = RadixTree.descent (pageIndex virtualAddr) 2 [] := by
  have hva := (isCanonical39_iff _).mp hcanon
  have hvm := (isCanonical39_iff _).mp hm.canonical
  have hlt := virtualAddr.isLt
  have hltm := m.virtualAddr.isLt
  rw [Mapping.covers, decide_eq_true_iff, BitFields.ushiftRight_eq_iff]
  simp only [Mapping.path, RadixTree.descent, pageIndex, List.cons.injEq, Fin.mk.injEq, and_true]
  omega

/-- The leaf entry of a path, by the last mapping that has it; the mappings are listed last first. -/
def leafAt (done : List Mapping) (path : List (Fin 512)) : Word :=
  (done.find? fun m => decide (m.path = path)).elim 0 Mapping.leaf

lemma leafAt_cons (m : Mapping) (done : List Mapping) :
    leafAt (m :: done) = Function.update (leafAt done) m.path m.leaf := by
  funext path
  rw [leafAt, List.find?_cons, Function.update_apply]
  by_cases h : path = m.path
  · rw [if_pos h, decide_eq_true h.symm]
    rfl
  · rw [if_neg h, decide_eq_false fun he => h he.symm]
    rfl

end Leaves

/-- The memory holds the tree of the mappings made so far, and the pages left are as good as new. -/
structure Represents (s : BuilderState) (root : Word) (done : List Mapping) (tables : List (Fin 512) → Option Word) :
    Prop where
  root : tables [] = some root
  laid : RadixTree.Laid slot makeTablePte 0 2 (readEntry s.bus) tables (leafAt done)
  page : ∀ p t, tables p = some t → TablePage s.bus t
  used : ∀ p t, tables p = some t → t ∉ s.allocator
  below : ∀ i p t, tables (i :: p) = some t → t.toNat < 2 ^ 56
  fresh : ∀ t ∈ s.allocator, TablePage s.bus t ∧ t.toNat < 2 ^ 56
  nodup : s.allocator.Nodup

section Steps

variable {s s' : BuilderState} {root t u virtualAddr : Word} {done : List Mapping}
  {tables : List (Fin 512) → Option Word} {p : List (Fin 512)} {level : ℕ} {m : Mapping}

lemma ensureNextLevel_cases {index : Word} (h : ensureNextLevel t index s = (some u, s')) :
    (readEntry s.bus (t + index * 8) &&& PTE_V ≠ 0 ∧ u = (readEntry s.bus (t + index * 8) >>> 10) <<< 12 ∧ s' = s) ∨
      (readEntry s.bus (t + index * 8) &&& PTE_V = 0 ∧ ∃ rest, s.allocator = u :: rest ∧
        s' = ⟨(zeroPage s.bus u).write64 (t + index * 8) (makeTablePte u) .write, rest⟩) := by
  unfold ensureNextLevel at h
  change (if readEntry s.bus (t + index * 8) &&& PTE_V ≠ 0 then _ else _ : Builder Word) s = _ at h
  by_cases hv : readEntry s.bus (t + index * 8) &&& PTE_V ≠ 0
  · rw [if_pos hv] at h
    cases h
    exact .inl ⟨hv, rfl, rfl⟩
  · rw [if_neg hv] at h
    obtain ⟨bus, allocator⟩ := s
    cases allocator with
    | nil => cases h
    | cons page rest =>
      cases h
      exact .inr ⟨not_not.mp hv, rest, rfl, rfl⟩

lemma tablePte_valid (page : Word) : makeTablePte page &&& PTE_V ≠ 0 := by
  rw [makeTablePte_eq, entry_and_low (by decide)]
  decide

lemma updated_some {path q : List (Fin 512)} {v : Word} (h : Function.update tables path (some u) q = some v) :
    v = u ∨ tables q = some v := by
  by_cases hq : q = path
  · rw [hq, Function.update_self] at h
    cases h
    exact .inl rfl
  · rw [Function.update_of_ne hq] at h
    exact .inr h

/-- A level entered: its table was there already, or is a page of the allocator now. -/
lemma Represents.ensure (h : Represents s root done tables) (hp : tables p = some t) (hlen : p.length < 2)
    (hrun : ensureNextLevel t (tableIndex virtualAddr level) s = (some u, s')) :
    ∃ tables', Represents s' root done tables' ∧ tables' (pageIndex virtualAddr level :: p) = some u := by
  have hinner := h.laid.inner p (pageIndex virtualAddr level) t hp hlen
  rw [← slot_tableIndex] at hinner
  rcases ensureNextLevel_cases hrun with ⟨hv, hu, rfl⟩ | ⟨hv, rest, hrest, rfl⟩
  · refine ⟨tables, h, ?_⟩
    cases ht : tables (pageIndex virtualAddr level :: p) with
    | none =>
      rw [hinner, ht] at hv
      exact absurd (by decide) hv
    | some q =>
      rw [hinner, ht, Option.elim_some, makeTablePte_eq, entry_page (h.page _ _ ht).aligned (by decide)] at hu
      rw [hu]
  · have hnone : tables (pageIndex virtualAddr level :: p) = none := by
      cases ht : tables (pageIndex virtualAddr level :: p) with
      | none => rfl
      | some q =>
        rw [hinner, ht, Option.elim_some] at hv
        exact absurd hv (tablePte_valid q)
    obtain ⟨hpage, hbelow⟩ := h.fresh u (by rw [hrest]; exact List.mem_cons_self)
    have hnew : ∀ q, tables q ≠ some u := by
      intro q hq
      exact h.used q u hq (by rw [hrest]; exact List.mem_cons_self)
    have hnodup := h.nodup
    rw [hrest, List.nodup_cons] at hnodup
    have hnet : t ≠ u := by
      rintro rfl
      exact hnew p hp
    have hwritable : ∀ x, ((zeroPage s.bus u).write64 (t + tableIndex virtualAddr level * 8) (makeTablePte u) .write).writable x =
        s.bus.writable x := by
      intro x
      rw [(MemoryBus.write64_overlay _ _ _).writable]
      exact zeroPage_writable _ _ _
    have htable : TablePage (zeroPage s.bus u) t := (h.page p t hp).congr (zeroPage_writable _ _)
    rw [slot_tableIndex] at hwritable
    rw [slot_tableIndex]
    refine ⟨Function.update tables (pageIndex virtualAddr level :: p) (some u), ?_, Function.update_self ..⟩
    constructor
    case root =>
      rw [Function.update_of_ne (List.cons_ne_nil _ _).symm]
      exact h.root
    case laid =>
      apply h.laid.grow hp hlen hnone hnew
      · intro j
        rw [readEntry_write_other htable.aligned hpage.aligned fun he => absurd he.symm hnet,
          readEntry_zeroPage hpage hpage.aligned, if_pos rfl]
      · exact readEntry_write_same htable
      · intro q v j hq hj
        have hv := h.page q v hq
        have hvu : v ≠ u := by
          rintro rfl
          exact hnew q hq
        rw [readEntry_write_other htable.aligned hv.aligned, readEntry_zeroPage hpage hv.aligned, if_neg hvu]
        rintro rfl
        exact hj (h.laid.injective q p v hq hp)
    case page =>
      intro q v hq
      rcases updated_some hq with rfl | hq
      · exact hpage.congr hwritable
      · exact (h.page q v hq).congr hwritable
    case used =>
      intro q v hq
      rcases updated_some hq with rfl | hq
      · exact hnodup.1
      · have hv := h.used q v hq
        rw [hrest] at hv
        exact fun hmem => hv (List.mem_cons_of_mem _ hmem)
    case below =>
      intro i q v hq
      rcases updated_some hq with rfl | hq
      · exact hbelow
      · exact h.below i q v hq
    case fresh =>
      intro v hv
      have hmem : v ∈ s.allocator := by
        rw [hrest]
        exact List.mem_cons_of_mem _ hv
      exact ⟨(h.fresh v hmem).1.congr hwritable, (h.fresh v hmem).2⟩
    case nodup => exact hnodup.2

lemma bind_some {α β : Type} {x : Builder α} {f : α → Builder β} {b : β} (h : (x >>= f) s = (some b, s')) :
    ∃ a s₁, x s = (some a, s₁) ∧ f a s₁ = (some b, s') := by
  change (match (x s).1 with | some a => f a | none => pure none : StateM BuilderState (Option β)) (x s).2 = _ at h
  cases hx : x s with
  | mk a s₁ =>
    rw [hx] at h
    cases a with
    | none => cases h
    | some a => exact ⟨a, s₁, rfl, h⟩

lemma map4K_cases (h : map4K root m s = (some (), s')) : ∃ l1 s₁ l0 s₂,
    ensureNextLevel root (tableIndex m.virtualAddr 2) s = (some l1, s₁) ∧
      ensureNextLevel l1 (tableIndex m.virtualAddr 1) s₁ = (some l0, s₂) ∧
      s' = { s₂ with bus := s₂.bus.write64 (l0 + tableIndex m.virtualAddr 0 * 8) m.leaf .write } := by
  unfold map4K at h
  split at h
  · cases h
  obtain ⟨l1, s₁, h1, h⟩ := bind_some h
  obtain ⟨l0, s₂, h0, h⟩ := bind_some h
  cases h
  exact ⟨l1, s₁, l0, s₂, h1, h0, rfl⟩

/-- One page mapped: the tree has its leaf, and every other page what it had. -/
lemma Represents.map4K (h : Represents s root done tables) (hrun : PageTableBuilder.map4K root m s = (some (), s')) :
    ∃ tables', Represents s' root (m :: done) tables' := by
  obtain ⟨l1, s₁, l0, s₂, h1, h0, rfl⟩ := map4K_cases hrun
  obtain ⟨tables₁, hrep₁, ht1⟩ := h.ensure h.root (by decide) h1
  obtain ⟨tables₂, hrep₂, ht0⟩ := hrep₁.ensure ht1 (Nat.lt_succ_self 1) h0
  have hpage := hrep₂.page _ _ ht0
  have hwritable : ∀ x, (s₂.bus.write64 (slot l0 (pageIndex m.virtualAddr 0)) m.leaf .write).writable x =
      s₂.bus.writable x := (MemoryBus.write64_overlay _ _ _).writable
  rw [slot_tableIndex]
  refine ⟨tables₂, hrep₂.root, ?_, fun p t ht => (hrep₂.page p t ht).congr hwritable, hrep₂.used, hrep₂.below,
    fun t ht => ⟨(hrep₂.fresh t ht).1.congr hwritable, (hrep₂.fresh t ht).2⟩, hrep₂.nodup⟩
  rw [leafAt_cons]
  apply hrep₂.laid.write ht0 rfl (readEntry_write_same hpage)
  intro q u j hq hj
  apply readEntry_write_other hpage.aligned (hrep₂.page q u hq).aligned
  rintro rfl
  exact hj (hrep₂.laid.injective q _ u hq ht0)

lemma Represents.mapAll {maps : List Mapping} (h : Represents s root done tables)
    (hrun : PageTableBuilder.mapAll root maps s = (some (), s')) :
    ∃ tables', Represents s' root (maps.reverse ++ done) tables' := by
  induction maps generalizing s done tables with
  | nil =>
    cases hrun
    exact ⟨tables, h⟩
  | cons m maps ih =>
    obtain ⟨_, s₁, hm, hrest⟩ := bind_some hrun
    obtain ⟨tables₁, hrep₁⟩ := h.map4K hm
    rw [List.reverse_cons, List.append_assoc]
    exact ih hrep₁ hrest

lemma represents_createRoot (hpages : ∀ t ∈ s.allocator, TablePage s.bus t)
    (hbelow : ∀ t ∈ s.allocator.tail, t.toNat < 2 ^ 56) (hnodup : s.allocator.Nodup)
    (hrun : createRoot s = (some root, s')) :
    Represents s' root [] (Function.update (fun _ => none) [] (some root)) := by
  obtain ⟨bus, allocator⟩ := s
  cases allocator with
  | nil => cases hrun
  | cons page rest =>
    have hstep : createRoot ⟨bus, page :: rest⟩ = (some page, ⟨zeroPage bus page, rest⟩) := rfl
    rw [hstep] at hrun
    obtain ⟨hpageRoot, rfl⟩ := Prod.mk.inj hrun
    obtain rfl := Option.some.inj hpageRoot
    have hpage := hpages page List.mem_cons_self
    have hwritable := zeroPage_writable bus page
    rw [List.nodup_cons] at hnodup
    have hsingle : ∀ {p : List (Fin 512)} {t : Word},
        Function.update (fun _ => none) [] (some page) p = some t → p = [] ∧ t = page := by
      intro p t ht
      by_cases hp : p = []
      · rw [hp, Function.update_self] at ht
        cases ht
        exact ⟨hp, rfl⟩
      · rw [Function.update_of_ne hp] at ht
        cases ht
    generalize hzero : zeroPage bus page = zeroed at hwritable
    constructor
    case root => exact Function.update_self ..
    case laid =>
      constructor
      · intro p q t hp hq
        rw [(hsingle hp).1, (hsingle hq).1]
      · intro p i _
        rw [Function.update_of_ne (List.cons_ne_nil i p)]
      · intro p i _ _
        rfl
      · intro p i t hp _
        obtain ⟨rfl, rfl⟩ := hsingle hp
        rw [Function.update_of_ne (List.cons_ne_nil i []), Option.elim_none]
        rw [← hzero, readEntry_zeroPage hpage hpage.aligned, if_pos rfl]
      · intro p i t hp hlen
        obtain ⟨rfl, -⟩ := hsingle hp
        cases hlen
    case page =>
      intro p t hp
      obtain ⟨-, rfl⟩ := hsingle hp
      exact hpage.congr hwritable
    case used =>
      intro p t hp
      obtain ⟨-, rfl⟩ := hsingle hp
      exact hnodup.1
    case below =>
      intro i p t hp
      cases (hsingle hp).1
    case fresh =>
      intro t ht
      exact ⟨(hpages t (List.mem_cons_of_mem _ ht)).congr hwritable, hbelow t ht⟩
    case nodup => exact hnodup.2

end Steps

/-- What a translation comes to: a physical address or the cause of a fault. -/
def outcome : PagingTranslateResult → Word ⊕ Word
  | .mapped physical => .inl physical
  | .fault cause _ => .inr cause

/-- The translation that a list of mappings stands for. -/
def mapped (maps : List Mapping) (isUser : Bool) (virtualAddr : Word) (access : AccessType) : Word ⊕ Word :=
  if access = .execute ∧ virtualAddr &&& 1 ≠ 0 then .inr trapExecAlign
  else if !isCanonical39 virtualAddr then .inr trapPageFaultCanonical
  else
    match maps.reverse.find? fun m => m.covers virtualAddr with
    | none => .inr trapPageFaultNotPresent
    | some m =>
      if m.allows isUser access then .inl (m.physicalAddr + (virtualAddr &&& 0xFFF)) else .inr trapPageFaultPermission

section Translations

variable {s s' : BuilderState} {root virtualAddr : Word} {done maps : List Mapping}
  {tables : List (Fin 512) → Option Word} {m : Mapping} {isUser : Bool} {access : AccessType}

lemma leafAt_eq (hvalid : ∀ m ∈ done, m.Valid) (hcanon : isCanonical39 virtualAddr = true) :
    leafAt done (RadixTree.descent (pageIndex virtualAddr) 2 []) =
      (done.find? fun m => m.covers virtualAddr).elim 0 Mapping.leaf := by
  induction done with
  | nil => rfl
  | cons m done ih =>
    have hm := covers_iff (hvalid m List.mem_cons_self) hcanon
    have hih := ih fun q hq => hvalid q (List.mem_cons_of_mem _ hq)
    rw [leafAt_cons, Function.update_apply, List.find?_cons]
    by_cases hc : m.covers virtualAddr
    · rw [if_pos (hm.mp hc).symm, hc]
      rfl
    · rw [if_neg fun he => hc (hm.mpr he.symm), hih, Bool.eq_false_iff.mpr hc]

lemma leaf_permission (m : Mapping) (access : AccessType) :
    AddressTranslator.permissionAllowed access m.leaf = m.allows false access := by
  rw [Mapping.leaf, makeLeafPte_eq]
  cases access <;>
    simp only [AddressTranslator.permissionAllowed] <;>
    rw [entry_and_low (by decide)] <;>
    (simp only [Mapping.allows]; cases m.read <;> cases m.write <;> cases m.execute <;> cases m.global <;> decide)

lemma leaf_user (m : Mapping) : m.leaf &&& PTE_U = 0 := by
  rw [Mapping.leaf, makeLeafPte_eq, entry_and_low (by decide)]
  cases m.read <;> cases m.write <;> cases m.execute <;> cases m.global <;> decide

lemma leaf_valid (m : Mapping) : m.leaf &&& PTE_V ≠ 0 := by
  rw [Mapping.leaf, makeLeafPte_eq, entry_and_low (by decide)]
  cases m.read <;> cases m.write <;> cases m.execute <;> cases m.global <;> decide

lemma leaf_some_access (hm : m.Valid) : m.leaf &&& (PTE_R ||| PTE_W ||| PTE_X) ≠ 0 := by
  have hsome := hm.some_access
  rw [Mapping.leaf, makeLeafPte_eq, entry_and_low (by decide)]
  revert hsome
  cases m.read <;> cases m.write <;> cases m.execute <;> cases m.global <;> decide

lemma leaf_reserved (hm : m.Valid) : m.leaf &&& PTE_RESERVED_MASK = 0 := by
  rw [Mapping.leaf, makeLeafPte_eq]
  exact entry_and_reserved hm.physical_below (leafFlags_lt _ _ _ _)

lemma leaf_ne_zero (m : Mapping) : m.leaf ≠ 0 := by
  intro h
  apply leaf_valid m
  rw [h]
  exact BitVec.zero_and

lemma outcome_leaf (hm : m.Valid) (isUser : Bool) (virtualAddr : Word) (access : AccessType) :
    outcome (AddressTranslator.resolveLeaf isUser virtualAddr access m.leaf 0 12) =
      if m.allows isUser access then .inl (m.physicalAddr + (virtualAddr &&& 0xFFF))
      else .inr trapPageFaultPermission := by
  have hbase : (m.leaf >>> 10) <<< 12 = m.physicalAddr := by
    rw [Mapping.leaf, makeLeafPte_eq]
    exact entry_page hm.physical_aligned (leafFlags_lt _ _ _ _)
  rw [AddressTranslator.resolveLeaf, if_neg (leaf_some_access hm), leaf_permission, leaf_user, hbase]
  cases hallows : m.allows false access with
  | false =>
    have hno : m.allows isUser access = false := by
      simp only [Mapping.allows, Bool.not_false, Bool.true_and] at hallows ⊢
      rw [hallows, Bool.and_false]
    rw [hno]
    rfl
  | true =>
    cases isUser with
    | false =>
      rw [hallows]
      rfl
    | true => rfl

/-- The walk ends at the leaf of the address, or where the first table is missing. -/
lemma Represents.run (h : Represents s root done tables) (virtualAddr : Word) :
    (leafAt done (RadixTree.descent (pageIndex virtualAddr) 2 []) ≠ 0 →
      (AddressTranslator.leafWalker virtualAddr).run (readEntry s.bus) 2 root =
        (AddressTranslator.leafWalker virtualAddr).last
          (leafAt done (RadixTree.descent (pageIndex virtualAddr) 2 []))) ∧
    (leafAt done (RadixTree.descent (pageIndex virtualAddr) 2 []) = 0 →
      ∃ k ≤ 2, (AddressTranslator.leafWalker virtualAddr).run (readEntry s.bus) 2 root =
        .inl (AddressTranslator.PageFault.make trapPageFaultNotPresent AddressTranslator.auxSubtypeNoValidPte
          (BitVec.ofNat 64 k))) := by
  apply h.laid.run_eq _ _ _ _ h.root rfl
  · intro k t
    exact slot_tableIndex t virtualAddr k
  · intro k
    simp only [AddressTranslator.leafWalker]
    rw [if_pos (by decide)]
  · simp only [AddressTranslator.leafWalker]
    rw [if_pos (by decide)]
    rfl
  · intro k p i t ht
    have hpage := (h.page _ _ ht).aligned
    have hrwx : makeTablePte t &&& (PTE_R ||| PTE_W ||| PTE_X) = 0 := by
      rw [makeTablePte_eq, entry_and_low (by decide)]
      decide
    have hreserved : makeTablePte t &&& PTE_RESERVED_MASK = 0 := entry_and_reserved (h.below _ _ _ ht) (by decide)
    simp only [AddressTranslator.leafWalker]
    rw [if_neg (tablePte_valid t), if_neg (not_not.mpr hrwx), if_neg (not_not.mpr hreserved), makeTablePte_eq,
      entry_page hpage (by decide)]

lemma Represents.outcome_translate (h : Represents s root done tables) (hvalid : ∀ m ∈ done, m.Valid) :
    outcome (AddressTranslator.translate s.bus ⟨true, root, isUser⟩ virtualAddr access) =
      mapped done.reverse isUser virtualAddr access := by
  rw [mapped, List.reverse_reverse]
  by_cases hexec : access = .execute ∧ virtualAddr &&& 1 ≠ 0
  · rw [AddressTranslator.translate_misaligned _ hexec, if_pos hexec]
    rfl
  rw [if_neg hexec, AddressTranslator.translate_enabled rfl hexec]
  have hroot : root &&& (PAGE_SIZE - 1) = 0 := by
    rw [show PAGE_SIZE - 1 = BitFields.lowMask 64 12 by decide, ← BitVec.toNat_inj, BitFields.toNat_and_lowMask]
    exact (h.page _ _ h.root).aligned
  rw [AddressTranslator.pageLeaf, if_neg (not_not.mpr hroot)]
  cases hcanon : isCanonical39 virtualAddr with
  | false => rfl
  | true =>
    rw [Bool.not_true, if_neg Bool.false_ne_true, if_neg Bool.false_ne_true]
    obtain ⟨hfound, hmiss⟩ := h.run virtualAddr
    rw [leafAt_eq hvalid hcanon] at hfound hmiss
    cases hfind : done.find? fun m => m.covers virtualAddr with
    | none =>
      rw [hfind] at hmiss
      obtain ⟨k, -, hrun⟩ := hmiss rfl
      rw [hrun]
      rfl
    | some m =>
      have hm := hvalid m (List.mem_of_find?_eq_some hfind)
      rw [hfind, Option.elim_some] at hfound
      rw [hfound (leaf_ne_zero m)]
      simp only [AddressTranslator.leafWalker]
      rw [if_neg (leaf_valid m), if_neg (not_not.mpr (leaf_reserved hm))]
      exact outcome_leaf hm isUser virtualAddr access

/-- After any sequence of mappings under a new root the translator finds the last mapping of each page, and one more
mapping changes no other page. -/
theorem outcome_mapAll {s₀ s₁ : BuilderState} (hpages : ∀ t ∈ s₀.allocator, TablePage s₀.bus t)
    (hbelow : ∀ t ∈ s₀.allocator.tail, t.toNat < 2 ^ 56) (hnodup : s₀.allocator.Nodup) (hvalid : ∀ m ∈ maps, m.Valid)
    (hroot : createRoot s₀ = (some root, s₁)) (hmaps : mapAll root maps s₁ = (some (), s)) :
    (∀ isUser virtualAddr access,
      outcome (AddressTranslator.translate s.bus ⟨true, root, isUser⟩ virtualAddr access) =
        mapped maps isUser virtualAddr access) ∧
    ∀ m s', m.Valid → map4K root m s = (some (), s') → ∀ isUser virtualAddr access, m.covers virtualAddr = false →
      outcome (AddressTranslator.translate s'.bus ⟨true, root, isUser⟩ virtualAddr access) =
        outcome (AddressTranslator.translate s.bus ⟨true, root, isUser⟩ virtualAddr access) := by
  obtain ⟨tables, hrep⟩ := (represents_createRoot hpages hbelow hnodup hroot).mapAll hmaps
  rw [List.append_nil] at hrep
  have hdone : ∀ m ∈ maps.reverse, m.Valid := fun m hm => hvalid m (List.mem_reverse.mp hm)
  refine ⟨fun isUser virtualAddr access => ?_, fun m s' hm hmap isUser virtualAddr access hother => ?_⟩
  · rw [hrep.outcome_translate hdone, List.reverse_reverse]
  · obtain ⟨tables', hrep'⟩ := hrep.map4K hmap
    rw [hrep.outcome_translate hdone, hrep'.outcome_translate (List.forall_mem_cons.mpr ⟨hm, hdone⟩)]
    simp only [mapped, List.reverse_reverse, List.find?_cons, hother]

/-- 64 KiB of memory, and three pages of it for tables. -/
def sampleState (base : Word) : BuilderState :=
  ⟨⟨[⟨base, 0x10000, .ram, fun _ => 0⟩], List.pairwise_singleton _ _⟩, [base + 0x1000, base + 0x2000, base + 0x3000]⟩

def sampleMapping : Mapping := ⟨0x400000, 0x8000, true, false, true, true⟩

def sampleMapped (base : Word) : Option Unit × BuilderState :=
  mapAll (base + 0x1000) [sampleMapping] (createRoot (sampleState base)).2

lemma sampleMapping_valid : sampleMapping.Valid := ⟨by decide, by decide, by decide, by decide, by decide⟩

lemma sampleState_pages {base : Word} (hbase : base = 0 ∨ base = 0x100000000000000) :
    ∀ t ∈ (sampleState base).allocator, TablePage (sampleState base).bus t := by
  have hwritable : ∀ x : Word, base.toNat ≤ x.toNat → x.toNat < base.toNat + 0x10000 →
      (sampleState base).bus.writable x = true := by
    intro x hlow hhigh
    have hbaseNat : base.toNat ≤ 2 ^ 56 := by rcases hbase with rfl | rfl <;> decide
    have hend : (base + 0x10000).toNat = base.toNat + 0x10000 := by
      rw [BitVec.toNat_add]
      change (base.toNat + 0x10000) % 2 ^ 64 = _
      omega
    have hbelow : base ≤ x := BitVec.le_def.mpr hlow
    have habove : x < base + 65536#64 := by
      rw [BitVec.lt_def]
      exact Nat.lt_of_lt_of_eq hhigh hend.symm
    simp [MemoryBus.writable, MemoryBus.resolveAccessRange, MemoryBus.findRegion, sampleState, MemoryRegion.contains,
      MemoryRegion.endAddr, MemoryRegion.allows, hbelow, habove]
  intro t ht
  have hpage : ∃ n, (n = 0x1000 ∨ n = 0x2000 ∨ n = 0x3000) ∧ t.toNat = base.toNat + n := by
    simp only [sampleState, List.mem_cons, List.not_mem_nil, or_false] at ht
    rcases hbase with rfl | rfl <;> rcases ht with rfl | rfl | rfl
    · exact ⟨0x1000, by decide, by decide⟩
    · exact ⟨0x2000, by decide, by decide⟩
    · exact ⟨0x3000, by decide, by decide⟩
    · exact ⟨0x1000, by decide, by decide⟩
    · exact ⟨0x2000, by decide, by decide⟩
    · exact ⟨0x3000, by decide, by decide⟩
  obtain ⟨n, hn, ht⟩ := hpage
  have hbaseNat : base.toNat = 0 ∨ base.toNat = 2 ^ 56 := by
    rcases hbase with rfl | rfl
    · exact .inl (by decide)
    · exact .inr (by decide)
  refine ⟨by omega, fun k hk => ?_⟩
  have hk' : (t + BitVec.ofNat 64 k).toNat = t.toNat + k := by
    rw [BitVec.toNat_add, BitVec.toNat_ofNat]
    omega
  apply hwritable <;> omega

lemma ran {x : Option Unit × BuilderState} (h : x.1 = some ()) : x = (some (), x.2) := Prod.ext h rfl

lemma sampleMapped_ran : (sampleMapped 0).1 = some () := by decide +kernel

theorem outcome_mapAll_sample : (sampleMapped 0).1 = some () ∧ outcome (AddressTranslator.translate (sampleMapped 0).2.bus
    ⟨true, 0 + 0x1000, false⟩ 0x400008 .read) = .inl 0x8008 := by
  have hroot : createRoot (sampleState 0) = (some (0 + 0x1000), (createRoot (sampleState 0)).2) := Prod.ext rfl rfl
  have hpages : ∀ t ∈ (sampleState 0).allocator, TablePage (sampleState 0).bus t := sampleState_pages (.inl rfl)
  have hbelow : ∀ t ∈ (sampleState 0).allocator.tail, t.toNat < 2 ^ 56 := by
    intro t ht
    change t ∈ [0 + 0x2000, 0 + 0x3000] at ht
    simp only [List.mem_cons, List.not_mem_nil, or_false] at ht
    rcases ht with rfl | rfl <;> decide
  have hvalid : ∀ m ∈ [sampleMapping], m.Valid := List.forall_mem_singleton.mpr sampleMapping_valid
  have htranslate : ∀ s, sampleMapped 0 = (some (), s) →
      outcome (AddressTranslator.translate s.bus ⟨true, 0 + 0x1000, false⟩ 0x400008 .read) = .inl 0x8008 := by
    intro s hmaps
    refine ((outcome_mapAll hpages hbelow (by decide) hvalid hroot hmaps).1 false 0x400008 .read).trans ?_
    decide +kernel
  exact ⟨sampleMapped_ran, htranslate _ (ran sampleMapped_ran)⟩

/-- An odd address is never executed, an address off the canonical halves has a fault of its own, and a table above
2 ^ 56 is not read back. -/
theorem translation_off_mapping :
    ((∀ t ∈ (sampleState 0).allocator, TablePage (sampleState 0).bus t) ∧ (sampleState 0).allocator.Nodup ∧
      (createRoot (sampleState 0)).1 = some 0x1000 ∧ sampleMapping.Valid ∧ (sampleMapped 0).1 = some () ∧
      sampleMapping.covers 0x400001 = true ∧ sampleMapping.allows false .execute = true ∧
      outcome (AddressTranslator.translate (sampleMapped 0).2.bus ⟨true, 0x1000, false⟩ 0x400001 .execute) =
        .inr trapExecAlign ∧
      sampleMapping.covers 0x8000000000 = false ∧
      outcome (AddressTranslator.translate (sampleMapped 0).2.bus ⟨true, 0x1000, false⟩ 0x8000000000 .read) =
        .inr trapPageFaultCanonical) ∧
    ((∀ t ∈ (sampleState 0x100000000000000).allocator, TablePage (sampleState 0x100000000000000).bus t) ∧
      (sampleState 0x100000000000000).allocator.Nodup ∧
      (createRoot (sampleState 0x100000000000000)).1 = some 0x100000000001000 ∧
      (sampleMapped 0x100000000000000).1 = some () ∧
      sampleMapping.covers 0x400008 = true ∧ sampleMapping.allows false .read = true ∧
      outcome (AddressTranslator.translate (sampleMapped 0x100000000000000).2.bus ⟨true, 0x100000000001000, false⟩
        0x400008 .read) = .inr trapPageFaultReserved) := by
  refine ⟨⟨sampleState_pages (.inl rfl), by decide, rfl, sampleMapping_valid, sampleMapped_ran, by decide,
    by decide, by decide +kernel, by decide, by decide +kernel⟩, sampleState_pages (.inr rfl), by decide, rfl, by decide +kernel, by decide, by decide,
    by decide +kernel⟩

end Translations

end PageTableBuilder

end Little64.Emulator

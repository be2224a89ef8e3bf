import Little64.Emulator.MemoryBus

/-! The memory bus with its cached region: every access, wide or not, acts byte by byte, and the cache never shows. -/

namespace Little64.Emulator

open LittleEndian

namespace MemoryBus

variable {bus : MemoryBus} {r q : MemoryRegion} {addr x : Word} {access : AccessType}

/-- The byte writes of a value in order. -/
def writeBytes {w : ℕ} (bus : MemoryBus) (addr : Word) (val : BitVec w) (access : AccessType) : ℕ → MemoryBus
  | 0 => bus
  | n + 1 => (writeBytes bus addr val access n).write8 (addr + BitVec.ofNat 64 n) (byteAt val n) access

lemma writeBytes_congr {w u : ℕ} {val : BitVec w} {val' : BitVec u} {n : ℕ} (h : ∀ i < n, byteAt val i = byteAt val' i) :
    writeBytes bus addr val access n = writeBytes bus addr val' access n := by
  induction n with
  | zero => rfl
  | succ n ih => rw [writeBytes, writeBytes, ih fun i hi => h i (by omega), h n (by omega)]

lemma writeBytes_add {w : ℕ} {val : BitVec w} (n m : ℕ) : writeBytes bus addr val access (n + m) =
    writeBytes (writeBytes bus addr val access n) (addr + BitVec.ofNat 64 n) (val >>> (8 * n)) access m := by
  induction m with
  | zero => rfl
  | succ m ih =>
    rw [← Nat.add_assoc, writeBytes, writeBytes, ih, byteAt_ushiftRight, ByteMemory.offset_add]

lemma write_append {w u v n m : ℕ} {val : BitVec w} {lo : BitVec u} {hi : BitVec v} (hm : n + m ≤ 8)
    (hlo : ∀ i < n, byteAt lo i = byteAt val i) (hhi : ∀ i < m, byteAt hi i = byteAt val (n + i)) :
    (r.write n addr lo).write m (addr + BitVec.ofNat 64 n) hi = r.write (n + m) addr val := by
  unfold MemoryRegion.write
  cases hkind : r.kind with
  | rom => simp only [hkind]
  | ram =>
    simp only
    congr 1
    funext x
    have hoffset : addr + BitVec.ofNat 64 n - r.base = addr - r.base + BitVec.ofNat 64 n := by
      rw [BitVec.sub_eq_add_neg, BitVec.sub_eq_add_neg, BitVec.add_assoc, BitVec.add_comm _ (-r.base), BitVec.add_assoc]
    have happ := ByteMemory.inRange_append (addr - r.base) x n m (by omega)
    have hsub := ByteMemory.offset_sub (addr - r.base) x n (by omega)
    rw [hoffset]
    by_cases hh : ByteMemory.InRange (addr - r.base + BitVec.ofNat 64 n) m x
    · have hl : ¬ (x - (addr - r.base)).toNat < n := by
        intro hl
        rw [ByteMemory.InRange, hsub, if_pos hl] at hh
        omega
      rw [ByteMemory.store_of_inRange _ _ _ _ hh, ByteMemory.store_of_inRange _ _ _ _ (happ.2 (.inr hh)), hhi _ hh, hsub,
        if_neg hl, Nat.add_sub_cancel' (by omega)]
    · rw [ByteMemory.store_of_not_inRange _ _ _ _ hh]
      by_cases hl : ByteMemory.InRange (addr - r.base) n x
      · rw [ByteMemory.store_of_inRange _ _ _ _ hl, ByteMemory.store_of_inRange _ _ _ _ (happ.2 (.inl hl)), hlo _ hl]
      · rw [ByteMemory.store_of_not_inRange _ _ _ _ hl,
          ByteMemory.store_of_not_inRange _ _ _ _ fun h => (happ.1 h).elim hl hh]

lemma write_congr {w u n : ℕ} {val : BitVec w} {val' : BitVec u} (h : ∀ i < n, byteAt val i = byteAt val' i) :
    r.write n addr val = r.write n addr val' := by
  unfold MemoryRegion.write
  split
  · congr 1
    funext x
    by_cases hx : ByteMemory.InRange (addr - r.base) n x
    · rw [ByteMemory.store_of_inRange _ _ _ _ hx, ByteMemory.store_of_inRange _ _ _ _ hx, h _ hx]
    · rw [ByteMemory.store_of_not_inRange _ _ _ _ hx, ByteMemory.store_of_not_inRange _ _ _ _ hx]
  · rfl

lemma ext_regions {bus' : MemoryBus} (h : bus.regions = bus'.regions) : bus = bus' := by
  cases bus
  cases bus'
  cases h
  rfl

lemma regions_writeRegion {w : ℕ} (n : ℕ) (val : BitVec w) : (bus.writeRegion n addr val).regions =
    bus.regions.map fun r => if r.contains addr then r.write n addr val else r := rfl

lemma writeRegion_succ {w n k : ℕ} {val : BitVec w} (h : bus.resolveAccessRange addr n access = some r) (hn : n ≤ 8)
    (hk : k < n) : (bus.writeRegion k addr val).writeRegion 1 (addr + BitVec.ofNat 64 k) (byteAt val k) =
      bus.writeRegion (k + 1) addr val := by
  obtain ⟨hr, hra, hallows⟩ := mem_of_resolve h
  have hrk := contains_of_allows hallows hk hn
  have hregions : ∀ q ∈ bus.regions,
      (if (if q.contains addr then q.write k addr val else q).contains (addr + BitVec.ofNat 64 k) then
        (if q.contains addr then q.write k addr val else q).write 1 (addr + BitVec.ofNat 64 k) (byteAt val k)
      else if q.contains addr then q.write k addr val else q) =
      if q.contains addr then q.write (k + 1) addr val else q := by
    intro q hq
    rw [contains_writeRegion]
    by_cases hqa : q.contains addr
    · obtain rfl := eq_of_contains hq hr hqa hra
      rw [if_pos hrk, if_pos hqa, if_pos hqa]
      apply write_append (by omega)
      · intro i _
        rfl
      · intro i hi
        obtain rfl : i = 0 := by omega
        exact byteAt_zero _
    · have hqk : ¬ q.contains (addr + BitVec.ofNat 64 k) := by
        intro hqk
        obtain rfl := eq_of_contains hq hr hqk hrk
        exact hqa hra
      rw [if_neg hqk, if_neg hqa, if_neg hqa]
  apply ext_regions
  rw [regions_writeRegion, regions_writeRegion, regions_writeRegion, List.map_map]
  exact List.map_congr_left hregions

lemma writeRegion_eq {w n k : ℕ} {val : BitVec w} (h : bus.resolveAccessRange addr n access = some r) (hn : n ≤ 8)
    (hk : k < n) : bus.writeRegion (k + 1) addr val = bus.writeBytes addr val access (k + 1) := by
  induction k with
  | zero =>
    rw [writeBytes, writeBytes, write8, BitVec.add_zero]
    have hbyte := resolve_byte h hk hn
    rw [BitVec.add_zero] at hbyte
    rw [hbyte]
    apply ext_regions
    rw [regions_writeRegion, regions_writeRegion]
    apply List.map_congr_left
    intro q _
    split
    · exact write_congr fun i hi => by
        obtain rfl : i = 0 := by omega
        exact (byteAt_zero _).symm
    · rfl
  | succ k ih =>
    rw [writeBytes, ← ih (by omega), write8, resolve_writeRegion, resolve_byte h hk hn, Option.map_some]
    exact (writeRegion_succ h hn hk).symm

lemma write8_bytes (bus : MemoryBus) (addr : Word) (val : BitVec 8) (access : AccessType) :
    bus.write8 addr val access = bus.writeBytes addr val access 1 := by
  rw [writeBytes, writeBytes, byteAt_zero, BitVec.add_zero]

lemma write16_bytes (bus : MemoryBus) (addr : Word) (val : BitVec 16) (access : AccessType) :
    bus.write16 addr val access = bus.writeBytes addr val access 2 := by
  rw [write16]
  split
  · rename_i r h
    exact writeRegion_eq (k := 1) h (by decide) (by decide)
  · rw [writeBytes_add 1 1, write8_bytes, write8_bytes]
    have hlow : bus.writeBytes addr (val.setWidth 8) access 1 = bus.writeBytes addr val access 1 :=
      writeBytes_congr fun i hi => byteAt_setWidth val i (by omega)
    rw [hlow]
    exact writeBytes_congr fun i hi => byteAt_setWidth _ i (by omega)

lemma write32_bytes (bus : MemoryBus) (addr : Word) (val : BitVec 32) (access : AccessType) :
    bus.write32 addr val access = bus.writeBytes addr val access 4 := by
  rw [write32]
  split
  · rename_i r h
    exact writeRegion_eq (k := 3) h (by decide) (by decide)
  · rw [writeBytes_add 2 2, write16_bytes, write16_bytes]
    have hlow : bus.writeBytes addr (val.setWidth 16) access 2 = bus.writeBytes addr val access 2 :=
      writeBytes_congr fun i hi => byteAt_setWidth val i (by omega)
    rw [hlow]
    exact writeBytes_congr fun i hi => byteAt_setWidth _ i (by omega)

/-- A wide write does what its byte writes do, one after another, also where a byte falls outside every region. -/
lemma write64_bytes (bus : MemoryBus) (addr : Word) (val : BitVec 64) (access : AccessType) :
    bus.write64 addr val access = bus.writeBytes addr val access 8 := by
  rw [write64]
  split
  · rename_i r h
    exact writeRegion_eq (k := 7) h (by decide) (by decide)
  · rw [writeBytes_add 4 4, write32_bytes, write32_bytes]
    have hlow : bus.writeBytes addr (val.setWidth 32) access 4 = bus.writeBytes addr val access 4 :=
      writeBytes_congr fun i hi => byteAt_setWidth val i (by omega)
    rw [hlow]
    exact writeBytes_congr fun i hi => byteAt_setWidth _ i (by omega)

/-- The region at a place of the list is written through; the others stay. -/
def writeAt {w : ℕ} (bus : MemoryBus) (i n : ℕ) (addr : Word) (val : BitVec w) : MemoryBus where
  regions := bus.regions.modify i fun r => r.write n addr val
  disjoint := by
    rw [List.pairwise_iff_getElem]
    intro a b ha hb hab
    rw [List.length_modify] at ha hb
    have hd := List.pairwise_iff_getElem.mp bus.disjoint a b ha hb hab
    rw [List.getElem_modify, List.getElem_modify]
    split <;> split <;> simpa only [MemoryRegion.overlaps_write_left, MemoryRegion.overlaps_write_right] using hd

/-- Drops the region at a place of the list. -/
def eraseRegion (bus : MemoryBus) (i : ℕ) : MemoryBus where
  regions := bus.regions.eraseIdx i
  disjoint := bus.disjoint.sublist (List.eraseIdx_sublist ..)

lemma contains_getElem_inj {i j : ℕ} {p q : MemoryRegion} (hp : bus.regions[i]? = some p) (hq : bus.regions[j]? = some q)
    (hpx : p.contains x) (hqx : q.contains x) : i = j := by
  obtain ⟨hi, rfl⟩ := List.getElem?_eq_some_iff.mp hp
  obtain ⟨hj, rfl⟩ := List.getElem?_eq_some_iff.mp hq
  have ho : bus.regions[i].overlaps bus.regions[j] = true ∧ bus.regions[j].overlaps bus.regions[i] = true := by
    simp only [MemoryRegion.contains, MemoryRegion.overlaps, Bool.and_eq_true, decide_eq_true_eq] at hpx hqx ⊢
    refine ⟨⟨?_, ?_⟩, ?_, ?_⟩ <;> bv_omega
  have hd := List.pairwise_iff_getElem.mp bus.disjoint
  rcases Nat.lt_trichotomy i j with h | h | h
  · exact absurd ho.1 (by rw [hd i j hi hj h]; decide)
  · exact h
  · exact absurd ho.2 (by rw [hd j i hj hi h]; decide)

lemma writeAt_eq {w i n : ℕ} {val : BitVec w} (hr : bus.regions[i]? = some r) (hra : r.contains addr) :
    bus.writeAt i n addr val = bus.writeRegion n addr val := by
  apply ext_regions
  change bus.regions.modify i _ = _
  rw [regions_writeRegion]
  apply List.ext_getElem
  · rw [List.length_modify, List.length_map]
  · intro j hj _
    rw [List.length_modify] at hj
    rw [List.getElem_modify, List.getElem_map]
    have hjr : bus.regions[j]? = some bus.regions[j] := List.getElem?_eq_getElem hj
    by_cases hij : i = j
    · subst hij
      rw [hr] at hjr
      cases hjr
      rw [if_pos rfl, if_pos hra]
    · have hout : ¬ bus.regions[j].contains addr := by
        intro hc
        exact hij (contains_getElem_inj hr hjr hra hc)
      rw [if_neg hij, if_neg hout]

end MemoryBus

/-- The regions of a bus with their names, in the order they were added. -/
structure NamedBus where
  names : List String
  memory : MemoryBus

namespace NamedBus

def empty : NamedBus := ⟨[], MemoryBus.empty⟩

def addRegion (bus : NamedBus) (name : String) (region : MemoryRegion) : Option NamedBus :=
  (bus.memory.addRegion region).map fun memory => ⟨bus.names ++ [name], memory⟩

def removeRegion (bus : NamedBus) (name : String) : NamedBus :=
  match bus.names.findIdx? (· == name) with
  | some i => ⟨bus.names.eraseIdx i, bus.memory.eraseRegion i⟩
  | none => bus

end NamedBus

/-- The bus as it runs: beside the regions, the one found last and the addresses it was found for. -/
structure CachedBus extends NamedBus where
  cachedRegion : Option ℕ
  cachedBase : Word
  cachedEnd : Word

namespace CachedBus

def invalidateCache (bus : NamedBus) : CachedBus :=
  { bus with cachedRegion := none, cachedBase := 0, cachedEnd := 0 }

def empty : CachedBus := invalidateCache NamedBus.empty

def addRegion (bus : CachedBus) (name : String) (region : MemoryRegion) : Option CachedBus :=
  (bus.toNamedBus.addRegion name region).map invalidateCache

def removeRegion (bus : CachedBus) (name : String) : CachedBus :=
  match bus.names.findIdx? (· == name) with
  | some i => invalidateCache ⟨bus.names.eraseIdx i, bus.memory.eraseRegion i⟩
  | none => bus

def clearRegions (_ : CachedBus) : CachedBus := invalidateCache NamedBus.empty

def findRegion (addr : Word) : StateM CachedBus (Option ℕ) := fun bus =>
  if bus.cachedBase ≤ addr ∧ addr < bus.cachedEnd then (bus.cachedRegion, bus)
  else
    match bus.memory.regions.zipIdx.find? fun p => p.1.contains addr with
    | some (r, i) => (some i, { bus with cachedRegion := some i, cachedBase := r.base, cachedEnd := r.endAddr })
    | none => (none, bus)

def resolveAccessRange (addr : Word) (width : ℕ) (access : AccessType) : StateM CachedBus (Option ℕ) := do
  if width = 0 then return none
  if 2 ^ 64 - 1 - addr.toNat < width - 1 then return none
  let r ← findRegion addr
  let bus ← get
  return r.filter fun i => bus.memory.regions[i]?.any fun r => r.allows addr width access

/-- What is read through the pointer to a region; a stale pointer would have nothing to read. -/
def readAt (i w n : ℕ) (addr : Word) : StateM CachedBus (BitVec w) := do
  let bus ← get
  return bus.memory.regions[i]?.elim 0 fun r => r.read w n addr

def writeAt {w : ℕ} (i n : ℕ) (addr : Word) (val : BitVec w) : StateM CachedBus Unit :=
  modify fun bus => { bus with memory := bus.memory.writeAt i n addr val }

def read8 (addr : Word) (access : AccessType) : StateM CachedBus (BitVec 8) := do
  match ← resolveAccessRange addr 1 access with
  | none => return 0xFF
  | some r => readAt r 8 1 addr

def write8 (addr : Word) (val : BitVec 8) (access : AccessType) : StateM CachedBus Unit := do
  match ← resolveAccessRange addr 1 access with
  | none => return
  | some r => writeAt r 1 addr val

def read16 (addr : Word) (access : AccessType) : StateM CachedBus (BitVec 16) := do
  match ← resolveAccessRange addr 2 access with
  | some r => readAt r 16 2 addr
  | none =>
    let low ← read8 addr access
    let high ← read8 (addr + 1) access
    return low.setWidth 16 ||| (high.setWidth 16 <<< 8)

def write16 (addr : Word) (val : BitVec 16) (access : AccessType) : StateM CachedBus Unit := do
  match ← resolveAccessRange addr 2 access with
  | some r => writeAt r 2 addr val
  | none =>
    write8 addr (val.setWidth 8) access
    write8 (addr + 1) ((val >>> 8).setWidth 8) access

def read32 (addr : Word) (access : AccessType) : StateM CachedBus (BitVec 32) := do
  match ← resolveAccessRange addr 4 access with
  | some r => readAt r 32 4 addr
  | none =>
    let low ← read16 addr access
    let high ← read16 (addr + 2) access
    return low.setWidth 32 ||| (high.setWidth 32 <<< 16)

def write32 (addr : Word) (val : BitVec 32) (access : AccessType) : StateM CachedBus Unit := do
  match ← resolveAccessRange addr 4 access with
  | some r => writeAt r 4 addr val
  | none =>
    write16 addr (val.setWidth 16) access
    write16 (addr + 2) ((val >>> 16).setWidth 16) access

def read64 (addr : Word) (access : AccessType) : StateM CachedBus (BitVec 64) := do
  match ← resolveAccessRange addr 8 access with
  | some r => readAt r 64 8 addr
  | none =>
    let low ← read32 addr access
    let high ← read32 (addr + 4) access
    return low.setWidth 64 ||| (high.setWidth 64 <<< 32)

def write64 (addr : Word) (val : BitVec 64) (access : AccessType) : StateM CachedBus Unit := do
  match ← resolveAccessRange addr 8 access with
  | some r => writeAt r 8 addr val
  | none =>
    write32 addr (val.setWidth 32) access
    write32 (addr + 4) ((val >>> 32).setWidth 32) access

/-- Every address the cache answers for lies in the region it names. -/
def CacheOk (bus : CachedBus) : Prop :=
  ∀ addr, bus.cachedBase ≤ addr → addr < bus.cachedEnd →
    ∃ i r, bus.cachedRegion = some i ∧ bus.memory.regions[i]? = some r ∧ r.contains addr

/-- A computation of the cached bus that returns `a`, leaves the regions as `next` and keeps the cache true. -/
def Yields {α : Type} (m : StateM CachedBus α) (bus : CachedBus) (a : α) (next : NamedBus) : Prop :=
  (m bus).1 = a ∧ (m bus).2.toNamedBus = next ∧ (m bus).2.CacheOk

variable {α β : Type} {bus : CachedBus} {next last : NamedBus} {addr : Word} {access : AccessType}

lemma Yields.pure (hok : bus.CacheOk) (a : α) : Yields (Pure.pure a) bus a bus.toNamedBus := ⟨rfl, rfl, hok⟩

lemma Yields.bind {m : StateM CachedBus α} {f : α → StateM CachedBus β} {a : α} {b : β} (hm : Yields m bus a next)
    (hf : ∀ bus' : CachedBus, bus'.toNamedBus = next → bus'.CacheOk → Yields (f a) bus' b last) :
    Yields (m >>= f) bus b last := by
  obtain ⟨rfl, hnext, hok⟩ := hm
  exact hf (m bus).2 hnext hok

lemma findRegion_yields (hok : bus.CacheOk) (addr : Word) : ∃ i, Yields (findRegion addr) bus i bus.toNamedBus ∧
    (i.bind fun i => bus.memory.regions[i]?) = bus.memory.findRegion addr ∧
    ∀ j ∈ i, ∃ r, bus.memory.regions[j]? = some r ∧ r.contains addr := by
  by_cases hhit : bus.cachedBase ≤ addr ∧ addr < bus.cachedEnd
  · obtain ⟨i, r, hi, hr, hra⟩ := hok addr hhit.1 hhit.2
    refine ⟨some i, ⟨?_, ?_, ?_⟩, ?_, ?_⟩
    · rw [findRegion, if_pos hhit]
      exact hi
    · rw [findRegion, if_pos hhit]
    · rw [findRegion, if_pos hhit]
      exact hok
    · rw [Option.bind_some, hr, MemoryBus.findRegion_eq (List.mem_of_getElem? hr) hra]
    · intro j hj
      cases hj
      exact ⟨r, hr, hra⟩
  · cases hfind : bus.memory.regions.zipIdx.find? fun p => p.1.contains addr with
    | none =>
      have hmiss : bus.memory.findRegion addr = none := by
        rw [MemoryBus.findRegion, List.find?_eq_none]
        intro r hr
        obtain ⟨i, hi⟩ := List.getElem?_of_mem hr
        exact List.find?_eq_none.mp hfind (r, i) (List.mk_mem_zipIdx_iff_getElem?.mpr hi)
      refine ⟨none, ⟨?_, ?_, ?_⟩, hmiss.symm, by rintro j ⟨⟩⟩
      · rw [findRegion, if_neg hhit, hfind]
      · rw [findRegion, if_neg hhit, hfind]
      · rw [findRegion, if_neg hhit, hfind]
        exact hok
    | some p =>
      obtain ⟨r, i⟩ := p
      have hr : bus.memory.regions[i]? = some r := List.mk_mem_zipIdx_iff_getElem?.mp (List.mem_of_find?_eq_some hfind)
      have hra : r.contains addr := (List.find?_eq_some_iff_append.mp hfind).1
      refine ⟨some i, ⟨?_, ?_, ?_⟩, ?_, ?_⟩
      · rw [findRegion, if_neg hhit, hfind]
      · rw [findRegion, if_neg hhit, hfind]
      · rw [findRegion, if_neg hhit, hfind]
        intro x hbase hend
        refine ⟨i, r, rfl, hr, ?_⟩
        rw [MemoryRegion.contains, decide_eq_true hbase, decide_eq_true hend]
        rfl
      · rw [Option.bind_some, hr, MemoryBus.findRegion_eq (List.mem_of_getElem? hr) hra]
      · intro j hj
        cases hj
        exact ⟨r, hr, hra⟩

/-- The range check of the cached bus leaves a pointer exactly where the plain bus finds a region. -/
lemma resolve_yields (hok : bus.CacheOk) (addr : Word) (width : ℕ) (access : AccessType) :
    ∃ i, Yields (resolveAccessRange addr width access) bus i bus.toNamedBus ∧
      (i.bind fun i => bus.memory.regions[i]?) = bus.memory.resolveAccessRange addr width access ∧
      ∀ j ∈ i, ∃ r, bus.memory.regions[j]? = some r ∧ r.contains addr := by
  unfold resolveAccessRange MemoryBus.resolveAccessRange
  by_cases hw : width = 0
  · refine ⟨none, ?_, ?_, by rintro j ⟨⟩⟩
    · rw [if_pos hw]
      exact Yields.pure hok _
    · rw [if_pos hw]
      rfl
  by_cases hlast : 2 ^ 64 - 1 - addr.toNat < width - 1
  · refine ⟨none, ?_, ?_, by rintro j ⟨⟩⟩
    · rw [if_neg hw, if_pos hlast]
      exact Yields.pure hok _
    · rw [if_neg hw, if_pos hlast]
      rfl
  obtain ⟨i, hi, hbind, hmem⟩ := findRegion_yields hok addr
  refine ⟨i.filter fun i => bus.memory.regions[i]?.any fun r => r.allows addr width access, ?_, ?_, ?_⟩
  · rw [if_neg hw, if_neg hlast]
    refine hi.bind fun bus' hbus hok' => ⟨?_, hbus, hok'⟩
    rw [← hbus]
    rfl
  · rw [if_neg hw, if_neg hlast, ← hbind]
    cases i with
    | none => rfl
    | some j =>
      obtain ⟨r, hr, _⟩ := hmem j rfl
      rw [Option.bind_some, hr, Option.filter_some, Option.filter_some, hr, Option.any_some]
      split
      · exact hr
      · rfl
  · intro j hj
    exact hmem j (Option.filter_eq_some_iff.mp hj).1

lemma readAt_yields {r : MemoryRegion} {i : ℕ} (hok : bus.CacheOk) (hr : bus.memory.regions[i]? = some r) (w n : ℕ)
    (addr : Word) : Yields (readAt i w n addr) bus (r.read w n addr) bus.toNamedBus := by
  refine ⟨?_, rfl, hok⟩
  change bus.memory.regions[i]?.elim 0 (fun r => r.read w n addr) = r.read w n addr
  rw [hr, Option.elim_some]

lemma writeAt_yields {r : MemoryRegion} {i w : ℕ} (hok : bus.CacheOk) (hr : bus.memory.regions[i]? = some r)
    (hra : r.contains addr) (n : ℕ) (val : BitVec w) : Yields (writeAt i n addr val) bus ()
      { bus.toNamedBus with memory := bus.memory.writeRegion n addr val } := by
  refine ⟨rfl, ?_, ?_⟩
  · change ({ bus.toNamedBus with memory := bus.memory.writeAt i n addr val } : NamedBus) = _
    rw [MemoryBus.writeAt_eq hr hra]
  · intro x hbase hend
    obtain ⟨j, q, hj, hq, hqx⟩ := hok x hbase hend
    refine ⟨j, if i = j then q.write n addr val else q, hj, ?_, ?_⟩
    · change (bus.memory.regions.modify i _)[j]? = _
      rw [List.getElem?_modify, hq]
      split <;> rfl
    · split
      · rw [MemoryRegion.contains, MemoryRegion.write_base, MemoryRegion.write_endAddr]
        exact hqx
      · exact hqx

/-- An access that goes through the region found, or else another way, as the plain bus decides. -/
lemma resolve_bind {f : Option ℕ → StateM CachedBus α} {width : ℕ} {a : α} (hok : bus.CacheOk)
    (hhit : ∀ (bus' : CachedBus) (i : ℕ) (r : MemoryRegion), bus'.toNamedBus = bus.toNamedBus → bus'.CacheOk →
      bus.memory.resolveAccessRange addr width access = some r → bus'.memory.regions[i]? = some r → r.contains addr →
      Yields (f (some i)) bus' a last)
    (hmiss : ∀ bus' : CachedBus, bus'.toNamedBus = bus.toNamedBus → bus'.CacheOk →
      bus.memory.resolveAccessRange addr width access = none → Yields (f none) bus' a last) :
    Yields (resolveAccessRange addr width access >>= f) bus a last := by
  obtain ⟨i, hi, hbind, hmem⟩ := resolve_yields hok addr width access
  apply hi.bind
  intro bus' hbus hok'
  cases i with
  | none => exact hmiss bus' hbus hok' hbind.symm
  | some j =>
    obtain ⟨r, hr, hra⟩ := hmem j rfl
    rw [Option.bind_some, hr] at hbind
    rw [← hbus] at hr
    exact hhit bus' j r hbus hok' hbind.symm hr hra

lemma read8_yields (hok : bus.CacheOk) (addr : Word) (access : AccessType) :
    Yields (read8 addr access) bus (bus.memory.read8 addr access) bus.toNamedBus := by
  apply resolve_bind hok
  · intro bus' i r hbus hok' hres hr _
    rw [MemoryBus.read8, hres, ← hbus]
    exact readAt_yields hok' hr 8 1 addr
  · intro bus' hbus hok' hres
    rw [MemoryBus.read8, hres, ← hbus]
    exact Yields.pure hok' _

lemma write8_yields (hok : bus.CacheOk) (addr : Word) (val : BitVec 8) (access : AccessType) :
    Yields (write8 addr val access) bus () { bus.toNamedBus with memory := bus.memory.write8 addr val access } := by
  apply resolve_bind hok
  · intro bus' i r hbus hok' hres hr hra
    rw [MemoryBus.write8, hres, ← hbus]
    exact writeAt_yields hok' hr hra 1 val
  · intro bus' hbus hok' hres
    rw [MemoryBus.write8, hres, ← hbus]
    exact Yields.pure hok' _

lemma read16_yields (hok : bus.CacheOk) (addr : Word) (access : AccessType) :
    Yields (read16 addr access) bus (bus.memory.read16 addr access) bus.toNamedBus := by
  apply resolve_bind hok
  · intro bus' i r hbus hok' hres hr _
    rw [MemoryBus.read16, hres, ← hbus]
    exact readAt_yields hok' hr 16 2 addr
  · intro bus' hbus hok' hres
    rw [MemoryBus.read16, hres, ← hbus]
    refine (read8_yields hok' addr access).bind fun bus₁ hbus₁ hok₁ => ?_
    rw [← hbus₁]
    exact (read8_yields hok₁ (addr + 1) access).bind fun bus₂ hbus₂ hok₂ => hbus₂ ▸ Yields.pure hok₂ _

lemma write16_yields (hok : bus.CacheOk) (addr : Word) (val : BitVec 16) (access : AccessType) :
    Yields (write16 addr val access) bus () { bus.toNamedBus with memory := bus.memory.write16 addr val access } := by
  apply resolve_bind hok
  · intro bus' i r hbus hok' hres hr hra
    rw [MemoryBus.write16, hres, ← hbus]
    exact writeAt_yields hok' hr hra 2 val
  · intro bus' hbus hok' hres
    rw [MemoryBus.write16, hres, ← hbus]
    refine (write8_yields hok' addr _ access).bind fun bus₁ hbus₁ hok₁ => ?_
    have hwrite := write8_yields hok₁ (addr + 1) ((val >>> 8).setWidth 8) access
    rw [hbus₁] at hwrite
    exact hwrite

lemma read32_yields (hok : bus.CacheOk) (addr : Word) (access : AccessType) :
    Yields (read32 addr access) bus (bus.memory.read32 addr access) bus.toNamedBus := by
  apply resolve_bind hok
  · intro bus' i r hbus hok' hres hr _
    rw [MemoryBus.read32, hres, ← hbus]
    exact readAt_yields hok' hr 32 4 addr
  · intro bus' hbus hok' hres
    rw [MemoryBus.read32, hres, ← hbus]
    refine (read16_yields hok' addr access).bind fun bus₁ hbus₁ hok₁ => ?_
    rw [← hbus₁]
    exact (read16_yields hok₁ (addr + 2) access).bind fun bus₂ hbus₂ hok₂ => hbus₂ ▸ Yields.pure hok₂ _

lemma write32_yields (hok : bus.CacheOk) (addr : Word) (val : BitVec 32) (access : AccessType) :
    Yields (write32 addr val access) bus () { bus.toNamedBus with memory := bus.memory.write32 addr val access } := by
  apply resolve_bind hok
  · intro bus' i r hbus hok' hres hr hra
    rw [MemoryBus.write32, hres, ← hbus]
    exact writeAt_yields hok' hr hra 4 val
  · intro bus' hbus hok' hres
    rw [MemoryBus.write32, hres, ← hbus]
    refine (write16_yields hok' addr _ access).bind fun bus₁ hbus₁ hok₁ => ?_
    have hwrite := write16_yields hok₁ (addr + 2) ((val >>> 16).setWidth 16) access
    rw [hbus₁] at hwrite
    exact hwrite

lemma read64_yields (hok : bus.CacheOk) (addr : Word) (access : AccessType) :
    Yields (read64 addr access) bus (bus.memory.read64 addr access) bus.toNamedBus := by
  apply resolve_bind hok
  · intro bus' i r hbus hok' hres hr _
    rw [MemoryBus.read64, hres, ← hbus]
    exact readAt_yields hok' hr 64 8 addr
  · intro bus' hbus hok' hres
    rw [MemoryBus.read64, hres, ← hbus]
    refine (read32_yields hok' addr access).bind fun bus₁ hbus₁ hok₁ => ?_
    rw [← hbus₁]
    exact (read32_yields hok₁ (addr + 4) access).bind fun bus₂ hbus₂ hok₂ => hbus₂ ▸ Yields.pure hok₂ _

lemma write64_yields (hok : bus.CacheOk) (addr : Word) (val : BitVec 64) (access : AccessType) :
    Yields (write64 addr val access) bus () { bus.toNamedBus with memory := bus.memory.write64 addr val access } := by
  apply resolve_bind hok
  · intro bus' i r hbus hok' hres hr hra
    rw [MemoryBus.write64, hres, ← hbus]
    exact writeAt_yields hok' hr hra 8 val
  · intro bus' hbus hok' hres
    rw [MemoryBus.write64, hres, ← hbus]
    refine (write32_yields hok' addr _ access).bind fun bus₁ hbus₁ hok₁ => ?_
    have hwrite := write32_yields hok₁ (addr + 4) ((val >>> 32).setWidth 32) access
    rw [hbus₁] at hwrite
    exact hwrite

end CachedBus

inductive BusOp
  | read8 (addr : Word) (access : AccessType)
  | read16 (addr : Word) (access : AccessType)
  | read32 (addr : Word) (access : AccessType)
  | read64 (addr : Word) (access : AccessType)
  | write8 (addr : Word) (val : BitVec 8) (access : AccessType)
  | write16 (addr : Word) (val : BitVec 16) (access : AccessType)
  | write32 (addr : Word) (val : BitVec 32) (access : AccessType)
  | write64 (addr : Word) (val : BitVec 64) (access : AccessType)
  | addRegion (name : String) (region : MemoryRegion)
  | removeRegion (name : String)
  | clearRegions

inductive BusResult
  | value (w : ℕ) (v : BitVec w)
  | done
  | refused

namespace CachedBus

def perform : BusOp → StateM CachedBus BusResult
  | .read8 addr access => .value 8 <$> read8 addr access
  | .read16 addr access => .value 16 <$> read16 addr access
  | .read32 addr access => .value 32 <$> read32 addr access
  | .read64 addr access => .value 64 <$> read64 addr access
  | .write8 addr val access => (fun _ => .done) <$> write8 addr val access
  | .write16 addr val access => (fun _ => .done) <$> write16 addr val access
  | .write32 addr val access => (fun _ => .done) <$> write32 addr val access
  | .write64 addr val access => (fun _ => .done) <$> write64 addr val access
  | .addRegion name region => fun bus =>
    match bus.addRegion name region with
    | some bus' => (.done, bus')
    | none => (.refused, bus)
  | .removeRegion name => fun bus => (.done, bus.removeRegion name)
  | .clearRegions => fun bus => (.done, bus.clearRegions)

def run (ops : List BusOp) : StateM CachedBus (List BusResult) := ops.mapM perform

end CachedBus

namespace NamedBus

/-- What each operation does in terms of single bytes and of the list of regions alone. -/
def perform : BusOp → StateM NamedBus BusResult
  | .read8 addr access => fun bus => (.value 8 (bus.memory.read8 addr access), bus)
  | .read16 addr access => readBytes 16 2 addr access
  | .read32 addr access => readBytes 32 4 addr access
  | .read64 addr access => readBytes 64 8 addr access
  | .write8 addr val access => fun bus => (.done, { bus with memory := bus.memory.write8 addr val access })
  | .write16 addr val access => writeBytes addr val access 2
  | .write32 addr val access => writeBytes addr val access 4
  | .write64 addr val access => writeBytes addr val access 8
  | .addRegion name region => fun bus =>
    match bus.addRegion name region with
    | some bus' => (.done, bus')
    | none => (.refused, bus)
  | .removeRegion name => fun bus => (.done, bus.removeRegion name)
  | .clearRegions => fun _ => (.done, empty)
where
  readBytes (w n : ℕ) (addr : Word) (access : AccessType) : StateM NamedBus BusResult := fun bus =>
    (.value w (assemble w (fun i => bus.memory.read8 (addr + BitVec.ofNat 64 i) access) n), bus)
  writeBytes {w : ℕ} (addr : Word) (val : BitVec w) (access : AccessType) (n : ℕ) : StateM NamedBus BusResult :=
    fun bus => (.done, { bus with memory := bus.memory.writeBytes addr val access n })

def run (ops : List BusOp) : StateM NamedBus (List BusResult) := ops.mapM perform

end NamedBus

namespace CachedBus

variable {α β : Type} {bus : CachedBus} {next : NamedBus}

lemma invalidateCache_ok (bus : NamedBus) : (invalidateCache bus).CacheOk := by
  intro addr hbase hend
  exact absurd hend (BitVec.not_lt_zero)

lemma Yields.map {m : StateM CachedBus α} {a : α} (f : α → β) (h : Yields m bus a next) :
    Yields (f <$> m) bus (f a) next := by
  obtain ⟨rfl, hnext, hok⟩ := h
  exact ⟨rfl, hnext, hok⟩

/-- One operation answers as its bytes do, leaves the regions they leave, and keeps the cache true. -/
lemma perform_yields (hok : bus.CacheOk) (op : BusOp) :
    Yields (perform op) bus (NamedBus.perform op bus.toNamedBus).1 (NamedBus.perform op bus.toNamedBus).2 := by
  cases op with
  | read8 addr access => exact (read8_yields hok addr access).map _
  | read16 addr access =>
    rw [NamedBus.perform, NamedBus.perform.readBytes, ← MemoryBus.read16_bytes]
    exact (read16_yields hok addr access).map _
  | read32 addr access =>
    rw [NamedBus.perform, NamedBus.perform.readBytes, ← MemoryBus.read32_bytes]
    exact (read32_yields hok addr access).map _
  | read64 addr access =>
    rw [NamedBus.perform, NamedBus.perform.readBytes, ← MemoryBus.read64_bytes]
    exact (read64_yields hok addr access).map _
  | write8 addr val access => exact (write8_yields hok addr val access).map _
  | write16 addr val access =>
    rw [NamedBus.perform, NamedBus.perform.writeBytes, ← MemoryBus.write16_bytes]
    exact (write16_yields hok addr val access).map _
  | write32 addr val access =>
    rw [NamedBus.perform, NamedBus.perform.writeBytes, ← MemoryBus.write32_bytes]
    exact (write32_yields hok addr val access).map _
  | write64 addr val access =>
    rw [NamedBus.perform, NamedBus.perform.writeBytes, ← MemoryBus.write64_bytes]
    exact (write64_yields hok addr val access).map _
  | addRegion name region =>
    simp only [Yields, perform, NamedBus.perform, addRegion]
    cases bus.toNamedBus.addRegion name region with
    | none => exact ⟨rfl, rfl, hok⟩
    | some bus' => exact ⟨rfl, rfl, invalidateCache_ok bus'⟩
  | removeRegion name =>
    simp only [Yields, perform, NamedBus.perform, removeRegion, NamedBus.removeRegion]
    cases bus.names.findIdx? (· == name) with
    | none => exact ⟨trivial, rfl, hok⟩
    | some i => exact ⟨trivial, rfl, invalidateCache_ok _⟩
  | clearRegions => exact ⟨rfl, rfl, invalidateCache_ok _⟩

lemma run_yields (hok : bus.CacheOk) (ops : List BusOp) :
    Yields (run ops) bus (NamedBus.run ops bus.toNamedBus).1 (NamedBus.run ops bus.toNamedBus).2 := by
  induction ops generalizing bus with
  | nil => exact Yields.pure hok _
  | cons op ops ih =>
    rw [run, List.mapM_cons, NamedBus.run, List.mapM_cons]
    apply (perform_yields hok op).bind
    intro bus' hbus hok'
    have hrest := ih hok'
    rw [hbus] at hrest
    exact hrest.map _

/-- Whatever is accessed, added and removed in whatever order, every answer is the one the single bytes give, and the
regions end up as the byte writes leave them. -/
theorem run_eq_bytes (ops : List BusOp) : (run ops empty).1 = (NamedBus.run ops NamedBus.empty).1 ∧
    (run ops empty).2.toNamedBus = (NamedBus.run ops NamedBus.empty).2 := by
  obtain ⟨hout, hnext, -⟩ := run_yields (invalidateCache_ok NamedBus.empty) ops
  exact ⟨hout, hnext⟩

end CachedBus

end Little64.Emulator

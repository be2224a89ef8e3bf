import Little64.Library.ByteMemory
import Little64.Emulator.Vectors

/-! The physical memory bus: non-overlapping RAM and ROM regions, accessed
whole when one region allows it and byte by byte otherwise. -/

namespace Little64.Emulator

open LittleEndian

inductive RegionKind
  | ram
  | rom
  deriving DecidableEq, Repr

structure MemoryRegion where
  base : Word
  size : Word
  kind : RegionKind
  data : ByteMemory.Memory 64

namespace MemoryRegion

variable (r q : MemoryRegion)

def endAddr : Word := r.base + r.size

def contains (addr : Word) : Bool := decide (r.base ≤ addr) && decide (addr < r.endAddr)

def overlaps : Bool := decide (r.base < q.endAddr) && decide (q.base < r.endAddr)

def allows (addr : Word) (width : ℕ) (access : AccessType) : Bool :=
  decide (width ≠ 0) && decide (r.base ≤ addr) && decide (width - 1 ≤ 2 ^ 64 - 1 - addr.toNat) &&
    decide (addr + BitVec.ofNat 64 width - 1 < r.endAddr) && (r.kind == .ram || access != .write)

def read (w n : ℕ) (addr : Word) : BitVec w := ByteMemory.load w r.data (addr - r.base) n

/-- Writes to a read-only region are silently ignored. -/
def write {w : ℕ} (n : ℕ) (addr : Word) (val : BitVec w) : MemoryRegion :=
  match r.kind with
  | .ram => { r with data := ByteMemory.store r.data (addr - r.base) n val }
  | .rom => r

@[simp] lemma write_base {w : ℕ} (n : ℕ) (addr : Word) (val : BitVec w) : (r.write n addr val).base = r.base := by
  unfold write; split <;> rfl

@[simp] lemma write_endAddr {w : ℕ} (n : ℕ) (addr : Word) (val : BitVec w) :
    (r.write n addr val).endAddr = r.endAddr := by
  unfold write; split <;> rfl

lemma overlaps_write_left {w : ℕ} (n : ℕ) (addr : Word) (val : BitVec w) :
    (r.write n addr val).overlaps q = r.overlaps q := by
  unfold write; split <;> rfl

lemma overlaps_write_right {w : ℕ} (n : ℕ) (addr : Word) (val : BitVec w) :
    r.overlaps (q.write n addr val) = r.overlaps q := by
  unfold write; split <;> rfl

end MemoryRegion

structure MemoryBus where
  regions : List MemoryRegion
  disjoint : regions.Pairwise fun r q => r.overlaps q = false

namespace MemoryBus

open MemoryRegion

def empty : MemoryBus := ⟨[], .nil⟩

/-- Refuses a region that overlaps one already there. -/
def addRegion (bus : MemoryBus) (region : MemoryRegion) : Option MemoryBus :=
  if h : ∀ r ∈ bus.regions, r.overlaps region = false then
    some ⟨bus.regions ++ [region], List.pairwise_append.mpr
      ⟨bus.disjoint, List.pairwise_singleton _ _, fun r hr q hq => by
        rw [List.mem_singleton.mp hq]; exact h r hr⟩⟩
  else none

def findRegion (bus : MemoryBus) (addr : Word) : Option MemoryRegion :=
  bus.regions.find? fun r => r.contains addr

def resolveAccessRange (bus : MemoryBus) (addr : Word) (width : ℕ) (access : AccessType) :
    Option MemoryRegion :=
  if width = 0 then none
  else if 2 ^ 64 - 1 - addr.toNat < width - 1 then none
  else (bus.findRegion addr).filter fun r => r.allows addr width access

/-- The region found at an address, replaced by what a write through it makes of it. -/
def writeRegion {w : ℕ} (bus : MemoryBus) (n : ℕ) (addr : Word) (val : BitVec w) : MemoryBus where
  regions := bus.regions.map fun r => if r.contains addr then r.write n addr val else r
  disjoint := by
    rw [List.pairwise_map]
    refine bus.disjoint.imp fun {r q} h => ?_
    split <;> split <;> simpa only [overlaps_write_left, overlaps_write_right] using h

def read8 (bus : MemoryBus) (addr : Word) (access : AccessType) : BitVec 8 :=
  match bus.resolveAccessRange addr 1 access with
  | none => 0xFF
  | some r => r.read 8 1 addr

def write8 (bus : MemoryBus) (addr : Word) (val : BitVec 8) (access : AccessType) : MemoryBus :=
  match bus.resolveAccessRange addr 1 access with
  | none => bus
  | some _ => bus.writeRegion 1 addr val

def read16 (bus : MemoryBus) (addr : Word) (access : AccessType) : BitVec 16 :=
  match bus.resolveAccessRange addr 2 access with
  | some r => r.read 16 2 addr
  | none => (bus.read8 addr access).setWidth 16 ||| ((bus.read8 (addr + 1) access).setWidth 16 <<< 8)

def write16 (bus : MemoryBus) (addr : Word) (val : BitVec 16) (access : AccessType) : MemoryBus :=
  match bus.resolveAccessRange addr 2 access with
  | some _ => bus.writeRegion 2 addr val
  | none => (bus.write8 addr (val.setWidth 8) access).write8 (addr + 1) ((val >>> 8).setWidth 8) access

def read32 (bus : MemoryBus) (addr : Word) (access : AccessType) : BitVec 32 :=
  match bus.resolveAccessRange addr 4 access with
  | some r => r.read 32 4 addr
  | none => (bus.read16 addr access).setWidth 32 ||| ((bus.read16 (addr + 2) access).setWidth 32 <<< 16)

def write32 (bus : MemoryBus) (addr : Word) (val : BitVec 32) (access : AccessType) : MemoryBus :=
  match bus.resolveAccessRange addr 4 access with
  | some _ => bus.writeRegion 4 addr val
  | none => (bus.write16 addr (val.setWidth 16) access).write16 (addr + 2) ((val >>> 16).setWidth 16) access

def read64 (bus : MemoryBus) (addr : Word) (access : AccessType) : BitVec 64 :=
  match bus.resolveAccessRange addr 8 access with
  | some r => r.read 64 8 addr
  | none => (bus.read32 addr access).setWidth 64 ||| ((bus.read32 (addr + 4) access).setWidth 64 <<< 32)

def write64 (bus : MemoryBus) (addr : Word) (val : BitVec 64) (access : AccessType) : MemoryBus :=
  match bus.resolveAccessRange addr 8 access with
  | some _ => bus.writeRegion 8 addr val
  | none => (bus.write32 addr (val.setWidth 32) access).write32 (addr + 4) ((val >>> 32).setWidth 32) access

variable {bus : MemoryBus} {r q : MemoryRegion} {addr x : Word} {n : ℕ} {access : AccessType}

lemma eq_of_contains (hr : r ∈ bus.regions) (hq : q ∈ bus.regions) (hrx : r.contains x) (hqx : q.contains x) :
    r = q := by
  have ho : r.overlaps q = true ∧ q.overlaps r = true := by
    simp only [contains, overlaps, Bool.and_eq_true, decide_eq_true_eq] at hrx hqx ⊢
    refine ⟨⟨?_, ?_⟩, ?_, ?_⟩ <;> bv_omega
  by_contra hne
  have hp := bus.disjoint
  generalize bus.regions = l at hr hq hp
  induction l with
  | nil => exact absurd hr List.not_mem_nil
  | cons b l ih =>
    obtain ⟨hb, hl⟩ := List.pairwise_cons.mp hp
    rcases List.mem_cons.mp hr with rfl | hrl
    · rcases List.mem_cons.mp hq with rfl | hql
      · exact hne rfl
      · exact absurd ho.1 (by rw [hb q hql]; decide)
    · rcases List.mem_cons.mp hq with rfl | hql
      · exact absurd ho.2 (by rw [hb r hrl]; decide)
      · exact ih hrl hql hl

lemma findRegion_eq (hr : r ∈ bus.regions) (hx : r.contains x) : bus.findRegion x = some r := by
  cases hf : bus.findRegion x with
  | none => exact absurd hx (List.find?_eq_none.mp hf r hr)
  | some q =>
    have hq : q ∈ bus.regions := List.mem_of_find?_eq_some hf
    have hqx : q.contains x := (List.find?_eq_some_iff_append.mp hf).1
    rw [eq_of_contains hr hq hx hqx]

lemma contains_of_allows {n i : ℕ} (h : r.allows addr n access) (hi : i < n) (hn : n ≤ 8) :
    r.contains (addr + BitVec.ofNat 64 i) := by
  simp only [allows, contains, Bool.and_eq_true, decide_eq_true_eq] at h ⊢
  obtain ⟨⟨⟨⟨h0, hb⟩, hw⟩, he⟩, _⟩ := h
  have hlt := addr.isLt
  have hlast : (BitVec.ofNat 64 n - 1).toNat = n - 1 := by
    rw [BitVec.toNat_sub_of_le (by bv_omega), BitVec.toNat_ofNat, Nat.mod_eq_of_lt (by omega)]; rfl
  have hbyte : (addr + BitVec.ofNat 64 i).toNat = addr.toNat + i := by
    rw [BitVec.toNat_add, BitVec.toNat_ofNat]; omega
  have hend : (addr + BitVec.ofNat 64 n - 1).toNat = addr.toNat + (n - 1) := by
    rw [BitVec.sub_eq_add_neg, BitVec.add_assoc, ← BitVec.sub_eq_add_neg, BitVec.toNat_add, hlast]; omega
  rw [BitVec.le_def] at hb ⊢
  rw [BitVec.lt_def] at he ⊢
  omega

lemma allows_byte {n i : ℕ} (h : r.allows addr n access) (hi : i < n) (hn : n ≤ 8) :
    r.allows (addr + BitVec.ofNat 64 i) 1 access := by
  have hc := contains_of_allows h hi hn
  simp only [allows, contains, Bool.and_eq_true, decide_eq_true_eq] at h hc ⊢
  refine ⟨⟨⟨⟨by decide, hc.1⟩, by omega⟩, ?_⟩, h.2⟩
  have hs : addr + BitVec.ofNat 64 i + BitVec.ofNat 64 1 - 1 = addr + BitVec.ofNat 64 i := BitVec.add_sub_cancel _ _
  rw [hs]
  exact hc.2

lemma mem_of_resolve {width : ℕ} (h : bus.resolveAccessRange addr width access = some r) :
    r ∈ bus.regions ∧ r.contains addr ∧ r.allows addr width access := by
  simp only [resolveAccessRange] at h
  split at h
  · cases h
  split at h
  · cases h
  obtain ⟨hf, ha⟩ := Option.filter_eq_some_iff.mp h
  exact ⟨List.mem_of_find?_eq_some hf, (List.find?_eq_some_iff_append.mp hf).1, ha⟩

/-- When a region allows a wide access, each of its bytes resolves to that region. -/
lemma resolve_byte {n i : ℕ} (h : bus.resolveAccessRange addr n access = some r) (hi : i < n) (hn : n ≤ 8) :
    bus.resolveAccessRange (addr + BitVec.ofNat 64 i) 1 access = some r := by
  obtain ⟨hr, _, ha⟩ := mem_of_resolve h
  rw [resolveAccessRange, if_neg (by decide), if_neg (by omega), findRegion_eq hr (contains_of_allows ha hi hn),
    Option.filter_eq_some_iff]
  exact ⟨rfl, allows_byte ha hi hn⟩

lemma region_read_eq {w n : ℕ} (h : bus.resolveAccessRange addr n access = some r)
    (hn : n ≤ 8) : r.read w n addr = assemble w (fun i => bus.read8 (addr + BitVec.ofNat 64 i) access) n := by
  refine assemble_congr fun i hi => ?_
  have hb : addr + BitVec.ofNat 64 i - r.base = addr - r.base + BitVec.ofNat 64 i := by
    rw [BitVec.sub_eq_add_neg, BitVec.sub_eq_add_neg, BitVec.add_assoc, BitVec.add_comm _ (-r.base), BitVec.add_assoc]
  rw [read8, resolve_byte h hi hn]
  simp [MemoryRegion.read, ByteMemory.load, assemble, hb]

lemma read16_bytes (bus : MemoryBus) (addr : Word) (access : AccessType) :
    bus.read16 addr access = assemble 16 (fun i => bus.read8 (addr + BitVec.ofNat 64 i) access) 2 := by
  unfold read16
  split
  · next h => exact region_read_eq (n := 2) h (by decide)
  · simp [assemble]

lemma read32_bytes (bus : MemoryBus) (addr : Word) (access : AccessType) :
    bus.read32 addr access = assemble 32 (fun i => bus.read8 (addr + BitVec.ofNat 64 i) access) 4 := by
  unfold read32
  split
  · next h => exact region_read_eq (n := 4) h (by decide)
  · rw [assemble_append (u := 16) _ 2 2 (by decide) (by decide), read16_bytes, read16_bytes]
    simp only [ByteMemory.offset_add]; rfl

/-- A wide read returns the bytes that single reads return, whether or not one region holds them all. -/
lemma read64_bytes (bus : MemoryBus) (addr : Word) (access : AccessType) :
    bus.read64 addr access = assemble 64 (fun i => bus.read8 (addr + BitVec.ofNat 64 i) access) 8 := by
  unfold read64
  split
  · next h => exact region_read_eq (n := 8) h (by decide)
  · rw [assemble_append (u := 32) _ 4 4 (by decide) (by decide), read32_bytes, read32_bytes]
    simp only [ByteMemory.offset_add]; rfl

def writable (bus : MemoryBus) (x : Word) : Bool := (bus.resolveAccessRange x 1 .write).isSome

/-- What a write of `n` bytes at `addr` makes of the memory, byte by byte. -/
structure Overlay {w : ℕ} (bus : MemoryBus) (addr : Word) (n : ℕ) (val : BitVec w) (bus' : MemoryBus) : Prop where
  byte : ∀ x access, bus'.read8 x access =
    if ByteMemory.InRange addr n x ∧ bus.writable x then byteAt val (x - addr).toNat else bus.read8 x access
  writable : ∀ x, bus'.writable x = bus.writable x

lemma contains_writeRegion {w : ℕ} (n : ℕ) (a : Word) (val : BitVec w) (r : MemoryRegion) :
    (if r.contains a then r.write n a val else r).contains x = r.contains x := by
  split
  · simp only [contains, write_base, write_endAddr]
  · rfl

lemma findRegion_writeRegion {w : ℕ} (n : ℕ) (a : Word) (val : BitVec w) :
    (bus.writeRegion n a val).findRegion x =
      (bus.findRegion x).map fun r => if r.contains a then r.write n a val else r := by
  rw [findRegion, findRegion, writeRegion, List.find?_map]
  congr 2
  funext r
  exact contains_writeRegion n a val r

lemma allows_write {w n m : ℕ} {a : Word} {val : BitVec w} :
    (r.write n a val).allows addr m access = r.allows addr m access := by
  unfold MemoryRegion.write; split <;> rfl

lemma resolve_writeRegion {w m : ℕ} (n : ℕ) (a : Word) (val : BitVec w) :
    (bus.writeRegion n a val).resolveAccessRange x m access =
      (bus.resolveAccessRange x m access).map fun r => if r.contains a then r.write n a val else r := by
  unfold resolveAccessRange
  split
  · rfl
  split
  · rfl
  rw [findRegion_writeRegion]
  cases bus.findRegion x with
  | none => rfl
  | some r =>
    have ha : (if r.contains a then r.write n a val else r).allows x m access = r.allows x m access := by
      split
      · exact allows_write
      · rfl
    simp only [Option.map_some, Option.filter_some, ha]
    split <;> rfl

lemma Overlay.append {w u v n m : ℕ} {bus₁ bus₂ : MemoryBus} {val : BitVec w} {lo : BitVec u} {hi : BitVec v}
    (h₁ : bus.Overlay addr n lo bus₁) (h₂ : bus₁.Overlay (addr + BitVec.ofNat 64 n) m hi bus₂) (hm : n + m ≤ 8)
    (hlo : ∀ i, i < n → byteAt lo i = byteAt val i) (hhi : ∀ i, i < m → byteAt hi i = byteAt val (n + i)) :
    bus.Overlay addr (n + m) val bus₂ where
  byte x access := by
    have happ := ByteMemory.inRange_append addr x n m (by omega)
    have hoff := ByteMemory.offset_sub addr x n (by omega)
    rw [h₂.byte, h₁.writable, h₁.byte]
    by_cases hw : bus.writable x
    · by_cases hh : ByteMemory.InRange (addr + BitVec.ofNat 64 n) m x
      · have hl : ¬ (x - addr).toNat < n := fun hl => by
          rw [ByteMemory.InRange, hoff, if_pos hl] at hh; omega
        rw [if_pos ⟨hh, hw⟩, if_pos ⟨happ.mpr (.inr hh), hw⟩, hhi _ hh, hoff, if_neg hl,
          Nat.add_sub_cancel' (by omega)]
      · rw [if_neg fun h => hh h.1]
        by_cases hl : ByteMemory.InRange addr n x
        · rw [if_pos ⟨hl, hw⟩, if_pos ⟨happ.mpr (.inl hl), hw⟩, hlo _ hl]
        · rw [if_neg fun h => hl h.1, if_neg fun h => (happ.mp h.1).elim hl hh]
    · rw [if_neg fun h => hw h.2, if_neg fun h => hw h.2, if_neg fun h => hw h.2]
  writable x := (h₂.writable x).trans (h₁.writable x)

lemma kind_of_write (h : r.allows addr n .write) : r.kind = .ram := by
  simp only [allows, Bool.and_eq_true, Bool.or_eq_true] at h
  simpa using h.2

lemma allows_ram {a : Word} (hk : r.kind = .ram) (h : r.allows a n .write) : r.allows a n access := by
  simp only [allows, hk] at h ⊢
  exact h

lemma resolve_ram (h : bus.resolveAccessRange x n .write = some r) :
    bus.resolveAccessRange x n access = some r := by
  have hk := kind_of_write (mem_of_resolve h).2.2
  unfold resolveAccessRange at h ⊢
  split at h
  · cases h
  split at h
  · cases h
  obtain ⟨hf, ha⟩ := Option.filter_eq_some_iff.mp h
  rw [if_neg ‹_›, if_neg ‹_›, Option.filter_eq_some_iff]
  exact ⟨hf, allows_ram hk ha⟩

lemma writeRegion_overlay {w : ℕ} {a : Word} (val : BitVec w) (h : bus.resolveAccessRange a n .write = some r)
    (hn : n ≤ 8) : bus.Overlay a n val (bus.writeRegion n a val) where
  byte x access := by
    obtain ⟨hr, hra, haw⟩ := mem_of_resolve h
    have hkind := kind_of_write haw
    have hwrite : r.write n a val = { r with data := ByteMemory.store r.data (a - r.base) n val } := by
      simp only [MemoryRegion.write, hkind]
    have hbase : x - r.base - (a - r.base) = x - a := by
      rw [BitVec.sub_eq_iff_eq_add, BitVec.sub_eq_add_neg a, ← BitVec.add_assoc, BitVec.sub_add_cancel,
        ← BitVec.sub_eq_add_neg]
    by_cases hx : ByteMemory.InRange a n x
    · have hxr := resolve_byte h hx hn
      rw [← ByteMemory.offset_of_inRange hx] at hxr
      have hw : bus.writable x = true := by rw [MemoryBus.writable, hxr]; rfl
      have hx' : ByteMemory.InRange (a - r.base) n (x - r.base) := by rw [ByteMemory.InRange, hbase]; exact hx
      rw [read8, resolve_writeRegion, resolve_ram hxr, if_pos ⟨hx, hw⟩]
      simp only [Option.map_some, hra, if_true, hwrite]
      rw [MemoryRegion.read, ByteMemory.load, assemble_one, BitVec.add_zero]
      exact (ByteMemory.store_of_inRange _ _ _ _ hx').trans (by rw [hbase])
    · rw [if_neg fun hc => hx hc.1, read8, resolve_writeRegion, read8]
      cases hq : bus.resolveAccessRange x 1 access with
      | none => rfl
      | some q =>
        simp only [Option.map_some]
        split
        · next hqa =>
          obtain ⟨hqr, _, _⟩ := mem_of_resolve hq
          obtain rfl := eq_of_contains hr hqr hra hqa
          have hx' : ¬ ByteMemory.InRange (a - r.base) n (x - r.base) := by
            rw [ByteMemory.InRange, hbase]; exact hx
          simp only [hwrite, MemoryRegion.read, ByteMemory.load, assemble_one, BitVec.add_zero]
          exact ByteMemory.store_of_not_inRange _ _ _ _ hx'
        · rfl
  writable x := by
    rw [MemoryBus.writable, MemoryBus.writable, resolve_writeRegion, Option.isSome_map]

lemma write8_overlay (bus : MemoryBus) (addr : Word) (val : BitVec 8) :
    bus.Overlay addr 1 val (bus.write8 addr val .write) := by
  unfold write8
  split
  · next h =>
    refine ⟨fun x access => ?_, fun _ => rfl⟩
    rw [if_neg]
    rintro ⟨hx, hw⟩
    have hxa : x = addr := by
      rw [ByteMemory.offset_of_inRange hx, show (x - addr).toNat = 0 from Nat.lt_one_iff.mp hx, BitVec.add_zero]
    rw [hxa, MemoryBus.writable, h] at hw
    exact Bool.noConfusion hw
  · next r h => exact writeRegion_overlay val h (by decide)

lemma write16_overlay (bus : MemoryBus) (addr : Word) (val : BitVec 16) :
    bus.Overlay addr 2 val (bus.write16 addr val .write) := by
  unfold write16
  split
  · next r h => exact writeRegion_overlay val h (by decide)
  · refine (write8_overlay bus addr _).append (n := 1) (m := 1) (write8_overlay _ _ _) (by decide) ?_ ?_
    · exact fun i hi => byteAt_setWidth val i (by omega)
    · exact fun i hi => (byteAt_setWidth _ i (by omega)).trans (byteAt_ushiftRight val 1 i)

lemma write32_overlay (bus : MemoryBus) (addr : Word) (val : BitVec 32) :
    bus.Overlay addr 4 val (bus.write32 addr val .write) := by
  unfold write32
  split
  · next r h => exact writeRegion_overlay val h (by decide)
  · refine (write16_overlay bus addr _).append (n := 2) (m := 2) (write16_overlay _ _ _) (by decide) ?_ ?_
    · exact fun i hi => byteAt_setWidth val i (by omega)
    · exact fun i hi => (byteAt_setWidth _ i (by omega)).trans (byteAt_ushiftRight val 2 i)

lemma write64_overlay (bus : MemoryBus) (addr : Word) (val : BitVec 64) :
    bus.Overlay addr 8 val (bus.write64 addr val .write) := by
  unfold write64
  split
  · next r h => exact writeRegion_overlay val h (by decide)
  · refine (write32_overlay bus addr _).append (n := 4) (m := 4) (write32_overlay _ _ _) (by decide) ?_ ?_
    · exact fun i hi => byteAt_setWidth val i (by omega)
    · exact fun i hi => (byteAt_setWidth _ i (by omega)).trans (byteAt_ushiftRight val 4 i)

end MemoryBus

end Little64.Emulator

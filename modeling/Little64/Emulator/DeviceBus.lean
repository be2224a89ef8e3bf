import Little64.Library.NestedCalls
import Little64.Emulator.MemoryBus

/-! The memory bus with a device on it that is also a master of the bus: a store of the device's
own may land in its registers again. -/

namespace Little64.Emulator

/-- A store that the bus hands to a device. -/
inductive RegisterStore
  | byte (addr : Word) (val : BitVec 8)
  | half (addr : Word) (val : BitVec 16)
  | word (addr : Word) (val : BitVec 32)
  | double (addr : Word) (val : BitVec 64)

/-- The registers of a device: a window of the address space that reads leave alone. -/
class BusDevice (δ : Type) where
  base : δ → Word
  size : Word
  read8 : δ → Word → BitVec 8
  read16 : δ → Word → BitVec 16
  read32 : δ → Word → BitVec 32
  read64 : δ → Word → BitVec 64

/-- Regions of memory and one device, whose window none of the regions overlaps. -/
structure Machine (δ : Type) where
  memory : MemoryBus
  device : δ

namespace Machine

variable {δ : Type} [BusDevice δ]

abbrev Nested (δ : Type) := NestedCalls.Handler RegisterStore (Machine δ)

def allows (m : Machine δ) (addr : Word) (width : ℕ) : Bool :=
  decide (width ≠ 0) && decide (BusDevice.base m.device ≤ addr) && decide (width - 1 ≤ 2 ^ 64 - 1 - addr.toNat) &&
    decide (addr + BitVec.ofNat 64 width - 1 < BusDevice.base m.device + BusDevice.size δ)

def read8 (m : Machine δ) (addr : Word) : BitVec 8 :=
  if m.allows addr 1 then BusDevice.read8 m.device addr else m.memory.read8 addr .read

def read16 (m : Machine δ) (addr : Word) : BitVec 16 :=
  if m.allows addr 2 then BusDevice.read16 m.device addr
  else if (m.memory.resolveAccessRange addr 2 .read).isSome then m.memory.read16 addr .read
  else (m.read8 addr).setWidth 16 ||| ((m.read8 (addr + 1)).setWidth 16 <<< 8)

def read32 (m : Machine δ) (addr : Word) : BitVec 32 :=
  if m.allows addr 4 then BusDevice.read32 m.device addr
  else if (m.memory.resolveAccessRange addr 4 .read).isSome then m.memory.read32 addr .read
  else (m.read16 addr).setWidth 32 ||| ((m.read16 (addr + 2)).setWidth 32 <<< 16)

def read64 (m : Machine δ) (addr : Word) : BitVec 64 :=
  if m.allows addr 8 then BusDevice.read64 m.device addr
  else if (m.memory.resolveAccessRange addr 8 .read).isSome then m.memory.read64 addr .read
  else (m.read32 addr).setWidth 64 ||| ((m.read32 (addr + 4)).setWidth 64 <<< 32)

def write8 (nested : Nested δ) (addr : Word) (val : BitVec 8) (m : Machine δ) : Option (Machine δ) :=
  if m.allows addr 1 then nested (.byte addr val) m
  else some { m with memory := m.memory.write8 addr val .write }

def write16 (nested : Nested δ) (addr : Word) (val : BitVec 16) (m : Machine δ) : Option (Machine δ) :=
  if m.allows addr 2 then nested (.half addr val) m
  else if (m.memory.resolveAccessRange addr 2 .write).isSome then
    some { m with memory := m.memory.write16 addr val .write }
  else (m.write8 nested addr (val.setWidth 8)).bind (write8 nested (addr + 1) ((val >>> 8).setWidth 8))

def write32 (nested : Nested δ) (addr : Word) (val : BitVec 32) (m : Machine δ) : Option (Machine δ) :=
  if m.allows addr 4 then nested (.word addr val) m
  else if (m.memory.resolveAccessRange addr 4 .write).isSome then
    some { m with memory := m.memory.write32 addr val .write }
  else (m.write16 nested addr (val.setWidth 16)).bind (write16 nested (addr + 2) ((val >>> 16).setWidth 16))

def write64 (nested : Nested δ) (addr : Word) (val : BitVec 64) (m : Machine δ) : Option (Machine δ) :=
  if m.allows addr 8 then nested (.double addr val) m
  else if (m.memory.resolveAccessRange addr 8 .write).isSome then
    some { m with memory := m.memory.write64 addr val .write }
  else (m.write32 nested addr (val.setWidth 32)).bind (write32 nested (addr + 4) ((val >>> 32).setWidth 32))

/-- The device's own stores of `len` bytes, one at a time and in order. -/
def storeBytes (nested : Nested δ) (addr : Word) (byte : Machine δ → ℕ → BitVec 8) : ℕ → Machine δ → Option (Machine δ)
  | 0, m => some m
  | i + 1, m => (storeBytes nested addr byte i m).bind fun m =>
      m.write8 nested (addr + BitVec.ofNat 64 i) (byte m i)

/-- The address is no register of the device. -/
def Off (m : Machine δ) (addr : Word) : Prop := m.allows addr 1 = false

/-- None of the bytes of the range is a register of the device. -/
def OffRange (m : Machine δ) (addr : Word) (n : ℕ) : Prop := ∀ i < n, m.Off (addr + BitVec.ofNat 64 i)

variable {m : Machine δ} {nested : Nested δ} {addr : Word} {n k : ℕ}

lemma allows_first (h : m.allows addr n = true) : m.allows addr 1 = true := by
  simp only [allows, Bool.and_eq_true, decide_eq_true_eq] at h ⊢
  obtain ⟨⟨⟨h0, hbase⟩, hwidth⟩, hend⟩ := h
  have haddr := addr.isLt
  have hlast : (addr + BitVec.ofNat 64 n - 1).toNat = addr.toNat + (n - 1) := by
    have h1 : BitVec.ofNat 64 n - 1 = BitVec.ofNat 64 (n - 1) := by
      apply BitVec.eq_of_toNat_eq
      rw [BitVec.toNat_sub, BitVec.toNat_ofNat, BitVec.toNat_ofNat]
      have : (1 : Word).toNat = 1 := rfl
      omega
    rw [BitVec.sub_eq_add_neg, BitVec.add_assoc, ← BitVec.sub_eq_add_neg, h1, BitVec.toNat_add, BitVec.toNat_ofNat]
    omega
  have hfirst : addr + BitVec.ofNat 64 1 - 1 = addr := BitVec.add_sub_cancel _ _
  rw [BitVec.lt_def, hlast] at hend
  rw [hfirst, BitVec.lt_def]
  refine ⟨⟨⟨by decide, hbase⟩, by omega⟩, by omega⟩

lemma OffRange.off (h : m.OffRange addr n) (hn : 0 < n) : m.Off addr := by
  have h0 := h 0 hn
  rw [BitVec.add_zero] at h0
  exact h0

lemma OffRange.not_allows (h : m.OffRange addr n) (hn : 0 < n) : m.allows addr k = false := by
  cases hk : m.allows addr k with
  | false => rfl
  | true => exact absurd (allows_first hk) (by rw [h.off hn]; exact Bool.false_ne_true)

lemma OffRange.left (h : m.OffRange addr (n + k)) : m.OffRange addr n := fun i hi => h i (by omega)

lemma OffRange.right (h : m.OffRange addr (n + k)) : m.OffRange (addr + BitVec.ofNat 64 n) k := by
  intro i hi
  rw [← ByteMemory.offset_add]
  exact h (n + i) (by omega)

lemma OffRange.slice (h : m.OffRange addr n) (i : ℕ) (hi : i + 8 ≤ n) : m.OffRange (addr + BitVec.ofNat 64 i) 8 := by
  intro j hj
  rw [← ByteMemory.offset_add]
  exact h (i + j) (by omega)

lemma allows_congr {m' : Machine δ} (hbase : BusDevice.base m'.device = BusDevice.base m.device) (addr : Word) (n : ℕ) :
    m'.allows addr n = m.allows addr n := by
  rw [allows, allows, hbase]

lemma OffRange.setDevice {device : δ} (h : m.OffRange addr n) (hbase : BusDevice.base device = BusDevice.base m.device) :
    ({ m with device := device } : Machine δ).OffRange addr n := by
  intro i hi
  exact (allows_congr (m := m) hbase _ 1).trans (h i hi)

lemma OffRange.setMemory (h : m.OffRange addr n) (memory : MemoryBus) :
    ({ m with memory := memory } : Machine δ).OffRange addr n := h

lemma read8_off (h : m.Off addr) : m.read8 addr = m.memory.read8 addr .read := by
  rw [read8, h, if_neg Bool.false_ne_true]

lemma read16_off (h : m.OffRange addr 2) : m.read16 addr = m.memory.read16 addr .read := by
  have hsecond : m.Off (addr + 1) := h 1 (by decide)
  rw [read16, h.not_allows (by decide), if_neg Bool.false_ne_true, read8_off (h.off (by decide)), read8_off hsecond,
    MemoryBus.read16]
  cases m.memory.resolveAccessRange addr 2 .read <;> rfl

lemma read32_off (h : m.OffRange addr 4) : m.read32 addr = m.memory.read32 addr .read := by
  have hsecond : m.OffRange (addr + 2) 2 := h.right (n := 2) (k := 2)
  rw [read32, h.not_allows (by decide), if_neg Bool.false_ne_true, read16_off (h.left (n := 2) (k := 2)),
    read16_off hsecond, MemoryBus.read32]
  cases m.memory.resolveAccessRange addr 4 .read <;> rfl

lemma read64_off (h : m.OffRange addr 8) : m.read64 addr = m.memory.read64 addr .read := by
  have hsecond : m.OffRange (addr + 4) 4 := h.right (n := 4) (k := 4)
  rw [read64, h.not_allows (by decide), if_neg Bool.false_ne_true, read32_off (h.left (n := 4) (k := 4)),
    read32_off hsecond, MemoryBus.read64]
  cases m.memory.resolveAccessRange addr 8 .read <;> rfl

lemma write8_off (h : m.Off addr) (val : BitVec 8) :
    m.write8 nested addr val = some { m with memory := m.memory.write8 addr val .write } := by
  rw [write8, h, if_neg Bool.false_ne_true]

lemma write16_off (h : m.OffRange addr 2) (val : BitVec 16) :
    m.write16 nested addr val = some { m with memory := m.memory.write16 addr val .write } := by
  have hsecond : ∀ memory, ({ m with memory := memory } : Machine δ).Off (addr + 1) := fun _ => h 1 (by decide)
  rw [write16, h.not_allows (by decide), if_neg Bool.false_ne_true, write8_off (h.off (by decide)), Option.bind_some,
    write8_off (hsecond _), MemoryBus.write16]
  cases m.memory.resolveAccessRange addr 2 .write <;> rfl

lemma write32_off (h : m.OffRange addr 4) (val : BitVec 32) :
    m.write32 nested addr val = some { m with memory := m.memory.write32 addr val .write } := by
  have hsecond : ∀ memory, ({ m with memory := memory } : Machine δ).OffRange (addr + 2) 2 := fun memory =>
    (h.right (n := 2) (k := 2)).setMemory memory
  rw [write32, h.not_allows (by decide), if_neg Bool.false_ne_true, write16_off (h.left (n := 2) (k := 2)),
    Option.bind_some, write16_off (hsecond _), MemoryBus.write32]
  cases m.memory.resolveAccessRange addr 4 .write <;> rfl

lemma write64_off (h : m.OffRange addr 8) (val : BitVec 64) :
    m.write64 nested addr val = some { m with memory := m.memory.write64 addr val .write } := by
  have hsecond : ∀ memory, ({ m with memory := memory } : Machine δ).OffRange (addr + 4) 4 := fun memory =>
    (h.right (n := 4) (k := 4)).setMemory memory
  rw [write64, h.not_allows (by decide), if_neg Bool.false_ne_true, write32_off (h.left (n := 4) (k := 4)),
    Option.bind_some, write32_off (hsecond _), MemoryBus.write64]
  cases m.memory.resolveAccessRange addr 8 .write <;> rfl

/-- What byte stores from an address on make of the memory. -/
structure Poured (memory : MemoryBus) (addr : Word) (len : ℕ) (byte : ℕ → BitVec 8) (memory' : MemoryBus) : Prop where
  byte : ∀ x access, memory'.read8 x access =
    if ByteMemory.InRange addr len x ∧ memory.writable x then byte (x - addr).toNat else memory.read8 x access
  writable : ∀ x, memory'.writable x = memory.writable x

lemma Poured.zero (memory : MemoryBus) (addr : Word) (byte : ℕ → BitVec 8) : Poured memory addr 0 byte memory where
  byte x access := by rw [if_neg fun h => Nat.not_lt_zero _ h.1]
  writable _ := rfl

lemma Poured.succ {memory memory' : MemoryBus} {len : ℕ} {byte : ℕ → BitVec 8} (hlen : len + 1 < 2 ^ 64)
    (h : Poured memory addr len byte memory') :
    Poured memory addr (len + 1) byte (memory'.write8 (addr + BitVec.ofNat 64 len) (byte len) .write) where
  byte x access := by
    have happ := ByteMemory.inRange_append addr x len 1 hlen
    rw [(memory'.write8_overlay _ _).byte, h.byte, h.writable]
    by_cases hw : memory.writable x
    · by_cases hlast : ByteMemory.InRange (addr + BitVec.ofNat 64 len) 1 x
      · have hoffset : (x - addr).toNat = len ∧ (x - (addr + BitVec.ofNat 64 len)).toNat = 0 := by
          have hsub := ByteMemory.offset_sub addr x len (by omega)
          rw [ByteMemory.InRange] at hlast
          split at hsub <;> omega
        rw [if_pos ⟨hlast, hw⟩, if_pos ⟨happ.mpr (.inr hlast), hw⟩, hoffset.1, hoffset.2, LittleEndian.byteAt_zero]
      · rw [if_neg fun hc => hlast hc.1]
        by_cases hx : ByteMemory.InRange addr len x
        · rw [if_pos ⟨hx, hw⟩, if_pos ⟨happ.mpr (.inl hx), hw⟩]
        · rw [if_neg fun hc => hx hc.1, if_neg fun hc => (happ.mp hc.1).elim hx hlast]
    · rw [if_neg fun hc => hw hc.2, if_neg fun hc => hw hc.2, if_neg fun hc => hw hc.2]
  writable x := ((memory'.write8_overlay _ _).writable x).trans (h.writable x)

/-- Stores beside the device's window go to memory, and change the writable bytes among them. -/
lemma storeBytes_off {f : Machine δ → ℕ → BitVec 8} {len : ℕ} (hlen : len < 2 ^ 64) (h : m.OffRange addr len)
    (hbyte : ∀ memory i, f { m with memory := memory } i = f m i) :
    ∃ memory, m.storeBytes nested addr f len = some { m with memory := memory } ∧
      Poured m.memory addr len (f m) memory := by
  induction len with
  | zero => exact ⟨m.memory, rfl, .zero _ _ _⟩
  | succ len ih =>
    obtain ⟨memory, hstored, hpoured⟩ := ih (by omega) (h.left (k := 1))
    have hnext : ({ m with memory := memory } : Machine δ).Off (addr + BitVec.ofNat 64 len) := h len (by omega)
    refine ⟨_, ?_, hpoured.succ hlen⟩
    rw [storeBytes, hstored, Option.bind_some, hbyte]
    exact write8_off hnext _

end Machine

end Little64.Emulator

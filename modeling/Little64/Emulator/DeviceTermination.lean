import Little64.Emulator.BlockRequests
import Little64.Emulator.CardCommands

/-! Stores to the registers of the block devices end: nesting goes no deeper than the device's own stores
to plain registers, unless such a store starts a request. -/

namespace Little64.Emulator

namespace Machine

variable {δ : Type} [BusDevice δ] {m : Machine δ} {nested : Nested δ} {store : Nested δ → Nested δ} {addr : Word}

/-- The device's own stores return when those to its registers do, whatever is kept by each. -/
lemma storeBytes_returns (nested : Nested δ) {P : Machine δ → Prop} {byteOf : Machine δ → ℕ → BitVec 8}
    {f : ℕ → BitVec 8} {len : ℕ} (hmemory : ∀ m memory, P m → P { m with memory := memory })
    (hbyte : ∀ m i, P m → byteOf m i = f i)
    (hregister : ∀ m, P m → ∀ i < len, m.allows (addr + BitVec.ofNat 64 i) 1 = true →
      ∃ m', nested (.byte (addr + BitVec.ofNat 64 i) (f i)) m = some m' ∧ P m') (hP : P m) :
    ∃ m', m.storeBytes nested addr byteOf len = some m' ∧ P m' := by
  induction len with
  | zero => exact ⟨m, rfl, hP⟩
  | succ len ih =>
    obtain ⟨m₁, hstored, hP₁⟩ := ih fun m hP i hi => hregister m hP i (by omega)
    rw [storeBytes, hstored, Option.bind_some, hbyte m₁ len hP₁, write8]
    split
    · next hallows => exact hregister m₁ hP₁ len (by omega) hallows
    · exact ⟨_, rfl, hmemory m₁ _ hP₁⟩

section Parts

variable (store : Nested δ → Nested δ) (triggers : Word → RegisterStore → Prop) (reenters : Machine δ → Prop)

/-- None of the register writes of a store starts a request that stores into the register that starts requests. -/
def Quiet (parts : List RegisterStore) (m : Machine δ) : Prop :=
  ∀ before p after m', parts = before ++ p :: after →
    before.foldlM (fun m p => store (fun _ _ => none) p m) m = some m' →
    triggers (BusDevice.base m'.device) p → ¬ reenters m'

variable {store triggers reenters}

lemma quiet_singleton {p : RegisterStore} (h : ¬ reenters m) : Quiet store triggers reenters [p] m := by
  intro before q after m' hsplit hbefore _
  cases before with
  | nil => exact Option.some.inj hbefore ▸ h
  | cons _ rest => exact absurd (List.cons.inj hsplit).2 (by simp)

lemma plain_parts {parts : List RegisterStore} (hplain : ∀ p ∈ parts, ∀ m, ¬ triggers (BusDevice.base m.device) p →
      ∃ m', (∀ nested, store nested p m = some m') ∧ BusDevice.base m'.device = BusDevice.base m.device)
    (hnone : ∀ p ∈ parts, ¬ triggers (BusDevice.base m.device) p) :
    ∃ m', (∀ nested, parts.foldlM (fun m p => store nested p m) m = some m') ∧
      BusDevice.base m'.device = BusDevice.base m.device := by
  induction parts generalizing m with
  | nil => exact ⟨m, fun _ => rfl, rfl⟩
  | cons p rest ih =>
    obtain ⟨m₁, hp, hbase⟩ := hplain p List.mem_cons_self m (hnone p List.mem_cons_self)
    obtain ⟨m', hrest, hbase'⟩ := ih (fun q hq => hplain q (List.mem_cons_of_mem p hq)) fun q hq => by
      rw [hbase]
      exact hnone q (List.mem_cons_of_mem p hq)
    refine ⟨m', fun nested => ?_, hbase'.trans hbase⟩
    rw [List.foldlM_cons, hp nested]
    exact hrest nested

lemma parts_return (nested : Nested δ) {parts : List RegisterStore} (hplain : ∀ p ∈ parts, ∀ m, ¬ triggers (BusDevice.base m.device) p →
      ∃ m', (∀ nested, store nested p m = some m') ∧ BusDevice.base m'.device = BusDevice.base m.device)
    (hrequest : ∀ p ∈ parts, ∀ m, triggers (BusDevice.base m.device) p → ¬ reenters m →
      ∃ m', store nested p m = some m' ∧ BusDevice.base m'.device = BusDevice.base m.device)
    (hapart : parts.Pairwise fun p q => ∀ base, triggers base p → ¬ triggers base q)
    (hquiet : Quiet store triggers reenters parts m) :
    ∃ m', parts.foldlM (fun m p => store nested p m) m = some m' := by
  induction parts generalizing m with
  | nil => exact ⟨m, rfl⟩
  | cons p rest ih =>
    obtain ⟨hfirst, hrest⟩ := List.pairwise_cons.mp hapart
    have hplain' := fun q hq => hplain q (List.mem_cons_of_mem p hq)
    by_cases ht : triggers (BusDevice.base m.device) p
    -- The one request of the store; what follows it is plain.
    · obtain ⟨m₁, hp, hbase⟩ := hrequest p List.mem_cons_self m ht (hquiet [] p rest m rfl rfl ht)
      obtain ⟨m', hparts, _⟩ := plain_parts (m := m₁) hplain' fun q hq => by
        rw [hbase]
        exact hfirst q hq _ ht
      refine ⟨m', ?_⟩
      rw [List.foldlM_cons, hp]
      exact hparts nested
    · obtain ⟨m₁, hp, hbase⟩ := hplain p List.mem_cons_self m ht
      obtain ⟨m', hparts⟩ := ih (m := m₁) hplain' (fun q hq => hrequest q (List.mem_cons_of_mem p hq)) hrest (by
        intro before q after m₂ hsplit hbefore
        apply hquiet (p :: before) q after m₂
        · rw [hsplit]
          rfl
        · rw [List.foldlM_cons, hp]
          exact hbefore)
      refine ⟨m', ?_⟩
      rw [List.foldlM_cons, hp]
      exact hparts

end Parts

end Machine

namespace PvBlockDevice

open Machine

/-- The register writes that a store to the device's window is made of. -/
def parts : RegisterStore → List RegisterStore
  | .byte addr val => [.byte addr val]
  | .half addr val => [.byte addr (val.setWidth 8), .byte (addr + 1) ((val >>> 8).setWidth 8)]
  | .word addr val =>
    [.byte addr ((val.setWidth 16).setWidth 8), .byte (addr + 1) ((val.setWidth 16 >>> 8).setWidth 8),
      .byte (addr + 2) (((val >>> 16).setWidth 16).setWidth 8),
      .byte (addr + 2 + 1) (((val >>> 16).setWidth 16 >>> 8).setWidth 8)]
  | .double addr val => [.double addr val]

/-- The register write is a kick. -/
def Triggers (base : Word) : RegisterStore → Prop
  | .byte addr val => ((addr &&& ~~~7) - base).toNat = registerKick ∧
      val.setWidth 64 <<< ((addr &&& 7).toNat * 8) = (1 : Word)
  | .double addr val => (addr - base).toNat = registerKick ∧ val = 1
  | _ => False

/-- The request in memory reads a sector into a buffer that lies over the kick register, with the byte of a kick. -/
def Reenters (m : Bus) : Prop :=
  ∃ image header, readRequestHeader (markBusy m) = some header ∧ Accepted (markBusy m) image header ∧
    header.op = requestRead ∧ header.diskBytes ≤ header.bufferLen.toNat ∧
    (image.read (header.sector * DiskImage.sectorSize) m.device.bounce header.diskBytes).1 = true ∧
    ∃ i < header.diskBytes, m.allows (header.bufferPhys + BitVec.ofNat 64 i) 1 = true ∧
      Triggers m.device.base (.byte (header.bufferPhys + BitVec.ofNat 64 i) (image.byte (header.diskOffset + i)))

variable {m m' : Bus} {nested : Nested PvBlockDevice} {addr : Word} {image : DiskImage} {header : RequestHeader}
  {status : Word}

lemma store_eq_parts (s : RegisterStore) (m : Bus) :
    store nested s m = (parts s).foldlM (fun m p => store nested p m) m := by
  cases s with
  | byte addr val => exact (bind_pure _).symm
  | half addr val =>
    change (writeRegister8 nested addr _ m).bind _ = (writeRegister8 nested addr _ m).bind _
    congr 1
    funext m
    exact (bind_pure _).symm
  | word addr val =>
    change ((writeRegister8 nested addr _ m).bind _).bind _ = (writeRegister8 nested addr _ m).bind _
    rw [Option.bind_assoc]
    congr 1
    funext m
    change (writeRegister8 nested _ _ m).bind _ = (writeRegister8 nested _ _ m).bind _
    congr 1
    funext m
    change (writeRegister8 nested _ _ m).bind _ = (writeRegister8 nested _ _ m).bind _
    congr 1
    funext m
    exact (bind_pure _).symm
  | double addr val => exact (bind_pure _).symm

/-- A register write that is no kick changes the device alone, and neither its place nor its buffer. -/
lemma writeRegister64_plain {value : Word} (h : ¬ Triggers m.device.base (.double addr value)) :
    ∃ d : PvBlockDevice, (∀ nested, writeRegister64 nested addr value m = some { m with device := d }) ∧
      d.base = m.device.base ∧ d.bounce = m.device.bounce := by
  by_cases haddress : (addr - m.device.base).toNat = registerRequestAddress
  · exact ⟨{ m.device with requestAddr := value }, fun nested => if_pos haddress, rfl, rfl⟩
  by_cases hkick : (addr - m.device.base).toNat = registerKick
  · refine ⟨m.device, fun nested => ?_, rfl, rfl⟩
    rw [writeRegister64]
    simp only
    rw [if_neg haddress, if_pos hkick, if_neg fun hv => h ⟨hkick, hv⟩]
  by_cases hack : (addr - m.device.base).toNat = registerInterruptAck ∧ value = 1
  · refine ⟨clearInterruptPending m.device, fun nested => ?_, rfl, rfl⟩
    rw [writeRegister64]
    simp only
    rw [if_neg haddress, if_neg hkick, if_pos hack.1, if_pos hack.2]
  · refine ⟨m.device, fun nested => ?_, rfl, rfl⟩
    rw [writeRegister64]
    simp only
    rw [if_neg haddress, if_neg hkick]
    split
    · next hoffset => exact if_neg fun hv => hack ⟨hoffset, hv⟩
    · rfl

-- The kick register reads as zero, so a byte store to it writes that byte alone.
lemma merge_kick {d : PvBlockDevice} (h : (addr - d.base).toNat = registerKick) (mask value : Word) :
    d.read64 addr &&& mask ||| value = value := by
  have hzero : d.read64 addr = 0#64 := by
    rw [read64, h]
    rfl
  rw [hzero, BitVec.zero_and, BitVec.zero_or]

lemma writeRegister8_plain {value : BitVec 8} (h : ¬ Triggers m.device.base (.byte addr value)) :
    ∃ d : PvBlockDevice, (∀ nested, writeRegister8 nested addr value m = some { m with device := d }) ∧
      d.base = m.device.base ∧ d.bounce = m.device.bounce := by
  apply writeRegister64_plain
  rintro ⟨hkick, hone⟩
  rw [merge_kick hkick] at hone
  exact h ⟨hkick, hone⟩

/-- The only byte that kicks is a one, at an address that ends an eight-byte boundary. -/
lemma triggers_byte {base : Word} {value : BitVec 8} (h : Triggers base (.byte addr value)) :
    addr &&& 7 = 0 ∧ value = 1 := by
  obtain ⟨_, hone⟩ := h
  have hseven : (7 : Word) = BitFields.lowMask 64 3 := by decide
  have hlow : (addr &&& 7).toNat < 8 := by
    rw [hseven, BitFields.toNat_and_lowMask]
    exact Nat.mod_lt _ (by decide)
  have hvalue := value.isLt
  have hpow : 2 ^ ((addr &&& 7).toNat * 8) ≤ 2 ^ 56 := Nat.pow_le_pow_right (by decide) (by omega)
  have hproduct : value.toNat * 2 ^ ((addr &&& 7).toNat * 8) < 2 ^ 64 :=
    (Nat.mul_le_mul_left _ hpow).trans_lt (by omega)
  have hnat := congrArg BitVec.toNat hone
  have hwide : value.toNat % 2 ^ 64 = value.toNat := Nat.mod_eq_of_lt (by omega)
  rw [BitVec.toNat_shiftLeft, BitVec.toNat_setWidth, hwide, Nat.shiftLeft_eq, Nat.mod_eq_of_lt hproduct] at hnat
  obtain ⟨hval, hshift⟩ := mul_eq_one.mp hnat
  have hzero : (addr &&& 7).toNat * 8 = 0 := (Nat.pow_eq_one.mp hshift).resolve_left (by decide)
  exact ⟨BitVec.eq_of_toNat_eq (by change _ = 0; omega), BitVec.eq_of_toNat_eq hval⟩

lemma plain_part {s p : RegisterStore} (hp : p ∈ parts s) (m : Bus) (h : ¬ Triggers m.device.base p) :
    ∃ m', (∀ nested, store nested p m = some m') ∧ m'.device.base = m.device.base := by
  have hprimitive : (∃ addr val, p = .byte addr val) ∨ ∃ addr val, p = .double addr val := by
    cases s with
    | byte addr val => exact .inl ⟨_, _, List.mem_singleton.mp hp⟩
    | half addr val =>
      rw [parts, List.mem_pair] at hp
      rcases hp with rfl | rfl <;> exact .inl ⟨_, _, rfl⟩
    | word addr val =>
      simp only [parts, List.mem_cons, List.not_mem_nil, or_false] at hp
      rcases hp with rfl | rfl | rfl | rfl <;> exact .inl ⟨_, _, rfl⟩
    | double addr val => exact .inr ⟨_, _, List.mem_singleton.mp hp⟩
  rcases hprimitive with ⟨addr, val, rfl⟩ | ⟨addr, val, rfl⟩
  · obtain ⟨d, hd, hbase, _⟩ := writeRegister8_plain h
    exact ⟨_, hd, hbase⟩
  · obtain ⟨d, hd, hbase, _⟩ := writeRegister64_plain h
    exact ⟨_, hd, hbase⟩

lemma not_triggers_zero (base : Word) : ¬ Triggers base (.byte addr 0) := by
  intro h
  exact absurd (triggers_byte h).2 (by decide)

lemma write8_returns {value : BitVec 8} (h : m.allows addr 1 = true → ¬ Triggers m.device.base (.byte addr value)) :
    ∃ m', m.write8 (store nested) addr value = some m' ∧ m'.device.base = m.device.base := by
  rw [write8]
  split
  · next hallows =>
    obtain ⟨d, hd, hbase, _⟩ := writeRegister8_plain (h hallows)
    exact ⟨_, hd nested, hbase⟩
  · exact ⟨_, rfl, rfl⟩

lemma plain_of_parts {s : RegisterStore} (hs : ∀ p ∈ parts s, ¬ Triggers m.device.base p) :
    ∃ m', (∀ nested, store nested s m = some m') ∧ m'.device.base = m.device.base := by
  obtain ⟨m', hm', hbase⟩ := plain_parts (m := m)
    (fun p hp m hp' => plain_part hp m hp') hs
  refine ⟨m', fun nested => ?_, hbase⟩
  rw [store_eq_parts]
  exact hm' nested

lemma write16_returns {value : BitVec 16} (hhigh : (value >>> 8).setWidth 8 = (0 : BitVec 8))
    (h : m.allows addr 1 = true → ¬ Triggers m.device.base (.byte addr (value.setWidth 8))) :
    ∃ m', m.write16 (store nested) addr value = some m' ∧ m'.device.base = m.device.base := by
  rw [write16]
  split
  · next hallows =>
    obtain ⟨m', hm', hbase⟩ := plain_of_parts (m := m) (s := .half addr value) (by
      intro p hp
      rw [parts, List.mem_pair] at hp
      rcases hp with rfl | rfl
      · exact h (allows_first hallows)
      · rw [hhigh]
        exact not_triggers_zero _)
    exact ⟨m', hm' nested, hbase⟩
  split
  · exact ⟨_, rfl, rfl⟩
  · obtain ⟨m₁, hfirst, hbase⟩ := write8_returns h
    obtain ⟨m₂, hsecond, hbase'⟩ := write8_returns (m := m₁)
      fun _ => not_triggers_zero _
    rw [hfirst, Option.bind_some, hhigh]
    exact ⟨m₂, hsecond, hbase'.trans hbase⟩

lemma write32_returns {value : BitVec 32} (hhigh : (value >>> 16).setWidth 16 = (0 : BitVec 16))
    (hlow : (value.setWidth 16 >>> 8).setWidth 8 = (0 : BitVec 8))
    (h : m.allows addr 1 = true → ¬ Triggers m.device.base (.byte addr ((value.setWidth 16).setWidth 8))) :
    ∃ m', m.write32 (store nested) addr value = some m' ∧ m'.device.base = m.device.base := by
  rw [write32]
  split
  · next hallows =>
    obtain ⟨m', hm', hbase⟩ := plain_of_parts (m := m) (s := .word addr value) (by
      intro p hp
      simp only [parts, hhigh, hlow, List.mem_cons, List.not_mem_nil, or_false] at hp
      rcases hp with rfl | rfl | rfl | rfl
      · exact h (allows_first hallows)
      · exact not_triggers_zero _
      · exact not_triggers_zero _
      · exact not_triggers_zero _)
    exact ⟨m', hm' nested, hbase⟩
  split
  · exact ⟨_, rfl, rfl⟩
  · obtain ⟨m₁, hfirst, hbase⟩ := write16_returns hlow h
    obtain ⟨m₂, hsecond, hbase'⟩ : ∃ m₂, m₁.write16 (store nested) (addr + 2) 0 = some m₂ ∧
        m₂.device.base = m₁.device.base := write16_returns rfl fun _ => not_triggers_zero _
    rw [hfirst, Option.bind_some, hhigh]
    exact ⟨m₂, hsecond, hbase'.trans hbase⟩

lemma write64_returns {value : Word} (hvalue : value.toNat < 256) (h : m.allows addr 1 = true →
      ¬ Triggers m.device.base (.byte addr (value.setWidth 8)) ∧ ¬ Triggers m.device.base (.double addr value)) :
    ∃ m', m.write64 (store nested) addr value = some m' ∧ m'.device.base = m.device.base := by
  have hhigh : (value >>> 32).setWidth 32 = (0 : BitVec 32) := by bv_omega
  have hhigh16 : (value.setWidth 32 >>> 16).setWidth 16 = (0 : BitVec 16) := by bv_omega
  have hhigh8 : ((value.setWidth 32).setWidth 16 >>> 8).setWidth 8 = (0 : BitVec 8) := by bv_omega
  have hbyte : ((value.setWidth 32).setWidth 16).setWidth 8 = value.setWidth 8 := by bv_omega
  rw [write64]
  split
  · next hallows =>
    obtain ⟨d, hd, hbase, _⟩ := writeRegister64_plain (h (allows_first hallows)).2
    exact ⟨_, hd nested, hbase⟩
  split
  · exact ⟨_, rfl, rfl⟩
  · obtain ⟨m₁, hfirst, hbase⟩ := write32_returns hhigh16 hhigh8 fun hallows => by
      rw [hbyte]
      exact (h hallows).1
    obtain ⟨m₂, hsecond, hbase'⟩ : ∃ m₂, m₁.write32 (store nested) (addr + 4) 0 = some m₂ ∧
        m₂.device.base = m₁.device.base := write32_returns rfl rfl fun _ => not_triggers_zero _
    rw [hfirst, Option.bind_some, hhigh]
    exact ⟨m₂, hsecond, hbase'.trans hbase⟩

lemma finish_returns (hstatus : status.toNat < 256) (h : status = 1 → m.allows (m.device.requestAddr + 8) 1 = true →
      ¬ Triggers m.device.base (.byte (m.device.requestAddr + 8) 1) ∧
        ¬ Triggers m.device.base (.double (m.device.requestAddr + 8) 1)) :
    ∃ m', finish (store nested) status m = some m' ∧ m'.device.base = m.device.base := by
  obtain ⟨m', hm', hbase⟩ := write64_returns (m := m) hstatus (by
    intro hallows
    by_cases hone : status = 1
    · rw [hone]
      exact h hone hallows
    · refine ⟨fun ht => hone ?_, fun ht => hone ht.2⟩
      have := (triggers_byte ht).2
      bv_omega)
  refine ⟨_, by rw [finish, writeRequestStatus, hm']; rfl, ?_⟩
  change (complete status m'.device).base = _
  rw [← hbase, complete]
  split <;> rfl

lemma and_not_seven (h : addr &&& 7 = 0) : addr &&& ~~~7 = addr := by
  have hseven : (7 : Word) = BitFields.lowMask 64 3 := by decide
  have hlow := congrArg BitVec.toNat h
  apply BitVec.eq_of_toNat_eq
  rw [hseven, BitFields.toNat_and_lowMask] at hlow
  rw [hseven, BitFields.toNat_and_not_lowMask]
  change _ = 0 at hlow
  omega

/-- A descriptor whose status word is the kick register asks for no transfer. -/
lemma status_not_kick (hheader : readRequestHeader m = some header)
    (hop : header.op = requestRead ∨ header.op = requestWrite ∨ header.op = requestFlush)
    (hallows : m.allows (m.device.requestAddr + 8) 1 = true) :
    ¬ Triggers m.device.base (.byte (m.device.requestAddr + 8) 1) ∧
      ¬ Triggers m.device.base (.double (m.device.requestAddr + 8) 1) := by
  have hkick : (m.device.requestAddr + 8 - m.device.base).toNat ≠ registerKick := by
    intro hoffset
    rw [readRequestHeader] at hheader
    split at hheader
    · cases hheader
    have hop' : header.op = m.read64 m.device.requestAddr := by
      rw [← Option.some.inj hheader]
      rfl
    simp only [allows, Bool.and_eq_true, decide_eq_true_eq] at hallows
    obtain ⟨⟨⟨_, hbase⟩, _⟩, hend⟩ := hallows
    change m.device.base ≤ _ at hbase
    change m.device.requestAddr + 8 + 1 - 1 < m.device.base + 0x100 at hend
    change _ = 0x40 at hoffset
    have hlt := m.device.base.isLt
    have hrequest : m.device.requestAddr = m.device.base + 0x38 := by bv_omega
    have hwrap : m.device.base.toNat + 0x100 < 2 ^ 64 := by bv_omega
    have hself : m.device.read64 m.device.requestAddr = m.device.requestAddr := by
      have hregister : (m.device.requestAddr - m.device.base).toNat = registerRequestAddress := by
        change _ = 0x38
        bv_omega
      rw [read64, hregister]
      rfl
    have hwindow : m.allows m.device.requestAddr 8 = true := by
      simp only [allows, Bool.and_eq_true, decide_eq_true_eq]
      change ((8 ≠ 0 ∧ m.device.base ≤ _) ∧ _) ∧ m.device.requestAddr + 8 - 1 < m.device.base + 0x100
      refine ⟨⟨⟨by decide, ?_⟩, ?_⟩, ?_⟩ <;> bv_omega
    have hregister : header.op = m.device.requestAddr := by
      rw [hop', Machine.read64, if_pos hwindow]
      exact hself
    have hlarge : 0x38 ≤ header.op.toNat := by
      rw [hregister]
      bv_omega
    rcases hop with h | h | h <;> rw [h] at hlarge <;> exact absurd hlarge (by decide)
  refine ⟨fun ht => hkick ?_, fun ht => hkick ht.1⟩
  have haligned := and_not_seven (triggers_byte ht).1
  have hoffset := ht.1
  rwa [haligned] at hoffset

/-- The device has moved nowhere, and neither has its request. -/
structure Stayed (m m' : Bus) : Prop where
  base : m'.device.base = m.device.base
  requestAddr : m'.device.requestAddr = m.device.requestAddr

lemma finish_ioError (hstayed : Stayed m m') (hheader : readRequestHeader m = some header)
    (hop : header.op = requestRead ∨ header.op = requestWrite ∨ header.op = requestFlush) :
    ∃ m'', finish (store nested) requestStatusIoError m' = some m'' ∧ m''.device.base = m.device.base := by
  obtain ⟨hbase, hrequest⟩ := hstayed
  have hallows : m'.allows (m'.device.requestAddr + 8) 1 = m.allows (m.device.requestAddr + 8) 1 := by
    rw [hrequest]
    exact allows_congr hbase _ 1
  rw [← hbase]
  apply finish_returns (by decide)
  intro _ h
  rw [hallows] at h
  rw [hrequest, hbase]
  exact status_not_kick hheader hop h

lemma submitRead_returns (h : Accepted m image header) (hheader : readRequestHeader m = some header)
    (hop : header.op = requestRead)
    (hsafe : (image.read (header.sector * DiskImage.sectorSize) m.device.bounce header.diskBytes).1 = true →
      ∀ i < header.diskBytes, m.allows (header.bufferPhys + BitVec.ofNat 64 i) 1 = true →
        ¬ Triggers m.device.base (.byte (header.bufferPhys + BitVec.ofNat 64 i) (image.byte (header.diskOffset + i)))) :
    ∃ m', submitRead (store nested) image header header.diskBytes m = some m' ∧ m'.device.base = m.device.base := by
  have hread := fun i => @DiskImage.read_byte image (header.sector * DiskImage.sectorSize) header.diskBytes i
    m.device.bounce
  rw [submitRead, h.touchBounce_eq]
  generalize image.read (header.sector * DiskImage.sectorSize) m.device.bounce header.diskBytes = result at hread hsafe
  obtain ⟨ok, bounce, image'⟩ := result
  simp only at hread hsafe ⊢
  cases ok with
  | false =>
    rw [if_pos rfl]
    exact finish_ioError ⟨rfl, rfl⟩ hheader (.inl hop)
  | true =>
    rw [if_neg Bool.noConfusion]
    obtain ⟨m₁, hstored, hbase, _⟩ := storeBytes_returns (store nested)
      (m := setImage image' { m with device := { m.device with bounce := bounce } })
      (P := fun m' => m'.device.base = m.device.base ∧ m'.device.bounce = bounce)
      (fun _ _ hP => hP) (fun m' i hP => congrFun hP.2 i) (by
        rintro m₀ ⟨hbase, hbounce⟩ i hi hallows
        have hbyte := hread i rfl hi
        rw [h.offset_eq] at hbyte
        have hplain : ¬ Triggers m₀.device.base (.byte (header.bufferPhys + BitVec.ofNat 64 i) (bounce i)) := by
          rw [hbase, hbyte]
          exact hsafe rfl i hi ((allows_congr (m := m) hbase _ 1).symm.trans hallows)
        obtain ⟨d, hd, hbase', hbounce'⟩ := writeRegister8_plain hplain
        exact ⟨_, hd nested, hbase'.trans hbase, hbounce'.trans hbounce⟩) ⟨rfl, rfl⟩
    obtain ⟨m₂, hfinish, hbase'⟩ := finish_returns (m := m₁) (by decide : requestStatusOk.toNat < 256)
      fun h => absurd h (by decide)
    exact ⟨m₂, by rw [transferToGuest, hstored]; exact hfinish, hbase'.trans hbase⟩

lemma refuse_returns (status : Word) (hstatus : status ∈ [requestStatusRangeError, requestStatusUnsupported, requestStatusReadOnly,
    requestStatusInvalid, requestStatusOk]) :
    ∃ m', finish (store nested) status m = some m' ∧ m'.device.base = m.device.base := by
  simp only [List.mem_cons, List.not_mem_nil, or_false] at hstatus
  rcases hstatus with rfl | rfl | rfl | rfl | rfl <;>
    exact finish_returns (by decide) fun h => absurd h (by decide)

lemma submitWrite_returns (h : Accepted m image header) (hheader : readRequestHeader m = some header)
    (hop : header.op = requestWrite) :
    ∃ m', submitWrite (store nested) image header header.diskBytes m = some m' ∧ m'.device.base = m.device.base := by
  rw [submitWrite]
  split
  · exact refuse_returns _ (by decide)
  obtain ⟨bounce, hbus, _⟩ := transferFromGuest_spec header.bufferPhys header.diskBytes m
  rw [h.touchBounce_eq, hbus]
  simp only
  split
  · exact finish_ioError ⟨rfl, rfl⟩ hheader (.inr (.inl hop))
  split
  · exact finish_ioError ⟨rfl, rfl⟩ hheader (.inr (.inl hop))
  · obtain ⟨m', hm', hbase⟩ := refuse_returns (m := setImage (image.write (header.sector *
        DiskImage.sectorSize) bounce header.diskBytes).2.flush.2 { m with device := { m.device with bounce := bounce } })
      requestStatusOk (by decide)
    exact ⟨m', hm', hbase⟩

lemma submitFlush_returns (hheader : readRequestHeader m = some header) (hop : header.op = requestFlush) :
    ∃ m', submitFlush (store nested) image m = some m' ∧ m'.device.base = m.device.base := by
  rw [submitFlush]
  split
  · exact finish_ioError ⟨rfl, rfl⟩ hheader (.inr (.inr hop))
  · obtain ⟨m', hm', hbase⟩ := refuse_returns (m := setImage image.flush.2 m)
      requestStatusOk (by decide)
    exact ⟨m', hm', hbase⟩

lemma submitRequest_returns (h : ¬ Reenters m) :
    ∃ m', submitRequest (store nested) m = some m' ∧ m'.device.base = m.device.base := by
  have hbusy : (markBusy m).device.base = m.device.base := rfl
  rw [submitRequest, ← hbusy]
  simp only
  split
  · exact refuse_returns _ (by decide)
  next image himage =>
  cases hheader : readRequestHeader (markBusy m) with
  | none => exact refuse_returns _ (by decide)
  | some header =>
    simp only
    split
    · exact refuse_returns _ (by decide)
    next hcount =>
    split
    · exact refuse_returns _ (by decide)
    next hlen =>
    split
    · exact refuse_returns _ (by decide)
    next hrange =>
    have haccepted := accepted_of_checks himage hcount hrange
    rw [haccepted.bytes_eq]
    split
    · next hop =>
      apply submitRead_returns haccepted hheader hop
      intro hread i hi hallows ht
      refine h ⟨image, header, hheader, haccepted, hop, ?_, hread, i, hi, hallows, ht⟩
      rw [BitVec.lt_def, haccepted.bytes_eq] at hlen
      omega
    split
    · next hop => exact submitWrite_returns haccepted hheader hop
    split
    · next hop => exact submitFlush_returns hheader hop
    · exact refuse_returns _ (by decide)

lemma store_eq_submit {p : RegisterStore} (ht : Triggers m.device.base p) : store nested p m = submitRequest nested m := by
  cases p with
  | byte addr val =>
    obtain ⟨hkick, hone⟩ := ht
    rw [store, writeRegister8, merge_kick hkick, hone, writeRegister64, hkick]
    rfl
  | half addr val => exact ht.elim
  | word addr val => exact ht.elim
  | double addr val =>
    obtain ⟨hkick, hone⟩ := ht
    rw [store, hone, writeRegister64, hkick]
    rfl

lemma parts_apart (s : RegisterStore) :
    (parts s).Pairwise fun p q => ∀ base, Triggers base p → ¬ Triggers base q := by
  -- Two of four consecutive addresses are not both aligned.
  have hbyte : ∀ (a b base : Word) (v v' : BitVec 8), 0 < (b - a).toNat ∧ (b - a).toNat < 4 →
      Triggers base (.byte a v) → ¬ Triggers base (.byte b v') := by
    intro a b base v v' hab ha hb
    have hseven : (7 : Word) = BitFields.lowMask 64 3 := by decide
    have ha' := congrArg BitVec.toNat (triggers_byte ha).1
    have hb' := congrArg BitVec.toNat (triggers_byte hb).1
    rw [hseven, BitFields.toNat_and_lowMask] at ha' hb'
    change _ = 0 at ha'
    change _ = 0 at hb'
    bv_omega
  cases s with
  | byte addr val => exact List.pairwise_singleton _ _
  | half addr val =>
    apply List.pairwise_pair.mpr
    intro base
    apply hbyte
    bv_omega
  | word addr val =>
    simp only [parts, List.pairwise_cons, List.mem_cons, List.not_mem_nil, or_false]
    refine ⟨?_, ?_, ?_, fun _ h => h.elim, .nil⟩
    · rintro q (rfl | rfl | rfl) base <;> apply hbyte <;> bv_omega
    · rintro q (rfl | rfl) base <;> apply hbyte <;> bv_omega
    · rintro q rfl base
      apply hbyte
      bv_omega
  | double addr val => exact List.pairwise_singleton _ _

lemma returns_of_quiet {s : RegisterStore} (h : Quiet store Triggers Reenters (parts s) m) :
    NestedCalls.Returns store s m := by
  obtain ⟨m', hm'⟩ := parts_return (NestedCalls.within store 1) (fun p hp m hp' => plain_part hp m hp')
    (fun p _ m ht hr => by
      rw [store_eq_submit ht]
      exact submitRequest_returns hr) (parts_apart s) h
  refine ⟨2, ?_⟩
  change (store (NestedCalls.within store 1) s m).isSome = true
  rw [store_eq_parts, hm']
  rfl

end PvBlockDevice

namespace LiteSdCardDevice

open Machine

/-- The register writes that a store to the controller's window is made of. -/
def parts : RegisterStore → List RegisterStore
  | .byte addr val => [.byte addr val]
  | .half addr val => [.byte addr (val.setWidth 8), .byte (addr + 1) ((val >>> 8).setWidth 8)]
  | .word addr val => [.word addr val]
  | .double addr val => [.word addr (val.setWidth 32), .word (addr + 4) ((val >>> 32).setWidth 32)]

/-- The register write sends a command. -/
def Triggers (base : Word) : RegisterStore → Prop
  | .byte addr val => ((addr &&& ~~~3) - base).toNat = coreBase + 0x08 ∧
      val.setWidth 32 <<< ((addr &&& 3).toNat * 8) &&& (1 : BitVec 32) ≠ 0
  | .word addr val => (addr - base).toNat = coreBase + 0x08 ∧ val &&& 1 ≠ 0
  | _ => False

/-- The command runs a read transfer. -/
def Sends (d : LiteSdCardDevice) : Prop :=
  d.ReadsDisk ∨ d.command = 6 ∧ d.appCmdPending = false ∧ d.transfer = transferRead ∨
    (d.command = 13 ∨ d.command = 51) ∧ d.appCmdPending = true ∧ d.transfer = transferRead

/-- The command transfers into a buffer that lies over the send register, with a byte that sends. -/
def Reenters (m : Bus) : Prop :=
  m.device.Sends ∧ m.device.reader.enable ≠ 0 ∧ ∃ payload,
    (readPayload m.device.command m.device.cmdArgument (started m).device).1 = some payload ∧
    ∃ i < payload.size, m.allows (m.device.reader.dmaBase + BitVec.ofNat 64 i) 1 = true ∧
      Triggers m.device.base (.byte (m.device.reader.dmaBase + BitVec.ofNat 64 i) (payload.byte i))

variable {m m' m₀ : Bus} {nested : Nested LiteSdCardDevice} {addr : Word}

lemma store_eq_parts (s : RegisterStore) (m : Bus) :
    store nested s m = (parts s).foldlM (fun m p => store nested p m) m := by
  cases s with
  | byte addr val => exact (bind_pure _).symm
  | half addr val =>
    change (writeRegister8 nested addr _ m).bind _ = (writeRegister8 nested addr _ m).bind _
    congr 1
    funext m
    exact (bind_pure _).symm
  | word addr val => exact (bind_pure _).symm
  | double addr val =>
    change (writeRegister32 nested addr _ m).bind _ = (writeRegister32 nested addr _ m).bind _
    congr 1
    funext m
    exact (bind_pure _).symm

lemma base_ite {p : Prop} [Decidable p] {d d' : LiteSdCardDevice} {base : Word} (h : d.base = base) (h' : d'.base = base) :
    (if p then d else d').base = base := by
  split
  · exact h
  · exact h'

lemma writePlainRegister_base (offset : ℕ) (value : BitVec 32) (d : LiteSdCardDevice) :
    (writePlainRegister offset value d).base = d.base := by
  rw [writePlainRegister]
  iterate 19 refine base_ite rfl ?_
  rfl

/-- A register write that sends no command changes the device alone, and not its place. -/
lemma writeRegister32_plain {value : BitVec 32} (h : ¬ Triggers m.device.base (.word addr value)) :
    ∃ m' : Bus, (∀ nested, writeRegister32 nested addr value m = some m') ∧ m'.device.base = m.device.base := by
  by_cases hsend : (addr - m.device.base).toNat = coreBase + 0x08
  · refine ⟨m, fun nested => ?_, rfl⟩
    rw [writeRegister32]
    exact (if_pos hsend).trans (if_neg fun hv => h ⟨hsend, hv⟩)
  · exact ⟨_, fun _ => if_neg hsend, writePlainRegister_base _ _ _⟩

-- The send register reads as zero, so a byte store to it writes that byte alone.
lemma merge_send {d : LiteSdCardDevice} (h : (addr - d.base).toNat = coreBase + 0x08) (mask value : BitVec 32) :
    d.read32 addr &&& mask ||| value = value := by
  have hzero : d.read32 addr = 0#32 := by
    rw [read32, h]
    rfl
  rw [hzero, BitVec.zero_and, BitVec.zero_or]

lemma writeRegister8_plain {value : BitVec 8} (h : ¬ Triggers m.device.base (.byte addr value)) :
    ∃ m' : Bus, (∀ nested, writeRegister8 nested addr value m = some m') ∧ m'.device.base = m.device.base := by
  apply writeRegister32_plain
  rintro ⟨hsend, hodd⟩
  rw [merge_send hsend] at hodd
  exact h ⟨hsend, hodd⟩

lemma plain_part {s p : RegisterStore} (hp : p ∈ parts s) (m : Bus) (h : ¬ Triggers m.device.base p) :
    ∃ m', (∀ nested, store nested p m = some m') ∧ m'.device.base = m.device.base := by
  have hprimitive : (∃ addr val, p = .byte addr val) ∨ ∃ addr val, p = .word addr val := by
    cases s with
    | byte addr val => exact .inl ⟨_, _, List.mem_singleton.mp hp⟩
    | half addr val =>
      rw [parts, List.mem_pair] at hp
      rcases hp with rfl | rfl <;> exact .inl ⟨_, _, rfl⟩
    | word addr val => exact .inr ⟨_, _, List.mem_singleton.mp hp⟩
    | double addr val =>
      rw [parts, List.mem_pair] at hp
      rcases hp with rfl | rfl <;> exact .inr ⟨_, _, rfl⟩
  rcases hprimitive with ⟨addr, val, rfl⟩ | ⟨addr, val, rfl⟩
  · exact writeRegister8_plain h
  · exact writeRegister32_plain h

lemma runReadTransfer_returns {c argument : BitVec 32} (hbase : (readPayload c argument m.device).2.base = m.device.base)
    (hsafe : ∀ payload, (readPayload c argument m.device).1 = some payload →
      (readPayload c argument m.device).2.reader.enable ≠ 0 → ∀ i < payload.size,
      m.allows ((readPayload c argument m.device).2.reader.dmaBase + BitVec.ofNat 64 i) 1 = true →
      ¬ Triggers m.device.base (.byte ((readPayload c argument m.device).2.reader.dmaBase + BitVec.ofNat 64 i)
        (payload.byte i))) :
    ∃ result, runReadTransfer (store nested) c argument m = some result ∧ result.2.device.base = m.device.base := by
  rw [runReadTransfer]
  simp only
  generalize readPayload c argument m.device = read at hbase hsafe ⊢
  obtain ⟨sent, d⟩ := read
  simp only at hbase hsafe ⊢
  cases sent with
  | none => exact ⟨_, rfl, hbase⟩
  | some payload =>
    simp only
    split
    · next hsend =>
      obtain ⟨m₁, hstored, hbase₁⟩ := storeBytes_returns (store nested)
        (m := { m with device := d }) (P := fun m' => m'.device.base = m.device.base)
        (f := payload.byte)
        (fun _ _ hP => hP) (fun _ _ _ => rfl) (by
          intro m₀ hP i hi hallows
          obtain ⟨m', hm', hbase'⟩ := writeRegister8_plain (m := m₀)
            (by
              rw [hP]
              exact hsafe payload rfl hsend.1 i hi ((allows_congr (m := m) hP _ 1).symm.trans hallows))
          exact ⟨m', hm' nested, hbase'.trans hP⟩) hbase
      rw [copyToGuest, hstored]
      exact ⟨_, rfl, hbase₁⟩
    · exact ⟨_, rfl, hbase⟩

lemma readPayload_base (c argument : BitVec 32) (d : LiteSdCardDevice) :
    (readPayload c argument d).2.base = d.base ∧ (readPayload c argument d).2.reader = d.reader := by
  rw [readPayload]
  split
  · split
    · exact ⟨rfl, rfl⟩
    · split <;> exact ⟨rfl, rfl⟩
  · split
    · exact ⟨rfl, rfl⟩
    · split
      · exact ⟨rfl, rfl⟩
      · split <;> exact ⟨rfl, rfl⟩

lemma setHighSpeed_base (d : LiteSdCardDevice) : (setHighSpeed d).base = d.base := by
  rw [setHighSpeed]
  exact base_ite rfl rfl

/-- The read transfer of a command that does not send another one comes to its end. -/
lemma readCommand_returns (nested : Nested LiteSdCardDevice) (done : Bus → Bus) (otherwise : Bus → Option Bus)
    (hsends : m.device.Sends)
    (h : ¬ Reenters m) (hdone : ∀ m, (done m).device.base = m.device.base)
    (hotherwise : ∀ m, ∃ m', otherwise m = some m' ∧ m'.device.base = m.device.base) :
    ∃ m', readCommand (store nested) m.device.command done otherwise (started m) = some m' ∧
      m'.device.base = m.device.base := by
  obtain ⟨hbase, hreader⟩ := readPayload_base m.device.command m.device.cmdArgument (started m).device
  obtain ⟨⟨ok, m₁⟩, hrun, hbase₁⟩ := runReadTransfer_returns (m := started m)
    (c := m.device.command) hbase (by
      intro payload hpayload henable i hi hallows ht
      rw [hreader] at henable hallows ht
      exact h ⟨hsends, henable, payload, hpayload, i, hi, hallows, ht⟩)
  have hrun' : runReadTransfer (store nested) m.device.command (started m).device.cmdArgument (started m) =
      some (ok, m₁) := hrun
  rw [readCommand, hrun', Option.bind_some]
  cases ok with
  | true => exact ⟨done m₁, rfl, (hdone m₁).trans hbase₁⟩
  | false =>
    obtain ⟨m', hm', hbase'⟩ := hotherwise m₁
    exact ⟨m', hm', hbase'.trans hbase₁⟩

lemma writeCommand_base (c t : BitVec 32) (m : Bus) :
    ∃ m', writeCommand c t m = some m' ∧ m'.device.base = m.device.base := by
  have hbase : (runWriteTransfer c m.device.cmdArgument m).2.device.base = m.device.base := by
    rw [runWriteTransfer]
    split
    · rfl
    · simp only
      split
      · rfl
      · split <;> rfl
  rw [writeCommand]
  split
  · exact ⟨_, rfl, hbase⟩
  · exact ⟨_, rfl, hbase⟩

lemma handleCommandSend_returns (h : ¬ Reenters m) :
    ∃ m', handleCommandSend (store nested) m = some m' ∧ m'.device.base = m.device.base := by
  have hread := fun (done : Bus → Bus) otherwise (hsends : m.device.Sends) =>
    readCommand_returns nested done otherwise hsends h
  have hfail : ∀ t m, ∃ m', some (failCommand t m) = some m' ∧ m'.device.base = m.device.base :=
    fun t m => ⟨_, rfl, rfl⟩
  change ∃ m', runCommand (store nested) m.device.command m.device.transfer m.device.appCmdPending
    (update (fun d => { d with appCmdPending := false }) (update clearTransferState m)) = some m' ∧ _
  rw [runCommand]
  by_cases h0 : m.device.command = 0
  · exact ⟨_, if_pos h0, rfl⟩
  rw [if_neg h0]
  by_cases h2 : m.device.command = 2 ∨ m.device.command = 10
  · exact ⟨_, if_pos h2, rfl⟩
  rw [if_neg h2]
  by_cases h3 : m.device.command = 3
  · exact ⟨_, if_pos h3, rfl⟩
  rw [if_neg h3]
  by_cases h6 : m.device.command = 6
  · rw [if_pos h6]
    cases happ : m.device.appCmdPending with
    | true => exact ⟨_, if_pos rfl, rfl⟩
    | false =>
      rw [if_neg Bool.false_ne_true]
      by_cases ht : m.device.transfer = transferRead
      · rw [if_pos ht]
        exact hread _ _ (.inr (.inl ⟨h6, happ, ht⟩)) (fun m => setHighSpeed_base m.device) (hfail _)
      · exact ⟨_, if_neg ht, rfl⟩
  rw [if_neg h6]
  by_cases h7 : m.device.command = 7
  · exact ⟨_, if_pos h7, rfl⟩
  rw [if_neg h7]
  by_cases h8 : m.device.command = 8
  · exact ⟨_, if_pos h8, rfl⟩
  rw [if_neg h8]
  by_cases h9 : m.device.command = 9
  · exact ⟨_, if_pos h9, rfl⟩
  rw [if_neg h9]
  by_cases h12 : m.device.command = 12
  · exact ⟨_, if_pos h12, rfl⟩
  rw [if_neg h12]
  by_cases h13 : m.device.command = 13
  · rw [if_pos h13]
    by_cases hgo : (m.device.appCmdPending && m.device.transfer == transferRead) = true
    · rw [if_pos hgo]
      rw [Bool.and_eq_true, beq_iff_eq] at hgo
      exact hread _ _ (.inr (.inr ⟨.inl h13, hgo⟩)) (fun _ => rfl) fun m => ⟨_, rfl, rfl⟩
    · exact ⟨_, if_neg hgo, rfl⟩
  rw [if_neg h13]
  by_cases h16 : m.device.command = 16
  · exact ⟨_, if_pos h16, rfl⟩
  rw [if_neg h16]
  by_cases h17 : m.device.command = 17 ∨ m.device.command = 18
  · rw [if_pos h17]
    exact hread _ _ (.inl h17) (fun _ => rfl) (hfail _)
  rw [if_neg h17]
  by_cases h24 : m.device.command = 24 ∨ m.device.command = 25
  · rw [if_pos h24]
    exact writeCommand_base _ _ _
  rw [if_neg h24]
  by_cases h41 : m.device.command = 41
  · rw [if_pos h41]
    cases m.device.appCmdPending with
    | true => exact ⟨_, if_pos rfl, rfl⟩
    | false => exact ⟨_, if_neg Bool.false_ne_true, rfl⟩
  rw [if_neg h41]
  by_cases h51 : m.device.command = 51
  · rw [if_pos h51]
    by_cases hgo : (m.device.appCmdPending && m.device.transfer == transferRead) = true
    · rw [if_pos hgo]
      rw [Bool.and_eq_true, beq_iff_eq] at hgo
      exact hread _ _ (.inr (.inr ⟨.inr h51, hgo⟩)) (fun _ => rfl) (hfail _)
    · exact ⟨_, if_neg hgo, rfl⟩
  rw [if_neg h51]
  by_cases h55 : m.device.command = 55
  · exact ⟨_, if_pos h55, rfl⟩
  · exact ⟨_, if_neg h55, rfl⟩

lemma store_eq_send {p : RegisterStore} (ht : Triggers m.device.base p) :
    store nested p m = handleCommandSend nested m := by
  cases p with
  | byte addr val =>
    obtain ⟨hoffset, hodd⟩ := ht
    rw [store, writeRegister8, merge_send hoffset, writeRegister32]
    exact (if_pos hoffset).trans (if_pos hodd)
  | half addr val => exact ht.elim
  | word addr val => exact (if_pos ht.1).trans (if_pos ht.2)
  | double addr val => exact ht.elim

lemma triggers_byte {base : Word} {value : BitVec 8} (h : Triggers base (.byte addr value)) : addr &&& 3 = 0 := by
  obtain ⟨_, hodd⟩ := h
  by_contra hlow
  apply hodd
  have hshift : 0 < (addr &&& 3).toNat * 8 := by
    have : (addr &&& 3).toNat ≠ 0 := fun h => hlow (BitVec.eq_of_toNat_eq h)
    omega
  apply BitVec.eq_of_getLsbD_eq
  intro i _
  change (_ <<< _ &&& 1#32).getLsbD i = (0#32).getLsbD i
  rw [BitVec.getLsbD_and, BitVec.getLsbD_shiftLeft, BitVec.getLsbD_one, BitVec.getLsbD_zero]
  by_cases hi : i = 0
  · rw [hi, decide_eq_true hshift, Bool.not_true, Bool.and_false, Bool.false_and, Bool.false_and]
  · rw [decide_eq_false hi, Bool.and_false, Bool.and_false]

lemma parts_apart (s : RegisterStore) :
    (parts s).Pairwise fun p q => ∀ base, Triggers base p → ¬ Triggers base q := by
  cases s with
  | byte addr val => exact List.pairwise_singleton _ _
  | half addr val =>
    apply List.pairwise_pair.mpr
    intro base hlow hhigh
    have hthree : (3 : Word) = BitFields.lowMask 64 2 := by decide
    have hlow' := congrArg BitVec.toNat (triggers_byte hlow)
    have hhigh' := congrArg BitVec.toNat (triggers_byte hhigh)
    rw [hthree, BitFields.toNat_and_lowMask] at hlow' hhigh'
    change _ = 0 at hlow'
    change _ = 0 at hhigh'
    bv_omega
  | word addr val => exact List.pairwise_singleton _ _
  | double addr val =>
    apply List.pairwise_pair.mpr
    rintro base ⟨hlow, _⟩ ⟨hhigh, _⟩
    bv_omega

lemma returns_of_quiet {s : RegisterStore} (h : Quiet store Triggers Reenters (parts s) m) :
    NestedCalls.Returns store s m := by
  obtain ⟨m', hm'⟩ := parts_return (NestedCalls.within store 1) (fun p hp m hp' => plain_part hp m hp')
    (fun p _ m ht hr => by
      rw [store_eq_send ht]
      exact handleCommandSend_returns hr) (parts_apart s) h
  refine ⟨2, ?_⟩
  change (store (NestedCalls.within store 1) s m).isSome = true
  rw [store_eq_parts, hm']
  rfl

end LiteSdCardDevice

open Machine

/-- A store to either device's window ends when the requests it starts do not store into the register that starts them. -/
theorem store_returns (s : RegisterStore) :
    (∀ m : PvBlockDevice.Bus,
      Quiet PvBlockDevice.store PvBlockDevice.Triggers PvBlockDevice.Reenters (PvBlockDevice.parts s) m →
        NestedCalls.Returns PvBlockDevice.store s m) ∧
    ∀ m : LiteSdCardDevice.Bus,
      Quiet LiteSdCardDevice.store LiteSdCardDevice.Triggers LiteSdCardDevice.Reenters (LiteSdCardDevice.parts s) m →
        NestedCalls.Returns LiteSdCardDevice.store s m :=
  ⟨fun _ h => PvBlockDevice.returns_of_quiet h, fun _ h => LiteSdCardDevice.returns_of_quiet h⟩

theorem store_returns_ordinary :
    NestedCalls.Returns PvBlockDevice.store (.double (0x8000 + 0x40) 1)
      (PvBlockDevice.oneSector PvBlockDevice.requestRead fun _ => [.moved 511]) ∧
    NestedCalls.Returns LiteSdCardDevice.store (.word (0x8000 + 0x808) 1) (LiteSdCardDevice.readSector 0) := by
  constructor
  · have hfields : (PvBlockDevice.readRequestHeader
        (PvBlockDevice.markBusy (PvBlockDevice.oneSector PvBlockDevice.requestRead fun _ => [.moved 511]))).map
        (fun header => (header.bufferPhys, header.diskBytes)) = some (0x1100, 512) := by decide +kernel
    have hbuffer : ∀ i < 512, (PvBlockDevice.oneSector PvBlockDevice.requestRead fun _ => [.moved 511]).allows
        (0x1100 + BitVec.ofNat 64 i) 1 = false := by decide +kernel
    apply (store_returns _).1
    apply quiet_singleton
    rintro ⟨image, header, hheader, _, _, _, _, i, hi, hallows, _⟩
    rw [hheader] at hfields
    obtain ⟨hbase, hsize⟩ := Prod.mk.inj (Option.some.inj hfields)
    rw [hbase, hbuffer i (hsize ▸ hi)] at hallows
    exact Bool.noConfusion hallows
  · have hsize : (LiteSdCardDevice.readPayload (LiteSdCardDevice.readSector 0).device.command
        (LiteSdCardDevice.readSector 0).device.cmdArgument
          (LiteSdCardDevice.started (LiteSdCardDevice.readSector 0)).device).1.map LiteSdCardDevice.Payload.size =
        some 512 := by decide +kernel
    have hbase : (LiteSdCardDevice.readSector 0).device.reader.dmaBase = 0x1100 := by decide +kernel
    have hbuffer : ∀ i < 512, (LiteSdCardDevice.readSector 0).allows (0x1100 + BitVec.ofNat 64 i) 1 = false := by
      decide +kernel
    apply (store_returns _).2
    apply quiet_singleton
    rintro ⟨_, _, payload, hpayload, i, hi, hallows, _⟩
    rw [hpayload, Option.map_some, Option.some.injEq] at hsize
    rw [hbase, hbuffer i (hsize ▸ hi)] at hallows
    exact Bool.noConfusion hallows

namespace PvBlockDevice

def onesImage : DiskImage where
  file := fun _ => 1
  fileSizeBytes := 512
  isReadOnly := false
  dirty := false
  host := fun _ => [.moved 511]
  overrun := false

/-- A request to read a sector of ones over the device's own kick register. -/
def selfKicking : Bus where
  memory := ⟨[{ base := 0x1000, size := 0x1000, kind := .ram
                data := [(0x00, requestRead), (0x10, 0), (0x18, 1), (0x20, 0x8040), (0x28, 0x200)].foldl
                  (fun data field => ByteMemory.store data field.1 8 field.2) fun _ => 0 }],
    List.pairwise_singleton _ _⟩
  device :=
    { base := 0x8000
      image := some onesImage
      requestAddr := 0x1000
      status := statusReady
      bounce := fun _ => 0
      interruptLine := false
      bounceOverrun := false }

/-- The request is as it was when it first kicked. -/
structure SelfKicks (call : RegisterStore) (m : Bus) : Prop where
  kick : call = .double 0x8040 1 ∨ call = .byte 0x8040 1
  memory : m.memory = selfKicking.memory
  base : m.device.base = selfKicking.device.base
  requestAddr : m.device.requestAddr = selfKicking.device.requestAddr
  image : m.device.image = selfKicking.device.image

lemma storeBytes_first {δ : Type} [BusDevice δ] {nested : Nested δ} {addr : Word} {byte : Machine δ → ℕ → BitVec 8}
    {m : Machine δ} {len : ℕ} (h : (m.storeBytes nested addr byte (len + 1)).isSome) :
    (m.write8 nested addr (byte m 0)).isSome := by
  induction len with
  | zero =>
    rw [storeBytes, storeBytes, Option.bind_some, BitVec.add_zero] at h
    exact h
  | succ len ih =>
    rw [storeBytes] at h
    exact ih (Option.isSome_of_isSome_bind h)

lemma read_onesImage (dest : ℕ → BitVec 8) : (onesImage.read 0 dest 512).1 = true ∧
    (onesImage.read 0 dest 512).2.1 0 = 1 ∧ (onesImage.read 0 dest 512).2.2 = onesImage :=
  ⟨rfl, rfl, rfl⟩

lemma selfKicks_again {call : RegisterStore} (h : SelfKicks call m) (hreturned : (store nested call m).isSome) :
    ∃ call' m', SelfKicks call' m' ∧ (nested call' m').isSome := by
  obtain ⟨hkick, hmemory, hbase, hrequest, himage⟩ := h
  have htriggers : Triggers m.device.base call := by
    rw [hbase]
    rcases hkick with rfl | rfl <;> exact ⟨by decide, by decide⟩
  have hoff : ∀ i < 64, selfKicking.allows (0x1000 + BitVec.ofNat 64 i) 1 = false := by decide +kernel
  have hheader : readRequestHeader (markBusy m) = some (requestHeader selfKicking) := by
    have haligned : ¬ (markBusy m).device.requestAddr &&& 7 ≠ 0 := by
      change ¬ m.device.requestAddr &&& 7 ≠ 0
      rw [hrequest]
      decide
    rw [readRequestHeader, if_neg haligned]
    exact congrArg some (requestHeader_congr (m := selfKicking) hmemory hbase hrequest hoff)
  have hfields : ¬ maxSectorsPerRequest < (requestHeader selfKicking).sectorCount ∧
      ¬ (requestHeader selfKicking).bufferLen < (requestHeader selfKicking).sectorCount * DiskImage.sectorSize ∧
      (requestHeader selfKicking).op = requestRead ∧ (requestHeader selfKicking).bufferPhys = 0x8040 ∧
      ((requestHeader selfKicking).sectorCount * DiskImage.sectorSize).toNat = 511 + 1 ∧
      (requestHeader selfKicking).sector * DiskImage.sectorSize = 0 ∧
      ¬ (onesImage.sectorCount < (requestHeader selfKicking).sector ∨
        onesImage.sectorCount - (requestHeader selfKicking).sector < (requestHeader selfKicking).sectorCount) := by
    decide +kernel
  obtain ⟨hcount, hlen, hop, hbuffer, hbytes, hoffset, hrange⟩ := hfields
  rw [store_eq_submit htriggers, submitRequest] at hreturned
  simp only at hreturned
  have himage' : (markBusy m).device.image = some onesImage := himage
  rw [himage'] at hreturned
  simp only at hreturned
  rw [hheader] at hreturned
  simp only at hreturned
  rw [if_neg hcount, if_neg hlen, if_neg hrange, if_pos hop] at hreturned
  rw [submitRead, hbytes, hoffset, hbuffer] at hreturned
  simp only at hreturned
  obtain ⟨hok, hfirst, hsame⟩ := read_onesImage (touchBounce 512 (markBusy m)).device.bounce
  rw [if_neg (by rw [hok]; exact Bool.noConfusion)] at hreturned
  have hstore := storeBytes_first (Option.isSome_of_isSome_bind hreturned)
  rw [write8, if_pos] at hstore
  · refine ⟨_, _, ?_, hstore⟩
    exact ⟨.inr (congrArg (RegisterStore.byte _) hfirst), hmemory, hbase, hrequest, congrArg some hsame⟩
  · exact (allows_congr (m := selfKicking) hbase _ _).trans (by decide)

/-- The kick of such a request never comes back. -/
theorem selfKicking_never_returns : ¬ NestedCalls.Returns store (.double (0x8000 + 0x40) 1) selfKicking :=
  NestedCalls.not_returns (fun _ _ _ => selfKicks_again) ⟨.inl rfl, rfl, rfl, rfl, rfl⟩

end PvBlockDevice

end Little64.Emulator

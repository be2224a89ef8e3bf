import Little64.Emulator.TlbCoherence

/-! Wide accesses translate their first byte only: when the other bytes go where
their own pages say. -/

namespace Little64.Emulator

open AddressTranslator LittleEndian

inductive Width
  | two
  | four
  | eight
  deriving DecidableEq, Repr

def Width.bits : Width → ℕ
  | .two => 16
  | .four => 32
  | .eight => 64

def Width.bytes (w : Width) : ℕ := w.bits / 8

/-- A data load, a data store or an instruction fetch wider than a byte. -/
inductive WideAccess
  | load (width : Width)
  | store (width : Width) (value : Word)
  | fetch (width : Width)
  deriving DecidableEq, Repr

namespace WideAccess

def width : WideAccess → Width
  | .load w => w
  | .store w _ => w
  | .fetch w => w

def kind : WideAccess → AccessType
  | .load _ => .read
  | .store _ _ => .write
  | .fetch _ => .execute

def readAs (s : Cpu) (access : AccessType) (addr operationPc : Word) : Width → Word × Cpu
  | .two => let r := s.readMemory16 addr operationPc access; (r.1.setWidth 64, r.2)
  | .four => let r := s.readMemory32 addr operationPc access; (r.1.setWidth 64, r.2)
  | .eight => s.readMemory64 addr operationPc access

def writeAs (s : Cpu) (addr value operationPc : Word) : Width → Cpu
  | .two => s.writeMemory16 addr (value.setWidth 16) operationPc
  | .four => s.writeMemory32 addr (value.setWidth 32) operationPc
  | .eight => s.writeMemory64 addr value operationPc

def perform (s : Cpu) (addr operationPc : Word) : WideAccess → Cpu
  | .load w => (readAs s .read addr operationPc w).2
  | .store w value => writeAs s addr value operationPc w
  | .fetch w => (readAs s .execute addr operationPc w).2

end WideAccess

namespace Cpu

variable {s : Cpu} {addr operationPc : Word} {access : AccessType}

/-- Where one byte of an access lies by its own page; a fetch is aligned as a whole, not byte by byte. -/
def translateByte (s : Cpu) (virtualAddr : Word) (access : AccessType) : PagingTranslateResult :=
  resolve s.registers.isUserMode virtualAddr access (pageLeaf s.bus s.root virtualAddr)

lemma translateByte_mapped {virtualAddr physical : Word} :
    s.translateByte virtualAddr access = .mapped physical ↔
      ∃ leaf, pageLeaf s.bus s.root virtualAddr = .inr leaf ∧
        leaf.permits s.registers.isUserMode access = true ∧ physical = leaf.physical virtualAddr := by
  unfold translateByte
  cases hl : pageLeaf s.bus s.root virtualAddr with
  | inl fault =>
    refine ⟨fun h => PagingTranslateResult.noConfusion h, ?_⟩
    rintro ⟨leaf, hc, _⟩
    cases hc
  | inr leaf =>
    rw [resolve_leaf_mapped]
    refine ⟨fun h => ⟨leaf, rfl, h⟩, ?_⟩
    rintro ⟨leaf', hc, h⟩
    obtain rfl := Sum.inr.inj hc
    exact h

lemma translateByte_of_translate (hp : s.registers.isPagingEnabled = true) {physical : Word}
    (h : s.translateAddress addr access = .mapped physical) : s.translateByte addr access = .mapped physical :=
  translateByte_mapped.mpr ((translateAddress_mapped hp).mp h).2

lemma translateByte_add {physical : Word} (h : s.translateByte addr access = .mapped physical) {i : ℕ}
    (hi : addr.toNat % 4096 + i < 4096) :
    s.translateByte (addr + BitVec.ofNat 64 i) access = .mapped (physical + BitVec.ofNat 64 i) := by
  obtain ⟨leaf, hl, hperm, rfl⟩ := translateByte_mapped.mp h
  have hpage : addr >>> 12 = (addr + BitVec.ofNat 64 i) >>> 12 := by
    rw [BitFields.ushiftRight_eq_iff, BitVec.toNat_add, BitVec.toNat_ofNat]
    have := addr.isLt
    omega
  exact translateByte_mapped.mpr
    ⟨leaf, (pageLeaf_congr hpage).symm.trans hl, hperm, (Leaf.physical_add (pageLeaf_leaf hl).2 hi).symm⟩

/-- The TLB answers an access that the page tables answer differently. -/
def StaleHit (s : Cpu) (virtualAddr : Word) (access : AccessType) : Prop :=
  s.mapResult virtualAddr access ≠ s.translateAddress virtualAddr access

instance (virtualAddr : Word) : Decidable (s.StaleHit virtualAddr access) :=
  inferInstanceAs (Decidable (¬ _))

/-- The first byte of an access tells whether the TLB answered as the page tables do. -/
lemma not_staleHit_of_byte (hp : s.registers.isPagingEnabled = true)
    (h : ∀ physical, s.mapResult addr access = .mapped physical → s.translateByte addr access = .mapped physical) :
    ¬ s.StaleHit addr access := by
  intro hs
  by_cases hc : ¬ (access = .execute ∧ addr &&& 1 ≠ 0) ∧ s.registers.isPagingEnabled ∧ s.tlbHit addr access
  · have hm : s.mapResult addr access = .mapped ((s.tlb (tlbIndex addr)).pbase ||| (addr &&& 0xFFF)) := if_pos hc
    have ht := (translateAddress_mapped hp).mpr ⟨hc.1, translateByte_mapped.mp (h _ hm)⟩
    exact hs (Eq.trans hm ht.symm)
  · exact hs (if_neg hc)

end Cpu

/-- Each byte of the access lies where its own page puts it, with that page's permissions. -/
def EachByteTranslated (s : Cpu) (virtualAddr : Word) (access : AccessType) (n : ℕ) : Outcome → Prop
  | .faulted _ _ => True
  | .performed physical _ => ∀ i, i < n →
      s.translateByte (virtualAddr + BitVec.ofNat 64 i) access = .mapped (physical + BitVec.ofNat 64 i)

def FaultsOrAccessesOwnBytes (s : Cpu) (a : WideAccess) (virtualAddr operationPc : Word) : Prop :=
  ∃ outcome, (a.perform s virtualAddr operationPc).events =
      ⟨a.kind, virtualAddr, a.width.bytes, s.registers.isUserMode, outcome⟩ :: s.events ∧
    EachByteTranslated s virtualAddr a.kind a.width.bytes outcome

/-- The bytes up to the end of the page of an address. -/
def toPageEnd (virtualAddr : Word) : ℕ := 4096 - virtualAddr.toNat % 4096

/-- Nothing stale answers, and the access faults, stays in its page, or runs on into a page that continues it. -/
def StaysContiguous (s : Cpu) (a : WideAccess) (virtualAddr : Word) : Prop :=
  ¬ s.StaleHit virtualAddr a.kind ∧
    ∀ physical, s.translateAddress virtualAddr a.kind = .mapped physical →
      virtualAddr.toNat % 4096 + a.width.bytes ≤ 4096 ∨
        s.translateByte (virtualAddr + BitVec.ofNat 64 (toPageEnd virtualAddr)) a.kind =
          .mapped (physical + BitVec.ofNat 64 (toPageEnd virtualAddr))

section Perform

variable {s : Cpu} {a : WideAccess} {virtualAddr operationPc : Word}

lemma perform_mapped {physical : Word} (operationPc : Word) (h : s.mapResult virtualAddr a.kind = .mapped physical) :
    ∃ data, (a.perform s virtualAddr operationPc).events =
      ⟨a.kind, virtualAddr, a.width.bytes, s.registers.isUserMode, .performed physical data⟩ :: s.events := by
  cases a with
  | load w => cases w <;> exact Cpu.events_readMemory_mapped h
  | store w value => cases w <;> exact ⟨_, Cpu.events_writeMemory_mapped h⟩
  | fetch w => cases w <;> exact Cpu.events_readMemory_mapped h

lemma perform_fault {cause aux : Word} (operationPc : Word) (h : s.mapResult virtualAddr a.kind = .fault cause aux) :
    ∃ entered, (a.perform s virtualAddr operationPc).events =
      ⟨a.kind, virtualAddr, a.width.bytes, s.registers.isUserMode, .faulted cause entered⟩ :: s.events := by
  cases a with
  | load w => cases w <;> exact ⟨_, Cpu.events_readMemory_fault h⟩
  | store w value => cases w <;> exact ⟨_, Cpu.events_writeMemory_fault h⟩
  | fetch w => cases w <;> exact ⟨_, Cpu.events_readMemory_fault h⟩

lemma faultsOrAccesses_iff :
    FaultsOrAccessesOwnBytes s a virtualAddr operationPc ↔
      ∀ physical, s.mapResult virtualAddr a.kind = .mapped physical → ∀ i, i < a.width.bytes →
        s.translateByte (virtualAddr + BitVec.ofNat 64 i) a.kind = .mapped (physical + BitVec.ofNat 64 i) := by
  cases h : s.mapResult virtualAddr a.kind with
  | mapped physical =>
    obtain ⟨data, he⟩ := perform_mapped operationPc h
    constructor
    · rintro ⟨outcome, ho, hb⟩ p hp
      have heq := (List.cons.inj (he.symm.trans ho)).1
      simp only [MemoryEvent.mk.injEq, true_and] at heq
      rw [← PagingTranslateResult.mapped.inj hp]
      rw [← heq] at hb
      exact hb
    · exact fun hb => ⟨_, he, hb physical rfl⟩
  | fault cause aux =>
    obtain ⟨entered, he⟩ := perform_fault operationPc h
    refine ⟨fun _ p hp => PagingTranslateResult.noConfusion hp, fun _ => ⟨_, he, trivial⟩⟩

lemma bytes_le (w : Width) : 0 < w.bytes ∧ w.bytes ≤ 8 := by cases w <;> decide

/-- From the first byte of the next page on, an access is again inside one page. -/
lemma translateByte_across {s : Cpu} {access : AccessType} {physical : Word} {n : ℕ} (hn : n ≤ 8)
    (h₀ : s.translateByte virtualAddr access = .mapped physical)
    (h₁ : s.translateByte (virtualAddr + BitVec.ofNat 64 (toPageEnd virtualAddr)) access =
      .mapped (physical + BitVec.ofNat 64 (toPageEnd virtualAddr))) {i : ℕ} (hi : i < n) :
    s.translateByte (virtualAddr + BitVec.ofNat 64 i) access = .mapped (physical + BitVec.ofNat 64 i) := by
  by_cases hin : virtualAddr.toNat % 4096 + i < 4096
  · exact Cpu.translateByte_add h₀ hin
  · have hend : toPageEnd virtualAddr ≤ i := by unfold toPageEnd; omega
    obtain ⟨j, rfl⟩ := Nat.exists_eq_add_of_le hend
    rw [ByteMemory.offset_add, ByteMemory.offset_add]
    apply Cpu.translateByte_add h₁
    have := virtualAddr.isLt
    rw [BitVec.toNat_add, BitVec.toNat_ofNat]
    unfold toPageEnd at hi ⊢
    omega

end Perform

end Little64.Emulator

import Little64.Library.Runs
import Little64.Emulator.Dispatch

/-! The software TLB is transparent: while the page tables are left alone, mapping an
address through it is translation under the current root and mode. -/

namespace Little64.Emulator

open AddressTranslator

/-- Every permission an entry vouches for is one of the leaf entry of its page. -/
def EntrySound (bus : MemoryBus) (root : Word) (entry : TlbEntry) : Prop :=
  ∀ virtualAddr : Word, virtualAddr >>> 12 = entry.vpage →
    ∃ leaf, pageLeaf bus root virtualAddr = .inr leaf ∧
      entry.pbase ||| (virtualAddr &&& 0xFFF) = leaf.physical virtualAddr ∧
      (∀ access, entry.perms &&& Cpu.accessBit access ≠ 0 → permissionAllowed access leaf.entry = true) ∧
      (entry.userAccessible = true → leaf.entry &&& PTE_U ≠ 0)

def TlbSound (bus : MemoryBus) (root : Word) (tlb : BitVec 6 → TlbEntry) : Prop :=
  ∀ i, EntrySound bus root (tlb i)

def Flushed (tlb : BitVec 6 → TlbEntry) : Prop := ∀ i, (tlb i).vpage = BitVec.allOnes 64

/-- The entries that walks under a root read are the same in both memories. -/
def PageTablesKept (bus bus' : MemoryBus) (root : Word) : Prop :=
  ∀ virtualAddr, ∀ v ∈ footprint bus root virtualAddr, readEntry bus' v.2.1 = v.2.2

lemma Flushed.sound {tlb : BitVec 6 → TlbEntry} (h : Flushed tlb) (bus : MemoryBus) (root : Word) :
    TlbSound bus root tlb := by
  intro i virtualAddr hv
  rw [h i, ← BitVec.toNat_inj, BitVec.toNat_ushiftRight, BitVec.toNat_allOnes, Nat.shiftRight_eq_div_pow] at hv
  have := virtualAddr.isLt
  omega

lemma TlbSound.kept {bus bus' : MemoryBus} {root : Word} {tlb : BitVec 6 → TlbEntry} (h : TlbSound bus root tlb)
    (hk : PageTablesKept bus bus' root) : TlbSound bus' root tlb := by
  intro i virtualAddr hv
  obtain ⟨leaf, hl, hrest⟩ := h i virtualAddr hv
  exact ⟨leaf, (pageLeaf_unmodified (hk virtualAddr)).trans hl, hrest⟩

lemma PageTablesKept.refl (bus : MemoryBus) (root : Word) : PageTablesKept bus bus root := by
  intro virtualAddr v hv
  exact (RadixWalk.Walker.trail_entry _ _ hv).symm

namespace Cpu

variable {s t u : Cpu} {virtualAddr operationPc : Word} {access : AccessType}

def root (s : Cpu) : Word := s.registers.pageTableRootPhysical

lemma accessBit_and (a b : AccessType) : accessBit a &&& accessBit b ≠ 0 → a = b := by
  cases a <;> cases b <;> decide

lemma translateAddress_mapped (hp : s.registers.isPagingEnabled = true) {physical : Word} :
    s.translateAddress virtualAddr access = .mapped physical ↔
      ¬ (access = .execute ∧ virtualAddr &&& 1 ≠ 0) ∧
        ∃ leaf, pageLeaf s.bus s.root virtualAddr = .inr leaf ∧
          leaf.permits s.registers.isUserMode access = true ∧ physical = leaf.physical virtualAddr :=
  translate_enabled_mapped hp

lemma entrySound_fill (hs : TlbSound s.bus s.root s.tlb) (hp : s.registers.isPagingEnabled = true) {physical : Word}
    (ht : s.translateAddress virtualAddr access = .mapped physical) :
    TlbSound s.bus s.root (s.fillTlb virtualAddr access physical).tlb := by
  obtain ⟨_, leaf, hl, hperm, rfl⟩ := (translateAddress_mapped hp).mp ht
  simp only [Leaf.permits, Bool.and_eq_true, Bool.or_eq_true, bne_iff_ne, Bool.not_eq_true'] at hperm
  intro i
  simp only [fillTlb]
  split
  · split
    · next hv =>
      intro va hva
      obtain ⟨leaf', hl', hphys, hbits, huser⟩ := hs (tlbIndex virtualAddr) va hva
      have hsame : leaf' = leaf := by
        have hc : pageLeaf s.bus s.root va = pageLeaf s.bus s.root virtualAddr := pageLeaf_congr (hva.trans hv)
        rw [hl', hl] at hc
        exact Sum.inr.inj hc
      subst hsame
      refine ⟨leaf', hl', hphys, fun access' hb => ?_, huser⟩
      by_cases hold : (s.tlb (tlbIndex virtualAddr)).perms &&& accessBit access' = 0
      · have hb' : accessBit access &&& accessBit access' ≠ 0 := fun hz => hb (by
          rw [BitVec.and_or_distrib_right, hold, hz]; rfl)
        exact accessBit_and _ _ hb' ▸ hperm.1
      · exact hbits access' hold
    · intro va hva
      have hc : pageLeaf s.bus s.root va = pageLeaf s.bus s.root virtualAddr := pageLeaf_congr hva
      refine ⟨leaf, hc.trans hl, Leaf.physical_page (pageLeaf_leaf hl).2 (Eq.symm hva), fun access' hb => ?_,
        fun hu => ?_⟩
      · exact accessBit_and _ _ hb ▸ hperm.1
      · exact hperm.2.resolve_left (by simpa using hu)
  · exact hs i

lemma translate_of_hit (hs : TlbSound s.bus s.root s.tlb) (hp : s.registers.isPagingEnabled = true)
    (ha : ¬ (access = .execute ∧ virtualAddr &&& 1 ≠ 0)) (hh : s.tlbHit virtualAddr access = true) :
    s.translateAddress virtualAddr access =
      .mapped ((s.tlb (tlbIndex virtualAddr)).pbase ||| (virtualAddr &&& 0xFFF)) := by
  simp only [tlbHit, Bool.and_eq_true, beq_iff_eq, bne_iff_ne, Bool.or_eq_true, Bool.not_eq_true'] at hh
  obtain ⟨⟨hv, hb⟩, hu⟩ := hh
  obtain ⟨leaf, hl, hphys, hbits, huser⟩ := hs _ virtualAddr hv.symm
  refine (translateAddress_mapped hp).mpr ⟨ha, leaf, hl, ?_, hphys⟩
  simp only [Leaf.permits, Bool.and_eq_true, Bool.or_eq_true, bne_iff_ne, Bool.not_eq_true']
  exact ⟨hbits access hb, hu.imp_right huser⟩

lemma mapResult_eq (virtualAddr : Word) (access : AccessType) (hs : TlbSound s.bus s.root s.tlb) :
    s.mapResult virtualAddr access = s.translateAddress virtualAddr access := by
  unfold mapResult
  split
  · next h => exact (translate_of_hit hs h.2.1 h.1 h.2.2).symm
  · rfl

/-- Operations that read memory at most. -/
structure ReadFrame (s t : Cpu) : Prop where
  bus : t.bus = s.bus
  root : t.root = s.root
  sound : TlbSound s.bus s.root s.tlb → TlbSound s.bus s.root t.tlb

/-- Operations that fill the TLB before they write memory. -/
structure TlbFrame (s t : Cpu) : Prop where
  root : t.root = s.root
  sound : TlbSound s.bus s.root s.tlb → TlbSound s.bus s.root t.tlb

lemma ReadFrame.tlbFrame (h : ReadFrame s t) : TlbFrame s t := ⟨h.root, h.sound⟩

lemma ReadFrame.of_eq (hb : t.bus = s.bus) (hr : t.root = s.root) (ht : t.tlb = s.tlb) : ReadFrame s t :=
  ⟨hb, hr, fun h => ht ▸ h⟩

lemma ReadFrame.trans_tlb (h : ReadFrame s t) (h' : TlbFrame t u) : TlbFrame s u where
  root := h'.root.trans h.root
  sound hs := by
    have hu := h'.sound (by rw [h.bus, h.root]; exact h.sound hs)
    rwa [h.bus, h.root] at hu

lemma ReadFrame.trans (h : ReadFrame s t) (h' : ReadFrame t u) : ReadFrame s u :=
  ⟨h'.bus.trans h.bus, h'.root.trans h.root, (h.trans_tlb h'.tlbFrame).sound⟩

lemma ReadFrame.refl (s : Cpu) : ReadFrame s s := .of_eq rfl rfl rfl

lemma Refused.readFrame (h : Refused s t) : ReadFrame s t := by
  refine .of_eq ?_ h.root ?_ <;> rw [h.frame]

lemma root_enteredRegisters (n : Word) (exception : Bool) (epc handler : Word) :
    (s.enteredRegisters n exception epc handler).pageTableRootPhysical = s.root := by
  simp only [enteredRegisters, Registers.setInterruptPending]
  split_ifs <;> rfl

lemma readFrame_raiseInterrupt (n : Word) (exception : Bool) (epc : Word) :
    ReadFrame s (s.raiseInterrupt n exception epc).2 := by
  cases h : (s.raiseInterrupt n exception epc).1 with
  | false => exact (raiseInterrupt_refused h).readFrame
  | true =>
    obtain ⟨handler, _, he⟩ := raiseInterrupt_entered h
    rw [he]
    exact .of_eq rfl (root_enteredRegisters n exception epc handler) rfl

lemma readFrame_mapAddress (virtualAddr : Word) (access : AccessType) (operationPc : Word) :
    ReadFrame s (s.mapAddress virtualAddr access operationPc).2 := by
  cases h : s.mapResult virtualAddr access with
  | mapped physical =>
    obtain ⟨t, hm, ht⟩ := mapAddress_mapped operationPc h
    rw [hm]
    rcases ht with rfl | ⟨hp, htr, rfl⟩
    · exact .refl _
    · exact ⟨rfl, rfl, fun hs => entrySound_fill hs hp htr⟩
  | fault cause aux =>
    rw [mapAddress_fault h]
    exact (ReadFrame.of_eq rfl rfl rfl : ReadFrame s (s.faultRegisters _ _ _ _ _)).trans
      (readFrame_raiseInterrupt _ _ _)

lemma readFrame_readMemory (w : ℕ) (busRead : MemoryBus → Word → AccessType → BitVec w) (addr operationPc : Word)
    (access : AccessType) : ReadFrame s (s.readMemory w busRead addr operationPc access).2 := by
  have h := readFrame_mapAddress (s := s) addr access operationPc
  unfold readMemory
  split <;> next t he => rw [he] at h; exact h.trans (.of_eq rfl rfl rfl)

lemma tlbFrame_writeMemory (w : ℕ) (busWrite : MemoryBus → Word → BitVec w → AccessType → MemoryBus) (addr : Word)
    (value : BitVec w) (operationPc : Word) : TlbFrame s (s.writeMemory w busWrite addr value operationPc) := by
  have h := readFrame_mapAddress (s := s) addr .write operationPc
  unfold writeMemory
  split
  · next t he => rw [he] at h; exact ⟨h.root, h.sound⟩
  · next physical t he =>
    rw [he] at h
    obtain ⟨valid, hi⟩ :=
      invalidateReservation_eq (s := { t with bus := busWrite t.bus physical value .write }) addr (w / 8)
    rw [hi]
    exact ⟨h.root, h.sound⟩

lemma readFrame_setReg (rd : Reg) (value : Word) : ReadFrame s (s.setReg rd value) := .of_eq rfl rfl rfl

lemma readFrame_load {w : ℕ} (busRead : MemoryBus → Word → AccessType → BitVec w) (rd : Reg) (addr opPc : Word) :
    ReadFrame s (s.load (fun s => readMemory s w busRead) rd addr opPc) :=
  (readFrame_readMemory w busRead addr opPc .read).trans (readFrame_setReg rd _)

lemma tlbFrame_dispatchLSReg (instr : Instruction) : TlbFrame s (s.dispatchLSReg instr) := by
  unfold dispatchLSReg
  simp only
  split
  · exact (readFrame_load _ _ _ _).tlbFrame
  · exact tlbFrame_writeMemory _ _ _ _ _
  · exact (readFrame_setReg _ _).trans_tlb (tlbFrame_writeMemory _ _ _ _ _)
  · exact (((readFrame_readMemory _ _ _ _ _).trans (readFrame_setReg _ _)).trans (readFrame_setReg _ _)).tlbFrame
  · exact (readFrame_setReg _ _).tlbFrame
  · exact (readFrame_load _ _ _ _).tlbFrame
  · exact tlbFrame_writeMemory _ _ _ _ _
  · exact (readFrame_load _ _ _ _).tlbFrame
  · exact tlbFrame_writeMemory _ _ _ _ _
  · exact (readFrame_load _ _ _ _).tlbFrame
  · exact tlbFrame_writeMemory _ _ _ _ _
  · split
    · exact (readFrame_setReg _ _).tlbFrame
    · exact (ReadFrame.refl s).tlbFrame

lemma tlbFrame_dispatchLSPCRel (instr : Instruction) : TlbFrame s (s.dispatchLSPCRel instr) := by
  unfold dispatchLSPCRel
  simp only
  split
  · exact (readFrame_load _ _ _ _).tlbFrame
  · exact tlbFrame_writeMemory _ _ _ _ _
  · exact ((readFrame_readMemory _ _ _ _ _).trans (readFrame_setReg _ _)).trans_tlb (tlbFrame_writeMemory _ _ _ _ _)
  · exact ((readFrame_readMemory _ _ _ _ _).trans (readFrame_setReg _ _)).trans_tlb (tlbFrame_writeMemory _ _ _ _ _)
  · exact (readFrame_setReg _ _).tlbFrame
  · exact (readFrame_load _ _ _ _).tlbFrame
  · exact tlbFrame_writeMemory _ _ _ _ _
  · exact (readFrame_load _ _ _ _).tlbFrame
  · exact tlbFrame_writeMemory _ _ _ _ _
  · exact (readFrame_load _ _ _ _).tlbFrame
  · exact tlbFrame_writeMemory _ _ _ _ _
  · split
    · exact (readFrame_setReg _ _).tlbFrame
    · exact (ReadFrame.refl s).tlbFrame

lemma readFrame_aluResult (rd : Reg) (result : Word) (carry : Bool) : ReadFrame s (s.aluResult rd result carry) :=
  .of_eq rfl rfl rfl

lemma readFrame_instructionTrap (cause : Word) : ReadFrame s (s.instructionTrap cause) :=
  (ReadFrame.of_eq rfl rfl rfl :
    ReadFrame s { s with registers := { s.registers with trapPc := s.reg 15 - 2, trapCause := cause } }).trans
      (readFrame_raiseInterrupt _ _ _)

lemma tlbFrame_executeHypercall : TlbFrame s s.executeHypercall := by
  unfold executeHypercall
  simp only
  split_ifs <;> exact ⟨rfl, id⟩

lemma root_setSpecialRegister {selector value : Word}
    (h : SpecialRegister.ofSelector selector ≠ some .pageTableRootPhysical) :
    (s.registers.setSpecialRegister selector value).pageTableRootPhysical = s.registers.pageTableRootPhysical := by
  unfold Registers.setSpecialRegister
  split <;> first | rfl | contradiction

lemma ssr_tlb (selector value : Word) :
    let t := { s with registers := s.registers.setSpecialRegister selector value }
    let register := SpecialRegister.ofSelector selector
    let t := if register = some .cpuControl ∨ register = some .pageTableRootPhysical then t.flushTLB else t
    let t := if register = some .hypercallCaps then t.executeHypercall else t
    TlbFrame s t ∨ Flushed t.tlb := by
  simp only
  by_cases hf : SpecialRegister.ofSelector selector = some .cpuControl ∨
      SpecialRegister.ofSelector selector = some .pageTableRootPhysical
  · have hh : SpecialRegister.ofSelector selector ≠ some .hypercallCaps := by
      rcases hf with h | h <;> rw [h] <;> decide
    rw [if_pos hf, if_neg hh]
    exact .inr fun _ => rfl
  · rw [if_neg hf]
    have hr : ReadFrame s { s with registers := s.registers.setSpecialRegister selector value } :=
      .of_eq rfl (root_setSpecialRegister fun h => hf (.inr h)) rfl
    split
    · exact .inl (hr.trans_tlb tlbFrame_executeHypercall)
    · exact .inl hr.tlbFrame

lemma readFrame_shiftLeftLogical (rd : Reg) (a : Word) (count : ℕ) :
    ReadFrame s (s.shiftLeftLogical rd a count) := by
  unfold shiftLeftLogical; split <;> exact readFrame_aluResult _ _ _

lemma readFrame_shiftRightLogical (rd : Reg) (a : Word) (count : ℕ) :
    ReadFrame s (s.shiftRightLogical rd a count) := by
  unfold shiftRightLogical; split <;> exact readFrame_aluResult _ _ _

lemma readFrame_shiftRightArithmetic (rd : Reg) (a : Word) (count : ℕ) :
    ReadFrame s (s.shiftRightArithmetic rd a count) := by
  unfold shiftRightArithmetic; split <;> exact readFrame_aluResult _ _ _

/-- An instruction either flushes the TLB or fills it soundly under an unchanged root. -/
lemma dispatch_tlb (instr : Instruction) :
    TlbFrame s (s.dispatchInstruction instr) ∨ Flushed (s.dispatchInstruction instr).tlb := by
  unfold dispatchInstruction
  split
  · exact .inl (tlbFrame_dispatchLSReg instr)
  · exact .inl (tlbFrame_dispatchLSPCRel instr)
  · refine .inl (ReadFrame.tlbFrame ?_)
    unfold dispatchLDI
    simp only
    split_ifs <;> exact .of_eq rfl rfl rfl
  · split
    · exact .inl (readFrame_setReg _ _).tlbFrame
    · unfold dispatchGP
      simp only
      split
      · exact .inl (readFrame_aluResult _ _ _).tlbFrame
      · exact .inl (readFrame_aluResult _ _ _).tlbFrame
      · exact .inl ⟨rfl, id⟩
      · have hl := readFrame_load (s := s) MemoryBus.read64 instr.rd (s.reg instr.rs1) (s.reg 15)
        exact .inl ⟨hl.root, hl.sound⟩
      · split
        · next h =>
          have hw := tlbFrame_writeMemory (s := s) 64 MemoryBus.write64 (s.reg instr.rs1) (s.reg instr.rd) (s.reg 15)
          exact .inl ⟨hw.root, hw.sound⟩
        · exact .inl ⟨rfl, id⟩
      · exact .inl (readFrame_aluResult _ _ _).tlbFrame
      · exact .inl (readFrame_aluResult _ _ _).tlbFrame
      · exact .inl (readFrame_aluResult _ _ _).tlbFrame
      · split
        · exact .inl (readFrame_aluResult _ _ _).tlbFrame
        · exact .inl (readFrame_shiftLeftLogical _ _ _).tlbFrame
      · split
        · exact .inl (readFrame_aluResult _ _ _).tlbFrame
        · exact .inl (readFrame_shiftRightLogical _ _ _).tlbFrame
      · split
        · exact .inl (readFrame_aluResult _ _ _).tlbFrame
        · exact .inl (readFrame_shiftRightArithmetic _ _ _).tlbFrame
      · exact .inl (readFrame_shiftLeftLogical _ _ _).tlbFrame
      · exact .inl (readFrame_shiftRightLogical _ _ _).tlbFrame
      · exact .inl (readFrame_shiftRightArithmetic _ _ _).tlbFrame
      · exact .inl (readFrame_instructionTrap _).tlbFrame
      · split
        · exact .inl (readFrame_instructionTrap _).tlbFrame
        · exact .inl (readFrame_setReg _ _).tlbFrame
      · split
        · exact .inl (readFrame_instructionTrap _).tlbFrame
        · exact ssr_tlb _ _
      · split
        · exact .inl (readFrame_instructionTrap _).tlbFrame
        · exact .inr fun _ => rfl
      · split
        · exact .inl (readFrame_instructionTrap _).tlbFrame
        · exact .inl ⟨rfl, id⟩
      · exact .inl (readFrame_instructionTrap _).tlbFrame

/-- The first half of a cycle reads; the dispatch flushes or fills; the rest leaves the TLB alone. -/
lemma cycle_tlb (s : Cpu) : TlbFrame s s.cycle ∨ Flushed s.cycle.tlb := by
  have hf : ReadFrame s ((s.setReg 0 0).readMemory16 (s.reg 15) (s.reg 15) .execute).2 :=
    (readFrame_setReg 0 0).trans (readFrame_readMemory _ _ _ _ _)
  unfold cycle
  split
  · exact .inl (ReadFrame.refl s).tlbFrame
  simp only
  generalize (s.setReg 0 0).readMemory16 (s.reg 15) (s.reg 15) .execute = fetched at hf ⊢
  split
  · exact .inl hf.tlbFrame
  have hd : TlbFrame s ((fetched.2.setReg 15 (fetched.2.reg 15 + 2)).dispatchInstruction
      (Instruction.decode fetched.1)) ∨
        Flushed ((fetched.2.setReg 15 (fetched.2.reg 15 + 2)).dispatchInstruction
          (Instruction.decode fetched.1)).tlb :=
    (dispatch_tlb _).imp_left (hf.trans (readFrame_setReg _ _)).trans_tlb
  generalize (fetched.2.setReg 15 (fetched.2.reg 15 + 2)).dispatchInstruction
    (Instruction.decode fetched.1) = u at hd ⊢
  split
  · exact hd.imp (fun h => ⟨h.root, h.sound⟩) id
  have hu : ∀ v : Cpu, v.root = u.root → v.tlb = u.tlb → TlbFrame s v ∨ Flushed v.tlb := fun v hr ht =>
    hd.imp (fun h => ⟨hr.trans h.root, fun hs => ht ▸ h.sound hs⟩) fun h => ht ▸ h
  split
  · split
    · next vector _ =>
      cases h : ((u.setReg 0 0).raiseInterrupt vector false (BitVec.allOnes 64)).1 with
      | false =>
        have hr := raiseInterrupt_refused h
        exact hu _ hr.root (by rw [hr.frame]; rfl)
      | true =>
        obtain ⟨handler, _, he⟩ := raiseInterrupt_entered h
        rw [he]
        exact hu _ (root_enteredRegisters vector false _ handler) rfl
    · exact hu _ rfl rfl
  · exact hu _ rfl rfl

end Cpu

inductive Event
  | cycle
  | assertInterrupt (num : Word)
  | clearInterrupt (num : Word)
  deriving DecidableEq, Repr

def step (s : Cpu) : Event → Cpu
  | .cycle => s.cycle
  | .assertInterrupt num => s.assertInterrupt num
  | .clearInterrupt num => s.clearInterrupt num

lemma root_interruptPending (r : Registers) (num : Word) :
    (r.setInterruptPending num).pageTableRootPhysical = r.pageTableRootPhysical ∧
      (r.clearInterruptPending num).pageTableRootPhysical = r.pageTableRootPhysical := by
  constructor
  · unfold Registers.setInterruptPending; simp only; split_ifs <;> rfl
  · unfold Registers.clearInterruptPending; simp only; split_ifs <;> rfl

lemma step_tlb (s : Cpu) (e : Event) : Cpu.TlbFrame s (step s e) ∨ Flushed (step s e).tlb := by
  cases e with
  | cycle => exact Cpu.cycle_tlb s
  | assertInterrupt num => exact .inl ⟨(root_interruptPending _ num).1, id⟩
  | clearInterrupt num => exact .inl ⟨(root_interruptPending _ num).2, id⟩

def Coherent (s : Cpu) : Prop := TlbSound s.bus s.root s.tlb

/-- A step that leaves the entries of the page tables in force as they are. -/
def KeepsPageTables (s : Cpu) (e : Event) : Prop := PageTablesKept s.bus (step s e).bus s.root

lemma coherent_step (s : Cpu) (e : Event) (h : Coherent s) (hk : KeepsPageTables s e) : Coherent (step s e) := by
  rcases step_tlb s e with hf | hf
  · have hs := (hf.sound h).kept hk
    rwa [← hf.root] at hs
  · exact hf.sound _ _

lemma coherent_run (s : Cpu) (events : List Event) (h : Flushed s.tlb)
    (hk : Runs.Along step KeepsPageTables s events) : Coherent (Runs.run step s events) :=
  Runs.Reach.invariant (fun t ht => (ht : Flushed t.tlb).sound _ _) (fun t e ht hk => coherent_step t e ht hk)
    (hk.reach (.start (show (fun t : Cpu => Flushed t.tlb) s from h)))

def Cpu.withControl (s : Cpu) (control : Word) : Cpu :=
  { s with registers := { s.registers with cpuControl := control } }

/-- Mapping an address is translating it: the physical address on success, the trap of the same fault otherwise. -/
def MapsAsTranslated (s : Cpu) (virtualAddr : Word) (access : AccessType) (operationPc : Word) : Prop :=
  match translate s.bus s.pagingConfig virtualAddr access with
  | .mapped physical => ∃ tlb, s.mapAddress virtualAddr access operationPc = (.mapped physical, { s with tlb := tlb })
  | .fault cause aux =>
    s.mapAddress virtualAddr access operationPc =
      (.faulted cause (s.raiseFault virtualAddr access operationPc cause aux).1,
        (s.raiseFault virtualAddr access operationPc cause aux).2)

lemma mapsAsTranslated (s : Cpu) (h : Coherent s) (virtualAddr : Word) (access : AccessType) (operationPc : Word) :
    MapsAsTranslated s virtualAddr access operationPc := by
  have hm := Cpu.mapResult_eq virtualAddr access h
  unfold MapsAsTranslated
  split
  · next physical ht =>
    obtain ⟨t, he, hf⟩ := Cpu.mapAddress_mapped operationPc (hm.trans ht)
    refine ⟨t.tlb, he.trans ?_⟩
    rcases hf with rfl | ⟨_, _, rfl⟩ <;> rfl
  · next cause aux ht => exact Cpu.mapAddress_fault (hm.trans ht)

/-- In every run, from the last flush of the TLB on and as long as the page tables are left alone,
`mapAddress` agrees with `translate` in every mode. -/
theorem tlb_transparent (s : Cpu) (before after : List Event) (hflush : Flushed (Runs.run step s before).tlb)
    (hkept : Runs.Along step KeepsPageTables (Runs.run step s before) after) (control virtualAddr : Word)
    (access : AccessType) (operationPc : Word) :
    MapsAsTranslated ((Runs.run step s (before ++ after)).withControl control) virtualAddr access operationPc := by
  apply mapsAsTranslated
  have hc : Coherent (Runs.run step s (before ++ after)) := by
    rw [Runs.run, List.foldl_append]
    exact coherent_run _ after hflush hkept
  exact hc

/-- A RAM with one user page-table leaf, for the first gigabyte, and a handler for missing pages. -/
def sampleRam : MemoryRegion where
  base := 0
  size := 0x10000
  kind := .ram
  data addr := if addr = 0x1000 then 0x1F else if addr = 0x3029 then 0x40 else 0

def sampleCpu (regs : Reg → Word) : Cpu where
  registers := { Registers.initial with
    regs
    cpuControl := Registers.cpuControlPagingEnable ||| Registers.cpuControlUserMode
    interruptTableBase := 0x3000
    pageTableRootPhysical := 0x1000 }
  isRunning := true
  bus := ⟨[sampleRam], List.pairwise_singleton _ _⟩
  tlb _ := TlbEntry.initial
  memBase := 0
  memSize := 0x10000
  bootSourceBytes := []
  events := []

theorem tlb_transparent_sample :
    MapsAsTranslated ((Runs.run step (sampleCpu fun i => if i = 15 then 0x2000 else 0)
      ([] ++ [.cycle, .cycle])).withControl Registers.cpuControlPagingEnable) 0x2008 .write 0x2000 :=
  have kept : ∀ s e, (step s e).bus = s.bus → KeepsPageTables s e := fun s e h => by
    rw [KeepsPageTables, h]; exact .refl _ _
  tlb_transparent _ [] [.cycle, .cycle] (fun _ => rfl)
    (.cons (kept _ _ rfl) (.cons (kept _ _ rfl) (.nil _))) _ _ _ _

end Little64.Emulator

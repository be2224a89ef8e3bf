import Little64.Emulator.DataFaults
import Little64.Emulator.PageCrossing

/-! User-mode isolation: when the bytes that an instruction writes are bytes that user pages map for writing. -/

namespace Little64.Emulator

open AddressTranslator Vectors

def MemoryEvent.Writes (e : MemoryEvent) (x : Word) : Prop :=
  e.access = .write ∧ ∃ physical data, e.outcome = .performed physical data ∧ ByteMemory.InRange physical e.width x

/-- A byte that some access wrote, or that changed in any other way. -/
def WrittenByte (s t : Cpu) (x : Word) : Prop :=
  (∃ e ∈ newEvents s t, e.Writes x) ∨ ∃ access, t.bus.read8 x access ≠ s.bus.read8 x access

/-- The image of a virtual byte whose leaf entry has V, W and U set. -/
def UserImage (s : Cpu) (x : Word) : Prop :=
  ∃ va leaf, pageLeaf s.bus s.root va = .inr leaf ∧ leaf.entry &&& PTE_V ≠ 0 ∧ leaf.entry &&& PTE_W ≠ 0 ∧
    leaf.entry &&& PTE_U ≠ 0 ∧ x = leaf.physical va

def SupervisorAfterFault (s t : Cpu) : Prop :=
  ∃ e f, List.Sublist [e, f] (newEvents s t) ∧ e.user = false ∧
    (∃ physical data, e.outcome = .performed physical data) ∧ ∃ cause, f.outcome = .faulted cause true

structure Isolated (s t : Cpu) : Prop where
  written : ∀ x, WrittenByte s t x → UserImage s x
  privilege : ¬ SupervisorAfterFault s t

def MemoryEvent.InPage (e : MemoryEvent) : Prop := e.virtualAddr.toNat % 4096 + e.width ≤ 4096

instance (e : MemoryEvent) : Decidable e.InPage := inferInstanceAs (Decidable (_ ≤ _))

namespace Cpu

variable (s : Cpu)

def Lands (n : ℕ) : PagingTranslateResult → Prop
  | .mapped physical => ∀ i, i < n → UserImage s (physical + BitVec.ofNat 64 i)
  | .fault _ _ => True

/-- No stale TLB entry takes the store off the bytes of the user. -/
def StoreIsolated (addr : Word) (n : ℕ) : Prop := s.StaleHit addr .write → s.Lands n (s.mapResult addr .write)

/-- Reading `source` replaces the TLB entry that `addr` would hit. -/
def Evicts (source addr : Word) : Prop :=
  s.tlbHit source .read = false ∧ tlbIndex addr = tlbIndex source ∧ (s.tlb (tlbIndex source)).vpage ≠ source >>> 12

/-- A trap that enters no handler leaves the CPU in supervisor mode: its vector cannot be read. -/
def LeavesSupervisor (cause : Word) : Prop :=
  s.isRunning = true ∧ ¬ s.Precedes cause ∧ s.handlerAddress cause = none

def TransferIsolated (rd : Reg) (source delta : Word) (target : Word → Word) : Prop :=
  match s.mapResult source .read with
  | .mapped _ => s.Evicts source (target (s.reg rd + delta)) ∨ s.StoreIsolated (target (s.reg rd + delta)) 8
  | .fault cause _ =>
    (s.Delivers cause → ∀ handler, s.handlerAddress cause = some handler → ∀ physical,
      s.supervisorResult (target (if rd = 15 then handler + delta else s.reg rd + delta)) .write ≠ .mapped physical) ∧
    (¬ s.Delivers cause → s.LeavesSupervisor cause →
      s.Lands 8 (s.supervisorResult (target (s.reg rd + delta)) .write)) ∧
    (¬ s.Delivers cause → ¬ s.LeavesSupervisor cause → s.StoreIsolated (target (s.reg rd + delta)) 8)

/-- When an instruction of a shape keeps to the bytes and the privilege of the user. -/
def KeepsIsolation : DataAccess → Prop
  | .store width addr => s.StoreIsolated addr (width / 8)
  | .push rd => s.StoreIsolated (s.reg rd + -8) 8
  | .pushFrom rd effective => s.TransferIsolated rd effective (-8) id
  | .popTo rd effective => s.TransferIsolated rd (s.reg rd) 8 fun _ => effective
  | .storeConditional addr => s.StoreIsolated addr 8
  | _ => True

end Cpu

section Written

variable {s t u : Cpu} {e e₁ e₂ : MemoryEvent}

lemma not_supervisorAfterFault_of_le (h : (newEvents s t).length ≤ 1) : ¬ SupervisorAfterFault s t := by
  rintro ⟨e, f, hs, _⟩
  have hl := hs.length_le
  simp only [List.length_cons, List.length_nil] at hl
  omega

lemma supervisorAfterFault_two (h : newEvents s t = [e₂, e₁]) :
    SupervisorAfterFault s t ↔ e₂.user = false ∧ (∃ physical data, e₂.outcome = .performed physical data) ∧
      ∃ cause, e₁.outcome = .faulted cause true := by
  constructor
  · rintro ⟨e, f, hs, hrest⟩
    rw [h] at hs
    have heq := hs.eq_of_length rfl
    simp only [List.cons.injEq, and_true] at heq
    rw [heq.1, heq.2] at hrest
    exact hrest
  · exact fun hrest => ⟨e₂, e₁, h ▸ List.Sublist.refl _, hrest⟩

lemma not_writtenByte (hb : t.bus = s.bus)
    (hw : ∀ e ∈ newEvents s t, e.access = .write → ∃ cause entered, e.outcome = .faulted cause entered) (x : Word) :
    ¬ WrittenByte s t x := by
  rintro (⟨e, he, ha, physical, data, ho, _⟩ | ⟨access, hne⟩)
  · obtain ⟨cause, entered, hf⟩ := hw e he ha
    rw [hf] at ho
    cases ho
  · exact hne (by rw [hb])

section Write

variable {w : ℕ} {busWrite : MemoryBus → Word → BitVec w → AccessType → MemoryBus} {addr operationPc : Word}
  {value : BitVec w} {earlier : List MemoryEvent}

lemma written_iff (hwrite : OverlayWrite busWrite) {physical data : Word}
    (hb : t.bus = busWrite s.bus physical value .write)
    (hn : newEvents s t = u.accessEvent .write addr w (.performed physical data) :: earlier)
    (he : ∀ e ∈ earlier, e.access ≠ .write) (x : Word) :
    WrittenByte s t x ↔ ∃ i, i < w / 8 ∧ x = physical + BitVec.ofNat 64 i := by
  rw [← ByteMemory.inRange_iff _ _ _ (by have := hwrite.1; omega)]
  constructor
  · rintro (⟨e, hm, ha, p, d, ho, hr⟩ | ⟨access, hne⟩)
    · rw [hn, List.mem_cons] at hm
      rcases hm with rfl | hm
      · cases ho
        exact hr
      · exact absurd ha (he e hm)
    · by_contra hr
      apply hne
      rw [hb, (hwrite.2 s.bus physical value).byte x access, if_neg fun h => hr h.1]
  · intro hr
    refine .inl ⟨_, by rw [hn]; exact List.mem_cons_self, rfl, physical, data, rfl, hr⟩

lemma bus_raiseFault (access : AccessType) (cause aux : Word) :
    (u.raiseFault addr access operationPc cause aux).2.bus = u.bus := by
  cases h : (u.raiseFault addr access operationPc cause aux).1 with
  | false => exact (Cpu.raiseFault_notEntered h).vectors.bus
  | true =>
    obtain ⟨handler, hu⟩ := Cpu.raiseFault_entered h
    exact hu.vectors.bus

/-- Whether the bytes of a write are the user's depends on where the write was mapped alone. -/
lemma lands_iff (earlier : List MemoryEvent) (hwrite : OverlayWrite busWrite) (hub : u.bus = s.bus) (hue : u.events = earlier ++ s.events)
    (he : ∀ e ∈ earlier, e.access ≠ .write) (hb : t.bus = (u.writeMemory w busWrite addr value operationPc).bus)
    (hev : t.events = (u.writeMemory w busWrite addr value operationPc).events) :
    (∀ x, WrittenByte s t x → UserImage s x) ↔ s.Lands (w / 8) (u.mapResult addr .write) := by
  cases hm : u.mapResult addr .write with
  | mapped physical =>
    obtain ⟨tlb, valid, ht⟩ := Cpu.writeMemory_mapped busWrite value operationPc hm
    rw [ht] at hb
    rw [Cpu.events_writeMemory_mapped hm, hue] at hev
    simp only [written_iff hwrite (hb.trans (by rw [hub])) (newEvents_eq _ hev) he]
    constructor
    · exact fun h i hi => h _ ⟨i, hi, rfl⟩
    · rintro h x ⟨i, hi, rfl⟩
      exact h i hi
  | fault cause aux =>
    rw [Cpu.writeMemory_fault busWrite value operationPc hm] at hb
    rw [Cpu.events_writeMemory_fault hm, hue] at hev
    have hn := newEvents_eq (_ :: earlier) hev
    refine iff_of_true (fun x hx => absurd hx (not_writtenByte ?_ ?_ x)) trivial
    · exact hb.trans ((bus_raiseFault _ _ _).trans hub)
    · intro e hmem ha
      rw [hn, List.mem_cons] at hmem
      rcases hmem with rfl | hmem
      · exact ⟨_, _, rfl⟩
      · exact absurd ha (he e hmem)

lemma isolated_first (hwrite : OverlayWrite busWrite) (hub : u.bus = s.bus) (hue : u.events = s.events)
    (hb : t.bus = (u.writeMemory w busWrite addr value operationPc).bus)
    (hev : t.events = (u.writeMemory w busWrite addr value operationPc).events) :
    Isolated s t ↔ s.Lands (w / 8) (u.mapResult addr .write) := by
  rw [← lands_iff [] hwrite hub hue (by simp) hb hev]
  refine ⟨Isolated.written, fun h => ⟨h, not_supervisorAfterFault_of_le ?_⟩⟩
  have hl : ∃ e, newEvents s t = [e] := by
    cases hm : u.mapResult addr .write with
    | mapped physical => exact ⟨_, newEvents_eq _ (hev.trans (by rw [Cpu.events_writeMemory_mapped hm, hue]; rfl))⟩
    | fault cause aux => exact ⟨_, newEvents_eq _ (hev.trans (by rw [Cpu.events_writeMemory_fault hm, hue]; rfl))⟩
  obtain ⟨e, hl⟩ := hl
  rw [hl]
  exact Nat.le_refl 1

lemma isolated_second (hwrite : OverlayWrite busWrite) (hub : u.bus = s.bus) (hue : u.events = e₁ :: s.events)
    (he : e₁.access ≠ .write) (ht : t = u.writeMemory w busWrite addr value operationPc) :
    Isolated s t ↔ s.Lands (w / 8) (u.mapResult addr .write) ∧
      (u.registers.isUserMode = false → (∃ cause, e₁.outcome = .faulted cause true) →
        ∀ physical, u.mapResult addr .write ≠ .mapped physical) := by
  have hb := congrArg Cpu.bus ht
  have hev := congrArg Cpu.events ht
  rw [← lands_iff [e₁] hwrite hub hue (by simpa using he) hb hev]
  have hp : ¬ SupervisorAfterFault s t ↔ (u.registers.isUserMode = false → (∃ cause, e₁.outcome = .faulted cause true) →
      ∀ physical, u.mapResult addr .write ≠ .mapped physical) := by
    cases hm : u.mapResult addr .write with
    | mapped physical =>
      rw [Cpu.events_writeMemory_mapped hm, hue] at hev
      rw [supervisorAfterFault_two (newEvents_eq [_, e₁] hev)]
      constructor
      · exact fun h hu hf => absurd ⟨hu, ⟨physical, _, rfl⟩, hf⟩ h
      · exact fun h hc => h hc.1 hc.2.2 physical rfl
    | fault cause aux =>
      rw [Cpu.events_writeMemory_fault hm, hue] at hev
      rw [supervisorAfterFault_two (newEvents_eq [_, e₁] hev)]
      refine iff_of_true ?_ fun _ _ physical h => by cases h
      rintro ⟨_, ⟨physical, data, ho⟩, _⟩
      cases ho
  rw [← hp]
  exact ⟨fun h => ⟨h.written, h.privilege⟩, fun h => ⟨h.1, h.2⟩⟩

end Write

end Written

section UserMode

variable {s t : Cpu} {addr physical : Word}

lemma lands_of_translate (hp : s.registers.isPagingEnabled = true) (hu : s.registers.isUserMode = true) {n : ℕ}
    (hin : addr.toNat % 4096 + n ≤ 4096) (h : s.translateAddress addr .write = .mapped physical) :
    s.Lands n (.mapped physical) := by
  intro i hi
  obtain ⟨leaf, hl, hperm, hphys⟩ :=
    Cpu.translateByte_mapped.mp (Cpu.translateByte_add (Cpu.translateByte_of_translate hp h) (i := i) (by omega))
  simp only [hu, Leaf.permits, permissionAllowed, Bool.and_eq_true, bne_iff_ne, Bool.not_true, Bool.false_or] at hperm
  exact ⟨_, leaf, hl, (pageLeaf_leaf hl).1, hperm.1, hperm.2, hphys⟩

lemma lands_translateAddress (hp : s.registers.isPagingEnabled = true) (hu : s.registers.isUserMode = true) {n : ℕ}
    (hin : addr.toNat % 4096 + n ≤ 4096) : s.Lands n (s.translateAddress addr .write) := by
  cases h : s.translateAddress addr .write with
  | mapped physical => exact lands_of_translate hp hu hin h
  | fault cause aux => exact trivial

lemma lands_mapResult (hp : s.registers.isPagingEnabled = true) (hu : s.registers.isUserMode = true) {n : ℕ}
    (hin : addr.toNat % 4096 + n ≤ 4096) : s.Lands n (s.mapResult addr .write) ↔ s.StoreIsolated addr n := by
  refine ⟨fun h _ => h, fun h => ?_⟩
  by_cases hs : s.StaleHit addr .write
  · exact h hs
  · rw [not_not.mp hs]
    exact lands_translateAddress hp hu hin

end UserMode

namespace Cpu

variable {s t : Cpu} {addr source physical operationPc cause aux : Word}

lemma mapAddress_read_mapped (hp : s.registers.isPagingEnabled = true)
    (h : s.mapResult source .read = .mapped physical) :
    s.mapAddress source .read operationPc =
      (.mapped physical, if s.tlbHit source .read then s else s.fillTlb source .read physical) := by
  have ha : ¬ (AccessType.read = .execute ∧ source &&& 1 ≠ 0) := fun hc => by cases hc.1
  rw [mapAddress, if_neg ha, if_neg (by simp [hp])]
  by_cases ht : s.tlbHit source .read = true
  · rw [mapResult, if_pos ⟨ha, hp, ht⟩] at h
    rw [if_pos ht, if_pos ht, PagingTranslateResult.mapped.inj h]
  · rw [mapResult, if_neg fun hc => ht hc.2.2] at h
    rw [if_neg ht, if_neg ht, mapAddressSlowPath, h]
    simp only [hp, if_true]

lemma write_hit_after_read (perms : BitVec 8) :
    (perms ||| accessBit .read) &&& accessBit .write = perms &&& accessBit .write := by
  rw [BitVec.and_or_distrib_right, show accessBit .read &&& accessBit .write = 0#8 by decide, BitVec.or_zero]

lemma tlbHit_fillTlb :
    (s.fillTlb source .read physical).tlbHit addr .write =
      (s.tlbHit addr .write && !(tlbIndex addr == tlbIndex source &&
        (s.tlb (tlbIndex source)).vpage != source >>> 12)) := by
  by_cases hi : tlbIndex addr = tlbIndex source
  · by_cases hv : (s.tlb (tlbIndex source)).vpage = source >>> 12
    · simp only [tlbHit, fillTlb, hi, hv, if_true, write_hit_after_read, bne_self_eq_false, Bool.and_false,
        Bool.not_false, Bool.and_true]
    · have hb : accessBit .read &&& accessBit .write = 0#8 := by decide
      simp only [tlbHit, fillTlb, hi, hv, if_true, if_false, hb, bne, beq_self_eq_true, Bool.true_and]
      simp [hv]
  · simp only [tlbHit, fillTlb, hi, if_false, beq_eq_false_iff_ne.mpr hi, Bool.false_and, Bool.not_false,
      Bool.and_true]

lemma mapResult_fillTlb :
    (s.fillTlb source .read physical).mapResult addr .write =
      if tlbIndex addr = tlbIndex source ∧ (s.tlb (tlbIndex source)).vpage ≠ source >>> 12 then
        s.translateAddress addr .write
      else s.mapResult addr .write := by
  by_cases he : tlbIndex addr = tlbIndex source ∧ (s.tlb (tlbIndex source)).vpage ≠ source >>> 12
  · rw [if_pos he, mapResult, if_neg]
    · rfl
    · rintro ⟨_, _, hh⟩
      rw [tlbHit_fillTlb] at hh
      simp [he.1, he.2] at hh
  · rw [if_neg he, mapResult, mapResult, tlbHit_fillTlb]
    have hf : (tlbIndex addr == tlbIndex source && (s.tlb (tlbIndex source)).vpage != source >>> 12) = false := by
      simpa using he
    rw [hf, Bool.not_false, Bool.and_true]
    by_cases hh : s.tlbHit addr .write = true
    · have hb : ((s.fillTlb source .read physical).tlb (tlbIndex addr)).pbase = (s.tlb (tlbIndex addr)).pbase := by
        simp only [fillTlb]
        split
        · next hi =>
          have hv : (s.tlb (tlbIndex source)).vpage = source >>> 12 := by
            by_contra hv
            exact he ⟨hi, hv⟩
          rw [if_pos hv, hi]
        · rfl
      rw [hb]
      rfl
    · rw [if_neg fun hc => hh hc.2.2, if_neg fun hc => hh hc.2.2]
      rfl

lemma isUserMode_raiseFault {access : AccessType} (h : (s.raiseFault addr access operationPc cause aux).1 = false) :
    (s.LeavesSupervisor cause → (s.raiseFault addr access operationPc cause aux).2.registers.isUserMode = false) ∧
      (¬ s.LeavesSupervisor cause →
        (s.raiseFault addr access operationPc cause aux).2.registers.isUserMode = s.registers.isUserMode) := by
  have ha : (s.faultRegisters addr access operationPc cause aux).handlerAddress cause = s.handlerAddress cause :=
    sameVectors_faultRegisters.handlerAddress cause
  rw [LeavesSupervisor, ← ha]
  have hpre : s.Precedes cause ↔ (s.faultRegisters addr access operationPc cause aux).Precedes cause := Iff.rfl
  have hrun : s.isRunning = (s.faultRegisters addr access operationPc cause aux).isRunning := rfl
  have hmode : s.registers.isUserMode = (s.faultRegisters addr access operationPc cause aux).registers.isUserMode := rfl
  rw [hpre, hrun, hmode]
  rw [raiseFault] at h ⊢
  generalize s.faultRegisters addr access operationPc cause aux = u at h ⊢
  by_cases hc : u.Precedes cause
  · refine ⟨fun hl => absurd hc hl.2.1, fun _ => ?_⟩
    obtain ⟨h1, h2, h3⟩ := hc
    rw [raiseInterrupt]
    simp only [h1, Bool.not_true, Bool.false_and, if_neg Bool.false_ne_true, Bool.true_and, Bool.and_eq_true,
      bne_iff_ne, decide_eq_true_eq]
    rw [if_pos ⟨h2, h3⟩]
    split <;> rfl
  · have he : u.raiseInterrupt cause true operationPc = u.enterInterrupt cause true operationPc := by
      rw [raiseInterrupt]
      simp only [Bool.not_true, Bool.false_and, if_neg Bool.false_ne_true, Bool.and_eq_true, bne_iff_ne,
        decide_eq_true_eq]
      exact if_neg fun hb => hc ⟨hb.1.1, hb.1.2, hb.2⟩
    rw [he] at h ⊢
    rw [enterInterrupt] at h ⊢
    rw [handlerAddress]
    cases ht : u.handlerTranslation cause with
    | fault cause' aux' =>
      simp only [Bool.true_and]
      cases hr : u.isRunning with
      | true =>
        refine ⟨fun _ => Registers.isUserMode_entering (cpuControl_enteringRegisters cause), fun hl => ?_⟩
        exact absurd ⟨rfl, hc, trivial⟩ hl
      | false => exact ⟨fun hl => Bool.noConfusion hl.1, fun _ => rfl⟩
    | mapped p =>
      simp only [ht] at h ⊢
      by_cases hz : u.bus.read64 p .read = 0
      · simp only [hz, if_true]
        exact ⟨fun hl => absurd hl.2.2 (Option.some_ne_none _), fun _ => rfl⟩
      · simp only [hz, if_false] at h
        cases h

end Cpu

section Transfer

variable {s t t₁ : Cpu} {rd : Reg} {source delta target value : Word} {e₁ : MemoryEvent}

lemma overlayWrite64 : OverlayWrite MemoryBus.write64 := ⟨by decide, MemoryBus.write64_overlay⟩

/-- A write that is the second access, when the first one entered no handler. -/
lemma isolated_second_of_user (hb : t₁.bus = s.bus) (hev : t₁.events = e₁ :: s.events) (he : e₁.access = .read)
    (hfirst : ¬ ∃ cause, e₁.outcome = .faulted cause true)
    (ht : t = t₁.writeMemory64 target value (s.reg 15 - 2)) :
    Isolated s t ↔ s.Lands 8 (t₁.mapResult target .write) := by
  rw [isolated_second overlayWrite64 hb hev (by rw [he]; decide) ht]
  exact and_iff_left fun _ hf => absurd hf hfirst

/-- The write goes where the page tables or the TLB send it, unless it is the write of a supervisor. -/
lemma inPage_second (hev : t₁.events = e₁ :: s.events) (ht : t = t₁.writeMemory64 target value (s.reg 15 - 2))
    (hin : ∀ e ∈ newEvents s t, e.InPage) : target.toNat % 4096 + 8 ≤ 4096 := by
  have hev' := congrArg Cpu.events ht
  cases hm : t₁.mapResult target .write with
  | mapped physical =>
    rw [Cpu.writeMemory64, Cpu.events_writeMemory_mapped hm, hev] at hev'
    rw [newEvents_eq [_, e₁] hev'] at hin
    exact hin _ List.mem_cons_self
  | fault cause aux =>
    rw [Cpu.writeMemory64, Cpu.events_writeMemory_fault hm, hev] at hev'
    rw [newEvents_eq [_, e₁] hev'] at hin
    exact hin _ List.mem_cons_self

lemma readMemory64_mapped (hp : s.registers.isPagingEnabled = true) {physical operationPc : Word}
    (hm : s.mapResult source .read = .mapped physical) :
    (s.readMemory64 source operationPc .read).2 =
      (if s.tlbHit source .read then s else s.fillTlb source .read physical).record
        (s.accessEvent .read source 64 (.performed physical ((s.bus.read64 physical .read).setWidth 64))) := by
  rw [Cpu.readMemory64, Cpu.readMemory, Cpu.mapAddress_read_mapped hp hm]
  by_cases hh : s.tlbHit source .read = true
  · simp only [hh, if_true]
    rfl
  · simp only [hh]
    rfl

/-- Where the write of a transfer goes once its read is mapped: the read can only evict what the write would hit. -/
lemma mapResult_after_read (rd : Reg) (operationPc : Word) (hp : s.registers.isPagingEnabled = true)
    {physical : Word} (hm : s.mapResult source .read = .mapped physical) (value addr : Word) :
    ((s.readMemory64 source operationPc .read).2.setReg rd value).mapResult addr .write = s.translateAddress addr .write ∧
        s.Evicts source addr ∨
      ((s.readMemory64 source operationPc .read).2.setReg rd value).mapResult addr .write = s.mapResult addr .write ∧
        ¬ s.Evicts source addr := by
  rw [readMemory64_mapped hp hm]
  by_cases hh : s.tlbHit source .read = true
  · rw [if_pos hh]
    exact .inr ⟨rfl, fun he => Bool.eq_false_iff.mp he.1 hh⟩
  · rw [if_neg hh]
    have hr : ((((s.fillTlb source .read physical).record (s.accessEvent .read source 64
        (.performed physical ((s.bus.read64 physical .read).setWidth 64)))).setReg rd value).mapResult addr .write) =
          (s.fillTlb source .read physical).mapResult addr .write := rfl
    rw [hr, Cpu.mapResult_fillTlb]
    by_cases he : Cpu.tlbIndex addr = Cpu.tlbIndex source ∧ (s.tlb (Cpu.tlbIndex source)).vpage ≠ source >>> 12
    · exact .inl ⟨if_pos he, Bool.eq_false_iff.mpr hh, he⟩
    · exact .inr ⟨if_neg he, fun h => he h.2⟩

lemma reg_after_read (hp : s.registers.isPagingEnabled = true) {physical operationPc : Word}
    (hm : s.mapResult source .read = .mapped physical) :
    ((s.readMemory64 source operationPc .read).2.setReg rd
      ((s.readMemory64 source operationPc .read).2.reg rd + delta)).reg rd = s.reg rd + delta := by
  rw [readMemory64_mapped hp hm, reg_setReg, if_pos rfl]
  split <;> rfl

lemma isolated_transfer_mapped (hp : s.registers.isPagingEnabled = true) (hu : s.registers.isUserMode = true)
    {physical : Word} (hm : s.mapResult source .read = .mapped physical) (target : Word → Word)
    (ht : t = s.transfer rd source delta target (s.reg 15 - 2)) (hin : ∀ e ∈ newEvents s t, e.InPage) :
    Isolated s t ↔
      s.Evicts source (target (s.reg rd + delta)) ∨ s.StoreIsolated (target (s.reg rd + delta)) 8 := by
  have hev : ((s.readMemory64 source (s.reg 15 - 2) .read).2.setReg rd
      ((s.readMemory64 source (s.reg 15 - 2) .read).2.reg rd + delta)).events =
        s.accessEvent .read source 64 (.performed physical ((s.bus.read64 physical .read).setWidth 64)) :: s.events := by
    rw [readMemory64_mapped hp hm]
    split <;> rfl
  have hb : ((s.readMemory64 source (s.reg 15 - 2) .read).2.setReg rd
      ((s.readMemory64 source (s.reg 15 - 2) .read).2.reg rd + delta)).bus = s.bus := by
    rw [readMemory64_mapped hp hm]
    split <;> rfl
  rw [Cpu.transfer] at ht
  simp only [reg_after_read hp hm] at ht
  have hpage := inPage_second hev ht hin
  rw [isolated_second_of_user hb hev rfl (by rintro ⟨cause, ho⟩; cases ho) ht]
  rcases mapResult_after_read rd (s.reg 15 - 2) hp hm
    ((s.readMemory64 source (s.reg 15 - 2) .read).2.reg rd + delta) (target (s.reg rd + delta)) with ⟨hr, he⟩ | ⟨hr, he⟩
  · rw [hr]
    exact iff_of_true (lands_translateAddress hp hu hpage) (.inl he)
  · rw [hr, lands_mapResult hp hu hpage]
    exact (or_iff_right he).symm

lemma lands_of_not_mapped {r : PagingTranslateResult} (h : ∀ physical, r ≠ .mapped physical) : s.Lands 8 r := by
  cases r with
  | mapped physical => exact absurd rfl (h physical)
  | fault cause aux => exact trivial

lemma isolated_afterEntry {u : Cpu} {cause handler : Word} (target : Word → Word)
    (hu : s.Entered u (s.reg 15 - 2) cause handler) (he : e₁.access = .read) (ho : e₁.outcome = .faulted cause true)
    (ht : t = (afterEntry u e₁ rd delta).writeMemory64 (target ((afterEntry u e₁ rd delta).reg rd)) value
      (s.reg 15 - 2)) :
    Isolated s t ↔ ∀ physical, s.supervisorResult
      (target (if rd = 15 then handler + delta else s.reg rd + delta)) .write ≠ .mapped physical := by
  have hbetween := between_afterEntry e₁ rd delta hu
  rw [isolated_second overlayWrite64 hbetween.vectors.bus hbetween.events (by rw [he]; decide) ht,
    mapResult_afterEntry e₁ rd delta hu, pointer_afterEntry e₁ rd delta hu]
  constructor
  · exact fun h => h.2 (Registers.isUserMode_entering hu.control) ⟨cause, ho⟩
  · exact fun h => ⟨lands_of_not_mapped h, fun _ _ => h⟩

lemma isolated_transfer_refused (hp : s.registers.isPagingEnabled = true) (hu : s.registers.isUserMode = true)
    {cause aux : Word} (hf : (s.raiseFault source .read (s.reg 15 - 2) cause aux).1 = false) (target : Word)
    (he : e₁.access = .read) (ho : e₁.outcome = .faulted cause false)
    (ht₁ : t₁ = ((s.raiseFault source .read (s.reg 15 - 2) cause aux).2.record e₁).setReg rd value)
    (ht : t = t₁.writeMemory64 target (BitVec.allOnes 64) (s.reg 15 - 2)) (hin : ∀ e ∈ newEvents s t, e.InPage) :
    Isolated s t ↔ (s.LeavesSupervisor cause → s.Lands 8 (s.supervisorResult target .write)) ∧
      (¬ s.LeavesSupervisor cause → s.StoreIsolated target 8) := by
  have hn := Cpu.raiseFault_notEntered hf
  have hb : t₁.bus = s.bus := by
    rw [ht₁]
    exact hn.vectors.bus
  have hev : t₁.events = e₁ :: s.events := by
    rw [ht₁]
    exact congrArg (List.cons e₁) hn.events
  have hmap : ∀ v : Cpu, v.bus = s.bus → v.tlb = s.tlb → v.root = s.root →
      v.registers.isPagingEnabled = s.registers.isPagingEnabled → t₁.registers.isUserMode = v.registers.isUserMode →
        t₁.mapResult target .write = v.mapResult target .write := by
    intro v hvb hvt hvr hvp hvu
    apply Cpu.mapResult_congr (hb.trans hvb.symm) _ _ _ hvu
    · rw [ht₁, hvt]
      exact hn.tlb
    · refine Eq.trans ?_ hvr.symm
      rw [ht₁]
      exact hn.vectors.root
    · rw [ht₁, hvp]
      exact hn.vectors.paging
  have hmode : t₁.registers.isUserMode =
      (s.raiseFault source .read (s.reg 15 - 2) cause aux).2.registers.isUserMode := by
    rw [ht₁]
    rfl
  have hpage := inPage_second hev ht hin
  rw [isolated_second_of_user hb hev he (by rintro ⟨c, hc⟩; rw [ho] at hc; cases hc) ht]
  obtain ⟨hleft, hkept⟩ := Cpu.isUserMode_raiseFault hf
  by_cases hl : s.LeavesSupervisor cause
  · have hr : t₁.mapResult target .write = s.supervisorResult target .write := by
      apply hmap { s with registers := s.registers.setUserMode false } rfl rfl rfl
      · exact Registers.isPagingEnabled_setUserMode_false
      · rw [hmode, hleft hl]
        exact Registers.isUserMode_setUserMode_false.symm
    rw [hr]
    exact ⟨fun h => ⟨fun _ => h, fun hc => absurd hl hc⟩, fun h => h.1 hl⟩
  · rw [hmap s rfl rfl rfl rfl (hmode.trans (hkept hl)), lands_mapResult hp hu hpage]
    exact ⟨fun h => ⟨fun hc => absurd hc hl, fun _ => h⟩, fun h => h.2 hl⟩

lemma isolated_transfer (hp : s.registers.isPagingEnabled = true) (hu : s.registers.isUserMode = true)
    (target : Word → Word) (ht : t = s.transfer rd source delta target (s.reg 15 - 2))
    (hin : ∀ e ∈ newEvents s t, e.InPage) : Isolated s t ↔ s.TransferIsolated rd source delta target := by
  rw [Cpu.TransferIsolated]
  cases hm : s.mapResult source .read with
  | mapped physical => exact isolated_transfer_mapped hp hu hm target ht hin
  | fault cause aux =>
    rw [Cpu.transfer, Cpu.readMemory64,
      Cpu.readMemory_fault MemoryBus.read64 (s.reg 15 - 2) hm] at ht
    have hdel := Cpu.raiseFault_delivers s source .read (s.reg 15 - 2) cause aux
    by_cases hdv : s.Delivers cause
    · obtain ⟨handler, hent⟩ := Cpu.raiseFault_entered (hdel.mpr hdv)
      rw [hdel.mpr hdv] at ht
      rw [isolated_afterEntry target hent rfl rfl ht]
      simp only [hdv, hent.handlerAddress, Option.some.injEq, forall_eq', true_implies, not_true, false_implies,
        and_true]
    · have hf := Bool.eq_false_iff.mpr fun h => hdv (hdel.mp h)
      have hptr : (((s.raiseFault source .read (s.reg 15 - 2) cause aux).2.record
          (s.accessEvent .read source 64 (.faulted cause false))).setReg rd
            (((s.raiseFault source .read (s.reg 15 - 2) cause aux).2.record
              (s.accessEvent .read source 64 (.faulted cause false))).reg rd + delta)).reg rd = s.reg rd + delta := by
        rw [reg_setReg, if_pos rfl]
        exact congrArg (· + delta) (congrFun (Cpu.raiseFault_notEntered hf).regs rd)
      rw [hf] at ht
      simp only [hptr] at ht
      rw [isolated_transfer_refused hp hu hf (target (s.reg rd + delta)) rfl rfl rfl ht hin]
      simp only [hdv, false_implies, not_false_eq_true, true_implies, true_and]

end Transfer

section Dispatch

variable {s t : Cpu} {addr operationPc : Word}

lemma isolated_silent (hu : s.registers.isUserMode = true) (h : Silent s t) : Isolated s t := by
  have hn : newEvents s t = [] := newEvents_eq _ h.events
  refine ⟨fun x hx => absurd hx (not_writtenByte (h.bus hu) ?_ x), not_supervisorAfterFault_of_le ?_⟩
  · rw [hn]
    exact fun e he => by cases he
  · rw [hn]
    exact Nat.zero_le 1

lemma isolated_read {w : ℕ} (busRead : MemoryBus → Word → AccessType → BitVec w) (addr operationPc : Word)
    (hb : t.bus = (s.readMemory w busRead addr operationPc .read).2.bus)
    (hev : t.events = (s.readMemory w busRead addr operationPc .read).2.events) : Isolated s t := by
  have hread : ∃ outcome, newEvents s t = [s.accessEvent .read addr w outcome] ∧ t.bus = s.bus := by
    cases hm : s.mapResult addr .read with
    | mapped physical =>
      obtain ⟨tlb, hr⟩ := Cpu.readMemory_mapped busRead operationPc hm
      rw [hr] at hb hev
      exact ⟨_, newEvents_eq _ hev, hb⟩
    | fault cause aux =>
      rw [Cpu.readMemory_fault busRead operationPc hm] at hb
      rw [Cpu.events_readMemory_fault hm] at hev
      exact ⟨_, newEvents_eq _ hev, hb.trans (bus_raiseFault _ _ _)⟩
  obtain ⟨outcome, hn, hbus⟩ := hread
  refine ⟨fun x hx => absurd hx (not_writtenByte hbus ?_ x), not_supervisorAfterFault_of_le ?_⟩
  · intro e he ha
    rw [hn, List.mem_singleton] at he
    rw [he] at ha
    cases ha
  · rw [hn]
    exact Nat.le_refl 1

lemma isolated_store {w : ℕ} {busWrite : MemoryBus → Word → BitVec w → AccessType → MemoryBus} (value : BitVec w)
    (operationPc : Word) {u : Cpu} (hp : s.registers.isPagingEnabled = true) (hu : s.registers.isUserMode = true)
    (hwrite : OverlayWrite busWrite) (hub : u.bus = s.bus) (hue : u.events = s.events)
    (hmap : u.mapResult addr .write = s.mapResult addr .write)
    (hb : t.bus = (u.writeMemory w busWrite addr value operationPc).bus)
    (hev : t.events = (u.writeMemory w busWrite addr value operationPc).events)
    (hin : ∀ e ∈ newEvents s t, e.InPage) : Isolated s t ↔ s.StoreIsolated addr (w / 8) := by
  rw [isolated_first hwrite hub hue hb hev, hmap]
  apply lands_mapResult hp hu
  cases hm : u.mapResult addr .write with
  | mapped physical =>
    rw [Cpu.events_writeMemory_mapped hm, hue] at hev
    rw [newEvents_eq [_] hev] at hin
    exact hin _ List.mem_cons_self
  | fault cause aux =>
    rw [Cpu.events_writeMemory_fault hm, hue] at hev
    rw [newEvents_eq [_] hev] at hin
    exact hin _ List.mem_cons_self

lemma isolated_performs {access : DataAccess} (hp : s.registers.isPagingEnabled = true)
    (hu : s.registers.isUserMode = true) (ht : Performs s t access) (hin : ∀ e ∈ newEvents s t, e.InPage) :
    Isolated s t ↔ s.KeepsIsolation access := by
  cases ht with
  | none hs => exact iff_of_true (isolated_silent hu hs) trivial
  | load busRead rd addr ht =>
    refine iff_of_true (isolated_read busRead addr (s.reg 15 - 2) ?_ ?_) trivial
    · rw [ht]
      rfl
    · rw [ht]
      rfl
  | store busWrite addr value hwrite ht =>
    exact isolated_store value (s.reg 15 - 2) hp hu hwrite rfl rfl rfl (congrArg Cpu.bus ht) (congrArg Cpu.events ht) hin
  | push rd value ht =>
    exact isolated_store (u := s.setReg rd (s.reg rd + -8)) value (s.reg 15 - 2) hp hu overlayWrite64 rfl rfl rfl
      (congrArg Cpu.bus ht) (congrArg Cpu.events ht) hin
  | pop rd rs1 popped hpop ht =>
    refine iff_of_true (isolated_read MemoryBus.read64 (s.reg rd) (s.reg 15 - 2) ?_ ?_) trivial
    · rw [ht, hpop]
      rfl
    · rw [ht, hpop]
      rfl
  | pushFrom rd effective ht => exact isolated_transfer hp hu id ht hin
  | popTo rd effective ht => exact isolated_transfer hp hu (fun _ => effective) ht hin
  | loadLinked rd addr v hv ht =>
    refine iff_of_true (isolated_read MemoryBus.read64 addr (s.reg 15) ?_ ?_) trivial
    · rw [ht, hv]
      rfl
    · rw [ht, hv]
      rfl
  | storeConditional addr value v hv ht =>
    refine isolated_store (u := s) value (s.reg 15) hp hu overlayWrite64 rfl rfl rfl ?_ ?_ hin
    · rw [ht, hv]
      rfl
    · rw [ht, hv]
      rfl

/-- A user instruction whose accesses each stay in one page is isolated exactly under `KeepsIsolation`. -/
theorem user_isolated_iff (s : Cpu) (raw : BitVec 16) (hp : s.registers.isPagingEnabled = true)
    (hu : s.registers.isUserMode = true)
    (hin : ∀ e ∈ newEvents s (s.dispatchInstruction (Instruction.decode raw)), e.InPage) :
    Isolated s (s.dispatchInstruction (Instruction.decode raw)) ↔
      s.KeepsIsolation (s.dataAccess (Instruction.decode raw)) :=
  isolated_performs hp hu (dispatchInstruction_performs s _) hin

theorem user_isolated_iff_sample :
    Isolated dataFaultCpu (dataFaultCpu.dispatchInstruction (Instruction.decode 0x0421)) ↔
      dataFaultCpu.KeepsIsolation (dataFaultCpu.dataAccess (Instruction.decode 0x0421)) :=
  user_isolated_iff dataFaultCpu 0x0421 (by decide) (by decide)
    (by decide +kernel)

end Dispatch

/-- Two-megabyte pages: the first is the user's, the second is unmapped, and the third, which holds the page tables
and the vector table, is the supervisor's alone. -/
def isolationRam : MemoryRegion where
  base := 0
  size := 0x400000
  kind := .ram
  data addr :=
    if addr = 0x201000 then 0x01 else if addr = 0x201001 then 0x08 else if addr = 0x201002 then 0x08
    else if addr = 0x202000 then 0x1F else if addr = 0x202010 then 0x07 else if addr = 0x202012 then 0x08
    else if addr = 0x203029 then 0x40 else 0

def isolationCpu : Cpu :=
  let s := sampleCpu fun i => if i = 15 then 0x1FFFF2 else if i = 1 then 0x401008 else 0
  { s with
    bus := ⟨[isolationRam], List.pairwise_singleton _ _⟩
    registers := { s.registers with pageTableRootPhysical := 0x201000, interruptTableBase := 0x403000 } }

/-- `PUSH` from the unmapped page enters the handler and then, in supervisor mode, overwrites the root table. -/
theorem push_writes_root_table :
    isolationCpu.registers.isPagingEnabled = true ∧ isolationCpu.registers.isUserMode = true ∧
      (∀ e ∈ newEvents isolationCpu (isolationCpu.dispatchInstruction (Instruction.decode 0x4871)), e.InPage) ∧
        WrittenByte isolationCpu (isolationCpu.dispatchInstruction (Instruction.decode 0x4871)) 0x201000 ∧
          ¬ Isolated isolationCpu (isolationCpu.dispatchInstruction (Instruction.decode 0x4871)) := by
  refine ⟨by decide, by decide, by decide +kernel, .inr ⟨.read, by decide +kernel⟩, fun h => h.privilege ?_⟩
  refine ⟨⟨.write, 0x401000, 8, false, .performed 0x201000 (BitVec.allOnes 64)⟩,
    ⟨.read, 0x200000, 8, true, .faulted trapPageFaultNotPresent true⟩, by decide +kernel, rfl, ⟨_, _, rfl⟩, _, rfl⟩

end Little64.Emulator

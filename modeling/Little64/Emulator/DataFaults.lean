import Little64.Emulator.DataAccess
import Little64.Emulator.TlbCoherence

/-! Data faults: which instructions leave the CPU as it was when a data access faults
and the page-fault handler is entered. -/

namespace Little64.Emulator

/-- One of the accesses made between two states faulted, and the handler of `cause` was entered. -/
def FaultEntered (s t : Cpu) (cause : Word) : Prop := ∃ e ∈ newEvents s t, e.outcome = .faulted cause true

/-- The handler finds the CPU as it was before the instruction, and the address of the instruction. -/
structure Restartable (s t : Cpu) : Prop where
  handler : ∃ cause, FaultEntered s t cause ∧ s.handlerAddress cause = some (t.reg 15)
  regs : ∀ i, i ≠ 0 → i ≠ 15 → t.reg i = s.reg i
  flags : t.registers.flags = s.registers.flags
  bus : t.bus = s.bus
  interruptEpc : t.registers.interruptEpc = s.reg 15 - 2
  trapPc : t.registers.trapPc = s.reg 15 - 2

namespace Cpu

variable (s : Cpu)

/-- The handler address read for a fault of this access. -/
def faultHandler (addr : Word) (access : AccessType) : Option Word :=
  match s.mapResult addr access with
  | .mapped _ => none
  | .fault cause _ => s.handlerAddress cause

/-- Overwriting `rd` after the trap makes no difference. -/
def Absorbs (handler : Option Word) (rd : Reg) (value : Word) : Prop :=
  rd = 0 ∨ rd = 15 ∧ handler = some value ∨ rd ≠ 0 ∧ rd ≠ 15 ∧ s.reg rd = value

/-- An access as trap entry leaves it to the rest of the instruction: in supervisor mode. -/
def supervisorResult (addr : Word) (access : AccessType) : PagingTranslateResult :=
  { s with registers := s.registers.setUserMode false }.mapResult addr access

/-- A fault of cause `next` preempts the handler just entered for `cause`. -/
def Preempts (cause next : Word) : Prop :=
  next < cause ∧ ∃ handler, s.handlerAddress next = some handler ∧ handler ≠ 0

/-- The write that follows a read whose fault entered its handler, with `R15` at `pc` when it is made. -/
def SecondHarmless (rd : Reg) (pc cause addr : Word) : Prop :=
  match s.supervisorResult addr .write with
  | .mapped physical =>
    rd = 0 ∧ s.reg 15 ≠ 1 ∧ s.bus.write64 physical (BitVec.allOnes 64) .write = s.bus
  | .fault next _ =>
    s.Preempts cause next ∧ (rd = 0 ∨ rd = 15) ∧ (s.reg 15 ≠ 1 ∨ pc = BitVec.allOnes 64) ∨
      ¬ s.Preempts cause next ∧ rd = 0 ∧ s.reg 15 ≠ 1

def TransferRestarts (rd : Reg) (source delta : Word) (target : Word → Word) : Prop :=
  match s.mapResult source .read with
  | .mapped _ => (rd = 0 ∨ rd = 15) ∧ s.reg 15 ≠ 1
  | .fault cause _ =>
    ¬ s.Delivers cause ∧ (rd = 0 ∨ rd = 15) ∧ s.reg 15 ≠ 1 ∨
      s.Delivers cause ∧ ∀ handler, s.handlerAddress cause = some handler →
        s.SecondHarmless rd (if rd = 15 then handler + delta else handler) cause
          (target (if rd = 15 then handler + delta else s.reg rd + delta))

/-- When a data fault of the instruction is restartable. -/
def Restarts : DataAccess → Prop
  | .none => False
  | .load width rd addr =>
    s.reg 15 ≠ 1 ∧ s.Absorbs (s.faultHandler addr .read) rd ((BitVec.allOnes width).setWidth 64)
  | .store _ _ => s.reg 15 ≠ 1
  | .push rd => s.reg 15 ≠ 1 ∧ (rd = 0 ∨ rd = 15)
  | .pop rd rs1 =>
    s.reg 15 ≠ 1 ∧
      (rd = rs1 ∧ s.Absorbs (s.faultHandler (s.reg rd) .read) rd 7 ∨
        rd = 0 ∧ s.Absorbs (s.faultHandler (s.reg rd) .read) rs1 (BitVec.allOnes 64))
  | .pushFrom rd effective => s.TransferRestarts rd effective (-8) id
  | .popTo rd effective => s.TransferRestarts rd (s.reg rd) 8 fun _ => effective
  | .loadLinked _ => False
  | .storeConditional _ => False

end Cpu

section SingleAccess

variable {s t u : Cpu} {opPc cause cause' handler : Word} {event : MemoryEvent}

lemma faultEntered_single (ht : t.events = event :: s.events) :
    FaultEntered s t cause ↔ event.outcome = .faulted cause true := by
  have hn : newEvents s t = [event] := newEvents_eq _ ht
  simp only [FaultEntered, hn, List.mem_singleton, exists_eq_left]

lemma sub_two_eq_allOnes (x : Word) : x - 2 = BitVec.allOnes 64 ↔ x = 1 := by
  rw [BitVec.sub_eq_iff_eq_add, show BitVec.allOnes 64 + 2 = (1 : Word) by decide]

lemma ne_sub_two (x : Word) : x ≠ x - 2 := by
  intro h
  have := congrArg BitVec.toNat h
  rw [BitVec.toNat_sub] at this
  have hx := x.isLt
  simp only [show (2 : Word).toNat = 2 by decide] at this
  omega

/-- The saved address is that of the instruction unless the instruction lies at the top of the address space,
where `R15` as it was when the handler was entered is saved instead. -/
lemma saved_iff {saved pc : Word} (h : saved = if s.reg 15 - 2 ≠ BitVec.allOnes 64 then s.reg 15 - 2 else pc) :
    saved = s.reg 15 - 2 ↔ s.reg 15 ≠ 1 ∨ pc = BitVec.allOnes 64 := by
  by_cases h1 : s.reg 15 = 1
  · have hm := (sub_two_eq_allOnes _).mpr h1
    rw [h, if_neg (not_not.mpr hm), hm]
    exact ⟨.inr, fun hp => hp.resolve_left (not_not.mpr h1)⟩
  · rw [h, if_pos fun hm => h1 ((sub_two_eq_allOnes _).mp hm)]
    exact iff_of_true rfl (.inl h1)

lemma restartable_single {pc : Word} (event : MemoryEvent) (ha : s.handlerAddress cause = some handler) (ht : t.events = event :: s.events)
    (ho : event.outcome = .faulted cause true) (hflags : t.registers.flags = s.registers.flags) (hbus : t.bus = s.bus)
    (hepc : t.registers.interruptEpc = if s.reg 15 - 2 ≠ BitVec.allOnes 64 then s.reg 15 - 2 else pc)
    (hne : s.reg 15 = 1 → pc ≠ BitVec.allOnes 64) (hpc : t.registers.trapPc = s.reg 15 - 2) :
    Restartable s t ↔ s.reg 15 ≠ 1 ∧ t.reg 15 = handler ∧ ∀ i, i ≠ 0 → i ≠ 15 → t.reg i = s.reg i := by
  have hsaved : t.registers.interruptEpc = s.reg 15 - 2 ↔ s.reg 15 ≠ 1 :=
    (saved_iff hepc).trans ⟨fun h => h.elim id fun hp h1 => hne h1 hp, .inl⟩
  constructor
  · rintro ⟨⟨cause', hf, ha'⟩, hregs, _, _, he, _⟩
    refine ⟨hsaved.mp he, ?_, hregs⟩
    rw [faultEntered_single ht, ho, Outcome.faulted.injEq] at hf
    rw [← hf.1, ha] at ha'
    exact (Option.some.inj ha').symm
  · rintro ⟨h1, h15, hregs⟩
    exact ⟨⟨cause, (faultEntered_single ht).mpr ho, by rw [h15, ha]⟩, hregs, hflags, hbus, hsaved.mpr h1, hpc⟩

lemma one_ne_allOnes (x : Word) (h : x = 1) : x ≠ BitVec.allOnes 64 := by rw [h]; decide

lemma restartable_entered {v : Cpu} (hu : s.Entered u (s.reg 15 - 2) cause handler) (hv : v.events = u.events)
    (ho : event.outcome = .faulted cause true) (ht : t = v.record event)
    (hflags : v.registers.flags = u.registers.flags) (hbus : v.bus = u.bus)
    (hepc : v.registers.interruptEpc = u.registers.interruptEpc) (hpc : v.registers.trapPc = u.registers.trapPc) :
    Restartable s t ↔ s.reg 15 ≠ 1 ∧ t.reg 15 = handler ∧ ∀ i, i ≠ 0 → i ≠ 15 → t.reg i = s.reg i := by
  subst ht
  exact restartable_single event hu.handlerAddress (congrArg (List.cons event) (hv.trans hu.events)) ho (hflags.trans hu.flags)
    (hbus.trans hu.vectors.bus) (hepc.trans hu.interruptEpc) (one_ne_allOnes _) (hpc.trans hu.trapPc)

lemma reg_setReg (rd i : Reg) (value : Word) : (s.setReg rd value).reg i = if i = rd then value else s.reg i := rfl

/-- Writing `rd` over the registers a handler starts with goes unnoticed when the write is absorbed. -/
lemma absorbs_iff (hu : s.Entered u opPc cause handler) (rd : Reg) (value : Word) :
    ((u.setReg rd value).reg 15 = handler ∧ ∀ i, i ≠ 0 → i ≠ 15 → (u.setReg rd value).reg i = s.reg i) ↔
      s.Absorbs (some handler) rd value := by
  simp only [reg_setReg, Cpu.Absorbs, Option.some.injEq]
  constructor
  · rintro ⟨h15, hregs⟩
    by_cases h0 : rd = 0
    · exact .inl h0
    by_cases hr : rd = 15
    · exact .inr (.inl ⟨hr, by rw [if_pos hr.symm] at h15; exact h15.symm⟩)
    · exact .inr (.inr ⟨h0, hr, by have := hregs rd h0 hr; rw [if_pos rfl] at this; exact this.symm⟩)
  · rintro (rfl | ⟨rfl, rfl⟩ | ⟨h0, hr, rfl⟩)
    · exact ⟨hu.reg15, fun i hi hi' => by rw [if_neg hi]; exact hu.regs i hi'⟩
    · exact ⟨rfl, fun i hi hi' => by rw [if_neg hi']; exact hu.regs i hi'⟩
    · refine ⟨by rw [if_neg (Ne.symm hr)]; exact hu.reg15, fun i hi hi' => ?_⟩
      split
      · next h => rw [h]
      · exact hu.regs i hi'

/-- An access whose fault entered the handler: the read or write helper stopped in an entered state. -/
lemma entered_of_faultEntered {addr : Word} {access : AccessType} {w : ℕ} (opPc : Word)
    (hE : ∃ cause, FaultEntered s t cause)
    (hmapped : ∀ physical, s.mapResult addr access = .mapped physical →
      ∃ data, t.events = s.accessEvent access addr w (.performed physical data) :: s.events)
    (hfault : ∀ cause aux, s.mapResult addr access = .fault cause aux →
      t.events = s.accessEvent access addr w (.faulted cause (s.raiseFault addr access opPc cause aux).1) ::
        s.events) :
    ∃ cause aux handler, s.mapResult addr access = .fault cause aux ∧
      (s.raiseFault addr access opPc cause aux).1 = true ∧
        s.Entered (s.raiseFault addr access opPc cause aux).2 opPc cause handler := by
  obtain ⟨cause', hE⟩ := hE
  cases hm : s.mapResult addr access with
  | mapped physical =>
    obtain ⟨data, he⟩ := hmapped physical hm
    rw [faultEntered_single he] at hE
    cases hE
  | fault cause aux =>
    rw [faultEntered_single (hfault cause aux hm)] at hE
    have hb : (s.raiseFault addr access opPc cause aux).1 = true := (Outcome.faulted.inj hE).2
    obtain ⟨handler, hu⟩ := Cpu.raiseFault_entered hb
    exact ⟨cause, aux, handler, rfl, hb, hu⟩

lemma restartable_load {w : ℕ} {busRead : MemoryBus → Word → AccessType → BitVec w} {rd : Reg} {addr : Word}
    (hE : ∃ cause, FaultEntered s (s.load (fun s => s.readMemory w busRead) rd addr (s.reg 15 - 2)) cause) :
    Restartable s (s.load (fun s => s.readMemory w busRead) rd addr (s.reg 15 - 2)) ↔
      s.Restarts (.load w rd addr) := by
  obtain ⟨cause, aux, handler, hm, hb, hu⟩ := entered_of_faultEntered (s.reg 15 - 2) hE
    (fun _ h => Cpu.events_readMemory_mapped h) fun _ _ h => Cpu.events_readMemory_fault h
  have ht : s.load (fun s => s.readMemory w busRead) rd addr (s.reg 15 - 2) =
      ((s.raiseFault addr .read (s.reg 15 - 2) cause aux).2.record (s.accessEvent .read addr w
        (.faulted cause true))).setReg rd ((BitVec.allOnes w).setWidth 64) := by
    rw [Cpu.load, Cpu.readMemory_fault _ _ hm, hb]
  refine (restartable_entered hu (v := (s.raiseFault addr .read (s.reg 15 - 2) cause aux).2.setReg rd _) rfl rfl ht
    rfl rfl rfl rfl).trans ?_
  rw [ht]
  have hf : s.faultHandler addr .read = some handler := by rw [Cpu.faultHandler, hm]; exact hu.handlerAddress
  rw [Cpu.Restarts, hf, ← absorbs_iff hu]
  rfl

lemma restartable_store {w : ℕ} {busWrite : MemoryBus → Word → BitVec w → AccessType → MemoryBus} {addr : Word}
    {value : BitVec w}
    (hE : ∃ cause, FaultEntered s (s.writeMemory w busWrite addr value (s.reg 15 - 2)) cause) :
    Restartable s (s.writeMemory w busWrite addr value (s.reg 15 - 2)) ↔ s.Restarts (.store w addr) := by
  obtain ⟨cause, aux, handler, hm, hb, hu⟩ := entered_of_faultEntered (s.reg 15 - 2) hE
    (fun _ h => ⟨_, Cpu.events_writeMemory_mapped h⟩) fun _ _ h => Cpu.events_writeMemory_fault h
  have ht : s.writeMemory w busWrite addr value (s.reg 15 - 2) =
      (s.raiseFault addr .write (s.reg 15 - 2) cause aux).2.record (s.accessEvent .write addr w
        (.faulted cause true)) := by
    rw [Cpu.writeMemory_fault _ _ _ hm, hb]
  refine (restartable_entered hu rfl rfl ht rfl rfl rfl rfl).trans ?_
  rw [ht]
  exact and_iff_left ⟨hu.reg15, fun i _ hi => hu.regs i hi⟩

lemma sameVectors_setReg (rd : Reg) (value : Word) : s.SameVectors (s.setReg rd value) := ⟨rfl, rfl, rfl, rfl⟩

/-- Moving the pointer register keeps `R15` away from the one value that reads as no address. -/
lemma moved_ne_allOnes {delta : Word} (hd : delta = 8 ∨ delta = -8) (rd : Reg) (h : s.reg 15 = 1) :
    (s.setReg rd (s.reg rd + delta)).reg 15 ≠ BitVec.allOnes 64 := by
  rw [reg_setReg]
  split
  · next hr => rw [← hr, h]; rcases hd with rfl | rfl <;> decide
  · exact one_ne_allOnes _ h

lemma add_ne_self {delta : Word} (hd : delta ≠ 0) (x : Word) : x + delta ≠ x := fun h =>
  hd (by simpa using h)

lemma restartable_push {rd : Reg} (value : Word) (t : Cpu)
    (ht : t = (s.setReg rd (s.reg rd + -8)).writeMemory64 (s.reg rd + -8) value (s.reg 15 - 2))
    (hE : ∃ cause, FaultEntered s t cause) : Restartable s t ↔ s.Restarts (.push rd) := by
  obtain ⟨cause, aux, handler, hm, hb, hu⟩ := entered_of_faultEntered (s := s.setReg rd (s.reg rd + -8))
    (w := 64) (s.reg 15 - 2) hE (fun _ h => ⟨_, by rw [ht]; exact Cpu.events_writeMemory_mapped h⟩)
    fun _ _ h => by rw [ht]; exact Cpu.events_writeMemory_fault h
  have hv := sameVectors_setReg (s := s) rd (s.reg rd + -8)
  rw [Cpu.writeMemory64, Cpu.writeMemory_fault _ _ _ hm, hb] at ht
  refine (restartable_single (s.accessEvent .write (s.reg rd + -8) 64 (.faulted cause true))
    ((hv.handlerAddress cause).symm.trans hu.handlerAddress) ?_ rfl ?_ ?_ ?_ (moved_ne_allOnes (.inr rfl) rd)
    ?_).trans ?_
  · rw [ht]; exact congrArg (List.cons _) hu.events
  · rw [ht]; exact hu.flags
  · rw [ht]; exact hu.vectors.bus
  · rw [ht]; exact hu.interruptEpc
  · rw [ht]; exact hu.trapPc
  have hreg15 : t.reg 15 = handler := by rw [ht]; exact hu.reg15
  have hregs : ∀ i, i ≠ 15 → t.reg i = if i = rd then s.reg rd + -8 else s.reg i := by rw [ht]; exact hu.regs
  refine and_congr_right fun _ => ⟨fun h => ?_, fun h => ⟨hreg15, fun i hi hi' => (hregs i hi').trans ?_⟩⟩
  · by_contra hr
    rw [not_or] at hr
    have hrd := (hregs rd hr.2).symm.trans (h.2 rd hr.1 hr.2)
    rw [if_pos rfl] at hrd
    exact add_ne_self (by decide) _ hrd
  · rw [if_neg]
    rintro rfl
    exact h.elim hi hi'

lemma restartable_pop {rd rs1 : Reg} (popped : Word × Cpu)
    (hpop : popped = s.readMemory64 (s.reg rd) (s.reg 15 - 2) .read) (t : Cpu)
    (ht : t = (popped.2.setReg rs1 popped.1).setReg rd ((popped.2.setReg rs1 popped.1).reg rd + 8))
    (hE : ∃ cause, FaultEntered s t cause) : Restartable s t ↔ s.Restarts (.pop rd rs1) := by
  have hev : t.events = popped.2.events := by rw [ht]; rfl
  obtain ⟨cause, aux, handler, hm, hb, hu⟩ := entered_of_faultEntered (w := 64) (s.reg 15 - 2) hE
    (fun _ h => by rw [hev, hpop]; exact Cpu.events_readMemory_mapped h)
    fun _ _ h => by rw [hev, hpop]; exact Cpu.events_readMemory_fault h
  rw [hpop, Cpu.readMemory64, Cpu.readMemory_fault _ _ hm, hb] at ht
  have hf : s.faultHandler (s.reg rd) .read = some handler := by rw [Cpu.faultHandler, hm]; exact hu.handlerAddress
  rw [Cpu.Restarts, hf]
  refine (restartable_single (s.accessEvent .read (s.reg rd) 64 (.faulted cause true)) hu.handlerAddress
    ?_ rfl ?_ ?_ ?_ (one_ne_allOnes _) ?_).trans (and_congr_right fun _ => ?_)
  · rw [ht]; exact congrArg (List.cons _) hu.events
  · rw [ht]; exact hu.flags
  · rw [ht]; exact hu.vectors.bus
  · rw [ht]; exact hu.interruptEpc
  · rw [ht]; exact hu.trapPc
  generalize (s.raiseFault (s.reg rd) .read (s.reg 15 - 2) cause aux).2 = u at hu ht
  by_cases hr : rd = rs1
  · -- the pointer register takes the value read before it is moved
    subst hr
    have hreg : ∀ i, t.reg i = (u.setReg rd 7).reg i := fun i => by
      simp only [ht, reg_setReg]
      by_cases hi : i = rd
      · rw [if_pos hi, if_pos hi, if_true]
        exact (by decide : BitVec.allOnes 64 + 8 = (7 : Word))
      · rw [if_neg hi, if_neg hi, if_neg hi]; rfl
    simp only [hreg]
    rw [absorbs_iff hu]
    exact ⟨fun h => .inl ⟨trivial, h⟩, fun h => h.elim And.right fun h => .inl h.1⟩
  · have hmoved : ∀ i, t.reg i = if i = rd then u.reg rd + 8 else (u.setReg rs1 (BitVec.allOnes 64)).reg i := fun i => by
      rw [ht, reg_setReg]
      by_cases hi : i = rd
      · rw [if_pos hi, if_pos hi, reg_setReg, if_neg hr]; rfl
      · rw [if_neg hi, if_neg hi]; rfl
    constructor
    · rintro ⟨h15, hregs⟩
      have h0 : rd = 0 := by
        by_contra h0
        by_cases hf : rd = 15
        · rw [hmoved, if_pos hf.symm, hf, hu.reg15] at h15
          exact add_ne_self (by decide) _ h15
        · have hrd := hregs rd h0 hf
          rw [hmoved, if_pos rfl, hu.regs rd hf] at hrd
          exact add_ne_self (by decide) _ hrd
      refine .inr ⟨h0, (absorbs_iff hu rs1 _).mp ⟨?_, fun i hi hi' => ?_⟩⟩
      · rw [hmoved, if_neg (by rw [h0]; decide)] at h15
        exact h15
      · have := hregs i hi hi'
        rw [hmoved, if_neg (by rw [h0]; exact hi)] at this
        exact this
    · rintro (⟨h, _⟩ | ⟨h0, h⟩)
      · exact absurd h hr
      · obtain ⟨h15, hregs⟩ := (absorbs_iff hu rs1 _).mpr h
        refine ⟨?_, fun i hi hi' => ?_⟩
        · rw [hmoved, if_neg (by rw [h0]; decide)]
          exact h15
        · rw [hmoved, if_neg (by rw [h0]; exact hi)]
          exact hregs i hi hi'

end SingleAccess

section LinkedAccess

variable {s t : Cpu}

lemma not_restartable (h : t.registers.trapPc = s.reg 15) : ¬ Restartable s t := fun hr =>
  ne_sub_two _ (h.symm.trans hr.trapPc)

lemma not_restartable_loadLinked (rd : Reg) (addr : Word)
    (ht : t.registers.trapPc = (s.load Cpu.readMemory64 rd addr (s.reg 15)).registers.trapPc)
    (hev : t.events = (s.load Cpu.readMemory64 rd addr (s.reg 15)).events)
    (hE : ∃ cause, FaultEntered s t cause) : ¬ Restartable s t := by
  obtain ⟨cause, aux, handler, hm, hb, hu⟩ := entered_of_faultEntered (w := 64) (s.reg 15) hE
    (fun _ h => by rw [hev]; exact Cpu.events_readMemory_mapped h)
    fun _ _ h => by rw [hev]; exact Cpu.events_readMemory_fault h
  rw [Cpu.load, Cpu.readMemory64, Cpu.readMemory_fault _ _ hm] at ht
  exact not_restartable (ht.trans hu.trapPc)

lemma not_restartable_storeConditional (addr value : Word)
    (ht : t.registers.trapPc = (s.writeMemory64 addr value (s.reg 15)).registers.trapPc)
    (hev : t.events = (s.writeMemory64 addr value (s.reg 15)).events)
    (hE : ∃ cause, FaultEntered s t cause) : ¬ Restartable s t := by
  obtain ⟨cause, aux, handler, hm, hb, hu⟩ := entered_of_faultEntered (w := 64) (s.reg 15) hE
    (fun _ h => by rw [hev]; exact ⟨_, Cpu.events_writeMemory_mapped h⟩)
    fun _ _ h => by rw [hev]; exact Cpu.events_writeMemory_fault h
  rw [Cpu.writeMemory64, Cpu.writeMemory_fault _ _ _ hm] at ht
  exact not_restartable (ht.trans hu.trapPc)

end LinkedAccess

section Transfer

variable {s t t₁ u : Cpu} {rd : Reg} {delta : Word} {e₁ e₂ : MemoryEvent} {cause handler pc : Word}

lemma faultEntered_two (ht : t.events = e₂ :: e₁ :: s.events) :
    FaultEntered s t cause ↔ e₁.outcome = .faulted cause true ∨ e₂.outcome = .faulted cause true := by
  have hn : newEvents s t = [e₂, e₁] := newEvents_eq _ ht
  simp only [FaultEntered, hn, List.mem_cons, List.not_mem_nil, or_false, exists_eq_or_imp, exists_eq_left]
  exact or_comm

/-- The CPU between the two accesses: the pointer register has moved, `R15` may have gone to a handler. -/
structure Between (s t₁ : Cpu) (rd : Reg) (delta : Word) (e₁ : MemoryEvent) : Prop where
  moved : ∀ i, i ≠ 15 → t₁.reg i = if i = rd then s.reg rd + delta else s.reg i
  flags : t₁.registers.flags = s.registers.flags
  vectors : s.SameVectors t₁
  events : t₁.events = e₁ :: s.events

lemma Between.regs_iff (h : Between s t₁ rd delta e₁) (hd : delta = 8 ∨ delta = -8)
    (ht : ∀ i, i ≠ 15 → t.reg i = t₁.reg i) :
    (∀ i, i ≠ 0 → i ≠ 15 → t.reg i = s.reg i) ↔ rd = 0 ∨ rd = 15 := by
  constructor
  · intro hregs
    by_contra hr
    rw [not_or] at hr
    have hrd := hregs rd hr.1 hr.2
    rw [ht rd hr.2, h.moved rd hr.2, if_pos rfl] at hrd
    exact add_ne_self (by rcases hd with rfl | rfl <;> decide) _ hrd
  · intro hr i hi hi'
    rw [ht i hi', h.moved i hi', if_neg]
    rintro rfl
    exact hr.elim hi hi'

lemma Between.entered_events (h : Between s t₁ rd delta e₁) (hu : t₁.Entered u pc cause handler) :
    (u.record e₂).events = e₂ :: e₁ :: s.events := congrArg (List.cons e₂) (hu.events.trans h.events)

/-- The second access enters its handler: the pointer register alone decides. -/
lemma Between.restartable_entered (h : Between s t₁ rd delta e₁) (hd : delta = 8 ∨ delta = -8)
    (hu : t₁.Entered u (s.reg 15 - 2) cause handler) (ho : e₂.outcome = .faulted cause true) :
    Restartable s (u.record e₂) ↔
      (rd = 0 ∨ rd = 15) ∧ (s.reg 15 ≠ 1 ∨ t₁.reg 15 = BitVec.allOnes 64) := by
  have hsaved := saved_iff hu.interruptEpc
  have hregs := h.regs_iff hd (t := u.record e₂) hu.regs
  constructor
  · exact fun hr => ⟨hregs.mp hr.regs, hsaved.mp hr.interruptEpc⟩
  · rintro ⟨hr, h1⟩
    exact ⟨⟨cause, (faultEntered_two (h.entered_events hu)).mpr (.inr ho),
      (h.vectors.handlerAddress cause).symm.trans (hu.handlerAddress.trans (congrArg some hu.reg15.symm))⟩,
      hregs.mpr hr, hu.flags.trans h.flags, hu.vectors.bus.trans h.vectors.bus, hsaved.mpr h1, hu.trapPc⟩

/-- When no handler was entered before the second access, the moved pointer is no address of the top. -/
lemma Between.restartable_second (h : Between s t₁ rd delta e₁) (hd : delta = 8 ∨ delta = -8)
    (h15 : t₁.reg 15 = if 15 = rd then s.reg rd + delta else s.reg 15)
    (hu : t₁.Entered u (s.reg 15 - 2) cause handler) (ho : e₂.outcome = .faulted cause true) :
    Restartable s (u.record e₂) ↔ (rd = 0 ∨ rd = 15) ∧ s.reg 15 ≠ 1 := by
  rw [h.restartable_entered hd hu ho]
  refine and_congr_right fun _ => or_iff_left_of_imp fun hm h1 => ?_
  exact moved_ne_allOnes hd rd h1 ((reg_setReg _ _ _).trans (h15.symm.trans hm))

/-- The CPU after a first access whose handler was entered, with the pointer register moved. -/
def afterEntry (u : Cpu) (e₁ : MemoryEvent) (rd : Reg) (delta : Word) : Cpu :=
  (u.record e₁).setReg rd (u.reg rd + delta)

lemma between_afterEntry (e₁ : MemoryEvent) (rd : Reg) (delta : Word) (hu : s.Entered u pc cause handler) : Between s (afterEntry u e₁ rd delta) rd delta e₁ where
  moved i hi := by
    rw [afterEntry, reg_setReg]
    by_cases hr : i = rd
    · rw [if_pos hr, if_pos hr, hu.regs rd (hr ▸ hi)]
    · rw [if_neg hr, if_neg hr]; exact hu.regs i hi
  flags := hu.flags
  vectors := ⟨hu.vectors.bus, hu.vectors.root, hu.vectors.tableBase, hu.vectors.paging⟩
  events := congrArg (List.cons e₁) hu.events

lemma reg15_afterEntry (e₁ : MemoryEvent) (rd : Reg) (delta : Word) (hu : s.Entered u pc cause handler) :
    (afterEntry u e₁ rd delta).reg 15 = if rd = 15 then handler + delta else handler := by
  rw [afterEntry, reg_setReg]
  by_cases hr : rd = 15
  · rw [if_pos hr.symm, if_pos hr, hr, hu.reg15]
  · rw [if_neg (Ne.symm hr), if_neg hr]; exact hu.reg15

lemma pointer_afterEntry (e₁ : MemoryEvent) (rd : Reg) (delta : Word) (hu : s.Entered u pc cause handler) :
    (afterEntry u e₁ rd delta).reg rd = if rd = 15 then handler + delta else s.reg rd + delta := by
  by_cases hr : rd = 15
  · rw [if_pos hr, hr, reg15_afterEntry e₁ 15 delta hu, if_pos rfl]
  · rw [if_neg hr, (between_afterEntry e₁ rd delta hu).moved rd hr, if_pos rfl]

lemma mapResult_afterEntry (e₁ : MemoryEvent) (rd : Reg) (delta : Word) (hu : s.Entered u pc cause handler)
    (addr : Word) (access : AccessType) :
    (afterEntry u e₁ rd delta).mapResult addr access = s.supervisorResult addr access := by
  refine Cpu.mapResult_congr hu.vectors.bus hu.tlb hu.vectors.root ?_ ?_
  · exact hu.vectors.paging.trans Registers.isPagingEnabled_setUserMode_false.symm
  · exact (Registers.isUserMode_entering hu.control).trans Registers.isUserMode_setUserMode_false.symm

lemma delivers_afterEntry (e₁ : MemoryEvent) (rd : Reg) (delta : Word) (hu : s.Entered u pc cause handler)
    (hc : AddressTranslator.TranslationCause cause)
    (next : Word) : (afterEntry u e₁ rd delta).Delivers next ↔ s.Preempts cause next := by
  obtain ⟨h0, hlt⟩ := hc.vector
  have hin : (afterEntry u e₁ rd delta).registers.isInInterrupt = true := Registers.isInInterrupt_entering hu.control
  have hcur : (afterEntry u e₁ rd delta).registers.getCurrentInterruptNumber = cause :=
    Registers.currentInterrupt_entering hlt hu.control
  simp only [Cpu.Delivers, Cpu.Precedes, Cpu.Preempts, hin, hcur, h0, true_and, ne_eq, not_false_eq_true, BitVec.not_le,
    (between_afterEntry e₁ rd delta hu).vectors.handlerAddress next]

/-- No second handler is entered: the instruction goes on under the first one's feet. -/
lemma restartable_first (t : Cpu) (rd : Reg) (delta : Word) (e₂ : MemoryEvent) (hd : delta = 8 ∨ delta = -8)
    (hu : s.Entered u (s.reg 15 - 2) cause handler)
    (he₁ : e₁.outcome = .faulted cause true) (he₂ : ∀ c, e₂.outcome ≠ .faulted c true)
    (hev : t.events = e₂ :: e₁ :: s.events) (hregs : t.registers.regs = (afterEntry u e₁ rd delta).registers.regs)
    (hflags : t.registers.flags = u.registers.flags) (hepc : t.registers.interruptEpc = u.registers.interruptEpc)
    (hpc : t.registers.trapPc = s.reg 15 - 2) :
    Restartable s t ↔ rd = 0 ∧ s.reg 15 ≠ 1 ∧ t.bus = s.bus := by
  have hbetween := between_afterEntry e₁ rd delta hu
  have hreg : ∀ i, t.reg i = (afterEntry u e₁ rd delta).reg i := fun i => congrFun hregs i
  have hiff := hbetween.regs_iff hd (t := t) fun i _ => hreg i
  have hsaved := saved_iff (hepc.trans hu.interruptEpc)
  have h15 := (hreg 15).trans (reg15_afterEntry e₁ rd delta hu)
  constructor
  · intro hr
    obtain ⟨c, hf, ha⟩ := hr.handler
    rw [faultEntered_two hev, or_iff_left (he₂ c), he₁, Outcome.faulted.injEq] at hf
    rw [← hf.1, hu.handlerAddress, Option.some.injEq] at ha
    have hne : rd ≠ 15 := fun h => by
      rw [h15, if_pos h] at ha
      exact add_ne_self (by rcases hd with rfl | rfl <;> decide) _ ha.symm
    exact ⟨(hiff.mp hr.regs).resolve_right hne,
      (hsaved.mp hr.interruptEpc).elim id fun hm h1 => one_ne_allOnes _ h1 hm, hr.bus⟩
  · rintro ⟨h0, h1, hb⟩
    refine ⟨⟨cause, (faultEntered_two hev).mpr (.inl he₁), ?_⟩, hiff.mpr (.inl h0), hflags.trans hu.flags, hb,
      hsaved.mpr (.inl h1), hpc⟩
    rw [h15, if_neg (by rw [h0]; decide)]
    exact hu.handlerAddress

lemma restartable_afterEntry (target : Word → Word) (rd : Reg) (hd : delta = 8 ∨ delta = -8)
    (hc : AddressTranslator.TranslationCause cause) (hu : s.Entered u (s.reg 15 - 2) cause handler)
    (he₁ : e₁.outcome = .faulted cause true) :
    Restartable s ((afterEntry u e₁ rd delta).writeMemory64 (target ((afterEntry u e₁ rd delta).reg rd))
        (BitVec.allOnes 64) (s.reg 15 - 2)) ↔
      s.SecondHarmless rd (if rd = 15 then handler + delta else handler) cause
        (target (if rd = 15 then handler + delta else s.reg rd + delta)) := by
  have hbetween := between_afterEntry e₁ rd delta hu
  rw [pointer_afterEntry e₁ rd delta hu, Cpu.SecondHarmless, ← mapResult_afterEntry e₁ rd delta hu]
  generalize target (if rd = 15 then handler + delta else s.reg rd + delta) = addr
  have h15 := reg15_afterEntry e₁ rd delta hu
  generalize hw : (afterEntry u e₁ rd delta).writeMemory64 addr (BitVec.allOnes 64) (s.reg 15 - 2) = t
  cases hm : (afterEntry u e₁ rd delta).mapResult addr .write with
  | mapped physical =>
    obtain ⟨tlb, valid, ht⟩ := Cpu.writeMemory_mapped MemoryBus.write64 (BitVec.allOnes 64) (s.reg 15 - 2) hm
    have ht := hw.symm.trans ht
    rw [restartable_first t rd delta ((afterEntry u e₁ rd delta).accessEvent .write addr 64
      (.performed physical ((BitVec.allOnes 64).setWidth 64))) hd hu he₁ fun c h => by cases h]
    · rw [ht, hbetween.vectors.bus]
    · rw [ht, hbetween.events]
    · rw [ht]
    · rw [ht]; rfl
    · rw [ht]; rfl
    · rw [ht]; exact hu.trapPc
  | fault next aux' =>
    have ht := hw.symm.trans (Cpu.writeMemory_fault MemoryBus.write64 (BitVec.allOnes 64) (s.reg 15 - 2) hm)
    have hdel := (Cpu.raiseFault_delivers (afterEntry u e₁ rd delta) addr .write (s.reg 15 - 2) next aux').trans
      (delivers_afterEntry e₁ rd delta hu hc next)
    by_cases hp : s.Preempts cause next
    · obtain ⟨handler₂, hu₂⟩ := Cpu.raiseFault_entered (hdel.mpr hp)
      rw [ht, hdel.mpr hp, hbetween.restartable_entered hd hu₂ rfl, h15]
      simp only [hp, true_and, not_true, false_and, or_false]
    · have hf : ((afterEntry u e₁ rd delta).raiseFault addr .write (s.reg 15 - 2) next aux').1 = false :=
        Bool.eq_false_iff.mpr fun h => hp (hdel.mp h)
      have hn := Cpu.raiseFault_notEntered hf
      rw [hf] at ht
      rw [restartable_first t rd delta ((afterEntry u e₁ rd delta).accessEvent .write addr 64
        (.faulted next false)) hd hu he₁ fun c h => by cases h]
      · have hb : t.bus = s.bus := by rw [ht]; exact hn.vectors.bus.trans hbetween.vectors.bus
        simp only [hp, hb, false_and, not_false_eq_true, true_and, false_or, and_true]
      · rw [ht]; exact congrArg (List.cons _) (hn.events.trans hbetween.events)
      · rw [ht]; exact hn.regs
      · rw [ht]; exact hn.flags
      · rw [ht]; exact hn.interruptEpc
      · rw [ht]; exact hn.trapPc

lemma Between.restartable_write {target value : Word} (hbetween : Between s t₁ rd delta e₁)
    (hd : delta = 8 ∨ delta = -8) (h15 : t₁.reg 15 = if 15 = rd then s.reg rd + delta else s.reg 15)
    (he₁ : ∀ c, e₁.outcome ≠ .faulted c true) (ht : t = t₁.writeMemory64 target value (s.reg 15 - 2))
    (hE : ∃ cause, FaultEntered s t cause) : Restartable s t ↔ (rd = 0 ∨ rd = 15) ∧ s.reg 15 ≠ 1 := by
  obtain ⟨c, hE⟩ := hE
  cases hm : t₁.mapResult target .write with
  | mapped physical =>
    have hev := congrArg Cpu.events ht
    rw [Cpu.writeMemory64, Cpu.events_writeMemory_mapped hm, hbetween.events] at hev
    rw [faultEntered_two hev] at hE
    exact hE.elim (fun h => absurd h (he₁ c)) fun h => by cases h
  | fault cause aux =>
    have hev := congrArg Cpu.events ht
    rw [Cpu.writeMemory64, Cpu.events_writeMemory_fault hm, hbetween.events] at hev
    rw [faultEntered_two hev, or_iff_right (he₁ c)] at hE
    have hb := (Outcome.faulted.inj hE).2
    obtain ⟨handler, hu⟩ := Cpu.raiseFault_entered hb
    rw [ht, Cpu.writeMemory64, Cpu.writeMemory_fault _ _ _ hm, hb]
    exact hbetween.restartable_second hd h15 hu rfl

lemma between_setReg (s₁ : Cpu) (rd : Reg) (delta : Word) (e₁ : MemoryEvent) (hregs : s₁.registers.regs = s.registers.regs)
    (hflags : s₁.registers.flags = s.registers.flags) (hv : s.SameVectors s₁) (hev : s₁.events = e₁ :: s.events) :
    Between s (s₁.setReg rd (s₁.reg rd + delta)) rd delta e₁ ∧
      (s₁.setReg rd (s₁.reg rd + delta)).reg 15 = if 15 = rd then s.reg rd + delta else s.reg 15 := by
  have hreg : ∀ i, (s₁.setReg rd (s₁.reg rd + delta)).reg i = if i = rd then s.reg rd + delta else s.reg i := fun i => by
    rw [reg_setReg, Cpu.reg, Cpu.reg, hregs]; rfl
  exact ⟨⟨fun i _ => hreg i, hflags, ⟨hv.bus, hv.root, hv.tableBase, hv.paging⟩, hev⟩, hreg 15⟩

lemma restartable_transfer (target : Word → Word) {source : Word} (hd : delta = 8 ∨ delta = -8)
    (ht : t = s.transfer rd source delta target (s.reg 15 - 2)) (hE : ∃ cause, FaultEntered s t cause) :
    Restartable s t ↔ s.TransferRestarts rd source delta target := by
  rw [Cpu.transfer, Cpu.readMemory64] at ht
  unfold Cpu.TransferRestarts
  cases hm : s.mapResult source .read with
  | mapped physical =>
    obtain ⟨tlb, hr⟩ := Cpu.readMemory_mapped MemoryBus.read64 (s.reg 15 - 2) hm
    rw [hr] at ht
    generalize hs₁ : { s with tlb := tlb, events := _ :: s.events } = s₁ at ht
    obtain ⟨hbetween, h15⟩ := between_setReg (s := s) s₁ rd delta (s.accessEvent .read source 64 (.performed physical
      ((s.bus.read64 physical (Cpu.readKind .read)).setWidth 64))) (by rw [← hs₁]) (by rw [← hs₁])
      (by rw [← hs₁]; exact ⟨rfl, rfl, rfl, rfl⟩) (by rw [← hs₁])
    exact hbetween.restartable_write hd h15 (fun c h => by cases h) ht hE
  | fault cause aux =>
    have hr := Cpu.readMemory_fault MemoryBus.read64 (s.reg 15 - 2) hm
    have hdel := Cpu.raiseFault_delivers s source .read (s.reg 15 - 2) cause aux
    rw [hr] at ht
    by_cases hdv : s.Delivers cause
    · obtain ⟨handler, hu⟩ := Cpu.raiseFault_entered (hdel.mpr hdv)
      rw [hdel.mpr hdv] at ht
      have hiff := restartable_afterEntry target rd hd (Cpu.mapResult_cause hm) hu
        (show (s.accessEvent .read source 64 (.faulted cause true)).outcome = _ from rfl)
      rw [ht]
      refine hiff.trans ?_
      simp only [hdv, not_true, false_and, true_and, false_or, hu.handlerAddress, Option.some.injEq, forall_eq']
    · have hf := Bool.eq_false_iff.mpr fun h => hdv (hdel.mp h)
      have hn := Cpu.raiseFault_notEntered hf
      rw [hf] at ht
      simp only [hdv, not_false_eq_true, true_and, false_and, or_false]
      obtain ⟨hbetween, h15⟩ := between_setReg (s := s)
        ((s.raiseFault source .read (s.reg 15 - 2) cause aux).2.record
          (s.accessEvent .read source 64 (.faulted cause false))) rd delta _ hn.regs hn.flags
        ⟨hn.vectors.bus, hn.vectors.root, hn.vectors.tableBase, hn.vectors.paging⟩ (congrArg (List.cons _) hn.events)
      exact hbetween.restartable_write hd h15 (fun c h => by cases h) ht hE

end Transfer

section Dispatch

variable {s t : Cpu}

lemma not_faultEntered (h : t.events = s.events) : ¬ ∃ cause, FaultEntered s t cause := by
  have hn : newEvents s t = [] := newEvents_eq _ h
  rintro ⟨cause, e, he, _⟩
  rw [hn] at he
  cases he

lemma restartable_iff {access : DataAccess} (ht : Performs s t access) (hE : ∃ cause, FaultEntered s t cause) :
    Restartable s t ↔ s.Restarts access := by
  cases ht with
  | none hs => exact absurd hE (not_faultEntered hs.events)
  | load busRead rd addr ht => subst ht; exact restartable_load hE
  | store busWrite addr value _ ht => subst ht; exact restartable_store hE
  | push rd value ht => exact restartable_push value t ht hE
  | pop rd rs1 popped hp ht => exact restartable_pop popped hp t ht hE
  | pushFrom rd effective ht => exact restartable_transfer id (.inr rfl) ht hE
  | popTo rd effective ht => exact restartable_transfer (fun _ => effective) (.inl rfl) ht hE
  | loadLinked rd addr u hu ht =>
    exact iff_of_false (not_restartable_loadLinked rd addr (by rw [ht, hu]) (by rw [ht, hu]) hE) id
  | storeConditional addr value u hu ht =>
    exact iff_of_false (not_restartable_storeConditional addr value (by rw [ht, hu]) (by rw [ht, hu]) hE) id

/-- A data fault that enters the page-fault handler leaves the instruction restartable exactly under `Restarts`. -/
theorem data_fault_restartable_iff (s : Cpu) (raw : BitVec 16)
    (hE : ∃ cause, FaultEntered s (s.dispatchInstruction (Instruction.decode raw)) cause) :
    Restartable s (s.dispatchInstruction (Instruction.decode raw)) ↔
      s.Restarts (s.dataAccess (Instruction.decode raw)) :=
  restartable_iff (dispatchInstruction_performs s _) hE

/-- `R2` points to a page that is not mapped. -/
def dataFaultCpu : Cpu := sampleCpu fun i => if i = 15 then 0x2002 else if i = 2 then 0x40000000 else 0

theorem data_fault_restartable_iff_sample :
    Restartable dataFaultCpu (dataFaultCpu.dispatchInstruction (Instruction.decode 0x0421)) ↔
      dataFaultCpu.Restarts (dataFaultCpu.dataAccess (Instruction.decode 0x0421)) :=
  data_fault_restartable_iff dataFaultCpu 0x0421
    ⟨5, ⟨.write, 0x40000000, 8, true, .faulted 5 true⟩, by decide +kernel, rfl⟩

/-- `LOAD R1, [R2]` enters the handler and then overwrites `R1` with the word the failed read returned. -/
theorem load_fault_overwrites_destination :
    dataFaultCpu.registers.isPagingEnabled = true ∧
      (∃ cause, FaultEntered dataFaultCpu (dataFaultCpu.dispatchInstruction (Instruction.decode 0x0021)) cause) ∧
        ¬ Restartable dataFaultCpu (dataFaultCpu.dispatchInstruction (Instruction.decode 0x0021)) := by
  refine ⟨rfl, ⟨5, ⟨.read, 0x40000000, 8, true, .faulted 5 true⟩, by decide +kernel, rfl⟩, fun h => ?_⟩
  exact absurd (h.regs 1 (by decide) (by decide)) (by decide +kernel)

end Dispatch

end Little64.Emulator

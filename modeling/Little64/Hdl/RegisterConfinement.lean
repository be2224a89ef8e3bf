import Little64.Hdl.IrqLatch
import Little64.Hdl.Occupancy
import Little64.Hdl.RegisterFile

/-! What the special-register file keeps from software: bits of the control registers, the registers of the kernel, and
the values of a trap entry. -/

namespace Little64.Hdl.RegisterFile

open Emulator (SpecialRegister)
open Assignments SpecialRegisters Runs

/-- The control registers have no bit that cannot be written. -/
structure Masked (s : SpecialRegisters) : Prop where
  cpuControl : s.cpuControl &&& ~~~CPU_CONTROL_WRITABLE_MASK = 0
  interruptCpuControl : s.interruptCpuControl &&& ~~~CPU_CONTROL_WRITABLE_MASK = 0

/-- The core writes a value in this cycle, when it enters a trap or leaves one. -/
def CoreWrites (i : RegisterFileInputs) (r : SpecialRegister) (v : Word) : Prop :=
  i.coreTrapWrite = true ∧ (r, v) ∈ coreTrapWrites i ∨ (r, v) ∈ coreWrites i

/-- The same cycle if software did not write. -/
def withoutWrite (i : RegisterFileInputs) : RegisterFileInputs := { i with writeStb := false }

structure CycleConfined (c : SpecialRegisterConfig) (s : SpecialRegisters) (i : RegisterFileInputs) : Prop where
  /-- Whatever changes but the thread pointer changes without the write too. -/
  user : i.userMode = true → i.writeStb = true → ∀ r ≠ SpecialRegister.userThreadPointer,
    (step c s i).get r = s.get r ∨ (step c s i).get r = (step c s (withoutWrite i)).get r
  core : ∀ r v, CoreWrites i r v → (step c s i).get r = v

structure Confined (c : SpecialRegisterConfig) (is : List RegisterFileInputs) : Prop where
  masked : ∀ is', is' <+: is → Masked (run (step c) reset is')
  cycles : Along (step c) (CycleConfined c) reset is

/-- Software does not write another program counter in the cycle in which the core writes the interrupted one. -/
def EpcGuarded (i : RegisterFileInputs) : Prop :=
  i.coreInterruptEpcWrite = true → writesTo i .interruptEpc = true → i.writeData = i.coreInterruptEpcData

instance (i : RegisterFileInputs) : Decidable (EpcGuarded i) := inferInstanceAs (Decidable (_ → _ → _))

variable {c : SpecialRegisterConfig} {s : SpecialRegisters} {i : RegisterFileInputs} {r : SpecialRegister} {v w : Word}

section Targets

def entryRegisters : List SpecialRegister := [.cpuControl, .interruptCpuControl, .interruptEpc, .interruptEflags]

lemma coreTrapWrites_target (h : (r, v) ∈ coreTrapWrites i) : r ∈ trapRegisters := by
  have hregisters : (coreTrapWrites i).map Prod.fst = trapRegisters := rfl
  rw [← hregisters]
  exact List.mem_map_of_mem h

lemma mem_trapBank (h : (r, v) ∈ trapBank i) :
    i.coreTrapWrite = true ∧ (r, v) ∈ coreTrapWrites i ∨
      i.coreTrapWrite = false ∧ r ∈ trapRegisters ∧ writesTo i r = true := by
  rw [trapBank] at h
  split at h
  · next hcore => exact .inl ⟨hcore, h⟩
  · next hcore =>
    obtain ⟨q, hq, h⟩ := List.mem_flatMap.mp h
    obtain ⟨hwrites, rfl, -⟩ := mem_assignIf.mp h
    exact .inr ⟨Bool.eq_false_of_not_eq_true hcore, hq, hwrites⟩

lemma trapBank_target (h : (r, v) ∈ trapBank i) : r ∈ trapRegisters := by
  rcases mem_trapBank h with ⟨-, h⟩ | ⟨-, h, -⟩
  · exact coreTrapWrites_target h
  · exact h

lemma mem_coreWrites : (r, v) ∈ coreWrites i ↔
    i.coreCpuControlWrite = true ∧ r = .cpuControl ∧ v = i.coreCpuControlData &&& CPU_CONTROL_WRITABLE_MASK ∨
      i.coreInterruptCpuControlWrite = true ∧ r = .interruptCpuControl ∧
        v = i.coreInterruptCpuControlData &&& CPU_CONTROL_WRITABLE_MASK ∨
      i.coreInterruptEpcWrite = true ∧ r = .interruptEpc ∧ v = i.coreInterruptEpcData ∨
      i.coreInterruptEflagsWrite = true ∧ r = .interruptEflags ∧ v = i.coreInterruptEflagsData := by
  simp only [coreWrites, List.mem_append, mem_assignIf, or_assoc]

lemma coreWrites_target (h : (r, v) ∈ coreWrites i) : r ∈ entryRegisters := by
  rcases mem_coreWrites.mp h with ⟨-, rfl, -⟩ | ⟨-, rfl, -⟩ | ⟨-, rfl, -⟩ | ⟨-, rfl, -⟩ <;> decide

lemma notMem_trapRegisters (h : r ∈ entryRegisters) : r ∉ trapRegisters := by
  rcases List.mem_cons.mp h with rfl | h
  · decide
  simp only [List.mem_cons, List.not_mem_nil, or_false] at h
  rcases h with rfl | rfl | rfl <;> decide

lemma softwareWrites_target (h : (r, v) ∈ softwareWrites c i) :
    selected i.writeSelector = some r ∧ r ∉ trapRegisters := by
  rw [softwareWrites] at h
  split at h <;> simp_all [mem_assignIf, trapRegisters]

lemma pendingWrites_target (h : (r, v) ∈ pendingWrites s i) : r = .interruptStatesHigh := (mem_assignIf.mp h).2.1

/-- Software waits for the core in every register that both write, but for one. -/
lemma softwareWrites_waits (h : (r, v) ∈ softwareWrites c i) (hcore : (r, w) ∈ coreWrites i) :
    r = .interruptEpc ∧ v = i.writeData ∧ i.coreInterruptEpcWrite = true ∧ w = i.coreInterruptEpcData := by
  have hsel := (softwareWrites_target h).1
  rcases mem_coreWrites.mp hcore with
    ⟨hwrite, rfl, -⟩ | ⟨hwrite, rfl, -⟩ | ⟨hwrite, rfl, rfl⟩ | ⟨hwrite, rfl, -⟩ <;>
    rw [softwareWrites, hsel] at h
  · rw [mem_assignIf, hwrite] at h
    exact absurd h.1 (by decide)
  · rw [mem_assignIf, hwrite] at h
    exact absurd h.1 (by decide)
  · exact ⟨rfl, congrArg Prod.snd (List.mem_singleton.mp h), hwrite, rfl⟩
  · rw [mem_assignIf, hwrite] at h
    exact absurd h.1 (by decide)

end Targets

section Masks

/-- The value is one that a control register may have. -/
def InMask (r : SpecialRegister) (v : Word) : Prop :=
  r = .cpuControl ∨ r = .interruptCpuControl → v &&& ~~~CPU_CONTROL_WRITABLE_MASK = 0

lemma masked_iff : Masked s ↔ ∀ r, InMask r (s.get r) := by
  constructor
  · rintro ⟨hcpu, hinterrupt⟩ r (rfl | rfl)
    · exact hcpu
    · exact hinterrupt
  · intro h
    exact ⟨h .cpuControl (.inl rfl), h .interruptCpuControl (.inr rfl)⟩

lemma and_mask_outside (v : Word) : v &&& CPU_CONTROL_WRITABLE_MASK &&& ~~~CPU_CONTROL_WRITABLE_MASK = 0 := by
  rw [BitVec.and_assoc, BitVec.and_not_self]
  exact BitVec.and_zero

lemma elaborate_inMask (h : (r, v) ∈ elaborate c s i) : InMask r v := by
  intro hcontrol
  have hr : r ∉ trapRegisters ∧ r ≠ .interruptStatesHigh := by rcases hcontrol with rfl | rfl <;> decide
  rcases List.mem_append.mp h with h | h
  · rcases List.mem_append.mp h with h | h
    · exact absurd (trapBank_target h) hr.1
    · rcases mem_coreWrites.mp h with ⟨-, -, rfl⟩ | ⟨-, -, rfl⟩ | ⟨-, rfl, -⟩ | ⟨-, rfl, -⟩
      · exact and_mask_outside _
      · exact and_mask_outside _
      · rcases hcontrol with h | h <;> cases h
      · rcases hcontrol with h | h <;> cases h
  · split at h
    · have hsel := (softwareWrites_target h).1
      rcases hcontrol with rfl | rfl <;> rw [softwareWrites, hsel] at h
      · rw [(mem_assignIf.mp h).2.2]
        exact and_mask_outside _
      · rw [(mem_assignIf.mp h).2.2]
        exact and_mask_outside _
    · exact absurd (pendingWrites_target h) hr.2

lemma masked_reset : Masked reset := ⟨BitVec.zero_and, BitVec.zero_and⟩

lemma step_masked (h : Masked s) : Masked (step c s i) := by
  rw [masked_iff] at h ⊢
  exact bank.get_assign_invariant InMask h fun a ha => elaborate_inMask ha

end Masks

lemma get_step (r : SpecialRegister) : (step c s i).get r = bank.get (bank.assign s (elaborate c s i)) r := rfl

section Users

lemma elaborate_of_not_writes (h : writes i = false) : elaborate c s i = elaborate c s (withoutWrite i) := by
  have hto : ∀ r, writesTo i r = writesTo (withoutWrite i) r := fun r => by rw [writesTo, h]; rfl
  have hbank : trapBank i = trapBank (withoutWrite i) := by
    rw [trapBank, trapBank]
    simp only [hto]
    rfl
  rw [elaborate, h, hbank]
  rfl

/-- In user mode software writes the thread pointer or nothing. -/
lemma selected_of_user (huser : i.userMode = true) (h : writes i = true) :
    selected i.writeSelector = some .userThreadPointer := by
  rw [writes, writeAccessFault, huser] at h
  cases hallowed : userSelectorAllowed i.writeSelector with
  | false =>
    rw [hallowed] at h
    cases hstb : i.writeStb <;> rw [hstb] at h <;> exact absurd h (by decide)
  | true =>
    rw [eq_of_beq hallowed]
    decide

lemma user_write_confined (huser : i.userMode = true) (hr : r ≠ .userThreadPointer) :
    (step c s i).get r = s.get r ∨ (step c s i).get r = (step c s (withoutWrite i)).get r := by
  cases hwrites : writes i with
  | false =>
    right
    rw [step, elaborate_of_not_writes hwrites]
    rfl
  | true =>
    have hsel := selected_of_user huser hwrites
    have hbank : trapBank i = trapBank (withoutWrite i) := by
      have hto : ∀ q, writesTo i q = (some SpecialRegister.userThreadPointer == some q) := fun q => by
        rw [writesTo, hwrites, hsel, Bool.true_and]
      rw [trapBank, trapBank]
      simp only [hto]
      rfl
    have hstep : (step c s i).get r = bank.get (bank.assign s (trapBank i ++ coreWrites i)) r := by
      have helaborate : elaborate c s i = trapBank i ++ coreWrites i ++ [(.userThreadPointer, i.writeData)] := by
        rw [elaborate, if_pos hwrites, softwareWrites, hsel]
      rw [get_step, helaborate]
      apply Bank.get_assign_append_left
      intro a ha
      rw [List.mem_singleton.mp ha]
      exact hr.symm
    by_cases hstates : r = .interruptStatesHigh
    · left
      rw [hstep]
      apply Bank.get_assign_of_notMem
      rintro ⟨q, v⟩ ha hq
      obtain rfl : q = .interruptStatesHigh := hq.trans hstates
      rcases List.mem_append.mp ha with ha | ha
      · exact absurd (trapBank_target ha) (by decide)
      · exact absurd (coreWrites_target ha) (by decide)
    · right
      rw [hstep, hbank, get_step]
      symm
      apply Bank.get_assign_append_left
      rintro ⟨q, v⟩ ha hq
      exact hstates (hq.symm.trans (pendingWrites_target ha))

end Users

section Entries

lemma coreTrapWrites_unique (h : (r, v) ∈ coreTrapWrites i) (h' : (r, w) ∈ coreTrapWrites i) : w = v := by
  simp only [coreTrapWrites, List.mem_cons, Prod.mk.injEq, List.not_mem_nil, or_false] at h h'
  rcases h with ⟨rfl, rfl⟩ | ⟨rfl, rfl⟩ | ⟨rfl, rfl⟩ | ⟨rfl, rfl⟩ | ⟨rfl, rfl⟩ <;> simpa using h'

lemma coreWrites_unique (h : (r, v) ∈ coreWrites i) (h' : (r, w) ∈ coreWrites i) : w = v := by
  rw [mem_coreWrites] at h h'
  rcases h with ⟨-, rfl, rfl⟩ | ⟨-, rfl, rfl⟩ | ⟨-, rfl, rfl⟩ | ⟨-, rfl, rfl⟩ <;> simp_all

lemma mem_elaborate_of_core (h : CoreWrites i r v) : (r, v) ∈ elaborate c s i := by
  apply List.mem_append_left
  rcases h with ⟨hcore, h⟩ | h
  · apply List.mem_append_left
    rw [trapBank, if_pos hcore]
    exact h
  · exact List.mem_append_right _ h

/-- In the cycle in which the core writes a register nothing else writes another value to it. -/
lemma core_write_stands (hguarded : EpcGuarded i) (h : CoreWrites i r v) : (step c s i).get r = v := by
  apply bank.get_assign_of_mem (mem_elaborate_of_core h)
  intro w hw
  rcases h with ⟨hcore, h⟩ | h
  · have hr := coreTrapWrites_target h
    rcases List.mem_append.mp hw with hw | hw
    · rcases List.mem_append.mp hw with hw | hw
      · rcases mem_trapBank hw with ⟨-, hw⟩ | ⟨hno, -, -⟩
        · exact coreTrapWrites_unique h hw
        · exact absurd (hcore.symm.trans hno) (by decide)
      · exact absurd hr (notMem_trapRegisters (coreWrites_target hw))
    · split at hw
      · exact absurd hr (softwareWrites_target hw).2
      · rw [pendingWrites_target hw] at hr
        exact absurd hr (by decide)
  · have hr := coreWrites_target h
    rcases List.mem_append.mp hw with hw | hw
    · rcases List.mem_append.mp hw with hw | hw
      · exact absurd (trapBank_target hw) (notMem_trapRegisters hr)
      · exact coreWrites_unique h hw
    · split at hw
      · next hwrites =>
        obtain ⟨rfl, rfl, hcore, rfl⟩ := softwareWrites_waits hw h
        apply hguarded hcore
        rw [writesTo, hwrites, (softwareWrites_target hw).1]
        decide
      · rw [pendingWrites_target hw] at hr
        exact absurd hr (by decide)

lemma epcGuarded_of_core (h : ∀ r v, CoreWrites i r v → (step c s i).get r = v) : EpcGuarded i := by
  intro hcore hwrites
  rw [writesTo, Bool.and_eq_true, beq_iff_eq] at hwrites
  have hmem := mem_coreWrites.mpr (.inr (.inr (.inl ⟨hcore, rfl, rfl⟩)))
  have hkept := h .interruptEpc i.coreInterruptEpcData (.inr hmem)
  have helaborate : elaborate c s i = trapBank i ++ coreWrites i ++ [(.interruptEpc, i.writeData)] := by
    rw [elaborate, if_pos hwrites.1, softwareWrites, hwrites.2]
  rw [step, helaborate, bank.assign_append] at hkept
  exact hkept

lemma cycleConfined_iff : CycleConfined c s i ↔ EpcGuarded i := by
  constructor
  · intro h
    exact epcGuarded_of_core h.core
  · intro h
    exact ⟨fun huser _ r hr => user_write_confined huser hr, fun r v hwrite => core_write_stands h hwrite⟩

end Entries

/-- The register file is confined in exactly the runs in which no software write takes the place of the interrupted
program counter. -/
theorem confined_iff (c : SpecialRegisterConfig) (is : List RegisterFileInputs) :
    Confined c is ↔ ∀ i ∈ is, EpcGuarded i := by
  have halong : ∀ s, Along (step c) (CycleConfined c) s is ↔ ∀ i ∈ is, EpcGuarded i := by
    induction is with
    | nil => exact fun s => iff_of_true (.nil s) fun i hi => absurd hi List.not_mem_nil
    | cons i is ih =>
      intro s
      rw [along_cons_iff, cycleConfined_iff, ih, List.forall_mem_cons]
  have hmasked : ∀ is', Masked (run (step c) reset is') := by
    intro is'
    induction is' using List.reverseRecOn with
    | nil => exact masked_reset
    | append_singleton is' i ih =>
      rw [run_append]
      exact step_masked ih
  constructor
  · intro h
    exact (halong reset).mp h.cycles
  · intro h
    exact ⟨fun is' _ => hmasked is', (halong reset).mpr h⟩

/-- A trap entry and an `SSR` to the interrupted program counter in one cycle. -/
def epcCollision : RegisterFileInputs where
  writeStb := true
  writeSelector := 21
  writeData := 0x2000
  coreCpuControlWrite := false
  coreCpuControlData := 0
  coreInterruptCpuControlWrite := false
  coreInterruptCpuControlData := 0
  coreInterruptEpcWrite := true
  coreInterruptEpcData := 0x1000
  coreInterruptEflagsWrite := true
  coreInterruptEflagsData := 0
  coreTrapWrite := false
  coreTrapCauseData := 0
  coreTrapFaultAddrData := 0
  coreTrapAccessData := 0
  coreTrapPcData := 0
  coreTrapAuxData := 0
  interruptStatesHighSet := 0
  userMode := false

theorem epc_collision_not_confined : ¬ Confined ⟨true, true⟩ [epcCollision] := by
  intro h
  exact absurd (epcGuarded_of_core (along_cons_iff.mp h.cycles).1.core) (by decide)

section Core

lemma get_assign_snoc {l : List (SpecialRegister × Word)} {b : Bool} {q : SpecialRegister} :
    (bank.assign s (l ++ assignIf b q v)).get r = if b = true ∧ r = q then v else (bank.assign s l).get r :=
  bank.get_assign_snoc_if

lemma get_coreTrapWrites (r : SpecialRegister) : (bank.assign s (coreTrapWrites i)).get r =
    match r with
    | .trapCause => i.coreTrapCauseData
    | .trapFaultAddr => i.coreTrapFaultAddrData
    | .trapAccess => i.coreTrapAccessData
    | .trapPc => i.coreTrapPcData
    | .trapAux => i.coreTrapAuxData
    | r => s.get r := by
  have hset : ∀ (s : SpecialRegisters) (q : SpecialRegister) (v : Word) (r : SpecialRegister),
      (bank.set s q v).get r = if r = q then v else s.get r := bank.get_set
  change (bank.set (bank.set (bank.set (bank.set (bank.set s _ _) _ _) _ _) _ _) _ _).get r = _
  simp only [hset]
  cases r <;> rfl

lemma softwareWrite_eq (hmode : i.userMode = s.userMode) :
    s.softwareWrite i.toSpecialRegisterInputs = if writes i then selected i.writeSelector else none := by
  rw [softwareWrite, SpecialRegisters.writeAccessFault, ← hmode]
  rfl

/-- The trap registers behind their own statements, and the others as they were. -/
lemma get_trapBank (hmode : i.userMode = s.userMode) (r : SpecialRegister) : (bank.assign s (trapBank i)).get r =
    match r with
    | .trapCause => s.writtenTrap i.toSpecialRegisterInputs .trapCause i.coreTrapCauseData s.trapCause
    | .trapFaultAddr => s.writtenTrap i.toSpecialRegisterInputs .trapFaultAddr i.coreTrapFaultAddrData s.trapFaultAddr
    | .trapAccess => s.writtenTrap i.toSpecialRegisterInputs .trapAccess i.coreTrapAccessData s.trapAccess
    | .trapPc => s.writtenTrap i.toSpecialRegisterInputs .trapPc i.coreTrapPcData s.trapPc
    | .trapAux => s.writtenTrap i.toSpecialRegisterInputs .trapAux i.coreTrapAuxData s.trapAux
    | r => s.get r := by
  have hwritesTo : ∀ r, writesTo i r = true ↔ s.softwareWrite i.toSpecialRegisterInputs = some r := by
    intro r
    rw [softwareWrite_eq hmode, writesTo]
    cases writes i <;> simp
  rw [trapBank]
  cases hcore : i.coreTrapWrite with
  | true =>
    rw [if_pos rfl, get_coreTrapWrites]
    simp only [SpecialRegisters.writtenTrap, hcore, if_true]
  | false =>
    have hlist : (trapRegisters.flatMap fun r => assignIf (writesTo i r) r i.writeData) =
        [] ++ assignIf (writesTo i .trapCause) SpecialRegister.trapCause i.writeData ++
          assignIf (writesTo i .trapFaultAddr) SpecialRegister.trapFaultAddr i.writeData ++
          assignIf (writesTo i .trapAccess) SpecialRegister.trapAccess i.writeData ++
          assignIf (writesTo i .trapPc) SpecialRegister.trapPc i.writeData ++
          assignIf (writesTo i .trapAux) SpecialRegister.trapAux i.writeData := by
      simp [trapRegisters]
    rw [if_neg Bool.false_ne_true, hlist]
    simp only [get_assign_snoc, SpecialRegisters.writtenTrap, SpecialRegisters.written, hcore, Bool.false_eq_true,
      if_false, hwritesTo]
    cases r <;> simp <;> rfl

/-- The register file inside the core, whose mode is a bit of its own control register. -/
theorem step_eq (hmode : i.userMode = s.userMode) : s.step c i.toSpecialRegisterInputs = step c s i := by
  have hsoft := softwareWrite_eq hmode
  have hstb : (i.writeStb && !s.writeAccessFault i.toSpecialRegisterInputs) = writes i := by
    rw [SpecialRegisters.writeAccessFault, ← hmode]
    rfl
  apply ext_get
  intro r
  change _ = (bank.assign s (elaborate c s i)).get r
  rw [elaborate]
  cases hwrites : writes i with
  | false =>
    rw [if_neg Bool.false_ne_true, pendingWrites, get_assign_snoc, coreWrites]
    simp only [← List.append_assoc, get_assign_snoc, get_trapBank hmode]
    rw [hwrites] at hsoft
    cases r <;>
      simp [SpecialRegisters.get, SpecialRegisters.step, SpecialRegisters.written, SpecialRegisters.writtenPlatform,
        hsoft, hstb, hwrites]
    -- no line is high
    intro hnone
    rw [hnone]
    exact BitVec.or_zero
  | true =>
    rw [hwrites, if_pos rfl] at hsoft
    rw [if_pos rfl]
    by_cases hsel : selected i.writeSelector = some r
    · have hlast : ∀ (l : List (SpecialRegister × Word)) (q : SpecialRegister) (v : Word),
          (bank.assign s (l ++ [(q, v)])).get r = if r = q then v else (bank.assign s l).get r := by
        intro l q v
        rw [bank.assign_append]
        exact bank.get_set _ q v r
      rw [hsel] at hsoft
      rw [softwareWrites, hsel, coreWrites]
      cases r <;> simp only [← List.append_assoc, get_assign_snoc, hlast, get_trapBank hmode, List.append_nil] <;>
        simp [SpecialRegisters.get, SpecialRegisters.step, SpecialRegisters.written, SpecialRegisters.writtenPlatform,
          hsoft, hstb, hwrites]
      -- the registers in which software waits for the core
      · cases i.coreCpuControlWrite <;> rfl
      · cases i.coreInterruptEflagsWrite <;> rfl
      · cases i.coreInterruptCpuControlWrite <;> rfl
    · have hno : (bank.assign s (trapBank i ++ coreWrites i ++ softwareWrites c i)).get r =
          (bank.assign s (trapBank i ++ coreWrites i)).get r := by
        apply bank.get_assign_append_left
        rintro ⟨q, v⟩ ha rfl
        exact hsel (softwareWrites_target ha).1
      rw [hno, coreWrites]
      simp only [← List.append_assoc, get_assign_snoc, get_trapBank hmode]
      cases r <;>
        simp [SpecialRegisters.get, SpecialRegisters.step, SpecialRegisters.written, SpecialRegisters.writtenPlatform,
          hsoft, hstb, hwrites, hsel]

lemma tlbFlush_eq (hmode : i.userMode = s.userMode) : s.tlbFlush c i.toSpecialRegisterInputs = tlbFlush c i := by
  rw [SpecialRegisters.tlbFlush, softwareWrite_eq hmode, tlbFlush, writesTo, writesTo]
  cases writes i <;> cases i.coreCpuControlWrite <;> simp

end Core

end Little64.Hdl.RegisterFile

namespace Little64.Hdl.Core

open Runs RegisterFile

variable {c : CoreConfig}

def registerFileInputs (s : Core c) (i : CoreInputs c) : RegisterFileInputs :=
  ⟨s.specialRegisterInputs i, s.specialRegs.userMode⟩

lemma registerFile_tlbFlush (s : Core c) (i : CoreInputs c) :
    s.specialRegs.tlbFlush c.specialRegs (s.specialRegisterInputs i) =
      RegisterFile.tlbFlush c.specialRegs (s.registerFileInputs i) :=
  tlbFlush_eq (i := s.registerFileInputs i) rfl

lemma registerFile_step (s : Core c) (i : CoreInputs c) :
    (s.step i).specialRegs = RegisterFile.step c.specialRegs s.specialRegs (s.registerFileInputs i) := by
  rw [specialRegs_step, ← RegisterFile.step_eq rfl]
  rfl

/-- The pipeline is empty when the core enters a handler, so that no `SSR` is in its way. -/
lemma epcGuarded {s : Core c} (hs : s.Occupancy) (i : CoreInputs c) : EpcGuarded (s.registerFileInputs i) := by
  intro hcore hwrites
  have hactive : s.vector.active = true := by
    have henters : s.vectorEnters i = true := hcore
    simp only [vectorEnters, vectorResponseValid, Bool.and_eq_true] at henters
    exact henters.1.1.1.1
  have hempty := (hs.entering hactive).1.de
  have hcommit : s.executeSpecialWriteCommit = true := by
    have hstb : (s.registerFileInputs i).writeStb = s.executeSpecialWriteCommit := rfl
    rw [writesTo, writes, hstb] at hwrites
    cases hc : s.executeSpecialWriteCommit with
    | true => rfl
    | false =>
      rw [hc] at hwrites
      cases hwrites
  rw [executeSpecialWriteCommit, Bool.and_eq_true] at hcommit
  exact absurd (hempty.symm.trans (executeToRetire_spec hcommit.2).1) Bool.false_ne_true

lemma along_confined {s : Core c} (hs : s.Occupancy) (is : List (CoreInputs c)) :
    Along step (fun s i => CycleConfined c.specialRegs s.specialRegs (s.registerFileInputs i)) s is := by
  induction is generalizing s with
  | nil => exact .nil s
  | cons i is ih => exact .cons (cycleConfined_iff.mpr (epcGuarded hs i)) (ih (hs.step i))

lemma masked_run {s : Core c} (hs : Masked s.specialRegs) (is : List (CoreInputs c)) :
    Masked (run step s is).specialRegs := by
  induction is generalizing s with
  | nil => exact hs
  | cons i is ih =>
    apply ih
    rw [registerFile_step]
    exact step_masked hs

/-- Inside the core the register file is confined in every run. -/
theorem registerFile_confined (c : CoreConfig) (is : List (CoreInputs c)) :
    Masked (run step (reset c) is).specialRegs ∧
      Along step (fun s i => CycleConfined c.specialRegs s.specialRegs (s.registerFileInputs i)) (reset c) is :=
  ⟨masked_run masked_reset is, along_confined (occupancy_reset c) is⟩

end Little64.Hdl.Core

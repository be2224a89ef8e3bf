import Little64.Emulator.AddressTranslator
import Little64.Emulator.Instruction

/-! The emulated CPU: its state, the software TLB, trap entry and the memory access helpers. -/

namespace Little64.Emulator

open Vectors

structure TlbEntry where
  vpage : Word
  pbase : Word
  perms : BitVec 8
  userAccessible : Bool
  deriving DecidableEq, Repr

def TlbEntry.initial : TlbEntry := ⟨BitVec.allOnes 64, 0, 0, false⟩

/-- What one memory access of an instruction came to: the physical address and the low bytes moved,
or the trap it raised and whether a handler was entered. -/
inductive Outcome
  | performed (physical data : Word)
  | faulted (trapCause : Word) (entered : Bool)
  deriving DecidableEq, Repr

structure MemoryEvent where
  access : AccessType
  virtualAddr : Word
  width : ℕ
  user : Bool
  outcome : Outcome
  deriving DecidableEq, Repr

structure Cpu where
  registers : Registers
  isRunning : Bool
  bus : MemoryBus
  tlb : BitVec 6 → TlbEntry
  memBase : Word
  memSize : Word
  bootSourceBytes : List (BitVec 8)
  /-- Accesses made so far, newest first; a record for the statements, read by no operation. -/
  events : List MemoryEvent

namespace Cpu

variable (s : Cpu)

def reg (i : Reg) : Word := s.registers.regs i

def setReg (rd : Reg) (value : Word) : Cpu := { s with registers := s.registers.setReg rd value }

def record (event : MemoryEvent) : Cpu := { s with events := event :: s.events }

def pagingConfig : PagingConfig where
  enabled := s.registers.isPagingEnabled
  rootTablePhysical := s.registers.pageTableRootPhysical
  isUser := s.registers.isUserMode

def translateAddress (virtualAddr : Word) (access : AccessType) : PagingTranslateResult :=
  AddressTranslator.translate s.bus s.pagingConfig virtualAddr access

def flushTLB : Cpu := { s with tlb := fun i => { s.tlb i with vpage := BitVec.allOnes 64 } }

/-- Trap entry snapshots `cpu_control` and forces supervisor mode before the vector table is read. -/
def enteringRegisters (interruptNumber : Word) : Registers :=
  (((({ s.registers with interruptCpuControl := s.registers.cpuControl }.setUserMode false).setInInterrupt
    true).setInterruptEnabled false).setCurrentInterruptNumber (interruptNumber.setWidth 8))

def handlerTranslation (interruptNumber : Word) : PagingTranslateResult :=
  { s with registers := s.enteringRegisters interruptNumber }.translateAddress
    (s.registers.interruptTableBase + interruptNumber * 8) .read

def enteredRegisters (interruptNumber : Word) (exception : Bool) (epc handler : Word) : Registers :=
  let entering := s.enteringRegisters interruptNumber
  let pending := if exception then entering else entering.setInterruptPending interruptNumber
  { pending with
    interruptEpc := if epc ≠ BitVec.allOnes 64 then epc else pending.regs 15
    interruptEflags := pending.flags
    trapCause := if exception && pending.trapCause == noTrap then interruptNumber else pending.trapCause
    regs := fun i => if i = 15 then handler else pending.regs i }

/-- The part of trap entry that follows the decision to deliver. -/
def enterInterrupt (interruptNumber : Word) (exception : Bool) (epc : Word) : Bool × Cpu :=
  let entering := s.enteringRegisters interruptNumber
  match s.handlerTranslation interruptNumber with
  | .fault _ _ =>
    -- every register saved at entry goes back when the CPU was already stopped
    (false, { s with
      registers := if exception && !s.isRunning then s.registers else entering
      isRunning := false })
  | .mapped physical =>
    let handler := s.bus.read64 physical .read
    if handler = 0 then
      (false, { s with
        registers := { entering with
          cpuControl := s.registers.cpuControl
          interruptCpuControl := s.registers.interruptCpuControl }
        isRunning := false })
    else (true, { s with registers := s.enteredRegisters interruptNumber exception epc handler })

def raiseInterrupt (interruptNumber : Word) (exception : Bool) (epc : Word) : Bool × Cpu :=
  let r := s.registers
  let currentInterrupt := r.getCurrentInterruptNumber
  if !exception && !isIrqVector interruptNumber then (false, s)
  else if !exception && !r.isInterruptEnabled then (false, s)
  else if !exception && !r.isInterruptUnmasked interruptNumber then (false, s)
  else if r.isInInterrupt && currentInterrupt != noTrap && decide (currentInterrupt ≤ interruptNumber) then
    if exception && isExceptionVector currentInterrupt then (false, { s with isRunning := false })
    else (false, s)
  else s.enterInterrupt interruptNumber exception epc

def accessNumber : AccessType → ℕ
  | .read => 0
  | .write => 1
  | .execute => 2

def accessBit (access : AccessType) : BitVec 8 := 1 <<< accessNumber access

def tlbIndex (virtualAddr : Word) : BitVec 6 := (virtualAddr >>> 12).setWidth 6

/-- Populate the TLB on successful translation: accumulate permission bits or replace the entry. -/
def fillTlb (virtualAddr : Word) (access : AccessType) (physical : Word) : Cpu :=
  let vpage := virtualAddr >>> 12
  let entry := s.tlb (tlbIndex virtualAddr)
  let filled : TlbEntry :=
    if entry.vpage = vpage then { entry with perms := entry.perms ||| accessBit access }
    else ⟨vpage, physical &&& ~~~0xFFF, accessBit access, s.registers.isUserMode⟩
  { s with tlb := fun i => if i = tlbIndex virtualAddr then filled else s.tlb i }

def faultRegisters (virtualAddr : Word) (access : AccessType) (operationPc cause aux : Word) : Cpu :=
  { s with registers := { s.registers with
      trapCause := cause
      trapFaultAddr := virtualAddr
      trapAccess := BitVec.ofNat 64 (accessNumber access)
      trapPc := operationPc
      trapAux := aux } }

/-- A mapping attempt: the physical address, or the trap raised and whether its handler was entered. -/
inductive Mapping
  | mapped (physical : Word)
  | faulted (trapCause : Word) (entered : Bool)
  deriving DecidableEq, Repr

def mapAddressSlowPath (virtualAddr : Word) (access : AccessType) (operationPc : Word) : Mapping × Cpu :=
  match s.translateAddress virtualAddr access with
  | .mapped physical =>
    (.mapped physical, if s.registers.isPagingEnabled then s.fillTlb virtualAddr access physical else s)
  | .fault cause aux =>
    let raised := (s.faultRegisters virtualAddr access operationPc cause aux).raiseInterrupt cause true operationPc
    (.faulted cause raised.1, raised.2)

def tlbHit (virtualAddr : Word) (access : AccessType) : Bool :=
  let entry := s.tlb (tlbIndex virtualAddr)
  entry.vpage == virtualAddr >>> 12 && entry.perms &&& accessBit access != 0 &&
    (!s.registers.isUserMode || entry.userAccessible)

def mapAddress (virtualAddr : Word) (access : AccessType) (operationPc : Word) : Mapping × Cpu :=
  if access = .execute ∧ virtualAddr &&& 1 ≠ 0 then s.mapAddressSlowPath virtualAddr access operationPc
  else if !s.registers.isPagingEnabled then (.mapped virtualAddr, s)
  else if s.tlbHit virtualAddr access then
    (.mapped ((s.tlb (tlbIndex virtualAddr)).pbase ||| (virtualAddr &&& 0xFFF)), s)
  else s.mapAddressSlowPath virtualAddr access operationPc

def readMemory (w : ℕ) (busRead : MemoryBus → Word → AccessType → BitVec w) (addr operationPc : Word)
    (access : AccessType) : BitVec w × Cpu :=
  match s.mapAddress addr access operationPc with
  | (.faulted cause entered, t) =>
    (BitVec.allOnes w, t.record ⟨access, addr, w / 8, s.registers.isUserMode, .faulted cause entered⟩)
  | (.mapped physical, t) =>
    let value := busRead t.bus physical (if access = .execute then .execute else .read)
    (value, t.record ⟨access, addr, w / 8, s.registers.isUserMode, .performed physical (value.setWidth 64)⟩)

def readMemory8 := readMemory s 8 MemoryBus.read8
def readMemory16 := readMemory s 16 MemoryBus.read16
def readMemory32 := readMemory s 32 MemoryBus.read32
def readMemory64 := readMemory s 64 MemoryBus.read64

def invalidateReservationOnWrite (addr : Word) (width : ℕ) : Cpu :=
  if !s.registers.llReservationValid || width == 0 then s
  else
    let reservationStart := s.registers.llReservationAddr
    let reservationEnd :=
      if BitVec.allOnes 64 - 7 < reservationStart then BitVec.allOnes 64 else reservationStart + 7
    let writeEnd :=
      if BitVec.allOnes 64 - (BitVec.ofNat 64 width - 1) < addr then BitVec.allOnes 64
      else addr + (BitVec.ofNat 64 width - 1)
    if addr ≤ reservationEnd ∧ reservationStart ≤ writeEnd then
      { s with registers := { s.registers with llReservationValid := false } }
    else s

def writeMemory (w : ℕ) (busWrite : MemoryBus → Word → BitVec w → AccessType → MemoryBus) (addr : Word)
    (value : BitVec w) (operationPc : Word) : Cpu :=
  match s.mapAddress addr .write operationPc with
  | (.faulted cause entered, t) => t.record ⟨.write, addr, w / 8, s.registers.isUserMode, .faulted cause entered⟩
  | (.mapped physical, t) =>
    ({ t with bus := busWrite t.bus physical value .write }.invalidateReservationOnWrite addr (w / 8)).record
      ⟨.write, addr, w / 8, s.registers.isUserMode, .performed physical (value.setWidth 64)⟩

def writeMemory8 := writeMemory s 8 MemoryBus.write8
def writeMemory16 := writeMemory s 16 MemoryBus.write16
def writeMemory32 := writeMemory s 32 MemoryBus.write32
def writeMemory64 := writeMemory s 64 MemoryBus.write64

/-- The handler address that the vector table holds for a trap, where it can be read. -/
def handlerAddress (interruptNumber : Word) : Option Word :=
  match s.handlerTranslation interruptNumber with
  | .fault _ _ => none
  | .mapped physical => some (s.bus.read64 physical .read)

variable {s}

lemma cpuControl_enteringRegisters (n : Word) :
    (s.enteringRegisters n).cpuControl = Registers.enteringControl s.registers.cpuControl (n.setWidth 8) := rfl

lemma paging_enteringRegisters (n : Word) :
    (s.enteringRegisters n).isPagingEnabled = s.registers.isPagingEnabled := by
  rw [Registers.isPagingEnabled_entering (cpuControl_enteringRegisters n), Registers.isPagingEnabled_eq]

/-- The vector table is read in supervisor mode, whatever the mode of the trap. -/
lemma handlerTranslation_eq (n : Word) :
    s.handlerTranslation n =
      AddressTranslator.translate s.bus ⟨s.registers.isPagingEnabled, s.registers.pageTableRootPhysical, false⟩
        (s.registers.interruptTableBase + n * 8) .read := by
  rw [handlerTranslation, translateAddress, pagingConfig]
  simp only [paging_enteringRegisters, Registers.isUserMode_entering (cpuControl_enteringRegisters n)]
  rfl

/-- A trap that enters no handler leaves the general registers, the flags and the trap registers alone. -/
structure Refused (s t : Cpu) : Prop where
  frame : t = { s with registers := t.registers, isRunning := t.isRunning }
  regs : t.registers.regs = s.registers.regs
  flags : t.registers.flags = s.registers.flags
  trapPc : t.registers.trapPc = s.registers.trapPc
  interruptEpc : t.registers.interruptEpc = s.registers.interruptEpc
  root : t.registers.pageTableRootPhysical = s.registers.pageTableRootPhysical
  tableBase : t.registers.interruptTableBase = s.registers.interruptTableBase
  paging : t.registers.isPagingEnabled = s.registers.isPagingEnabled

lemma Refused.stopped (running : Bool) : Refused s { s with isRunning := running } :=
  ⟨rfl, rfl, rfl, rfl, rfl, rfl, rfl, rfl⟩

lemma enterInterrupt_refused {n epc : Word} {exception : Bool}
    (h : (s.enterInterrupt n exception epc).1 = false) : Refused s (s.enterInterrupt n exception epc).2 := by
  unfold enterInterrupt at h ⊢
  cases ht : s.handlerTranslation n with
  | fault cause aux =>
    by_cases hs : exception && !s.isRunning
    · simp only [hs, if_true]
      exact .stopped false
    · simp only [hs]
      exact ⟨rfl, rfl, rfl, rfl, rfl, rfl, rfl, paging_enteringRegisters n⟩
  | mapped physical =>
    by_cases hz : s.bus.read64 physical .read = 0
    · simp only [hz, if_true]
      exact ⟨rfl, rfl, rfl, rfl, rfl, rfl, rfl, rfl⟩
    · simp only [ht, hz, if_false] at h
      cases h

lemma raiseInterrupt_refused {n epc : Word} {exception : Bool}
    (h : (s.raiseInterrupt n exception epc).1 = false) : Refused s (s.raiseInterrupt n exception epc).2 := by
  unfold raiseInterrupt at h ⊢
  simp only at h ⊢
  split_ifs at h ⊢
  · exact .stopped _
  · exact .stopped _
  · exact .stopped _
  · exact .stopped _
  · exact .stopped _
  · exact enterInterrupt_refused h

lemma enterInterrupt_entered {n epc : Word} {exception : Bool} (h : (s.enterInterrupt n exception epc).1 = true) :
    ∃ handler, s.handlerAddress n = some handler ∧
      (s.enterInterrupt n exception epc).2 = { s with registers := s.enteredRegisters n exception epc handler } := by
  unfold enterInterrupt at h ⊢
  cases ht : s.handlerTranslation n with
  | fault cause aux => simp only [ht] at h; cases h
  | mapped physical =>
    by_cases hz : s.bus.read64 physical .read = 0
    · simp only [ht, hz, if_true] at h
      cases h
    · simp only [hz, if_false]
      exact ⟨_, by rw [handlerAddress, ht], rfl⟩

lemma raiseInterrupt_entered {n epc : Word} {exception : Bool} (h : (s.raiseInterrupt n exception epc).1 = true) :
    ∃ handler, s.handlerAddress n = some handler ∧
      (s.raiseInterrupt n exception epc).2 = { s with registers := s.enteredRegisters n exception epc handler } := by
  unfold raiseInterrupt at h ⊢
  simp only at h ⊢
  split_ifs at h ⊢
  exact enterInterrupt_entered h

/-- What a mapping attempt goes by: the TLB entry on a hit, the page tables otherwise. -/
def mapResult (s : Cpu) (virtualAddr : Word) (access : AccessType) : PagingTranslateResult :=
  if ¬ (access = .execute ∧ virtualAddr &&& 1 ≠ 0) ∧ s.registers.isPagingEnabled ∧ s.tlbHit virtualAddr access then
    .mapped ((s.tlb (tlbIndex virtualAddr)).pbase ||| (virtualAddr &&& 0xFFF))
  else s.translateAddress virtualAddr access

variable {virtualAddr operationPc : Word} {access : AccessType}

lemma mapAddress_mapped {physical : Word} (operationPc : Word)
    (h : s.mapResult virtualAddr access = .mapped physical) :
    ∃ t, s.mapAddress virtualAddr access operationPc = (.mapped physical, t) ∧
      (t = s ∨ s.registers.isPagingEnabled ∧ s.translateAddress virtualAddr access = .mapped physical ∧
        t = s.fillTlb virtualAddr access physical) := by
  have hslow : s.translateAddress virtualAddr access = .mapped physical →
      ∃ t, s.mapAddressSlowPath virtualAddr access operationPc = (.mapped physical, t) ∧
        (t = s ∨ s.registers.isPagingEnabled ∧ s.translateAddress virtualAddr access = .mapped physical ∧
          t = s.fillTlb virtualAddr access physical) := fun ht => by
    rw [mapAddressSlowPath, ht]
    by_cases hp : s.registers.isPagingEnabled
    · exact ⟨_, rfl, .inr ⟨hp, rfl, if_pos hp⟩⟩
    · exact ⟨_, rfl, .inl (if_neg hp)⟩
  simp only [mapResult] at h
  unfold mapAddress
  by_cases ha : access = .execute ∧ virtualAddr &&& 1 ≠ 0
  · rw [if_neg fun hc => hc.1 ha] at h
    rw [if_pos ha]
    exact hslow h
  rw [if_neg ha]
  by_cases hp : s.registers.isPagingEnabled
  · by_cases ht : s.tlbHit virtualAddr access
    · rw [if_pos ⟨ha, hp, ht⟩] at h
      rw [if_neg (by simp [hp]), if_pos ht, PagingTranslateResult.mapped.inj h]
      exact ⟨s, rfl, .inl rfl⟩
    · rw [if_neg fun hc => ht hc.2.2] at h
      rw [if_neg (by simp [hp]), if_neg ht]
      exact hslow h
  · rw [if_neg fun hc => hp hc.2.1, translateAddress,
      AddressTranslator.translate_disabled (by simpa [pagingConfig] using hp) ha] at h
    rw [if_pos (by simp [hp]), PagingTranslateResult.mapped.inj h]
    exact ⟨s, rfl, .inl rfl⟩

/-- A failed mapping records the fault and raises its trap. -/
def raiseFault (s : Cpu) (virtualAddr : Word) (access : AccessType) (operationPc cause aux : Word) : Bool × Cpu :=
  (s.faultRegisters virtualAddr access operationPc cause aux).raiseInterrupt cause true operationPc

lemma mapAddress_fault {cause aux : Word} (h : s.mapResult virtualAddr access = .fault cause aux) :
    s.mapAddress virtualAddr access operationPc =
      (.faulted cause (s.raiseFault virtualAddr access operationPc cause aux).1,
        (s.raiseFault virtualAddr access operationPc cause aux).2) := by
  have hslow : s.translateAddress virtualAddr access = .fault cause aux →
      s.mapAddressSlowPath virtualAddr access operationPc =
        (.faulted cause (s.raiseFault virtualAddr access operationPc cause aux).1,
          (s.raiseFault virtualAddr access operationPc cause aux).2) := fun ht => by
    rw [mapAddressSlowPath, ht]
    rfl
  simp only [mapResult] at h
  split at h
  · cases h
  · next hc =>
    unfold mapAddress
    by_cases ha : access = .execute ∧ virtualAddr &&& 1 ≠ 0
    · rw [if_pos ha]
      exact hslow h
    rw [if_neg ha]
    by_cases hp : s.registers.isPagingEnabled
    · rw [if_neg (by simp [hp]), if_neg fun ht => hc ⟨ha, hp, ht⟩]
      exact hslow h
    · rw [translateAddress, AddressTranslator.translate_disabled (by simpa [pagingConfig] using hp) ha] at h
      cases h

lemma invalidateReservation_eq (addr : Word) (width : ℕ) :
    ∃ valid, s.invalidateReservationOnWrite addr width =
      { s with registers := { s.registers with llReservationValid := valid } } := by
  unfold invalidateReservationOnWrite
  simp only
  split_ifs <;> first | exact ⟨false, rfl⟩ | exact ⟨s.registers.llReservationValid, rfl⟩

lemma mapAddress_mapped_tlb {physical : Word} (operationPc : Word)
    (h : s.mapResult virtualAddr access = .mapped physical) :
    ∃ tlb, s.mapAddress virtualAddr access operationPc = (.mapped physical, { s with tlb := tlb }) := by
  obtain ⟨t, he, ht⟩ := mapAddress_mapped operationPc h
  refine ⟨t.tlb, he.trans ?_⟩
  rcases ht with rfl | ⟨_, _, rfl⟩ <;> rfl

lemma events_raiseInterrupt (n : Word) (exception : Bool) (epc : Word) :
    (s.raiseInterrupt n exception epc).2.events = s.events := by
  cases h : (s.raiseInterrupt n exception epc).1 with
  | false => rw [(raiseInterrupt_refused h).frame]
  | true =>
    obtain ⟨handler, _, he⟩ := raiseInterrupt_entered h
    rw [he]

section Access

variable {w : ℕ} {busRead : MemoryBus → Word → AccessType → BitVec w}
  {busWrite : MemoryBus → Word → BitVec w → AccessType → MemoryBus} {addr : Word} {value : BitVec w}

def readKind (access : AccessType) : AccessType := if access = .execute then .execute else .read

def accessEvent (s : Cpu) (access : AccessType) (addr : Word) (w : ℕ) (outcome : Outcome) : MemoryEvent :=
  ⟨access, addr, w / 8, s.registers.isUserMode, outcome⟩

lemma readMemory_mapped {physical : Word} (busRead : MemoryBus → Word → AccessType → BitVec w) (operationPc : Word)
    (h : s.mapResult addr access = .mapped physical) :
    ∃ tlb, s.readMemory w busRead addr operationPc access =
      (busRead s.bus physical (readKind access),
        { s with
          tlb := tlb
          events := s.accessEvent access addr w
            (.performed physical ((busRead s.bus physical (readKind access)).setWidth 64)) :: s.events }) := by
  obtain ⟨tlb, hm⟩ := mapAddress_mapped_tlb operationPc h
  exact ⟨tlb, by rw [readMemory, hm]; rfl⟩

lemma readMemory_fault {cause aux : Word} (busRead : MemoryBus → Word → AccessType → BitVec w) (operationPc : Word)
    (h : s.mapResult addr access = .fault cause aux) :
    s.readMemory w busRead addr operationPc access =
      (BitVec.allOnes w, (s.raiseFault addr access operationPc cause aux).2.record
        (s.accessEvent access addr w (.faulted cause (s.raiseFault addr access operationPc cause aux).1))) := by
  rw [readMemory, mapAddress_fault h]
  rfl

lemma writeMemory_mapped {physical : Word} (busWrite : MemoryBus → Word → BitVec w → AccessType → MemoryBus)
    (value : BitVec w) (operationPc : Word) (h : s.mapResult addr .write = .mapped physical) :
    ∃ tlb valid, s.writeMemory w busWrite addr value operationPc =
      { s with
        tlb := tlb
        bus := busWrite s.bus physical value .write
        registers := { s.registers with llReservationValid := valid }
        events := s.accessEvent .write addr w (.performed physical (value.setWidth 64)) :: s.events } := by
  obtain ⟨tlb, hm⟩ := mapAddress_mapped_tlb operationPc h
  obtain ⟨valid, hv⟩ :=
    invalidateReservation_eq (s := { s with tlb := tlb, bus := busWrite s.bus physical value .write }) addr (w / 8)
  refine ⟨tlb, valid, ?_⟩
  rw [writeMemory, hm]
  simp only [hv]
  rfl

lemma writeMemory_fault {cause aux : Word} (busWrite : MemoryBus → Word → BitVec w → AccessType → MemoryBus)
    (value : BitVec w) (operationPc : Word) (h : s.mapResult addr .write = .fault cause aux) :
    s.writeMemory w busWrite addr value operationPc =
      (s.raiseFault addr .write operationPc cause aux).2.record
        (s.accessEvent .write addr w (.faulted cause (s.raiseFault addr .write operationPc cause aux).1)) := by
  rw [writeMemory, mapAddress_fault h]
  rfl

lemma events_raiseFault (cause aux : Word) :
    (s.raiseFault addr access operationPc cause aux).2.events = s.events :=
  events_raiseInterrupt cause true operationPc

lemma events_readMemory_mapped {physical : Word} (h : s.mapResult addr access = .mapped physical) :
    ∃ data, (s.readMemory w busRead addr operationPc access).2.events =
      s.accessEvent access addr w (.performed physical data) :: s.events := by
  obtain ⟨tlb, he⟩ := readMemory_mapped busRead operationPc h
  rw [he]
  exact ⟨_, rfl⟩

lemma events_writeMemory_mapped {physical : Word} (h : s.mapResult addr .write = .mapped physical) :
    (s.writeMemory w busWrite addr value operationPc).events =
      s.accessEvent .write addr w (.performed physical (value.setWidth 64)) :: s.events := by
  obtain ⟨tlb, valid, he⟩ := writeMemory_mapped busWrite value operationPc h
  rw [he]

lemma events_readMemory_fault {cause aux : Word} (h : s.mapResult addr access = .fault cause aux) :
    (s.readMemory w busRead addr operationPc access).2.events =
      s.accessEvent access addr w (.faulted cause (s.raiseFault addr access operationPc cause aux).1) :: s.events := by
  rw [readMemory_fault busRead operationPc h]
  exact congrArg _ (events_raiseFault cause aux)

lemma events_writeMemory_fault {cause aux : Word} (h : s.mapResult addr .write = .fault cause aux) :
    (s.writeMemory w busWrite addr value operationPc).events =
      s.accessEvent .write addr w (.faulted cause (s.raiseFault addr .write operationPc cause aux).1) :: s.events := by
  rw [writeMemory_fault busWrite value operationPc h]
  exact congrArg _ (events_raiseFault cause aux)

end Access

/-- What is being handled takes precedence over a trap. -/
def Precedes (s : Cpu) (n : Word) : Prop :=
  s.registers.isInInterrupt = true ∧ s.registers.getCurrentInterruptNumber ≠ noTrap ∧
    s.registers.getCurrentInterruptNumber ≤ n

instance (n : Word) : Decidable (s.Precedes n) := inferInstanceAs (Decidable (_ ∧ _ ∧ _))

/-- An exception enters its handler when it preempts what is being handled and the vector table names one. -/
def Delivers (s : Cpu) (n : Word) : Prop :=
  ¬ s.Precedes n ∧ ∃ handler, s.handlerAddress n = some handler ∧ handler ≠ 0

lemma raiseInterrupt_exception_iff {n epc : Word} : (s.raiseInterrupt n true epc).1 = true ↔ s.Delivers n := by
  simp only [raiseInterrupt, Delivers, Precedes, Bool.not_true, Bool.false_and, if_neg Bool.false_ne_true,
    Bool.and_eq_true, bne_iff_ne, decide_eq_true_eq, and_assoc]
  by_cases hc : s.registers.isInInterrupt = true ∧ s.registers.getCurrentInterruptNumber ≠ noTrap ∧
      s.registers.getCurrentInterruptNumber ≤ n
  · rw [if_pos hc]
    split <;> simp [hc]
  · rw [if_neg hc, handlerAddress, enterInterrupt]
    cases s.handlerTranslation n with
    | fault cause aux => simp
    | mapped physical =>
      by_cases hz : s.bus.read64 physical .read = 0#64
      · simp [hz]
      · simp [hz, hc]

section Faults

variable {addr cause aux : Word} {t : Cpu}

/-- The vector table in force. -/
structure SameVectors (s t : Cpu) : Prop where
  bus : t.bus = s.bus
  root : t.registers.pageTableRootPhysical = s.registers.pageTableRootPhysical
  tableBase : t.registers.interruptTableBase = s.registers.interruptTableBase
  paging : t.registers.isPagingEnabled = s.registers.isPagingEnabled

lemma SameVectors.handlerAddress (h : SameVectors s t) (n : Word) : t.handlerAddress n = s.handlerAddress n := by
  simp only [Cpu.handlerAddress, handlerTranslation_eq, h.bus, h.root, h.tableBase, h.paging]

lemma sameVectors_faultRegisters : SameVectors s (s.faultRegisters addr access operationPc cause aux) :=
  ⟨rfl, rfl, rfl, rfl⟩

/-- A fault whose handler was entered, seen from the state before the access. -/
structure Entered (s t : Cpu) (operationPc cause handler : Word) : Prop where
  handlerAddress : s.handlerAddress cause = some handler
  reg15 : t.reg 15 = handler
  regs : ∀ i, i ≠ 15 → t.reg i = s.reg i
  flags : t.registers.flags = s.registers.flags
  interruptEpc : t.registers.interruptEpc = if operationPc ≠ BitVec.allOnes 64 then operationPc else s.reg 15
  trapPc : t.registers.trapPc = operationPc
  control : t.registers.cpuControl = Registers.enteringControl s.registers.cpuControl (cause.setWidth 8)
  vectors : SameVectors s t
  tlb : t.tlb = s.tlb
  events : t.events = s.events

lemma raiseFault_entered (h : (s.raiseFault addr access operationPc cause aux).1 = true) :
    ∃ handler, Entered s (s.raiseFault addr access operationPc cause aux).2 operationPc cause handler := by
  obtain ⟨handler, ha, he⟩ := raiseInterrupt_entered h
  refine ⟨handler, sameVectors_faultRegisters.handlerAddress cause ▸ ha, ?_, fun i hi => ?_, ?_, ?_, ?_, ?_,
    ⟨?_, ?_, ?_, ?_⟩, ?_, ?_⟩
  all_goals rw [raiseFault, he]
  · rfl
  · exact if_neg hi
  · rfl
  · rfl
  · rfl
  · rfl
  · rfl
  · rfl
  · rfl
  · exact paging_enteringRegisters (s := s.faultRegisters addr access operationPc cause aux) cause
  · rfl
  · rfl

/-- A fault that entered no handler. -/
structure NotEntered (s t : Cpu) (operationPc : Word) : Prop where
  regs : t.registers.regs = s.registers.regs
  flags : t.registers.flags = s.registers.flags
  trapPc : t.registers.trapPc = operationPc
  interruptEpc : t.registers.interruptEpc = s.registers.interruptEpc
  vectors : SameVectors s t
  tlb : t.tlb = s.tlb
  events : t.events = s.events

lemma raiseFault_notEntered (h : (s.raiseFault addr access operationPc cause aux).1 = false) :
    NotEntered s (s.raiseFault addr access operationPc cause aux).2 operationPc := by
  have hr := raiseInterrupt_refused h
  refine ⟨hr.regs, hr.flags, hr.trapPc, hr.interruptEpc, ⟨?_, hr.root, hr.tableBase, hr.paging⟩, ?_, ?_⟩
  all_goals rw [raiseFault, hr.frame]; rfl

lemma raiseFault_delivers (s : Cpu) (addr : Word) (access : AccessType) (operationPc cause aux : Word) :
    (s.raiseFault addr access operationPc cause aux).1 = true ↔ s.Delivers cause := by
  rw [raiseFault, raiseInterrupt_exception_iff]
  simp only [Delivers, Precedes, sameVectors_faultRegisters.handlerAddress cause]
  rfl

lemma mapResult_cause (h : s.mapResult addr access = .fault cause aux) :
    AddressTranslator.TranslationCause cause := by
  unfold mapResult at h
  split at h
  · cases h
  · exact AddressTranslator.translate_cause h

lemma mapResult_congr (hb : t.bus = s.bus) (ht : t.tlb = s.tlb)
    (hr : t.registers.pageTableRootPhysical = s.registers.pageTableRootPhysical)
    (hp : t.registers.isPagingEnabled = s.registers.isPagingEnabled)
    (hu : t.registers.isUserMode = s.registers.isUserMode) : t.mapResult addr access = s.mapResult addr access := by
  have hh : t.tlbHit addr access = s.tlbHit addr access := by simp only [tlbHit, ht, hu]
  have hx : t.translateAddress addr access = s.translateAddress addr access := by
    simp only [translateAddress, pagingConfig, hb, hr, hp, hu]
  rw [mapResult, mapResult, hh, hx, hp, ht]

end Faults

end Cpu

end Little64.Emulator

import Little64.Emulator.Vectors
import Little64.Library.BitFields

/-! Architectural registers of the emulated CPU and the special-register selectors. -/

namespace Little64.Emulator

abbrev Reg := BitVec 4

inductive SpecialRegister
  | cpuControl
  | userThreadPointer
  | pageTableRootPhysical
  | bootInfoFramePhysical
  | bootSourcePageSize
  | bootSourcePageCount
  | hypercallCaps
  | interruptTableBase
  | interruptMask
  | interruptMaskHigh
  | interruptStates
  | interruptStatesHigh
  | interruptEpc
  | interruptEflags
  | interruptCpuControl
  | trapCause
  | trapFaultAddr
  | trapAccess
  | trapPc
  | trapAux
  deriving DecidableEq, Repr

namespace SpecialRegister

def selectorMask : Word := 0xFFFF
def userBankBit : Word := 0x8000

def normalizeSelector (selector : Word) : Word := selector &&& selectorMask

def isUserAccessibleSelector (selector : Word) : Bool := normalizeSelector selector == userBankBit ||| 0

def ofSelector (selector : Word) : Option SpecialRegister :=
  match (normalizeSelector selector).toNat with
  | 0 => some cpuControl
  | 11 => some pageTableRootPhysical
  | 12 => some bootInfoFramePhysical
  | 13 => some bootSourcePageSize
  | 14 => some bootSourcePageCount
  | 15 => some hypercallCaps
  | 16 => some interruptTableBase
  | 17 => some interruptMask
  | 18 => some interruptMaskHigh
  | 19 => some interruptStates
  | 20 => some interruptStatesHigh
  | 21 => some interruptEpc
  | 22 => some interruptEflags
  | 23 => some interruptCpuControl
  | 24 => some trapCause
  | 25 => some trapFaultAddr
  | 26 => some trapAccess
  | 27 => some trapPc
  | 28 => some trapAux
  | 0x8000 => some userThreadPointer
  | _ => none

end SpecialRegister

structure Registers where
  regs : Reg → Word
  flags : Word
  cpuControl : Word
  interruptTableBase : Word
  interruptMask : Word
  interruptStates : Word
  interruptMaskHigh : Word
  interruptStatesHigh : Word
  interruptEpc : Word
  interruptEflags : Word
  interruptCpuControl : Word
  trapCause : Word
  trapFaultAddr : Word
  trapAccess : Word
  trapPc : Word
  trapAux : Word
  threadPointer : Word
  pageTableRootPhysical : Word
  bootInfoFramePhysical : Word
  bootSourcePageSize : Word
  bootSourcePageCount : Word
  hypercallCaps : Word
  llReservationAddr : Word
  llReservationValid : Bool

namespace Registers

open Vectors

variable (r : Registers)

def initial : Registers :=
  ⟨fun _ => 0, 0, 0, 0, 0, 0, 0, 0, 0, 0, 0, 0, 0, 0, 0, 0, 0, 0, 0, 0, 0, 0, 0, false⟩

def isInterruptEnabled : Bool := r.cpuControl &&& 1 != 0

def setInterruptEnabled (enabled : Bool) : Registers :=
  { r with cpuControl := if enabled then r.cpuControl ||| 1 else r.cpuControl &&& ~~~1 }

def isInInterrupt : Bool := r.cpuControl &&& 2 != 0

def setInInterrupt (inInterrupt : Bool) : Registers :=
  { r with cpuControl := if inInterrupt then r.cpuControl ||| 2 else r.cpuControl &&& ~~~2 }

def getCurrentInterruptNumber : Word := (r.cpuControl >>> 2) &&& 0x7F

def setCurrentInterruptNumber (num : BitVec 8) : Registers :=
  { r with cpuControl := (r.cpuControl &&& ~~~(0x1FC : Word)) ||| ((num.setWidth 64 &&& 0x7F) <<< 2) }

def cpuControlPagingEnable : Word := 1 <<< 16
def cpuControlUserMode : Word := 1 <<< 17

def isPagingEnabled : Bool := r.cpuControl &&& cpuControlPagingEnable != 0

def isUserMode : Bool := r.cpuControl &&& cpuControlUserMode != 0

def setUserMode (user : Bool) : Registers :=
  { r with cpuControl :=
      if user then r.cpuControl ||| cpuControlUserMode else r.cpuControl &&& ~~~cpuControlUserMode }

def getSpecialRegister (selector : Word) : Word :=
  match SpecialRegister.ofSelector selector with
  | some .cpuControl => r.cpuControl
  | some .userThreadPointer => r.threadPointer
  | some .pageTableRootPhysical => r.pageTableRootPhysical
  | some .bootInfoFramePhysical => r.bootInfoFramePhysical
  | some .bootSourcePageSize => r.bootSourcePageSize
  | some .bootSourcePageCount => r.bootSourcePageCount
  | some .hypercallCaps => r.hypercallCaps
  | some .interruptTableBase => r.interruptTableBase
  | some .interruptMask => r.interruptMask
  | some .interruptMaskHigh => r.interruptMaskHigh
  | some .interruptStates => r.interruptStates
  | some .interruptStatesHigh => r.interruptStatesHigh
  | some .interruptEpc => r.interruptEpc
  | some .interruptEflags => r.interruptEflags
  | some .interruptCpuControl => r.interruptCpuControl
  | some .trapCause => r.trapCause
  | some .trapFaultAddr => r.trapFaultAddr
  | some .trapAccess => r.trapAccess
  | some .trapPc => r.trapPc
  | some .trapAux => r.trapAux
  | none => 0

def setSpecialRegister (selector value : Word) : Registers :=
  match SpecialRegister.ofSelector selector with
  | some .cpuControl => { r with cpuControl := value }
  | some .userThreadPointer => { r with threadPointer := value }
  | some .pageTableRootPhysical => { r with pageTableRootPhysical := value }
  | some .bootInfoFramePhysical => { r with bootInfoFramePhysical := value }
  | some .bootSourcePageSize => { r with bootSourcePageSize := value }
  | some .bootSourcePageCount => { r with bootSourcePageCount := value }
  | some .hypercallCaps => { r with hypercallCaps := value }
  | some .interruptTableBase => { r with interruptTableBase := value }
  | some .interruptMask => { r with interruptMask := value }
  | some .interruptMaskHigh => { r with interruptMaskHigh := value }
  | some .interruptStates => { r with interruptStates := value }
  | some .interruptStatesHigh => { r with interruptStatesHigh := value }
  | some .interruptEpc => { r with interruptEpc := value }
  | some .interruptEflags => { r with interruptEflags := value }
  | some .interruptCpuControl => { r with interruptCpuControl := value }
  | some .trapCause => { r with trapCause := value }
  | some .trapFaultAddr => { r with trapFaultAddr := value }
  | some .trapAccess => { r with trapAccess := value }
  | some .trapPc => { r with trapPc := value }
  | some .trapAux => { r with trapAux := value }
  | none => r

def setReg (rd : Reg) (value : Word) : Registers :=
  { r with regs := fun i => if i = rd then value else r.regs i }

/-- The lowest set bit of a bank of pending interrupts. -/
def lowestPending (pending : Word) : ℕ → Option ℕ
  | 0 => none
  | n + 1 => if pending.getLsbD (63 - n) then some (63 - n) else lowestPending pending n

def selectHighestPriorityPendingInterrupt : Option Word :=
  let pendingLow := r.interruptStates &&& r.interruptMask &&& validIrqMaskForBank 0
  let pendingHigh := r.interruptStatesHigh &&& r.interruptMaskHigh &&& validIrqMaskForBank 1
  if pendingLow ≠ 0 then (lowestPending pendingLow 64).map (BitVec.ofNat 64)
  else if pendingHigh ≠ 0 then (lowestPending pendingHigh 64).map fun i => 64 + BitVec.ofNat 64 i
  else none

def isInterruptUnmasked (vector : Word) : Bool :=
  if !isIrqVector vector then false
  else
    let bank := interruptBankForVector vector
    let bit := interruptBitForVector vector
    if validIrqMaskForBank bank &&& bit = 0 then false
    else if bank = 0 then r.interruptMask &&& bit != 0
    else if bank = 1 then r.interruptMaskHigh &&& bit != 0
    else false

def setInterruptPending (vector : Word) : Registers :=
  if !isIrqVector vector then r
  else
    let bank := interruptBankForVector vector
    let bit := interruptBitForVector vector
    if bank = 0 then { r with interruptStates := r.interruptStates ||| bit }
    else if bank = 1 then { r with interruptStatesHigh := r.interruptStatesHigh ||| bit }
    else r

def clearInterruptPending (vector : Word) : Registers :=
  if !isIrqVector vector then r
  else
    let bank := interruptBankForVector vector
    let bit := interruptBitForVector vector
    if bank = 0 then { r with interruptStates := r.interruptStates &&& ~~~bit }
    else if bank = 1 then { r with interruptStatesHigh := r.interruptStatesHigh &&& ~~~bit }
    else r

def updateFlags (result : Word) (carry : Bool) : Registers :=
  { r with flags :=
      (if result = 0 then 1 else 0) ||| (if carry then 2 else 0) ||| (if result >>> 63 ≠ 0 then 4 else 0) }

variable {r} {control : Word}

lemma isPagingEnabled_eq : r.isPagingEnabled = r.cpuControl.getLsbD 16 :=
  BitFields.and_bit_ne_zero _ 16 (by decide)

lemma isUserMode_eq : r.isUserMode = r.cpuControl.getLsbD 17 := BitFields.and_bit_ne_zero _ 17 (by decide)

lemma isInInterrupt_eq : r.isInInterrupt = r.cpuControl.getLsbD 1 := BitFields.and_bit_ne_zero _ 1 (by decide)

/-- `cpu_control` on trap entry: supervisor mode, in interrupt, interrupts off, the trap's own number. -/
def enteringControl (control : Word) (num : BitVec 8) : Word :=
  (((control &&& ~~~cpuControlUserMode) ||| 2) &&& ~~~(1 : Word) &&& ~~~(0x1FC : Word)) |||
    ((num.setWidth 64 &&& 0x7F) <<< 2)

lemma getLsbD_enteringControl (control : Word) (num : BitVec 8) (k : ℕ) (hk : k < 64) :
    (enteringControl control num).getLsbD k =
      if k = 0 then false else if k = 1 then true else if k < 9 then num.getLsbD (k - 2)
      else if k = 17 then false else control.getLsbD k := by
  have hu : cpuControlUserMode.getLsbD k = decide (k = 17) := by
    rw [show cpuControlUserMode = BitVec.twoPow 64 17 by decide, BitVec.getLsbD_twoPow]
    simp [eq_comm]
  have h2 : (2#64).getLsbD k = decide (k = 1) := by
    rw [show 2#64 = BitVec.twoPow 64 1 by decide, BitVec.getLsbD_twoPow]
    simp [eq_comm]
  have h1 : (1 : Word).getLsbD k = decide (k = 0) := by
    rw [show (1 : Word) = BitVec.twoPow 64 0 by decide, BitVec.getLsbD_twoPow]
    simp [eq_comm]
  have hm : (0x1FC : Word).getLsbD k = (decide (2 ≤ k) && decide (k < 9)) := by
    rw [show (0x1FC : Word) = BitFields.lowMask 64 7 <<< 2 by decide, BitVec.getLsbD_shiftLeft,
      BitFields.getLsbD_lowMask]
    by_cases h : 2 ≤ k <;> by_cases h' : k < 9 <;> simp [h, h', hk] <;> omega
  have h7 : (0x7F : Word).getLsbD (k - 2) = decide (k - 2 < 7) := by
    rw [show (0x7F : Word) = BitFields.lowMask 64 7 by decide, BitFields.getLsbD_lowMask]
    simp [show k - 2 < 64 by omega]
  simp only [enteringControl, BitVec.getLsbD_or, BitVec.getLsbD_and, BitVec.getLsbD_not, BitVec.getLsbD_shiftLeft,
    BitVec.getLsbD_setWidth, hu, h1, hm, h7, hk]
  by_cases h0 : k = 0
  · simp [h0]
  by_cases hone : k = 1
  · simp [hone]
  by_cases h9 : k < 9
  · simp [h0, hone, h9, show 2 ≤ k by omega, show ¬ k < 2 by omega, show k - 2 < 64 by omega, show k - 2 < 7 by omega]
  by_cases h17 : k = 17
  · simp [h17]
  · simp [h2, h0, hone, h9, h17, show ¬ k < 2 by omega, show ¬ k - 2 < 7 by omega]

lemma isPagingEnabled_entering {num : BitVec 8} (h : r.cpuControl = enteringControl control num) :
    r.isPagingEnabled = control.getLsbD 16 := by
  rw [isPagingEnabled_eq, h, getLsbD_enteringControl _ _ _ (by decide)]; rfl

lemma isUserMode_entering {num : BitVec 8} (h : r.cpuControl = enteringControl control num) :
    r.isUserMode = false := by
  rw [isUserMode_eq, h, getLsbD_enteringControl _ _ _ (by decide)]; rfl

lemma isInInterrupt_entering {num : BitVec 8} (h : r.cpuControl = enteringControl control num) :
    r.isInInterrupt = true := by
  rw [isInInterrupt_eq, h, getLsbD_enteringControl _ _ _ (by decide)]; rfl

lemma currentInterrupt_entering {vector : Word} (hv : vector < 128)
    (h : r.cpuControl = enteringControl control (vector.setWidth 8)) : r.getCurrentInterruptNumber = vector := by
  have hv' : vector.toNat < 2 ^ 7 := hv
  apply BitVec.eq_of_getLsbD_eq
  intro k hk
  rw [getCurrentInterruptNumber, show (0x7F : Word) = BitFields.lowMask 64 7 by decide, BitVec.getLsbD_and,
    BitVec.getLsbD_ushiftRight, BitFields.getLsbD_lowMask, h]
  by_cases h7 : k < 7
  · rw [getLsbD_enteringControl _ _ _ (by omega), if_neg (by omega), if_neg (by omega), if_pos (by omega),
      BitVec.getLsbD_setWidth]
    simp [h7, hk, show k < 8 by omega, show 2 + k - 2 = k by omega]
  · have hz : vector.getLsbD k = false :=
      Nat.testBit_lt_two_pow (Nat.lt_of_lt_of_le hv' (Nat.pow_le_pow_right (by decide) (by omega)))
    simp [h7, hz]

lemma isUserMode_setUserMode_false : (r.setUserMode false).isUserMode = false := by
  have hu : cpuControlUserMode.getLsbD 17 = true := by decide
  rw [isUserMode_eq, setUserMode, if_neg Bool.false_ne_true, BitVec.getLsbD_and, BitVec.getLsbD_not, hu]
  simp only [Bool.not_true, Bool.and_false]

lemma isPagingEnabled_setUserMode_false : (r.setUserMode false).isPagingEnabled = r.isPagingEnabled := by
  have hu : cpuControlUserMode.getLsbD 16 = false := by decide
  rw [isPagingEnabled_eq, isPagingEnabled_eq, setUserMode, if_neg Bool.false_ne_true, BitVec.getLsbD_and,
    BitVec.getLsbD_not, hu]
  simp only [Bool.not_false, Bool.and_true, show 16 < 64 by decide, decide_true]

end Registers

end Little64.Emulator

import Little64.Emulator.Exceptions

/-! Delivery of hardware interrupts: which vector enters its handler, and where pending bits go. -/

namespace Little64.Emulator

open Vectors

namespace Registers

variable (r : Registers)

/-- The pending register of a bank. -/
def pendingBank (bank : Word) : Word :=
  if bank = 0 then r.interruptStates else if bank = 1 then r.interruptStatesHigh else 0

def isInterruptPending (vector : Word) : Bool :=
  r.pendingBank (interruptBankForVector vector) &&& interruptBitForVector vector != 0

/-- The vector whose handler `cpu_control` says is running. -/
def inService : Option Word :=
  if r.isInInterrupt && r.getCurrentInterruptNumber != noTrap then some r.getCurrentInterruptNumber else none

/-- The special register that holds the pending bit of a vector. -/
def pendingRegister (vector : Word) : Option SpecialRegister :=
  if interruptBankForVector vector = 0 then some .interruptStates
  else if interruptBankForVector vector = 1 then some .interruptStatesHigh
  else none

/-- The two registers of pending interrupts. -/
def pendingStates : Word × Word := (r.interruptStates, r.interruptStatesHigh)

variable {r} {r' : Registers} {v : Word}

lemma isInterruptPending_congr (h : r'.pendingStates = r.pendingStates) :
    r'.isInterruptPending v = r.isInterruptPending v := by
  have h0 : r'.interruptStates = r.interruptStates := congrArg Prod.fst h
  have h1 : r'.interruptStatesHigh = r.interruptStatesHigh := congrArg Prod.snd h
  rw [isInterruptPending, isInterruptPending, pendingBank, pendingBank, h0, h1]

lemma pendingStates_special (h : r'.special = r.special) : r'.pendingStates = r.pendingStates := by
  have hstates := congrArg pendingStates h
  exact hstates

lemma isInterruptPending_eq (r : Registers) (v : Word) :
    r.isInterruptPending v = (r.pendingBank (interruptBankForVector v)).getLsbD (v % interruptBankWidth).toNat := by
  have hlt : (v % interruptBankWidth).toNat < 64 := by
    rw [BitVec.toNat_umod]
    exact Nat.mod_lt _ (by decide)
  have hbit : interruptBitForVector v = BitVec.twoPow 64 (v % interruptBankWidth).toNat := by
    rw [interruptBitForVector, BitVec.twoPow_eq]
    rfl
  rw [isInterruptPending, hbit]
  exact BitFields.and_bit_ne_zero _ _ hlt

lemma lowestPending_spec {pending : Word} {n i : ℕ} (hn : n ≤ 64) (h : lowestPending pending n = some i) :
    i < 64 ∧ pending.getLsbD i = true ∧ ∀ j, 64 - n ≤ j → pending.getLsbD j = true → i ≤ j := by
  induction n with
  | zero => cases h
  | succ n ih =>
    rw [lowestPending] at h
    split at h
    · rename_i hbit
      obtain rfl : 63 - n = i := Option.some.inj h
      exact ⟨by omega, hbit, fun j hj _ => by omega⟩
    · rename_i hbit
      obtain ⟨hlt, hset, hlow⟩ := ih (by omega) h
      refine ⟨hlt, hset, fun j hj hbit' => ?_⟩
      rcases Nat.lt_or_ge j (64 - n) with hj' | hj'
      · rw [show j = 63 - n by omega] at hbit'
        exact absurd hbit' hbit
      · exact hlow j hj' hbit'

/-- The vector of a bit of the high bank. -/
def highVector (k : ℕ) : Word := 64 + BitVec.ofNat 64 k

lemma toNat_highVector {k : ℕ} (hk : k < 64) : (highVector k).toNat = 64 + k := by
  rw [highVector, BitVec.toNat_add, BitVec.toNat_ofNat]
  change (64 + k % 2 ^ 64) % 2 ^ 64 = _
  omega

lemma bank_highVector {k : ℕ} (hk : k < 64) : interruptBankForVector (highVector k) = 1 := by
  apply BitVec.eq_of_toNat_eq
  rw [interruptBankForVector, BitVec.toNat_udiv, toNat_highVector hk]
  change (64 + k) / 64 = 1
  omega

lemma position_highVector {k : ℕ} (hk : k < 64) : (highVector k % interruptBankWidth).toNat = k := by
  rw [BitVec.toNat_umod, toNat_highVector hk]
  change (64 + k) % 64 = k
  omega

lemma bit_highVector {k : ℕ} (hk : k < 64) : interruptBitForVector (highVector k) = BitVec.twoPow 64 k := by
  rw [interruptBitForVector, position_highVector hk, BitVec.twoPow_eq]
  rfl

lemma isIrqVector_iff : isIrqVector v = true ↔ ∃ k, 0 < k ∧ k < 64 ∧ v = highVector k := by
  rw [isIrqVector, Bool.and_eq_true, decide_eq_true_eq, decide_eq_true_eq, BitVec.le_def, BitVec.le_def]
  change 65 ≤ v.toNat ∧ v.toNat ≤ 127 ↔ _
  constructor
  · rintro ⟨hlow, hhigh⟩
    refine ⟨v.toNat - 64, by omega, by omega, BitVec.eq_of_toNat_eq ?_⟩
    rw [toNat_highVector (by omega)]
    omega
  · rintro ⟨k, hpos, hk, rfl⟩
    rw [toNat_highVector hk]
    omega

lemma pending_highVector {k : ℕ} (hk : k < 64) :
    r.isInterruptPending (highVector k) = r.interruptStatesHigh.getLsbD k := by
  rw [isInterruptPending_eq, bank_highVector hk, position_highVector hk]
  rfl

lemma getLsbD_validIrqMask (k : ℕ) : (validIrqMaskForBank 1).getLsbD k = (decide (k < 64) && decide (0 < k)) := by
  have hone : (1 : Word) = BitVec.twoPow 64 0 := by decide
  rw [validIrqMaskForBank, if_pos rfl, BitVec.getLsbD_not, hone, BitVec.getLsbD_twoPow]
  rcases Nat.eq_zero_or_pos k with rfl | hk
  · rfl
  · simp [hk, hk.ne]

lemma unmasked_highVector {k : ℕ} (hpos : 0 < k) (hk : k < 64) :
    r.isInterruptUnmasked (highVector k) = r.interruptMaskHigh.getLsbD k := by
  have hirq : isIrqVector (highVector k) = true := isIrqVector_iff.2 ⟨k, hpos, hk, rfl⟩
  have hvalid : validIrqMaskForBank 1 &&& BitVec.twoPow 64 k ≠ 0 := by
    intro h
    have hset := congrArg (BitVec.getLsbD · k) h
    have hzero : (0 : Word).getLsbD k = false := BitVec.getLsbD_zero
    simp only [BitVec.getLsbD_and, getLsbD_validIrqMask, BitVec.getLsbD_twoPow, hk, hpos, decide_true, Bool.and_self,
      hzero] at hset
    exact Bool.false_ne_true hset.symm
  rw [isInterruptUnmasked, hirq]
  simp only [Bool.not_true, Bool.false_eq_true, if_false, bank_highVector hk, bit_highVector hk, if_neg hvalid]
  exact BitFields.and_bit_ne_zero _ _ hk

lemma select_spec (h : r.selectHighestPriorityPendingInterrupt = some v) :
    r.isInterruptPending v = true ∧
      ∀ v', r.isInterruptPending v' = true → r.isInterruptUnmasked v' = true → v ≤ v' := by
  have hlow0 : r.interruptStates &&& r.interruptMask &&& validIrqMaskForBank 0 = 0 := BitVec.and_zero
  have hbits : ∀ k, (r.interruptStatesHigh &&& r.interruptMaskHigh &&& validIrqMaskForBank 1).getLsbD k =
      (r.interruptStatesHigh.getLsbD k && r.interruptMaskHigh.getLsbD k && (decide (k < 64) && decide (0 < k))) := by
    intro k
    rw [BitVec.getLsbD_and, BitVec.getLsbD_and, getLsbD_validIrqMask]
  rw [selectHighestPriorityPendingInterrupt] at h
  rw [if_neg (not_not.2 hlow0)] at h
  split at h
  · obtain ⟨k, hlowest, rfl⟩ := Option.map_eq_some_iff.1 h
    obtain ⟨hk, hset, hlow⟩ := lowestPending_spec le_rfl hlowest
    rw [hbits, Bool.and_eq_true, Bool.and_eq_true] at hset
    refine ⟨(pending_highVector hk).trans hset.1.1, fun v' hpending hunmasked => ?_⟩
    have hirq : isIrqVector v' = true := by
      cases hv : isIrqVector v' with
      | true => rfl
      | false => simp [isInterruptUnmasked, hv] at hunmasked
    obtain ⟨k', hpos, hk', rfl⟩ := isIrqVector_iff.1 hirq
    rw [pending_highVector hk'] at hpending
    rw [unmasked_highVector hpos hk'] at hunmasked
    have hle : k ≤ k' := by
      apply hlow k' (Nat.zero_le _)
      rw [hbits, hpending, hunmasked, decide_eq_true hk', decide_eq_true hpos]
      rfl
    rw [BitVec.le_def]
    change (highVector k).toNat ≤ _
    rw [toNat_highVector hk, toNat_highVector hk']
    omega
  · exact absurd h.symm (Option.some_ne_none v)

/-- Asserting a line sets one bit of the high bank; other vectors do nothing. -/
lemma setInterruptPending_cases (r : Registers) (n : Word) :
    isIrqVector n = false ∧ r.setInterruptPending n = r ∨
      ∃ k, 0 < k ∧ k < 64 ∧ n = highVector k ∧
        r.setInterruptPending n = { r with interruptStatesHigh := r.interruptStatesHigh ||| BitVec.twoPow 64 k } := by
  cases h : isIrqVector n with
  | false => exact .inl ⟨rfl, by rw [setInterruptPending, h]; rfl⟩
  | true =>
    obtain ⟨k, hpos, hk, rfl⟩ := isIrqVector_iff.1 h
    refine .inr ⟨k, hpos, hk, rfl, ?_⟩
    rw [setInterruptPending, h, bank_highVector hk, bit_highVector hk]
    rfl

lemma clearInterruptPending_cases (r : Registers) (n : Word) :
    isIrqVector n = false ∧ r.clearInterruptPending n = r ∨
      ∃ k, 0 < k ∧ k < 64 ∧ n = highVector k ∧
        r.clearInterruptPending n =
          { r with interruptStatesHigh := r.interruptStatesHigh &&& ~~~BitVec.twoPow 64 k } := by
  cases h : isIrqVector n with
  | false => exact .inl ⟨rfl, by rw [clearInterruptPending, h]; rfl⟩
  | true =>
    obtain ⟨k, hpos, hk, rfl⟩ := isIrqVector_iff.1 h
    refine .inr ⟨k, hpos, hk, rfl, ?_⟩
    rw [clearInterruptPending, h, bank_highVector hk, bit_highVector hk]
    rfl

lemma pending_cases (h : r.isInterruptPending v = true) :
    interruptBankForVector v = 0 ∧ (∀ r' : Registers, r'.isInterruptPending v =
        r'.interruptStates.getLsbD (v % interruptBankWidth).toNat) ∨
      ∃ k, k < 64 ∧ v = highVector k := by
  rw [isInterruptPending, pendingBank] at h
  by_cases h0 : interruptBankForVector v = 0
  · refine .inl ⟨h0, fun r' => ?_⟩
    rw [isInterruptPending_eq, pendingBank, if_pos h0]
  · by_cases h1 : interruptBankForVector v = 1
    · have hdiv : v.toNat / 64 = 1 := congrArg BitVec.toNat h1
      refine .inr ⟨v.toNat - 64, by omega, BitVec.eq_of_toNat_eq ?_⟩
      rw [toNat_highVector (by omega)]
      omega
    · rw [if_neg h0, if_neg h1] at h
      exact absurd h (by simp)

lemma pending_setInterruptPending (n : Word) (h : r.isInterruptPending v = true) :
    (r.setInterruptPending n).isInterruptPending v = true := by
  rcases setInterruptPending_cases r n with ⟨-, heq⟩ | ⟨k, -, -, -, heq⟩ <;> rw [heq]
  · exact h
  · rcases pending_cases h with ⟨-, hlow⟩ | ⟨j, hj, rfl⟩
    · rw [hlow] at h ⊢
      exact h
    · rw [pending_highVector hj] at h ⊢
      rw [BitVec.getLsbD_or, h, Bool.true_or]

lemma pending_set {n : Word} (h : isIrqVector n = true) : (r.setInterruptPending n).isInterruptPending n = true := by
  rcases setInterruptPending_cases r n with ⟨hn, -⟩ | ⟨k, -, hk, rfl, heq⟩
  · exact absurd (hn.symm.trans h) Bool.false_ne_true
  · rw [heq, pending_highVector hk, BitVec.getLsbD_or, BitVec.getLsbD_twoPow]
    simp [hk]

lemma pending_clearInterruptPending {n : Word} (hne : n ≠ v) (h : r.isInterruptPending v = true) :
    (r.clearInterruptPending n).isInterruptPending v = true := by
  rcases clearInterruptPending_cases r n with ⟨-, heq⟩ | ⟨k, -, hk, rfl, heq⟩ <;> rw [heq]
  · exact h
  · rcases pending_cases h with ⟨-, hlow⟩ | ⟨j, hj, rfl⟩
    · rw [hlow] at h ⊢
      exact h
    · have hkj : k ≠ j := fun h => hne (congrArg highVector h)
      rw [pending_highVector hj] at h ⊢
      rw [BitVec.getLsbD_and, h, BitVec.getLsbD_not, BitVec.getLsbD_twoPow]
      simp [hj, hkj]

lemma pending_setSpecialRegister {selector value : Word}
    (h : SpecialRegister.ofSelector selector ≠ pendingRegister v) (hv : r.isInterruptPending v = true) :
    (r.setSpecialRegister selector value).isInterruptPending v = true := by
  have hbank : (r.setSpecialRegister selector value).pendingBank (interruptBankForVector v) =
      r.pendingBank (interruptBankForVector v) := by
    rw [pendingRegister] at h
    rw [pendingBank, pendingBank, setSpecialRegister]
    split_ifs at h ⊢
    · split <;> first | rfl | exact absurd ‹_› h
    · split <;> first | rfl | exact absurd ‹_› h
    · rfl
  rw [isInterruptPending, hbank]
  exact hv

end Registers

section Frame

variable {s t : Cpu} {w : ℕ}

lemma pendingStates_raiseInterrupt (n epc : Word) :
    (s.raiseInterrupt n true epc).2.registers.pendingStates = s.registers.pendingStates := by
  rw [Cpu.raiseInterrupt]
  split_ifs
  iterate 5 rfl
  rw [Cpu.enterInterrupt]
  cases s.handlerTranslation n with
  | fault cause aux =>
    simp only
    split <;> rfl
  | mapped physical =>
    simp only
    split <;> rfl

lemma pendingStates_raise (x : Exception) : (s.raise x).2.registers.pendingStates = s.registers.pendingStates := by
  cases x with
  | instruction cause => exact pendingStates_raiseInterrupt cause _
  | translation virtualAddr access operationPc cause aux => exact pendingStates_raiseInterrupt cause _

lemma pendingStates_readMemory (busRead : MemoryBus → Word → AccessType → BitVec w) (addr opPc : Word)
    (access : AccessType) :
    (s.readMemory w busRead addr opPc access).2.registers.pendingStates = s.registers.pendingStates := by
  cases hm : s.mapResult addr access with
  | mapped physical =>
    obtain ⟨tlb, he⟩ := Cpu.readMemory_mapped busRead opPc hm
    rw [he]
  | fault cause aux =>
    rw [Cpu.readMemory_fault busRead opPc hm]
    exact pendingStates_raise (.translation addr access opPc cause aux)

lemma pendingStates_writeMemory (busWrite : MemoryBus → Word → BitVec w → AccessType → MemoryBus) (addr : Word)
    (value : BitVec w) (opPc : Word) :
    (s.writeMemory w busWrite addr value opPc).registers.pendingStates = s.registers.pendingStates := by
  cases hm : s.mapResult addr .write with
  | mapped physical =>
    obtain ⟨tlb, valid, he⟩ := Cpu.writeMemory_mapped busWrite value opPc hm
    rw [he]
    rfl
  | fault cause aux =>
    rw [Cpu.writeMemory_fault busWrite value opPc hm]
    exact pendingStates_raise (.translation addr .write opPc cause aux)

lemma pendingStates_transfer (rd : Reg) (source delta : Word) (target : Word → Word) (opPc : Word) :
    (s.transfer rd source delta target opPc).registers.pendingStates = s.registers.pendingStates := by
  rw [Cpu.transfer]
  exact (pendingStates_writeMemory MemoryBus.write64 _ _ opPc).trans
    (pendingStates_readMemory MemoryBus.read64 source opPc .read)

lemma pendingStates_performs {access : DataAccess} (h : Performs s t access) (hne : access ≠ .none) :
    t.registers.pendingStates = s.registers.pendingStates := by
  cases h with
  | none _ => exact absurd rfl hne
  | load busRead rd addr ht =>
    rw [ht]
    exact pendingStates_readMemory busRead addr _ .read
  | store busWrite addr value _ ht =>
    rw [ht]
    exact pendingStates_writeMemory busWrite addr value _
  | push rd value ht =>
    rw [ht]
    exact pendingStates_writeMemory MemoryBus.write64 _ value _
  | pop rd rs1 popped hp ht =>
    rw [ht, hp]
    exact pendingStates_readMemory MemoryBus.read64 (s.reg rd) _ .read
  | pushFrom rd effective ht =>
    rw [ht]
    exact pendingStates_transfer rd effective _ id _
  | popTo rd effective ht =>
    rw [ht]
    exact pendingStates_transfer rd (s.reg rd) 8 (fun _ => effective) _
  | loadLinked rd addr u hu ht =>
    rw [ht, hu]
    exact pendingStates_readMemory MemoryBus.read64 addr _ .read
  | storeConditional addr value u hu ht =>
    rw [ht, hu]
    exact pendingStates_writeMemory MemoryBus.write64 addr value _

/-- An instruction that does not write its register leaves a vector pending. -/
lemma pending_dispatch {instr : Instruction} {v : Word} (hw : s.softwareWrites instr ≠ Registers.pendingRegister v)
    (h : s.registers.isInterruptPending v = true) :
    (s.dispatchInstruction instr).registers.isInterruptPending v = true := by
  cases ht : s.instructionTrapOf instr with
  | some cause =>
    rw [dispatchInstruction_trap s instr ht, Registers.isInterruptPending_congr (pendingStates_raise _)]
    exact h
  | none =>
    by_cases ha : s.dataAccess instr = .none
    · cases dispatchInstruction_quiet s instr ht ha with
      | kept _ hspecial =>
        rw [Registers.isInterruptPending_congr (Registers.pendingStates_special hspecial)]
        exact h
      | written value hs _ hspecial =>
        rw [Registers.isInterruptPending_congr (Registers.pendingStates_special hspecial)]
        exact Registers.pending_setSpecialRegister (hs ▸ hw) h
      | returned _ _ hspecial =>
        have hstates := congrArg Registers.pendingStates hspecial
        exact (Registers.isInterruptPending_congr hstates).trans h
    · rw [Registers.isInterruptPending_congr (pendingStates_performs (dispatchInstruction_performs s instr) ha)]
      exact h

end Frame

namespace Cpu

variable (s : Cpu)

/-- The state in which a cycle looks for interrupts, where it comes to that. -/
def afterInstruction : Option Cpu :=
  match s.dispatching with
  | some (t, instr) =>
    let u := t.dispatchInstruction instr
    if u.isRunning && u.reg 15 == s.reg 15 && !u.registers.isInterruptEnabled then none else some (u.setReg 0 0)
  | none => none

/-- The hardware interrupt that a cycle raises, with the state it is raised in. -/
def interruptRaised : Option (Cpu × Word) :=
  match s.afterInstruction with
  | some t =>
    if t.registers.isInterruptEnabled then
      t.registers.selectHighestPriorityPendingInterrupt.map fun vector => (t, vector)
    else none
  | none => none

/-- The state in which the instruction of a cycle leaves the CPU. -/
def executed : Cpu :=
  if !s.isRunning then s
  else
    match s.dispatching with
    | some (t, instr) =>
      let u := t.dispatchInstruction instr
      if u.isRunning && u.reg 15 == s.reg 15 && !u.registers.isInterruptEnabled then { u with isRunning := false }
      else u.setReg 0 0
    | none => ((s.setReg 0 0).readMemory16 (s.reg 15) (s.reg 15) .execute).2

/-- A cycle executes an instruction and then raises an interrupt, if one is due. -/
lemma cycle_eq : s.cycle =
    match s.interruptRaised with
    | some (t, vector) => (t.raiseInterrupt vector false (BitVec.allOnes 64)).2
    | none => s.executed := by
  rw [cycle, executed, interruptRaised, afterInstruction, dispatching]
  cases hr : s.isRunning with
  | false => simp
  | true =>
    simp only [Bool.not_true, Bool.false_eq_true, if_false, Bool.true_and]
    generalize (s.setReg 0 0).readMemory16 (s.reg 15) (s.reg 15) .execute = fetched
    cases hf : fetched.2.isRunning with
    | false => simp
    | true =>
      simp only [Bool.not_true, Bool.false_eq_true, if_false, if_true]
      generalize (fetched.2.setReg 15 (fetched.2.reg 15 + 2)).dispatchInstruction (Instruction.decode fetched.1) = u
      by_cases hloop : (u.isRunning && u.reg 15 == s.reg 15 && !u.registers.isInterruptEnabled) = true
      · simp only [hloop, if_true]
      · simp only [hloop, Bool.false_eq_true, if_false]
        cases he : (u.setReg 0 0).registers.isInterruptEnabled with
        | false => simp
        | true =>
          simp only [if_true]
          cases (u.setReg 0 0).registers.selectHighestPriorityPendingInterrupt with
          | none => rfl
          | some vector => rfl

/-- Software writes the pending register of a vector in a step. -/
def writesPending (s : Cpu) (vector : Word) : Event → Bool
  | .cycle =>
    match s.dispatching with
    | some (t, instr) =>
      (Registers.pendingRegister vector).isSome && t.softwareWrites instr == Registers.pendingRegister vector
    | none => false
  | _ => false

end Cpu

/-- The interrupt is due in a state: enabled, pending, unmasked, the smallest one so, and below the vector in
service. -/
structure Due (t : Cpu) (vector : Word) : Prop where
  enabled : t.registers.isInterruptEnabled = true
  pending : t.registers.isInterruptPending vector = true
  unmasked : t.registers.isInterruptUnmasked vector = true
  smallest : ∀ v, t.registers.isInterruptPending v = true → t.registers.isInterruptUnmasked v = true → vector ≤ v
  outranks : ∀ v, t.registers.inService = some v → vector < v

/-- Only due interrupts enter their handlers, and then are in service with interrupts off; an asserted interrupt
is pending, and stays so until it is cleared or its pending register is written. -/
structure IrqStep (s : Cpu) (e : Event) : Prop where
  entered : ∀ t vector, e = .cycle → s.interruptRaised = some (t, vector) →
    (t.raiseInterrupt vector false (BitVec.allOnes 64)).1 = true →
      Due t vector ∧ (step s e).registers.inService = some vector ∧
        (step s e).registers.isInterruptEnabled = false ∧
          (step s e).registers.interruptCpuControl = t.registers.cpuControl
  asserted : ∀ vector, e = .assertInterrupt vector → isIrqVector vector = true →
    (step s e).registers.isInterruptPending vector = true
  kept : ∀ vector, s.registers.isInterruptPending vector = true → e ≠ .clearInterrupt vector →
    s.writesPending vector e = false → (step s e).registers.isInterruptPending vector = true

section Delivery

variable {s t : Cpu} {e : Event} {vector : Word}

lemma interruptRaised_spec (h : s.interruptRaised = some (t, vector)) :
    t.registers.isInterruptEnabled = true ∧ t.registers.selectHighestPriorityPendingInterrupt = some vector := by
  rw [Cpu.interruptRaised] at h
  split at h
  · rename_i u _
    split at h
    · rename_i he
      obtain ⟨v, hv, heq⟩ := Option.map_eq_some_iff.1 h
      obtain ⟨rfl, rfl⟩ := Prod.mk.inj heq
      exact ⟨he, hv⟩
    · cases h
  · cases h

lemma interruptRaised_state (h : s.interruptRaised = some (t, vector)) :
    ∃ u instr, s.dispatching = some (u, instr) ∧ t = (u.dispatchInstruction instr).setReg 0 0 := by
  rw [Cpu.interruptRaised, Cpu.afterInstruction] at h
  cases hd : s.dispatching with
  | none =>
    rw [hd] at h
    cases h
  | some dispatched =>
    rw [hd] at h
    refine ⟨dispatched.1, dispatched.2, rfl, ?_⟩
    simp only at h
    split at h
    · rename_i u hu
      split at hu
      · cases hu
      · obtain rfl := Option.some.inj hu
        split at h
        · obtain ⟨v, -, heq⟩ := Option.map_eq_some_iff.1 h
          exact (Prod.mk.inj heq).1.symm
        · cases h
    · cases h

/-- What the code checks before it enters the handler of a hardware interrupt. -/
lemma raiseInterrupt_checks {epc : Word} (h : (t.raiseInterrupt vector false epc).1 = true) :
    isIrqVector vector = true ∧ t.registers.isInterruptEnabled = true ∧ t.registers.isInterruptUnmasked vector = true ∧
      ∀ v, t.registers.inService = some v → vector < v := by
  rw [Cpu.raiseInterrupt] at h
  simp only [Bool.not_false, Bool.true_and] at h
  split_ifs at h with h1 h2 h3 h4
  refine ⟨by simpa using h1, by simpa using h2, by simpa using h3, fun v hv => ?_⟩
  rw [Registers.inService] at hv
  split at hv
  · rename_i hs
    obtain rfl := Option.some.inj hv
    rw [hs, Bool.true_and, decide_eq_true_eq] at h4
    exact BitVec.not_le.1 h4
  · cases hv

lemma inService_entered (handler epc : Word) (h : isIrqVector vector = true) :
    (t.enteredRegisters vector false epc handler).inService = some vector ∧
      (t.enteredRegisters vector false epc handler).isInterruptEnabled = false ∧
        (t.enteredRegisters vector false epc handler).interruptCpuControl = t.registers.cpuControl := by
  have hset : ((t.enteringRegisters vector).setInterruptPending vector).cpuControl =
        Registers.enteringControl t.registers.cpuControl (vector.setWidth 8) ∧
      ((t.enteringRegisters vector).setInterruptPending vector).interruptCpuControl = t.registers.cpuControl := by
    rcases Registers.setInterruptPending_cases (t.enteringRegisters vector) vector with ⟨-, heq⟩ | ⟨k, -, -, -, heq⟩ <;>
      rw [heq] <;> exact ⟨rfl, rfl⟩
  have hcontrol : (t.enteredRegisters vector false epc handler).cpuControl =
      Registers.enteringControl t.registers.cpuControl (vector.setWidth 8) := hset.1
  obtain ⟨k, hpos, hk, hvector⟩ := Registers.isIrqVector_iff.1 h
  have hnat : vector.toNat = 64 + k := by rw [hvector, Registers.toNat_highVector hk]
  have hlt : vector < 128 := by
    rw [BitVec.lt_def, hnat]
    change 64 + k < 128
    omega
  have hne : vector ≠ noTrap := by
    intro heq
    have hzero : vector.toNat = 0 := congrArg BitVec.toNat heq
    omega
  refine ⟨?_, ?_, hset.2⟩
  · rw [Registers.inService, Registers.isInInterrupt_entering hcontrol, Registers.currentInterrupt_entering hlt hcontrol]
    simp [hne]
  · have hbit : (t.enteredRegisters vector false epc handler).isInterruptEnabled =
        (t.enteredRegisters vector false epc handler).cpuControl.getLsbD 0 := BitFields.and_bit_ne_zero _ 0 (by decide)
    rw [hbit, hcontrol, Registers.getLsbD_enteringControl _ _ _ (by decide), if_pos rfl]

lemma entered_of_raised (h : s.interruptRaised = some (t, vector))
    (hraise : (t.raiseInterrupt vector false (BitVec.allOnes 64)).1 = true) :
    Due t vector ∧ s.cycle.registers.inService = some vector ∧ s.cycle.registers.isInterruptEnabled = false ∧
      s.cycle.registers.interruptCpuControl = t.registers.cpuControl := by
  obtain ⟨henabled, hselect⟩ := interruptRaised_spec h
  obtain ⟨hirq, -, hunmasked, houtranks⟩ := raiseInterrupt_checks hraise
  obtain ⟨hpending, hsmallest⟩ := Registers.select_spec hselect
  obtain ⟨handler, -, heq⟩ := Cpu.raiseInterrupt_entered hraise
  have hcycle : s.cycle = { t with registers := t.enteredRegisters vector false (BitVec.allOnes 64) handler } := by
    rw [Cpu.cycle_eq, h]
    exact heq
  rw [hcycle]
  exact ⟨⟨henabled, hpending, hunmasked, hsmallest, houtranks⟩, inService_entered handler _ hirq⟩

lemma pending_raiseInterrupt (n epc : Word) (h : t.registers.isInterruptPending vector = true) :
    (t.raiseInterrupt n false epc).2.registers.isInterruptPending vector = true := by
  cases hraise : (t.raiseInterrupt n false epc).1 with
  | true =>
    obtain ⟨handler, -, heq⟩ := Cpu.raiseInterrupt_entered hraise
    rw [heq]
    exact Registers.pending_setInterruptPending (r := t.enteringRegisters n) n h
  | false =>
    have hstates : (t.raiseInterrupt n false epc).2.registers.pendingStates = t.registers.pendingStates := by
      rw [Cpu.raiseInterrupt] at hraise ⊢
      split_ifs at hraise ⊢
      iterate 5 rfl
      rw [Cpu.enterInterrupt] at hraise ⊢
      cases hh : t.handlerTranslation n with
      | fault cause aux =>
        simp only
        split <;> rfl
      | mapped physical =>
        rw [hh] at hraise
        simp only at hraise ⊢
        split_ifs at hraise ⊢
        rfl
    rw [Registers.isInterruptPending_congr hstates]
    exact h

lemma pending_fetch (h : s.registers.isInterruptPending vector = true) :
    ((s.setReg 0 0).readMemory16 (s.reg 15) (s.reg 15) .execute).2.registers.isInterruptPending vector = true := by
  have hstates := pendingStates_readMemory (s := s.setReg 0 0) MemoryBus.read16 (s.reg 15) (s.reg 15) .execute
  exact (Registers.isInterruptPending_congr hstates).trans h

lemma pending_dispatched {instr : Instruction} (hd : s.dispatching = some (t, instr))
    (hw : s.writesPending vector .cycle = false) (h : s.registers.isInterruptPending vector = true) :
    (t.dispatchInstruction instr).registers.isInterruptPending vector = true := by
  rw [Cpu.writesPending, hd] at hw
  have hregister : (Registers.pendingRegister vector).isSome = true := by
    rw [Registers.pendingRegister]
    rw [Registers.isInterruptPending, Registers.pendingBank] at h
    split_ifs at h ⊢
    · rfl
    · rfl
    · exact absurd h (by simp)
  change (_ && _) = false at hw
  rw [hregister, Bool.true_and] at hw
  apply pending_dispatch (beq_eq_false_iff_ne.1 hw)
  rw [Cpu.dispatching] at hd
  split at hd
  · obtain ⟨rfl, -⟩ := Prod.mk.inj (Option.some.inj hd)
    exact pending_fetch h
  · cases hd

/-- No instruction but a write of its pending register makes a vector lose its pending bit. -/
lemma pending_cycle (hw : s.writesPending vector .cycle = false) (h : s.registers.isInterruptPending vector = true) :
    s.cycle.registers.isInterruptPending vector = true := by
  have hexecuted : s.executed.registers.isInterruptPending vector = true := by
    rw [Cpu.executed]
    split
    · exact h
    · split
      · rename_i t instr hd
        simp only
        split
        · exact pending_dispatched hd hw h
        · exact pending_dispatched hd hw h
      · exact pending_fetch h
  rw [Cpu.cycle_eq]
  split
  · rename_i t v hraised
    obtain ⟨u, instr, hd, rfl⟩ := interruptRaised_state hraised
    exact pending_raiseInterrupt v _ (pending_dispatched hd hw h)
  · exact hexecuted

lemma irqStep (s : Cpu) (e : Event) : IrqStep s e := by
  cases e with
  | cycle =>
    refine ⟨fun t vector _ h hraise => entered_of_raised h hraise, fun vector h => ?_, fun vector h _ hw => ?_⟩
    · cases h
    · exact pending_cycle hw h
  | assertInterrupt num =>
    refine ⟨fun t vector h => ?_, fun vector h hirq => ?_, fun vector h _ _ => ?_⟩
    · cases h
    · obtain rfl := Event.assertInterrupt.inj h
      exact Registers.pending_set hirq
    · exact Registers.pending_setInterruptPending num h
  | clearInterrupt num =>
    refine ⟨fun t vector h => ?_, fun vector h => ?_, fun vector h hne _ => ?_⟩
    · cases h
    · cases h
    · exact Registers.pending_clearInterruptPending (fun heq => hne (congrArg Event.clearInterrupt heq)) h

/-- A handler for vector 65 at `0x2800`, lines 65 and 66 unmasked. -/
def irqCpu : Cpu where
  registers := { Registers.initial with
    regs := fun i => if i = 15 then 0x2000 else 0
    cpuControl := 1
    interruptTableBase := 0x3000
    interruptMaskHigh := 6 }
  isRunning := true
  bus := ⟨[{ base := 0, size := 0x10000, kind := .ram, data := fun addr => if addr = 0x3209 then 0x28 else 0 }],
    List.pairwise_singleton _ _⟩
  tlb _ := TlbEntry.initial
  memBase := 0
  memSize := 0x10000
  bootSourceBytes := []
  events := []

end Delivery

end Little64.Emulator

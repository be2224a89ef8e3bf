import Little64.Emulator.Dispatch

/-! The data accesses of an instruction: the shape they take, and that dispatch performs that shape. -/

namespace Little64.Emulator

/-- The data accesses of an instruction, with the registers it updates around them. -/
inductive DataAccess
  | none
  | load (width : ℕ) (rd : Reg) (addr : Word)
  | store (width : ℕ) (addr : Word)
  | push (rd : Reg)
  | pop (rd rs1 : Reg)
  | pushFrom (rd : Reg) (effective : Word)
  | popTo (rd : Reg) (effective : Word)
  | loadLinked (addr : Word)
  | storeConditional (addr : Word)
  deriving DecidableEq, Repr

namespace Cpu

variable (s : Cpu)

def lsRegAccess (instr : Instruction) : DataAccess :=
  let addr := s.reg instr.rs1 + instr.offset2.setWidth 64 * 2
  match LsOpcode.ofBits instr.opcodeLs with
  | .load => .load 64 instr.rd addr
  | .store => .store 64 addr
  | .push => .push instr.rd
  | .pop => .pop instr.rd instr.rs1
  | .byteLoad => .load 8 instr.rd addr
  | .byteStore => .store 8 addr
  | .shortLoad => .load 16 instr.rd addr
  | .shortStore => .store 16 addr
  | .wordLoad => .load 32 instr.rd addr
  | .wordStore => .store 32 addr
  | _ => .none

def lsPCRelAccess (instr : Instruction) : DataAccess :=
  let effective := s.reg 15 + instr.pcRel.signExtend 64 * 2
  match LsOpcode.ofBits instr.opcodeLs with
  | .load => .load 64 instr.rd effective
  | .store => .store 64 effective
  | .push => .pushFrom instr.rd effective
  | .pop => .popTo instr.rd effective
  | .byteLoad => .load 8 instr.rd effective
  | .byteStore => .store 8 effective
  | .shortLoad => .load 16 instr.rd effective
  | .shortStore => .store 16 effective
  | .wordLoad => .load 32 instr.rd effective
  | .wordStore => .store 32 effective
  | _ => .none

def gpAccess (instr : Instruction) : DataAccess :=
  match GpOpcode.ofBits instr.opcodeGp with
  | some .llr => .loadLinked (s.reg instr.rs1)
  | some .scr =>
    if s.registers.llReservationValid && s.registers.llReservationAddr == s.reg instr.rs1 then
      .storeConditional (s.reg instr.rs1)
    else .none
  | _ => .none

def dataAccess (instr : Instruction) : DataAccess :=
  match instr.format with
  | 0 => s.lsRegAccess instr
  | 1 => s.lsPCRelAccess instr
  | 2 => .none
  | _ => if instr.isUnconditionalJump then .none else s.gpAccess instr

/-- The PC-relative `PUSH` and `POP`: a read, a move of the pointer register, and a write of the value read. -/
def transfer (rd : Reg) (source delta : Word) (target : Word → Word) (opPc : Word) : Cpu :=
  let value := s.readMemory64 source opPc .read
  let t := value.2.setReg rd (value.2.reg rd + delta)
  t.writeMemory64 (target (t.reg rd)) value.1 opPc

end Cpu

/-- The accesses recorded between two states. -/
def newEvents (s t : Cpu) : List MemoryEvent := t.events.take (t.events.length - s.events.length)

lemma newEvents_eq {s t : Cpu} (added : List MemoryEvent) (h : t.events = added ++ s.events) :
    newEvents s t = added := by
  rw [newEvents, h, List.length_append, Nat.add_sub_cancel]
  exact List.take_left

/-- No access is recorded, and what runs in user mode leaves memory alone. -/
structure Silent (s t : Cpu) : Prop where
  events : t.events = s.events
  bus : s.registers.isUserMode = true → t.bus = s.bus

/-- A write helper of the bus, together with what it changes. -/
def OverlayWrite {w : ℕ} (busWrite : MemoryBus → Word → BitVec w → AccessType → MemoryBus) : Prop :=
  w ≤ 64 ∧ ∀ (bus : MemoryBus) addr val, bus.Overlay addr (w / 8) val (busWrite bus addr val .write)

/-- What dispatch does for an instruction of each shape. -/
inductive Performs (s t : Cpu) : DataAccess → Prop
  | none : Silent s t → Performs s t .none
  | load {w} (busRead : MemoryBus → Word → AccessType → BitVec w) (rd addr) :
      t = s.load (fun s => s.readMemory w busRead) rd addr (s.reg 15 - 2) → Performs s t (.load w rd addr)
  | store {w} (busWrite : MemoryBus → Word → BitVec w → AccessType → MemoryBus) (addr value) :
      OverlayWrite busWrite → t = s.writeMemory w busWrite addr value (s.reg 15 - 2) → Performs s t (.store w addr)
  | push (rd value) :
      t = (s.setReg rd (s.reg rd + -8)).writeMemory64 (s.reg rd + -8) value (s.reg 15 - 2) → Performs s t (.push rd)
  | pop (rd rs1) (popped : Word × Cpu) : popped = s.readMemory64 (s.reg rd) (s.reg 15 - 2) .read →
      t = (popped.2.setReg rs1 popped.1).setReg rd ((popped.2.setReg rs1 popped.1).reg rd + 8) →
        Performs s t (.pop rd rs1)
  | pushFrom (rd effective) : t = s.transfer rd effective (-8) id (s.reg 15 - 2) → Performs s t (.pushFrom rd effective)
  | popTo (rd effective) : t = s.transfer rd (s.reg rd) 8 (fun _ => effective) (s.reg 15 - 2) →
      Performs s t (.popTo rd effective)
  | loadLinked (rd addr) (u : Cpu) : u = s.load Cpu.readMemory64 rd addr (s.reg 15) →
      t = { u with registers := { u.registers with llReservationAddr := addr, llReservationValid := true } } →
        Performs s t (.loadLinked addr)
  | storeConditional (addr value) (u : Cpu) : u = s.writeMemory64 addr value (s.reg 15) →
      t = { u with registers := { u.registers with
        llReservationValid := false, flags := u.registers.flags ||| Cpu.flagZero } } →
          Performs s t (.storeConditional addr)

section Dispatch

variable {s : Cpu}

lemma silent_instructionTrap (cause : Word) : Silent s (s.instructionTrap cause) := by
  refine ⟨Cpu.events_raiseInterrupt _ _ _, fun _ => ?_⟩
  generalize hu : { s with registers := { s.registers with trapPc := s.reg 15 - 2, trapCause := cause } } = u
  have hbus : (u.raiseInterrupt cause true (s.reg 15 - 2)).2.bus = u.bus := by
    cases h : (u.raiseInterrupt cause true (s.reg 15 - 2)).1 with
    | false => rw [(Cpu.raiseInterrupt_refused h).frame]
    | true =>
      obtain ⟨handler, _, he⟩ := Cpu.raiseInterrupt_entered h
      rw [he]
  rw [Cpu.instructionTrap]
  simp only [hu, hbus]
  rw [← hu]

lemma events_executeHypercall : s.executeHypercall.events = s.events := by
  rw [Cpu.executeHypercall]
  simp only
  split_ifs <;> rfl

lemma hypercall_not_userAccessible {selector : Word} (h : SpecialRegister.ofSelector selector = some .hypercallCaps) :
    SpecialRegister.isUserAccessibleSelector selector = false := by
  rw [SpecialRegister.isUserAccessibleSelector, beq_eq_false_iff_ne]
  intro hu
  rw [SpecialRegister.ofSelector, hu] at h
  exact absurd h (by decide)

/-- A user cannot reach the hypercall register, whose writes alone touch memory without an access. -/
lemma silent_ssr (selector value : Word)
    (hu : ¬ (s.registers.isUserMode && !SpecialRegister.isUserAccessibleSelector selector) = true) :
    let t := { s with registers := s.registers.setSpecialRegister selector value }
    let register := SpecialRegister.ofSelector selector
    let t := if register = some .cpuControl ∨ register = some .pageTableRootPhysical then t.flushTLB else t
    Silent s (if register = some .hypercallCaps then t.executeHypercall else t) := by
  simp only
  by_cases hh : SpecialRegister.ofSelector selector = some .hypercallCaps
  · have hn : ¬ (SpecialRegister.ofSelector selector = some .cpuControl ∨
        SpecialRegister.ofSelector selector = some .pageTableRootPhysical) := by
      rw [hh]
      decide
    rw [if_pos hh, if_neg hn]
    refine ⟨events_executeHypercall, fun hm => ?_⟩
    rw [hm, hypercall_not_userAccessible hh] at hu
    exact absurd rfl hu
  · rw [if_neg hh]
    split <;> exact ⟨rfl, fun _ => rfl⟩

lemma silent_aluResult (rd : Reg) (result : Word) (carry : Bool) : Silent s (s.aluResult rd result carry) :=
  ⟨rfl, fun _ => rfl⟩

lemma silent_shiftLeftLogical (rd : Reg) (a : Word) (count : ℕ) : Silent s (s.shiftLeftLogical rd a count) := by
  rw [Cpu.shiftLeftLogical]
  split <;> exact silent_aluResult _ _ _

lemma silent_shiftRightLogical (rd : Reg) (a : Word) (count : ℕ) : Silent s (s.shiftRightLogical rd a count) := by
  rw [Cpu.shiftRightLogical]
  split <;> exact silent_aluResult _ _ _

lemma silent_shiftRightArithmetic (rd : Reg) (a : Word) (count : ℕ) :
    Silent s (s.shiftRightArithmetic rd a count) := by
  rw [Cpu.shiftRightArithmetic]
  split <;> exact silent_aluResult _ _ _

lemma silent_dispatchLDI (instr : Instruction) : Silent s (s.dispatchLDI instr) := by
  rw [Cpu.dispatchLDI]
  simp only
  split_ifs <;> exact ⟨rfl, fun _ => rfl⟩

lemma silent_jump (taken : Prop) [Decidable taken] (rd : Reg) (addr : Word) :
    Silent s (if taken then s.setReg rd addr else s) := by
  split <;> exact ⟨rfl, fun _ => rfl⟩

lemma dispatchLSReg_performs (instr : Instruction) : Performs s (s.dispatchLSReg instr) (s.lsRegAccess instr) := by
  simp only [Cpu.dispatchLSReg, Cpu.lsRegAccess]
  cases LsOpcode.ofBits instr.opcodeLs with
  | load | byteLoad | shortLoad | wordLoad => exact .load _ _ _ rfl
  | store => exact .store _ _ _ ⟨by decide, MemoryBus.write64_overlay⟩ rfl
  | byteStore => exact .store _ _ _ ⟨by decide, MemoryBus.write8_overlay⟩ rfl
  | shortStore => exact .store _ _ _ ⟨by decide, MemoryBus.write16_overlay⟩ rfl
  | wordStore => exact .store _ _ _ ⟨by decide, MemoryBus.write32_overlay⟩ rfl
  | push =>
    refine .push instr.rd (s.reg instr.rs1) ?_
    rw [← BitVec.sub_eq_add_neg (s.reg instr.rd) 8]
    exact congrArg (Cpu.writeMemory64 _ · _ _) (if_pos rfl)
  | pop => exact .pop _ _ _ rfl rfl
  | move => exact .none ⟨rfl, fun _ => rfl⟩
  | _ => exact .none (silent_jump _ _ _)

lemma pushFrom_eq (rd : Reg) (source opPc : Word) :
    (let value := s.readMemory64 source opPc .read
     let t := value.2.setReg rd (value.2.reg rd - 8)
     t.writeMemory64 (t.reg rd) value.1 opPc) = s.transfer rd source (-8) id opPc := by
  simp only [BitVec.sub_eq_add_neg]
  rfl

lemma dispatchLSPCRel_performs (instr : Instruction) :
    Performs s (s.dispatchLSPCRel instr) (s.lsPCRelAccess instr) := by
  simp only [Cpu.dispatchLSPCRel, Cpu.lsPCRelAccess]
  cases LsOpcode.ofBits instr.opcodeLs with
  | load | byteLoad | shortLoad | wordLoad => exact .load _ _ _ rfl
  | store => exact .store _ _ _ ⟨by decide, MemoryBus.write64_overlay⟩ rfl
  | byteStore => exact .store _ _ _ ⟨by decide, MemoryBus.write8_overlay⟩ rfl
  | shortStore => exact .store _ _ _ ⟨by decide, MemoryBus.write16_overlay⟩ rfl
  | wordStore => exact .store _ _ _ ⟨by decide, MemoryBus.write32_overlay⟩ rfl
  | push => exact .pushFrom _ _ (pushFrom_eq _ _ _)
  | pop => exact .popTo _ _ rfl
  | move => exact .none ⟨rfl, fun _ => rfl⟩
  | _ => exact .none (silent_jump _ _ _)

lemma dispatchGP_performs (instr : Instruction) : Performs s (s.dispatchGP instr) (s.gpAccess instr) := by
  simp only [Cpu.dispatchGP, Cpu.gpAccess]
  cases GpOpcode.ofBits instr.opcodeGp with
  | none => exact .none (silent_instructionTrap _)
  | some op =>
    cases op with
    | llr => exact .loadLinked _ _ _ rfl rfl
    | scr =>
      by_cases hr : (s.registers.llReservationValid && s.registers.llReservationAddr == s.reg instr.rs1) = true
      · simp only [hr, if_true]
        exact .storeConditional _ _ _ rfl rfl
      · simp only [hr]
        exact .none ⟨rfl, fun _ => rfl⟩
    | add | sub | and | or | xor => exact .none (silent_aluResult _ _ _)
    | test => exact .none ⟨rfl, fun _ => rfl⟩
    | sll =>
      refine .none ?_
      simp only
      split
      · exact silent_aluResult _ _ _
      · exact silent_shiftLeftLogical _ _ _
    | srl =>
      refine .none ?_
      simp only
      split
      · exact silent_aluResult _ _ _
      · exact silent_shiftRightLogical _ _ _
    | sra =>
      refine .none ?_
      simp only
      split
      · exact silent_aluResult _ _ _
      · exact silent_shiftRightArithmetic _ _ _
    | slli => exact .none (silent_shiftLeftLogical _ _ _)
    | srli => exact .none (silent_shiftRightLogical _ _ _)
    | srai => exact .none (silent_shiftRightArithmetic _ _ _)
    | syscall => exact .none (silent_instructionTrap _)
    | lsr | iret | stop =>
      refine .none ?_
      simp only
      split
      · exact silent_instructionTrap _
      · exact ⟨rfl, fun _ => rfl⟩
    | ssr =>
      refine .none ?_
      simp only
      split
      · exact silent_instructionTrap _
      · next hu => exact silent_ssr _ _ hu

theorem dispatchInstruction_performs (s : Cpu) (instr : Instruction) :
    Performs s (s.dispatchInstruction instr) (s.dataAccess instr) := by
  have hf : ∀ f : BitVec 2, f = 0 ∨ f = 1 ∨ f = 2 ∨ f = 3 := by decide
  rw [Cpu.dispatchInstruction, Cpu.dataAccess]
  rcases hf instr.format with h | h | h | h <;> rw [h]
  · exact dispatchLSReg_performs instr
  · exact dispatchLSPCRel_performs instr
  · exact .none (silent_dispatchLDI instr)
  · by_cases hj : instr.isUnconditionalJump = true
    · simp only [hj, if_true]
      exact .none ⟨rfl, fun _ => rfl⟩
    · simp only [hj]
      exact dispatchGP_performs instr

end Dispatch

end Little64.Emulator

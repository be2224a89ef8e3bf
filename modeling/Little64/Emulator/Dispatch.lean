import Little64.Emulator.Cpu

/-! Instruction dispatch, and one fetch-dispatch-interrupt cycle of the CPU. -/

namespace Little64.Emulator

open Vectors

namespace Cpu

variable (s : Cpu)

def flagZero : Word := 1

def checkCondition (flags : Word) (op : LsOpcode) : Bool :=
  let z := flags &&& 1 != 0
  let c := flags &&& 2 != 0
  let s := flags &&& 4 != 0
  match op with
  | .jumpZ => z
  | .jumpC => c
  | .jumpS => s
  | .jumpGT => !z && !s
  | .jumpLT => s
  | _ => false

/-- Loads of every width: the destination takes the zero-extended value read. -/
def load {w : ℕ} (read : Cpu → Word → Word → AccessType → BitVec w × Cpu) (rd : Reg) (addr opPc : Word) : Cpu :=
  let r := read s addr opPc .read
  r.2.setReg rd (r.1.setWidth 64)

def dispatchLSReg (instr : Instruction) : Cpu :=
  let opPc := s.reg 15 - 2
  let addr := s.reg instr.rs1 + instr.offset2.setWidth 64 * 2
  match LsOpcode.ofBits instr.opcodeLs with
  | .load => s.load readMemory64 instr.rd addr opPc
  | .store => s.writeMemory64 addr (s.reg instr.rd) opPc
  | .push =>
    let pushedValue := s.reg instr.rs1
    let t := s.setReg instr.rd (s.reg instr.rd - 8)
    t.writeMemory64 (t.reg instr.rd) pushedValue opPc
  | .pop =>
    let popped := s.readMemory64 (s.reg instr.rd) opPc .read
    let t := popped.2.setReg instr.rs1 popped.1
    t.setReg instr.rd (t.reg instr.rd + 8)
  | .move => s.setReg instr.rd addr
  | .byteLoad => s.load readMemory8 instr.rd addr opPc
  | .byteStore => s.writeMemory8 addr ((s.reg instr.rd).setWidth 8) opPc
  | .shortLoad => s.load readMemory16 instr.rd addr opPc
  | .shortStore => s.writeMemory16 addr ((s.reg instr.rd).setWidth 16) opPc
  | .wordLoad => s.load readMemory32 instr.rd addr opPc
  | .wordStore => s.writeMemory32 addr ((s.reg instr.rd).setWidth 32) opPc
  | op => if checkCondition s.registers.flags op then s.setReg instr.rd addr else s

def dispatchLSPCRel (instr : Instruction) : Cpu :=
  let opPc := s.reg 15 - 2
  let effective := s.reg 15 + instr.pcRel.signExtend 64 * 2
  match LsOpcode.ofBits instr.opcodeLs with
  | .load => s.load readMemory64 instr.rd effective opPc
  | .store => s.writeMemory64 effective (s.reg instr.rd) opPc
  | .push =>
    let value := s.readMemory64 effective opPc .read
    let t := value.2.setReg instr.rd (value.2.reg instr.rd - 8)
    t.writeMemory64 (t.reg instr.rd) value.1 opPc
  | .pop =>
    let popped := s.readMemory64 (s.reg instr.rd) opPc .read
    let t := popped.2.setReg instr.rd (popped.2.reg instr.rd + 8)
    t.writeMemory64 effective popped.1 opPc
  | .move => s.setReg instr.rd effective
  | .byteLoad => s.load readMemory8 instr.rd effective opPc
  | .byteStore => s.writeMemory8 effective ((s.reg instr.rd).setWidth 8) opPc
  | .shortLoad => s.load readMemory16 instr.rd effective opPc
  | .shortStore => s.writeMemory16 effective ((s.reg instr.rd).setWidth 16) opPc
  | .wordLoad => s.load readMemory32 instr.rd effective opPc
  | .wordStore => s.writeMemory32 effective ((s.reg instr.rd).setWidth 32) opPc
  | op => if checkCondition s.registers.flags op then s.setReg 15 effective else s

def dispatchLDI (instr : Instruction) : Cpu :=
  if instr.shift = 0 then s.setReg instr.rd (instr.imm8.setWidth 64)
  else
    let t := s.setReg instr.rd (s.reg instr.rd ||| (instr.imm8.setWidth 64 <<< (instr.shift.toNat * 8)))
    if instr.shift = 3 ∧ instr.imm8 &&& 0x80 ≠ 0 then
      t.setReg instr.rd (t.reg instr.rd ||| 0xFFFFFFFF00000000)
    else t

def dispatchUJMP (instr : Instruction) : Cpu := s.setReg 15 (s.reg 15 + instr.pcRel.signExtend 64 * 2)

/-- Flags and destination of an ALU operation. -/
def aluResult (rd : Reg) (result : Word) (carry : Bool) : Cpu :=
  { s with registers := s.registers.updateFlags result carry }.setReg rd result

/-- A trap of the instruction itself, reported at its own address. -/
def instructionTrap (cause : Word) : Cpu :=
  let pc := s.reg 15 - 2
  ({ s with registers := { s.registers with trapPc := pc, trapCause := cause } }.raiseInterrupt cause true pc).2

def hypercallMeminfo : Word := 1
def hypercallGetBootSourceInfo : Word := 2
def hypercallReadBootSourcePages : Word := 3
def hypercallStatusOk : Word := 0
def hypercallStatusInvalid : Word := 1
def hypercallStatusUnsupported : Word := 2
def hypercallStatusRange : Word := 3
def hypercallCapMinimalBoot : Word := 1
def serialBase : Word := 0x08000000

/-- One boot source page, from byte `i` on; the copy stops at the end of the source. -/
def copySourcePage (bytes : List (BitVec 8)) (sourceOff destOff : Word) : ℕ → Word → MemoryBus → MemoryBus
  | 0, _, bus => bus
  | n + 1, i, bus =>
    match bytes[(sourceOff + i).toNat]? with
    | none => bus
    | some byte => copySourcePage bytes sourceOff destOff n (i + 1) (bus.write8 (destOff + i) byte .write)

def copySourcePages (bytes : List (BitVec 8)) (pageSize startPage dstPhys : Word) :
    ℕ → Word → MemoryBus → MemoryBus
  | 0, _, bus => bus
  | n + 1, p, bus =>
    copySourcePages bytes pageSize startPage dstPhys n (p + 1)
      (copySourcePage bytes ((startPage + p) * pageSize) (dstPhys + p * pageSize) pageSize.toNat 0 bus)

def executeHypercall : Cpu :=
  let service := s.reg 1
  let t := s.setReg 1 hypercallStatusUnsupported
  if service = hypercallMeminfo then
    ((((t.setReg 1 hypercallStatusOk).setReg 2 s.memBase).setReg 3 s.memSize).setReg 4
      serialBase).setReg 5 hypercallCapMinimalBoot
  else if service = hypercallGetBootSourceInfo then
    if s.reg 2 ≠ 0 then t.setReg 1 hypercallStatusInvalid
    else
      ((((t.setReg 1 hypercallStatusOk).setReg 2 1).setReg 3 s.registers.bootSourcePageSize).setReg 4
        s.registers.bootSourcePageCount).setReg 5 0
  else if service = hypercallReadBootSourcePages then
    let startPage := s.reg 2
    let pageCount := s.reg 3
    let dstPhys := s.reg 4
    let pageSize := s.registers.bootSourcePageSize
    let totalPages := s.registers.bootSourcePageCount
    if s.reg 5 ≠ 0 ∨ pageSize = 0 then t.setReg 1 hypercallStatusInvalid
    else if totalPages ≤ startPage ∨ pageCount = 0 ∨ totalPages < startPage + pageCount then
      (t.setReg 1 hypercallStatusRange).setReg 2 0
    else
      ({ t with bus :=
          copySourcePages s.bootSourceBytes pageSize startPage dstPhys pageCount.toNat 0 s.bus }.setReg 1
        hypercallStatusOk).setReg 2 pageCount
  else t.setReg 1 hypercallStatusUnsupported

/-- Shifts by a count of `0` and, for the register forms, of `64` and more set the flags without carry. -/
def shiftLeftLogical (rd : Reg) (a : Word) (count : ℕ) : Cpu :=
  if count = 0 then s.aluResult rd a false
  else s.aluResult rd (a <<< count) (a >>> (64 - count) != 0)

def shiftRightLogical (rd : Reg) (a : Word) (count : ℕ) : Cpu :=
  if count = 0 then s.aluResult rd a false
  else s.aluResult rd (a >>> count) (a >>> (count - 1) &&& 1 != 0)

def shiftRightArithmetic (rd : Reg) (a : Word) (count : ℕ) : Cpu :=
  if count = 0 then s.aluResult rd a false
  else s.aluResult rd (a.sshiftRight count) (a >>> (count - 1) &&& 1 != 0)

def dispatchGP (instr : Instruction) : Cpu :=
  let rd := instr.rd
  let a := s.reg rd
  let b := s.reg instr.rs1
  match GpOpcode.ofBits instr.opcodeGp with
  | some .add => s.aluResult rd (a + b) (decide (a + b < a))
  | some .sub => s.aluResult rd (a - b) (decide (a < b))
  | some .test => { s with registers := s.registers.updateFlags (a - b) (decide (a < b)) }
  | some .llr =>
    let t := s.load readMemory64 rd b (s.reg 15)
    { t with registers := { t.registers with llReservationAddr := b, llReservationValid := true } }
  | some .scr =>
    if s.registers.llReservationValid && s.registers.llReservationAddr == b then
      let t := s.writeMemory64 b a (s.reg 15)
      { t with registers := { t.registers with
          llReservationValid := false
          flags := t.registers.flags ||| flagZero } }
    else
      { s with registers := { s.registers with
          llReservationValid := false
          flags := s.registers.flags &&& ~~~flagZero } }
  | some .and => s.aluResult rd (a &&& b) false
  | some .or => s.aluResult rd (a ||| b) false
  | some .xor => s.aluResult rd (a ^^^ b) false
  | some .sll =>
    if 64 ≤ b.toNat then s.aluResult rd 0 false else s.shiftLeftLogical rd a b.toNat
  | some .srl =>
    if 64 ≤ b.toNat then s.aluResult rd 0 false else s.shiftRightLogical rd a b.toNat
  | some .sra =>
    if 64 ≤ b.toNat then s.aluResult rd (if a.msb then BitVec.allOnes 64 else 0) false
    else s.shiftRightArithmetic rd a b.toNat
  | some .slli => s.shiftLeftLogical rd a instr.rs1.toNat
  | some .srli => s.shiftRightLogical rd a instr.rs1.toNat
  | some .srai => s.shiftRightArithmetic rd a instr.rs1.toNat
  | some .syscall =>
    s.instructionTrap (if s.registers.isUserMode then trapSyscall else trapSyscallFromSupervisor)
  | some .lsr =>
    let selector := SpecialRegister.normalizeSelector b
    if s.registers.isUserMode && !SpecialRegister.isUserAccessibleSelector selector then
      s.instructionTrap trapPrivilegedInstruction
    else s.setReg rd (s.registers.getSpecialRegister selector)
  | some .ssr =>
    let selector := SpecialRegister.normalizeSelector b
    if s.registers.isUserMode && !SpecialRegister.isUserAccessibleSelector selector then
      s.instructionTrap trapPrivilegedInstruction
    else
      let t := { s with registers := s.registers.setSpecialRegister selector a }
      let register := SpecialRegister.ofSelector selector
      -- a changed translation context must not be served from the TLB
      let t := if register = some .cpuControl ∨ register = some .pageTableRootPhysical then t.flushTLB else t
      if register = some .hypercallCaps then t.executeHypercall else t
  | some .iret =>
    if s.registers.isUserMode then s.instructionTrap trapPrivilegedInstruction
    else
      let t := s.setReg 15 s.registers.interruptEpc
      { t with registers := { t.registers with
          flags := s.registers.interruptEflags
          cpuControl := s.registers.interruptCpuControl } }.flushTLB
  | some .stop =>
    if s.registers.isUserMode then s.instructionTrap trapPrivilegedInstruction
    else { s with isRunning := false }
  | none => s.instructionTrap trapInvalidInstruction

def dispatchInstruction (instr : Instruction) : Cpu :=
  match instr.format with
  | 0 => s.dispatchLSReg instr
  | 1 => s.dispatchLSPCRel instr
  | 2 => s.dispatchLDI instr
  | _ => if instr.isUnconditionalJump then s.dispatchUJMP instr else s.dispatchGP instr

/-- One instruction. A fetch that faults and enters its handler dispatches the word `0xFFFF`, as read. -/
def cycle : Cpu :=
  if !s.isRunning then s
  else
    let pc := s.reg 15
    let fetched := (s.setReg 0 0).readMemory16 pc pc .execute
    let t := fetched.2
    if !t.isRunning then t
    else
      let t := (t.setReg 15 (t.reg 15 + 2)).dispatchInstruction (Instruction.decode fetched.1)
      if t.isRunning && t.reg 15 == pc && !t.registers.isInterruptEnabled then { t with isRunning := false }
      else
        let t := t.setReg 0 0
        if t.registers.isInterruptEnabled then
          match t.registers.selectHighestPriorityPendingInterrupt with
          | some vector => (t.raiseInterrupt vector false (BitVec.allOnes 64)).2
          | none => t
        else t

def assertInterrupt (num : Word) : Cpu := { s with registers := s.registers.setInterruptPending num }

def clearInterrupt (num : Word) : Cpu := { s with registers := s.registers.clearInterruptPending num }

end Cpu

end Little64.Emulator

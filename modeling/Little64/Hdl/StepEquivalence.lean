import Little64.Emulator.TlbCoherence
import Little64.Hdl.InstructionFields
import Little64.Hdl.InstructionStep
import Little64.Library.BitFields

/-! The emulator and the HDL cores as two interpreters of one instruction. -/

namespace Little64.Hdl

open Emulator (Reg Cpu MemoryEvent MemoryBus Instruction LsOpcode GpOpcode newEvents newEvents_eq)

/-- The access was made, without a fault. -/
def EventPerformed (e : MemoryEvent) : Prop := ∃ physical data, e.outcome = .performed physical data

/-- The bytes that a performed access moved. -/
def eventData (e : MemoryEvent) : Word :=
  match e.outcome with
  | .performed _ data => data
  | .faulted _ _ => 0

instance (e : MemoryEvent) : Decidable (EventPerformed e) := by
  cases h : e.outcome with
  | performed physical data => exact .isTrue ⟨physical, data, h⟩
  | faulted cause entered =>
    refine .isFalse fun hp => ?_
    obtain ⟨_, _, hp⟩ := hp
    exact absurd (h.symm.trans hp) (by simp)

def eventRequest (e : MemoryEvent) : Request :=
  match e.access with
  | .write => .write e.virtualAddr e.width (eventData e)
  | _ => .read e.virtualAddr e.width

/-- What memory answered to the first access between two states. -/
def answer (s t : Cpu) : Word := ((newEvents s t).getLast?.map eventData).getD 0

/-- Two interpreters leave the same registers, flags and next PC, and made the same requests in order. -/
structure StepsAgree (s t : Cpu) (r : StepResult) : Prop where
  regs : ∀ x, x ≠ 0 → x ≠ 15 → t.reg x = r.regs x
  flags : t.registers.flags.setWidth 3 = r.flags
  nextPc : t.reg 15 = r.nextPc
  requests : (newEvents s t).reverse.map eventRequest = r.requests

/-- The inputs of the execute stage present an instruction with the registers of the emulator. -/
structure Presents (s : Cpu) (raw : BitVec 16) (i : ExecuteInputs) : Prop where
  valid : i.valid = true
  instruction : i.instruction = raw
  postIncrementPc : i.postIncrementPc = s.reg 15
  operandA : i.operandA = s.reg (instructionRd raw)
  operandB : i.operandB = s.reg (instructionRs1 raw)
  flags : i.flags = s.registers.flags.setWidth 3

lemma presents_alone {s : Cpu} (raw : BitVec 16) (i : ExecuteInputs) (h0 : s.reg 0 = 0) :
    Presents s raw (i.decoded (.alone raw s.registers.regs (s.registers.flags.setWidth 3))) := by
  have hoperand : ∀ r, (DecodeInputs.alone raw s.registers.regs (s.registers.flags.setWidth 3)).operand r = s.reg r := by
    intro r
    by_cases hr : r = 0
    · rw [DecodeInputs.operand, if_pos hr, hr, h0]
    · rw [DecodeInputs.operand, if_neg hr]
      rfl
  exact ⟨rfl, rfl, rfl, hoperand _, hoperand _, rfl⟩

namespace Presents

variable {s : Cpu} {raw : BitVec 16} {i : ExecuteInputs} (hs : Presents s raw i)
include hs

lemma rd : i.rd = instructionRd raw := by rw [ExecuteInputs.rd, hs.instruction]

lemma rs1 : i.rs1 = instructionRs1 raw := by rw [ExecuteInputs.rs1, hs.instruction]

lemma rdValue : i.lsRdValue = s.reg (instructionRd raw) := by
  rw [ExecuteInputs.lsRdValue, hs.rd, hs.postIncrementPc, hs.operandA]
  split
  · next h => rw [h]
  · rfl

lemma rs1Value : i.lsRs1Value = s.reg (instructionRs1 raw) := by
  rw [ExecuteInputs.lsRs1Value, hs.rs1, hs.postIncrementPc, hs.operandB]
  split
  · next h => rw [h]
  · rfl

lemma addr : i.lsAddr = s.reg (instructionRs1 raw) + (instructionLsOffset2 raw).setWidth 64 * 2 := by
  rw [ExecuteInputs.lsAddr, hs.rs1Value, hs.instruction, BitVec.shiftLeft_eq_mul_twoPow]
  rfl

lemma distance (low width : ℕ) (h : width ≤ 16) :
    i.postIncrementPc + pcRelative i.instruction low width =
      s.reg 15 + ((raw.extractLsb' low width).signExtend 16).signExtend 64 * 2 := by
  rw [hs.postIncrementPc, hs.instruction, pcRelative, BitVec.shiftLeft_eq_mul_twoPow,
    BitFields.signExtend_signExtend h]
  rfl

end Presents

section Accesses

variable {s t u : Cpu} {raw : BitVec 16} {i : ExecuteInputs} {w : ℕ}
  {busRead : MemoryBus → Word → AccessType → BitVec w} {busWrite : MemoryBus → Word → BitVec w → AccessType → MemoryBus}
  {value : BitVec w} {addr pc : Word}

/-- What the cores make of an execute output, with the answers that the emulator got. -/
def outcome (s t : Cpu) (o : ExecuteOutputs) : StepResult :=
  o.perform s.registers.regs (s.registers.flags.setWidth 3) (answer s t)

lemma performed_read (busRead : MemoryBus → Word → AccessType → BitVec w) {read : BitVec w × Cpu}
    (hr : read = s.readMemory w busRead addr pc .read)
    (h : ∀ e, read.2.events = e :: s.events → EventPerformed e) :
    ∃ e, read.2.events = e :: s.events ∧ EventPerformed e ∧ eventRequest e = .read addr (w / 8) ∧
      eventData e = read.1.setWidth 64 ∧ read.2.registers = s.registers := by
  cases hm : s.mapResult addr .read with
  | fault cause aux =>
    obtain ⟨_, _, hp⟩ := h _ ((congrArg (fun r => r.2.events) hr).trans (Cpu.events_readMemory_fault hm))
    cases hp
  | mapped physical =>
    obtain ⟨tlb, he⟩ := Cpu.readMemory_mapped busRead pc hm
    rw [hr, he]
    exact ⟨_, rfl, ⟨_, _, rfl⟩, rfl, rfl, rfl⟩

lemma performed_write (busWrite : MemoryBus → Word → BitVec w → AccessType → MemoryBus)
    (ht : t = u.writeMemory w busWrite addr value pc) (h : ∀ e, t.events = e :: u.events → EventPerformed e) :
    ∃ e, t.events = e :: u.events ∧ eventRequest e = .write addr (w / 8) (value.setWidth 64) ∧
      t.registers.regs = u.registers.regs ∧ t.registers.flags = u.registers.flags := by
  cases hm : u.mapResult addr .write with
  | fault cause aux =>
    obtain ⟨_, _, hp⟩ := h _ ((congrArg Cpu.events ht).trans (Cpu.events_writeMemory_fault hm))
    cases hp
  | mapped physical =>
    obtain ⟨tlb, valid, he⟩ := Cpu.writeMemory_mapped busWrite value pc hm
    rw [ht, he]
    exact ⟨_, rfl, rfl, rfl, rfl⟩

lemma newEvents_one {e : MemoryEvent} (ht : t.events = e :: s.events) : newEvents s t = [e] := newEvents_eq [e] ht

lemma narrow_eq (hw : w = 8 ∨ w = 16 ∨ w = 32 ∨ w = 64) (value : Word) :
    narrow (w / 8) value = (value.setWidth w).setWidth 64 := by
  have hmask : ∀ n, n ≤ 64 → value &&& BitFields.lowMask 64 n = (value.setWidth n).setWidth 64 := by
    intro n hn
    ext i hi
    simp [BitFields.getLsbD_lowMask, hi, ← BitVec.getLsbD_eq_getElem, Bool.and_comm]
  rcases hw with rfl | rfl | rfl | rfl
  · exact hmask 8 (by decide)
  · exact hmask 16 (by decide)
  · exact hmask 32 (by decide)
  · simp [narrow]

lemma performed_single (hperf : ∀ e ∈ newEvents s t, EventPerformed e) {e : MemoryEvent}
    (he : t.events = e :: s.events) : EventPerformed e := by
  apply hperf
  rw [newEvents_one he]
  exact List.mem_singleton_self e

lemma agrees_load (hs : Presents s raw i) (ht : t = s.load (fun s => s.readMemory w busRead) i.rd addr pc)
    (hperf : ∀ e ∈ newEvents s t, EventPerformed e) :
    StepsAgree s t (outcome s t (i.loadFrom addr (w / 8))) := by
  obtain ⟨read, hread⟩ : ∃ read, read = s.readMemory w busRead addr pc .read := ⟨_, rfl⟩
  have ht' : t = read.2.setReg i.rd (read.1.setWidth 64) := by rw [ht, Cpu.load, hread]
  have hev : t.events = read.2.events := by rw [ht']; rfl
  obtain ⟨e, he, _, hreq, hdata, hregs⟩ := performed_read busRead hread fun e he =>
    performed_single hperf (hev.trans he)
  have hnew := newEvents_one (hev.trans he)
  have hanswer : answer s t = read.1.setWidth 64 := by
    rw [answer, hnew, ← hdata]
    rfl
  have hreg : ∀ x, t.reg x = if x = i.rd then answer s t else s.reg x := by
    intro x
    rw [hanswer, ht']
    change (if x = i.rd then _ else read.2.registers.regs x) = _
    rw [hregs]
    rfl
  rw [outcome, perform_loadFrom]
  refine ⟨fun x h0 _ => ?_, ?_, ?_, ?_⟩
  · exact (hreg x).trans (written_eq _ _ _ h0).symm
  · rw [ht']
    exact congrArg (fun r => BitVec.setWidth 3 r.flags) hregs
  · rw [hreg, hs.postIncrementPc]
    simp only [eq_comm]
  · rw [hnew]
    simp [hreq]

lemma agrees_store (hw : w = 8 ∨ w = 16 ∨ w = 32 ∨ w = 64) (hs : Presents s raw i) {data : Word}
    (ht : t = s.writeMemory w busWrite addr (data.setWidth w) pc) (hperf : ∀ e ∈ newEvents s t, EventPerformed e) :
    StepsAgree s t (outcome s t (i.storeTo addr (w / 8) data)) := by
  obtain ⟨e, he, hreq, hregs, hflags⟩ := performed_write busWrite ht fun e he => performed_single hperf he
  rw [outcome, perform_storeTo]
  refine ⟨fun x _ _ => congrFun hregs x, congrArg (BitVec.setWidth 3) hflags, ?_, ?_⟩
  · exact (congrFun hregs 15).trans hs.postIncrementPc.symm
  · rw [newEvents_one he, narrow_eq hw]
    simp [hreq]

lemma agrees_push (hs : Presents s raw i) (h : i.lsOpcode = .push)
    (ht : t = (s.setReg i.rd (s.reg i.rd - 8)).writeMemory64 (s.reg i.rd - 8) (s.reg (instructionRs1 raw)) pc)
    (hperf : ∀ e ∈ newEvents s t, EventPerformed e) : StepsAgree s t (outcome s t i.executeLsReg) := by
  obtain ⟨e, he, hreq, hregs, hflags⟩ := performed_write MemoryBus.write64 ht fun e he => performed_single hperf he
  rw [outcome, perform_push _ _ _ _ h, hs.rdValue, hs.rs1Value, ← hs.rd]
  refine ⟨fun x h0 _ => ?_, congrArg (BitVec.setWidth 3) hflags, ?_, ?_⟩
  · exact (congrFun hregs x).trans (written_eq _ _ _ h0).symm
  · rw [hs.postIncrementPc]
    simp only [eq_comm (a := i.rd)]
    exact congrFun hregs 15
  · have hnew : newEvents s t = [e] := newEvents_one he
    rw [hnew]
    simp [hreq]

lemma agrees_pop (hs : Presents s raw i) (h : i.lsOpcode = .pop) {popped : Word × Cpu}
    (hpopped : popped = s.readMemory64 (s.reg i.rd) pc .read)
    (ht : t = (popped.2.setReg i.rs1 popped.1).setReg i.rd ((popped.2.setReg i.rs1 popped.1).reg i.rd + 8))
    (hperf : ∀ e ∈ newEvents s t, EventPerformed e) : StepsAgree s t (outcome s t i.executeLsReg) := by
  have hev : t.events = popped.2.events := by rw [ht]; rfl
  obtain ⟨e, he, _, hreq, hdata, hregs⟩ := performed_read MemoryBus.read64 hpopped fun e he =>
    performed_single hperf (hev.trans he)
  have hnew := newEvents_one (hev.trans he)
  have hanswer : answer s t = popped.1 := by
    rw [answer, hnew]
    exact hdata.trans (BitVec.setWidth_eq _)
  have hmiddle : ∀ x, (popped.2.setReg i.rs1 popped.1).reg x = if x = i.rs1 then answer s t else s.reg x := by
    intro x
    rw [hanswer]
    change (if x = i.rs1 then _ else popped.2.registers.regs x) = _
    rw [hregs]
    rfl
  have hreg : ∀ x, t.reg x =
      if x = i.rd then (if i.rd = i.rs1 then answer s t + 8 else s.reg i.rd + 8)
      else if x = i.rs1 then answer s t else s.reg x := by
    intro x
    refine (congrArg (fun u => Cpu.reg u x) ht).trans ?_
    change (if x = i.rd then (popped.2.setReg i.rs1 popped.1).reg i.rd + 8
      else (popped.2.setReg i.rs1 popped.1).reg x) = _
    rw [hmiddle, hmiddle]
    split_ifs <;> rfl
  rw [outcome, perform_pop _ _ _ _ h, hs.rdValue, ← hs.rd]
  refine ⟨fun x h0 _ => ?_, ?_, ?_, ?_⟩
  · rw [hreg]
    change _ = written (written s.registers.regs i.rs1 (answer s t)) i.rd _ x
    rw [written_eq _ _ _ h0, written_eq _ _ _ h0]
    rfl
  · rw [ht]
    exact congrArg (fun r => BitVec.setWidth 3 r.flags) hregs
  · rw [hreg, hs.postIncrementPc]
    simp only [eq_comm (a := (15 : Reg))]
  · rw [hnew]
    simp [hreq]

/-- The PC-relative `PUSH` and `POP`: the word read is written after the pointer register has moved. -/
lemma agrees_transfer {rd : Reg} {source delta : Word} {target : Word → Word} {o : ExecuteOutputs}
    (ht : t = s.transfer rd source delta target pc) (hperf : ∀ e ∈ newEvents s t, EventPerformed e)
    (ho : outcome s t o =
      { regs := written s.registers.regs rd (s.reg rd + delta)
        flags := s.registers.flags.setWidth 3
        nextPc := if rd = 15 then s.reg rd + delta else s.reg 15
        requests := [.read source 8, .write (target (s.reg rd + delta)) 8 (answer s t)] }) :
    StepsAgree s t (outcome s t o) := by
  obtain ⟨value, hvalue⟩ : ∃ value, value = s.readMemory64 source pc .read := ⟨_, rfl⟩
  obtain ⟨moved, hmoved⟩ : ∃ moved, moved = value.2.setReg rd (value.2.reg rd + delta) := ⟨_, rfl⟩
  have ht' : t = moved.writeMemory64 (target (moved.reg rd)) value.1 pc := by
    rw [ht, Cpu.transfer, hmoved, hvalue]
  have hmev : moved.events = value.2.events := by rw [hmoved]; rfl
  have hboth : ∀ e₁, value.2.events = e₁ :: s.events → ∃ e₂, newEvents s t = [e₂, e₁] := by
    intro e₁ he₁
    have hgrows : ∃ e₂, t.events = e₂ :: moved.events := by
      rw [ht']
      cases hm : moved.mapResult (target (moved.reg rd)) .write with
      | fault cause aux => exact ⟨_, Cpu.events_writeMemory_fault hm⟩
      | mapped physical => exact ⟨_, Cpu.events_writeMemory_mapped hm⟩
    obtain ⟨e₂, he₂⟩ := hgrows
    exact ⟨e₂, newEvents_eq [e₂, e₁] (by rw [he₂, hmev, he₁]; rfl)⟩
  obtain ⟨e₁, he₁, _, hreq₁, hdata, hregs⟩ := performed_read MemoryBus.read64 hvalue fun e he => by
    obtain ⟨e₂, hnew⟩ := hboth e he
    exact hperf e (by simp [hnew])
  obtain ⟨e, he, hreq₂, hregs', hflags⟩ := performed_write MemoryBus.write64 ht' fun e he => by
    have hnew' : newEvents s t = [e, e₁] := newEvents_eq [e, e₁] (by rw [he, hmev, he₁]; rfl)
    exact hperf e (by simp [hnew'])
  have hnew' : newEvents s t = [e, e₁] := newEvents_eq [e, e₁] (by rw [he, hmev, he₁]; rfl)
  have hanswer : answer s t = value.1 := by
    rw [answer, hnew']
    exact hdata.trans (BitVec.setWidth_eq _)
  have hmoved' : ∀ x, moved.reg x = if x = rd then s.reg rd + delta else s.reg x := by
    intro x
    refine (congrArg (fun u => Cpu.reg u x) hmoved).trans ?_
    change (if x = rd then value.2.registers.regs rd + delta else value.2.registers.regs x) = _
    rw [hregs]
    rfl
  have hreg : ∀ x, t.reg x = if x = rd then s.reg rd + delta else s.reg x := fun x =>
    (congrFun hregs' x).trans (hmoved' x)
  rw [ho]
  refine ⟨fun x h0 _ => ?_, ?_, ?_, ?_⟩
  · exact (hreg x).trans (written_eq _ _ _ h0).symm
  · refine congrArg (BitVec.setWidth 3) (hflags.trans ?_)
    rw [hmoved]
    exact congrArg (fun r => r.flags) hregs
  · rw [hreg]
    simp only [eq_comm (a := (15 : Reg))]
  · rw [hmoved', if_pos rfl] at hreq₂
    rw [hnew', hanswer]
    simp [hreq₁, hreq₂]

lemma agrees_result_iff {o : ExecuteOutputs} {rd : Reg} {result : Word} (ho : o.memoryStart = false)
    (hw : o.regWrite = true) (hi : o.regIndex = rd) (hv : o.regValue = result) (ht : t.events = s.events)
    (hreg : ∀ x, t.reg x = if x = rd then result else s.reg x)
    (hflags : t.registers.flags.setWidth 3 = if o.flagsWrite then o.flagsValue else s.registers.flags.setWidth 3) :
    StepsAgree s t (outcome s t o) ↔ (if 15 = rd then result else s.reg 15) = o.nextPc := by
  rw [outcome, perform_quiet _ _ _ ho, hw, hi, hv]
  constructor
  · intro h
    rw [← hreg]
    exact h.nextPc
  · intro h
    refine ⟨fun x h0 _ => ?_, hflags, (hreg 15).trans h, ?_⟩
    · exact (hreg x).trans (written_eq _ _ _ h0).symm
    · rw [newEvents_eq [] ht]
      rfl

lemma agrees_setReg_iff {o : ExecuteOutputs} {rd : Reg} {result : Word} (ht : t = s.setReg rd result)
    (ho : o.memoryStart = false) (hw : o.regWrite = true) (hi : o.regIndex = rd) (hv : o.regValue = result)
    (hf : o.flagsWrite = false) :
    StepsAgree s t (outcome s t o) ↔ (if 15 = rd then result else s.reg 15) = o.nextPc := by
  subst ht
  refine agrees_result_iff (t := s.setReg rd result) ho hw hi hv rfl (fun _ => rfl) ?_
  rw [hf]
  rfl

lemma agrees_unwritten {o : ExecuteOutputs} (ho : o.memoryStart = false) (hw : o.regWrite = false)
    (ht : t.events = s.events) (hreg : ∀ x, x ≠ 15 → t.reg x = s.reg x)
    (hflags : t.registers.flags.setWidth 3 = if o.flagsWrite then o.flagsValue else s.registers.flags.setWidth 3)
    (hpc : t.reg 15 = o.nextPc) : StepsAgree s t (outcome s t o) := by
  rw [outcome, perform_quiet _ _ _ ho, hw]
  refine ⟨fun x _ h15 => ?_, hflags, hpc, ?_⟩
  · rw [hreg x h15]
    simp [RegWrites.apply, Cpu.reg]
  · rw [newEvents_eq [] ht]
    rfl

end Accesses

section Groups

variable {s : Cpu} {raw : BitVec 16} {i : ExecuteInputs}

lemma lsCondition_eq (flags : Word) (op : LsOpcode) :
    lsCondition (flags.setWidth 3) op = Cpu.checkCondition flags op := by
  have hz : (flags.setWidth 3 : Flags).getLsbD 0 = (flags &&& 1 != 0) := by
    rw [BitVec.getLsbD_setWidth]
    exact (BitFields.and_bit_ne_zero flags 0 (by decide)).symm
  have hc : (flags.setWidth 3 : Flags).getLsbD 1 = (flags &&& 2 != 0) := by
    rw [BitVec.getLsbD_setWidth]
    exact (BitFields.and_bit_ne_zero flags 1 (by decide)).symm
  have hs : (flags.setWidth 3 : Flags).getLsbD 2 = (flags &&& 4 != 0) := by
    rw [BitVec.getLsbD_setWidth]
    exact (BitFields.and_bit_ne_zero flags 2 (by decide)).symm
  cases op <;> simp only [lsCondition, Cpu.checkCondition, hz, hc, hs]

lemma agrees_lsReg (hs : Presents s raw i) (h : instructionTop2 raw = 0)
    (hperf : ∀ e ∈ newEvents s (s.dispatchInstruction (.decode raw)), EventPerformed e) :
    StepsAgree s (s.dispatchInstruction (.decode raw)) (outcome s (s.dispatchInstruction (.decode raw)) i.outputs) := by
  have hop : i.lsOpcode = LsOpcode.ofBits (raw.extractLsb' 10 4) := by
    rw [ExecuteInputs.lsOpcode, hs.instruction]
    rfl
  have ho : i.outputs = i.executeLsReg := ExecuteInputs.outputs_of_lsReg hs.valid (by rw [hs.instruction, h])
  have hd : s.dispatchInstruction (.decode raw) = s.dispatchLSReg (.decode raw) := by
    rw [decode_lsReg h]
    rfl
  rw [hd] at hperf ⊢
  rw [ho]
  obtain ⟨t, ht⟩ : ∃ t, t = s.dispatchLSReg (.decode raw) := ⟨_, rfl⟩
  rw [← ht] at hperf ⊢
  rw [Cpu.dispatchLSReg, decode_lsReg h] at ht
  simp only [← hop, ← hs.addr] at ht
  rw [← hs.rd, ← hs.rs1] at ht
  have hjump : (if Cpu.checkCondition s.registers.flags i.lsOpcode = true then s.setReg i.rd i.lsAddr else s) = t →
      StepsAgree s t (outcome s t { i.idle with
        regWrite := i.lsJumpTaken, regValue := i.lsAddr
        nextPc := if i.lsJumpTaken ∧ i.rd = 15 then i.lsAddr else i.postIncrementPc }) := by
    intro hj
    have htaken : i.lsJumpTaken = Cpu.checkCondition s.registers.flags i.lsOpcode := by
      rw [ExecuteInputs.lsJumpTaken, hs.flags, lsCondition_eq]
    rw [htaken]
    cases hc : Cpu.checkCondition s.registers.flags i.lsOpcode with
    | true =>
      rw [hc, if_pos rfl] at hj
      apply (agrees_setReg_iff hj.symm rfl rfl rfl rfl rfl).2
      simp [hs.postIncrementPc, eq_comm]
    | false =>
      rw [hc, if_neg Bool.false_ne_true] at hj
      subst hj
      exact agrees_unwritten rfl rfl rfl (fun _ _ => rfl) rfl (by simp [hs.postIncrementPc])
  cases hopc : i.lsOpcode with
  | load =>
    rw [hopc] at ht
    rw [ExecuteInputs.executeLsReg, hopc]
    exact agrees_load (w := 64) hs ht hperf
  | byteLoad =>
    rw [hopc] at ht
    rw [ExecuteInputs.executeLsReg, hopc]
    exact agrees_load (w := 8) hs ht hperf
  | shortLoad =>
    rw [hopc] at ht
    rw [ExecuteInputs.executeLsReg, hopc]
    exact agrees_load (w := 16) hs ht hperf
  | wordLoad =>
    rw [hopc] at ht
    rw [ExecuteInputs.executeLsReg, hopc]
    exact agrees_load (w := 32) hs ht hperf
  | store =>
    rw [hopc] at ht
    rw [ExecuteInputs.executeLsReg, hopc, hs.rdValue, ← hs.rd]
    exact agrees_store (w := 64) (.inr (.inr (.inr rfl))) hs (by rw [ht, BitVec.setWidth_eq]; rfl) hperf
  | byteStore =>
    rw [hopc] at ht
    rw [ExecuteInputs.executeLsReg, hopc, hs.rdValue, ← hs.rd]
    exact agrees_store (w := 8) (.inl rfl) hs ht hperf
  | shortStore =>
    rw [hopc] at ht
    rw [ExecuteInputs.executeLsReg, hopc, hs.rdValue, ← hs.rd]
    exact agrees_store (w := 16) (.inr (.inl rfl)) hs ht hperf
  | wordStore =>
    rw [hopc] at ht
    rw [ExecuteInputs.executeLsReg, hopc, hs.rdValue, ← hs.rd]
    exact agrees_store (w := 32) (.inr (.inr (.inl rfl))) hs ht hperf
  | push =>
    rw [hopc] at ht
    have hpush : t = (s.setReg i.rd (s.reg i.rd - 8)).writeMemory64 (s.reg i.rd - 8) (s.reg (instructionRs1 raw))
        (s.reg 15 - 2) := by
      rw [ht, ← hs.rs1]
      exact congrArg (Cpu.writeMemory64 _ · _ _) (if_pos rfl)
    exact agrees_push hs hopc hpush hperf
  | pop =>
    rw [hopc] at ht
    exact agrees_pop hs hopc rfl ht hperf
  | move =>
    rw [hopc] at ht
    rw [ExecuteInputs.executeLsReg, hopc]
    apply (agrees_setReg_iff ht rfl rfl rfl rfl rfl).2
    simp [hs.postIncrementPc, eq_comm]
  | jumpZ | jumpC | jumpS | jumpGT | jumpLT =>
    rw [hopc] at ht
    rw [ExecuteInputs.executeLsReg, hopc]
    exact hjump (by rw [ht, hopc])

lemma agrees_lsPcRel (hs : Presents s raw i) (h : instructionTop2 raw = 1)
    (hperf : ∀ e ∈ newEvents s (s.dispatchInstruction (.decode raw)), EventPerformed e) :
    StepsAgree s (s.dispatchInstruction (.decode raw)) (outcome s (s.dispatchInstruction (.decode raw)) i.outputs) := by
  have hop : i.lsOpcode = LsOpcode.ofBits (raw.extractLsb' 10 4) := by
    rw [ExecuteInputs.lsOpcode, hs.instruction]
    rfl
  have ho : i.outputs = i.executeLsPcRel := ExecuteInputs.outputs_of_lsPcRel hs.valid (by rw [hs.instruction, h])
  rw [ho]
  by_cases hj : 11 ≤ raw.extractLsb' 10 4
  · have hjumps : ∀ b : BitVec 4, 11 ≤ b → LsOpcode.ofBits b = .jumpZ ∨ LsOpcode.ofBits b = .jumpC ∨
        LsOpcode.ofBits b = .jumpS ∨ LsOpcode.ofBits b = .jumpGT ∨ LsOpcode.ofBits b = .jumpLT := by decide
    have hcase := hjumps _ hj
    rw [← hop] at hcase
    have ht : s.dispatchInstruction (.decode raw) =
        if Cpu.checkCondition s.registers.flags i.lsOpcode then s.setReg 15 i.lsJumpTarget else s := by
      rw [decode_lsPcRel_jump h hj, ExecuteInputs.lsJumpTarget, hs.distance 0 10 (by decide), Cpu.dispatchInstruction,
        Cpu.dispatchLSPCRel]
      simp only [← hop]
      rcases hcase with hc | hc | hc | hc | hc <;> rw [hc] <;> rfl
    have hout : i.executeLsPcRel =
        { i.idle with nextPc := if i.lsJumpTaken then i.lsJumpTarget else i.postIncrementPc } := by
      rw [ExecuteInputs.executeLsPcRel]
      rcases hcase with hc | hc | hc | hc | hc <;> rw [hc]
    have htaken : i.lsJumpTaken = Cpu.checkCondition s.registers.flags i.lsOpcode := by
      rw [ExecuteInputs.lsJumpTaken, hs.flags, lsCondition_eq]
    rw [ht, hout, htaken]
    cases Cpu.checkCondition s.registers.flags i.lsOpcode with
    | true => exact agrees_unwritten rfl rfl rfl (fun _ h15 => if_neg h15) rfl rfl
    | false => exact agrees_unwritten rfl rfl rfl (fun _ _ => rfl) rfl hs.postIncrementPc.symm
  · have hplain : ∀ b : BitVec 4, ¬ 11 ≤ b → LsOpcode.ofBits b ≠ .jumpZ ∧ LsOpcode.ofBits b ≠ .jumpC ∧
        LsOpcode.ofBits b ≠ .jumpS ∧ LsOpcode.ofBits b ≠ .jumpGT ∧ LsOpcode.ofBits b ≠ .jumpLT := by decide
    obtain ⟨hz, hc, hsign, hgt, hlt⟩ := hplain _ hj
    rw [← hop] at hz hc hsign hgt hlt
    obtain ⟨t, ht⟩ : ∃ t, t = s.dispatchInstruction (.decode raw) := ⟨_, rfl⟩
    rw [← ht] at hperf ⊢
    have heff : i.lsPcEffective = s.reg 15 + ((raw.extractLsb' 4 6).signExtend 16).signExtend 64 * 2 :=
      hs.distance 4 6 (by decide)
    have hdispatch : t = s.dispatchLSPCRel
        ⟨1, i.rd, raw.extractLsb' 10 4, 0, 0, (raw.extractLsb' 4 6).signExtend 16, 0, 0, false, 0⟩ := by
      rw [ht, decode_lsPcRel h hj, hs.rd]
      rfl
    rw [Cpu.dispatchLSPCRel] at hdispatch
    simp only [← hop, ← heff] at hdispatch
    have hvalue : i.operandA = s.reg i.rd := by rw [hs.operandA, hs.rd]
    cases hopc : i.lsOpcode with
    | load =>
      rw [hopc] at hdispatch
      rw [ExecuteInputs.executeLsPcRel, hopc]
      exact agrees_load (w := 64) hs hdispatch hperf
    | byteLoad =>
      rw [hopc] at hdispatch
      rw [ExecuteInputs.executeLsPcRel, hopc]
      exact agrees_load (w := 8) hs hdispatch hperf
    | shortLoad =>
      rw [hopc] at hdispatch
      rw [ExecuteInputs.executeLsPcRel, hopc]
      exact agrees_load (w := 16) hs hdispatch hperf
    | wordLoad =>
      rw [hopc] at hdispatch
      rw [ExecuteInputs.executeLsPcRel, hopc]
      exact agrees_load (w := 32) hs hdispatch hperf
    | store =>
      rw [hopc] at hdispatch
      rw [ExecuteInputs.executeLsPcRel, hopc, hvalue]
      exact agrees_store (w := 64) (.inr (.inr (.inr rfl))) hs (by rw [hdispatch, BitVec.setWidth_eq]; rfl) hperf
    | byteStore =>
      rw [hopc] at hdispatch
      rw [ExecuteInputs.executeLsPcRel, hopc, hvalue]
      exact agrees_store (w := 8) (.inl rfl) hs hdispatch hperf
    | shortStore =>
      rw [hopc] at hdispatch
      rw [ExecuteInputs.executeLsPcRel, hopc, hvalue]
      exact agrees_store (w := 16) (.inr (.inl rfl)) hs hdispatch hperf
    | wordStore =>
      rw [hopc] at hdispatch
      rw [ExecuteInputs.executeLsPcRel, hopc, hvalue]
      exact agrees_store (w := 32) (.inr (.inr (.inl rfl))) hs hdispatch hperf
    | push =>
      rw [hopc] at hdispatch
      have htransfer : t = s.transfer i.rd i.lsPcEffective (-8) id (s.reg 15 - 2) :=
        hdispatch.trans (Emulator.pushFrom_eq _ _ _)
      apply agrees_transfer htransfer hperf
      rw [outcome, perform_pushFrom _ _ _ _ hopc, ExecuteInputs.lsPcPushAddr, hvalue, hs.postIncrementPc,
        BitVec.sub_eq_add_neg]
      rfl
    | pop =>
      rw [hopc] at hdispatch
      have htransfer : t = s.transfer i.rd (s.reg i.rd) 8 (fun _ => i.lsPcEffective) (s.reg 15 - 2) := hdispatch
      apply agrees_transfer htransfer hperf
      rw [outcome, perform_popTo _ _ _ _ hopc, hvalue, hs.postIncrementPc]
    | move =>
      rw [hopc] at hdispatch
      rw [ExecuteInputs.executeLsPcRel, hopc]
      apply (agrees_setReg_iff hdispatch rfl rfl rfl rfl rfl).2
      simp [hs.postIncrementPc, eq_comm]
    | jumpZ => exact absurd hopc hz
    | jumpC => exact absurd hopc hc
    | jumpS => exact absurd hopc hsign
    | jumpGT => exact absurd hopc hgt
    | jumpLT => exact absurd hopc hlt

/-- The bits that a shifted immediate adds to a register. -/
def ldiBits (raw : BitVec 16) : Word :=
  if instructionLdiShift raw = 3 then (instructionLdiImm8 raw ++ (0 : BitVec 24)).signExtend 64
  else (instructionLdiImm8 raw).setWidth 64 <<< ((instructionLdiShift raw).toNat * 8)

/-- The load of an immediate into `R15` leaves the PC at the next instruction. -/
def LdiKeepsPc (s : Cpu) (raw : BitVec 16) : Prop :=
  if instructionLdiShift raw = 0 then (instructionLdiImm8 raw).setWidth 64 = s.reg 15
  else ldiBits raw &&& ~~~s.reg 15 = 0

/-- The value that a load of an immediate leaves in its register. -/
def ldiResult (s : Cpu) (raw : BitVec 16) : Word :=
  if instructionLdiShift raw = 0 then (instructionLdiImm8 raw).setWidth 64
  else s.reg (instructionRd raw) ||| ldiBits raw

lemma ldiValue_eq (hs : Presents s raw i) : i.ldiValue = ldiResult s raw := by
  have hshift : ∀ shift : BitVec 2, shift = 0 ∨ shift = 1 ∨ shift = 2 ∨ shift = 3 := by decide
  rw [ExecuteInputs.ldiValue, hs.instruction, hs.operandA, ldiResult, ldiBits]
  rcases hshift (instructionLdiShift raw) with h | h | h | h <;> rw [h] <;> rfl

lemma sign_byte : ∀ imm8 : BitVec 8,
    (if imm8 &&& 0x80 ≠ 0 then imm8.setWidth 64 <<< 24 ||| 0xFFFFFFFF00000000#64 else imm8.setWidth 64 <<< 24) =
      (imm8 ++ (0 : BitVec 24)).signExtend 64 := by decide +kernel

lemma dispatchLDI_reg (h : instructionTop2 raw = 2) (x : Reg) :
    (s.dispatchLDI (.decode raw)).reg x = if x = instructionRd raw then ldiResult s raw else s.reg x := by
  rw [decode_ldi h, Cpu.dispatchLDI, ldiResult, ldiBits]
  simp only
  by_cases h0 : instructionLdiShift raw = 0
  · rw [if_pos h0, if_pos h0]
    rfl
  · rw [if_neg h0, if_neg h0]
    by_cases h3 : instructionLdiShift raw = 3
    · rw [if_pos h3, ← sign_byte]
      by_cases hsign : instructionLdiImm8 raw &&& 0x80 ≠ 0
      · rw [if_pos ⟨h3, hsign⟩, if_pos hsign, h3, ← BitVec.or_assoc]
        change (if x = instructionRd raw then (if instructionRd raw = instructionRd raw then _ else _) ||| _
          else if x = instructionRd raw then _ else s.reg x) = _
        rw [if_pos rfl]
        split <;> rfl
      · rw [if_neg fun hn => hsign hn.2, if_neg hsign, h3]
        rfl
    · rw [if_neg h3, if_neg fun hn => h3 hn.1]
      rfl

lemma agrees_ldi (hs : Presents s raw i) (h : instructionTop2 raw = 2) :
    StepsAgree s (s.dispatchInstruction (.decode raw)) (outcome s (s.dispatchInstruction (.decode raw)) i.outputs) ↔
      (instructionRd raw = 15 → LdiKeepsPc s raw) := by
  have ht : s.dispatchInstruction (.decode raw) = s.dispatchLDI (.decode raw) := by
    rw [decode_ldi h]
    rfl
  have hkept : (s.dispatchLDI (.decode raw)).events = s.events ∧
      (s.dispatchLDI (.decode raw)).registers.flags = s.registers.flags := by
    rw [Cpu.dispatchLDI]
    simp only
    split_ifs <;> exact ⟨rfl, rfl⟩
  rw [ht, ExecuteInputs.outputs_of_ldi hs.valid (by rw [hs.instruction, h])]
  refine (agrees_result_iff rfl rfl hs.rd (ldiValue_eq hs) hkept.1 (dispatchLDI_reg h) ?_).trans ?_
  · rw [hkept.2]
    rfl
  · change (if 15 = instructionRd raw then ldiResult s raw else s.reg 15) = i.postIncrementPc ↔ _
    rw [hs.postIncrementPc]
    by_cases hr : instructionRd raw = 15
    · rw [if_pos hr.symm, ldiResult, LdiKeepsPc, hr]
      by_cases h0 : instructionLdiShift raw = 0
      · simp only [h0, if_true, true_implies]
      · simp only [h0, if_false, true_implies]
        exact BitFields.or_eq_left_iff _ _
    · rw [if_neg fun he => hr he.symm]
      simp only [hr, false_implies]

lemma agrees_jump (hs : Presents s raw i) (h : instructionTop2 raw = 3) (h7 : instructionTop3 raw = 7) :
    StepsAgree s (s.dispatchInstruction (.decode raw))
      (outcome s (s.dispatchInstruction (.decode raw)) i.outputs) := by
  have ht : s.dispatchInstruction (.decode raw) =
      s.setReg 15 (s.reg 15 + ((raw.extractLsb' 0 13).signExtend 16).signExtend 64 * 2) := by
    rw [decode_jump h h7]
    rfl
  rw [ht, ExecuteInputs.outputs_of_jump hs.valid (by rw [hs.instruction, h]) (by rw [hs.instruction, h7]),
    hs.distance 0 13 (by decide)]
  exact agrees_unwritten rfl rfl rfl (fun _ h15 => if_neg h15) rfl rfl

lemma flagValue_eq (registers : Emulator.Registers) (result : Word) (carry : Bool) :
    (registers.updateFlags result carry).flags.setWidth 3 = flagValue result carry := by
  have hsign : (result >>> 63 ≠ 0) ↔ result.msb = true := by
    have hlt := result.isLt
    rw [ne_eq, ← BitVec.toNat_inj, BitVec.toNat_ushiftRight, Nat.shiftRight_eq_div_pow, BitVec.msb_eq_decide,
      decide_eq_true_iff]
    change ¬ result.toNat / 2 ^ 63 = 0 ↔ _
    omega
  rw [Emulator.Registers.updateFlags, flagValue]
  simp only [hsign]
  by_cases hz : result = 0
  · subst hz
    cases carry <;> rfl
  · have hb : (result == 0) = false := beq_false_of_ne hz
    rw [if_neg hz, hb]
    cases result.msb <;> cases carry <;> rfl

lemma agrees_alu_iff {t : Cpu} {result : Word} {carry : Bool} (hs : Presents s raw i)
    (ht : t = s.aluResult (instructionRd raw) result carry) :
    StepsAgree s t (outcome s t (i.alu result carry)) ↔ (instructionRd raw = 15 → result = s.reg 15) := by
  have hev : t.events = s.events := by rw [ht]; rfl
  have hreg : ∀ x, t.reg x = if x = instructionRd raw then result else s.reg x := by
    intro x
    rw [ht]
    rfl
  have hflags : t.registers.flags.setWidth 3 = flagValue result carry := by
    rw [ht]
    exact flagValue_eq s.registers result carry
  refine (agrees_result_iff (o := i.alu result carry) rfl rfl hs.rd rfl hev hreg hflags).trans ?_
  change (if 15 = instructionRd raw then result else s.reg 15) = i.postIncrementPc ↔ _
  rw [hs.postIncrementPc]
  by_cases hr : instructionRd raw = 15
  · simp [hr]
  · rw [if_neg fun he => hr he.symm]
    simp only [hr, false_implies]

lemma shiftIndex_eq {b : Word} (hb : i.operandB = b) : i.shiftIndex = min 64 b.toNat := by
  rw [ExecuteInputs.shiftIndex, hb]
  by_cases h : 64 ≤ b.toNat
  · rw [min_eq_left h]
    exact if_pos h
  · rw [min_eq_right (by omega)]
    refine (if_neg h).trans ?_
    rw [BitVec.toNat_setWidth]
    omega

lemma sum_eq (a b : Word) :
    (a.setWidth 65 + b.setWidth 65).setWidth 64 = a + b ∧
      (a.setWidth 65 + b.setWidth 65).msb = decide (a + b < a) := by
  have ha := a.isLt
  have hb := b.isLt
  constructor
  · apply BitVec.eq_of_toNat_eq
    simp only [BitVec.toNat_setWidth, BitVec.toNat_add]
    omega
  · rw [BitVec.msb_eq_decide, decide_eq_decide, BitVec.lt_def]
    simp only [BitVec.toNat_setWidth, BitVec.toNat_add]
    omega

/-- An operation on `R15` and another operand leaves the PC at the next instruction. -/
def GpKeepsPc (pc b : Word) (imm4 : ℕ) : GpOpcode → Prop
  | .add | .sub | .xor => b = 0
  | .and => pc &&& ~~~b = 0
  | .or => b &&& ~~~pc = 0
  | .sll | .srl => b = 0 ∨ pc = 0
  | .sra => b = 0 ∨ pc = 0 ∨ pc = BitVec.allOnes 64
  | .slli | .srli => imm4 = 0 ∨ pc = 0
  | .srai => imm4 = 0 ∨ pc = 0 ∨ pc = BitVec.allOnes 64
  | _ => True

lemma shiftLeftLogical_eq (rd : Reg) (a : Word) (count : ℕ) :
    s.shiftLeftLogical rd a count =
      s.aluResult rd (if count = 0 then a else a <<< count)
        (if count = 0 then false else a >>> (64 - count) != 0) := by
  rw [Cpu.shiftLeftLogical]
  split <;> rfl

lemma shiftRightLogical_eq (rd : Reg) (a : Word) (count : ℕ) :
    s.shiftRightLogical rd a count =
      s.aluResult rd (if count = 0 then a else a >>> count)
        (if count = 0 then false else a >>> (count - 1) &&& 1 != 0) := by
  rw [Cpu.shiftRightLogical]
  split <;> rfl

lemma shiftRightArithmetic_eq (rd : Reg) (a : Word) (count : ℕ) :
    s.shiftRightArithmetic rd a count =
      s.aluResult rd (if count = 0 then a else a.sshiftRight count)
        (if count = 0 then false else a >>> (count - 1) &&& 1 != 0) := by
  rw [Cpu.shiftRightArithmetic]
  split <;> rfl

/-- The shifts of the emulator by a register, in the terms of the execute stage. -/
lemma dispatchShift_eq (a b : Word) (rd : Reg) :
    ((if 64 ≤ b.toNat then s.aluResult rd 0 false else s.shiftLeftLogical rd a b.toNat) =
        s.aluResult rd (sllResult a (min 64 b.toNat)) (sllCarry a (min 64 b.toNat))) ∧
      ((if 64 ≤ b.toNat then s.aluResult rd 0 false else s.shiftRightLogical rd a b.toNat) =
        s.aluResult rd (srlResult a (min 64 b.toNat)) (srxCarry a (min 64 b.toNat))) ∧
      ((if 64 ≤ b.toNat then s.aluResult rd (if a.msb then BitVec.allOnes 64 else 0) false
          else s.shiftRightArithmetic rd a b.toNat) =
        s.aluResult rd (sraResult a (min 64 b.toNat)) (srxCarry a (min 64 b.toNat))) := by
  by_cases h : 64 ≤ b.toNat
  · rw [min_eq_left h]
    simp only [h, if_true]
    exact ⟨rfl, rfl, rfl⟩
  · have hne : b.toNat ≠ 64 := by omega
    rw [min_eq_right (by omega), shiftLeftLogical_eq, shiftRightLogical_eq, shiftRightArithmetic_eq]
    simp only [h, if_false, sllResult, sllCarry, srlResult, srxCarry, sraResult, hne, or_false]
    exact ⟨trivial, trivial, trivial⟩

lemma toNat_eq_zero_iff (b : Word) : b.toNat = 0 ↔ b = 0 := by
  rw [← BitVec.toNat_inj]
  rfl

/-- A register shift by the count of a word is one by nothing, by everything or by a count between. -/
lemma count_cases (b : Word) :
    b = 0 ∧ min 64 b.toNat = 0 ∨ b ≠ 0 ∧ min 64 b.toNat = 64 ∨
      b ≠ 0 ∧ min 64 b.toNat ≠ 0 ∧ min 64 b.toNat ≠ 64 := by
  have hzero := toNat_eq_zero_iff b
  by_cases hb : b = 0
  · exact .inl ⟨hb, by rw [hzero.2 hb]; rfl⟩
  · have hpos : b.toNat ≠ 0 := fun h => hb (hzero.1 h)
    by_cases h64 : 64 ≤ b.toNat
    · exact .inr (.inl ⟨hb, min_eq_left h64⟩)
    · exact .inr (.inr ⟨hb, by omega, by omega⟩)

lemma sllResult_eq_iff (pc b : Word) : sllResult pc (min 64 b.toNat) = pc ↔ b = 0 ∨ pc = 0 := by
  rw [sllResult]
  rcases count_cases b with ⟨hb, hn⟩ | ⟨hb, hn⟩ | ⟨hb, h0, h64⟩
  · simp [hb]
  · simp only [hn, hb, false_or]
    exact eq_comm
  · rw [if_neg h0, if_neg h64, BitFields.shiftLeft_eq_self_iff _ (Nat.pos_of_ne_zero h0)]
    simp only [hb, false_or]
    rfl

lemma srlResult_eq_iff (pc b : Word) : srlResult pc (min 64 b.toNat) = pc ↔ b = 0 ∨ pc = 0 := by
  rw [srlResult]
  rcases count_cases b with ⟨hb, hn⟩ | ⟨hb, hn⟩ | ⟨hb, h0, h64⟩
  · simp [hb]
  · simp only [hn, hb, false_or]
    exact eq_comm
  · rw [if_neg h0, if_neg h64, BitFields.ushiftRight_eq_self_iff _ (Nat.pos_of_ne_zero h0)]
    simp only [hb, false_or]
    rfl

lemma sraResult_eq_iff (pc b : Word) :
    sraResult pc (min 64 b.toNat) = pc ↔ b = 0 ∨ pc = 0 ∨ pc = BitVec.allOnes 64 := by
  rw [sraResult]
  rcases count_cases b with ⟨hb, hn⟩ | ⟨hb, hn⟩ | ⟨hb, h0, h64⟩
  · simp [hb]
  · simp only [hn, hb, false_or]
    change (if pc.msb = true then BitVec.allOnes 64 else 0) = pc ↔ _
    by_cases hm : pc.msb = true
    · rw [if_pos hm]
      refine ⟨fun h => .inr h.symm, ?_⟩
      rintro (rfl | rfl)
      · exact absurd hm (by decide)
      · rfl
    · rw [if_neg hm]
      refine ⟨fun h => .inl h.symm, ?_⟩
      rintro (rfl | rfl)
      · rfl
      · exact absurd (by decide) hm
  · rw [if_neg h0, if_neg h64, BitFields.sshiftRight_eq_self_iff _ (Nat.pos_of_ne_zero h0)]
    simp only [hb, false_or]
    rfl

lemma immediate_iff {pc shifted : Word} {kept : Prop} (n : ℕ) (h : 0 < n → (shifted = pc ↔ kept)) :
    (if n = 0 then pc else shifted) = pc ↔ n = 0 ∨ kept := by
  by_cases hn : n = 0
  · simp [hn]
  · rw [if_neg hn, h (Nat.pos_of_ne_zero hn)]
    simp only [hn, false_or]

/-- No trap, special register, `IRET`, `STOP`, load-linked or store-conditional instruction. -/
def PlainOpcode : GpOpcode → Prop
  | .llr | .scr | .syscall | .lsr | .ssr | .iret | .stop => False
  | _ => True

/-- Result and carry of an ALU operation on two operands, and on the immediate of the shifts by one. -/
def aluOutcome (a b : Word) (imm4 : ℕ) : GpOpcode → Word × Bool
  | .add => (a + b, decide (a + b < a))
  | .sub | .test => (a - b, decide (a < b))
  | .and => (a &&& b, false)
  | .or => (a ||| b, false)
  | .xor => (a ^^^ b, false)
  | .sll => (sllResult a (min 64 b.toNat), sllCarry a (min 64 b.toNat))
  | .srl => (srlResult a (min 64 b.toNat), srxCarry a (min 64 b.toNat))
  | .sra => (sraResult a (min 64 b.toNat), srxCarry a (min 64 b.toNat))
  | .slli => (if imm4 = 0 then a else a <<< imm4, slliCarry a imm4)
  | .srli => (if imm4 = 0 then a else a >>> imm4, srxImmCarry a imm4)
  | .srai => (if imm4 = 0 then a else a.sshiftRight imm4, srxImmCarry a imm4)
  | _ => (0, false)

lemma aluOutcome_eq_iff {pc b : Word} {imm4 : ℕ} {op : GpOpcode} (hplain : PlainOpcode op) (htest : op ≠ .test) :
    (aluOutcome pc b imm4 op).1 = pc ↔ GpKeepsPc pc b imm4 op := by
  cases op with
  | add => exact add_eq_left
  | sub => exact sub_eq_self
  | test => exact absurd rfl htest
  | and => exact BitFields.and_eq_left_iff _ _
  | or => exact BitFields.or_eq_left_iff _ _
  | xor => exact BitFields.xor_eq_left_iff _ _
  | sll => exact sllResult_eq_iff _ _
  | srl => exact srlResult_eq_iff _ _
  | sra => exact sraResult_eq_iff _ _
  | slli => exact immediate_iff _ fun hn => BitFields.shiftLeft_eq_self_iff _ hn
  | srli => exact immediate_iff _ fun hn => BitFields.ushiftRight_eq_self_iff _ hn
  | srai => exact immediate_iff _ fun hn => BitFields.sshiftRight_eq_self_iff _ hn
  | llr | scr | syscall | lsr | ssr | iret | stop => exact hplain.elim

section Alu

variable {op : GpOpcode} {r : Word × Bool}

lemma dispatch_alu (h : instructionTop2 raw = 3) (h7 : instructionTop3 raw ≠ 7)
    (hop : instructionGpOpcode raw = some op) (hplain : PlainOpcode op)
    (hr : aluOutcome (s.reg (instructionRd raw)) (s.reg (instructionRs1 raw)) (instructionGpImm4 raw).toNat op = r) :
    s.dispatchInstruction (.decode raw) =
      if op = .test then { s with registers := s.registers.updateFlags r.1 r.2 }
      else s.aluResult (instructionRd raw) r.1 r.2 := by
  subst hr
  obtain ⟨t, ht⟩ : ∃ t, t = s.dispatchInstruction (.decode raw) := ⟨_, rfl⟩
  rw [← ht]
  have hdispatch : t = s.dispatchGP (.decode raw) := by
    rw [ht, decode_gp h h7]
    rfl
  rw [Cpu.dispatchGP, decode_gp h h7] at hdispatch
  have hop' : GpOpcode.ofBits (raw.extractLsb' 8 5) = some op := hop
  simp only [hop'] at hdispatch
  obtain ⟨hsll, hsrl, hsra⟩ :=
    dispatchShift_eq (s := s) (s.reg (instructionRd raw)) (s.reg (instructionRs1 raw)) (instructionRd raw)
  cases op with
  | add | sub | test | and | or | xor => exact hdispatch
  | sll => exact hdispatch.trans hsll
  | srl => exact hdispatch.trans hsrl
  | sra => exact hdispatch.trans hsra
  | slli => exact hdispatch.trans (shiftLeftLogical_eq _ _ _)
  | srli => exact hdispatch.trans (shiftRightLogical_eq _ _ _)
  | srai => exact hdispatch.trans (shiftRightArithmetic_eq _ _ _)
  | llr | scr | syscall | lsr | ssr | iret | stop => exact hplain.elim

lemma outputs_alu {a b : Word} (hv : i.valid = true) (hi : i.instruction = raw) (ha : i.operandA = a) (hb : i.operandB = b)
    (h : instructionTop2 raw = 3) (h7 : instructionTop3 raw ≠ 7) (hop : instructionGpOpcode raw = some op)
    (hplain : PlainOpcode op) (hr : aluOutcome a b (instructionGpImm4 raw).toNat op = r) :
    i.outputs =
      if op = .test then { i.idle with flagsWrite := true, flagsValue := flagValue r.1 r.2 } else i.alu r.1 r.2 := by
  subst hr
  have hout : i.outputs = i.executeGp :=
    ExecuteInputs.outputs_of_gp hv (by rw [hi, h]) (by rwa [hi])
  rw [ExecuteInputs.executeGp, hi, hop] at hout
  simp only [ha, hb] at hout
  cases op with
  | add =>
    obtain ⟨hsum, hcarry⟩ := sum_eq a b
    simp only [ExecuteInputs.sumValue, ha, hb, hsum, hcarry] at hout
    exact hout
  | sub | test =>
    simp only [ExecuteInputs.subValue, ha, hb] at hout
    exact hout
  | and | or | xor => exact hout
  | sll | srl | sra =>
    rw [shiftIndex_eq hb] at hout
    exact hout
  | slli | srli | srai =>
    rw [ExecuteInputs.imm4, hi] at hout
    exact hout
  | llr | scr | syscall | lsr | ssr | iret | stop => exact hplain.elim

end Alu

/-- The ALU instructions: all agree but for a result in `R15`, where the emulator jumps. -/
lemma agrees_gp {op : GpOpcode} (hs : Presents s raw i) (h : instructionTop2 raw = 3) (h7 : instructionTop3 raw ≠ 7)
    (hop : instructionGpOpcode raw = some op) (hplain : PlainOpcode op) :
    StepsAgree s (s.dispatchInstruction (.decode raw)) (outcome s (s.dispatchInstruction (.decode raw)) i.outputs) ↔
      (instructionRd raw = 15 →
        GpKeepsPc (s.reg 15) (s.reg (instructionRs1 raw)) (instructionGpImm4 raw).toNat op) := by
  rw [outputs_alu hs.valid hs.instruction hs.operandA hs.operandB h h7 hop hplain rfl]
  have hdispatch := dispatch_alu (s := s) h h7 hop hplain rfl
  generalize s.dispatchInstruction (.decode raw) = t at hdispatch ⊢
  by_cases htest : op = .test
  · rw [if_pos htest] at hdispatch ⊢
    subst htest
    rw [hdispatch]
    refine iff_of_true ?_ fun _ => trivial
    exact agrees_unwritten rfl rfl rfl (fun _ _ => rfl) (flagValue_eq _ _ _) hs.postIncrementPc.symm
  · rw [if_neg htest] at hdispatch ⊢
    refine (agrees_alu_iff hs hdispatch).trans (forall_congr' fun hr => ?_)
    rw [hr]
    exact aluOutcome_eq_iff hplain htest

end Groups

def PlainInstruction (raw : BitVec 16) : Prop :=
  instructionTop2 raw = 3 → instructionTop3 raw ≠ 7 → ∃ op, instructionGpOpcode raw = some op ∧ PlainOpcode op

/-- The instruction writes no immediate and no ALU result to `R15` other than the next PC. -/
structure KeepsPc (s : Cpu) (raw : BitVec 16) : Prop where
  ldi : instructionTop2 raw = 2 → instructionRd raw = 15 → LdiKeepsPc s raw
  gp : instructionTop2 raw = 3 → instructionTop3 raw ≠ 7 → instructionRd raw = 15 →
    ∀ op, instructionGpOpcode raw = some op →
      GpKeepsPc (s.reg 15) (s.reg (instructionRs1 raw)) (instructionGpImm4 raw).toNat op

/-- The emulator and the cores agree on a plain instruction whose accesses are performed, unless it writes an
immediate or an ALU result to `R15`. -/
theorem step_equivalence_iff (s : Cpu) (raw : BitVec 16) (i : ExecuteInputs) (h0 : s.reg 0 = 0)
    (hplain : PlainInstruction raw)
    (hperf : ∀ e ∈ newEvents s (s.dispatchInstruction (.decode raw)), EventPerformed e) :
    StepsAgree s (s.dispatchInstruction (.decode raw))
        (instructionStep i raw s.registers.regs (s.registers.flags.setWidth 3)
          (answer s (s.dispatchInstruction (.decode raw)))) ↔
      KeepsPc s raw := by
  have hs := presents_alone raw i h0
  change StepsAgree s _ (outcome s _ (i.decoded (.alone raw s.registers.regs _)).outputs) ↔ _
  rcases ExecuteInputs.group_cases (i.decoded (.alone raw s.registers.regs (s.registers.flags.setWidth 3))) with
    h | h | h | ⟨h, h7⟩ | ⟨h, h7⟩
  · have hldi : instructionTop2 raw ≠ 2 := fun h2 => absurd (h.symm.trans h2) (by decide)
    have hgp : instructionTop2 raw ≠ 3 := fun h3 => absurd (h.symm.trans h3) (by decide)
    exact iff_of_true (agrees_lsReg hs h hperf) ⟨fun h2 => absurd h2 hldi, fun h3 => absurd h3 hgp⟩
  · have hldi : instructionTop2 raw ≠ 2 := fun h2 => absurd (h.symm.trans h2) (by decide)
    have hgp : instructionTop2 raw ≠ 3 := fun h3 => absurd (h.symm.trans h3) (by decide)
    exact iff_of_true (agrees_lsPcRel hs h hperf) ⟨fun h2 => absurd h2 hldi, fun h3 => absurd h3 hgp⟩
  · have hgp : instructionTop2 raw ≠ 3 := fun h3 => absurd (h.symm.trans h3) (by decide)
    exact (agrees_ldi hs h).trans ⟨fun hk => ⟨fun _ => hk, fun h3 => absurd h3 hgp⟩, fun hk => hk.ldi h⟩
  · have hldi : instructionTop2 raw ≠ 2 := fun h2 => absurd (h.symm.trans h2) (by decide)
    exact iff_of_true (agrees_jump hs h h7) ⟨fun h2 => absurd h2 hldi, fun _ hn => absurd h7 hn⟩
  · have hldi : instructionTop2 raw ≠ 2 := fun h2 => absurd (h.symm.trans h2) (by decide)
    obtain ⟨op, hop, hplain⟩ := hplain h h7
    refine (agrees_gp hs h h7 hop hplain).trans ⟨fun hk => ⟨fun h2 => absurd h2 hldi, fun _ _ hr op' hop' => ?_⟩,
      fun hk hr => hk.gp h h7 hr op hop⟩
    rw [Option.some.inj (hop'.symm.trans hop)]
    exact hk hr

/-- `R2` points to mapped memory. -/
def stepCpu : Cpu := Emulator.sampleCpu fun r => if r = 15 then 0x2002 else if r = 1 then 8 else if r = 2 then 0x100 else 0

def idleInputs : ExecuteInputs := ⟨false, 0, 0, 0, 0, 0, 0, 0, 0, 0, false, 0, 0, false, false⟩

/-- `LOAD R15, [R2]` jumps to the same place in both. -/
theorem step_equivalence_iff_sample :
    StepsAgree stepCpu (stepCpu.dispatchInstruction (.decode 0x002F))
      (instructionStep idleInputs 0x002F stepCpu.registers.regs (stepCpu.registers.flags.setWidth 3)
        (answer stepCpu (stepCpu.dispatchInstruction (.decode 0x002F)))) :=
  (step_equivalence_iff stepCpu 0x002F idleInputs rfl (fun h => absurd h (by decide)) (by decide +kernel)).2
    ⟨fun h => absurd h (by decide), fun h => absurd h (by decide)⟩

/-- `ADD R15, R1` jumps in the emulator only. -/
theorem add_jumps_in_emulator_only : ¬ ∀ (s : Cpu) (raw : BitVec 16) (i : ExecuteInputs), s.reg 0 = 0 →
    PlainInstruction raw → (∀ e ∈ newEvents s (s.dispatchInstruction (.decode raw)), EventPerformed e) →
      StepsAgree s (s.dispatchInstruction (.decode raw))
        (instructionStep i raw s.registers.regs (s.registers.flags.setWidth 3)
          (answer s (s.dispatchInstruction (.decode raw)))) := by
  intro h
  have hpc := (h stepCpu 0xC01F idleInputs rfl (fun _ _ => ⟨.add, by decide, trivial⟩) (by decide +kernel)).nextPc
  revert hpc
  decide +kernel

end Little64.Hdl

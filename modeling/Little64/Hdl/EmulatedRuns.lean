import Little64.Emulator.Isolation
import Little64.Hdl.BasicInstruction

/-! The emulator as a machine over bytes: with paging and interrupts off, one of its cycles does what the instruction
does in the cores, to the registers and to memory. -/

namespace Little64.Hdl

open Emulator (Reg Cpu MemoryEvent MemoryBus Instruction LsOpcode GpOpcode OverlayWrite newEvents newEvents_eq)
open ByteMemory LittleEndian

/-- The bytes that data accesses find. -/
def contents (bus : MemoryBus) : Memory 64 := fun x => bus.read8 x .read

/-- What the emulator has, as the instructions see it. -/
def emulated (s : Cpu) (retired : ℕ) : Machine where
  regs := s.registers.regs
  flags := s.registers.flags.setWidth 3
  memory := contents s.bus
  retired := retired

section Accesses

variable {s t u : Cpu} {w : ℕ} {addr pc : Word} {added more : List MemoryEvent}

/-- A read helper of the bus returns the bytes of memory. -/
def ReadsBytes (busRead : MemoryBus → Word → AccessType → BitVec w) : Prop :=
  ∀ bus addr, (busRead bus addr .read).setWidth 64 = load 64 (contents bus) addr (w / 8)

lemma setWidth_assemble {u : ℕ} (f : ℕ → Byte) (n : ℕ) (hw : 8 * n ≤ w) :
    (assemble w f n).setWidth u = assemble u f n := by
  apply BitVec.eq_of_getLsbD_eq
  intro k hk
  rw [BitVec.getLsbD_setWidth, getLsbD_assemble, getLsbD_assemble, decide_eq_true hk]
  by_cases hn : k < 8 * n
  · rw [decide_eq_true (by omega), Bool.true_and]
  · rw [decide_eq_false hn, Bool.and_false, Bool.false_and, Bool.and_false]
    rfl

lemma reads8 : ReadsBytes MemoryBus.read8 := by
  intro bus addr
  have hone : bus.read8 addr .read = assemble 8 (fun i => contents bus (addr + BitVec.ofNat 64 i)) 1 := by
    rw [assemble_one, BitVec.add_zero]
    rfl
  rw [hone]
  exact setWidth_assemble _ 1 (by decide)

lemma reads16 : ReadsBytes MemoryBus.read16 := by
  intro bus addr
  rw [MemoryBus.read16_bytes]
  exact setWidth_assemble _ 2 (by decide)

lemma reads32 : ReadsBytes MemoryBus.read32 := by
  intro bus addr
  rw [MemoryBus.read32_bytes]
  exact setWidth_assemble _ 4 (by decide)

lemma reads64 : ReadsBytes MemoryBus.read64 := by
  intro bus addr
  rw [MemoryBus.read64_bytes]
  exact setWidth_assemble _ 8 (by decide)

/-- What a plain instruction does beside the registers and flags: it performs accesses, which serve memory in turn. -/
structure Moves (s t : Cpu) (added : List MemoryEvent) : Prop where
  events : t.events = added ++ s.events
  running : t.isRunning = s.isRunning
  control : t.registers.cpuControl = s.registers.cpuControl
  performed : ∀ e ∈ added, EventPerformed e
  served : contents t.bus =
    (added.reverse.map eventRequest).foldl (Request.serve s.bus.writable) (contents s.bus)
  writable : t.bus.writable = s.bus.writable
  answered : ∀ e ∈ added.getLast?, e.access ≠ .write → eventData e = load 64 (contents s.bus) e.virtualAddr e.width

lemma Moves.quiet (hevents : t.events = s.events) (hrunning : t.isRunning = s.isRunning)
    (hcontrol : t.registers.cpuControl = s.registers.cpuControl) (hbus : t.bus = s.bus) : Moves s t [] where
  events := hevents
  running := hrunning
  control := hcontrol
  performed := fun _ he => absurd he List.not_mem_nil
  served := by rw [hbus]; rfl
  writable := by rw [hbus]
  answered := fun _ he => by cases he

lemma Moves.trans (h : Moves s t added) (h' : Moves t u more) : Moves s u (more ++ added) where
  events := by rw [h'.events, h.events, List.append_assoc]
  running := h'.running.trans h.running
  control := h'.control.trans h.control
  performed := fun e he => (List.mem_append.1 he).elim (h'.performed e) (h.performed e)
  served := by
    rw [h'.served, h.writable, h.served, List.reverse_append, List.map_append, List.foldl_append]
  writable := h'.writable.trans h.writable
  answered := by
    intro e he
    cases hadded : added with
    | nil =>
      have hserved := h.served
      rw [hadded] at hserved he
      rw [List.append_nil] at he
      have hanswered := h'.answered e he
      rw [hserved] at hanswered
      exact hanswered
    | cons a l =>
      rw [List.getLast?_append_of_ne_nil _ (by rw [hadded]; exact List.cons_ne_nil a l)] at he
      exact h.answered e he

lemma Moves.setReg (h : Moves s t added) (rd : Reg) (value : Word) : Moves s (t.setReg rd value) added :=
  ⟨h.events, h.running, h.control, h.performed, h.served, h.writable, h.answered⟩

lemma Moves.of_setReg {rd : Reg} {value : Word} (h : Moves (s.setReg rd value) t added) : Moves s t added :=
  ⟨h.events, h.running, h.control, h.performed, h.served, h.writable, h.answered⟩

lemma contents_overlay {bus bus' : MemoryBus} {n : ℕ} {value : BitVec w} (hn : n ≤ 8)
    (h : bus.Overlay addr n value bus') :
    contents bus' = masked bus.writable (store (contents bus) addr n (value.setWidth 64)) (contents bus) := by
  funext x
  rw [contents, h.byte, masked]
  by_cases hin : InRange addr n x
  · have hlt : (x - addr).toNat < n := hin
    rw [store_of_inRange _ _ _ _ hin, byteAt_setWidth _ _ (by omega)]
    cases bus.writable x <;> simp [hin, contents]
  · rw [store_of_not_inRange _ _ _ _ hin, if_neg fun h => hin h.1]
    exact (ite_self _).symm

section Memory

variable (hpaging : s.registers.isPagingEnabled = false)
include hpaging

lemma mapAddress_eq {access : AccessType} (ha : ¬ (access = .execute ∧ addr &&& 1 ≠ 0)) :
    s.mapAddress addr access pc = (.mapped addr, s) := by
  rw [Cpu.mapAddress, if_neg ha, hpaging]
  rfl

lemma readMemory_eq (busRead : MemoryBus → Word → AccessType → BitVec w) {access : AccessType}
    (ha : ¬ (access = .execute ∧ addr &&& 1 ≠ 0)) (hread : access ≠ .write) :
    s.readMemory w busRead addr pc access = (busRead s.bus addr access,
      s.record ⟨access, addr, w / 8, s.registers.isUserMode,
        .performed addr ((busRead s.bus addr access).setWidth 64)⟩) := by
  rw [Cpu.readMemory, mapAddress_eq hpaging ha]
  cases access with
  | read | execute => rfl
  | write => exact absurd rfl hread

variable (addr pc) in
lemma Moves.read {busRead : MemoryBus → Word → AccessType → BitVec w} (hread : ReadsBytes busRead) :
    ∃ added, Moves s (s.readMemory w busRead addr pc .read).2 added := by
  rw [readMemory_eq hpaging busRead (fun h => by cases h.1) (by decide)]
  refine ⟨[_], rfl, rfl, rfl, ?_, rfl, rfl, ?_⟩
  · intro e he
    rw [List.mem_singleton.1 he]
    exact ⟨_, _, rfl⟩
  · intro e he _
    rw [← Option.some.inj he]
    exact hread s.bus addr

lemma Moves.load {busRead : MemoryBus → Word → AccessType → BitVec w} (hread : ReadsBytes busRead) (rd : Reg) :
    ∃ added, Moves s (s.load (fun s => s.readMemory w busRead) rd addr pc) added := by
  obtain ⟨added, h⟩ := Moves.read addr pc hpaging hread
  exact ⟨added, h.setReg rd _⟩

variable (addr pc) in
lemma Moves.write {busWrite : MemoryBus → Word → BitVec w → AccessType → MemoryBus} (hwrite : OverlayWrite busWrite)
    (value : BitVec w) : ∃ added, Moves s (s.writeMemory w busWrite addr value pc) added := by
  have hkept : ∀ (v : Cpu) (width : ℕ), v.invalidateReservationOnWrite addr width =
      { v with registers := { v.registers with
        llReservationValid := (v.invalidateReservationOnWrite addr width).registers.llReservationValid } } := by
    intro v width
    rw [Cpu.invalidateReservationOnWrite]
    simp only
    split_ifs <;> rfl
  have hwidth : w / 8 ≤ 8 := by
    have := hwrite.1
    omega
  rw [Cpu.writeMemory, mapAddress_eq hpaging fun h => by cases h.1]
  simp only
  rw [hkept]
  refine ⟨[⟨.write, addr, w / 8, s.registers.isUserMode, .performed addr (value.setWidth 64)⟩],
    rfl, rfl, rfl, ?_, ?_, ?_, ?_⟩
  · intro e he
    rw [List.mem_singleton.1 he]
    exact ⟨_, _, rfl⟩
  · exact contents_overlay hwidth (hwrite.2 s.bus addr value)
  · funext x
    exact (hwrite.2 s.bus addr value).writable x
  · intro e he hne
    rw [← Option.some.inj he] at hne
    exact absurd rfl hne

variable (pc) in
/-- The PC-relative `PUSH` and `POP`. -/
lemma Moves.transfer (rd : Reg) (source delta : Word) (target : Word → Word) :
    ∃ added, Moves s (s.transfer rd source delta target pc) added := by
  obtain ⟨added, h⟩ := Moves.read source pc hpaging reads64
  obtain ⟨value, hvalue⟩ : ∃ value, value = s.readMemory64 source pc .read := ⟨_, rfl⟩
  have hread : Moves s value.2 added := by rw [hvalue]; exact h
  have hmiddle := hread.setReg rd (value.2.reg rd + delta)
  have hpaging' : (value.2.setReg rd (value.2.reg rd + delta)).registers.isPagingEnabled = false := by
    rw [Emulator.Registers.isPagingEnabled_eq] at hpaging ⊢
    rw [hmiddle.control, hpaging]
  obtain ⟨more, h'⟩ := Moves.write (target ((value.2.setReg rd (value.2.reg rd + delta)).reg rd)) pc
    hpaging' Emulator.overlayWrite64 value.1
  refine ⟨more ++ added, ?_⟩
  rw [Cpu.transfer, ← hvalue]
  exact hmiddle.trans h'

end Memory

end Accesses

section Dispatch

variable {s : Cpu} (hpaging : s.registers.isPagingEnabled = false)

lemma moves_setReg (s : Cpu) (rd : Reg) (value : Word) : ∃ added, Moves s (s.setReg rd value) added :=
  ⟨[], .quiet rfl rfl rfl rfl⟩

lemma moves_jump (s : Cpu) (taken : Prop) [Decidable taken] (rd : Reg) (value : Word) :
    ∃ added, Moves s (if taken then s.setReg rd value else s) added := by
  split
  · exact moves_setReg s rd value
  · exact ⟨[], .quiet rfl rfl rfl rfl⟩

include hpaging

lemma moves_lsReg (instr : Instruction) : ∃ added, Moves s (s.dispatchLSReg instr) added := by
  simp only [Cpu.dispatchLSReg]
  cases LsOpcode.ofBits instr.opcodeLs with
  | load => exact Moves.load hpaging reads64 instr.rd
  | byteLoad => exact Moves.load hpaging reads8 instr.rd
  | shortLoad => exact Moves.load hpaging reads16 instr.rd
  | wordLoad => exact Moves.load hpaging reads32 instr.rd
  | store => exact Moves.write _ _ hpaging Emulator.overlayWrite64 _
  | byteStore => exact Moves.write _ _ hpaging ⟨by decide, MemoryBus.write8_overlay⟩ _
  | shortStore => exact Moves.write _ _ hpaging ⟨by decide, MemoryBus.write16_overlay⟩ _
  | wordStore => exact Moves.write _ _ hpaging ⟨by decide, MemoryBus.write32_overlay⟩ _
  | push =>
    obtain ⟨added, h⟩ := Moves.write (s := s.setReg instr.rd (s.reg instr.rd - 8)) _ _ hpaging
      Emulator.overlayWrite64 (s.reg instr.rs1)
    exact ⟨added, h.of_setReg⟩
  | pop =>
    obtain ⟨added, h⟩ := Moves.read _ _ hpaging reads64
    exact ⟨added, (h.setReg _ _).setReg _ _⟩
  | move => exact moves_setReg _ _ _
  | _ => exact moves_jump _ _ _ _

lemma moves_lsPcRel (instr : Instruction) : ∃ added, Moves s (s.dispatchLSPCRel instr) added := by
  simp only [Cpu.dispatchLSPCRel]
  cases LsOpcode.ofBits instr.opcodeLs with
  | load => exact Moves.load hpaging reads64 instr.rd
  | byteLoad => exact Moves.load hpaging reads8 instr.rd
  | shortLoad => exact Moves.load hpaging reads16 instr.rd
  | wordLoad => exact Moves.load hpaging reads32 instr.rd
  | store => exact Moves.write _ _ hpaging Emulator.overlayWrite64 _
  | byteStore => exact Moves.write _ _ hpaging ⟨by decide, MemoryBus.write8_overlay⟩ _
  | shortStore => exact Moves.write _ _ hpaging ⟨by decide, MemoryBus.write16_overlay⟩ _
  | wordStore => exact Moves.write _ _ hpaging ⟨by decide, MemoryBus.write32_overlay⟩ _
  | push =>
    obtain ⟨added, h⟩ := Moves.transfer (s.reg 15 - 2) hpaging instr.rd
      (s.reg 15 + instr.pcRel.signExtend 64 * 2) (-8) id
    rw [← Emulator.pushFrom_eq] at h
    exact ⟨added, h⟩
  | pop => exact Moves.transfer _ hpaging _ _ _ fun _ => _
  | move => exact moves_setReg _ _ _
  | _ => exact moves_jump _ _ _ _

lemma moves_dispatch {raw : BitVec 16} (hplain : PlainInstruction raw) :
    ∃ added, Moves s (s.dispatchInstruction (.decode raw)) added := by
  rcases ExecuteInputs.group_cases (idleInputs.decoded (.alone raw s.registers.regs 0)) with
    (h : instructionTop2 raw = 0) | (h : instructionTop2 raw = 1) | (h : instructionTop2 raw = 2) |
    ⟨(h : instructionTop2 raw = 3), (h7 : instructionTop3 raw = 7)⟩ |
    ⟨(h : instructionTop2 raw = 3), (h7 : instructionTop3 raw ≠ 7)⟩
  · have ht : s.dispatchInstruction (.decode raw) = s.dispatchLSReg (.decode raw) := by
      rw [decode_lsReg h]
      rfl
    rw [ht]
    exact moves_lsReg hpaging _
  · have ht : s.dispatchInstruction (.decode raw) = s.dispatchLSPCRel (.decode raw) := by
      by_cases hj : 11 ≤ raw.extractLsb' 10 4
      · rw [decode_lsPcRel_jump h hj]
        rfl
      · rw [decode_lsPcRel h hj]
        rfl
    rw [ht]
    exact moves_lsPcRel hpaging _
  · have ht : s.dispatchInstruction (.decode raw) = s.dispatchLDI (.decode raw) := by
      rw [decode_ldi h]
      rfl
    rw [ht, Cpu.dispatchLDI]
    simp only
    split_ifs <;> exact ⟨[], .quiet rfl rfl rfl rfl⟩
  · have ht : s.dispatchInstruction (.decode raw) =
        s.setReg 15 (s.reg 15 + ((raw.extractLsb' 0 13).signExtend 16).signExtend 64 * 2) := by
      rw [decode_jump h h7]
      rfl
    rw [ht]
    exact moves_setReg _ _ _
  · obtain ⟨op, hop, hplain⟩ := hplain h h7
    rw [dispatch_alu h h7 hop hplain rfl]
    split <;> exact ⟨[], .quiet rfl rfl rfl rfl⟩

end Dispatch

section Answers

variable {i : ExecuteInputs} {regs : Reg → Word} {flags : Flags}

/-- What a store leaves does not depend on what memory answers. -/
lemma perform_of_write (hv : i.valid = true) (hplain : PlainInstruction i.instruction)
    (hstart : i.outputs.memoryStart = true) (hwrite : i.outputs.memory.write = true) (a a' : Word) :
    i.outputs.perform regs flags a = i.outputs.perform regs flags a' := by
  rcases i.group_cases with h | h | h | ⟨h, h7⟩ | ⟨h, h7⟩
  · rw [ExecuteInputs.outputs_of_lsReg hv h] at hstart hwrite ⊢
    cases hop : i.lsOpcode with
    | load | byteLoad | shortLoad | wordLoad | pop =>
      rw [ExecuteInputs.executeLsReg, hop] at hwrite
      cases hwrite
    | store | byteStore | shortStore | wordStore =>
      rw [ExecuteInputs.executeLsReg, hop]
      simp only [perform_storeTo]
    | push => rw [perform_push _ _ _ _ hop, perform_push _ _ _ _ hop]
    | move | jumpZ | jumpC | jumpS | jumpGT | jumpLT =>
      rw [ExecuteInputs.executeLsReg, hop] at hstart
      cases hstart
  · rw [ExecuteInputs.outputs_of_lsPcRel hv h] at hstart hwrite ⊢
    cases hop : i.lsOpcode with
    | load | byteLoad | shortLoad | wordLoad | push | pop =>
      rw [ExecuteInputs.executeLsPcRel, hop] at hwrite
      cases hwrite
    | store | byteStore | shortStore | wordStore =>
      rw [ExecuteInputs.executeLsPcRel, hop]
      simp only [perform_storeTo]
    | move | jumpZ | jumpC | jumpS | jumpGT | jumpLT =>
      rw [ExecuteInputs.executeLsPcRel, hop] at hstart
      cases hstart
  · rw [ExecuteInputs.outputs_of_ldi hv h] at hstart
    cases hstart
  · rw [ExecuteInputs.outputs_of_jump hv h h7] at hstart
    cases hstart
  · obtain ⟨op, hop, hplain⟩ := hplain h h7
    rw [outputs_alu hv rfl rfl rfl h h7 hop hplain rfl] at hstart
    split at hstart <;> cases hstart

/-- The emulator's accesses answer what memory holds, where the instruction has a use for it. -/
lemma perform_of_moves {u t : Cpu} {added : List MemoryEvent} (hv : i.valid = true)
    (hplain : PlainInstruction i.instruction) (hmoves : Moves u t added)
    (hrequests : (newEvents u t).reverse.map eventRequest = (i.outputs.perform regs flags (answer u t)).requests) :
    i.outputs.perform regs flags (answer u t) = i.outputs.perform regs flags
      (load 64 (contents u.bus) i.outputs.memoryAddr i.outputs.memory.widthBytes) := by
  rw [newEvents_eq added hmoves.events] at hrequests
  cases hstart : i.outputs.memoryStart with
  | false => rw [perform_quiet _ _ _ hstart, perform_quiet _ _ _ hstart]
  | true =>
    cases hwrite : i.outputs.memory.write with
    | true => exact perform_of_write hv hplain hstart hwrite _ _
    | false =>
      have hfirst : ((added.reverse.map eventRequest)).head? =
          some (.read i.outputs.memoryAddr i.outputs.memory.widthBytes) := by
        rw [hrequests, ExecuteOutputs.perform, hstart]
        simp only [if_true, MemoryOp.requests, MemoryOp.request, hwrite, Bool.false_eq_true, if_false]
        split <;> rfl
      rw [List.head?_map, List.head?_reverse, Option.map_eq_some_iff] at hfirst
      obtain ⟨e, he, hrequest⟩ := hfirst
      have hanswered := hmoves.answered e he
      have hanswer : answer u t = eventData e := by
        rw [answer, newEvents_eq added hmoves.events, he]
        rfl
      rw [hanswer]
      rw [eventRequest] at hrequest
      split at hrequest
      · cases hrequest
      · next haccess =>
        rw [hanswered haccess]
        injection hrequest with haddr hwidth
        rw [haddr, hwidth]

end Answers

section Cycles

variable {s : Cpu} {n : ℕ}

/-- The emulator runs, with paging and interrupts off. -/
structure Ready (s : Cpu) : Prop where
  running : s.isRunning = true
  zero : s.reg 0 = 0
  paging : s.registers.isPagingEnabled = false
  interrupts : s.registers.isInterruptEnabled = false

def fetchEvent (s : Cpu) : MemoryEvent :=
  ⟨.execute, s.reg 15, 2, s.registers.isUserMode,
    .performed (s.reg 15) ((s.bus.read16 (s.reg 15) .execute).setWidth 64)⟩

/-- The emulator behind the fetch of an instruction. -/
def atDispatch (s : Cpu) : Cpu := ((s.setReg 0 0).record (fetchEvent s)).setReg 15 (s.reg 15 + 2)

lemma readMemory16_fetch (h : Ready s) (heven : (s.reg 15).getLsbD 0 = false) (n : ℕ) :
    (s.setReg 0 0).readMemory16 (s.reg 15) (s.reg 15) .execute =
      ((emulated s n).fetched, (s.setReg 0 0).record (fetchEvent s)) := by
  have hlow : s.reg 15 &&& 1 = 0 := by
    rw [show (1 : Word) = 1#64 from rfl, BitVec.and_one_eq_setWidth_ofBool_getLsbD, heven]
    rfl
  have hread : s.bus.read16 (s.reg 15) .execute = (emulated s n).fetched := MemoryBus.read16_bytes _ _ _
  rw [Cpu.readMemory16, readMemory_eq (s := s.setReg 0 0) h.paging _ (fun hne => hne.2 hlow) (by decide), ← hread]
  rfl

lemma entry_atDispatch (h : Ready s) (n : ℕ) : (atDispatch s).registers.regs = (emulated s n).entry := by
  funext x
  change (if x = 15 then s.reg 15 + 2 else if x = 0 then 0 else s.reg x) = if x = 15 then s.reg 15 + 2 else s.reg x
  by_cases h0 : x = 0
  · rw [if_pos h0, h0, h.zero]
  · rw [if_neg h0]

/-- A cycle behind which the emulator still runs dispatches the instruction at the PC. -/
lemma cycle_eq (h : Ready s) (heven : (s.reg 15).getLsbD 0 = false)
    (hplain : PlainInstruction (emulated s n).fetched) (hnext : s.cycle.isRunning = true) :
    s.cycle = ((atDispatch s).dispatchInstruction (.decode (emulated s n).fetched)).setReg 0 0 := by
  obtain ⟨t, ht⟩ : ∃ t, t = (atDispatch s).dispatchInstruction (.decode (emulated s n).fetched) := ⟨_, rfl⟩
  obtain ⟨added, hmoves⟩ := moves_dispatch (s := atDispatch s) h.paging hplain
  rw [← ht] at hmoves ⊢
  have hinterrupts : t.registers.isInterruptEnabled = false := by
    have hs := h.interrupts
    rw [Emulator.Registers.isInterruptEnabled] at hs ⊢
    rw [hmoves.control]
    exact hs
  obtain ⟨entered, hcycle⟩ : ∃ entered : Cpu, s.cycle =
      if t.isRunning && t.reg 15 == s.reg 15 && !t.registers.isInterruptEnabled then { t with isRunning := false }
      else if t.registers.isInterruptEnabled then entered
      else t.setReg 0 0 := by
    rw [Cpu.cycle, h.running]
    simp only [readMemory16_fetch h heven n]
    rw [show ((s.setReg 0 0).record (fetchEvent s)).isRunning = true from h.running, ht]
    exact ⟨_, rfl⟩
  rw [hinterrupts] at hcycle
  rw [hcycle] at hnext ⊢
  split
  · next hself =>
    rw [if_pos hself] at hnext
    cases hnext
  · rfl

/-- An instruction that both execute alike: plain, and with no immediate for the PC. -/
structure Machine.Alike (m : Machine) : Prop extends m.Plain where
  immediate : instructionTop2 m.fetched = 2 → instructionRd m.fetched ≠ 15

/-- A cycle of the emulator is a step of the machine. -/
theorem emulated_cycle (h : Ready s) (hm : (emulated s n).Alike) (hnext : s.cycle.isRunning = true) (i : ExecuteInputs) :
    Ready s.cycle ∧ s.cycle.bus.writable = s.bus.writable ∧
      emulated s.cycle (n + 1) = (emulated s n).step s.bus.writable i := by
  have hcycle := cycle_eq h hm.even hm.plain hnext
  obtain ⟨t, ht⟩ : ∃ t, t = (atDispatch s).dispatchInstruction (.decode (emulated s n).fetched) := ⟨_, rfl⟩
  obtain ⟨added, hmoves⟩ := moves_dispatch (s := atDispatch s) h.paging hm.plain
  rw [← ht] at hcycle hmoves
  have hperformed : ∀ e ∈ newEvents (atDispatch s) t, EventPerformed e := by
    rw [newEvents_eq added hmoves.events]
    exact hmoves.performed
  have hkeeps : KeepsPc (atDispatch s) (emulated s n).fetched :=
    ⟨fun h2 h15 => absurd h15 (hm.immediate h2),
      fun h3 h7 h15 => absurd (.inr (.inr ⟨h3, h7, .inl h15⟩)) hm.operands⟩
  have hzero : (atDispatch s).reg 0 = 0 := rfl
  have hagree := (step_equivalence_iff (atDispatch s) (emulated s n).fetched i hzero hm.plain
    (by rw [← ht]; exact hperformed)).2 hkeeps
  rw [← ht, entry_atDispatch h n] at hagree
  have hresult := perform_of_moves (i := (emulated s n).executeInputs i) rfl hm.plain hmoves hagree.requests
  obtain ⟨r, hr⟩ : ∃ r, r = ((emulated s n).executeInputs i).outputs.perform (emulated s n).entry (emulated s n).flags
    (answer (atDispatch s) t) := ⟨_, rfl⟩
  have hstep : (emulated s n).step s.bus.writable i = (emulated s n).leave s.bus.writable r :=
    congrArg (Machine.leave s.bus.writable (emulated s n)) (hresult.symm.trans hr.symm)
  have hagree : StepsAgree (atDispatch s) t r := by rw [hr]; exact hagree
  have hserved := hmoves.served
  rw [← newEvents_eq added hmoves.events, hagree.requests] at hserved
  rw [hcycle]
  refine ⟨⟨?_, rfl, ?_, ?_⟩, hmoves.writable, Machine.ext ?_ ?_ ?_ ?_⟩
  · exact hmoves.running.trans h.running
  · have hs := h.paging
    rw [Emulator.Registers.isPagingEnabled_eq] at hs ⊢
    exact (congrArg (BitVec.getLsbD · 16) hmoves.control).trans hs
  · have hs := h.interrupts
    rw [Emulator.Registers.isInterruptEnabled] at hs ⊢
    exact (congrArg (fun control : Word => control &&& 1 != 0) hmoves.control).trans hs
  · funext x
    by_cases h0 : x = 0
    · rw [h0, Machine.step_zero]
      exact h.zero.symm
    · rw [hstep]
      change (if x = 0 then 0 else t.reg x) = if x = 15 then r.nextPc else r.regs x
      rw [if_neg h0]
      by_cases h15 : x = 15
      · rw [if_pos h15, h15, hagree.nextPc]
      · rw [if_neg h15, hagree.regs x h0 h15]
  · rw [hstep]
    exact hagree.flags
  · rw [hstep]
    exact hserved
  · rfl

lemma running_of_cycle (h : s.cycle.isRunning = true) : s.isRunning = true := by
  by_contra hstopped
  rw [Bool.not_eq_true] at hstopped
  rw [Cpu.cycle, hstopped] at h
  exact Bool.noConfusion (hstopped.symm.trans h)

lemma running_of_le {k : ℕ} (hk : k ≤ n) (h : (Cpu.cycle^[n] s).isRunning = true) :
    (Cpu.cycle^[k] s).isRunning = true := by
  induction hk with
  | refl => exact h
  | step _ ih =>
    rw [Function.iterate_succ_apply'] at h
    exact ih (running_of_cycle h)

/-- Whole runs of the emulator. -/
theorem emulated_run (h : Ready s) (i : ExecuteInputs) (n : ℕ) (hm : ∀ k < n, (emulated (Cpu.cycle^[k] s) k).Alike)
    (hrunning : (Cpu.cycle^[n] s).isRunning = true) :
    Ready (Cpu.cycle^[n] s) ∧ (Cpu.cycle^[n] s).bus.writable = s.bus.writable ∧
      emulated (Cpu.cycle^[n] s) n = (emulated s 0).run s.bus.writable i n := by
  induction n with
  | zero => exact ⟨h, rfl, rfl⟩
  | succ n ih =>
    rw [Function.iterate_succ_apply'] at hrunning ⊢
    obtain ⟨hready, hwritable, hrun⟩ := ih (fun k hk => hm k (hk.trans (Nat.lt_succ_self n))) (running_of_cycle hrunning)
    obtain ⟨hready', hwritable', hstep⟩ := emulated_cycle hready (hm n (Nat.lt_succ_self n)) hrunning i
    refine ⟨hready', hwritable'.trans hwritable, ?_⟩
    rw [hstep, hwritable, hrun]
    rfl

end Cycles

end Little64.Hdl

import Little64.Hdl.BasicInstruction
import Little64.Hdl.FrontendCoherence

/-! Runs of the basic core over a memory that answers when it likes: from one instruction to the next. -/

namespace Little64.Hdl

open Emulator (Reg)
open ByteMemory LeadsTo LittleEndian

/-- The buses report no error, and answer every access some time. -/
structure Answering {c : BasicConfig} (writable : Word → Bool) (t₀ : BasicSystem c) (env : ℕ → BasicEnvironment c) :
    Prop where
  iErr : ∀ n, (env n).iErr = false
  dErr : ∀ n, (env n).dErr = false
  iAck : ∀ n, (BasicSystem.after writable t₀ env n).core.iBusCyc = true → ∃ k, n ≤ k ∧ (env k).iAck = true
  dAck : ∀ n, (BasicSystem.after writable t₀ env n).core.dBusCyc = true → ∃ k, n ≤ k ∧ (env k).dAck = true

/-- The core and its memory have what the instructions left, with paging and interrupts off. -/
structure Holds {c : BasicConfig} (m : Machine) (t : BasicSystem c) : Prop where
  regs : t.core.regs = m.regs
  zero : m.regs 0 = 0
  flags : t.core.flags = m.flags
  memory : t.memory = m.memory
  commits : t.commits = m.retired
  paging : t.core.specialRegs.cpuControl.getLsbD 16 = false
  interrupts : t.core.specialRegs.cpuControl.getLsbD 0 = false

/-- The core is in a state of its sequencer, in the first cycle of none of the second beats. -/
structure Rests {c : BasicConfig} (state : CoreState) (m : Machine) (t : BasicSystem c) : Prop extends Holds m t where
  state : t.core.state = state
  split : t.core.splitFirstCycle = false

namespace BasicCore

variable {c : BasicConfig} (s : BasicCore c)

/-- The load/store unit with the same access. -/
def lsu : Lsu :=
  ⟨.first, s.pending.addr, s.pending.widthBytes, s.pending.memWrite, s.pending.storeValue, s.splitFirstData, 0⟩

variable {s}

lemma baseSel_eq (h : s.pending.Sized) : s.baseSel = s.lsu.baseSel := by
  rcases h with h | h | h | h <;> rw [baseSel, Lsu.baseSel, h, show s.lsu.latchedWidth = _ from h] <;> rfl

lemma firstBeatSel_eq (h : s.pending.Sized) : s.firstBeatSel = s.lsu.firstBeatSel := by
  rw [firstBeatSel, shiftedSel, baseSel_eq h]
  rfl

lemma secondBeatSel_eq (h : s.pending.Sized) : s.secondBeatSel = s.lsu.secondBeatSel := by
  rw [secondBeatSel, shiftedSel, baseSel_eq h]
  rfl

lemma splitNeeded_eq (h : s.pending.Sized) : s.splitNeeded = s.lsu.splitNeeded := by
  rw [splitNeeded, secondBeatSel_eq h]
  rfl

lemma specialWriteActive_of_ne (h : s.state ≠ .execute) : s.specialWriteActive = false := by
  rw [specialWriteActive, beq_eq_false_iff_ne.2 h]
  rfl

/-- A cycle with nothing for the special registers leaves the mode alone. -/
lemma cpuControl_step {i : BasicInputs c} (hspecial : (s.cycle i).special = s.softwareInputs i)
    (hactive : s.specialWriteActive = false) : (s.step i).specialRegs.cpuControl = s.specialRegs.cpuControl := by
  rw [step, hspecial]
  simp [SpecialRegisters.step, SpecialRegisters.softwareWrite, softwareInputs, hactive]

end BasicCore

/-- The half-word that the core cuts out of the line of an even address. -/
lemma halfWord_of_readLanes (memory : Memory 64) {pc : Word} (heven : pc.getLsbD 0 = false) :
    (readLanes memory (pc &&& 0xFFFFFFFFFFFFFFF8) 0xFF 0).extractLsb' (16 * (pc.extractLsb' 1 2).toNat) 16 =
      load 16 memory pc 2 := by
  obtain ⟨s, hs⟩ : ∃ s : Lsu, s = ⟨.first, pc, 8, false, 0, 0, 0⟩ := ⟨_, rfl⟩
  have hoffset : s.byteOffset = 2 * (pc.extractLsb' 1 2).toNat := by
    have hlow : pc.toNat % 2 = 0 := by
      rw [← BitVec.testBit_toNat, Nat.testBit_zero] at heven
      simpa using heven
    rw [Lsu.byteOffset, hs, BitVec.toNat_setWidth, BitVec.extractLsb'_toNat, Nat.shiftRight_eq_div_pow]
    change pc.toNat % 2 ^ 3 = 2 * (pc.toNat / 2 ^ 1 % 2 ^ 2)
    omega
  have hslot : (pc.extractLsb' 1 2).toNat < 4 := (pc.extractLsb' 1 2).isLt
  have hall : ∀ j < 8, BitVec.getLsbD (0xFF : BitVec 8) j = true := by decide
  apply eq_of_byteAt_eq
  intro k hk
  have hbyte := (Frontend.byteAt_extract (readLanes memory (pc &&& 0xFFFFFFFFFFFFFFF8) 0xFF 0)
    (2 * (pc.extractLsb' 1 2).toNat) k).resolve_right (by omega)
  have haligned := s.wordAligned_byte k
  rw [hoffset] at haligned
  rw [show 8 * (2 * (pc.extractLsb' 1 2).toNat) = 16 * (pc.extractLsb' 1 2).toNat by omega] at hbyte
  rw [hbyte, Lsu.byteAt_readLanes (hall _ (by omega)), byteAt_load _ _ 2 _ (by omega) (by omega)]
  rw [Lsu.wordAlignedAddr, hs] at haligned
  exact congrArg memory haligned

section Steps

variable {c : BasicConfig} {writable : Word → Bool} {m m' : Machine} {t : BasicSystem c} {e : BasicEnvironment c}

lemma Holds.step (h : Holds m t) (hspecial : (t.core.cycle (t.inputs e)).special = t.core.softwareInputs (t.inputs e))
    (hactive : t.core.specialWriteActive = false) (hregs : (t.core.cycle (t.inputs e)).next.regs = m'.regs)
    (hzero : m'.regs 0 = 0) (hflags : (t.core.cycle (t.inputs e)).next.flags = m'.flags)
    (hmemory : (t.step writable e).memory = m'.memory) (hretired : (t.step writable e).commits = m'.retired) :
    Holds m' (t.step writable e) := by
  have hcontrol := BasicCore.cpuControl_step hspecial hactive
  refine ⟨?_, hzero, hflags, hmemory, hretired, ?_, ?_⟩
  · funext r
    change (if r = 0 then 0 else (t.core.cycle (t.inputs e)).next.regs r) = m'.regs r
    rw [hregs]
    split
    · next hr => rw [hr, hzero]
    · rfl
  · change (t.core.step (t.inputs e)).specialRegs.cpuControl.getLsbD 16 = false
    rw [hcontrol]
    exact h.paging
  · change (t.core.step (t.inputs e)).specialRegs.cpuControl.getLsbD 0 = false
    rw [hcontrol]
    exact h.interrupts

lemma Rests.next {state : CoreState} (h : Holds m' (t.step writable e))
    (hstate : (t.core.cycle (t.inputs e)).next.state = state)
    (hsplit : (t.core.cycle (t.inputs e)).next.splitFirstCycle = false) : Rests state m' (t.step writable e) :=
  ⟨h, hstate, hsplit⟩

lemma BasicSystem.writes_of_we (h : t.core.dBusWe = false) : t.writes e = false := by
  rw [BasicSystem.writes, h, Bool.and_false]
  rfl

lemma BasicSystem.memory_step (h : t.writes e = false) : (t.step writable e).memory = t.memory := by
  rw [BasicSystem.step, h]
  rfl

variable (writable e) in
lemma Holds.memory_kept (h : Holds m t) (hwe : t.core.dBusWe = false) : (t.step writable e).memory = m.memory :=
  (BasicSystem.memory_step (BasicSystem.writes_of_we hwe)).trans h.memory

lemma BasicSystem.memory_write (h : t.writes e = true) : (t.step writable e).memory =
    masked writable (writeLanes t.memory t.core.dBusAdr t.core.dBusSel t.core.dBusDatW) t.memory := by
  rw [BasicSystem.step, h]
  rfl

lemma BasicSystem.commits_step (h : (t.core.cycle (t.inputs e)).commitValid = false) :
    (t.step writable e).commits = t.commits := by
  rw [BasicSystem.step, BasicCore.commitValid, h]
  rfl

lemma BasicSystem.commits_retire (h : (t.core.cycle (t.inputs e)).commitValid = true) :
    (t.step writable e).commits = t.commits + 1 := by
  rw [BasicSystem.step, BasicCore.commitValid, h]
  rfl

/-- A cycle that moves only registers that the instructions do not see. -/
lemma Holds.move {next : BasicCore c} (h : Holds m t)
    (hcycle : t.core.cycle (t.inputs e) = t.core.move (t.inputs e) next) (hactive : t.core.specialWriteActive = false)
    (hwrites : t.writes e = false) (hregs : next.regs = t.core.regs) (hflags : next.flags = t.core.flags) :
    Holds m (t.step writable e) := by
  refine h.step ?_ hactive ?_ h.zero ?_ ?_ ?_
  · rw [hcycle]
    rfl
  · rw [hcycle]
    exact hregs.trans h.regs
  · rw [hcycle]
    exact hflags.trans h.flags
  · exact (BasicSystem.memory_step hwrites).trans h.memory
  · refine (BasicSystem.commits_step ?_).trans h.commits
    rw [hcycle]
    rfl

lemma Rests.move {state state' : CoreState} {next : BasicCore c} (h : Rests state m t)
    (hcycle : t.core.cycle (t.inputs e) = t.core.move (t.inputs e) next) (hidle : state ≠ .execute ∧ state ≠ .memStore ∧
      state ≠ .memStoreSplit) (hregs : next.regs = t.core.regs) (hflags : next.flags = t.core.flags)
    (hstate : next.state = state') (hsplit : next.splitFirstCycle = false) : Rests state' m (t.step writable e) := by
  have hactive : t.core.specialWriteActive = false :=
    BasicCore.specialWriteActive_of_ne fun he => hidle.1 (h.state.symm.trans he)
  have hwe : t.core.dBusWe = false := by
    rw [BasicCore.dBusWe, h.state, beq_eq_false_iff_ne.2 hidle.2.1, beq_eq_false_iff_ne.2 hidle.2.2]
    rfl
  refine .next (h.toHolds.move hcycle hactive (BasicSystem.writes_of_we hwe) hregs hflags) ?_ ?_
  · rw [hcycle]
    exact hstate
  · rw [hcycle]
    exact hsplit

/-- The start of an instruction at an even address. -/
lemma Rests.fetchTranslate (h : Rests .fetchTranslate m t) (heven : (m.regs 15).getLsbD 0 = false) :
    Rests .fetch m (t.step writable e) ∧ (t.step writable e).core.fetchPhysAddr = m.regs 15 := by
  have hpc : t.core.currentPc = m.regs 15 := congrFun h.regs 15
  have hpaging : t.core.pagingEnabled = false := h.paging
  have hcycle : t.core.cycle (t.inputs e) =
      t.core.move (t.inputs e) { t.core with fetchPhysAddr := t.core.currentPc, state := .fetch } := by
    rw [BasicCore.cycle, h.state]
    change t.core.cycleFetchTranslate (t.inputs e) = _
    rw [BasicCore.cycleFetchTranslate, hpaging, h.interrupts, hpc, heven, Bool.and_false]
    rfl
  refine ⟨h.move hcycle (by decide) rfl rfl rfl h.split, ?_⟩
  change (t.core.cycle (t.inputs e)).next.fetchPhysAddr = _
  rw [hcycle]
  exact hpc

/-- A cycle in which nothing is answered. -/
lemma Rests.quiet {state : CoreState} (h : Rests state m t)
    (hcycle : t.core.cycle (t.inputs e) = t.core.quiet (t.inputs e)) (hidle : state ≠ .execute ∧ state ≠ .memStore ∧
      state ≠ .memStoreSplit) : Rests state m (t.step writable e) :=
  h.move hcycle hidle rfl rfl h.state h.split

lemma Rests.iBusCyc (h : Rests .fetch m t) : t.core.iBusCyc = true := by
  rw [BasicCore.iBusCyc, h.state]
  rfl

variable (writable) in
lemma Rests.fetch_wait (h : Rests .fetch m t) (herr : e.iErr = false) (hack : e.iAck = false) :
    Rests .fetch m (t.step writable e) ∧ (t.step writable e).core.fetchPhysAddr = t.core.fetchPhysAddr := by
  have hcycle : t.core.cycle (t.inputs e) = t.core.quiet (t.inputs e) := by
    rw [BasicCore.cycle, h.state]
    change t.core.cycleFetch (t.inputs e) = _
    rw [BasicCore.cycleFetch, show (t.inputs e).iBus.err = false from herr, show (t.inputs e).iBus.ack = false from hack]
    rfl
  refine ⟨h.quiet hcycle (by decide), ?_⟩
  change (t.core.cycle (t.inputs e)).next.fetchPhysAddr = _
  rw [hcycle]
  rfl

lemma Rests.fetch (h : Rests .fetch m t) (hphys : t.core.fetchPhysAddr = m.regs 15)
    (heven : (m.regs 15).getLsbD 0 = false) (herr : e.iErr = false) (hack : e.iAck = true) :
    Rests .execute m (t.step writable e) ∧ Executes m (t.step writable e).core := by
  have hcycle : t.core.cycle (t.inputs e) =
      t.core.move (t.inputs e) { t.core with
        fetchPc := t.core.currentPc
        currentInstruction :=
          (t.inputs e).iBus.datR.extractLsb' (16 * (t.core.fetchPhysAddr.extractLsb' 1 2).toNat) 16
        state := .execute } := by
    rw [BasicCore.cycle, h.state]
    change t.core.cycleFetch (t.inputs e) = _
    rw [BasicCore.cycleFetch, show (t.inputs e).iBus.err = false from herr, show (t.inputs e).iBus.ack = true from hack]
    rfl
  have hrests : Rests .execute m (t.step writable e) := h.move hcycle (by decide) rfl rfl rfl h.split
  refine ⟨hrests, ⟨hrests.state, ?_, ?_, hrests.regs, h.zero, hrests.flags⟩⟩
  · change (t.core.cycle (t.inputs e)).next.currentInstruction = _
    rw [hcycle]
    change (readLanes t.memory t.core.iBusAdr 0xFF 0).extractLsb' (16 * (t.core.fetchPhysAddr.extractLsb' 1 2).toNat) 16 =
      _
    rw [BasicCore.iBusAdr, hphys, halfWord_of_readLanes _ heven, h.memory, Machine.fetched]
  · change (t.core.cycle (t.inputs e)).next.fetchPc = _
    rw [hcycle]
    exact congrFun h.regs 15

/-- The core has an access to perform on what the machine has, in the first cycle of a second beat or not. -/
structure Pends (state : CoreState) (first : Bool) (p : PendingAccess) (m : Machine) (t : BasicSystem c) : Prop
    extends Holds m t where
  state : t.core.state = state
  first : t.core.splitFirstCycle = first
  pending : t.core.pending = p
  sized : p.Sized

lemma Pends.next {state : CoreState} {first : Bool} {p : PendingAccess} (h : Holds m' (t.step writable e))
    (hstate : (t.core.cycle (t.inputs e)).next.state = state)
    (hfirst : (t.core.cycle (t.inputs e)).next.splitFirstCycle = first)
    (hpending : (t.core.cycle (t.inputs e)).next.pending = p) (hsized : p.Sized) :
    Pends state first p m' (t.step writable e) :=
  ⟨h, hstate, hfirst, hpending, hsized⟩

lemma specialWriteActive_of_plain {s : BasicCore c} (h : Executes m s) (hplain : PlainInstruction m.fetched) :
    s.specialWriteActive = false := by
  rw [BasicCore.specialWriteActive, h.instruction, Bool.and_assoc, Bool.and_eq_false_imp]
  intro _
  rw [Bool.and_eq_false_imp, beq_iff_eq]
  intro htop3
  have htop : instructionTop2 m.fetched = 3 := by
    have htop2 : instructionTop2 m.fetched = (instructionTop3 m.fetched).extractLsb' 1 2 := by
      apply BitVec.eq_of_getLsbD_eq
      intro k hk
      have hk' : 1 + k < 3 := by omega
      simp [instructionTop2, instructionTop3, hk, hk', ← Nat.add_assoc]
    rw [htop2, htop3]
    rfl
  obtain ⟨op, hop, hplain⟩ := hplain htop (by rw [htop3]; decide)
  rw [hop, beq_eq_false_iff_ne]
  intro he
  rw [Option.some.inj he] at hplain
  exact hplain

variable (writable e) in
lemma Rests.execute (i : ExecuteInputs) (h : Rests .execute m t) (hx : Executes m t.core)
    (hplain : PlainInstruction m.fetched) (hpc : ¬ ReadsPc m.fetched) :
    Rests .fetchTranslate (m.step writable i) (t.step writable e) ∨
      ∃ p m₁, Pends .memTranslate false p m₁ (t.step writable e) ∧ p.perform writable m₁ = m.step writable i := by
  have hactive := specialWriteActive_of_plain hx hplain
  have hwe : t.core.dBusWe = false := by
    rw [BasicCore.dBusWe, h.state]
    rfl
  have hmemory := h.memory_kept writable e hwe
  cases hx.executed writable (t.inputs e) i hplain hpc with
  | retires next hcycle hstate hsplit hresult =>
    refine .inl (.next (h.toHolds.step ?_ hactive ?_ ?_ ?_ ?_ ?_) ?_ ?_)
    · rw [hcycle]
      rfl
    · rw [hcycle, hresult]
      rfl
    · rw [Machine.step_zero, h.zero]
    · rw [hcycle, hresult]
      rfl
    · rw [hmemory, hresult]
    · rw [hresult, BasicSystem.step, BasicCore.commitValid, hcycle, h.commits]
      rfl
    · rw [hcycle]
      exact hstate
    · rw [hcycle]
      exact hsplit.trans h.split
  | accesses next hcycle hstate hsplit hzero hsized hresult =>
    refine .inr ⟨next.pending, ⟨next.regs, next.flags, m.memory, m.retired⟩, .next (h.toHolds.step ?_ hactive ?_ ?_ ?_
      hmemory ?_) ?_ ?_ ?_ hsized, hresult.symm⟩
    · rw [hcycle]
      rfl
    · rw [hcycle]
      rfl
    · change next.regs 0 = 0
      rw [hzero, h.regs, h.zero]
    · rw [hcycle]
      rfl
    · refine (BasicSystem.commits_step ?_).trans h.commits
      rw [hcycle]
      rfl
    · rw [hcycle]
      exact hstate
    · rw [hcycle]
      exact hsplit.trans h.split
    · rw [hcycle]
      rfl

end Steps

end Little64.Hdl

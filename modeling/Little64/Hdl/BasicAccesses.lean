import Little64.Hdl.BasicRuns

/-! The memory states of the basic core: a pending access is performed in one beat or in two, with the store that a
load may be chained to. -/

namespace Little64.Hdl

open Emulator (Reg)
open ByteMemory LeadsTo LittleEndian

lemma masked_writeLanes (writable : Word → Bool) (new old : Memory 64) (adr : Word) (sel : BitVec 8) (data : Word) :
    masked writable (writeLanes (masked writable new old) adr sel data) (masked writable new old) =
      masked writable (writeLanes new adr sel data) old := by
  funext x
  by_cases hx : writable x = true <;> simp [masked, writeLanes, hx]

namespace BasicCore

variable {c : BasicConfig} {s : BasicCore c}

lemma splitNeeded_congr {s' : BasicCore c} (h : s'.pending = s.pending) : s'.splitNeeded = s.splitNeeded := by
  simp only [splitNeeded, secondBeatSel, shiftedSel, baseSel, byteOffset, h]

lemma dBus_first (hstate : s.state = .memLoad ∨ s.state = .memStore) (h : s.pending.Sized) :
    s.dBusAdr = s.lsu.wordAlignedAddr ∧ s.dBusSel = s.lsu.firstBeatSel := by
  rw [dBusAdr, dBusSel, splitting, firstBeatSel_eq h]
  rcases hstate with hstate | hstate <;> rw [hstate] <;> exact ⟨rfl, rfl⟩

lemma dBus_second (hstate : s.state = .memLoadSplit ∨ s.state = .memStoreSplit) (h : s.pending.Sized) :
    s.dBusAdr = s.lsu.nextWordAddr ∧ s.dBusSel = s.lsu.secondBeatSel := by
  rw [dBusAdr, dBusSel, splitting, secondBeatSel_eq h]
  rcases hstate with hstate | hstate <;> rw [hstate] <;> exact ⟨rfl, rfl⟩

end BasicCore

namespace PendingAccess

variable (p : PendingAccess) (regs : Reg → Word)

lemma loadRegs_zero (loadResult : Word) : p.loadRegs regs loadResult 0 = regs 0 := by
  rw [loadRegs]
  split
  · exact (writeReg_at_zero _ _ _).trans (writeReg_at_zero _ _ _)
  · exact writeReg_at_zero _ _ _

lemma storeRegs_zero : p.storeRegs regs 0 = regs 0 := by
  rw [storeRegs]
  split
  · exact writeReg_at_zero _ _ _
  · rfl

end PendingAccess

section Cycles

variable {c : BasicConfig} {writable : Word → Bool} {m : Machine} {t : BasicSystem c} {e : BasicEnvironment c}
  {state state' : CoreState} {first first' : Bool} {p : PendingAccess}

lemma Pends.lsu_sized (h : Pends state first p m t) : t.core.lsu.Sized := by
  have hsized := h.sized
  rw [← h.pending] at hsized
  exact hsized

lemma Pends.pending_sized (h : Pends state first p m t) : t.core.pending.Sized := h.lsu_sized

/-- A cycle that keeps the access pending. -/
lemma Pends.move {next : BasicCore c} {memory : Memory 64} (h : Pends state first p m t)
    (hcycle : t.core.cycle (t.inputs e) = t.core.move (t.inputs e) next) (hexecute : state ≠ .execute)
    (hmemory : (t.step writable e).memory = memory) (hregs : next.regs = t.core.regs)
    (hflags : next.flags = t.core.flags) (hpending : next.pending = t.core.pending) (hstate : next.state = state')
    (hfirst : next.splitFirstCycle = first') :
    Pends state' first' p ⟨m.regs, m.flags, memory, m.retired⟩ (t.step writable e) := by
  have hactive := BasicCore.specialWriteActive_of_ne fun he => hexecute (h.state.symm.trans he)
  refine .next (h.toHolds.step ?_ hactive ?_ h.zero ?_ hmemory ?_) ?_ ?_ ?_ h.sized
  · rw [hcycle]
    rfl
  · rw [hcycle]
    exact hregs.trans h.regs
  · rw [hcycle]
    exact hflags.trans h.flags
  · refine (BasicSystem.commits_step ?_).trans h.commits
    rw [hcycle]
    rfl
  · rw [hcycle]
    exact hstate
  · rw [hcycle]
    exact hfirst
  · rw [hcycle]
    exact hpending.trans h.pending

/-- A cycle that ends the instruction. -/
lemma Pends.retire {next : BasicCore c} {m' : Machine} (h : Pends state first p m t)
    (hcycle : t.core.cycle (t.inputs e) = t.core.retire (t.inputs e) next) (hexecute : state ≠ .execute)
    (hmemory : (t.step writable e).memory = m'.memory) (hregs : next.regs = m'.regs) (hzero : m'.regs 0 = 0)
    (hflags : next.flags = m'.flags) (hretired : m'.retired = m.retired + 1) (hstate : next.state = .fetchTranslate)
    (hfirst : next.splitFirstCycle = false) : Rests .fetchTranslate m' (t.step writable e) := by
  have hactive := BasicCore.specialWriteActive_of_ne fun he => hexecute (h.state.symm.trans he)
  refine .next (h.toHolds.step ?_ hactive ?_ hzero ?_ hmemory ?_) ?_ ?_
  · rw [hcycle]
    rfl
  · rw [hcycle]
    exact hregs
  · rw [hcycle]
    exact hflags
  · rw [BasicSystem.commits_retire, h.commits, hretired]
    rw [hcycle]
    rfl
  · rw [hcycle]
    exact hstate
  · rw [hcycle]
    exact hfirst

variable (writable e) in
lemma Pends.memTranslate (h : Pends .memTranslate false p m t) :
    Pends (if p.memWrite then .memStore else .memLoad) false p m (t.step writable e) := by
  have hpaging : t.core.pagingEnabled = false := h.paging
  have hcycle : t.core.cycle (t.inputs e) = t.core.move (t.inputs e) { t.core with state := t.core.memState } := by
    rw [BasicCore.cycle, h.state]
    change t.core.cycleMemTranslate (t.inputs e) = _
    rw [BasicCore.cycleMemTranslate, hpaging]
    rfl
  have hwe : t.core.dBusWe = false := by
    rw [BasicCore.dBusWe, h.state]
    rfl
  have hmemory := h.memory_kept writable e hwe
  refine h.move hcycle (by decide) hmemory rfl rfl rfl ?_ h.first
  rw [BasicCore.memState, h.pending]

/-- In the memory states the core waits for the data bus. -/
lemma Pends.dBusCyc (h : Pends state false p m t)
    (hstate : state ∈ [CoreState.memLoad, .memStore, .memLoadSplit, .memStoreSplit]) : t.core.dBusCyc = true := by
  rw [BasicCore.dBusCyc, BasicCore.splitting, h.state, h.first]
  revert hstate
  cases state <;> decide

variable (writable) in
/-- A cycle in which the bus does not answer. -/
lemma Pends.wait (h : Pends state first p m t) (hcycle : t.core.cycle (t.inputs e) = t.core.quiet (t.inputs e))
    (hexecute : state ≠ .execute) (hack : e.dAck = false) : Pends state first p m (t.step writable e) := by
  have hwrites : t.writes e = false := by
    rw [BasicSystem.writes, hack, Bool.and_false]
    rfl
  exact h.move hcycle hexecute ((BasicSystem.memory_step hwrites).trans h.memory) rfl rfl rfl h.state h.first

section Stores

/-- What the first beat of a store leaves in memory. -/
def PendingAccess.firstBeat (p : PendingAccess) (writable : Word → Bool) (m : Machine) : Machine :=
  { m with
    memory := masked writable (store m.memory p.addr (8 - (p.addr.setWidth 3).toNat) p.storeValue) m.memory }

lemma Pends.finishStore (h : Pends state false p ⟨m.regs, m.flags, t.memory, m.retired⟩ t)
    (hcycle : t.core.cycle (t.inputs e) = t.core.finishStore (t.inputs e)) (hexecute : state ≠ .execute)
    (hmemory : (t.step writable e).memory = masked writable (store m.memory p.addr p.widthBytes p.storeValue) m.memory) :
    Rests .fetchTranslate (p.performStore writable m) (t.step writable e) := by
  refine h.retire (hcycle.trans rfl) hexecute hmemory ?_ ?_ h.flags rfl rfl h.first
  · change setPc (t.core.pending.storeRegs t.core.regs) t.core.pending.nextPcAfterStore = _
    rw [h.pending, h.regs]
    rfl
  · exact (p.storeRegs_zero m.regs).trans h.zero

variable (writable) in
lemma Pends.memory_first (h : Pends .memStore false p m t) (herr : e.dErr = false) (hack : e.dAck = true) :
    (t.step writable e).memory =
      masked writable (store m.memory p.addr (min p.widthBytes (8 - t.core.lsu.byteOffset)) p.storeValue) m.memory := by
  have hwrites : t.writes e = true := by
    rw [BasicSystem.writes, BasicCore.dBusCyc, BasicCore.dBusWe, h.state, herr, hack]
    rfl
  have hbus := BasicCore.dBus_first (.inr h.state) h.pending_sized
  have hdata : t.core.dBusDatW = t.core.lsu.shiftedDatW.extractLsb' 0 64 := by
    rw [BasicCore.dBusDatW, h.state]
    rfl
  rw [BasicSystem.memory_write hwrites, hbus.1, hbus.2, hdata, Lsu.writeLanes_first h.lsu_sized, h.memory, ← h.pending]
  rfl

lemma Pends.memory_second (h : Pends .memStoreSplit false p (p.firstBeat writable m) t)
    (hsplit : t.core.splitNeeded = true) (herr : e.dErr = false) (hack : e.dAck = true) :
    (t.step writable e).memory = masked writable (store m.memory p.addr p.widthBytes p.storeValue) m.memory := by
  have hwrites : t.writes e = true := by
    rw [BasicSystem.writes, BasicCore.dBusCyc, BasicCore.dBusWe, BasicCore.splitting, h.state, h.first, herr, hack]
    rfl
  have hbus := BasicCore.dBus_second (.inr h.state) h.pending_sized
  have hdata : t.core.dBusDatW = t.core.lsu.shiftedDatW.extractLsb' 64 64 := by
    rw [BasicCore.dBusDatW, h.state]
    rfl
  have hsecond := Lsu.writeLanes_second h.lsu_sized ((BasicCore.splitNeeded_eq h.pending_sized).symm.trans hsplit) m.memory
  rw [BasicSystem.memory_write hwrites, hbus.1, hbus.2, hdata, h.memory, PendingAccess.firstBeat, masked_writeLanes,
    ← h.pending]
  exact congrArg (masked writable · m.memory) hsecond

lemma cycle_memStore (h : Pends .memStore first p m t) :
    t.core.cycle (t.inputs e) = if e.dErr then t.core.enterLockup (t.inputs e)
      else if e.dAck then
        if t.core.splitNeeded then
          t.core.move (t.inputs e) { t.core with splitFirstCycle := true, state := .memStoreSplit }
        else t.core.finishStore (t.inputs e)
      else t.core.quiet (t.inputs e) := by
  rw [BasicCore.cycle, h.state]
  rfl

/-- The first beat of a store is its last, or leaves the second one. -/
lemma Pends.memStore (h : Pends .memStore false p m t) (herr : e.dErr = false) (hack : e.dAck = true) :
    Rests .fetchTranslate (p.performStore writable m) (t.step writable e) ∨
      Pends .memStoreSplit true p (p.firstBeat writable m) (t.step writable e) ∧
        (t.step writable e).core.splitNeeded = true := by
  have hmemory := h.memory_first writable herr hack
  have hiff := Lsu.splitNeeded_iff h.lsu_sized
  have hwidth : t.core.lsu.latchedWidth = p.widthBytes := congrArg PendingAccess.widthBytes h.pending
  have hoffset : t.core.lsu.byteOffset = (p.addr.setWidth 3).toNat := by rw [← h.pending]; rfl
  rw [← BasicCore.splitNeeded_eq h.pending_sized, hwidth] at hiff
  have hcycle := cycle_memStore (e := e) h
  rw [herr, hack] at hcycle
  cases hsplit : t.core.splitNeeded with
  | false =>
    rw [hsplit] at hcycle hiff
    rw [min_eq_left (by simpa using hiff)] at hmemory
    left
    have hheld : Pends .memStore false p ⟨m.regs, m.flags, t.memory, m.retired⟩ t := by rw [h.memory]; exact h
    exact hheld.finishStore hcycle (by decide) hmemory
  | true =>
    rw [hsplit] at hcycle
    rw [min_eq_right (hiff.1 hsplit).le, hoffset] at hmemory
    have hnext := h.move hcycle (by decide) hmemory rfl rfl rfl rfl rfl
    refine .inr ⟨hnext, ?_⟩
    rw [BasicCore.splitNeeded_congr (hnext.pending.trans h.pending.symm), hsplit]

variable (writable e) in
/-- The cycle between the beats, in which the bus is free. -/
lemma Pends.turn (h : Pends state true p m t) (hcycle : t.core.cycle (t.inputs e) =
      t.core.move (t.inputs e) { t.core with splitFirstCycle := false }) (hstate : state ≠ .execute ∧ state ≠ .memStore) :
    Pends state false p m (t.step writable e) := by
  have hwe : t.core.dBusWe = false := by
    rw [BasicCore.dBusWe, h.state, h.first, beq_eq_false_iff_ne.2 hstate.2, Bool.not_true, Bool.and_false]
    rfl
  have hmemory := h.memory_kept writable e hwe
  exact h.move hcycle hstate.1 hmemory rfl rfl rfl h.state rfl

lemma cycle_memStoreSplit (h : Pends .memStoreSplit first p m t) :
    t.core.cycle (t.inputs e) = if first then t.core.move (t.inputs e) { t.core with splitFirstCycle := false }
      else if e.dErr then t.core.enterLockup (t.inputs e)
      else if e.dAck then t.core.finishStore (t.inputs e)
      else t.core.quiet (t.inputs e) := by
  rw [BasicCore.cycle, h.state]
  change t.core.cycleMemStoreSplit (t.inputs e) = _
  rw [BasicCore.cycleMemStoreSplit, h.first]
  rfl

lemma Pends.memStoreSplit (h : Pends .memStoreSplit false p (p.firstBeat writable m) t)
    (hsplit : t.core.splitNeeded = true) (herr : e.dErr = false) (hack : e.dAck = true) :
    Rests .fetchTranslate (p.performStore writable m) (t.step writable e) := by
  have hcycle := cycle_memStoreSplit (e := e) h
  rw [herr, hack] at hcycle
  have hheld : Pends .memStoreSplit false p ⟨m.regs, m.flags, t.memory, m.retired⟩ t := by rw [h.memory]; exact h
  exact hheld.finishStore hcycle (by decide) (h.memory_second hsplit herr hack)

end Stores

section Loads

/-- What a load that is all in leaves: the end of the instruction, or the store that follows it. -/
def Loaded (writable : Word → Bool) (p : PendingAccess) (m : Machine) (t : BasicSystem c) : Prop :=
  if p.chainStore then
    Pends .memTranslate false (p.chained (load 64 m.memory p.addr p.widthBytes))
      { m with regs := p.loadRegs m.regs (load 64 m.memory p.addr p.widthBytes) } t
  else Rests .fetchTranslate (p.performLoad writable m) t

lemma Pends.finishLoad {data : Word} (h : Pends state false p m t)
    (hcycle : t.core.cycle (t.inputs e) = t.core.finishLoad (t.inputs e) data)
    (hstate : state ≠ .execute ∧ state ≠ .memStore ∧ state ≠ .memStoreSplit)
    (hload : narrow p.widthBytes data = load 64 m.memory p.addr p.widthBytes) :
    Loaded writable p m (t.step writable e) := by
  have hwe : t.core.dBusWe = false := by
    rw [BasicCore.dBusWe, h.state, beq_eq_false_iff_ne.2 hstate.2.1, beq_eq_false_iff_ne.2 hstate.2.2]
    rfl
  have hmemory := h.memory_kept writable e hwe
  have hactive := BasicCore.specialWriteActive_of_ne fun he => hstate.1 (h.state.symm.trans he)
  rw [BasicCore.finishLoad, h.pending, hload, h.regs] at hcycle
  have hzero := (p.loadRegs_zero m.regs (load 64 m.memory p.addr p.widthBytes)).trans h.zero
  rw [Loaded]
  cases hchain : p.chainStore with
  | false =>
    rw [hchain] at hcycle
    rw [PendingAccess.performLoad, hchain]
    exact h.retire hcycle hstate.1 hmemory rfl hzero h.flags rfl rfl h.first
  | true =>
    rw [hchain] at hcycle
    refine .next (h.toHolds.step ?_ hactive ?_ hzero ?_ hmemory ?_) ?_ ?_ ?_ (.inr (.inr (.inr rfl)))
    · rw [hcycle]
      rfl
    · rw [hcycle]
      rfl
    · rw [hcycle]
      exact h.flags
    · refine (BasicSystem.commits_step ?_).trans h.commits
      rw [hcycle]
      rfl
    · rw [hcycle]
      rfl
    · rw [hcycle]
      exact h.first
    · rw [hcycle]
      rfl

lemma cycle_memLoad (h : Pends .memLoad first p m t) :
    t.core.cycle (t.inputs e) = if e.dErr then t.core.enterLockup (t.inputs e)
      else if e.dAck then
        if t.core.splitNeeded then
          t.core.move (t.inputs e) { t.core with
            splitFirstData := (t.inputs e).dBus.datR, splitFirstCycle := true, state := .memLoadSplit }
        else t.core.finishLoad (t.inputs e) (t.core.singleReadData (t.inputs e))
      else t.core.quiet (t.inputs e) := by
  rw [BasicCore.cycle, h.state]
  rfl

/-- What the first beat of a load fetched. -/
def Fetched (p : PendingAccess) (m : Machine) (t : BasicSystem c) : Prop :=
  t.core.splitNeeded = true ∧ ∀ j < 8 - t.core.lsu.byteOffset,
    byteAt t.core.splitFirstData (t.core.lsu.byteOffset + j) = m.memory (p.addr + BitVec.ofNat 64 j)

lemma Fetched.kept {t' : BasicSystem c} (h : Fetched p m t) (hpending : t'.core.pending = t.core.pending)
    (hdata : t'.core.splitFirstData = t.core.splitFirstData) : Fetched p m t' := by
  have hoffset : t'.core.lsu.byteOffset = t.core.lsu.byteOffset :=
    congrArg (fun q : PendingAccess => (q.addr.setWidth 3).toNat) hpending
  refine ⟨(BasicCore.splitNeeded_congr hpending).trans h.1, ?_⟩
  rw [hoffset, hdata]
  exact h.2

/-- The first beat of a load is its last, or has its part of the bytes. -/
lemma Pends.memLoad (h : Pends .memLoad false p m t) (herr : e.dErr = false) (hack : e.dAck = true) :
    Loaded writable p m (t.step writable e) ∨
      Pends .memLoadSplit true p m (t.step writable e) ∧ Fetched p m (t.step writable e) := by
  have hcycle := cycle_memLoad (e := e) h
  have hbus := BasicCore.dBus_first (.inl h.state) h.pending_sized
  have hdata : (t.inputs e).dBus.datR =
      readLanes m.memory t.core.lsu.wordAlignedAddr t.core.lsu.firstBeatSel e.undriven := by
    rw [← hbus.1, ← hbus.2, ← h.memory]
    rfl
  rw [herr, hack] at hcycle
  cases hsplit : t.core.splitNeeded with
  | false =>
    rw [hsplit] at hcycle
    have hload := Lsu.narrow_single h.lsu_sized ((BasicCore.splitNeeded_eq h.pending_sized).symm.trans hsplit) hdata
    refine .inl (h.finishLoad hcycle (by decide) ?_)
    rw [← h.pending]
    exact hload
  | true =>
    rw [hsplit] at hcycle
    have hwe : t.core.dBusWe = false := by
      rw [BasicCore.dBusWe, h.state]
      rfl
    have hmemory := h.memory_kept writable e hwe
    have hnext := h.move hcycle (by decide) hmemory rfl rfl rfl rfl rfl
    have hkept : (t.step writable e).core.lsu.byteOffset = t.core.lsu.byteOffset :=
      congrArg (fun q : PendingAccess => (q.addr.setWidth 3).toNat) (hnext.pending.trans h.pending.symm)
    refine .inr ⟨hnext, ?_, ?_⟩
    · rw [BasicCore.splitNeeded_congr (hnext.pending.trans h.pending.symm), hsplit]
    · intro j hj
      rw [hkept] at hj ⊢
      have hfirst : (t.step writable e).core.splitFirstData = (t.inputs e).dBus.datR := by
        change (t.core.cycle (t.inputs e)).next.splitFirstData = _
        rw [hcycle]
        rfl
      have hspan := (Lsu.splitNeeded_iff h.lsu_sized).1 ((BasicCore.splitNeeded_eq h.pending_sized).symm.trans hsplit)
      have hsel : t.core.lsu.firstBeatSel.getLsbD (t.core.lsu.byteOffset + j) = true := by
        rw [Lsu.getLsbD_firstBeatSel h.lsu_sized]
        exact decide_eq_true (by omega)
      rw [hfirst, hdata, Lsu.byteAt_readLanes hsel, Lsu.wordAligned_byte, ← h.pending]
      rfl

lemma cycle_memLoadSplit (h : Pends .memLoadSplit first p m t) :
    t.core.cycle (t.inputs e) = if first then t.core.move (t.inputs e) { t.core with splitFirstCycle := false }
      else if e.dErr then t.core.enterLockup (t.inputs e)
      else if e.dAck then t.core.finishLoad (t.inputs e) (t.core.combinedReadData (t.inputs e))
      else t.core.quiet (t.inputs e) := by
  rw [BasicCore.cycle, h.state]
  change t.core.cycleMemLoadSplit (t.inputs e) = _
  rw [BasicCore.cycleMemLoadSplit, h.first]
  rfl

lemma Pends.memLoadSplit (h : Pends .memLoadSplit false p m t) (hfetched : Fetched p m t) (herr : e.dErr = false)
    (hack : e.dAck = true) : Loaded writable p m (t.step writable e) := by
  have hcycle := cycle_memLoadSplit (e := e) h
  have hbus := BasicCore.dBus_second (.inl h.state) h.pending_sized
  have hdata : (t.inputs e).dBus.datR =
      readLanes m.memory t.core.lsu.nextWordAddr t.core.lsu.secondBeatSel e.undriven := by
    rw [← hbus.1, ← hbus.2, ← h.memory]
    rfl
  rw [herr, hack] at hcycle
  have hbytes := hfetched.2
  rw [← h.pending] at hbytes
  have hload := Lsu.narrow_combined h.lsu_sized hbytes hdata
  refine h.finishLoad hcycle (by decide) ?_
  rw [← h.pending]
  exact hload

end Loads

end Cycles

section Answered

variable {c : BasicConfig} {writable : Word → Bool} {t₀ : BasicSystem c} {env : ℕ → BasicEnvironment c}
  (h : Answering writable t₀ env)
include h

/-- The second beat of a store follows the first. -/
lemma Answering.storeSplit (p : PendingAccess) (m : Machine) : Leads (BasicSystem.after writable t₀ env)
    (fun t => Pends .memStoreSplit true p (p.firstBeat writable m) t ∧ t.core.splitNeeded = true)
    (Rests .fetchTranslate (p.performStore writable m)) := by
  have hturn : Leads (BasicSystem.after writable t₀ env)
      (fun t => Pends .memStoreSplit true p (p.firstBeat writable m) t ∧ t.core.splitNeeded = true)
      (fun t => Pends .memStoreSplit false p (p.firstBeat writable m) t ∧ t.core.splitNeeded = true) := by
    refine .of_step fun n ⟨hp, hsplit⟩ => ?_
    have hnext := hp.turn writable (env n) (cycle_memStoreSplit hp) (by decide)
    exact ⟨hnext, (BasicCore.splitNeeded_congr (hnext.pending.trans hp.pending.symm)).trans hsplit⟩
  refine hturn.trans (.of_fires (fun n hn => h.dAck n (hn.1.dBusCyc (by decide))) ?_ fun n ⟨hp, hsplit⟩ hack =>
    hp.memStoreSplit hsplit (h.dErr n) hack)
  intro n ⟨hp, hsplit⟩ hack
  rw [Bool.not_eq_true] at hack
  have hcycle := cycle_memStoreSplit (e := env n) hp
  rw [h.dErr n, hack] at hcycle
  have hnext := hp.wait writable hcycle (by decide) hack
  exact ⟨hnext, (BasicCore.splitNeeded_congr (hnext.pending.trans hp.pending.symm)).trans hsplit⟩

lemma Answering.store {p : PendingAccess} (hwrite : p.memWrite = true) (m : Machine) :
    Leads (BasicSystem.after writable t₀ env) (Pends .memTranslate false p m)
      (Rests .fetchTranslate (p.performStore writable m)) := by
  have htranslate : Leads (BasicSystem.after writable t₀ env) (Pends .memTranslate false p m)
      (Pends .memStore false p m) := by
    refine .of_step fun n hp => ?_
    have hnext := hp.memTranslate writable (env n)
    rw [hwrite] at hnext
    exact hnext
  have hfirst : Leads (BasicSystem.after writable t₀ env) (Pends .memStore false p m) (fun t =>
      Rests .fetchTranslate (p.performStore writable m) t ∨
        Pends .memStoreSplit true p (p.firstBeat writable m) t ∧ t.core.splitNeeded = true) := by
    refine .of_fires (fun n hp => h.dAck n (hp.dBusCyc (by decide)))
      (fun n hp hack => ?_) fun n hp hack => hp.memStore (h.dErr n) hack
    rw [Bool.not_eq_true] at hack
    have hcycle := cycle_memStore (e := env n) hp
    rw [h.dErr n, hack] at hcycle
    exact hp.wait writable hcycle (by decide) hack
  refine htranslate.trans (hfirst.trans fun n hn => ?_)
  rcases hn with hn | hn
  · exact ⟨n, le_rfl, hn⟩
  · exact h.storeSplit p m n hn

lemma Answering.loadSplit (p : PendingAccess) (m : Machine) : Leads (BasicSystem.after writable t₀ env)
    (fun t => Pends .memLoadSplit true p m t ∧ Fetched p m t) (Loaded writable p m) := by
  have hturn : Leads (BasicSystem.after writable t₀ env) (fun t => Pends .memLoadSplit true p m t ∧ Fetched p m t)
      (fun t => Pends .memLoadSplit false p m t ∧ Fetched p m t) := by
    refine .of_step fun n ⟨hp, hfetched⟩ => ?_
    have hcycle := cycle_memLoadSplit (e := env n) hp
    have hnext := hp.turn writable (env n) hcycle (by decide)
    exact ⟨hnext, hfetched.kept (hnext.pending.trans hp.pending.symm) (congrArg (·.next.splitFirstData) hcycle)⟩
  refine hturn.trans (.of_fires (fun n hn => h.dAck n (hn.1.dBusCyc (by decide))) ?_ fun n ⟨hp, hfetched⟩ hack =>
    hp.memLoadSplit hfetched (h.dErr n) hack)
  intro n ⟨hp, hfetched⟩ hack
  rw [Bool.not_eq_true] at hack
  have hcycle := cycle_memLoadSplit (e := env n) hp
  rw [h.dErr n, hack] at hcycle
  have hnext := hp.wait writable hcycle (by decide) hack
  exact ⟨hnext, hfetched.kept (hnext.pending.trans hp.pending.symm) (congrArg (·.next.splitFirstData) hcycle)⟩

/-- A load that is all in, and the store behind it where there is one. -/
lemma Answering.loaded (p : PendingAccess) (m : Machine) : Leads (BasicSystem.after writable t₀ env)
    (Loaded writable p m) (Rests .fetchTranslate (p.performLoad writable m)) := by
  intro n hn
  rw [Loaded] at hn
  cases hchain : p.chainStore with
  | false =>
    rw [hchain] at hn
    exact ⟨n, le_rfl, hn⟩
  | true =>
    rw [hchain] at hn
    have hstore := h.store (p := p.chained (load 64 m.memory p.addr p.widthBytes)) rfl
      { m with regs := p.loadRegs m.regs (load 64 m.memory p.addr p.widthBytes) } n hn
    rw [PendingAccess.performLoad, hchain]
    exact hstore

lemma Answering.load {p : PendingAccess} (hread : p.memWrite = false) (m : Machine) :
    Leads (BasicSystem.after writable t₀ env) (Pends .memTranslate false p m)
      (Rests .fetchTranslate (p.performLoad writable m)) := by
  have htranslate : Leads (BasicSystem.after writable t₀ env) (Pends .memTranslate false p m)
      (Pends .memLoad false p m) := by
    refine .of_step fun n hp => ?_
    have hnext := hp.memTranslate writable (env n)
    rw [hread] at hnext
    exact hnext
  have hfirst : Leads (BasicSystem.after writable t₀ env) (Pends .memLoad false p m) (fun t =>
      Loaded writable p m t ∨ Pends .memLoadSplit true p m t ∧ Fetched p m t) := by
    refine .of_fires (fun n hp => h.dAck n (hp.dBusCyc (by decide)))
      (fun n hp hack => ?_) fun n hp hack => hp.memLoad (h.dErr n) hack
    rw [Bool.not_eq_true] at hack
    have hcycle := cycle_memLoad (e := env n) hp
    rw [h.dErr n, hack] at hcycle
    exact hp.wait writable hcycle (by decide) hack
  refine htranslate.trans (hfirst.trans fun n hn => ?_)
  rcases hn with hn | hn
  · exact h.loaded p m n hn
  · exact ((h.loadSplit p m).trans (h.loaded p m)) n hn

/-- A pending access is performed. -/
theorem Answering.performs (p : PendingAccess) (m : Machine) :
    Leads (BasicSystem.after writable t₀ env) (Pends .memTranslate false p m)
      (Rests .fetchTranslate (p.perform writable m)) := by
  cases hwrite : p.memWrite with
  | false =>
    rw [PendingAccess.perform, hwrite]
    exact h.load hwrite m
  | true =>
    rw [PendingAccess.perform, hwrite]
    exact h.store hwrite m

end Answered

end Little64.Hdl

import Little64.Emulator.FetchFaults

/-! The ways in which an instruction comes back to its own address without a trap. -/

namespace Little64.Emulator

namespace Cpu

variable (s : Cpu)

/-- What a load of `w` bits puts into its destination. -/
def loaded (bus : MemoryBus) (w : ℕ) (physical : Word) : Word :=
  match w with
  | 8 => (bus.read8 physical .read).setWidth 64
  | 16 => (bus.read16 physical .read).setWidth 64
  | 32 => (bus.read32 physical .read).setWidth 64
  | _ => bus.read64 physical .read

/-- A TLB entry that a read of `addr` only adds its permission to leads to the data that the page tables lead to. -/
def ReadsBack (w : ℕ) (addr : Word) : Prop :=
  s.registers.isPagingEnabled = true → s.tlbHit addr .read = false →
    (s.tlb (tlbIndex addr)).vpage = addr >>> 12 →
      (s.registers.isUserMode = true → (s.tlb (tlbIndex addr)).userAccessible = true) →
        ∀ physical, s.translateAddress addr .read = .mapped physical →
          loaded s.bus w ((s.tlb (tlbIndex addr)).pbase ||| (addr &&& 0xFFF)) = loaded s.bus w physical

/-- The condition on the data that an instruction takes into `R15`. -/
def Reloads : DataAccess → Prop
  | .load w _ addr => s.ReadsBack w addr
  | .pop rd _ => (rd = 0 ∨ rd = 15) ∧ s.ReadsBack 64 (s.reg rd)
  | .loadLinked addr => s.ReadsBack 64 addr
  | _ => True

def isIret (instr : Instruction) : Prop :=
  instr.format = 3 ∧ ¬ instr.isUnconditionalJump = true ∧ GpOpcode.ofBits instr.opcodeGp = some .iret

end Cpu

section Undelivered

variable {s t : Cpu} {w : ℕ} {addr opPc : Word} {access : AccessType} {value : BitVec w}

def Undelivered (l : List (Cpu × Exception)) : Prop := ∀ x ∈ l, ¬ x.1.Delivers x.2.cause

lemma regs_of_undelivered {cause aux : Word} (h : Undelivered (s.accessRaised addr access opPc))
    (hm : s.mapResult addr access = .fault cause aux) :
    (s.raiseFault addr access opPc cause aux).2.registers.regs = s.registers.regs := by
  rw [Cpu.accessRaised, hm] at h
  have hn : ¬ s.Delivers cause := h _ (List.mem_singleton_self _)
  have hf : ¬ (s.raiseFault addr access opPc cause aux).1 = true :=
    fun hd => hn ((Cpu.raiseFault_delivers s addr access opPc cause aux).mp hd)
  exact (Cpu.raiseFault_notEntered (Bool.eq_false_iff.mpr hf)).regs

lemma regs_readMemory (busRead : MemoryBus → Word → AccessType → BitVec w)
    (h : Undelivered (s.accessRaised addr access opPc)) :
    (s.readMemory w busRead addr opPc access).2.registers.regs = s.registers.regs := by
  cases hm : s.mapResult addr access with
  | mapped physical =>
    obtain ⟨tlb, hr⟩ := Cpu.readMemory_mapped busRead opPc hm
    rw [hr]
  | fault cause aux =>
    rw [Cpu.readMemory_fault busRead opPc hm]
    exact regs_of_undelivered h hm

lemma regs_writeMemory (busWrite : MemoryBus → Word → BitVec w → AccessType → MemoryBus)
    (h : Undelivered (s.accessRaised addr .write opPc)) :
    (s.writeMemory w busWrite addr value opPc).registers.regs = s.registers.regs := by
  cases hm : s.mapResult addr .write with
  | mapped physical =>
    obtain ⟨tlb, valid, hr⟩ := Cpu.writeMemory_mapped busWrite value opPc hm
    rw [hr]
  | fault cause aux =>
    rw [Cpu.writeMemory_fault busWrite value opPc hm]
    exact regs_of_undelivered h hm

end Undelivered

/-- The registers with which the next instruction at the same address starts. -/
def Registers.restart (r : Registers) : Registers := (r.setReg 0 0).setReg 15 (r.regs 15 + 2)

lemma Registers.restart_regs {r r' : Registers} (h0 : r.regs 0 = 0) (h15 : r'.regs 15 = r.regs 15 - 2)
    (hi : ∀ i, i ≠ 0 → i ≠ 15 → r'.regs i = r.regs i) : r'.restart.regs = r.regs := by
  funext i
  change (if i = 15 then r'.regs 15 + 2 else if i = 0 then 0 else r'.regs i) = r.regs i
  by_cases hf : i = 15
  · rw [if_pos hf, hf, h15, BitVec.sub_add_cancel]
  by_cases hz : i = 0
  · rw [if_neg hf, if_pos hz, hz, h0]
  · rw [if_neg hf, if_neg hz, hi i hz hf]

lemma Registers.restart_eq {r r' : Registers} (h : r'.restart.regs = r.regs) : r'.restart = { r' with regs := r.regs } := by
  rw [← h]
  rfl

namespace Cpu

def withFlags (t : Cpu) (flags : Word) : Cpu := { t with registers := { t.registers with flags } }

/-- An instruction that reads `w` bits at `addr` and then sets its registers to `finish`. -/
structure Finishes (t : Cpu) (instr : Instruction) (w : ℕ) (busRead : MemoryBus → Word → AccessType → BitVec w)
    (addr opPc : Word) (finish : Word → Registers → Registers) : Prop where
  loads : ∀ bus physical, (busRead bus physical .read).setWidth 64 = loaded bus w physical
  dispatch : ∀ c : Cpu, c.registers.regs = t.registers.regs → c.dispatchInstruction instr =
    { (c.readMemory w busRead addr opPc .read).2 with
      registers := finish ((c.readMemory w busRead addr opPc .read).1.setWidth 64)
        (c.readMemory w busRead addr opPc .read).2.registers }
  control : ∀ v r, (finish v r).cpuControl = r.cpuControl
  root : ∀ v r, (finish v r).pageTableRootPhysical = r.pageTableRootPhysical
  restart : ∀ v, (finish v t.registers).regs 15 = t.reg 15 - 2 →
    (finish v t.registers).restart.regs = t.registers.regs
  again : ∀ v, finish v { finish v t.registers with regs := t.registers.regs } = finish v t.registers
  injective : ∀ v v' r, (finish v r).regs 15 = (finish v' r).regs 15 → v = v'

/-- The ways in which an instruction comes back to its own address without a trap. -/
inductive Returns (t : Cpu) (instr : Instruction) : Prop
  | moves : t.dataAccess instr = .none → ¬ isIret instr →
      t.dispatchInstruction instr = t.setReg 15 (t.reg 15 - 2) → Returns t instr
  | computes (carry : Bool) : t.dataAccess instr = .none → ¬ isIret instr →
      (∀ flags, (t.withFlags flags).dispatchInstruction instr =
        (t.withFlags flags).aluResult 15 (t.reg 15 - 2) carry) → Returns t instr
  | reads {w : ℕ} (busRead : MemoryBus → Word → AccessType → BitVec w) (addr opPc physical : Word)
      (finish : Word → Registers → Registers) : t.Finishes instr w busRead addr opPc finish →
      t.mapResult addr .read = .mapped physical → (t.Reloads (t.dataAccess instr) ↔ t.ReadsBack w addr) →
      ¬ isIret instr → Returns t instr
  | pops (rd : Reg) : t.dataAccess instr = .pop rd 15 → rd ≠ 0 → rd ≠ 15 →
      (∀ c : Cpu, (c.dispatchInstruction instr).reg rd = c.reg rd + 8) → Returns t instr
  | restores : t.dataAccess instr = .none → isIret instr → t.registers.isUserMode = false →
      t.registers.interruptEpc = t.reg 15 - 2 → Returns t instr

end Cpu

section Returns

open Cpu

variable {t : Cpu} {instr : Instruction} {w : ℕ}

lemma reg15_setReg (rd : Reg) (value : Word) : (t.setReg rd value).reg 15 = if 15 = rd then value else t.reg 15 := rfl

lemma sub_two_ne_self (x : Word) : x ≠ x - 2 := by bv_omega

lemma allOnes_odd (hw : 0 < w) : ((BitVec.allOnes w).setWidth 64).getLsbD 0 = true := by
  rw [BitVec.getLsbD_setWidth, BitVec.getLsbD_allOnes, decide_eq_true hw]
  rfl

lemma even_sub_two {x : Word} (h : x.getLsbD 0 = false) : (x - 2).getLsbD 0 = false := by
  rw [BitVec.getLsbD, Nat.testBit_zero, decide_eq_false_iff_not] at h ⊢
  bv_omega

/-- A read whose value goes into `R15` reads the address of the instruction, so it did not fault. -/
lemma mapped_of_even (busRead : MemoryBus → Word → AccessType → BitVec w) {addr : Word} (opPc : Word) (hw : 0 < w)
    (h : ((t.readMemory w busRead addr opPc .read).1.setWidth 64).getLsbD 0 = false) :
    ∃ physical, t.mapResult addr .read = .mapped physical := by
  cases hm : t.mapResult addr .read with
  | mapped physical => exact ⟨physical, rfl⟩
  | fault cause aux =>
    rw [readMemory_fault busRead opPc hm, allOnes_odd hw] at h
    cases h

lemma returns_load (busRead : MemoryBus → Word → AccessType → BitVec w) (rd : Reg) (addr : Word) (hw : 0 < w)
    (hloads : ∀ bus physical, (busRead bus physical .read).setWidth 64 = loaded bus w physical)
    (hd : ∀ c : Cpu, c.registers.regs = t.registers.regs →
      c.dispatchInstruction instr = c.load (fun s => s.readMemory w busRead) rd addr (t.reg 15 - 2))
    (hq : Undelivered (t.accessRaised addr .read (t.reg 15 - 2)))
    (h15 : (t.dispatchInstruction instr).reg 15 = t.reg 15 - 2) (heven : (t.reg 15).getLsbD 0 = false)
    (h0 : t.reg 0 = 0) (ha : t.dataAccess instr = .load w rd addr) (hi : ¬ isIret instr) : Returns t instr := by
  rw [hd t rfl, load, reg15_setReg] at h15
  by_cases hr : rd = 15
  · subst hr
    rw [if_pos rfl] at h15
    obtain ⟨physical, hm⟩ := mapped_of_even busRead (t.reg 15 - 2) hw (by rw [h15]; exact even_sub_two heven)
    refine .reads busRead addr (t.reg 15 - 2) physical (fun v r => r.setReg 15 v)
      ⟨hloads, fun c hc => ?_, fun _ _ => rfl, fun _ _ => rfl, fun v hv => ?_, fun _ => rfl, fun v v' r h => h⟩
      hm (by rw [ha]; rfl) hi
    · exact hd c hc
    · exact Registers.restart_regs h0 hv fun i _ hi => if_neg hi
  · rw [if_neg (Ne.symm hr)] at h15
    have hregs : (t.readMemory w busRead addr (t.reg 15 - 2) .read).2.reg 15 = t.reg 15 :=
      congrFun (regs_readMemory busRead hq) 15
    exact absurd (hregs.symm.trans h15) (sub_two_ne_self _)

lemma reg_readMemory (busRead : MemoryBus → Word → AccessType → BitVec w) (addr opPc : Word) (access : AccessType)
    {i : Reg} (hi : i ≠ 15) : (t.readMemory w busRead addr opPc access).2.reg i = t.reg i := by
  cases hm : t.mapResult addr access with
  | mapped physical =>
    obtain ⟨tlb, hr⟩ := readMemory_mapped busRead opPc hm
    rw [hr]
    rfl
  | fault cause aux =>
    rw [readMemory_fault busRead opPc hm]
    cases hd : (t.raiseFault addr access opPc cause aux).1 with
    | true =>
      obtain ⟨handler, hent⟩ := raiseFault_entered hd
      exact hent.regs i hi
    | false => exact congrFun (raiseFault_notEntered hd).regs i

lemma popped_injective {rd : Reg} (hr : rd = 0 ∨ rd = 15) {v v' : Word} {r : Registers}
    (h : ((r.setReg 15 v).setReg rd ((r.setReg 15 v).regs rd + 8)).regs 15 =
      ((r.setReg 15 v').setReg rd ((r.setReg 15 v').regs rd + 8)).regs 15) : v = v' := by
  rcases hr with rfl | rfl
  · exact h
  · exact (BitVec.add_left_inj 8).mp h

lemma returns_pop (rd rs1 : Reg)
    (hd : ∀ c : Cpu, c.dispatchInstruction instr =
      ((c.readMemory64 (c.reg rd) (c.reg 15 - 2) .read).2.setReg rs1
          (c.readMemory64 (c.reg rd) (c.reg 15 - 2) .read).1).setReg rd
        (((c.readMemory64 (c.reg rd) (c.reg 15 - 2) .read).2.setReg rs1
          (c.readMemory64 (c.reg rd) (c.reg 15 - 2) .read).1).reg rd + 8))
    (hq : Undelivered (t.accessRaised (t.reg rd) .read (t.reg 15 - 2)))
    (h15 : (t.dispatchInstruction instr).reg 15 = t.reg 15 - 2) (heven : (t.reg 15).getLsbD 0 = false)
    (h0 : t.reg 0 = 0) (ha : t.dataAccess instr = .pop rd rs1) (hi : ¬ isIret instr) : Returns t instr := by
  have hregs : (t.readMemory64 (t.reg rd) (t.reg 15 - 2) .read).2.reg 15 = t.reg 15 :=
    congrFun (regs_readMemory MemoryBus.read64 hq) 15
  have hother : rs1 ≠ 15 → False := fun hs => by
    rw [hd t, reg15_setReg] at h15
    by_cases hr : rd = 15
    · subst hr
      rw [if_pos rfl, reg15_setReg, if_neg (Ne.symm hs), hregs] at h15
      bv_omega
    · rw [if_neg (Ne.symm hr), reg15_setReg, if_neg (Ne.symm hs), hregs] at h15
      exact sub_two_ne_self _ h15
  by_cases hs : rs1 = 15
  case neg => exact (hother hs).elim
  subst hs
  have hmapped : (t.readMemory64 (t.reg rd) (t.reg 15 - 2) .read).1.getLsbD 0 = false →
      ∃ physical, t.mapResult (t.reg rd) .read = .mapped physical := fun h =>
    mapped_of_even MemoryBus.read64 (t.reg 15 - 2) (by decide) (by
      rw [BitVec.setWidth_eq]
      exact h)
  have hreads : (rd = 0 ∨ rd = 15) →
      (t.readMemory64 (t.reg rd) (t.reg 15 - 2) .read).1.getLsbD 0 = false → Returns t instr := fun hr hv => by
    obtain ⟨physical, hm⟩ := hmapped hv
    refine .reads MemoryBus.read64 (t.reg rd) (t.reg 15 - 2) physical
      (fun v r => (r.setReg 15 v).setReg rd ((r.setReg 15 v).regs rd + 8))
      ⟨fun _ _ => BitVec.setWidth_eq _, fun c hc => ?_, fun _ _ => rfl, fun _ _ => rfl, fun v h => ?_, fun _ => rfl,
        fun v v' r h => popped_injective hr h⟩ hm (by rw [ha]; exact and_iff_right hr) hi
    · rw [hd c, show c.reg rd = t.reg rd from congrFun hc rd, show c.reg 15 = t.reg 15 from congrFun hc 15]
      rw [BitVec.setWidth_eq]
      rfl
    · refine Registers.restart_regs h0 h fun i hz hf => ?_
      have hne : i ≠ rd := fun he => hr.elim (fun hr => hz (he.trans hr)) fun hr => hf (he.trans hr)
      exact (if_neg hne).trans (if_neg hf)
  rw [hd t, reg15_setReg] at h15
  by_cases hr : rd = 15
  · subst hr
    rw [if_pos rfl, reg15_setReg, if_pos rfl] at h15
    refine hreads (.inr rfl) ?_
    have heven' := even_sub_two heven
    rw [← h15] at heven'
    rw [BitVec.getLsbD, Nat.testBit_zero, decide_eq_false_iff_not] at heven' ⊢
    bv_omega
  · rw [if_neg (Ne.symm hr), reg15_setReg, if_pos rfl] at h15
    by_cases hz : rd = 0
    · refine hreads (.inl hz) ?_
      rw [h15]
      exact even_sub_two heven
    · refine .pops rd ha hz hr fun c => ?_
      rw [hd c]
      change (if rd = rd then _ else _) = _
      rw [if_pos rfl]
      congr 1
      exact (if_neg hr).trans (reg_readMemory MemoryBus.read64 _ _ .read hr)

lemma returns_move (rd : Reg) (value : Word) (hd : t.dispatchInstruction instr = t.setReg rd value)
    (h15 : (t.dispatchInstruction instr).reg 15 = t.reg 15 - 2) (ha : t.dataAccess instr = .none)
    (hi : ¬ isIret instr) : Returns t instr := by
  rw [hd, reg15_setReg] at h15
  by_cases hr : rd = 15
  · subst hr
    rw [if_pos rfl] at h15
    exact .moves ha hi (by rw [hd, h15])
  · rw [if_neg (Ne.symm hr)] at h15
    exact absurd h15 (sub_two_ne_self _)

lemma returns_jump (taken : Bool) (rd : Reg) (value : Word)
    (hd : t.dispatchInstruction instr = if taken then t.setReg rd value else t)
    (h15 : (t.dispatchInstruction instr).reg 15 = t.reg 15 - 2) (ha : t.dataAccess instr = .none)
    (hi : ¬ isIret instr) : Returns t instr := by
  cases taken with
  | true => exact returns_move rd value hd h15 ha hi
  | false =>
    rw [hd] at h15
    exact absurd h15 (sub_two_ne_self _)

lemma not_back_of_store {c : Cpu} (busWrite : MemoryBus → Word → BitVec w → AccessType → MemoryBus)
    (addr opPc : Word) (value : BitVec w) (hq : Undelivered (c.accessRaised addr .write opPc))
    (hc : c.reg 15 ≠ t.reg 15 - 2) (h15 : (c.writeMemory w busWrite addr value opPc).reg 15 = t.reg 15 - 2) : False := by
  have hregs : (c.writeMemory w busWrite addr value opPc).reg 15 = c.reg 15 :=
    congrFun (regs_writeMemory busWrite hq) 15
  exact hc (hregs.symm.trans h15)

lemma moved_ne_back (rd : Reg) {delta : Word} (hd : delta = 8 ∨ delta = -8) :
    (t.setReg rd (t.reg rd + delta)).reg 15 ≠ t.reg 15 - 2 := by
  rw [reg15_setReg]
  by_cases hr : rd = 15
  · subst hr
    rw [if_pos rfl]
    rcases hd with rfl | rfl <;> bv_omega
  · rw [if_neg (Ne.symm hr)]
    exact sub_two_ne_self _

lemma not_back_of_transfer (rd : Reg) (source : Word) {delta : Word} (hd : delta = 8 ∨ delta = -8)
    (target : Word → Word) {opPc : Word} (hq : Undelivered (t.transferRaised rd source delta target opPc))
    (h15 : (t.transfer rd source delta target opPc).reg 15 = t.reg 15 - 2) : False := by
  have hregs : (t.readMemory64 source opPc .read).2.registers.regs = t.registers.regs :=
    regs_readMemory MemoryBus.read64 fun x hx => hq x (List.mem_append_left _ hx)
  have h15' : (t.readMemory64 source opPc .read).2.reg 15 = t.reg 15 := congrFun hregs 15
  refine not_back_of_store (t := (t.readMemory64 source opPc .read).2) MemoryBus.write64 _ opPc
    (t.readMemory64 source opPc .read).1 (fun x hx => hq x (List.mem_append_right _ hx)) (moved_ne_back rd hd) ?_
  rw [h15']
  exact h15

lemma not_isIret_of_format (h : instr.format ≠ 3) : ¬ isIret instr := fun hi => h hi.1

lemma returns_lsReg (hf : instr.format = 0) (hq : Undelivered (t.dataRaised (t.lsRegAccess instr)))
    (h15 : (t.dispatchInstruction instr).reg 15 = t.reg 15 - 2) (heven : (t.reg 15).getLsbD 0 = false)
    (h0 : t.reg 0 = 0) : Returns t instr := by
  have hi : ¬ isIret instr := not_isIret_of_format (by rw [hf]; decide)
  have hd : ∀ c : Cpu, c.dispatchInstruction instr = c.dispatchLSReg instr := fun c => by
    rw [dispatchInstruction, hf]
    rfl
  have ha : t.dataAccess instr = t.lsRegAccess instr := by
    rw [dataAccess, hf]
    rfl
  have haddr : ∀ c : Cpu, c.registers.regs = t.registers.regs → c.reg instr.rs1 = t.reg instr.rs1 ∧ c.reg 15 = t.reg 15 :=
    fun c hc => ⟨congrFun hc _, congrFun hc _⟩
  simp only [lsRegAccess] at ha hq
  simp only [dispatchLSReg] at hd
  cases ho : LsOpcode.ofBits instr.opcodeLs with
  | load =>
    simp only [ho] at ha hq hd
    refine returns_load MemoryBus.read64 instr.rd _ (by decide) (fun _ _ => BitVec.setWidth_eq _) (fun c hc => ?_) hq h15
      heven h0 ha hi
    rw [hd, (haddr c hc).1, (haddr c hc).2]
    rfl
  | byteLoad =>
    simp only [ho] at ha hq hd
    refine returns_load MemoryBus.read8 instr.rd _ (by decide) (fun _ _ => rfl) (fun c hc => ?_) hq h15 heven h0 ha hi
    rw [hd, (haddr c hc).1, (haddr c hc).2]
    rfl
  | shortLoad =>
    simp only [ho] at ha hq hd
    refine returns_load MemoryBus.read16 instr.rd _ (by decide) (fun _ _ => rfl) (fun c hc => ?_) hq h15 heven h0 ha hi
    rw [hd, (haddr c hc).1, (haddr c hc).2]
    rfl
  | wordLoad =>
    simp only [ho] at ha hq hd
    refine returns_load MemoryBus.read32 instr.rd _ (by decide) (fun _ _ => rfl) (fun c hc => ?_) hq h15 heven h0 ha hi
    rw [hd, (haddr c hc).1, (haddr c hc).2]
    rfl
  | store =>
    simp only [ho] at hq hd
    rw [hd t] at h15
    exact (not_back_of_store MemoryBus.write64 _ _ _ hq (sub_two_ne_self _) h15).elim
  | byteStore =>
    simp only [ho] at hq hd
    rw [hd t] at h15
    exact (not_back_of_store MemoryBus.write8 _ _ _ hq (sub_two_ne_self _) h15).elim
  | shortStore =>
    simp only [ho] at hq hd
    rw [hd t] at h15
    exact (not_back_of_store MemoryBus.write16 _ _ _ hq (sub_two_ne_self _) h15).elim
  | wordStore =>
    simp only [ho] at hq hd
    rw [hd t] at h15
    exact (not_back_of_store MemoryBus.write32 _ _ _ hq (sub_two_ne_self _) h15).elim
  | push =>
    simp only [ho] at hq hd
    have hpointer : (t.setReg instr.rd (t.reg instr.rd + -8)).reg instr.rd = t.reg instr.rd + -8 := if_pos rfl
    rw [hd t, BitVec.sub_eq_add_neg (t.reg instr.rd) 8, hpointer] at h15
    exact (not_back_of_store MemoryBus.write64 _ _ _ hq (moved_ne_back instr.rd (.inr rfl)) h15).elim
  | pop =>
    simp only [ho] at ha hq hd
    exact returns_pop instr.rd instr.rs1 hd hq h15 heven h0 ha hi
  | move =>
    simp only [ho] at ha hd
    exact returns_move instr.rd _ (hd t) h15 ha hi
  | jumpZ | jumpC | jumpS | jumpGT | jumpLT =>
    simp only [ho] at ha hd
    exact returns_jump _ instr.rd _ (hd t) h15 ha hi

lemma returns_lsPCRel (hf : instr.format = 1) (hq : Undelivered (t.dataRaised (t.lsPCRelAccess instr)))
    (h15 : (t.dispatchInstruction instr).reg 15 = t.reg 15 - 2) (heven : (t.reg 15).getLsbD 0 = false)
    (h0 : t.reg 0 = 0) : Returns t instr := by
  have hi : ¬ isIret instr := not_isIret_of_format (by rw [hf]; decide)
  have hd : ∀ c : Cpu, c.dispatchInstruction instr = c.dispatchLSPCRel instr := fun c => by
    rw [dispatchInstruction, hf]
    rfl
  have ha : t.dataAccess instr = t.lsPCRelAccess instr := by
    rw [dataAccess, hf]
    rfl
  have hpc : ∀ c : Cpu, c.registers.regs = t.registers.regs → c.reg 15 = t.reg 15 := fun c hc => congrFun hc _
  simp only [lsPCRelAccess] at ha hq
  simp only [dispatchLSPCRel] at hd
  cases ho : LsOpcode.ofBits instr.opcodeLs with
  | load =>
    simp only [ho] at ha hq hd
    refine returns_load MemoryBus.read64 instr.rd _ (by decide) (fun _ _ => BitVec.setWidth_eq _) (fun c hc => ?_) hq h15
      heven h0 ha hi
    rw [hd, hpc c hc]
    rfl
  | byteLoad =>
    simp only [ho] at ha hq hd
    refine returns_load MemoryBus.read8 instr.rd _ (by decide) (fun _ _ => rfl) (fun c hc => ?_) hq h15 heven h0 ha hi
    rw [hd, hpc c hc]
    rfl
  | shortLoad =>
    simp only [ho] at ha hq hd
    refine returns_load MemoryBus.read16 instr.rd _ (by decide) (fun _ _ => rfl) (fun c hc => ?_) hq h15 heven h0 ha hi
    rw [hd, hpc c hc]
    rfl
  | wordLoad =>
    simp only [ho] at ha hq hd
    refine returns_load MemoryBus.read32 instr.rd _ (by decide) (fun _ _ => rfl) (fun c hc => ?_) hq h15 heven h0 ha hi
    rw [hd, hpc c hc]
    rfl
  | store =>
    simp only [ho] at hq hd
    rw [hd t] at h15
    exact (not_back_of_store MemoryBus.write64 _ _ _ hq (sub_two_ne_self _) h15).elim
  | byteStore =>
    simp only [ho] at hq hd
    rw [hd t] at h15
    exact (not_back_of_store MemoryBus.write8 _ _ _ hq (sub_two_ne_self _) h15).elim
  | shortStore =>
    simp only [ho] at hq hd
    rw [hd t] at h15
    exact (not_back_of_store MemoryBus.write16 _ _ _ hq (sub_two_ne_self _) h15).elim
  | wordStore =>
    simp only [ho] at hq hd
    rw [hd t] at h15
    exact (not_back_of_store MemoryBus.write32 _ _ _ hq (sub_two_ne_self _) h15).elim
  | push =>
    simp only [ho] at hq hd
    rw [hd t, pushFrom_eq] at h15
    exact (not_back_of_transfer instr.rd _ (.inr rfl) id hq h15).elim
  | pop =>
    simp only [ho] at hq hd
    rw [hd t] at h15
    exact (not_back_of_transfer instr.rd _ (.inl rfl) (fun _ => _) hq h15).elim
  | move =>
    simp only [ho] at ha hd
    exact returns_move instr.rd _ (hd t) h15 ha hi
  | jumpZ | jumpC | jumpS | jumpGT | jumpLT =>
    simp only [ho] at ha hd
    exact returns_jump _ 15 _ (hd t) h15 ha hi

lemma dispatchLDI_eq (t : Cpu) (instr : Instruction) : ∃ value, t.dispatchLDI instr = t.setReg instr.rd value := by
  rw [dispatchLDI]
  simp only
  split_ifs
  · exact ⟨_, rfl⟩
  · exact ⟨_, setReg_setReg _ _ _⟩
  · exact ⟨_, rfl⟩

/-- An operation whose result and carry do not depend on the flags. -/
def IgnoresFlags (t : Cpu) (rd : Reg) (f : Cpu → Cpu) : Prop :=
  ∃ result carry, ∀ flags, f (t.withFlags flags) = (t.withFlags flags).aluResult rd result carry

lemma ignoresFlags_ite (taken : Prop) [Decidable taken] {rd : Reg} {f g : Cpu → Cpu} (hf : IgnoresFlags t rd f)
    (hg : IgnoresFlags t rd g) : IgnoresFlags t rd fun c => if taken then f c else g c := by
  by_cases ht : taken
  · simp only [ht, if_true]
    exact hf
  · simp only [ht, if_false]
    exact hg

lemma ignoresFlags_alu (rd : Reg) (result : Word) (carry : Bool) :
    IgnoresFlags t rd fun c => c.aluResult rd result carry := ⟨result, carry, fun _ => rfl⟩

lemma ignoresFlags_sll (rd : Reg) (a : Word) (count : ℕ) : IgnoresFlags t rd fun c => c.shiftLeftLogical rd a count :=
  ignoresFlags_ite _ (ignoresFlags_alu _ _ _) (ignoresFlags_alu _ _ _)

lemma ignoresFlags_srl (rd : Reg) (a : Word) (count : ℕ) : IgnoresFlags t rd fun c => c.shiftRightLogical rd a count :=
  ignoresFlags_ite _ (ignoresFlags_alu _ _ _) (ignoresFlags_alu _ _ _)

lemma ignoresFlags_sra (rd : Reg) (a : Word) (count : ℕ) :
    IgnoresFlags t rd fun c => c.shiftRightArithmetic rd a count :=
  ignoresFlags_ite _ (ignoresFlags_alu _ _ _) (ignoresFlags_alu _ _ _)

lemma IgnoresFlags.congr {rd : Reg} {f g : Cpu → Cpu} (hg : IgnoresFlags t rd g)
    (h : ∀ flags, f (t.withFlags flags) = g (t.withFlags flags)) : IgnoresFlags t rd f := by
  obtain ⟨result, carry, hr⟩ := hg
  exact ⟨result, carry, fun flags => (h flags).trans (hr flags)⟩

lemma returns_alu (rd : Reg) (hf : IgnoresFlags t rd (·.dispatchInstruction instr))
    (h15 : (t.dispatchInstruction instr).reg 15 = t.reg 15 - 2) (ha : t.dataAccess instr = .none)
    (hi : ¬ isIret instr) : Returns t instr := by
  obtain ⟨result, carry, hd⟩ := hf
  have ht : (t.aluResult rd result carry).reg 15 = t.reg 15 - 2 := by
    rw [← h15]
    exact congrArg (·.reg 15) (hd t.registers.flags).symm
  rw [aluResult, reg15_setReg] at ht
  by_cases hr : rd = 15
  · subst hr
    rw [if_pos rfl] at ht
    exact .computes carry ha hi (ht ▸ hd)
  · rw [if_neg (Ne.symm hr)] at ht
    exact absurd ht (sub_two_ne_self _)

lemma returns_llr (hd : ∀ c : Cpu, c.registers.regs = t.registers.regs → c.dispatchInstruction instr =
      { c.load readMemory64 instr.rd (t.reg instr.rs1) (t.reg 15) with
        registers := { (c.load readMemory64 instr.rd (t.reg instr.rs1) (t.reg 15)).registers with
          llReservationAddr := t.reg instr.rs1
          llReservationValid := true } })
    (hq : Undelivered (t.accessRaised (t.reg instr.rs1) .read (t.reg 15)))
    (h15 : (t.dispatchInstruction instr).reg 15 = t.reg 15 - 2) (heven : (t.reg 15).getLsbD 0 = false)
    (h0 : t.reg 0 = 0) (ha : t.dataAccess instr = .loadLinked (t.reg instr.rs1)) (hi : ¬ isIret instr) :
    Returns t instr := by
  rw [hd t rfl] at h15
  change (t.load readMemory64 instr.rd (t.reg instr.rs1) (t.reg 15)).reg 15 = _ at h15
  rw [load, reg15_setReg] at h15
  by_cases hr : instr.rd = 15
  · rw [if_pos hr.symm] at h15
    obtain ⟨physical, hm⟩ := mapped_of_even MemoryBus.read64 (t.reg 15) (by decide) (by
      change ((t.readMemory64 (t.reg instr.rs1) (t.reg 15) .read).1.setWidth 64).getLsbD 0 = false
      rw [h15]
      exact even_sub_two heven)
    refine .reads MemoryBus.read64 (t.reg instr.rs1) (t.reg 15) physical
      (fun v r => { r.setReg 15 v with llReservationAddr := t.reg instr.rs1, llReservationValid := true })
      ⟨fun _ _ => BitVec.setWidth_eq _, fun c hc => ?_, fun _ _ => rfl, fun _ _ => rfl, fun v hv => ?_, fun _ => rfl,
        fun v v' r h => h⟩ hm (by rw [ha]; rfl) hi
    · rw [hd c hc, load, hr]
      rfl
    · exact Registers.restart_regs h0 hv fun i _ hi => if_neg hi
  · rw [if_neg (Ne.symm hr)] at h15
    have hregs : (t.readMemory64 (t.reg instr.rs1) (t.reg 15) .read).2.reg 15 = t.reg 15 :=
      congrFun (regs_readMemory MemoryBus.read64 hq) 15
    exact absurd (hregs.symm.trans h15) (sub_two_ne_self _)

lemma regs_setSpecialRegister (selector value : Word) (r : Registers) :
    (r.setSpecialRegister selector value).regs = r.regs := by
  rw [Registers.setSpecialRegister]
  cases SpecialRegister.ofSelector selector with
  | none => rfl
  | some register => cases register <;> rfl

lemma reg15_executeHypercall (t : Cpu) : t.executeHypercall.reg 15 = t.reg 15 := by
  rw [executeHypercall]
  simp only
  split_ifs <;> rfl

lemma allowed_of_no_trap {accessible user : Bool} {cause : Word}
    (h : (if accessible = true then none else if user = true then some cause else none) = none) :
    ¬ (user && !accessible) = true := by
  cases accessible with
  | true => exact fun hc => Bool.noConfusion (hc.symm.trans (Bool.and_false user))
  | false =>
    cases user with
    | true => cases h
    | false => exact Bool.false_ne_true

lemma returns_gp (hf : instr.format = 3) (hj : ¬ instr.isUnconditionalJump = true) (hg : t.gpTrap instr = none)
    (hq : Undelivered (t.dataRaised (t.gpAccess instr)))
    (h15 : (t.dispatchInstruction instr).reg 15 = t.reg 15 - 2) (heven : (t.reg 15).getLsbD 0 = false)
    (h0 : t.reg 0 = 0) : Returns t instr := by
  have hd : ∀ c : Cpu, c.dispatchInstruction instr = c.dispatchGP instr := fun c => by
    rw [dispatchInstruction, hf]
    exact if_neg hj
  have ha : t.dataAccess instr = t.gpAccess instr := by
    rw [dataAccess, hf]
    exact if_neg hj
  have hi : GpOpcode.ofBits instr.opcodeGp ≠ some .iret → ¬ isIret instr := fun h hi => h hi.2.2
  have hkept : (t.dispatchInstruction instr).reg 15 = t.reg 15 → Returns t instr := fun h =>
    absurd (h.symm.trans h15) (sub_two_ne_self _)
  simp only [gpTrap] at hg
  simp only [gpAccess] at ha hq
  simp only [dispatchGP] at hd
  cases ho : GpOpcode.ofBits instr.opcodeGp with
  | none =>
    rw [ho] at hg
    cases hg
  | some op =>
    simp only [ho] at hg ha hq hd hi
    cases op with
    | syscall => cases hg
    | test => exact hkept (by rw [hd t]; rfl)
    | add =>
      have hf : IgnoresFlags t instr.rd (·.dispatchInstruction instr) :=
        ⟨t.reg instr.rd + t.reg instr.rs1, decide (t.reg instr.rd + t.reg instr.rs1 < t.reg instr.rd), fun flags => hd (t.withFlags flags)⟩
      exact returns_alu instr.rd hf h15 ha (hi (by decide))
    | sub =>
      have hf : IgnoresFlags t instr.rd (·.dispatchInstruction instr) :=
        ⟨t.reg instr.rd - t.reg instr.rs1, decide (t.reg instr.rd < t.reg instr.rs1), fun flags => hd (t.withFlags flags)⟩
      exact returns_alu instr.rd hf h15 ha (hi (by decide))
    | and =>
      have hf : IgnoresFlags t instr.rd (·.dispatchInstruction instr) :=
        ⟨t.reg instr.rd &&& t.reg instr.rs1, false, fun flags => hd (t.withFlags flags)⟩
      exact returns_alu instr.rd hf h15 ha (hi (by decide))
    | or =>
      have hf : IgnoresFlags t instr.rd (·.dispatchInstruction instr) :=
        ⟨t.reg instr.rd ||| t.reg instr.rs1, false, fun flags => hd (t.withFlags flags)⟩
      exact returns_alu instr.rd hf h15 ha (hi (by decide))
    | xor =>
      have hf : IgnoresFlags t instr.rd (·.dispatchInstruction instr) :=
        ⟨t.reg instr.rd ^^^ t.reg instr.rs1, false, fun flags => hd (t.withFlags flags)⟩
      exact returns_alu instr.rd hf h15 ha (hi (by decide))
    | sll =>
      have hf : IgnoresFlags t instr.rd (·.dispatchInstruction instr) :=
        (ignoresFlags_ite (64 ≤ (t.reg instr.rs1).toNat) (ignoresFlags_alu instr.rd 0 false)
          (ignoresFlags_sll instr.rd (t.reg instr.rd) (t.reg instr.rs1).toNat)).congr fun flags => hd (t.withFlags flags)
      exact returns_alu instr.rd hf h15 ha (hi (by decide))
    | srl =>
      have hf : IgnoresFlags t instr.rd (·.dispatchInstruction instr) :=
        (ignoresFlags_ite (64 ≤ (t.reg instr.rs1).toNat) (ignoresFlags_alu instr.rd 0 false)
          (ignoresFlags_srl instr.rd (t.reg instr.rd) (t.reg instr.rs1).toNat)).congr fun flags => hd (t.withFlags flags)
      exact returns_alu instr.rd hf h15 ha (hi (by decide))
    | sra =>
      have hf : IgnoresFlags t instr.rd (·.dispatchInstruction instr) :=
        (ignoresFlags_ite (64 ≤ (t.reg instr.rs1).toNat)
          (ignoresFlags_alu instr.rd (if (t.reg instr.rd).msb then BitVec.allOnes 64 else 0) false)
          (ignoresFlags_sra instr.rd (t.reg instr.rd) (t.reg instr.rs1).toNat)).congr fun flags => hd (t.withFlags flags)
      exact returns_alu instr.rd hf h15 ha (hi (by decide))
    | slli =>
      have hf : IgnoresFlags t instr.rd (·.dispatchInstruction instr) :=
        (ignoresFlags_sll instr.rd (t.reg instr.rd) instr.rs1.toNat).congr fun flags => hd (t.withFlags flags)
      exact returns_alu instr.rd hf h15 ha (hi (by decide))
    | srli =>
      have hf : IgnoresFlags t instr.rd (·.dispatchInstruction instr) :=
        (ignoresFlags_srl instr.rd (t.reg instr.rd) instr.rs1.toNat).congr fun flags => hd (t.withFlags flags)
      exact returns_alu instr.rd hf h15 ha (hi (by decide))
    | srai =>
      have hf : IgnoresFlags t instr.rd (·.dispatchInstruction instr) :=
        (ignoresFlags_sra instr.rd (t.reg instr.rd) instr.rs1.toNat).congr fun flags => hd (t.withFlags flags)
      exact returns_alu instr.rd hf h15 ha (hi (by decide))
    | llr =>
      have hregs : ∀ c : Cpu, c.registers.regs = t.registers.regs → c.reg instr.rs1 = t.reg instr.rs1 ∧ c.reg 15 = t.reg 15 :=
        fun c hc => ⟨congrFun hc _, congrFun hc _⟩
      refine returns_llr (fun c hc => ?_) hq h15 heven h0 ha (hi (by decide))
      rw [hd c, (hregs c hc).1, (hregs c hc).2]
    | scr =>
      refine hkept ?_
      rw [hd t]
      by_cases hr : (t.registers.llReservationValid && t.registers.llReservationAddr == t.reg instr.rs1) = true
      · rw [if_pos hr] at hq ⊢
        exact congrFun (regs_writeMemory MemoryBus.write64 hq) 15
      · rw [if_neg hr]
        rfl
    | lsr =>
      simp only at hd hg
      exact returns_move instr.rd (t.registers.getSpecialRegister (SpecialRegister.normalizeSelector (t.reg instr.rs1)))
        ((hd t).trans (if_neg (allowed_of_no_trap hg))) h15 ha (hi (by decide))
    | ssr =>
      simp only at hd hg
      refine hkept ?_
      rw [hd t, if_neg (allowed_of_no_trap hg)]
      by_cases hh : SpecialRegister.ofSelector (SpecialRegister.normalizeSelector (t.reg instr.rs1)) =
          some .hypercallCaps
      · rw [if_pos hh, reg15_executeHypercall]
        split_ifs <;> exact congrFun (regs_setSpecialRegister _ _ _) 15
      · rw [if_neg hh]
        split_ifs <;> exact congrFun (regs_setSpecialRegister _ _ _) 15
    | iret =>
      simp only at hd hg
      split at hg
      · cases hg
      · next hu =>
        rw [hd t, if_neg hu] at h15
        exact .restores ha ⟨hf, hj, ho⟩ (Bool.not_eq_true _ ▸ hu) h15
    | stop =>
      simp only at hd hg
      split at hg
      · cases hg
      · next hu =>
        exact hkept (by rw [hd t, if_neg hu]; rfl)

/-- Every instruction that comes back to its own address without a trap does so in one of these ways. -/
theorem returns_of_back (t : Cpu) (instr : Instruction) (hq : Undelivered (t.raisedBy instr))
    (h15 : (t.dispatchInstruction instr).reg 15 = t.reg 15 - 2) (heven : (t.reg 15).getLsbD 0 = false)
    (h0 : t.reg 0 = 0) : Returns t instr := by
  rw [raisedBy] at hq
  cases hc : t.instructionTrapOf instr with
  | some cause =>
    rw [hc] at hq
    have hn : ¬ t.Delivers cause := hq _ (List.mem_singleton_self _)
    have hr : (t.raise (.instruction cause)).1 = false :=
      Bool.eq_false_iff.mpr fun h => hn ((raise_delivers t (.instruction cause)).mp h)
    rw [dispatchInstruction_trap t instr hc] at h15
    have hregs : (t.raise (.instruction cause)).2.reg 15 = t.reg 15 := congrFun (raiseInterrupt_refused hr).regs 15
    exact absurd (hregs.symm.trans h15) (sub_two_ne_self _)
  | none =>
    rw [hc] at hq
    have hf : ∀ f : BitVec 2, f = 0 ∨ f = 1 ∨ f = 2 ∨ f = 3 := by decide
    have hq' := hq
    simp only [dataAccess] at hq'
    rcases hf instr.format with h | h | h | h
    · rw [h] at hq'
      exact returns_lsReg h hq' h15 heven h0
    · rw [h] at hq'
      exact returns_lsPCRel h hq' h15 heven h0
    · obtain ⟨value, hv⟩ := dispatchLDI_eq t instr
      refine returns_move instr.rd value ?_ h15 ?_ (not_isIret_of_format (by rw [h]; decide))
      · rw [dispatchInstruction, h]
        exact hv
      · rw [dataAccess, h]
        rfl
    · by_cases hj : instr.isUnconditionalJump = true
      · refine returns_move 15 (t.reg 15 + instr.pcRel.signExtend 64 * 2) ?_ h15 ?_ fun hi => hi.2.1 hj
        · rw [dispatchInstruction, h]
          exact if_pos hj
        · rw [dataAccess, h]
          exact if_pos hj
      · rw [h] at hq'
        rw [show (if instr.isUnconditionalJump = true then DataAccess.none else t.gpAccess instr) =
          t.gpAccess instr from if_neg hj] at hq'
        exact returns_gp h hj ((if_pos ⟨h, hj⟩).symm.trans hc) hq' h15 heven h0

end Returns

end Little64.Emulator

import Mathlib.Logic.Function.Iterate
import Little64.Emulator.SelfLoop

/-! The self-loop check of a cycle: which instructions that come back to their own address stay there. -/

namespace Little64.Emulator

namespace Cpu

variable (s : Cpu)

/-- The self-loop check of `cycle` stops the machine. -/
def LocksUp : Prop :=
  ∃ t instr, s.dispatching = some (t, instr) ∧ (t.dispatchInstruction instr).isRunning = true ∧
    (t.dispatchInstruction instr).reg 15 = s.reg 15 ∧
      (t.dispatchInstruction instr).registers.isInterruptEnabled = false

/-- The instruction executed once more, at the address in `R15`. -/
def executeAgain (instr : Instruction) : Cpu :=
  ((s.setReg 0 0).setReg 15 (s.reg 15 + 2)).dispatchInstruction instr

/-- There is nothing left to happen: no handler was entered, and the instruction executed again, however often,
leaves registers and memory unchanged, `R15` among them. -/
structure MakesNoProgress : Prop where
  handler : ∀ x ∈ s.raisedInCycle, (x.1.raise x.2).1 = false
  unchanged : ∀ t instr, s.dispatching = some (t, instr) → ∀ n,
    ((executeAgain · instr)^[n] (t.dispatchInstruction instr)).registers = (t.dispatchInstruction instr).registers ∧
      ((executeAgain · instr)^[n] (t.dispatchInstruction instr)).bus = (t.dispatchInstruction instr).bus

/-- An instruction that finds at its own address what it found there before: it takes no trap, a `POP` does not move
its pointer on, an `IRET` stays in supervisor mode, and what it loads is not served from a stale TLB entry. -/
structure Settles : Prop where
  undelivered : ∀ x ∈ s.raisedInCycle, ¬ x.1.Delivers x.2.cause
  reloads : ∀ t instr, s.dispatching = some (t, instr) → t.Reloads (t.dataAccess instr)
  iret : ∀ t instr, s.dispatching = some (t, instr) → isIret instr →
    t.registers.interruptCpuControl &&& Registers.cpuControlUserMode = 0

end Cpu

section Again

open Cpu

variable {t u : Cpu} {instr : Instruction} {w : ℕ}

/-- The instruction executed again, however often, changes neither registers nor memory. -/
def Unchanged (u : Cpu) (instr : Instruction) : Prop :=
  ∀ n, ((executeAgain · instr)^[n] u).registers = u.registers ∧ ((executeAgain · instr)^[n] u).bus = u.bus

lemma executeAgain_eq (u : Cpu) (instr : Instruction) :
    u.executeAgain instr = { u with registers := u.registers.restart }.dispatchInstruction instr := rfl

lemma unchanged_of_fixed (h : u.executeAgain instr = u) : Unchanged u instr := fun n => by
  have hn : (executeAgain · instr)^[n] u = u := Function.iterate_fixed h n
  rw [hn]
  exact ⟨rfl, rfl⟩

lemma Unchanged.once (h : Unchanged u instr) : (u.executeAgain instr).registers = u.registers := (h 1).1

lemma unchanged_moves (h0 : t.reg 0 = 0) (hd : t.dispatchInstruction instr = t.setReg 15 (t.reg 15 - 2)) :
    Unchanged (t.dispatchInstruction instr) instr := by
  apply unchanged_of_fixed
  have hregs : (t.setReg 15 (t.reg 15 - 2)).registers.restart.regs = t.registers.regs :=
    Registers.restart_regs h0 rfl fun i _ hi => if_neg hi
  have hrestart : { t.setReg 15 (t.reg 15 - 2) with
      registers := (t.setReg 15 (t.reg 15 - 2)).registers.restart } = t := by
    rw [Registers.restart_eq hregs]
    rfl
  rw [executeAgain_eq, hd, hrestart, hd]

lemma unchanged_computes {carry : Bool} (h0 : t.reg 0 = 0)
    (hd : ∀ flags, (t.withFlags flags).dispatchInstruction instr =
      (t.withFlags flags).aluResult 15 (t.reg 15 - 2) carry) :
    Unchanged (t.dispatchInstruction instr) instr := by
  apply unchanged_of_fixed
  have ht : t.dispatchInstruction instr = t.aluResult 15 (t.reg 15 - 2) carry := hd t.registers.flags
  have hregs : (t.aluResult 15 (t.reg 15 - 2) carry).registers.restart.regs = t.registers.regs :=
    Registers.restart_regs h0 rfl fun i _ hi => if_neg hi
  have hrestart : { t.aluResult 15 (t.reg 15 - 2) carry with
      registers := (t.aluResult 15 (t.reg 15 - 2) carry).registers.restart } =
        t.withFlags (t.aluResult 15 (t.reg 15 - 2) carry).registers.flags := by
    rw [Registers.restart_eq hregs]
    rfl
  rw [executeAgain_eq, ht, hrestart, hd]
  rfl

lemma dispatch_iret (hi : isIret instr) (c : Cpu) : c.dispatchInstruction instr =
    if c.registers.isUserMode then c.instructionTrap Vectors.trapPrivilegedInstruction
    else
      { c.setReg 15 c.registers.interruptEpc with registers := { (c.setReg 15 c.registers.interruptEpc).registers with
          flags := c.registers.interruptEflags
          cpuControl := c.registers.interruptCpuControl } }.flushTLB := by
  obtain ⟨hf, hj, ho⟩ := hi
  have hg : c.dispatchInstruction instr = c.dispatchGP instr := by
    rw [dispatchInstruction, hf]
    exact if_neg hj
  rw [hg, dispatchGP]
  simp only [ho]

/-- A trap either enters the supervisor or leaves `R15` behind the instruction. -/
lemma instructionTrap_changes (c : Cpu) (cause : Word) :
    (c.instructionTrap cause).registers.isUserMode = false ∨ (c.instructionTrap cause).reg 15 = c.reg 15 := by
  cases hr : (c.raise (.instruction cause)).1 with
  | true =>
    obtain ⟨handler, _, he⟩ := raiseInterrupt_entered hr
    left
    rw [instructionTrap, he]
    exact Registers.isUserMode_entering rfl
  | false => exact .inr (congrFun (raiseInterrupt_refused hr).regs 15)

lemma unchanged_restores_iff (h0 : t.reg 0 = 0) (hi : isIret instr) (hu : t.registers.isUserMode = false)
    (hepc : t.registers.interruptEpc = t.reg 15 - 2) :
    Unchanged (t.dispatchInstruction instr) instr ↔
      t.registers.interruptCpuControl &&& Registers.cpuControlUserMode = 0 := by
  have hd := dispatch_iret hi t
  rw [if_neg (by rw [hu]; exact Bool.false_ne_true)] at hd
  generalize ht : t.dispatchInstruction instr = u at hd
  have hregs : u.registers.restart.regs = t.registers.regs := by
    rw [hd]
    exact Registers.restart_regs h0 hepc fun i _ hi => if_neg hi
  obtain ⟨c, hc⟩ : ∃ c : Cpu, c = { u with registers := { u.registers with regs := t.registers.regs } } := ⟨_, rfl⟩
  have hagain : u.executeAgain instr = c.dispatchInstruction instr := by
    rw [executeAgain_eq, Registers.restart_eq hregs, hc]
  have hmode : c.registers.isUserMode = u.registers.isUserMode := by rw [hc]; rfl
  have hcontrol : u.registers.cpuControl = t.registers.interruptCpuControl := by rw [hd]; rfl
  constructor
  · intro h
    by_contra hne
    have huser : u.registers.isUserMode = true := by
      rw [Registers.isUserMode, hcontrol]
      exact bne_iff_ne.mpr hne
    have honce := h.once
    rw [hagain, dispatch_iret hi c, if_pos (hmode.trans huser)] at honce
    rcases instructionTrap_changes c Vectors.trapPrivilegedInstruction with hs | hs
    · rw [honce, huser] at hs
      cases hs
    · have h15 : u.reg 15 = t.reg 15 - 2 := by rw [hd]; exact hepc
      have hc15 : c.reg 15 = t.reg 15 := by rw [hc]; rfl
      rw [reg, honce, hc15] at hs
      exact sub_two_ne_self _ (hs.symm.trans h15)
  · intro hz
    have huser : c.registers.isUserMode = false := by
      rw [hmode, Registers.isUserMode, hcontrol]
      exact Bool.eq_false_iff.mpr fun h => bne_iff_ne.mp h hz
    apply unchanged_of_fixed
    rw [hagain, dispatch_iret hi c, if_neg (by rw [huser]; exact Bool.false_ne_true), hc, hd]
    rfl

lemma not_unchanged_pops {rd : Reg} (h0 : rd ≠ 0) (h15 : rd ≠ 15)
    (hd : ∀ c : Cpu, (c.dispatchInstruction instr).reg rd = c.reg rd + 8) : ¬ Unchanged u instr := by
  intro h
  have hreg : (u.executeAgain instr).reg rd = u.reg rd + 8 := by
    rw [executeAgain_eq, hd]
    exact congrArg (· + 8) ((if_neg h15).trans (if_neg h0))
  rw [reg, h.once, reg] at hreg
  bv_omega

section Reads

variable {c : Cpu} {addr opPc physical : Word}

/-- The TLB after a read of `addr` that went to `physical`. -/
def afterRead (c : Cpu) (addr physical : Word) : Cpu :=
  if c.registers.isPagingEnabled = true ∧ c.tlbHit addr .read = false then c.fillTlb addr .read physical else c

lemma mapAddress_read (opPc : Word) (hm : c.mapResult addr .read = .mapped physical) :
    c.mapAddress addr .read opPc = (.mapped physical, afterRead c addr physical) := by
  have hx : ¬ (AccessType.read = .execute ∧ addr &&& 1 ≠ 0) := fun h => by cases h.1
  unfold mapResult at hm
  unfold mapAddress afterRead
  rw [if_neg hx]
  by_cases hp : c.registers.isPagingEnabled = true
  case neg =>
    rw [if_neg fun h => hp h.2.1, translateAddress,
      AddressTranslator.translate_disabled (Bool.eq_false_iff.mpr hp) hx] at hm
    rw [if_pos (by rw [Bool.eq_false_iff.mpr hp]; rfl), if_neg fun h => hp h.1, PagingTranslateResult.mapped.inj hm]
  rw [if_neg (by rw [hp]; decide)]
  by_cases hh : c.tlbHit addr .read = true
  · rw [if_pos ⟨hx, hp, hh⟩] at hm
    rw [if_pos hh, if_neg fun h => Bool.noConfusion (hh.symm.trans h.2), PagingTranslateResult.mapped.inj hm]
  · rw [if_neg fun h => hh h.2.2] at hm
    rw [if_neg hh, if_pos ⟨hp, Bool.eq_false_iff.mpr hh⟩, mapAddressSlowPath, hm]
    exact congrArg (Prod.mk _) (if_pos hp)

lemma readMemory_read (busRead : MemoryBus → Word → AccessType → BitVec w) (opPc : Word)
    (hm : c.mapResult addr .read = .mapped physical) : ∃ events,
      c.readMemory w busRead addr opPc .read =
        (busRead c.bus physical .read, { c with tlb := (afterRead c addr physical).tlb, events }) := by
  obtain ⟨tlb, hr⟩ := readMemory_mapped busRead opPc hm
  have ht : tlb = (afterRead c addr physical).tlb := by
    have hfill : (c.readMemory w busRead addr opPc .read).2.tlb = (c.mapAddress addr .read opPc).2.tlb := by
      rw [readMemory, mapAddress_read opPc hm]
      rfl
    rw [hr, mapAddress_read opPc hm] at hfill
    exact hfill
  exact ⟨_, ht ▸ hr⟩

lemma permits_read (perms : BitVec 8) : (perms ||| accessBit .read) &&& accessBit .read ≠ 0 := by
  intro h
  have h0 := congrArg (·.getLsbD 0) h
  simp [accessBit, accessNumber] at h0

lemma tlb_fill (c : Cpu) (addr physical : Word) : (c.fillTlb addr .read physical).tlb (tlbIndex addr) =
    if (c.tlb (tlbIndex addr)).vpage = addr >>> 12 then
      { c.tlb (tlbIndex addr) with perms := (c.tlb (tlbIndex addr)).perms ||| accessBit .read }
    else ⟨addr >>> 12, physical &&& ~~~0xFFF, accessBit .read, c.registers.isUserMode⟩ := if_pos rfl

lemma tlbHit_fill_held (hv : (c.tlb (tlbIndex addr)).vpage = addr >>> 12) :
    (c.fillTlb addr .read physical).tlbHit addr .read =
      (!c.registers.isUserMode || (c.tlb (tlbIndex addr)).userAccessible) := by
  rw [tlbHit, tlb_fill, if_pos hv]
  simp only [hv, beq_self_eq_true, bne_iff_ne.mpr (permits_read _), Bool.true_and]
  rfl

lemma tlbHit_fill_new (hv : (c.tlb (tlbIndex addr)).vpage ≠ addr >>> 12) :
    (c.fillTlb addr .read physical).tlbHit addr .read = true := by
  rw [tlbHit, tlb_fill, if_neg hv]
  change (_ == _ && _ && (!c.registers.isUserMode || c.registers.isUserMode)) = true
  simp only [beq_self_eq_true, Bool.not_or_self, Bool.and_true, Bool.true_and]
  rfl

lemma mapResult_hit (hp : c.registers.isPagingEnabled = true) (hh : c.tlbHit addr .read = true) :
    c.mapResult addr .read = .mapped ((c.tlb (tlbIndex addr)).pbase ||| (addr &&& 0xFFF)) := by
  rw [mapResult, if_pos ⟨fun h => AccessType.noConfusion h.1, hp, hh⟩]

lemma mapResult_miss (hh : c.tlbHit addr .read = false) : c.mapResult addr .read = c.translateAddress addr .read := by
  rw [mapResult, if_neg fun h => by rw [hh] at h; exact Bool.false_ne_true h.2.2]

lemma mapResult_fill_held (hp : c.registers.isPagingEnabled = true)
    (hv : (c.tlb (tlbIndex addr)).vpage = addr >>> 12)
    (hu : c.registers.isUserMode = true → (c.tlb (tlbIndex addr)).userAccessible = true) :
    (c.fillTlb addr .read physical).mapResult addr .read =
      .mapped ((c.tlb (tlbIndex addr)).pbase ||| (addr &&& 0xFFF)) := by
  have hh : (c.fillTlb addr .read physical).tlbHit addr .read = true := by
    rw [tlbHit_fill_held hv]
    cases hm : c.registers.isUserMode with
    | true => exact hu hm
    | false => rfl
  rw [mapResult_hit (c := c.fillTlb addr .read physical) hp hh, tlb_fill, if_pos hv]

lemma mapResult_fill_new (hp : c.registers.isPagingEnabled = true)
    (hv : (c.tlb (tlbIndex addr)).vpage ≠ addr >>> 12) (ht : c.translateAddress addr .read = .mapped physical) :
    (c.fillTlb addr .read physical).mapResult addr .read = .mapped physical := by
  obtain ⟨_, leaf, hl, _, rfl⟩ := (translateAddress_mapped hp).mp ht
  rw [mapResult_hit (c := c.fillTlb addr .read (leaf.physical addr)) hp (tlbHit_fill_new hv), tlb_fill, if_neg hv]
  exact congrArg _ (AddressTranslator.Leaf.physical_page (AddressTranslator.pageLeaf_leaf hl).2 rfl)

/-- A read of `addr` that goes on finding the same data. -/
structure Steady (c : Cpu) (w : ℕ) (addr value : Word) : Prop where
  mapped : ∃ physical, c.mapResult addr .read = .mapped physical ∧ loaded c.bus w physical = value
  readsBack : c.ReadsBack w addr

lemma Steady.afterRead {value : Word} (h : Steady c w addr value) (hm : c.mapResult addr .read = .mapped physical) :
    Steady (afterRead c addr physical) w addr value := by
  obtain ⟨⟨physical', hm', hv⟩, hr⟩ := h
  rw [hm] at hm'
  obtain rfl := PagingTranslateResult.mapped.inj hm'
  unfold Little64.Emulator.afterRead
  by_cases hmiss : c.registers.isPagingEnabled = true ∧ c.tlbHit addr .read = false
  case neg =>
    rw [if_neg hmiss]
    exact ⟨⟨physical, hm, hv⟩, hr⟩
  obtain ⟨hp, hh⟩ := hmiss
  rw [if_pos ⟨hp, hh⟩]
  have ht : c.translateAddress addr .read = .mapped physical := (mapResult_miss hh).symm.trans hm
  by_cases hheld : (c.tlb (tlbIndex addr)).vpage = addr >>> 12
  case neg =>
    refine ⟨⟨physical, mapResult_fill_new hp hheld ht, hv⟩, fun _ hmiss => ?_⟩
    rw [tlbHit_fill_new hheld] at hmiss
    cases hmiss
  by_cases hu : c.registers.isUserMode = true → (c.tlb (tlbIndex addr)).userAccessible = true
  · refine ⟨⟨_, mapResult_fill_held hp hheld hu, (hr hp hh hheld hu physical ht).trans hv⟩, fun _ hmiss => ?_⟩
    rw [tlbHit_fill_held hheld, Bool.or_eq_false_iff, Bool.not_eq_false'] at hmiss
    rw [hu hmiss.1] at hmiss
    cases hmiss.2
  · have hmode : c.registers.isUserMode = true ∧ (c.tlb (tlbIndex addr)).userAccessible = false := by
      rwa [Classical.not_imp, Bool.not_eq_true] at hu
    have hmiss : (c.fillTlb addr .read physical).tlbHit addr .read = false := by
      rw [tlbHit_fill_held hheld, hmode.1, hmode.2]
      rfl
    refine ⟨⟨physical, (mapResult_miss hmiss).trans ht, hv⟩, fun _ _ _ huser => ?_⟩
    have hua := huser hmode.1
    rw [tlb_fill, if_pos hheld] at hua
    exact absurd (hmode.2.symm.trans hua) Bool.false_ne_true

lemma afterRead_frame (c : Cpu) (addr physical : Word) :
    afterRead c addr physical = { c with tlb := (afterRead c addr physical).tlb } := by
  unfold afterRead
  split <;> rfl

/-- The translation in force is the same. -/
structure SameReads (c d : Cpu) : Prop where
  bus : d.bus = c.bus
  tlb : d.tlb = c.tlb
  control : d.registers.cpuControl = c.registers.cpuControl
  root : d.registers.pageTableRootPhysical = c.registers.pageTableRootPhysical

namespace SameReads

variable {d : Cpu}

lemma paging (h : SameReads c d) : d.registers.isPagingEnabled = c.registers.isPagingEnabled := by
  rw [Registers.isPagingEnabled, Registers.isPagingEnabled, h.control]

lemma user (h : SameReads c d) : d.registers.isUserMode = c.registers.isUserMode := by
  rw [Registers.isUserMode, Registers.isUserMode, h.control]

lemma mapResult (h : SameReads c d) : d.mapResult addr .read = c.mapResult addr .read :=
  mapResult_congr h.bus h.tlb h.root h.paging h.user

lemma tlbHit (h : SameReads c d) : d.tlbHit addr .read = c.tlbHit addr .read := by
  simp only [Cpu.tlbHit, h.tlb, h.user]

lemma afterRead (h : SameReads c d) : (afterRead d addr physical).tlb = (afterRead c addr physical).tlb := by
  unfold Little64.Emulator.afterRead
  rw [h.paging, h.tlbHit]
  split
  · simp only [fillTlb, h.tlb, h.user]
  · exact h.tlb

end SameReads

lemma Cpu.Finishes.dispatch_read {busRead : MemoryBus → Word → AccessType → BitVec w}
    {finish : Word → Registers → Registers} (hF : t.Finishes instr w busRead addr opPc finish)
    (hregs : c.registers.regs = t.registers.regs) (hm : c.mapResult addr .read = .mapped physical) :
    ∃ events, c.dispatchInstruction instr =
      { c with
        tlb := (afterRead c addr physical).tlb
        events
        registers := finish (loaded c.bus w physical) c.registers } := by
  obtain ⟨events, hr⟩ := readMemory_read busRead opPc hm
  exact ⟨events, by rw [hF.dispatch c hregs, hr, hF.loads]⟩

section Finishes

variable {busRead : MemoryBus → Word → AccessType → BitVec w} {finish : Word → Registers → Registers} {v : Word}

/-- The state after one of the executions: the TLB and the record of accesses apart, always the same. -/
def finished (t : Cpu) (finish : Word → Registers → Registers) (v : Word) (tlb : BitVec 6 → TlbEntry)
    (events : List MemoryEvent) : Cpu :=
  { t with tlb, events, registers := finish v t.registers }

lemma Cpu.Finishes.executeAgain_finished (hF : t.Finishes instr w busRead addr opPc finish)
    (h15 : (finish v t.registers).regs 15 = t.reg 15 - 2) (tlb : BitVec 6 → TlbEntry) (events : List MemoryEvent)
    (hm : { t with tlb }.mapResult addr .read = .mapped physical) :
    ∃ events', (finished t finish v tlb events).executeAgain instr =
      { finished t finish v (afterRead { t with tlb } addr physical).tlb events' with
        registers := finish (loaded t.bus w physical) { finish v t.registers with regs := t.registers.regs } } := by
  obtain ⟨c, hc⟩ : ∃ c : Cpu, c = { finished t finish v tlb events with
      registers := { finish v t.registers with regs := t.registers.regs } } := ⟨_, rfl⟩
  have hsame : SameReads { t with tlb } c := by
    rw [hc]
    exact ⟨rfl, rfl, hF.control v _, hF.root v _⟩
  obtain ⟨events', hd⟩ := hF.dispatch_read (c := c) (by rw [hc]) (hsame.mapResult.trans hm)
  refine ⟨events', ?_⟩
  rw [executeAgain_eq, finished, Registers.restart_eq (hF.restart v h15)]
  rw [finished] at hc
  rw [← hc, hd, hsame.afterRead, hc]
  rfl

lemma iterate_finished (hF : t.Finishes instr w busRead addr opPc finish)
    (h15 : (finish v t.registers).regs 15 = t.reg 15 - 2) (tlb : BitVec 6 → TlbEntry) (events : List MemoryEvent)
    (hs : Steady { t with tlb } w addr v) (n : ℕ) :
    ∃ tlb' events', (executeAgain · instr)^[n] (finished t finish v tlb events) = finished t finish v tlb' events' ∧
      Steady { t with tlb := tlb' } w addr v := by
  induction n with
  | zero => exact ⟨tlb, events, rfl, hs⟩
  | succ n ih =>
    obtain ⟨tlb', events', hn, hs'⟩ := ih
    obtain ⟨physical, hm, hv⟩ := hs'.mapped
    obtain ⟨events'', hagain⟩ := hF.executeAgain_finished h15 tlb' events' hm
    refine ⟨(afterRead { t with tlb := tlb' } addr physical).tlb, events'', ?_, ?_⟩
    · rw [Function.iterate_succ_apply', hn, hagain, hv, hF.again]
      rfl
    · have hread := hs'.afterRead hm
      rwa [afterRead_frame] at hread

lemma unchanged_reads_iff (hF : t.Finishes instr w busRead addr opPc finish)
    (hm : t.mapResult addr .read = .mapped physical)
    (h15 : (t.dispatchInstruction instr).reg 15 = t.reg 15 - 2) :
    Unchanged (t.dispatchInstruction instr) instr ↔ t.ReadsBack w addr := by
  obtain ⟨events, hd⟩ := hF.dispatch_read rfl hm
  obtain ⟨v, hv⟩ : ∃ v, v = loaded t.bus w physical := ⟨_, rfl⟩
  rw [← hv] at hd
  have hd : t.dispatchInstruction instr = finished t finish v (afterRead t addr physical).tlb events := hd
  rw [hd] at h15 ⊢
  constructor
  · intro h hp hh hheld hu physical' ht
    obtain rfl : physical' = physical :=
      PagingTranslateResult.mapped.inj (ht.symm.trans ((mapResult_miss hh).symm.trans hm))
    have hfill : afterRead t addr physical' = t.fillTlb addr .read physical' := if_pos ⟨hp, hh⟩
    have hmap : { t with tlb := (afterRead t addr physical').tlb }.mapResult addr .read =
        .mapped ((t.tlb (tlbIndex addr)).pbase ||| (addr &&& 0xFFF)) := by
      rw [← afterRead_frame, hfill]
      exact mapResult_fill_held hp hheld hu
    obtain ⟨events', hagain⟩ := hF.executeAgain_finished h15 _ events hmap
    have honce := h.once
    rw [hagain] at honce
    rw [← hv]
    refine hF.injective _ v { finish v t.registers with regs := t.registers.regs } ?_
    rw [hF.again v]
    exact congrFun (congrArg Registers.regs honce) 15
  · intro hback n
    have hs : Steady { t with tlb := (afterRead t addr physical).tlb } w addr v := by
      rw [← afterRead_frame]
      exact Steady.afterRead ⟨⟨physical, hm, hv.symm⟩, hback⟩ hm
    obtain ⟨tlb, events', hn, _⟩ := iterate_finished hF h15 _ events hs n
    rw [hn]
    exact ⟨rfl, rfl⟩

end Finishes

end Reads

lemma reloads_none {access : DataAccess} (h : access = .none) : t.Reloads access := by
  rw [h]
  exact trivial

theorem unchanged_iff (t : Cpu) (instr : Instruction) (hq : Undelivered (t.raisedBy instr))
    (h15 : (t.dispatchInstruction instr).reg 15 = t.reg 15 - 2) (heven : (t.reg 15).getLsbD 0 = false)
    (h0 : t.reg 0 = 0) :
    Unchanged (t.dispatchInstruction instr) instr ↔
      t.Reloads (t.dataAccess instr) ∧
        (isIret instr → t.registers.interruptCpuControl &&& Registers.cpuControlUserMode = 0) := by
  cases returns_of_back t instr hq h15 heven h0 with
  | moves ha hi hd => exact iff_of_true (unchanged_moves h0 hd) ⟨reloads_none ha, fun h => absurd h hi⟩
  | computes carry ha hi hd => exact iff_of_true (unchanged_computes h0 hd) ⟨reloads_none ha, fun h => absurd h hi⟩
  | reads busRead addr opPc physical finish hF hm hr hi =>
    rw [unchanged_reads_iff hF hm h15, hr]
    exact (and_iff_left fun h => absurd h hi).symm
  | pops rd ha hz hf hd =>
    refine iff_of_false (not_unchanged_pops hz hf hd) fun h => ?_
    rw [ha] at h
    exact h.1.1.elim hz hf
  | restores ha hi hu hepc =>
    rw [unchanged_restores_iff h0 hi hu hepc]
    exact ⟨fun h => ⟨reloads_none ha, fun _ => h⟩, fun h => h.2 hi⟩

end Again

section Cycle

open Cpu

variable {s t : Cpu} {instr : Instruction}

lemma even_of_mapped {pc physical : Word} (hm : t.mapResult pc .execute = .mapped physical) :
    pc.getLsbD 0 = false := by
  by_contra hodd
  have hx : AccessType.execute = .execute ∧ pc &&& 1 ≠ 0 := by
    refine ⟨rfl, fun h => hodd ?_⟩
    have h0 := congrArg (·.getLsbD 0) h
    simpa using h0
  rw [mapResult, if_neg fun h => h.1 hx, translateAddress, AddressTranslator.translate_misaligned _ hx] at hm
  cases hm

lemma dispatching_mapped {physical : Word} (hd : s.dispatching = some (t, instr))
    (hm : (s.setReg 0 0).mapResult (s.reg 15) .execute = .mapped physical) :
    t.reg 15 = s.reg 15 + 2 ∧ t.reg 0 = 0 := by
  obtain ⟨tlb, hr⟩ := readMemory_mapped MemoryBus.read16 (s.reg 15) hm
  rw [dispatching, readMemory16, hr] at hd
  split at hd
  · obtain ⟨rfl, rfl⟩ := Prod.mk.inj (Option.some.inj hd)
    exact ⟨rfl, rfl⟩
  · cases hd

/-- After a fetch fault that entered no handler a cycle dispatches a jump back over itself. -/
lemma dispatching_fault {cause aux : Word} (hd : s.dispatching = some (t, instr))
    (hm : (s.setReg 0 0).mapResult (s.reg 15) .execute = .fault cause aux)
    (hn : ¬ (s.setReg 0 0).Delivers cause) :
    ∃ u : Cpu, u.reg 0 = 0 ∧ t = u.setReg 15 (u.reg 15 + 2) ∧ instr = .decode (BitVec.allOnes 16) := by
  have hf : ((s.setReg 0 0).raiseFault (s.reg 15) .execute (s.reg 15) cause aux).1 = false :=
    Bool.eq_false_iff.mpr fun h => hn ((raiseFault_delivers (s.setReg 0 0) (s.reg 15) .execute (s.reg 15) cause aux).mp h)
  rw [dispatching, readMemory16, readMemory_fault MemoryBus.read16 (s.reg 15) hm] at hd
  split at hd
  · obtain ⟨rfl, rfl⟩ := Prod.mk.inj (Option.some.inj hd)
    exact ⟨((s.setReg 0 0).raiseFault (s.reg 15) .execute (s.reg 15) cause aux).2.record
      ((s.setReg 0 0).accessEvent .execute (s.reg 15) 16
        (.faulted cause ((s.setReg 0 0).raiseFault (s.reg 15) .execute (s.reg 15) cause aux).1)),
      congrFun (raiseFault_notEntered hf).regs 0, rfl, rfl⟩
  · cases hd

lemma unchanged_selfJump {u : Cpu} (h0 : u.reg 0 = 0) : Unchanged u (.decode (BitVec.allOnes 16)) := by
  apply unchanged_of_fixed
  have hzero : u.setReg 0 0 = u := by
    rw [← h0]
    exact setReg_self 0
  rw [executeAgain, hzero]
  exact dispatch_allOnes u

/-- `cycle` stops the machine there. -/
theorem cycle_of_locksUp (hl : s.LocksUp) : s.cycle = { s.instructionPart with isRunning := false } := by
  obtain ⟨t, instr, hd, hrun, h15, hi⟩ := hl
  have hpart : s.instructionPart = t.dispatchInstruction instr := by
    rw [instructionPart, hd]
  rw [hpart]
  rw [dispatching] at hd
  split at hd
  · next hr =>
    obtain ⟨hs, hf⟩ := Bool.and_eq_true_iff.mp hr
    obtain ⟨rfl, rfl⟩ := Prod.mk.inj (Option.some.inj hd)
    have hstop : ∀ u : Cpu, u.isRunning = true → u.reg 15 = s.reg 15 → u.registers.isInterruptEnabled = false →
        (u.isRunning && u.reg 15 == s.reg 15 && !u.registers.isInterruptEnabled) = true := fun u h h' h'' => by
      rw [h, h', h'', beq_self_eq_true]
      rfl
    unfold cycle
    simp only
    rw [if_neg (by rw [hs]; decide), if_neg (by rw [hf]; decide), if_pos (hstop _ hrun h15 hi)]
  · cases hd

lemma unchanged_cycle_iff (hl : s.LocksUp) (hq : Undelivered s.raisedInCycle) (hd : s.dispatching = some (t, instr)) :
    Unchanged (t.dispatchInstruction instr) instr ↔
      t.Reloads (t.dataAccess instr) ∧
        (isIret instr → t.registers.interruptCpuControl &&& Registers.cpuControlUserMode = 0) := by
  obtain ⟨t', instr', hd', hrun, h15, _⟩ := hl
  obtain ⟨rfl, rfl⟩ := Prod.mk.inj (Option.some.inj (hd.symm.trans hd'))
  have hrunning : s.isRunning = true := by
    rw [dispatching] at hd
    split at hd
    · next h => exact (Bool.and_eq_true_iff.mp h).1
    · cases hd
  rw [raisedInCycle, hrunning, hd] at hq
  cases hm : (s.setReg 0 0).mapResult (s.reg 15) .execute with
  | mapped physical =>
    obtain ⟨hpc, h0⟩ := dispatching_mapped hd hm
    have hback : t.reg 15 - 2 = s.reg 15 := by rw [hpc, BitVec.add_sub_cancel]
    have heven : (t.reg 15).getLsbD 0 = false := by
      have he := even_of_mapped hm
      rw [hpc]
      rw [BitVec.getLsbD, Nat.testBit_zero, decide_eq_false_iff_not] at he ⊢
      bv_omega
    exact unchanged_iff t instr (fun x hx => hq x (List.mem_append_right _ hx)) (h15.trans hback.symm) heven h0
  | fault cause aux =>
    have hn : ¬ (s.setReg 0 0).Delivers cause := by
      rw [accessRaised, hm] at hq
      exact hq _ (List.mem_append_left _ (List.mem_singleton_self _))
    obtain ⟨u, h0, rfl, rfl⟩ := dispatching_fault hd hm hn
    rw [dispatch_allOnes]
    exact iff_of_true (unchanged_selfJump h0) ⟨reloads_none rfl, fun h => absurd rfl h.2.1⟩

/-- The lockup check is right about an instruction exactly when it settles: a trap handler at its own address,
a `POP` into `R15` through a pointer that it moves, an `IRET` to user mode and a stale TLB entry are stopped too. -/
theorem lockup_sound_iff (s : Cpu) (hl : s.LocksUp) : s.MakesNoProgress ↔ s.Settles := by
  have hundelivered : (∀ x ∈ s.raisedInCycle, (x.1.raise x.2).1 = false) ↔ Undelivered s.raisedInCycle :=
    forall₂_congr fun x _ => Bool.eq_false_iff.trans (not_congr (raise_delivers x.1 x.2))
  constructor
  · intro h
    have hq := hundelivered.mp h.handler
    refine ⟨hq, fun t instr hd => ?_, fun t instr hd => ?_⟩
    · exact ((unchanged_cycle_iff hl hq hd).mp (h.unchanged t instr hd)).1
    · exact ((unchanged_cycle_iff hl hq hd).mp (h.unchanged t instr hd)).2
  · intro h
    exact ⟨hundelivered.mpr h.undelivered, fun t instr hd =>
      (unchanged_cycle_iff hl h.undelivered hd).mpr ⟨h.reloads t instr hd, h.iret t instr hd⟩⟩

/-- `POP R15` at the address `0x100` that it pops, through `R13`. -/
def popsItselfRam : MemoryRegion where
  base := 0
  size := 0x1000
  kind := .ram
  data addr := if addr = 0x100 then 0xFD else if addr = 0x101 then 0x0C else if addr = 0x201 then 1 else 0

def popsItself : Cpu where
  registers := { Registers.initial with regs := fun i => if i = 15 then 0x100 else if i = 13 then 0x200 else 0 }
  isRunning := true
  bus := ⟨[popsItselfRam], List.pairwise_singleton _ _⟩
  tlb _ := TlbEntry.initial
  memBase := 0
  memSize := 0x1000
  bootSourceBytes := []
  events := []

lemma locksUp_popsItself : popsItself.LocksUp := ⟨_, _, rfl, by decide +kernel, by decide +kernel, by decide +kernel⟩

theorem lockup_sound_iff_popsItself : popsItself.MakesNoProgress ↔ popsItself.Settles :=
  lockup_sound_iff popsItself locksUp_popsItself

/-- The pointer of the `POP` goes on. -/
theorem lockup_unsound : ¬ ∀ s : Cpu, s.LocksUp → s.MakesNoProgress := by
  intro h
  have hu := (h popsItself locksUp_popsItself).unchanged _ _ rfl 1
  have h13 := congrFun (congrArg Registers.regs hu.1) 13
  exact absurd h13 (by decide +kernel)

end Cycle

end Little64.Emulator

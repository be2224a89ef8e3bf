import Little64.Emulator.TlbCoherence

/-! Trap entry and `IRET`: the return from a handler restores what the entry interrupted, to any depth of nesting. -/

namespace Little64.Emulator

open Vectors

/-- What a trap interrupts and a return restores. -/
structure Context where
  pc : Word
  flags : Word
  cpuControl : Word
  deriving DecidableEq, Repr

/-- The three registers that a trap entry stores its context in. -/
def Registers.returnContext (r : Registers) : Context := ⟨r.interruptEpc, r.interruptEflags, r.interruptCpuControl⟩

def Instruction.IsIret (instr : Instruction) : Prop :=
  instr.format = 3 ∧ instr.isUnconditionalJump = false ∧ GpOpcode.ofBits instr.opcodeGp = some .iret

namespace Cpu

variable {s t : Cpu} {n epc : Word} {exception : Bool} {instr : Instruction}

def context (s : Cpu) : Context := ⟨s.reg 15, s.registers.flags, s.registers.cpuControl⟩

/-- The context that an entry interrupts; all ones stand for no `epc`. -/
def interruptedAt (s : Cpu) (epc : Word) : Context :=
  { s.context with pc := if epc ≠ BitVec.allOnes 64 then epc else s.reg 15 }

lemma returnContext_setInterruptPending (r : Registers) (n : Word) :
    (r.setInterruptPending n).returnContext = r.returnContext ∧ (r.setInterruptPending n).regs = r.regs ∧
      (r.setInterruptPending n).flags = r.flags := by
  unfold Registers.setInterruptPending
  simp only
  split_ifs <;> exact ⟨rfl, rfl, rfl⟩

lemma returnContext_raiseInterrupt (h : (s.raiseInterrupt n exception epc).1 = true) :
    (s.raiseInterrupt n exception epc).2.registers.returnContext = s.interruptedAt epc := by
  obtain ⟨handler, _, hentered⟩ := raiseInterrupt_entered h
  rw [hentered]
  cases exception with
  | true => rfl
  | false =>
    obtain ⟨hcontext, hregs, hflags⟩ := returnContext_setInterruptPending (s.enteringRegisters n) n
    have hcontrol : ((s.enteringRegisters n).setInterruptPending n).interruptCpuControl = s.registers.cpuControl :=
      congrArg Context.cpuControl hcontext
    change Context.mk (if epc ≠ BitVec.allOnes 64 then epc else ((s.enteringRegisters n).setInterruptPending n).regs 15)
      ((s.enteringRegisters n).setInterruptPending n).flags
      ((s.enteringRegisters n).setInterruptPending n).interruptCpuControl = _
    rw [hregs, hflags, hcontrol]
    rfl

lemma context_iret (hi : instr.IsIret) (hs : t.registers.isUserMode = false) :
    (t.dispatchInstruction instr).context = t.registers.returnContext := by
  obtain ⟨hformat, hjump, hop⟩ := hi
  rw [dispatchInstruction, hformat]
  simp only [hjump]
  rw [if_neg Bool.false_ne_true, dispatchGP]
  simp only [hop]
  rw [if_neg (by rw [hs]; exact Bool.false_ne_true)]
  rfl

end Cpu

/-- A trap that has been entered and not returned from: the context it interrupted, and what its
handler has saved of the three registers. -/
structure Frame where
  interrupted : Context
  saved : Option Context
  deriving DecidableEq, Repr

structure Nest where
  cpu : Cpu
  frames : List Frame

inductive Activity
  | enter (n : Word) (exception : Bool) (epc : Word)
  | save
  | work (t : Cpu)
  | iret (instr : Instruction)

namespace Nest

variable {nest nest' : Nest} {frame : Frame} {base inner : List Frame} {t : Cpu} {instr : Instruction}

/-- A handler that has not saved the three registers does not let them change, and takes no further trap; a handler
that has saved them holds what it saved in them when it returns. -/
inductive Next : Nest → Activity → Nest → Prop
  | enterFirst {s : Cpu} {n epc : Word} {exception : Bool} : (s.raiseInterrupt n exception epc).1 = true →
      Next ⟨s, []⟩ (.enter n exception epc) ⟨(s.raiseInterrupt n exception epc).2, [⟨s.interruptedAt epc, none⟩]⟩
  | enter {s : Cpu} {n epc : Word} {exception : Bool} {frame : Frame} {rest : List Frame} {c : Context} :
      (s.raiseInterrupt n exception epc).1 = true → frame.saved = some c →
      Next ⟨s, frame :: rest⟩ (.enter n exception epc)
        ⟨(s.raiseInterrupt n exception epc).2, ⟨s.interruptedAt epc, none⟩ :: frame :: rest⟩
  | save {s : Cpu} {frame : Frame} {rest : List Frame} : frame.saved = none →
      Next ⟨s, frame :: rest⟩ .save ⟨s, { frame with saved := some s.registers.returnContext } :: rest⟩
  | work {s t : Cpu} {frames : List Frame} :
      (∀ frame ∈ frames.head?, frame.saved = none → t.registers.returnContext = s.registers.returnContext) →
      Next ⟨s, frames⟩ (.work t) ⟨t, frames⟩
  | iret {s : Cpu} {instr : Instruction} {frame : Frame} {rest : List Frame} : instr.IsIret →
      s.registers.isUserMode = false → (∀ c ∈ frame.saved, s.registers.returnContext = c) →
      Next ⟨s, frame :: rest⟩ (.iret instr) ⟨s.dispatchInstruction instr, rest⟩

/-- What stands in the registers or with a handler is what its entry interrupted. -/
structure Held (nest : Nest) : Prop where
  saved : ∀ frame ∈ nest.frames, ∀ c ∈ frame.saved, c = frame.interrupted
  top : ∀ frame ∈ nest.frames.head?, frame.saved = none → nest.cpu.registers.returnContext = frame.interrupted
  below : ∀ frame ∈ nest.frames.tail, frame.saved ≠ none

lemma Held.next {activity : Activity} (h : Held nest) (hnext : Next nest activity nest') : Held nest' := by
  obtain ⟨hsaved, htop, hbelow⟩ := h
  cases hnext with
  | enterFirst hraise =>
    refine ⟨?_, ?_, ?_⟩
    · intro frame hframe c hc
      rw [List.mem_singleton.mp hframe] at hc
      cases hc
    · intro frame hframe _
      cases hframe
      exact Cpu.returnContext_raiseInterrupt hraise
    · intro frame hframe
      cases hframe
  | enter hraise hheld =>
    refine ⟨?_, ?_, ?_⟩
    · intro frame hframe c hc
      rcases List.mem_cons.mp hframe with rfl | hframe
      · cases hc
      · exact hsaved frame hframe c hc
    · intro frame hframe _
      cases hframe
      exact Cpu.returnContext_raiseInterrupt hraise
    · intro frame hframe
      rcases List.mem_cons.mp hframe with rfl | hframe
      · rw [hheld]
        exact Option.some_ne_none _
      · exact hbelow frame hframe
  | @save s top rest hnone =>
    refine ⟨?_, ?_, hbelow⟩
    · intro frame hframe c hc
      rcases List.mem_cons.mp hframe with rfl | hframe
      · cases hc
        exact htop top rfl hnone
      · exact hsaved frame (List.mem_cons_of_mem _ hframe) c hc
    · intro frame hframe hunsaved
      cases hframe
      cases hunsaved
  | work hkept =>
    refine ⟨hsaved, ?_, hbelow⟩
    intro frame hframe hunsaved
    exact (hkept frame hframe hunsaved).trans (htop frame hframe hunsaved)
  | iret hi hs hrestored =>
    refine ⟨?_, ?_, ?_⟩
    · intro frame hframe
      exact hsaved frame (List.mem_cons_of_mem _ hframe)
    · intro frame hframe hunsaved
      exact absurd hunsaved (hbelow frame (List.mem_of_mem_head? hframe))
    · intro frame hframe
      exact hbelow frame (List.mem_of_mem_tail hframe)

/-- One activity after which more traps than that are being handled. -/
def StepAbove (depth : ℕ) (nest nest' : Nest) : Prop := ∃ activity, Next nest activity nest' ∧ depth < nest'.frames.length

/-- The frame of a trap stays where it is, with the context it interrupted, until its own return. -/
lemma StepAbove.kept {depth : ℕ} {c : Context} (hstep : StepAbove depth nest nest') (hdepth : base.length = depth)
    (h : ∃ inner frame, nest.frames = inner ++ frame :: base ∧ frame.interrupted = c) :
    ∃ inner frame, nest'.frames = inner ++ frame :: base ∧ frame.interrupted = c := by
  obtain ⟨activity, hnext, hlong⟩ := hstep
  obtain ⟨inner, frame, hframes, hc⟩ := h
  cases hnext with
  | enterFirst _ => cases inner <;> cases hframes
  | @enter s n epc exception top rest _ _ _ =>
    exact ⟨⟨s.interruptedAt epc, none⟩ :: inner, frame, congrArg _ hframes, hc⟩
  | save _ =>
    cases inner with
    | nil =>
      obtain ⟨rfl, rfl⟩ := List.cons.inj hframes
      exact ⟨[], _, rfl, hc⟩
    | cons top inner =>
      obtain ⟨rfl, rfl⟩ := List.cons.inj hframes
      exact ⟨_ :: inner, frame, rfl, hc⟩
  | work _ => exact ⟨inner, frame, hframes, hc⟩
  | iret _ _ _ =>
    cases inner with
    | nil =>
      obtain ⟨rfl, rfl⟩ := List.cons.inj hframes
      exact absurd hlong (by rw [hdepth]; exact Nat.lt_irrefl _)
    | cons top inner =>
      obtain ⟨rfl, rfl⟩ := List.cons.inj hframes
      exact ⟨inner, frame, rfl, hc⟩

lemma held_steps {nest nest' : Nest} (h : Held nest)
    (hrun : Relation.ReflTransGen (fun a b => ∃ activity, Next a activity b) nest nest') : Held nest' := by
  induction hrun with
  | refl => exact h
  | tail _ hstep ih =>
    obtain ⟨activity, hnext⟩ := hstep
    exact ih.next hnext

/-- A return that brings the nest back to the depth of an entry restores what that entry interrupted. -/
lemma context_return {nest₁ nest₂ nest₃ : Nest} {n epc : Word} {exception : Bool} (h : Held nest)
    (henter : Next nest (.enter n exception epc) nest₁)
    (hinside : Relation.ReflTransGen (StepAbove nest.frames.length) nest₁ nest₂)
    (hreturn : Next nest₂ (.iret instr) nest₃) (hdepth : nest₃.frames.length = nest.frames.length) :
    nest₃.cpu.context = nest.cpu.interruptedAt epc ∧ nest₃.frames = nest.frames := by
  have hstart : ∃ inner frame, nest₁.frames = inner ++ frame :: nest.frames ∧
      frame.interrupted = nest.cpu.interruptedAt epc := by
    cases henter with
    | enterFirst _ => exact ⟨[], _, rfl, rfl⟩
    | enter _ _ => exact ⟨[], _, rfl, rfl⟩
  have hheld : Held nest₂ := held_steps (h.next henter) (hinside.lift id fun _ _ hstep => hstep.imp fun _ hnext => hnext.1)
  obtain ⟨inner, frame, hframes, hinterrupted⟩ : ∃ inner frame, nest₂.frames = inner ++ frame :: nest.frames ∧
      frame.interrupted = nest.cpu.interruptedAt epc := by
    clear hreturn hheld
    induction hinside with
    | refl => exact hstart
    | tail _ hstep ih => exact hstep.kept rfl ih
  obtain ⟨hsaved, htop, _⟩ := hheld
  cases hreturn with
  | @iret s instr top rest hi hs hrestored =>
    cases inner with
    | cons _ _ =>
      obtain ⟨_, rfl⟩ := List.cons.inj hframes
      simp at hdepth
      omega
    | nil =>
      obtain ⟨rfl, rfl⟩ := List.cons.inj hframes
      refine ⟨?_, rfl⟩
      rw [Cpu.context_iret hi hs, ← hinterrupted]
      cases hc : top.saved with
      | none => exact htop top rfl hc
      | some c =>
        rw [hrestored c hc]
        exact hsaved top List.mem_cons_self c hc

end Nest

/-- `IRET` restores what an entry interrupted while the three registers hold what the entry stored, and so do the
returns of nested entries, each after the returns of those it was interrupted by. -/
theorem return_restores (s : Cpu) (nest : Nest) (n epc : Word) (exception : Bool)
    (hreached : Relation.ReflTransGen (fun a b => ∃ activity, Nest.Next a activity b) ⟨s, []⟩ nest)
    (hraise : (nest.cpu.raiseInterrupt n exception epc).1 = true) :
    (∀ (t : Cpu) (instr : Instruction), instr.IsIret → t.registers.isUserMode = false →
      t.registers.returnContext = (nest.cpu.raiseInterrupt n exception epc).2.registers.returnContext →
      (t.dispatchInstruction instr).context = nest.cpu.interruptedAt epc) ∧
    ∀ (nest₁ nest₂ nest₃ : Nest) (instr : Instruction), Nest.Next nest (.enter n exception epc) nest₁ →
      Relation.ReflTransGen (Nest.StepAbove nest.frames.length) nest₁ nest₂ →
      Nest.Next nest₂ (.iret instr) nest₃ → nest₃.frames.length = nest.frames.length →
      nest₃.cpu.context = nest.cpu.interruptedAt epc ∧ nest₃.frames = nest.frames := by
  constructor
  · intro t instr hi hs hkept
    rw [Cpu.context_iret hi hs, hkept]
    exact Cpu.returnContext_raiseInterrupt hraise
  · intro nest₁ nest₂ nest₃ instr henter hinside hreturn hdepth
    have hstart : Nest.Held ⟨s, []⟩ := ⟨fun _ h => (List.not_mem_nil h).elim, fun _ h => (Option.not_mem_none _ h).elim,
      fun _ h => (List.not_mem_nil h).elim⟩
    exact Nest.context_return (Nest.held_steps hstart hreached) henter hinside hreturn hdepth

/-- A read faults in user mode, and its handler returns. -/
def faulting : Nest := ⟨sampleCpu fun i => if i = 15 then 0x2002 else 0, []⟩

theorem return_restores_faulting :
    (∀ (t : Cpu) (instr : Instruction), instr.IsIret → t.registers.isUserMode = false →
      t.registers.returnContext = (faulting.cpu.raiseInterrupt 5 true 0x2000).2.registers.returnContext →
      (t.dispatchInstruction instr).context = faulting.cpu.interruptedAt 0x2000) ∧
    ∀ (nest₁ nest₂ nest₃ : Nest) (instr : Instruction), Nest.Next faulting (.enter 5 true 0x2000) nest₁ →
      Relation.ReflTransGen (Nest.StepAbove faulting.frames.length) nest₁ nest₂ →
      Nest.Next nest₂ (.iret instr) nest₃ → nest₃.frames.length = faulting.frames.length →
      nest₃.cpu.context = faulting.cpu.interruptedAt 0x2000 ∧ nest₃.frames = faulting.frames :=
  return_restores faulting.cpu faulting 5 0x2000 true .refl (by decide +kernel)

end Little64.Emulator

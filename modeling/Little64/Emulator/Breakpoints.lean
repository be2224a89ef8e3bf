import Little64.Library.Runs
import Little64.Emulator.DebugServer
import Little64.Emulator.TlbCoherence

/-! Where a debugged machine executes: past a breakpoint only from a stop reported there, but from where it stands
whatever address a command carries. -/

namespace Little64.Emulator.DebugServer

variable {σ : Type} {machine : Runtime σ} {d : DebugServer σ} {payload : List Char} {polls : List Poll}

/-- The server skips a breakpoint only where it reported its last stop. -/
def RemembersStop (d : DebugServer σ) : Prop :=
  d.resumePastBreakpointOnce = true → d.resumeBreakpointPc = d.reportedPc

/-- The instructions executed stand at no breakpoint, except the first one, where the last stop was reported. -/
def Guarded (d : DebugServer σ) (executed : List Word) : Prop :=
  ∀ k pc, executed[k]? = some pc → pc ∈ d.breakpoints → k = 0 ∧ pc = d.reportedPc

/-- The breakpoint at the PC, if there is one, does not stop a continue. -/
def Passes (machine : Runtime σ) (d : DebugServer σ) : Prop :=
  d.pc machine ∈ d.breakpoints → d.resumePastBreakpointOnce = true ∧ d.pc machine = d.resumeBreakpointPc

/-- Whether a list of actions continues: the first action that is known decides. -/
def actionsContinue : List (List Char) → Bool
  | [] => false
  | [] :: actions => actionsContinue actions
  | (kind :: _) :: actions =>
    if kind = 'c' ∨ kind = 'C' then true
    else if kind = 's' ∨ kind = 'S' ∨ kind = 't' ∨ kind = 'T' then false
    else actionsContinue actions

def isContinue : DebugEvent → Bool
  | .packet payload _ =>
    decide ("c".toList <+: payload) ||
      decide ("vCont;".toList <+: payload) && actionsContinue ((payload.drop 6).splitOn ';')
  | .interrupt => false

/-- The address that a continue or step command carries. -/
def resumeAddress : DebugEvent → Option Word
  | .packet ('c' :: address) _ => parseHexU64 address
  | .packet ('s' :: address) _ => parseHexU64 address
  | _ => none

/-- The command that carries an address lets the machine execute. -/
def Executes (machine : Runtime σ) (d : DebugServer σ) : DebugEvent → Prop
  | .packet ('c' :: _) polls => polls ≠ [] ∧ machine.isRunning d.runtime = true ∧ d.Passes machine
  | _ => machine.isRunning d.runtime = true

/-- What the debugger's user relies on. -/
structure Obeys (d : DebugServer σ) (e : DebugEvent) (executed : List Word) : Prop where
  guarded : isContinue e = true → Guarded d executed
  resumed : ∀ a, resumeAddress e = some a → ∀ pc ∈ executed.head?, pc = a

lemma continueLoop_next : ∀ (polls : List Poll) (d : DebugServer σ),
    ∀ pc ∈ (continueLoop machine false polls d).executed, pc ∉ d.breakpoints := by
  intro polls
  induction polls with
  | nil =>
    intro d pc hpc
    exact absurd hpc List.not_mem_nil
  | cons poll polls ih =>
    intro d pc hpc
    rw [continueLoop] at hpc
    by_cases hrunning : machine.isRunning d.runtime = true
    · rw [if_pos hrunning] at hpc
      by_cases hbreak : d.pc machine ∈ d.breakpoints
      · rw [if_pos (by simpa using hbreak)] at hpc
        exact absurd hpc List.not_mem_nil
      rw [if_neg (by simpa using hbreak)] at hpc
      split at hpc
      · rw [List.mem_singleton.mp hpc]
        exact hbreak
      split at hpc
      · rw [List.mem_singleton.mp hpc]
        exact hbreak
      · rcases List.mem_cons.mp hpc with rfl | hpc
        · exact hbreak
        · exact ih (d.cycle machine) pc hpc
    · rw [if_neg hrunning] at hpc
      split at hpc <;> exact absurd hpc List.not_mem_nil

/-- A continue starts where the machine stands, if anywhere, and goes past no breakpoint from there. -/
lemma continueLoop_executed (machine : Runtime σ) (skip : Bool) (polls : List Poll) (d : DebugServer σ) :
    (polls ≠ [] ∧ machine.isRunning d.runtime = true ∧ (d.pc machine ∈ d.breakpoints → skip = true) →
      ∃ rest, (continueLoop machine skip polls d).executed = d.pc machine :: rest ∧
        ∀ pc ∈ rest, pc ∉ d.breakpoints) ∧
    (¬ (polls ≠ [] ∧ machine.isRunning d.runtime = true ∧ (d.pc machine ∈ d.breakpoints → skip = true)) →
      (continueLoop machine skip polls d).executed = []) := by
  cases polls with
  | nil => exact ⟨fun h => absurd rfl h.1, fun _ => rfl⟩
  | cons poll polls =>
    rw [continueLoop]
    by_cases hrunning : machine.isRunning d.runtime = true
    · rw [if_pos hrunning]
      by_cases hpass : d.pc machine ∈ d.breakpoints → skip = true
      · refine ⟨fun _ => ?_, fun h => absurd ⟨List.cons_ne_nil _ _, hrunning, hpass⟩ h⟩
        rw [if_neg]
        · split
          · exact ⟨[], rfl, fun _ h => absurd h List.not_mem_nil⟩
          split
          · exact ⟨[], rfl, fun _ h => absurd h List.not_mem_nil⟩
          · exact ⟨_, rfl, continueLoop_next polls (d.cycle machine)⟩
        · rw [Bool.and_eq_true, Bool.not_eq_true', decide_eq_true_iff]
          rintro ⟨hskip, hmem⟩
          rw [hpass hmem] at hskip
          exact Bool.noConfusion hskip
      · refine ⟨fun h => absurd h.2.2 hpass, fun _ => ?_⟩
        rw [if_pos]
        · rfl
        · rw [Classical.not_imp, Bool.not_eq_true] at hpass
          rw [hpass.2, decide_eq_true hpass.1]
          rfl
    · refine ⟨fun h => absurd h.2.1 hrunning, fun _ => ?_⟩
      rw [if_neg hrunning]
      split <;> rfl

lemma remembersStop_reply (d : DebugServer σ) : RemembersStop (d.setLastStopReply machine) := by
  intro h
  exact Bool.noConfusion h

lemma remembersStop_continueLoop {skip : Bool} : ∀ (polls : List Poll) (d : DebugServer σ), RemembersStop d →
    RemembersStop (continueLoop machine skip polls d).server := by
  intro polls
  induction polls generalizing skip with
  | nil =>
    intro d h
    exact h
  | cons poll polls ih =>
    intro d h
    rw [continueLoop]
    split
    · split
      · exact fun _ => rfl
      split
      · exact h
      split
      · exact remembersStop_reply _
      · exact ih (d.cycle machine) h
    · split
      · exact h
      · exact remembersStop_reply _

section Commands

lemma handleContinue_executed (machine : Runtime σ) (d : DebugServer σ) (polls : List Poll)
    (hparse : ¬ (1 < payload.length ∧ parseHexU64 (payload.drop 1) = none)) :
    (polls ≠ [] ∧ machine.isRunning d.runtime = true ∧ d.Passes machine →
      ∃ rest, (d.handleContinue machine payload polls).executed = d.pc machine :: rest ∧
        ∀ pc ∈ rest, pc ∉ d.breakpoints) ∧
    (¬ (polls ≠ [] ∧ machine.isRunning d.runtime = true ∧ d.Passes machine) →
      (d.handleContinue machine payload polls).executed = []) := by
  have hloop := continueLoop_executed machine
    (d.resumePastBreakpointOnce && decide (d.pc machine = d.resumeBreakpointPc)) polls
    { d with resumePastBreakpointOnce := false }
  rw [Bool.and_eq_true, decide_eq_true_iff] at hloop
  rw [handleContinue, if_neg hparse]
  exact hloop

lemma handleContinue_guarded (h : RemembersStop d) : Guarded d (d.handleContinue machine payload polls).executed := by
  by_cases hparse : 1 < payload.length ∧ parseHexU64 (payload.drop 1) = none
  · rw [handleContinue, if_pos hparse]
    intro k pc hpc
    cases hpc
  obtain ⟨hpasses, hstays⟩ := handleContinue_executed machine d polls hparse
  by_cases hpass : polls ≠ [] ∧ machine.isRunning d.runtime = true ∧ d.Passes machine
  · obtain ⟨rest, hrest, hnext⟩ := hpasses hpass
    rw [hrest]
    intro k pc hpc hmem
    cases k with
    | zero =>
      obtain rfl := Option.some.inj hpc
      obtain ⟨honce, hresume⟩ := hpass.2.2 hmem
      exact ⟨rfl, hresume.trans (h honce)⟩
    | succ k => exact absurd hmem (hnext pc (List.mem_of_getElem? hpc))
  · rw [hstays hpass]
    intro k pc hpc
    cases hpc

lemma remembersStop_handleContinue (h : RemembersStop d) :
    RemembersStop (d.handleContinue machine payload polls).server := by
  rw [handleContinue]
  split
  · exact h
  · exact remembersStop_continueLoop polls _ fun hfalse => Bool.noConfusion hfalse

lemma remembersStop_handleStep (h : RemembersStop d) : RemembersStop (d.handleStep machine payload polls).server := by
  have hstepped : RemembersStop (if machine.isRunning d.runtime then d.cycle machine else d) := by
    split <;> exact h
  rw [handleStep]
  split
  · exact h
  · cases polls with
    | nil => exact hstepped
    | cons poll polls =>
      simp only
      split
      · exact hstepped
      · exact remembersStop_reply _

lemma handleActions_spec (machine : Runtime σ) (polls : List Poll) (h : RemembersStop d) (actions : List (List Char)) :
    RemembersStop (d.handleActions machine polls actions).server ∧
      (actionsContinue actions = true → Guarded d (d.handleActions machine polls actions).executed) := by
  induction actions with
  | nil => exact ⟨h, fun hc => Bool.noConfusion hc⟩
  | cons action actions ih =>
    cases action with
    | nil => exact ih
    | cons kind rest =>
      rw [handleActions, actionsContinue]
      by_cases hc : kind = 'c' ∨ kind = 'C'
      · rw [if_pos hc]
        exact ⟨remembersStop_handleContinue h, fun _ => handleContinue_guarded h⟩
      rw [if_neg hc, if_neg hc]
      by_cases hs : kind = 's' ∨ kind = 'S'
      · rw [if_pos hs, if_pos (hs.elim .inl fun h => .inr (.inl h))]
        exact ⟨remembersStop_handleStep h, fun hfalse => Bool.noConfusion hfalse⟩
      rw [if_neg hs]
      by_cases ht : kind = 't' ∨ kind = 'T'
      · rw [if_pos ht, if_pos (.inr (.inr ht))]
        exact ⟨remembersStop_reply _, fun hfalse => Bool.noConfusion hfalse⟩
      · rw [if_neg ht, if_neg]
        · exact ih
        · rw [not_or] at hs
          rintro (hs' | hs' | ht')
          · exact hs.1 hs'
          · exact hs.2 hs'
          · exact ht ht'

lemma remembersStop_readBytes (h : RemembersStop d) (addr : Word) (n : ℕ) : RemembersStop (readBytes machine addr n d) := by
  induction n with
  | zero => exact h
  | succ n ih => exact ih

lemma handle_continue (address : List Char) :
    handle machine d (.packet ('c' :: address) polls) = d.handleContinue machine ('c' :: address) polls := by
  simp [handle, handlePacket]

lemma handle_step (address : List Char) :
    handle machine d (.packet ('s' :: address) polls) = d.handleStep machine ('s' :: address) polls := by
  simp [handle, handlePacket]

lemma handleStep_executed (hparse : ¬ (1 < payload.length ∧ parseHexU64 (payload.drop 1) = none)) :
    (d.handleStep machine payload polls).executed = if machine.isRunning d.runtime then [d.pc machine] else [] := by
  rw [handleStep, if_neg hparse]
  cases polls with
  | nil => rfl
  | cons poll polls =>
    simp only
    split <;> rfl

end Commands

/-- Every packet keeps what the server remembers of the stop, and a continue minds the breakpoints. -/
lemma handle_spec (h : RemembersStop d) (e : DebugEvent) :
    RemembersStop (handle machine d e).server ∧
      (isContinue e = true → Guarded d (handle machine d e).executed) := by
  cases e with
  | interrupt => exact ⟨remembersStop_reply d, fun hc => Bool.noConfusion hc⟩
  | packet payload polls =>
    have hidle : Guarded d [] := fun k pc hpc => by cases hpc
    change RemembersStop (d.handlePacket machine payload polls).server ∧
      (_ → Guarded d (d.handlePacket machine payload polls).executed)
    rw [handlePacket]
    split
    · refine ⟨?_, fun _ => hidle⟩
      change RemembersStop (d.handleReadMemory machine (payload.drop 1))
      rw [handleReadMemory]
      split
      · exact h
      · exact remembersStop_readBytes h _ _
    split
    · refine ⟨?_, fun _ => hidle⟩
      change RemembersStop (d.handleSetBreakpoint (payload.drop 3))
      rw [handleSetBreakpoint]
      split <;> exact h
    split
    · refine ⟨?_, fun _ => hidle⟩
      change RemembersStop (d.handleClearBreakpoint (payload.drop 3))
      rw [handleClearBreakpoint]
      split <;> exact h
    split
    · exact ⟨remembersStop_handleContinue h, fun _ => handleContinue_guarded h⟩
    next hc =>
    split
    · next hs =>
      refine ⟨remembersStop_handleStep h, fun hcontinue => ?_⟩
      rw [isContinue, decide_eq_false hc, Bool.false_or, Bool.and_eq_true, decide_eq_true_iff] at hcontinue
      have hv := hcontinue.1
      cases payload with
      | nil => exact absurd hv (by simp)
      | cons first rest =>
        obtain ⟨hfirst, -⟩ := List.cons_prefix_cons.mp hs
        obtain ⟨hfirst', -⟩ := List.cons_prefix_cons.mp hv
        rw [← hfirst] at hfirst'
        exact absurd hfirst' (by decide)
    split
    · exact ⟨remembersStop_reply d, fun _ => hidle⟩
    split
    · obtain ⟨hremembers, hguarded⟩ := handleActions_spec machine polls h
        ((payload.drop 6).splitOn ';')
      refine ⟨hremembers, fun hcontinue => hguarded ?_⟩
      rw [isContinue, decide_eq_false hc, Bool.false_or, Bool.and_eq_true] at hcontinue
      exact hcontinue.2
    · exact ⟨h, fun _ => hidle⟩

lemma executed_head {e : DebugEvent} {a : Word} (ha : resumeAddress e = some a) (pc : Word) :
    pc ∈ (handle machine d e).executed.head? ↔ Executes machine d e ∧ d.pc machine = pc := by
  unfold resumeAddress at ha
  split at ha
  · next address polls =>
    have hparse : ¬ (1 < ('c' :: address).length ∧ parseHexU64 (('c' :: address).drop 1) = none) := by
      rintro ⟨-, hnone⟩
      cases ha.symm.trans hnone
    obtain ⟨hpasses, hstays⟩ := handleContinue_executed machine d polls hparse
    rw [handle_continue]
    by_cases hpass : polls ≠ [] ∧ machine.isRunning d.runtime = true ∧ d.Passes machine
    · obtain ⟨rest, hrest, -⟩ := hpasses hpass
      rw [hrest]
      exact ⟨fun h => ⟨hpass, Option.some.inj h⟩, fun h => congrArg some h.2⟩
    · rw [hstays hpass]
      exact ⟨fun h => absurd h (Option.not_mem_none pc), fun h => absurd h.1 hpass⟩
  · next address polls =>
    have hparse : ¬ (1 < ('s' :: address).length ∧ parseHexU64 (('s' :: address).drop 1) = none) := by
      rintro ⟨-, hnone⟩
      cases ha.symm.trans hnone
    rw [handle_step, handleStep_executed hparse]
    by_cases hrunning : machine.isRunning d.runtime = true
    · rw [if_pos hrunning]
      exact ⟨fun h => ⟨hrunning, Option.some.inj h⟩, fun h => congrArg some h.2⟩
    · rw [if_neg hrunning]
      exact ⟨fun h => absurd h (Option.not_mem_none pc), fun h => absurd h.1 hrunning⟩
  · cases ha

lemma remembersStop_of_reach {runtime : σ}
    (h : Runs.Reach (fun d e => (handle machine d e).server) (fun d e => (handle machine d e).finished = true)
      (· = start machine runtime) d) : RemembersStop d := by
  apply h.invariant
  · rintro d rfl hfalse
    exact Bool.noConfusion hfalse
  · intro d e hd _
    exact (handle_spec hd e).1

/-- After any commands the next one does what is relied on exactly when the address it carries, if it executes
anything, is the one where the machine stands. -/
theorem obeys_iff (machine : Runtime σ) (runtime : σ) (d : DebugServer σ)
    (h : Runs.Reach (fun d e => (handle machine d e).server) (fun d e => (handle machine d e).finished = true)
      (· = start machine runtime) d) (e : DebugEvent) :
    Obeys d e (handle machine d e).executed ↔
      ∀ a, resumeAddress e = some a → Executes machine d e → a = d.pc machine := by
  constructor
  · intro hobeys a ha hexecutes
    exact (hobeys.resumed a ha _ ((executed_head ha _).2 ⟨hexecutes, rfl⟩)).symm
  · intro hhere
    refine ⟨(handle_spec (remembersStop_of_reach h) e).2, fun a ha pc hpc => ?_⟩
    obtain ⟨hexecutes, rfl⟩ := (executed_head ha pc).1 hpc
    exact (hhere a ha hexecutes).symm

/-- The processor with RAM only, which reads for the debugger leave as it is. -/
def cpuRuntime : Runtime Cpu := ⟨(·.isRunning), (·.registers.regs 15), Cpu.cycle, fun _ s => s⟩

def sampleMachine : Cpu := sampleCpu fun i => if i = 15 then 0x2000 else 0

/-- The server after a breakpoint was set where the machine stands. -/
def sampleServer : DebugServer Cpu :=
  (handle cpuRuntime (start cpuRuntime sampleMachine) (.packet "Z0,2000,2".toList [])).server

def sampleContinue : DebugEvent := .packet "c".toList [⟨true, false⟩, ⟨true, true⟩]

theorem obeys_iff_breakpoint :
    Obeys sampleServer sampleContinue (handle cpuRuntime sampleServer sampleContinue).executed :=
  have hset : (handle cpuRuntime (start cpuRuntime sampleMachine) (.packet "Z0,2000,2".toList [])).finished = true := by
    decide +kernel
  have haddress : resumeAddress sampleContinue = none := by decide +kernel
  (obeys_iff cpuRuntime sampleMachine sampleServer (.next (DebugEvent.packet "Z0,2000,2".toList []) (.start rfl) hset)
    sampleContinue).2 fun a ha => by cases haddress.symm.trans ha

/-- A step at another address executes the instruction where the machine stands. -/
theorem step_elsewhere_stays :
    ¬ Obeys (start cpuRuntime sampleMachine) (.packet "s3000".toList [⟨true, false⟩])
      (handle cpuRuntime (start cpuRuntime sampleMachine) (.packet "s3000".toList [⟨true, false⟩])).executed := by
  intro hobeys
  have ha : resumeAddress (.packet "s3000".toList [⟨true, false⟩]) = some 0x3000 := by decide +kernel
  have hrunning : cpuRuntime.isRunning (start cpuRuntime sampleMachine).runtime = true := rfl
  have hpc := hobeys.resumed 0x3000 ha 0x2000 ((executed_head ha 0x2000).2 ⟨hrunning, rfl⟩)
  exact absurd hpc (by decide)

end Little64.Emulator.DebugServer

import Little64.Emulator.Dispatch

/-! The debug server: packets of the remote protocol that set breakpoints, run the machine and report its stops. -/

namespace Little64.Emulator

/-- What the server uses of the machine it debugs. -/
structure Runtime (σ : Type) where
  isRunning : σ → Bool
  pc : σ → Word
  cycle : σ → σ
  /-- What reading a byte for the debugger leaves of the machine. -/
  memoryRead8 : Word → σ → σ

/-- What the transport answers after a cycle: whether the serial output was written, and whether an interrupt came. -/
structure Poll where
  serialWritten : Bool
  interrupted : Bool
  deriving DecidableEq, Repr

structure DebugServer (σ : Type) where
  runtime : σ
  breakpoints : Finset Word
  resumePastBreakpointOnce : Bool
  resumeBreakpointPc : Word
  /-- Where the machine stood at the stop reported last; the stop reply says so. -/
  reportedPc : Word

/-- A command carried out, or as far as the given answers of the transport let it go. -/
structure Handled (σ : Type) where
  server : DebugServer σ
  /-- Where the instructions stood that it executed, in order. -/
  executed : List Word
  finished : Bool

def hexDigit (c : Char) : Option ℕ :=
  if '0' ≤ c ∧ c ≤ '9' then some (c.toNat - '0'.toNat)
  else if 'a' ≤ c ∧ c ≤ 'f' then some (c.toNat - 'a'.toNat + 10)
  else if 'A' ≤ c ∧ c ≤ 'F' then some (c.toNat - 'A'.toNat + 10)
  else none

/-- Hexadecimal digits to the end of the text, with a value of 64 bits. -/
def parseHexU64 (text : List Char) : Option Word := do
  if text = [] then none
  let value ← text.foldlM (fun value c => (hexDigit c).map (16 * value + ·)) 0
  if value < 2 ^ 64 then some (BitVec.ofNat 64 value) else none

/-- Two numbers with a comma between them. -/
def splitComma (payload : List Char) : Option (List Char × List Char) :=
  if ',' ∈ payload then some (payload.takeWhile (· ≠ ','), (payload.dropWhile (· ≠ ',')).tail) else none

namespace DebugServer

variable {σ : Type} (machine : Runtime σ) (d : DebugServer σ)

def pc : Word := machine.pc d.runtime

def finish (executed : List Word) : Handled σ := ⟨d, executed, true⟩

def setLastStopReply : DebugServer σ := { d with resumePastBreakpointOnce := false, reportedPc := d.pc machine }

def setLastStopReplyAtBreakpoint : DebugServer σ :=
  { d with resumePastBreakpointOnce := true, resumeBreakpointPc := d.pc machine, reportedPc := d.pc machine }

def cycle : DebugServer σ := { d with runtime := machine.cycle d.runtime }

/-- The loop of a continue, while the transport has answers. -/
def continueLoop (skipBreakpointCheckOnce : Bool) : List Poll → DebugServer σ → Handled σ
  | [], d => ⟨d, [], false⟩
  | poll :: polls, d =>
    if machine.isRunning d.runtime then
      if !skipBreakpointCheckOnce && decide (d.pc machine ∈ d.breakpoints) then
        (d.setLastStopReplyAtBreakpoint machine).finish []
      else if !poll.serialWritten then (d.cycle machine).finish [d.pc machine]
      else if poll.interrupted then ((d.cycle machine).setLastStopReply machine).finish [d.pc machine]
      else
        let rest := continueLoop false polls (d.cycle machine)
        { rest with executed := d.pc machine :: rest.executed }
    else if !poll.serialWritten then d.finish []
    else (d.setLastStopReply machine).finish []

/-- The address that a continue or step command carries is parsed and not used. -/
def handleContinue (payload : List Char) (polls : List Poll) : Handled σ :=
  if 1 < payload.length ∧ parseHexU64 (payload.drop 1) = none then d.finish []
  else
    let skipBreakpointCheckOnce := d.resumePastBreakpointOnce && decide (d.pc machine = d.resumeBreakpointPc)
    continueLoop machine skipBreakpointCheckOnce polls { d with resumePastBreakpointOnce := false }

def handleStep (payload : List Char) (polls : List Poll) : Handled σ :=
  if 1 < payload.length ∧ parseHexU64 (payload.drop 1) = none then d.finish []
  else
    let running := machine.isRunning d.runtime
    let stepped := if running then d.cycle machine else d
    let executed := if running then [d.pc machine] else []
    match polls with
    | [] => ⟨stepped, executed, false⟩
    | poll :: _ => if !poll.serialWritten then stepped.finish executed else (stepped.setLastStopReply machine).finish executed

/-- The first action that is not empty decides. -/
def handleActions (polls : List Poll) : List (List Char) → Handled σ
  | [] => d.finish []
  | [] :: actions => handleActions polls actions
  | (kind :: _) :: actions =>
    if kind = 'c' ∨ kind = 'C' then d.handleContinue machine ['c'] polls
    else if kind = 's' ∨ kind = 'S' then d.handleStep machine ['s'] polls
    else if kind = 't' ∨ kind = 'T' then (d.setLastStopReply machine).finish []
    else handleActions polls actions

def handleVCont (actions : List Char) (polls : List Poll) : Handled σ :=
  d.handleActions machine polls (actions.splitOn ';')

def handleSetBreakpoint (payload : List Char) : DebugServer σ :=
  match (splitComma payload).bind fun parts => parseHexU64 parts.1 with
  | none => d
  | some addr => { d with breakpoints := insert addr d.breakpoints }

def handleClearBreakpoint (payload : List Char) : DebugServer σ :=
  match (splitComma payload).bind fun parts => parseHexU64 parts.1 with
  | none => d
  | some addr => { d with breakpoints := d.breakpoints.erase addr }

def readBytes (addr : Word) : ℕ → DebugServer σ → DebugServer σ
  | 0, d => d
  | n + 1, d =>
    let d := readBytes addr n d
    { d with runtime := machine.memoryRead8 (addr + BitVec.ofNat 64 n) d.runtime }

def handleReadMemory (payload : List Char) : DebugServer σ :=
  match (splitComma payload).bind fun parts =>
    (parseHexU64 parts.1).bind fun addr => (parseHexU64 parts.2).map fun length => (addr, length) with
  | none => d
  | some (addr, length) => readBytes machine addr length.toNat d

/-- A packet. Those that only ask for a text change nothing. -/
def handlePacket (payload : List Char) (polls : List Poll) : Handled σ :=
  if "m".toList <+: payload then (d.handleReadMemory machine (payload.drop 1)).finish []
  else if "Z0,".toList <+: payload then (d.handleSetBreakpoint (payload.drop 3)).finish []
  else if "z0,".toList <+: payload then (d.handleClearBreakpoint (payload.drop 3)).finish []
  else if "c".toList <+: payload then d.handleContinue machine payload polls
  else if "s".toList <+: payload then d.handleStep machine payload polls
  else if payload = "vCtrlC".toList then (d.setLastStopReply machine).finish []
  else if "vCont;".toList <+: payload then d.handleVCont machine (payload.drop 6) polls
  else d.finish []

end DebugServer

/-- What the transport hands to the server's main loop. -/
inductive DebugEvent
  | packet (payload : List Char) (polls : List Poll)
  | interrupt
  deriving DecidableEq, Repr

namespace DebugServer

variable {σ : Type} (machine : Runtime σ)

def handle (d : DebugServer σ) : DebugEvent → Handled σ
  | .packet payload polls => d.handlePacket machine payload polls
  | .interrupt => (d.setLastStopReply machine).finish []

def start (runtime : σ) : DebugServer σ := ⟨runtime, ∅, false, 0, machine.pc runtime⟩

end DebugServer

end Little64.Emulator

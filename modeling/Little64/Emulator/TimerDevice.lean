import Little64.Library.Runs
import Little64.Emulator.Vectors

/-! The timer device with its two sources, on the clock of the emulator and the interrupt line that they share. -/

namespace Little64.Emulator

structure TimerDevice where
  cycleInterval : Word
  timeIntervalNs : Word
  nextCycleFire : Word
  nextTimeFireNs : Word
  firedThisCycle : Bool
  deriving DecidableEq, Repr

namespace TimerDevice

def reset : TimerDevice := ⟨0, 0, 0, 0, false⟩

variable (d : TimerDevice) (c t : Word)

/-- An interval of zero switches a source off. -/
def due (interval next now : Word) : Bool := decide (interval ≠ 0) && decide (next ≤ now)

def cycleDue : Bool := due d.cycleInterval d.nextCycleFire c

def timeDue : Bool := due d.timeIntervalNs d.nextTimeFireNs t

/-- The device after a tick, and whether it asserts its line. -/
def tick : TimerDevice × Bool :=
  let shouldFire := d.cycleDue c || d.timeDue t
  let d' := { d with
    nextCycleFire := if d.cycleDue c then c + d.cycleInterval else d.nextCycleFire
    nextTimeFireNs := if d.timeDue t then t + d.timeIntervalNs else d.nextTimeFireNs }
  if shouldFire && !d.firedThisCycle then ({ d' with firedThisCycle := true }, true)
  else if !shouldFire then ({ d' with firedThisCycle := false }, false)
  else (d', false)

/-- The device after a 64-bit write, and whether it clears its line. -/
def write64 (offset val : Word) : TimerDevice × Bool :=
  if 32 < offset ∨ offset &&& 7 ≠ 0 then (d, false)
  else if offset = 16 then
    if val ≠ 0 then ({ d with cycleInterval := val, nextCycleFire := c + val, firedThisCycle := false }, false)
    else ({ d with cycleInterval := val }, true)
  else if offset = 24 then
    if val ≠ 0 then ({ d with timeIntervalNs := val, nextTimeFireNs := t + val, firedThisCycle := false }, false)
    else ({ d with timeIntervalNs := val }, true)
  else (d, false)

end TimerDevice

inductive TimerEvent
  | tick
  | write64 (offset val : Word)
  /-- A write of a byte, and what is made of such writes. -/
  | write8
  | advance (cycles nanoseconds : ℕ)
  /-- The guest clears the pending interrupt. -/
  | acknowledge
  deriving DecidableEq, Repr

/-- The device with the time that has passed, of which it sees 64 bits, and the interrupt line. -/
structure TimerSystem where
  device : TimerDevice
  cycles : ℕ
  nanoseconds : ℕ
  line : Bool
  deriving DecidableEq, Repr

namespace TimerSystem

variable (s : TimerSystem)

def clockCycles : Word := BitVec.ofNat 64 s.cycles

def virtualNanoseconds : Word := BitVec.ofNat 64 s.nanoseconds

def asserts : TimerEvent → Bool
  | .tick => (s.device.tick s.clockCycles s.virtualNanoseconds).2
  | _ => false

def step : TimerEvent → TimerSystem
  | .tick => { s with
      device := (s.device.tick s.clockCycles s.virtualNanoseconds).1
      line := s.line || s.asserts .tick }
  | .write64 offset val =>
    let written := s.device.write64 s.clockCycles s.virtualNanoseconds offset val
    { s with device := written.1, line := s.line && !written.2 }
  | .write8 => s
  | .advance cycles nanoseconds => { s with
      cycles := s.cycles + cycles
      nanoseconds := s.nanoseconds + nanoseconds }
  | .acknowledge => { s with line := false }

def start : TimerSystem := ⟨.reset, 0, 0, false⟩

end TimerSystem

end Little64.Emulator

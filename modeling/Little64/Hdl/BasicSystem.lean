import Little64.Hdl.BasicCore
import Little64.Hdl.LsuExactness
import Little64.Library.LeadsTo

/-! The basic core on its two buses, with one memory behind both that answers when it likes. -/

namespace Little64.Hdl

open ByteMemory

/-- What the surroundings of the core decide in one cycle, with what the data lanes carry that nobody drives. -/
structure BasicEnvironment (c : BasicConfig) where
  iAck : Bool
  iErr : Bool
  dAck : Bool
  dErr : Bool
  undriven : Word
  irqLines : BitVec c.irqInputCount
  bootR1 : Word
  bootR13 : Word

/-- The core over its memory, with the number of instructions it has committed. -/
structure BasicSystem (c : BasicConfig) where
  core : BasicCore c
  memory : Memory 64
  commits : ℕ

/-- The memory where it can be written, and what was there elsewhere. -/
def masked (writable : Word → Bool) (new old : Memory 64) : Memory 64 := fun x => if writable x then new x else old x

namespace BasicSystem

variable {c : BasicConfig}

def start (c : BasicConfig) (m : Memory 64) : BasicSystem c := ⟨.init c, m, 0⟩

variable (writable : Word → Bool) (t : BasicSystem c) (e : BasicEnvironment c)

def inputs : BasicInputs c where
  iBus := ⟨e.iAck, e.iErr, readLanes t.memory t.core.iBusAdr 0xFF 0⟩
  dBus := ⟨e.dAck, e.dErr, readLanes t.memory t.core.dBusAdr t.core.dBusSel e.undriven⟩
  irqLines := e.irqLines
  bootR1 := e.bootR1
  bootR13 := e.bootR13

def writes : Bool := t.core.dBusCyc && t.core.dBusWe && e.dAck && !e.dErr

def step : BasicSystem c where
  core := t.core.step (t.inputs e)
  memory :=
    if t.writes e then
      masked writable (writeLanes t.memory t.core.dBusAdr t.core.dBusSel t.core.dBusDatW) t.memory
    else t.memory
  commits := t.commits + if t.core.commitValid (t.inputs e) then 1 else 0

/-- The core over its memory, cycle after cycle. -/
def after (t₀ : BasicSystem c) (env : ℕ → BasicEnvironment c) : ℕ → BasicSystem c :=
  LeadsTo.trace (BasicSystem.step writable) t₀ env

end BasicSystem

end Little64.Hdl

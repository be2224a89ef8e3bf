import Little64.Library.ByteMemory
import Little64.Library.BitFields
import Little64.Emulator.Vectors

/-! The fetch frontend of the V4 core: a direct-mapped instruction cache with one
bus port, shared by demand fills and prefetches of the next line. -/

namespace Little64.Hdl

structure FrontendConfig where
  addressWidth : ℕ
  indexBits : ℕ
  busTimeoutCycles : ℕ

namespace FrontendConfig

variable (c : FrontendConfig)

def lineNumberWidth : ℕ := c.addressWidth - 3
def tagWidth : ℕ := c.lineNumberWidth - c.indexBits

abbrev Line := BitVec c.lineNumberWidth
abbrev Index := BitVec c.indexBits
abbrev Tag := BitVec c.tagWidth

variable {c}

def line (base : Word) : c.Line := (base >>> 3).setWidth c.lineNumberWidth
def index (line : c.Line) : c.Index := line.setWidth c.indexBits
def tag (line : c.Line) : c.Tag := (line >>> c.indexBits).setWidth c.tagWidth

end FrontendConfig

def fetchLineMask : Word := 0xFFFFFFFFFFFFFFF8

structure FrontendInputs where
  pc : Word
  invalidate : Bool
  updateLineValid : Bool
  updateLineData : Word
  ack : Bool
  err : Bool
  datR : Word
  deriving DecidableEq, Repr

structure Frontend (c : FrontendConfig) where
  validBits : c.Index → Bool
  tagMem : c.Index → c.Tag
  dataMem : c.Index → Word
  requestValid : Bool
  requestCancelled : Bool
  requestLineBase : Word
  requestIsPrefetch : Bool
  prefetchValid : Bool
  prefetchBase : Word
  prefetchData : Word
  watchdogCounter : ℕ
  lineValid : Bool
  lineBase : Word
  lineData : Word

/-- One write through the only write port of the tag and data memories. -/
structure CacheWrite (c : FrontendConfig) where
  addr : c.Index
  tag : c.Tag
  data : Word

namespace Frontend

open FrontendConfig

variable {c : FrontendConfig} (s : Frontend c) (i : FrontendInputs)

def reset (c : FrontendConfig) : Frontend c where
  validBits _ := false
  tagMem _ := 0
  dataMem _ := 0
  requestValid := false
  requestCancelled := false
  requestLineBase := 0
  requestIsPrefetch := false
  prefetchValid := false
  prefetchBase := 0
  prefetchData := 0
  watchdogCounter := 0
  lineValid := false
  lineBase := 0
  lineData := 0

def lineBaseRequested : Word := i.pc &&& fetchLineMask
def nextLineBase : Word := lineBaseRequested i + 8
def slotIndex : ℕ := ((i.pc >>> 1).setWidth 2).toNat

def hit (base : Word) : Bool :=
  s.validBits (index (line base)) && s.tagMem (index (line base)) == tag (line base)

def lineHit : Bool := s.hit (lineBaseRequested i)
def nextLineHit : Bool := s.hit (nextLineBase i)
def prefetchHit : Bool := s.prefetchValid && s.prefetchBase == lineBaseRequested i

def selectedLineData : Word :=
  if s.prefetchHit i then s.prefetchData else s.dataMem (index (line (lineBaseRequested i)))

def prefetchNeeded : Bool :=
  slotIndex i != 0 && !s.requestValid && !s.nextLineHit i &&
    !(s.prefetchValid && s.prefetchBase == nextLineBase i)

def watchdogFire : Bool :=
  decide (0 < c.busTimeoutCycles) && s.requestValid && s.watchdogCounter == c.busTimeoutCycles

def effectiveErr : Bool := i.err || s.watchdogFire

def instructionValid : Bool := s.lineHit i || s.prefetchHit i
def instructionWord : BitVec 16 := (s.selectedLineData i).extractLsb' (16 * slotIndex i) 16

def fetchError : Bool :=
  s.requestValid && !s.requestCancelled && !s.requestIsPrefetch && s.effectiveErr i

/-- The request ends in this cycle. -/
def requestDone : Bool := s.requestValid && (i.ack || s.effectiveErr i)

/-- The response of the request is kept. -/
def responseAccepted : Bool :=
  s.requestDone i && (i.ack && !s.effectiveErr i && !s.requestCancelled && !i.invalidate)

def promotes : Bool := !i.invalidate && s.prefetchHit i && !s.lineHit i
def fills : Bool := s.responseAccepted i && !s.requestIsPrefetch
def prefetches : Bool := s.responseAccepted i && s.requestIsPrefetch
def updates : Bool := !i.invalidate && i.updateLineValid && s.lineHit i

/-- Promotion, fill and line update drive the write port in this order; the last one wins. -/
def cacheWrite : Option (CacheWrite c) :=
  let lookupLine := line (lineBaseRequested i)
  let requestLine := line s.requestLineBase
  if s.updates i then some ⟨index lookupLine, tag lookupLine, i.updateLineData⟩
  else if s.fills i then some ⟨index requestLine, tag requestLine, i.datR⟩
  else if s.promotes i then some ⟨index lookupLine, tag lookupLine, s.prefetchData⟩
  else none

def demandRequest : Bool := !i.invalidate && !(s.lineHit i || s.prefetchHit i) && !s.requestValid

def prefetchRequest : Bool := !s.demandRequest i && (!i.invalidate && s.lineHit i && s.prefetchNeeded i)

def setBit (bits : c.Index → Bool) (slot : c.Index) : c.Index → Bool := fun x =>
  if x = slot then true else bits x

def nextValidBits : c.Index → Bool :=
  if s.fills i then setBit s.validBits (index (line s.requestLineBase))
  else if s.promotes i then setBit s.validBits (index (line (lineBaseRequested i)))
  else if i.invalidate then fun _ => false
  else s.validBits

def nextRequestCancelled : Bool :=
  if s.demandRequest i || s.prefetchRequest i then false
  else if s.requestDone i then false
  else if i.invalidate then s.requestValid
  else s.requestCancelled

def nextWatchdogCounter : ℕ :=
  if decide (0 < c.busTimeoutCycles) && s.requestValid && !i.ack && !i.err && !s.watchdogFire then
    s.watchdogCounter + 1
  else 0

def step : Frontend c where
  validBits := s.nextValidBits i
  tagMem := fun x =>
    match s.cacheWrite i with
    | some w => if x = w.addr then w.tag else s.tagMem x
    | none => s.tagMem x
  dataMem := fun x =>
    match s.cacheWrite i with
    | some w => if x = w.addr then w.data else s.dataMem x
    | none => s.dataMem x
  requestValid := s.demandRequest i || s.prefetchRequest i || (s.requestValid && !s.requestDone i)
  requestCancelled := s.nextRequestCancelled i
  requestLineBase :=
    if s.demandRequest i then lineBaseRequested i else if s.prefetchRequest i then nextLineBase i
    else s.requestLineBase
  requestIsPrefetch :=
    if s.demandRequest i then false else if s.prefetchRequest i then true
    else if s.requestDone i then false else s.requestIsPrefetch
  prefetchValid :=
    if s.prefetches i then true else if i.invalidate then false else s.prefetchValid
  prefetchBase := if s.prefetches i then s.requestLineBase else s.prefetchBase
  prefetchData := if s.prefetches i then i.datR else s.prefetchData
  watchdogCounter := s.nextWatchdogCounter i
  lineValid := if i.invalidate then false else s.lineHit i || s.prefetchHit i
  lineBase := if i.invalidate then s.lineBase else lineBaseRequested i
  lineData := if i.invalidate then s.lineData else s.selectedLineData i

end Frontend

end Little64.Hdl

import Little64.Library.ByteMemory
import Little64.Emulator.Vectors

/-! The load/store unit of the V4 core: one request at a time, in one bus beat or, across a
word boundary, in two. -/

namespace Little64.Hdl

inductive LsuState
  | idle
  | first
  | second
  deriving DecidableEq, Repr

structure LsuRequest where
  valid : Bool
  addr : Word
  widthBytes : ℕ
  write : Bool
  storeValue : Word
  deriving DecidableEq, Repr

/-- What the bus master sees of the bus in one cycle. -/
structure BusReply where
  ack : Bool
  err : Bool
  datR : Word
  deriving DecidableEq, Repr

structure LsuResponse where
  valid : Bool
  error : Bool
  loadValue : Word
  deriving DecidableEq, Repr

structure Lsu where
  state : LsuState
  latchedAddr : Word
  latchedWidth : ℕ
  latchedWrite : Bool
  latchedStoreValue : Word
  firstData : Word
  watchdogCounter : ℕ
  deriving DecidableEq, Repr

/-- The low bytes of a word for the widths that are not whole words. -/
def narrow (widthBytes : ℕ) (value : Word) : Word :=
  match widthBytes with
  | 1 => value &&& 0xFF
  | 2 => value &&& 0xFFFF
  | 4 => value &&& 0xFFFFFFFF
  | _ => value

namespace Lsu

def reset : Lsu := ⟨.idle, 0, 0, false, 0, 0, 0⟩

variable (s : Lsu) (busTimeoutCycles : ℕ) (bus : BusReply)

def busActive : Bool := s.state != .idle
def requestReady : Bool := s.state == .idle

def watchdogFire : Bool :=
  decide (0 < busTimeoutCycles) && s.busActive && s.watchdogCounter == busTimeoutCycles

def effectiveErr : Bool := bus.err || s.watchdogFire busTimeoutCycles

def byteOffset : ℕ := (s.latchedAddr.setWidth 3).toNat

def baseSel : BitVec 8 :=
  match s.latchedWidth with
  | 1 => 0x01
  | 2 => 0x03
  | 4 => 0x0F
  | _ => 0xFF

def shiftedSel : BitVec 16 := s.baseSel.setWidth 16 <<< s.byteOffset
def firstBeatSel : BitVec 8 := s.shiftedSel.extractLsb' 0 8
def secondBeatSel : BitVec 8 := s.shiftedSel.extractLsb' 8 8
def splitNeeded : Bool := s.secondBeatSel != 0
def shiftedDatW : BitVec 128 := s.latchedStoreValue.setWidth 128 <<< (s.byteOffset * 8)
def wordAlignedAddr : Word := s.latchedAddr &&& 0xFFFFFFFFFFFFFFF8
def nextWordAddr : Word := s.wordAlignedAddr + 8

def busAdr : Word := if s.state = .second then s.nextWordAddr else s.wordAlignedAddr
def busSel : BitVec 8 := if s.state = .second then s.secondBeatSel else s.firstBeatSel

def busDatW : Word :=
  if s.state = .second then s.shiftedDatW.extractLsb' 64 64 else s.shiftedDatW.extractLsb' 0 64

def busCyc : Bool := s.busActive
def busWe : Bool := s.latchedWrite && s.busActive

def singleReadData : Word := bus.datR >>> (s.byteOffset * 8)

def combinedReadData : Word :=
  if s.byteOffset = 0 then s.firstData
  else s.firstData >>> (s.byteOffset * 8) ||| bus.datR <<< (64 - s.byteOffset * 8)

def response : LsuResponse :=
  match s.state with
  | .idle => ⟨false, false, 0⟩
  | .first =>
    if s.effectiveErr busTimeoutCycles bus then ⟨true, true, 0⟩
    else if bus.ack ∧ ¬ s.splitNeeded then ⟨true, false, narrow s.latchedWidth (s.singleReadData bus)⟩
    else ⟨false, false, 0⟩
  | .second =>
    if s.effectiveErr busTimeoutCycles bus then ⟨true, true, 0⟩
    else if bus.ack then ⟨true, false, narrow s.latchedWidth (s.combinedReadData bus)⟩
    else ⟨false, false, 0⟩

def nextWatchdogCounter : ℕ :=
  if decide (0 < busTimeoutCycles) && s.busActive && !bus.ack && !bus.err && !s.watchdogFire busTimeoutCycles then
    s.watchdogCounter + 1
  else 0

def step (request : LsuRequest) : Lsu :=
  let s' := { s with watchdogCounter := s.nextWatchdogCounter busTimeoutCycles bus }
  match s.state with
  | .idle =>
    if request.valid then
      { s' with
        state := .first
        latchedAddr := request.addr
        latchedWidth := request.widthBytes
        latchedWrite := request.write
        latchedStoreValue := request.storeValue }
    else s'
  | .first =>
    if s.effectiveErr busTimeoutCycles bus then { s' with state := .idle }
    else if bus.ack then
      if s.splitNeeded then { s' with firstData := bus.datR, state := .second } else { s' with state := .idle }
    else s'
  | .second =>
    if s.effectiveErr busTimeoutCycles bus ∨ bus.ack then { s' with state := .idle } else s'

end Lsu

end Little64.Hdl

import Little64.Library.LittleEndian
import Little64.Emulator.Vectors

/-! The bridge from byte-addressed data requests to the 64-bit word bus: its registers and its lanes. -/

namespace Little64.Hdl

open LittleEndian

namespace DataBridge

structure CpuLines where
  adr : Word
  datW : Word
  sel : BitVec 8
  cyc : Bool
  stb : Bool
  we : Bool
  deriving DecidableEq, Repr

/-- The word bus has the 61 address lines that name the 64-bit words of a 64-bit space. -/
structure BusLines where
  adr : BitVec 61
  datW : Word
  sel : BitVec 8
  cyc : Bool
  stb : Bool
  we : Bool
  deriving DecidableEq, Repr

structure BusAnswer where
  ack : Bool
  err : Bool
  datR : Word
  deriving DecidableEq, Repr

inductive BridgeState
  | idle
  | beat0
  | beat1
  deriving DecidableEq, Repr

structure Bridge where
  state : BridgeState
  latchedAdr : Word
  latchedDatW : Word
  latchedSel : BitVec 8
  latchedWe : Bool
  firstReadData : Word
  responseValid : Bool
  responseError : Bool
  responseData : Word
  deriving DecidableEq, Repr

namespace Bridge

def reset : Bridge := ⟨.idle, 0, 0, 0, false, 0, false, false, 0⟩

variable (s : Bridge)

def offset : ℕ := s.latchedAdr.toNat % 8

def shiftedSel : BitVec 16 := s.latchedSel.setWidth 16 <<< s.offset

def shiftedDatW : BitVec 128 := s.latchedDatW.setWidth 128 <<< (8 * s.offset)

def firstBusAdr : Word := s.latchedAdr >>> 3

def secondBusAdr : Word := s.latchedAdr >>> 3 + 1

def firstBusSel : BitVec 8 := s.shiftedSel.extractLsb' 0 8

def secondBusSel : BitVec 8 := s.shiftedSel.extractLsb' 8 8

def firstBusDatW : Word := s.shiftedDatW.extractLsb' 0 64

def secondBusDatW : Word := s.shiftedDatW.extractLsb' 64 64

def splitAccess : Bool := s.secondBusSel != 0

def singleReadData (datR : Word) : Word := datR >>> (8 * s.offset)

/-- The high bytes of the first word, and above them the low bytes of the second. -/
def combinedReadData (datR : Word) : Word :=
  if s.offset = 0 then s.firstReadData else s.firstReadData >>> (8 * s.offset) ||| datR <<< (64 - 8 * s.offset)

def cpuAck : Bool := s.responseValid && !s.responseError

def cpuErr : Bool := s.responseValid && s.responseError

def bus : BusLines :=
  match s.state with
  | .idle => ⟨0, 0, 0, false, false, false⟩
  | .beat0 => ⟨s.firstBusAdr.setWidth 61, s.firstBusDatW, s.firstBusSel, true, true, s.latchedWe⟩
  | .beat1 => ⟨s.secondBusAdr.setWidth 61, s.secondBusDatW, s.secondBusSel, true, true, s.latchedWe⟩

/-- The registers after the clock edge. -/
def step (cpu : CpuLines) (bus : BusAnswer) : Bridge :=
  if s.responseValid then { s with responseValid := false }
  else
    match s.state with
    | .idle =>
      if cpu.cyc && cpu.stb then
        { s with latchedAdr := cpu.adr, latchedDatW := cpu.datW, latchedSel := cpu.sel, latchedWe := cpu.we
                 state := .beat0 }
      else s
    | .beat0 =>
      if bus.err then { s with responseValid := true, responseError := true, responseData := 0, state := .idle }
      else if bus.ack then
        if s.splitAccess then { s with firstReadData := bus.datR, state := .beat1 }
        else
          { s with responseValid := true, responseError := false, responseData := s.singleReadData bus.datR
                   state := .idle }
      else s
    | .beat1 =>
      if bus.err then { s with responseValid := true, responseError := true, responseData := 0, state := .idle }
      else if bus.ack then
        { s with responseValid := true, responseError := false, responseData := s.combinedReadData bus.datR
                 state := .idle }
      else s

end Bridge

/-- One byte read or written, with its value. -/
structure ByteEvent where
  addr : Word
  write : Bool
  value : Byte
  deriving DecidableEq, Repr

def laneEvent (sel : BitVec 8) (base : Word) (write : Bool) (data : Word) (i : ℕ) : Option ByteEvent :=
  if sel.getLsbD i then some ⟨base + BitVec.ofNat 64 i, write, byteAt data i⟩ else none

def lanes (sel : BitVec 8) (base : Word) (write : Bool) (data : Word) : List ByteEvent :=
  (List.range 8).filterMap (laneEvent sel base write data)

structure Request where
  adr : Word
  datW : Word
  sel : BitVec 8
  we : Bool
  deriving DecidableEq, Repr

/-- The bytes a request asks for, lane after lane; what a read returns is in `data`. -/
def Request.events (r : Request) (data : Word) : List ByteEvent :=
  lanes r.sel r.adr r.we (if r.we then r.datW else data)

/-- A word transfer the bus has acknowledged. -/
structure Beat where
  lines : BusLines
  datR : Word
  deriving DecidableEq, Repr

def Beat.events (b : Beat) : List ByteEvent :=
  lanes b.lines.sel (b.lines.adr.setWidth 64 <<< 3) b.lines.we (if b.lines.we then b.lines.datW else b.datR)

section Datapath

variable {s : Bridge} {write : Bool} {data first second : Word} {j : ℕ}

lemma getLsbD_firstBusSel (hj : j < 8) :
    s.firstBusSel.getLsbD j = (decide (s.offset ≤ j) && s.latchedSel.getLsbD (j - s.offset)) := by
  rw [Bridge.firstBusSel, BitVec.getLsbD_extractLsb', Bridge.shiftedSel, BitVec.getLsbD_shiftLeft, BitVec.getLsbD_setWidth]
  by_cases h : j < s.offset
  · simp [hj, h, Nat.not_le.mpr h]
  · simp [hj, h, Nat.not_lt.mp h, show j < 16 by omega, show j - s.offset < 16 by omega]

lemma getLsbD_secondBusSel (hj : j < 8) : s.secondBusSel.getLsbD j = s.latchedSel.getLsbD (8 + j - s.offset) := by
  have hk : s.offset < 8 := Nat.mod_lt _ (by decide)
  rw [Bridge.secondBusSel, BitVec.getLsbD_extractLsb', Bridge.shiftedSel, BitVec.getLsbD_shiftLeft, BitVec.getLsbD_setWidth]
  simp [hj, show ¬ 8 + j < s.offset by omega, show 8 + j < 16 by omega, show 8 + j - s.offset < 16 by omega]

lemma offset_lt (s : Bridge) : s.offset < 8 := Nat.mod_lt _ (by decide)

lemma firstBusAdr_byte (s : Bridge) (j : ℕ) :
    (s.firstBusAdr.setWidth 61).setWidth 64 <<< 3 + BitVec.ofNat 64 (s.offset + j) = s.latchedAdr + BitVec.ofNat 64 j := by
  have hlt := s.latchedAdr.isLt
  have hk : s.latchedAdr.toNat % 8 = s.offset := rfl
  apply BitVec.eq_of_toNat_eq
  simp only [Bridge.firstBusAdr, BitVec.toNat_add, BitVec.toNat_shiftLeft, BitVec.toNat_setWidth, BitVec.toNat_ushiftRight,
    BitVec.toNat_ofNat, Nat.shiftLeft_eq, Nat.shiftRight_eq_div_pow]
  omega

/-- The word after the first one, also from the last word of the space to the first. -/
lemma secondBusAdr_byte (s : Bridge) (j : ℕ) :
    (s.secondBusAdr.setWidth 61).setWidth 64 <<< 3 + BitVec.ofNat 64 j =
      s.latchedAdr + BitVec.ofNat 64 (8 - s.offset + j) := by
  have hlt := s.latchedAdr.isLt
  have hoff : s.latchedAdr.toNat % 8 = s.offset := rfl
  have hone : (1 : Word).toNat = 1 := rfl
  have hlt8 := offset_lt s
  apply BitVec.eq_of_toNat_eq
  simp only [Bridge.secondBusAdr, BitVec.toNat_add, BitVec.toNat_shiftLeft, BitVec.toNat_setWidth, BitVec.toNat_ushiftRight,
    BitVec.toNat_ofNat, Nat.shiftLeft_eq, Nat.shiftRight_eq_div_pow, hone]
  omega

lemma byteAt_firstBusDatW (hj : j < 8 - s.offset) : byteAt s.firstBusDatW (s.offset + j) = byteAt s.latchedDatW j := by
  apply BitVec.eq_of_getLsbD_eq
  intro k hk
  have hlt := offset_lt s
  rw [getLsbD_byteAt, getLsbD_byteAt, Bridge.firstBusDatW, BitVec.getLsbD_extractLsb', Bridge.shiftedDatW,
    BitVec.getLsbD_shiftLeft, BitVec.getLsbD_setWidth]
  have hsub : 8 * (s.offset + j) + k - 8 * s.offset = 8 * j + k := by omega
  simp [hk, hsub, show 8 * (s.offset + j) + k < 64 by omega, show ¬ 8 * (s.offset + j) + k < 8 * s.offset by omega,
    show 8 * (s.offset + j) + k < 128 by omega, show 8 * j + k < 128 by omega]

lemma byteAt_secondBusDatW (hj : j < s.offset) :
    byteAt s.secondBusDatW j = byteAt s.latchedDatW (8 - s.offset + j) := by
  apply BitVec.eq_of_getLsbD_eq
  intro k hk
  have hlt := offset_lt s
  rw [getLsbD_byteAt, getLsbD_byteAt, Bridge.secondBusDatW, BitVec.getLsbD_extractLsb', Bridge.shiftedDatW,
    BitVec.getLsbD_shiftLeft, BitVec.getLsbD_setWidth]
  have hsub : 64 + (8 * j + k) - 8 * s.offset = 8 * (8 - s.offset + j) + k := by omega
  simp [hk, hsub, show 8 * j + k < 64 by omega, show ¬ 64 + (8 * j + k) < 8 * s.offset by omega,
    show 64 + (8 * j + k) < 128 by omega, show 8 * (8 - s.offset + j) + k < 128 by omega]

lemma byteAt_singleReadData (s : Bridge) (data : Word) (j : ℕ) :
    byteAt (s.singleReadData data) j = byteAt data (s.offset + j) := by
  rw [Bridge.singleReadData, byteAt_ushiftRight]

lemma byteAt_combinedReadData_first (hj : j < 8 - s.offset) :
    byteAt (s.combinedReadData data) j = byteAt s.firstReadData (s.offset + j) := by
  apply BitVec.eq_of_getLsbD_eq
  intro k hk
  rw [getLsbD_byteAt, getLsbD_byteAt, Bridge.combinedReadData]
  by_cases h0 : s.offset = 0
  · rw [if_pos h0, h0, Nat.zero_add]
  · have hsub : 8 * s.offset + (8 * j + k) = 8 * (s.offset + j) + k := by omega
    rw [if_neg h0, BitVec.getLsbD_or, BitVec.getLsbD_ushiftRight, BitVec.getLsbD_shiftLeft, hsub]
    simp [show 8 * j + k < 64 - 8 * s.offset by omega]

lemma byteAt_combinedReadData_second (hj : j < s.offset) :
    byteAt (s.combinedReadData data) (8 - s.offset + j) = byteAt data j := by
  apply BitVec.eq_of_getLsbD_eq
  intro k hk
  have hlt := offset_lt s
  have h0 : s.offset ≠ 0 := by omega
  have hsub : 8 * (8 - s.offset + j) + k - (64 - 8 * s.offset) = 8 * j + k := by omega
  have hhigh : s.firstReadData.getLsbD (8 * s.offset + (8 * (8 - s.offset + j) + k)) = false :=
    BitVec.getLsbD_of_ge _ _ (by omega)
  rw [getLsbD_byteAt, getLsbD_byteAt, Bridge.combinedReadData, if_neg h0, BitVec.getLsbD_or, BitVec.getLsbD_ushiftRight,
    BitVec.getLsbD_shiftLeft, hsub, hhigh]
  simp [show 8 * (8 - s.offset + j) + k < 64 by omega, show ¬ 8 * (8 - s.offset + j) + k < 64 - 8 * s.offset by omega]

/-- The lanes of a request that lie in its first word, and those that lie in the next. -/
lemma lanes_eq (k : ℕ) (hk : k < 8) (sel : BitVec 8) (base : Word) :
    lanes sel base write data = (List.range (8 - k)).filterMap (laneEvent sel base write data) ++
      (List.range k).filterMap fun j => laneEvent sel base write data (8 - k + j) := by
  have hrange : List.range 8 = List.range (8 - k) ++ (List.range k).map (8 - k + ·) := by
    rw [← List.range_add, Nat.sub_add_cancel hk.le]
  rw [lanes, hrange, List.filterMap_append, List.filterMap_map]
  rfl

lemma range_offset (s : Bridge) : List.range 8 = List.range s.offset ++ (List.range (8 - s.offset)).map (s.offset + ·) := by
  rw [← List.range_add, Nat.add_sub_cancel' (offset_lt s).le]

lemma lanes_first (hdata : ∀ j < 8 - s.offset, byteAt first (s.offset + j) = byteAt data j) :
    lanes s.firstBusSel ((s.firstBusAdr.setWidth 61).setWidth 64 <<< 3) write first =
      (List.range (8 - s.offset)).filterMap (laneEvent s.latchedSel s.latchedAdr write data) := by
  have hlt := offset_lt s
  rw [lanes, range_offset, List.filterMap_append, List.filterMap_map]
  have hnone : (List.range s.offset).filterMap
      (laneEvent s.firstBusSel ((s.firstBusAdr.setWidth 61).setWidth 64 <<< 3) write first) = [] := by
    rw [List.filterMap_eq_nil_iff]
    intro j hj
    rw [List.mem_range] at hj
    rw [laneEvent, getLsbD_firstBusSel (by omega), decide_eq_false (by omega), Bool.false_and]
    rfl
  rw [hnone, List.nil_append]
  apply List.filterMap_congr
  intro j hj
  rw [List.mem_range] at hj
  have hsel : s.firstBusSel.getLsbD (s.offset + j) = s.latchedSel.getLsbD j := by
    rw [getLsbD_firstBusSel (by omega), decide_eq_true (by omega), Bool.true_and, Nat.add_sub_cancel_left]
  rw [Function.comp, laneEvent, laneEvent, hsel, firstBusAdr_byte, hdata j hj]

lemma lanes_second (hsecond : ∀ j < s.offset, byteAt second j = byteAt data (8 - s.offset + j)) :
    lanes s.secondBusSel ((s.secondBusAdr.setWidth 61).setWidth 64 <<< 3) write second =
      (List.range s.offset).filterMap fun j => laneEvent s.latchedSel s.latchedAdr write data (8 - s.offset + j) := by
  have hlt := offset_lt s
  rw [lanes, range_offset, List.filterMap_append, List.filterMap_map]
  have hnone : (List.range (8 - s.offset)).filterMap
      (laneEvent s.secondBusSel ((s.secondBusAdr.setWidth 61).setWidth 64 <<< 3) write second ∘ (s.offset + ·)) = [] := by
    rw [List.filterMap_eq_nil_iff]
    intro j hj
    rw [List.mem_range] at hj
    rw [Function.comp, laneEvent, getLsbD_secondBusSel (by omega), BitVec.getLsbD_of_ge _ _ (by omega)]
    rfl
  rw [hnone, List.append_nil]
  apply List.filterMap_congr
  intro j hj
  rw [List.mem_range] at hj
  have hindex : 8 + j - s.offset = 8 - s.offset + j := by omega
  rw [laneEvent, laneEvent, getLsbD_secondBusSel (by omega), hindex, secondBusAdr_byte, hsecond j hj]

end Datapath

end DataBridge

end Little64.Hdl

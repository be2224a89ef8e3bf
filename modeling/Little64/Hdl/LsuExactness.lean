import Little64.Hdl.DataBridge
import Little64.Hdl.Lsu
import Little64.Library.BitFields
import Little64.Library.Runs

/-! The load/store unit between the core and the word bus: each accepted request gets one response, and moves exactly
its own bytes. -/

namespace Little64.Hdl

open LittleEndian ByteMemory

/-- One cycle at both sides of the unit, with what the lanes carry that nobody drives. -/
structure LsuCycle where
  request : LsuRequest
  ack : Bool
  err : Bool
  undriven : Word
  deriving DecidableEq, Repr

def readLanes (m : Memory 64) (adr : Word) (sel : BitVec 8) (undriven : Word) : Word :=
  assemble 64 (fun j => if sel.getLsbD j then m (adr + BitVec.ofNat 64 j) else byteAt undriven j) 8

def writeLanes (m : Memory 64) (adr : Word) (sel : BitVec 8) (data : Word) : Memory 64 := fun x =>
  if sel.getLsbD (x - adr).toNat then byteAt data (x - adr).toNat else m x

/-- The unit over its memory, with the requests it accepted and the responses it gave. -/
structure LsuSystem where
  lsu : Lsu
  memory : Memory 64
  accepted : List LsuRequest
  responses : List LsuResponse

namespace LsuSystem

def start (m : Memory 64) : LsuSystem := ⟨Lsu.reset, m, [], []⟩

variable (busTimeoutCycles : ℕ) (t : LsuSystem) (c : LsuCycle)

def reply : BusReply := ⟨c.ack, c.err, readLanes t.memory t.lsu.busAdr t.lsu.busSel c.undriven⟩

def response : LsuResponse := t.lsu.response busTimeoutCycles (t.reply c)

def writes : Bool := t.lsu.busCyc && t.lsu.busWe && c.ack && !c.err

def step : LsuSystem where
  lsu := t.lsu.step busTimeoutCycles (t.reply c) c.request
  memory := if t.writes c then writeLanes t.memory t.lsu.busAdr t.lsu.busSel t.lsu.busDatW else t.memory
  accepted := t.accepted ++ if c.request.valid && t.lsu.requestReady then [c.request] else []
  responses := t.responses ++ if (t.response busTimeoutCycles c).valid then [t.response busTimeoutCycles c] else []

def after (m : Memory 64) (cycles : ℕ → LsuCycle) : ℕ → LsuSystem
  | 0 => start m
  | n + 1 => (after m cycles n).step busTimeoutCycles (cycles n)

end LsuSystem

/-- The widths of the loads and stores. -/
def LsuRequest.Sized (r : LsuRequest) : Prop :=
  r.widthBytes = 1 ∨ r.widthBytes = 2 ∨ r.widthBytes = 4 ∨ r.widthBytes = 8

/-- What a request with its response has done to the memory. One that ended in a bus error may have stored some of
its bytes. -/
def Performs (r : LsuRequest) (a : LsuResponse) (m m' : Memory 64) : Prop :=
  if a.error then ∀ x, ¬ (r.write = true ∧ InRange r.addr r.widthBytes x) → m' x = m x
  else if r.write then m' = store m r.addr r.widthBytes r.storeValue
  else m' = m ∧ a.loadValue = load 64 m r.addr r.widthBytes

/-- Requests done one after the other. -/
inductive History (m : Memory 64) : List (LsuRequest × LsuResponse) → Memory 64 → Prop
  | start : History m [] m
  | next {done : List (LsuRequest × LsuResponse)} {m₁ m₂ : Memory 64} {r : LsuRequest} {a : LsuResponse} :
      History m done m₁ → Performs r a m₁ m₂ → History m (done ++ [(r, a)]) m₂

namespace Lsu

section Lanes

variable {s : Lsu} {m : Memory 64} {undriven : Word} {j : ℕ}

/-- The bridge with the same request has the same lanes. -/
def bridge (s : Lsu) : DataBridge.Bridge :=
  { DataBridge.Bridge.reset with
    latchedAdr := s.latchedAddr, latchedDatW := s.latchedStoreValue, latchedSel := s.baseSel
    firstReadData := s.firstData }

lemma byteOffset_eq (s : Lsu) : s.byteOffset = s.bridge.offset := BitVec.toNat_setWidth 3 s.latchedAddr

lemma byteOffset_lt (s : Lsu) : s.byteOffset < 8 := (s.latchedAddr.setWidth 3).isLt

lemma firstBeatSel_eq (s : Lsu) : s.firstBeatSel = s.bridge.firstBusSel := by
  rw [firstBeatSel, shiftedSel, byteOffset_eq]
  rfl

lemma secondBeatSel_eq (s : Lsu) : s.secondBeatSel = s.bridge.secondBusSel := by
  rw [secondBeatSel, shiftedSel, byteOffset_eq]
  rfl

def Sized (s : Lsu) : Prop := s.latchedWidth = 1 ∨ s.latchedWidth = 2 ∨ s.latchedWidth = 4 ∨ s.latchedWidth = 8

lemma getLsbD_baseSel (hw : s.Sized) (j : ℕ) : s.baseSel.getLsbD j = decide (j < s.latchedWidth) := by
  by_cases hj : j < 8
  · rcases hw with hw | hw | hw | hw <;> rw [baseSel, hw] <;> interval_cases j <;> rfl
  · have hle : s.latchedWidth ≤ 8 := by
      rcases hw with hw | hw | hw | hw <;> omega
    rw [BitVec.getLsbD_of_ge _ _ (by omega), decide_eq_false (by omega)]

lemma getLsbD_firstBeatSel (hw : s.Sized) (j : ℕ) :
    s.firstBeatSel.getLsbD j = decide (j < 8 ∧ s.byteOffset ≤ j ∧ j - s.byteOffset < s.latchedWidth) := by
  by_cases hj : j < 8
  · rw [firstBeatSel_eq, DataBridge.getLsbD_firstBusSel hj, ← byteOffset_eq]
    change (_ && s.baseSel.getLsbD _) = _
    rw [getLsbD_baseSel hw, ← Bool.decide_and]
    simp [hj]
  · rw [BitVec.getLsbD_of_ge _ _ (by omega), decide_eq_false fun h => hj h.1]

lemma getLsbD_secondBeatSel (hw : s.Sized) (j : ℕ) :
    s.secondBeatSel.getLsbD j = decide (j < 8 ∧ 8 - s.byteOffset + j < s.latchedWidth) := by
  have hlt := byteOffset_lt s
  by_cases hj : j < 8
  · have hindex : 8 + j - s.byteOffset = 8 - s.byteOffset + j := by omega
    rw [secondBeatSel_eq, DataBridge.getLsbD_secondBusSel hj, ← byteOffset_eq, hindex]
    change s.baseSel.getLsbD _ = _
    rw [getLsbD_baseSel hw]
    simp [hj]
  · rw [BitVec.getLsbD_of_ge _ _ (by omega), decide_eq_false fun h => hj h.1]

lemma splitNeeded_iff (hw : s.Sized) : s.splitNeeded = true ↔ 8 - s.byteOffset < s.latchedWidth := by
  rw [splitNeeded, bne_iff_ne]
  constructor
  · intro hne
    by_contra hle
    apply hne
    apply BitVec.eq_of_getLsbD_eq
    intro j hj
    rw [getLsbD_secondBeatSel hw, decide_eq_false (by omega)]
    exact BitVec.getLsbD_zero.symm
  · intro hlt hzero
    have hbit := getLsbD_secondBeatSel hw 0
    rw [decide_eq_true ⟨by decide, by omega⟩, hzero] at hbit
    exact Bool.noConfusion (BitVec.getLsbD_zero.symm.trans hbit)

lemma wordAligned_byte (s : Lsu) (j : ℕ) :
    s.wordAlignedAddr + BitVec.ofNat 64 (s.byteOffset + j) = s.latchedAddr + BitVec.ofNat 64 j := by
  have hmask : (0xFFFFFFFFFFFFFFF8 : Word) = ~~~BitFields.lowMask 64 3 := by decide
  have hlt := s.latchedAddr.isLt
  have hoffset : s.byteOffset = s.latchedAddr.toNat % 2 ^ 3 := BitVec.toNat_setWidth 3 s.latchedAddr
  apply BitVec.eq_of_toNat_eq
  rw [wordAlignedAddr, hmask, BitVec.toNat_add, BitFields.toNat_and_not_lowMask, BitVec.toNat_add, BitVec.toNat_ofNat,
    BitVec.toNat_ofNat]
  omega

/-- The word after the aligned one, also from the last word of the space to the first. -/
lemma nextWord_byte (s : Lsu) (j : ℕ) :
    s.nextWordAddr + BitVec.ofNat 64 j = s.latchedAddr + BitVec.ofNat 64 (8 - s.byteOffset + j) := by
  have hlt := byteOffset_lt s
  rw [← wordAligned_byte, nextWordAddr, show s.byteOffset + (8 - s.byteOffset + j) = 8 + j by omega, offset_add]
  rfl

lemma byteAt_firstDatW (hj : j < 8 - s.byteOffset) :
    byteAt (s.shiftedDatW.extractLsb' 0 64) (s.byteOffset + j) = byteAt s.latchedStoreValue j := by
  rw [byteOffset_eq] at hj
  have hbyte := DataBridge.byteAt_firstBusDatW hj
  rw [shiftedDatW, byteOffset_eq, Nat.mul_comm]
  exact hbyte

lemma byteAt_secondDatW (hj : j < s.byteOffset) :
    byteAt (s.shiftedDatW.extractLsb' 64 64) j = byteAt s.latchedStoreValue (8 - s.byteOffset + j) := by
  rw [byteOffset_eq] at hj
  have hbyte := DataBridge.byteAt_secondBusDatW hj
  rw [shiftedDatW, byteOffset_eq, Nat.mul_comm]
  exact hbyte

lemma byteAt_readLanes {adr : Word} {sel : BitVec 8} (hsel : sel.getLsbD j = true) :
    byteAt (readLanes m adr sel undriven) j = m (adr + BitVec.ofNat 64 j) := by
  have hj : j < 8 := by
    by_contra hge
    rw [BitVec.getLsbD_of_ge _ _ (by omega)] at hsel
    exact Bool.noConfusion hsel
  rw [readLanes, byteAt_assemble _ _ _ hj (by omega), if_pos hsel]

lemma writeLanes_first (hw : s.Sized) (m : Memory 64) :
    writeLanes m s.wordAlignedAddr s.firstBeatSel (s.shiftedDatW.extractLsb' 0 64) =
      store m s.latchedAddr (min s.latchedWidth (8 - s.byteOffset)) s.latchedStoreValue := by
  have hlt := byteOffset_lt s
  have hstart : s.latchedAddr = s.wordAlignedAddr + BitVec.ofNat 64 s.byteOffset := by
    rw [← Nat.add_zero s.byteOffset, wordAligned_byte, BitVec.add_zero]
  funext x
  have hdistance := offset_sub s.wordAlignedAddr x s.byteOffset (by omega)
  rw [← hstart] at hdistance
  have hbound := (x - s.wordAlignedAddr).isLt
  have hsel := getLsbD_firstBeatSel hw (x - s.wordAlignedAddr).toNat
  by_cases hin : InRange s.latchedAddr (min s.latchedWidth (8 - s.byteOffset)) x
  · have hi : (x - s.latchedAddr).toNat < min s.latchedWidth (8 - s.byteOffset) := hin
    have hoffset : (x - s.wordAlignedAddr).toNat = s.byteOffset + (x - s.latchedAddr).toNat := by
      split at hdistance <;> omega
    rw [decide_eq_true (by omega)] at hsel
    rw [store_of_inRange _ _ _ _ hin, writeLanes, if_pos hsel, hoffset, byteAt_firstDatW (by omega)]
  · have hi : ¬ (x - s.latchedAddr).toNat < min s.latchedWidth (8 - s.byteOffset) := hin
    rw [decide_eq_false (by split at hdistance <;> omega)] at hsel
    rw [store_of_not_inRange _ _ _ _ hin, writeLanes, hsel, if_neg Bool.false_ne_true]

lemma writeLanes_second (hw : s.Sized) (hsplit : s.splitNeeded = true) (m : Memory 64) :
    writeLanes (store m s.latchedAddr (8 - s.byteOffset) s.latchedStoreValue) s.nextWordAddr s.secondBeatSel
        (s.shiftedDatW.extractLsb' 64 64) =
      store m s.latchedAddr s.latchedWidth s.latchedStoreValue := by
  have hlt := byteOffset_lt s
  have hwidth : s.latchedWidth ≤ 8 := by
    rcases hw with hw | hw | hw | hw <;> omega
  have hrest := (splitNeeded_iff hw).1 hsplit
  have hstart : s.nextWordAddr = s.latchedAddr + BitVec.ofNat 64 (8 - s.byteOffset) := by
    rw [← Nat.add_zero (8 - s.byteOffset), ← nextWord_byte, BitVec.add_zero]
  funext x
  have hdistance := offset_sub s.latchedAddr x (8 - s.byteOffset) (by omega)
  rw [← hstart] at hdistance
  have hbound := (x - s.latchedAddr).isLt
  have hsel := getLsbD_secondBeatSel hw (x - s.nextWordAddr).toNat
  by_cases hfirst : InRange s.latchedAddr (8 - s.byteOffset) x
  · have hi : (x - s.latchedAddr).toNat < 8 - s.byteOffset := hfirst
    rw [if_pos hi] at hdistance
    rw [decide_eq_false (by omega)] at hsel
    rw [writeLanes, hsel, if_neg Bool.false_ne_true, store_of_inRange _ _ _ _ hfirst,
      store_of_inRange _ _ _ _ (hfirst.mono hrest.le)]
  · have hi : ¬ (x - s.latchedAddr).toNat < 8 - s.byteOffset := hfirst
    rw [if_neg hi] at hdistance
    by_cases hin : InRange s.latchedAddr s.latchedWidth x
    · have hi' : (x - s.latchedAddr).toNat < s.latchedWidth := hin
      have hoffset : 8 - s.byteOffset + (x - s.nextWordAddr).toNat = (x - s.latchedAddr).toNat := by omega
      rw [decide_eq_true (by omega)] at hsel
      rw [store_of_inRange _ _ _ _ hin, writeLanes, if_pos hsel, byteAt_secondDatW (by omega), hoffset]
    · have hi' : ¬ (x - s.latchedAddr).toNat < s.latchedWidth := hin
      rw [decide_eq_false (by omega)] at hsel
      rw [store_of_not_inRange _ _ _ _ hin, writeLanes, hsel, if_neg Bool.false_ne_true,
        store_of_not_inRange _ _ _ _ hfirst]

lemma and_lowMask_eq (n : ℕ) (v : Word) : v &&& BitFields.lowMask 64 (8 * n) = lowBytes n v := by
  apply and_mask_eq_lowBytes
  intro k hk
  rw [BitFields.getLsbD_lowMask]
  simp [hk]

lemma narrow_eq (hw : s.Sized) (v : Word) : narrow s.latchedWidth v = lowBytes s.latchedWidth v := by
  rcases hw with hw | hw | hw | hw <;> rw [hw]
  · exact and_lowMask_eq 1 v
  · exact and_lowMask_eq 2 v
  · exact and_lowMask_eq 4 v
  · exact (lowBytes_all 8 v (by decide)).symm

lemma narrow_single (hw : s.Sized) (hsplit : s.splitNeeded = false) {bus : BusReply}
    (hdata : bus.datR = readLanes m s.wordAlignedAddr s.firstBeatSel undriven) :
    narrow s.latchedWidth (s.singleReadData bus) = load 64 m s.latchedAddr s.latchedWidth := by
  have hone : ¬ 8 - s.byteOffset < s.latchedWidth := by
    rw [← splitNeeded_iff hw, hsplit]
    exact Bool.false_ne_true
  rw [narrow_eq hw]
  apply assemble_congr
  intro i hi
  have hsel : s.firstBeatSel.getLsbD (s.byteOffset + i) = true := by
    rw [getLsbD_firstBeatSel hw]
    exact decide_eq_true (by omega)
  rw [singleReadData, Nat.mul_comm, byteAt_ushiftRight, hdata, byteAt_readLanes hsel, wordAligned_byte]

/-- What the first beat fetched, and what the second fetches, make up a load across two words. -/
lemma narrow_combined (hw : s.Sized) {bus : BusReply}
    (hfirst : ∀ j < 8 - s.byteOffset,
      byteAt s.firstData (s.byteOffset + j) = m (s.latchedAddr + BitVec.ofNat 64 j))
    (hdata : bus.datR = readLanes m s.nextWordAddr s.secondBeatSel undriven) :
    narrow s.latchedWidth (s.combinedReadData bus) = load 64 m s.latchedAddr s.latchedWidth := by
  have hcombined : s.combinedReadData bus = s.bridge.combinedReadData bus.datR := by
    rw [combinedReadData, byteOffset_eq, Nat.mul_comm]
    rfl
  rw [narrow_eq hw, hcombined]
  apply assemble_congr
  intro i hi
  by_cases hin : i < 8 - s.byteOffset
  · rw [DataBridge.byteAt_combinedReadData_first (by rwa [← byteOffset_eq]), ← byteOffset_eq]
    exact hfirst i hin
  · have hwidth : s.latchedWidth ≤ 8 := by
      rcases hw with hw | hw | hw | hw <;> omega
    obtain ⟨j, rfl⟩ := Nat.exists_eq_add_of_le (Nat.not_lt.mp hin)
    have hsel : s.secondBeatSel.getLsbD j = true := by
      rw [getLsbD_secondBeatSel hw]
      exact decide_eq_true (by omega)
    have hj : j < s.bridge.offset := by
      rw [← byteOffset_eq]
      omega
    rw [byteOffset_eq, DataBridge.byteAt_combinedReadData_second hj, hdata, byteAt_readLanes hsel, nextWord_byte,
      byteOffset_eq]

end Lanes

end Lsu

namespace LsuSystem

section Refinement

variable {busTimeoutCycles : ℕ} {t : LsuSystem} {c : LsuCycle} {m m₀ : Memory 64} {r : LsuRequest}
  {done : List (LsuRequest × LsuResponse)} {current : List LsuRequest}

structure Latched (s : Lsu) (r : LsuRequest) : Prop where
  addr : s.latchedAddr = r.addr
  width : s.latchedWidth = r.widthBytes
  write : s.latchedWrite = r.write
  storeValue : s.latchedStoreValue = r.storeValue

/-- The request in flight over the memory that the finished ones left. -/
inductive InFlight (t : LsuSystem) (m : Memory 64) : List LsuRequest → Prop
  | idle : t.lsu.state = .idle → t.memory = m → InFlight t m []
  | first {r : LsuRequest} : t.lsu.state = .first → Latched t.lsu r → r.Sized → t.memory = m → InFlight t m [r]
  | second {r : LsuRequest} : t.lsu.state = .second → Latched t.lsu r → r.Sized → t.lsu.splitNeeded = true →
      t.memory = (if r.write then store m r.addr (8 - t.lsu.byteOffset) r.storeValue else m) →
      (r.write = false → ∀ j < 8 - t.lsu.byteOffset,
        byteAt t.lsu.firstData (t.lsu.byteOffset + j) = m (r.addr + BitVec.ofNat 64 j)) → InFlight t m [r]

/-- What the unit accepted and answered, cut into the requests that are done and the one in flight. -/
structure Accounts (m₀ : Memory 64) (t : LsuSystem) (done : List (LsuRequest × LsuResponse)) (m : Memory 64)
    (current : List LsuRequest) : Prop where
  history : History m₀ done m
  accepted : t.accepted = done.map Prod.fst ++ current
  responses : t.responses = done.map Prod.snd
  inFlight : InFlight t m current

lemma Latched.sized {s : Lsu} (h : Latched s r) (hr : r.Sized) : s.Sized := by
  rw [Lsu.Sized, h.width]
  exact hr

lemma writes_eq (hstate : t.lsu.state ≠ .idle) : t.writes c = (t.lsu.latchedWrite && c.ack && !c.err) := by
  have hactive : t.lsu.busActive = true := bne_iff_ne.2 hstate
  rw [writes, Lsu.busCyc, Lsu.busWe, hactive, Bool.true_and, Bool.and_true]

lemma step_of_invalid (hresponse : (t.response busTimeoutCycles c).valid = false) (hstate : t.lsu.state ≠ .idle) :
    (t.step busTimeoutCycles c).accepted = t.accepted ∧ (t.step busTimeoutCycles c).responses = t.responses := by
  have hready : t.lsu.requestReady = false := beq_eq_false_iff_ne.2 hstate
  rw [step, hresponse, hready, Bool.and_false]
  exact ⟨List.append_nil _, List.append_nil _⟩

lemma step_of_valid (hresponse : (t.response busTimeoutCycles c).valid = true) (hstate : t.lsu.state ≠ .idle) :
    (t.step busTimeoutCycles c).accepted = t.accepted ∧
      (t.step busTimeoutCycles c).responses = t.responses ++ [t.response busTimeoutCycles c] := by
  have hready : t.lsu.requestReady = false := beq_eq_false_iff_ne.2 hstate
  rw [step, hresponse, hready, Bool.and_false]
  exact ⟨List.append_nil _, rfl⟩

lemma Accounts.pass (h : Accounts m₀ t done m [r]) (hstate : t.lsu.state ≠ .idle)
    (hresponse : (t.response busTimeoutCycles c).valid = false)
    (hnext : InFlight (t.step busTimeoutCycles c) m [r]) : Accounts m₀ (t.step busTimeoutCycles c) done m [r] := by
  obtain ⟨haccepted, hresponses⟩ := step_of_invalid hresponse hstate
  exact ⟨h.history, haccepted.trans h.accepted, hresponses.trans h.responses, hnext⟩

lemma Accounts.answer (h : Accounts m₀ t done m [r]) (hstate : t.lsu.state ≠ .idle)
    (hresponse : (t.response busTimeoutCycles c).valid = true)
    (hidle : (t.step busTimeoutCycles c).lsu.state = .idle)
    (hperforms : Performs r (t.response busTimeoutCycles c) m (t.step busTimeoutCycles c).memory) :
    Accounts m₀ (t.step busTimeoutCycles c) (done ++ [(r, t.response busTimeoutCycles c)])
      (t.step busTimeoutCycles c).memory [] := by
  obtain ⟨haccepted, hresponses⟩ := step_of_valid hresponse hstate
  refine ⟨h.history.next hperforms, ?_, ?_, .idle hidle rfl⟩
  · rw [haccepted, h.accepted, List.map_append, List.append_nil]
    rfl
  · rw [hresponses, h.responses, List.map_append]
    rfl

variable (busTimeoutCycles c) in
lemma memory_first (hstate : t.lsu.state = .first) (hlatched : Latched t.lsu r) (hr : r.Sized) :
    (t.step busTimeoutCycles c).memory =
      if r.write && c.ack && !c.err then
        store t.memory r.addr (min r.widthBytes (8 - t.lsu.byteOffset)) r.storeValue
      else t.memory := by
  have hactive : t.lsu.state ≠ .idle := fun hidle => by cases hstate.symm.trans hidle
  have hadr : t.lsu.busAdr = t.lsu.wordAlignedAddr := by rw [Lsu.busAdr, hstate]; rfl
  have hsel : t.lsu.busSel = t.lsu.firstBeatSel := by rw [Lsu.busSel, hstate]; rfl
  have hdat : t.lsu.busDatW = t.lsu.shiftedDatW.extractLsb' 0 64 := by rw [Lsu.busDatW, hstate]; rfl
  rw [step, writes_eq hactive, hadr, hsel, hdat, Lsu.writeLanes_first (hlatched.sized hr), hlatched.write, hlatched.addr,
    hlatched.width, hlatched.storeValue]

variable (busTimeoutCycles c) in
lemma memory_second (hstate : t.lsu.state = .second) (hlatched : Latched t.lsu r) (hr : r.Sized)
    (hsplit : t.lsu.splitNeeded = true)
    (hmemory : t.memory = if r.write then store m r.addr (8 - t.lsu.byteOffset) r.storeValue else m) :
    (t.step busTimeoutCycles c).memory =
      if r.write && c.ack && !c.err then store m r.addr r.widthBytes r.storeValue else t.memory := by
  have hactive : t.lsu.state ≠ .idle := fun hidle => by cases hstate.symm.trans hidle
  have hadr : t.lsu.busAdr = t.lsu.nextWordAddr := by rw [Lsu.busAdr, hstate]; rfl
  have hsel : t.lsu.busSel = t.lsu.secondBeatSel := by rw [Lsu.busSel, hstate]; rfl
  have hdat : t.lsu.busDatW = t.lsu.shiftedDatW.extractLsb' 64 64 := by rw [Lsu.busDatW, hstate]; rfl
  rw [step, writes_eq hactive, hadr, hsel, hdat, hlatched.write]
  by_cases hwrite : r.write = true
  · have hsecond := Lsu.writeLanes_second (hlatched.sized hr) hsplit m
    rw [hlatched.addr, hlatched.width, hlatched.storeValue] at hsecond
    rw [hmemory, if_pos hwrite, hsecond]
  · rw [Bool.not_eq_true] at hwrite
    rw [hwrite]
    rfl

lemma unchanged_store {k : ℕ} (hk : k ≤ r.widthBytes) (hwrite : r.write = true) (x : Word)
    (hx : ¬ (r.write = true ∧ InRange r.addr r.widthBytes x)) : store m r.addr k r.storeValue x = m x :=
  store_of_not_inRange _ _ _ _ fun h => hx ⟨hwrite, h.mono hk⟩

def fails (busTimeoutCycles : ℕ) (t : LsuSystem) (c : LsuCycle) : Bool :=
  t.lsu.effectiveErr busTimeoutCycles (t.reply c)

variable (busTimeoutCycles c) in
lemma response_first (hstate : t.lsu.state = .first) : t.response busTimeoutCycles c =
    if t.fails busTimeoutCycles c then ⟨true, true, 0⟩
    else if c.ack = true ∧ ¬ t.lsu.splitNeeded = true then
      ⟨true, false, narrow t.lsu.latchedWidth (t.lsu.singleReadData (t.reply c))⟩
    else ⟨false, false, 0⟩ := by
  rw [response, Lsu.response, hstate]
  rfl

variable (busTimeoutCycles c) in
lemma lsu_first (hstate : t.lsu.state = .first) : (t.step busTimeoutCycles c).lsu =
    let s := { t.lsu with watchdogCounter := t.lsu.nextWatchdogCounter busTimeoutCycles (t.reply c) }
    if t.fails busTimeoutCycles c then { s with state := .idle }
    else if c.ack then
      if t.lsu.splitNeeded then { s with firstData := (t.reply c).datR, state := .second }
      else { s with state := .idle }
    else { s with state := .first } := by
  rw [step, Lsu.step, hstate]
  rfl

variable (busTimeoutCycles c) in
lemma response_second (hstate : t.lsu.state = .second) : t.response busTimeoutCycles c =
    if t.fails busTimeoutCycles c then ⟨true, true, 0⟩
    else if c.ack then ⟨true, false, narrow t.lsu.latchedWidth (t.lsu.combinedReadData (t.reply c))⟩
    else ⟨false, false, 0⟩ := by
  rw [response, Lsu.response, hstate]
  rfl

variable (busTimeoutCycles c) in
lemma lsu_second (hstate : t.lsu.state = .second) : (t.step busTimeoutCycles c).lsu =
    let s := { t.lsu with watchdogCounter := t.lsu.nextWatchdogCounter busTimeoutCycles (t.reply c) }
    if t.fails busTimeoutCycles c = true ∨ c.ack = true then { s with state := .idle } else { s with state := .second } := by
  rw [step, Lsu.step, hstate]
  rfl

lemma datR_first (hstate : t.lsu.state = .first) (c : LsuCycle) : (t.reply c).datR =
    readLanes t.memory t.lsu.wordAlignedAddr t.lsu.firstBeatSel c.undriven := by
  rw [reply, Lsu.busAdr, Lsu.busSel, hstate]
  rfl

lemma datR_second (hstate : t.lsu.state = .second) (c : LsuCycle) : (t.reply c).datR =
    readLanes t.memory t.lsu.nextWordAddr t.lsu.secondBeatSel c.undriven := by
  rw [reply, Lsu.busAdr, Lsu.busSel, hstate]
  rfl

lemma not_err (hfails : ¬ t.fails busTimeoutCycles c = true) : c.err = false := by
  rw [fails, Lsu.effectiveErr, Bool.or_eq_true, not_or] at hfails
  exact Bool.eq_false_iff.mpr hfails.1

lemma accounts_fails (h : Accounts m₀ t done m [r]) (hstate : t.lsu.state ≠ .idle)
    (hresponse : t.response busTimeoutCycles c = ⟨true, true, 0⟩)
    (hidle : (t.step busTimeoutCycles c).lsu.state = .idle)
    (hmemory : ∀ x, ¬ (r.write = true ∧ InRange r.addr r.widthBytes x) →
      (t.step busTimeoutCycles c).memory x = m x) :
    ∃ done' m' current', Accounts m₀ (t.step busTimeoutCycles c) done' m' current' := by
  refine ⟨_, _, _, h.answer hstate (by rw [hresponse]) hidle ?_⟩
  rw [Performs, hresponse, if_pos rfl]
  exact hmemory

lemma accounts_first (h : Accounts m₀ t done m [r]) (hstate : t.lsu.state = .first) (hlatched : Latched t.lsu r)
    (hr : r.Sized) (hmemory : t.memory = m) (c : LsuCycle) :
    ∃ done' m' current', Accounts m₀ (t.step busTimeoutCycles c) done' m' current' := by
  have hactive : t.lsu.state ≠ .idle := fun hidle => by cases hstate.symm.trans hidle
  have hsized := hlatched.sized hr
  have hlsu := lsu_first busTimeoutCycles c hstate
  have hresponse := response_first busTimeoutCycles c hstate
  have hnext := memory_first busTimeoutCycles c hstate hlatched hr
  rw [hmemory] at hnext
  by_cases hfails : t.fails busTimeoutCycles c = true
  · rw [if_pos hfails] at hlsu hresponse
    apply accounts_fails h hactive hresponse (by rw [hlsu])
    intro x hx
    rw [hnext]
    split
    · next hwrites =>
      rw [Bool.and_eq_true, Bool.and_eq_true] at hwrites
      exact unchanged_store (Nat.min_le_left _ _) hwrites.1.1 x hx
    · rfl
  rw [if_neg hfails] at hlsu hresponse
  rw [not_err hfails, Bool.not_false, Bool.and_true] at hnext
  by_cases hack : c.ack = true
  · rw [hack, Bool.and_true] at hnext
    rw [if_pos hack] at hlsu
    have hsplit_iff := Lsu.splitNeeded_iff hsized
    rw [hlatched.width] at hsplit_iff
    by_cases hsplit : t.lsu.splitNeeded = true
    · rw [if_neg fun hand => hand.2 hsplit] at hresponse
      rw [if_pos hsplit] at hlsu
      rw [Nat.min_eq_right (hsplit_iff.1 hsplit).le] at hnext
      refine ⟨_, _, _, h.pass hactive (by rw [hresponse]) (.second (by rw [hlsu]) ?_ hr (by rw [hlsu]; exact hsplit) ?_ ?_)⟩
      · rw [hlsu]
        exact ⟨hlatched.addr, hlatched.width, hlatched.write, hlatched.storeValue⟩
      · rw [hlsu]
        exact hnext
      · intro _ j hj
        rw [hlsu] at hj ⊢
        have hsel : t.lsu.firstBeatSel.getLsbD (t.lsu.byteOffset + j) = true := by
          rw [Lsu.getLsbD_firstBeatSel hsized]
          have hwidth := hsplit_iff.1 hsplit
          have hlt : j < 8 - t.lsu.byteOffset := hj
          exact decide_eq_true (by rw [hlatched.width]; omega)
        change byteAt (t.reply c).datR (t.lsu.byteOffset + j) = _
        rw [datR_first hstate, Lsu.byteAt_readLanes hsel, Lsu.wordAligned_byte, hmemory, hlatched.addr]
    · have hsingle : t.lsu.splitNeeded = false := Bool.eq_false_iff.mpr hsplit
      rw [if_pos ⟨hack, hsplit⟩] at hresponse
      rw [if_neg hsplit] at hlsu
      rw [Nat.min_eq_left (Nat.not_lt.mp (hsplit_iff.not.1 hsplit))] at hnext
      refine ⟨_, _, _, h.answer hactive (by rw [hresponse]) (by rw [hlsu]) ?_⟩
      rw [Performs, hresponse, if_neg Bool.false_ne_true, hnext]
      by_cases hwrite : r.write = true
      · rw [if_pos hwrite, if_pos hwrite]
      · rw [if_neg hwrite, if_neg hwrite]
        refine ⟨rfl, ?_⟩
        rw [← hlatched.addr, ← hlatched.width, ← hmemory]
        exact Lsu.narrow_single hsized hsingle (datR_first hstate c)
  · rw [if_neg fun hand => hack hand.1] at hresponse
    rw [if_neg hack] at hlsu
    rw [Bool.eq_false_iff.mpr hack, Bool.and_false, if_neg Bool.false_ne_true] at hnext
    refine ⟨_, _, _, h.pass hactive (by rw [hresponse]) (.first (by rw [hlsu]) ?_ hr hnext)⟩
    rw [hlsu]
    exact ⟨hlatched.addr, hlatched.width, hlatched.write, hlatched.storeValue⟩

lemma accounts_second (h : Accounts m₀ t done m [r]) (hstate : t.lsu.state = .second) (hlatched : Latched t.lsu r)
    (hr : r.Sized) (hsplit : t.lsu.splitNeeded = true)
    (hmemory : t.memory = if r.write then store m r.addr (8 - t.lsu.byteOffset) r.storeValue else m)
    (hfirst : r.write = false → ∀ j < 8 - t.lsu.byteOffset,
      byteAt t.lsu.firstData (t.lsu.byteOffset + j) = m (r.addr + BitVec.ofNat 64 j)) (c : LsuCycle) :
    ∃ done' m' current', Accounts m₀ (t.step busTimeoutCycles c) done' m' current' := by
  have hactive : t.lsu.state ≠ .idle := fun hidle => by cases hstate.symm.trans hidle
  have hsized := hlatched.sized hr
  have hlsu := lsu_second busTimeoutCycles c hstate
  have hresponse := response_second busTimeoutCycles c hstate
  have hnext := memory_second busTimeoutCycles c hstate hlatched hr hsplit hmemory
  have hwidth := (Lsu.splitNeeded_iff hsized).1 hsplit
  rw [hlatched.width] at hwidth
  by_cases hfails : t.fails busTimeoutCycles c = true
  · rw [if_pos (.inl hfails)] at hlsu
    rw [if_pos hfails] at hresponse
    apply accounts_fails h hactive hresponse (by rw [hlsu])
    intro x hx
    rw [hnext]
    split
    · next hwrites =>
      rw [Bool.and_eq_true, Bool.and_eq_true] at hwrites
      exact unchanged_store le_rfl hwrites.1.1 x hx
    · rw [hmemory]
      split
      · next hwrite => exact unchanged_store hwidth.le hwrite x hx
      · rfl
  rw [if_neg hfails] at hresponse
  rw [not_err hfails, Bool.not_false, Bool.and_true] at hnext
  by_cases hack : c.ack = true
  · rw [hack, Bool.and_true] at hnext
    rw [if_pos (.inr hack)] at hlsu
    rw [if_pos hack] at hresponse
    refine ⟨_, _, _, h.answer hactive (by rw [hresponse]) (by rw [hlsu]) ?_⟩
    rw [Performs, hresponse, if_neg Bool.false_ne_true, hnext]
    by_cases hwrite : r.write = true
    · rw [if_pos hwrite, if_pos hwrite]
    · rw [if_neg hwrite] at hmemory
      rw [if_neg hwrite, if_neg hwrite]
      refine ⟨hmemory, ?_⟩
      rw [← hlatched.addr, ← hlatched.width, ← hmemory]
      apply Lsu.narrow_combined hsized _ (datR_second hstate c)
      intro j hj
      rw [hlatched.addr, hmemory]
      exact hfirst (Bool.eq_false_iff.mpr hwrite) j hj
  · rw [if_neg (not_or.2 ⟨hfails, hack⟩)] at hlsu
    rw [if_neg hack] at hresponse
    rw [Bool.eq_false_iff.mpr hack, Bool.and_false, if_neg Bool.false_ne_true] at hnext
    refine ⟨_, _, _, h.pass hactive (by rw [hresponse]) (.second (by rw [hlsu]) ?_ hr ?_ ?_ ?_)⟩
    · rw [hlsu]
      exact ⟨hlatched.addr, hlatched.width, hlatched.write, hlatched.storeValue⟩
    · rw [hlsu]
      exact hsplit
    · rw [hlsu, hnext]
      exact hmemory
    · rw [hlsu]
      exact hfirst

lemma accounts_idle (h : Accounts m₀ t done m []) (hstate : t.lsu.state = .idle) (hmemory : t.memory = m)
    (c : LsuCycle) (hr : c.request.valid = true → c.request.Sized) :
    ∃ done' m' current', Accounts m₀ (t.step busTimeoutCycles c) done' m' current' := by
  have hready : t.lsu.requestReady = true := beq_iff_eq.2 hstate
  have hresponse : (t.response busTimeoutCycles c).valid = false := by
    rw [response, Lsu.response, hstate]
  have hresponses : (t.step busTimeoutCycles c).responses = done.map Prod.snd := by
    rw [step, hresponse, ← h.responses]
    exact List.append_nil _
  have hnext : (t.step busTimeoutCycles c).memory = m := by
    rw [step, writes, Lsu.busCyc, Lsu.busActive, hstate]
    exact hmemory
  have haccepted := h.accepted
  rw [List.append_nil] at haccepted
  by_cases hvalid : c.request.valid = true
  · have hlsu : (t.step busTimeoutCycles c).lsu = { t.lsu with
        watchdogCounter := t.lsu.nextWatchdogCounter busTimeoutCycles (t.reply c), state := .first
        latchedAddr := c.request.addr, latchedWidth := c.request.widthBytes, latchedWrite := c.request.write
        latchedStoreValue := c.request.storeValue } := by
      rw [step, Lsu.step, hstate]
      exact if_pos hvalid
    refine ⟨done, m, [c.request], h.history, ?_, hresponses, .first (by rw [hlsu]) ?_ (hr hvalid) hnext⟩
    · rw [step, hvalid, hready, haccepted]
      rfl
    · rw [hlsu]
      exact ⟨rfl, rfl, rfl, rfl⟩
  · refine ⟨done, m, [], h.history, ?_, hresponses, .idle ?_ hnext⟩
    · rw [step, Bool.eq_false_iff.mpr hvalid, haccepted]
      rfl
    · rw [step, Lsu.step, hstate]
      simp only
      rw [if_neg hvalid]

lemma accounts_step (h : Accounts m₀ t done m current) (c : LsuCycle) (hr : c.request.valid = true → c.request.Sized) :
    ∃ done' m' current', Accounts m₀ (t.step busTimeoutCycles c) done' m' current' := by
  have hall := h
  cases h.inFlight with
  | idle hstate hmemory => exact accounts_idle hall hstate hmemory c hr
  | first hstate hlatched hsized hmemory => exact accounts_first hall hstate hlatched hsized hmemory c
  | second hstate hlatched hsized hsplit hmemory hfirst =>
    exact accounts_second hall hstate hlatched hsized hsplit hmemory hfirst c

variable (busTimeoutCycles m) in
lemma accounts_after {cycles : ℕ → LsuCycle}
    (hr : ∀ n, (cycles n).request.valid = true → (cycles n).request.Sized) (n : ℕ) :
    ∃ done m' current, Accounts m (after busTimeoutCycles m cycles n) done m' current := by
  induction n with
  | zero => exact ⟨[], m, [], .start, rfl, rfl, .idle rfl rfl⟩
  | succ n ih =>
    obtain ⟨done, m', current, h⟩ := ih
    exact accounts_step h (cycles n) (hr n)

end Refinement

section Progress

variable {busTimeoutCycles : ℕ} {t : LsuSystem} {m : Memory 64} {cycles : ℕ → LsuCycle} {n : ℕ}

lemma watchdogCounter_step (c : LsuCycle) :
    (t.step busTimeoutCycles c).lsu.watchdogCounter = t.lsu.nextWatchdogCounter busTimeoutCycles (t.reply c) := by
  rw [step, Lsu.step]
  split <;> simp only
  · split <;> rfl
  · split
    · rfl
    split
    · split <;> rfl
    · rfl
  · split <;> rfl

variable (busTimeoutCycles m) in
/-- The watchdog counts cycles without an answer, and no more than it waits for. -/
lemma watchdogCounter_after (cycles : ℕ → LsuCycle) (n : ℕ) :
    (after busTimeoutCycles m cycles n).lsu.watchdogCounter ≤ n ∧
    (after busTimeoutCycles m cycles n).lsu.watchdogCounter ≤ busTimeoutCycles ∧
    ∀ j < n, n ≤ j + (after busTimeoutCycles m cycles n).lsu.watchdogCounter →
      (cycles j).ack = false ∧ (cycles j).err = false := by
  induction n with
  | zero => exact ⟨le_rfl, Nat.zero_le _, fun j hj => absurd hj (Nat.not_lt_zero j)⟩
  | succ n ih =>
    obtain ⟨hn, hlimit, hquiet⟩ := ih
    rw [after, watchdogCounter_step, Lsu.nextWatchdogCounter]
    split
    · next hcounts =>
      simp only [Bool.and_eq_true, Bool.not_eq_true', decide_eq_true_iff] at hcounts
      obtain ⟨⟨⟨⟨htimeout, hactive⟩, hack⟩, herr⟩, hfire⟩ := hcounts
      have hne : (after busTimeoutCycles m cycles n).lsu.watchdogCounter ≠ busTimeoutCycles := by
        intro heq
        rw [Lsu.watchdogFire, hactive, decide_eq_true htimeout, heq] at hfire
        simp at hfire
      refine ⟨by omega, by omega, fun j hj hwithin => ?_⟩
      rcases Nat.lt_succ_iff_lt_or_eq.mp hj with hbefore | rfl
      · exact hquiet j hbefore (by omega)
      · exact ⟨hack, herr⟩
    · exact ⟨Nat.zero_le _, Nat.zero_le _, fun j hj hwithin => absurd hwithin (by omega)⟩

def BusAnswers (cycles : ℕ → LsuCycle) : Prop := ∀ n, ∃ k ≥ n, (cycles k).ack = true ∨ (cycles k).err = true

lemma step_waits (c : LsuCycle) (hactive : t.lsu.state ≠ .idle)
    (hwaits : ¬ (t.fails busTimeoutCycles c = true ∨ c.ack = true)) :
    (t.step busTimeoutCycles c).lsu.state = t.lsu.state ∧
      (t.step busTimeoutCycles c).accepted = t.accepted ∧
      (0 < busTimeoutCycles → (t.step busTimeoutCycles c).lsu.watchdogCounter = t.lsu.watchdogCounter + 1) := by
  obtain ⟨hfails, hack⟩ := not_or.1 hwaits
  have hready : t.lsu.requestReady = false := beq_eq_false_iff_ne.2 hactive
  refine ⟨?_, ?_, fun htimeout => ?_⟩
  · cases hstate : t.lsu.state with
    | idle => exact absurd hstate hactive
    | first => rw [lsu_first _ _ hstate, if_neg hfails, if_neg hack]
    | second => rw [lsu_second _ _ hstate, if_neg hwaits]
  · rw [step, hready, Bool.and_false]
    exact List.append_nil _
  · have hfire : t.lsu.watchdogFire busTimeoutCycles = false := by
      rw [fails, Lsu.effectiveErr, Bool.or_eq_true, not_or] at hfails
      exact Bool.eq_false_iff.mpr hfails.2
    have hbusy : t.lsu.busActive = true := bne_iff_ne.2 hactive
    rw [watchdogCounter_step, Lsu.nextWatchdogCounter, hfire, hbusy, decide_eq_true htimeout]
    change (if true && true && !c.ack && !c.err && !false then _ else _) = _
    rw [Bool.eq_false_iff.mpr hack, not_err hfails]
    rfl

lemma beat_ends (hends : 0 < busTimeoutCycles ∨ BusAnswers cycles)
    (hactive : (after busTimeoutCycles m cycles n).lsu.state ≠ .idle) :
    ∃ k, (after busTimeoutCycles m cycles k).lsu.state = (after busTimeoutCycles m cycles n).lsu.state ∧
      n ≤ k ∧ (after busTimeoutCycles m cycles k).accepted = (after busTimeoutCycles m cycles n).accepted ∧
      ((after busTimeoutCycles m cycles k).fails busTimeoutCycles (cycles k) = true ∨ (cycles k).ack = true) := by
  let Waits (k : ℕ) : Prop :=
    (after busTimeoutCycles m cycles k).lsu.state = (after busTimeoutCycles m cycles n).lsu.state ∧
      (after busTimeoutCycles m cycles k).accepted = (after busTimeoutCycles m cycles n).accepted ∧
      n ≤ k ∧ (0 < busTimeoutCycles → k - n ≤ (after busTimeoutCycles m cycles k).lsu.watchdogCounter)
  have hkeep : ∀ k, Waits k →
      ¬ ((after busTimeoutCycles m cycles k).fails busTimeoutCycles (cycles k) = true ∨ (cycles k).ack = true) →
      Waits (k + 1) := by
    rintro k ⟨hstate, haccepted, hle, hcount⟩ hwaits
    obtain ⟨hstate', haccepted', hcount'⟩ := step_waits (cycles k) (by rwa [hstate]) hwaits
    refine ⟨hstate'.trans hstate, haccepted'.trans haccepted, by omega, fun htimeout => ?_⟩
    rw [after, hcount' htimeout]
    have := hcount htimeout
    omega
  have hfires : ∃ k ≥ n, Waits k →
      (after busTimeoutCycles m cycles k).fails busTimeoutCycles (cycles k) = true ∨ (cycles k).ack = true := by
    rcases hends with htimeout | hanswers
    · refine ⟨n + busTimeoutCycles + 1, by omega, fun hwaits => ?_⟩
      have hcount := hwaits.2.2.2 htimeout
      have hlimit := (watchdogCounter_after busTimeoutCycles m cycles
        (n + busTimeoutCycles + 1)).2.1
      omega
    · obtain ⟨k, hk, hanswer⟩ := hanswers n
      refine ⟨k, hk, fun _ => ?_⟩
      rcases hanswer with hack | herr
      · exact .inr hack
      · left
        rw [fails, Lsu.effectiveErr]
        change ((cycles k).err || _) = true
        rw [herr, Bool.true_or]
  obtain ⟨k, ⟨hstate, haccepted, hle, -⟩, hends⟩ :=
    Runs.exists_fires hkeep ⟨rfl, rfl, le_rfl, fun _ => by omega⟩ hfires
  exact ⟨k, hstate, hle, haccepted, hends⟩

variable (busTimeoutCycles m cycles n) in
lemma accepted_active (hactive : (after busTimeoutCycles m cycles n).lsu.state ≠ .idle) :
    (after busTimeoutCycles m cycles (n + 1)).accepted = (after busTimeoutCycles m cycles n).accepted := by
  have hready : (after busTimeoutCycles m cycles n).lsu.requestReady = false := beq_eq_false_iff_ne.2 hactive
  rw [after, step, hready, Bool.and_false]
  exact List.append_nil _

lemma second_ends (hends : 0 < busTimeoutCycles ∨ BusAnswers cycles)
    (hstate : (after busTimeoutCycles m cycles n).lsu.state = .second) :
    ∃ k ≥ n, (after busTimeoutCycles m cycles k).lsu.state = .idle ∧
      (after busTimeoutCycles m cycles k).accepted = (after busTimeoutCycles m cycles n).accepted := by
  obtain ⟨k, hk, hle, haccepted, hend⟩ := beat_ends hends (by rw [hstate]; exact LsuState.noConfusion)
  rw [hstate] at hk
  refine ⟨k + 1, by omega, ?_, ?_⟩
  · rw [after, lsu_second _ _ hk, if_pos hend]
  · rw [accepted_active _ _ _ _ (by rw [hk]; exact LsuState.noConfusion), haccepted]

lemma first_ends (hends : 0 < busTimeoutCycles ∨ BusAnswers cycles)
    (hstate : (after busTimeoutCycles m cycles n).lsu.state = .first) :
    ∃ k ≥ n, (after busTimeoutCycles m cycles k).lsu.state = .idle ∧
      (after busTimeoutCycles m cycles k).accepted = (after busTimeoutCycles m cycles n).accepted := by
  obtain ⟨k, hk, hle, haccepted, hend⟩ := beat_ends hends (by rw [hstate]; exact LsuState.noConfusion)
  rw [hstate] at hk
  have hnext := lsu_first busTimeoutCycles (cycles k) hk
  have haccepted' := (accepted_active busTimeoutCycles m cycles k
    (by rw [hk]; exact LsuState.noConfusion)).trans haccepted
  by_cases hsecond : (after busTimeoutCycles m cycles (k + 1)).lsu.state = .second
  · obtain ⟨l, hl, hidle, hsame⟩ := second_ends hends hsecond
    exact ⟨l, by omega, hidle, hsame.trans haccepted'⟩
  · refine ⟨k + 1, by omega, ?_, haccepted'⟩
    rw [after] at hsecond ⊢
    rw [hnext] at hsecond ⊢
    split
    · rfl
    · next hfails =>
      rw [if_neg hfails] at hsecond
      have hack := hend.resolve_left hfails
      rw [if_pos hack] at hsecond ⊢
      split
      · next hsplit =>
        rw [if_pos hsplit] at hsecond
        exact absurd rfl hsecond
      · rfl

end Progress

/-- The requests are done one by one, in order, with exactly their own bytes: all of them when the unit is idle, all but
the last while it works on that one. -/
def Exact (m : Memory 64) (t : LsuSystem) : Prop :=
  ∃ (done : List (LsuRequest × LsuResponse)) (m' : Memory 64), History m done m' ∧ t.responses = done.map Prod.snd ∧
    (t.lsu.state = .idle → t.accepted = done.map Prod.fst ∧ t.memory = m') ∧
    (t.lsu.state ≠ .idle → ∃ r, t.accepted = done.map Prod.fst ++ [r] ∧
      ∀ x, ¬ (r.write = true ∧ InRange r.addr r.widthBytes x) → t.memory x = m' x)

/-- In this cycle the bus refuses, or the beat has waited as long as the watchdog lets it. -/
def Refused (busTimeoutCycles : ℕ) (cycles : ℕ → LsuCycle) (n : ℕ) : Prop :=
  (cycles n).err = true ∨ 0 < busTimeoutCycles ∧ busTimeoutCycles ≤ n ∧
    ∀ j < n, n ≤ j + busTimeoutCycles → (cycles j).ack = false ∧ (cycles j).err = false

lemma exact_after (busTimeoutCycles : ℕ) {m : Memory 64} {cycles : ℕ → LsuCycle}
    (hsized : ∀ n, (cycles n).request.valid = true → (cycles n).request.Sized) (n : ℕ) :
    Exact m (after busTimeoutCycles m cycles n) := by
  obtain ⟨done, m', current, h⟩ := accounts_after busTimeoutCycles m hsized n
  refine ⟨done, m', h.history, h.responses, ?_⟩
  have haccepted := h.accepted
  cases h.inFlight with
  | idle hstate hmemory =>
    rw [List.append_nil] at haccepted
    exact ⟨fun _ => ⟨haccepted, hmemory⟩, fun hne => absurd hstate hne⟩
  | @first r hstate _ _ hmemory =>
    rw [hstate]
    exact ⟨LsuState.noConfusion, fun _ => ⟨r, haccepted, fun x _ => by rw [hmemory]⟩⟩
  | @second r hstate hlatched hr hsplit hmemory =>
    rw [hstate]
    refine ⟨LsuState.noConfusion, fun _ => ⟨r, haccepted, fun x hx => ?_⟩⟩
    have hwidth := (Lsu.splitNeeded_iff (hlatched.sized hr)).1 hsplit
    rw [hlatched.width] at hwidth
    rw [hmemory]
    split
    · next hwrite => exact unchanged_store hwidth.le hwrite x hx
    · rfl

lemma refused_of_error {busTimeoutCycles : ℕ} {m : Memory 64} {cycles : ℕ → LsuCycle} {n : ℕ}
    (herror : ((after busTimeoutCycles m cycles n).response busTimeoutCycles (cycles n)).error = true) :
    Refused busTimeoutCycles cycles n := by
  have hfails : (after busTimeoutCycles m cycles n).fails busTimeoutCycles (cycles n) = true := by
    cases hstate : (after busTimeoutCycles m cycles n).lsu.state with
    | idle =>
      rw [response, Lsu.response, hstate] at herror
      exact Bool.noConfusion herror
    | first =>
      by_contra hfails
      rw [response_first _ _ hstate, if_neg hfails] at herror
      split at herror <;> exact Bool.noConfusion herror
    | second =>
      by_contra hfails
      rw [response_second _ _ hstate, if_neg hfails] at herror
      split at herror <;> exact Bool.noConfusion herror
  rw [fails, Lsu.effectiveErr, Bool.or_eq_true] at hfails
  rcases hfails with herr | hfire
  · exact .inl herr
  · rw [Lsu.watchdogFire, Bool.and_eq_true, Bool.and_eq_true, decide_eq_true_iff, beq_iff_eq] at hfire
    obtain ⟨hn, -, hquiet⟩ := watchdogCounter_after busTimeoutCycles m cycles n
    rw [hfire.2] at hn hquiet
    exact .inr ⟨hfire.1.1, hn, hquiet⟩

/-- In every run the requests are done exactly, an error is one that the bus or the watchdog makes, and every request is
answered as long as the bus answers or the watchdog is on. -/
theorem requests_exact (busTimeoutCycles : ℕ) (m : Memory 64) (cycles : ℕ → LsuCycle)
    (hsized : ∀ n, (cycles n).request.valid = true → (cycles n).request.Sized) :
    (∀ n, Exact m (after busTimeoutCycles m cycles n)) ∧
    (∀ n, ((after busTimeoutCycles m cycles n).response busTimeoutCycles (cycles n)).error = true →
      Refused busTimeoutCycles cycles n) ∧
    (0 < busTimeoutCycles ∨ BusAnswers cycles → ∀ n, ∃ k ≥ n,
      (after busTimeoutCycles m cycles k).accepted = (after busTimeoutCycles m cycles n).accepted ∧
      (after busTimeoutCycles m cycles k).responses.length = (after busTimeoutCycles m cycles n).accepted.length) := by
  refine ⟨exact_after busTimeoutCycles hsized, fun n => refused_of_error, fun hends n => ?_⟩
  obtain ⟨k, hk, hidle, haccepted⟩ : ∃ k ≥ n, (after busTimeoutCycles m cycles k).lsu.state = .idle ∧
      (after busTimeoutCycles m cycles k).accepted = (after busTimeoutCycles m cycles n).accepted := by
    cases hstate : (after busTimeoutCycles m cycles n).lsu.state with
    | idle => exact ⟨n, le_rfl, hstate, rfl⟩
    | first => exact first_ends hends hstate
    | second => exact second_ends hends hstate
  obtain ⟨done, m', -, hresponses, hdone, -⟩ := exact_after busTimeoutCycles hsized (m := m) k
  refine ⟨k, hk, haccepted, ?_⟩
  rw [hresponses, ← haccepted, (hdone hidle).1, List.length_map, List.length_map]

/-- A load of eight bytes at an odd address, made in the first cycle, and a bus that answers from cycle `delay` on. -/
def sampleCycles (delay n : ℕ) : LsuCycle := ⟨⟨n == 0, 0xFFFFFFFFFFFFFFFD, 8, false, 0⟩, delay ≤ n, false, 0⟩

theorem requests_exact_wrapping :
    (∀ n, Exact (fun x => x.setWidth 8) (after 1024 (fun x => x.setWidth 8) (sampleCycles 3) n)) ∧
    (∀ n, ((after 1024 (fun x => x.setWidth 8) (sampleCycles 3) n).response 1024 (sampleCycles 3 n)).error = true →
      Refused 1024 (sampleCycles 3) n) ∧
    ∀ n, ∃ k ≥ n, (after 1024 (fun x => x.setWidth 8) (sampleCycles 3) k).accepted =
        (after 1024 (fun x => x.setWidth 8) (sampleCycles 3) n).accepted ∧
      (after 1024 (fun x => x.setWidth 8) (sampleCycles 3) k).responses.length =
        (after 1024 (fun x => x.setWidth 8) (sampleCycles 3) n).accepted.length :=
  have h := requests_exact 1024 (fun x => x.setWidth 8) (sampleCycles 3) fun _ _ => .inr (.inr (.inr rfl))
  ⟨h.1, h.2.1, h.2.2 (.inl (by decide))⟩

lemma sample_waits (m : Memory 64) (n : ℕ) (hn : n ≤ 1024) : after 1024 m (sampleCycles 2000) (n + 1) =
    ⟨⟨.first, 0xFFFFFFFFFFFFFFFD, 8, false, 0, 0, n⟩, m, [(sampleCycles 2000 0).request], []⟩ := by
  induction n with
  | zero => rfl
  | succ n ih =>
    have hne : ¬ n = 1024 := by omega
    have hack : ¬ 2000 ≤ n + 1 := by omega
    rw [after, ih (by omega)]
    simp [step, response, writes, reply, sampleCycles, Lsu.step, Lsu.response, Lsu.effectiveErr, Lsu.watchdogFire,
      Lsu.nextWatchdogCounter, Lsu.busActive, Lsu.requestReady, hne, hack]

/-- The first answer of the bus, in cycle 2000, comes after the watchdog has answered. -/
theorem late_answer_is_error :
    (after 1024 (fun _ => 1) (sampleCycles 2000) 1026).responses = [⟨true, true, 0⟩] ∧
      load 64 (fun _ => 1) (0xFFFFFFFFFFFFFFFD : Word) 8 ≠ 0 := by
  constructor
  · rw [after, sample_waits _ 1024 le_rfl]
    rfl
  · decide

end LsuSystem

end Little64.Hdl

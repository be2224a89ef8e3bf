import Little64.Boot.SpiDriver

/-! From ticks to bytes: however long the clock stays low and high, eight bits carry one byte each way. -/

namespace Little64.Boot.Spi

open LittleEndian CheckedAccess

section Ticks

variable {s : Session} {mosi : Bool}

lemma wake_of_selected (hs : s.selected = true) : s.wake = s := if_pos hs

lemma selected_wake (s : Session) : s.wake.selected = true := by
  rw [Session.wake]
  split
  · assumption
  · rfl

lemma tick_wake (clk : Bool) (s : Session) : s.tick ⟨false, clk, mosi⟩ = s.wake.tick ⟨false, clk, mosi⟩ := by
  simp only [Session.tick, wake_of_selected (selected_wake s), Bool.false_eq_true, if_false]

lemma load_of_loaded (hloaded : s.txLoaded = true) (hindex : s.txBitIndex < 8) : s.load = s := by
  rw [Session.load, if_neg]
  rw [hloaded, not_or]
  exact ⟨Bool.noConfusion, Nat.not_le.mpr hindex⟩

/-- A card that has a byte to send. -/
structure Loaded (s : Session) : Prop where
  selected : s.selected = true
  loaded : s.txLoaded = true
  index : s.txBitIndex < 8

lemma loaded_load (hs : s.selected = true) : Loaded s.load := by
  rw [Session.load]
  split
  · exact ⟨hs, rfl, Nat.zero_lt_succ 7⟩
  · next h =>
    rw [not_or, Bool.not_eq_false, not_le] at h
    exact ⟨hs, h.1, h.2⟩

/-- The card with its bit on the line while the clock is low. -/
def Session.low (s : Session) : Session := { s.prepareMiso with spiEdge := false }

lemma loaded_low (hs : s.selected = true) : Loaded s.low := by
  obtain ⟨hselected, hloaded, hindex⟩ := loaded_load hs
  exact ⟨hselected, hloaded, hindex⟩

lemma prepareMiso_low (hs : s.selected = true) : s.low.prepareMiso = s.low := by
  obtain ⟨-, hloaded, hindex⟩ := loaded_low hs
  rw [Session.prepareMiso, load_of_loaded hloaded hindex]
  rfl

lemma tick_low (hs : s.selected = true) : s.tick ⟨false, false, mosi⟩ = s.low := by
  change ((s.wake.prepareMiso).edge false mosi).prepareMiso = _
  rw [wake_of_selected hs]
  exact prepareMiso_low hs

lemma low_low (hs : s.selected = true) : s.low.low = s.low := by
  rw [Session.low, prepareMiso_low hs]
  rfl

/-- It does not matter how long the clock stays low. -/
lemma ticks_low (hs : s.selected = true) (k : ℕ) : (Session.tick ⟨false, false, mosi⟩)^[k + 1] s = s.low := by
  induction k with
  | zero => exact tick_low hs
  | succ k ih =>
    rw [Function.iterate_succ_apply', ih, tick_low (loaded_low hs).selected, low_low hs]

lemma tick_rise (hs : Loaded s) (hedge : s.spiEdge = false) :
    s.tick ⟨false, true, mosi⟩ = { s with spiEdge := true }.shift mosi := by
  change s.wake.edge true mosi = _
  rw [wake_of_selected hs.selected, Session.edge, hedge]
  rfl

lemma tick_high (hs : s.selected = true) (hedge : s.spiEdge = true) : s.tick ⟨false, true, mosi⟩ = s := by
  change s.wake.edge true mosi = _
  rw [wake_of_selected hs, Session.edge, hedge]
  change { s with spiEdge := true } = s
  rw [← hedge]

lemma ticks_high (hs : s.selected = true) (hedge : s.spiEdge = true) (k : ℕ) :
    (Session.tick ⟨false, true, mosi⟩)^[k] s = s := by
  apply Function.iterate_fixed
  exact tick_high hs hedge

lemma ticks_wake_low (s : Session) (k : ℕ) : (Session.tick ⟨false, false, mosi⟩)^[k + 1] s = s.wake.low := by
  rw [Function.iterate_succ_apply, tick_wake, ← Function.iterate_succ_apply]
  exact ticks_low (selected_wake s) k

end Ticks

section Bytes

namespace Protocol

/-- What a byte does that the card has received. -/
def received (p : Protocol) (byte : Byte) : Protocol :=
  let polled := p.poll byte
  if polled.2 then polled.1
  else
    let collected := polled.1.collect byte
    if collected.2 then collected.1.processCommand else collected.1

/-- A byte each way: the card takes its own before it knows the other one. -/
def exchange (p : Protocol) (byte : Byte) : Protocol := p.popByte.2.received byte

end Protocol

variable {s : Session} {p : Protocol} {out value byte : Byte}

lemma processCommand_session (s : Session) : s.processCommand.toProtocol = s.toProtocol.processCommand ∧
    s.processCommand.selected = s.selected ∧ s.processCommand.spiEdge = s.spiEdge ∧
    (s.txLoaded = false → s.processCommand.txLoaded = false) := by
  rw [Session.processCommand]
  split
  · exact ⟨rfl, rfl, rfl, fun _ => rfl⟩
  · exact ⟨rfl, rfl, rfl, fun h => h⟩

lemma handleReceivedByte_session (s : Session) (byte : Byte) :
    (s.handleReceivedByte byte).toProtocol = s.toProtocol.received byte ∧
      (s.handleReceivedByte byte).selected = s.selected ∧ (s.handleReceivedByte byte).spiEdge = s.spiEdge ∧
      (s.txLoaded = false → (s.handleReceivedByte byte).txLoaded = false) := by
  rw [Session.handleReceivedByte, Protocol.received]
  simp only
  split
  · exact ⟨rfl, rfl, rfl, fun h => h⟩
  split
  · exact processCommand_session _
  · exact ⟨rfl, rfl, rfl, fun h => h⟩

/-- The card between two bytes. -/
structure Rest (s : Session) (p : Protocol) : Prop where
  protocol : s.wake.toProtocol = p
  rxBits : s.wake.rxBits = 0
  rxByte : s.wake.rxByte = 0
  idle : s.wake.txLoaded = false

lemma rest_of_selected (hs : s.selected = true) (hprotocol : s.toProtocol = p) (hbits : s.rxBits = 0)
    (hbyte : s.rxByte = 0) (hidle : s.txLoaded = false) : Rest s p := by
  have hawake := wake_of_selected hs
  constructor
  · rw [hawake, hprotocol]
  · rw [hawake, hbits]
  · rw [hawake, hbyte]
  · rw [hawake, hidle]

/-- The card in the middle of a byte, with so many bits behind it. -/
structure Sending (s : Session) (p : Protocol) (out value : Byte) (i : ℕ) : Prop where
  protocol : s.toProtocol = p
  selected : s.selected = true
  edge : s.spiEdge = true
  loaded : s.txLoaded = true
  txByte : s.txByte = out
  index : s.txBitIndex = i
  rxBits : s.rxBits = i
  rxByte : s.rxByte = value >>> (8 - i)

/-- A register that has taken in the upper bits of a value takes in the next one. -/
lemma shiftIn_next {n : ℕ} (x : BitVec n) {i : ℕ} (hi : i < n) :
    x >>> (n - i) <<< 1 ||| (BitVec.ofBool (x.getMsbD i)).setWidth n = x >>> (n - (i + 1)) := by
  apply BitVec.eq_of_getLsbD_eq
  intro k hk
  rw [BitVec.getLsbD_or, BitVec.getLsbD_shiftLeft, BitVec.getLsbD_ushiftRight, BitVec.getLsbD_setWidth,
    BitVec.getLsbD_ushiftRight, BitVec.getMsbD_eq_getLsbD]
  rcases Nat.eq_zero_or_pos k with rfl | hpos
  · have hplace : n - 1 - i = n - (i + 1) + 0 := by omega
    simp [hi, hk, hplace]
  · have hplace : n - i + (k - 1) = n - (i + 1) + k := by omega
    have hone : ¬ k < 1 := by omega
    simp [hk, hone, hplace, hpos.ne']

lemma bitSent_eq (hs : Loaded s) (h : s.txBitIndex < 7) : s.bitSent = { s with txBitIndex := s.txBitIndex + 1 } := by
  rw [Session.bitSent, if_pos ⟨hs.loaded, hs.index⟩]
  exact if_neg (by change ¬ 8 ≤ s.txBitIndex + 1; omega)

lemma bitSent_last (hs : Loaded s) (h : s.txBitIndex = 7) :
    s.bitSent = { s with txBitIndex := s.txBitIndex + 1, txLoaded := false } := by
  rw [Session.bitSent, if_pos ⟨hs.loaded, hs.index⟩]
  exact if_pos (by change 8 ≤ s.txBitIndex + 1; omega)

lemma shift_eq {bit : Bool} (hs : Loaded s) (hindex : s.txBitIndex < 7) (hbits : s.rxBits < 7) :
    s.shift bit = { s.takeBit bit with txBitIndex := s.txBitIndex + 1 } := by
  have htaken : Loaded (s.takeBit bit) := ⟨hs.selected, hs.loaded, hs.index⟩
  have hmore : ¬ s.rxBits + 1 = 8 := by omega
  rw [Session.shift, bitSent_eq htaken hindex]
  exact if_neg hmore

lemma shift_last {bit : Bool} (hs : Loaded s) (hindex : s.txBitIndex = 7) (hbits : s.rxBits = 7) :
    s.shift bit = { Session.handleReceivedByte { s.takeBit bit with txBitIndex := s.txBitIndex + 1, txLoaded := false }
      (s.takeBit bit).rxByte with rxByte := 0, rxBits := 0 } := by
  have htaken : Loaded (s.takeBit bit) := ⟨hs.selected, hs.loaded, hs.index⟩
  have hall : s.rxBits + 1 = 8 := by omega
  rw [Session.shift, bitSent_last htaken hindex]
  exact if_pos hall

/-- The card when the clock has just risen. -/
def Session.raised (s : Session) : Session := { s.wake.low with spiEdge := true }

/-- Between two bytes the card chooses the next byte that it sends. -/
lemma Rest.raised (h : Rest s p) (value : Byte) :
    Sending s.raised p.popByte.2 p.popByte.1 value 0 ∧ s.wake.low.miso = p.popByte.1.getMsbD 0 := by
  obtain ⟨hprotocol, hbits, hbyte, hidle⟩ := h
  have hselected := selected_wake s
  have hload : s.wake.load =
      { s.wake with toProtocol := p.popByte.2, txByte := p.popByte.1, txLoaded := true, txBitIndex := 0 } := by
    rw [Session.load, if_pos (.inl hidle), hprotocol]
  rw [Session.raised, Session.low, Session.prepareMiso, hload]
  constructor
  · exact
      { protocol := rfl
        selected := hselected
        edge := rfl
        loaded := rfl
        txByte := rfl
        index := rfl
        rxBits := hbits
        rxByte := hbyte.trans (BitVec.ushiftRight_eq_zero le_rfl).symm }
  · rfl

section Next

variable {i : ℕ} (h : Sending s p out value i)

include h

lemma Sending.raised (hi : i < 8) : Sending s.raised p out value i ∧ s.wake.low.miso = out.getMsbD i := by
  have hload := load_of_loaded h.loaded (by rw [h.index]; exact hi)
  obtain ⟨hprotocol, hselected, hedge, hloaded, htx, hindex, hbits, hbyte⟩ := h
  rw [Session.raised, wake_of_selected hselected, Session.low, Session.prepareMiso, hload]
  constructor
  · exact ⟨hprotocol, hselected, rfl, hloaded, htx, hindex, hbits, hbyte⟩
  · change s.txByte.getMsbD s.txBitIndex = _
    rw [htx, hindex]

lemma Sending.next (hi : i < 7) : Sending (s.shift (value.getMsbD i)) p out value (i + 1) := by
  obtain ⟨hprotocol, hselected, hedge, hloaded, htx, hindex, hbits, hbyte⟩ := h
  have hnext := shiftIn_next value (show i < 8 by omega)
  rw [← hbyte] at hnext
  rw [shift_eq ⟨hselected, hloaded, by omega⟩ (by omega) (by omega)]
  exact
    { protocol := hprotocol
      selected := hselected
      edge := hedge
      loaded := hloaded
      txByte := htx
      index := congrArg (· + 1) hindex
      rxBits := congrArg (· + 1) hbits
      rxByte := hnext }

omit h in
/-- With the last bit the card takes the byte that it has received. -/
lemma Sending.last (h : Sending s p out value 7) : Rest (s.shift (value.getMsbD 7)) (p.received value) ∧
    (s.shift (value.getMsbD 7)).selected = true ∧ (s.shift (value.getMsbD 7)).spiEdge = true := by
  obtain ⟨rfl, hselected, hedge, hloaded, htx, hindex, hbits, hbyte⟩ := h
  have hlast := shiftIn_next value (show 7 < 8 by decide)
  rw [← hbyte] at hlast
  rw [shift_last ⟨hselected, hloaded, by omega⟩ hindex hbits]
  have hreceived : (s.takeBit (value.getMsbD 7)).rxByte = value := hlast
  rw [hreceived]
  obtain ⟨hprotocol, hselected', hedge', hidle⟩ := handleReceivedByte_session
    { s.takeBit (value.getMsbD 7) with txBitIndex := s.txBitIndex + 1, txLoaded := false } value
  generalize Session.handleReceivedByte _ value = t at *
  have hawake : t.selected = true := hselected'.trans hselected
  exact ⟨rest_of_selected hawake hprotocol rfl rfl (hidle rfl), hawake, hedge'.trans hedge⟩

end Next

end Bytes

section Buses

variable {clocking : Clocking} {b : Bus} {p : Protocol} {out value : Byte} {n : ℕ}

lemma clockBit_eq {bit : Bool} (hcs : b.csN = false) (hselected : (b.card.raised.shift bit).selected = true)
    (hedge : (b.card.raised.shift bit).spiEdge = true) :
    b.clockBit clocking bit = (b.card.wake.low.miso, { b with card := b.card.raised.shift bit, bits := b.bits + 1 }) := by
  have hrise : b.card.wake.low.tick ⟨false, true, bit⟩ = b.card.raised.shift bit :=
    tick_rise (loaded_low (selected_wake b.card)) rfl
  rw [Bus.clockBit, hcs, ticks_wake_low, Function.iterate_succ_apply, hrise, ticks_high hselected hedge]

/-- What a register holds that has taken in some bits of a byte. -/
def taken (received : BitVec n) (out : Byte) (i : ℕ) : BitVec n := received <<< i ||| (out >>> (8 - i)).setWidth n

lemma taken_zero (received : BitVec n) (out : Byte) : taken received out 0 = received := by
  rw [taken, BitVec.ushiftRight_eq_zero le_rfl, BitVec.shiftLeft_zero, BitVec.setWidth_zero, BitVec.or_zero]

lemma taken_next (received : BitVec n) (out : Byte) {i : ℕ} (hi : i < 8) :
    taken received out i <<< 1 ||| (BitVec.ofBool (out.getMsbD i)).setWidth n = taken received out (i + 1) := by
  apply BitVec.eq_of_getLsbD_eq
  intro k hk
  rw [taken, taken]
  rcases Nat.eq_zero_or_pos k with rfl | hpos
  · have hplace : 8 - (i + 1) = 7 - i := by omega
    simp [hk, hi, BitVec.getMsbD_eq_getLsbD, hplace]
  · have hplace : 8 - i + (k - 1) = 8 - (i + 1) + k := by omega
    have hone : ¬ k < 1 := by omega
    have hlate : k - (i + 1) = k - 1 - i := by omega
    have hbefore : k < i + 1 ↔ k - 1 < i := by omega
    simp [hk, hone, hpos.ne', hplace, hlate, hbefore]

lemma taken_byte (received : BitVec n) (out : Byte) : taken received out 8 = received <<< 8 ||| out.setWidth n := by
  rw [taken, BitVec.ushiftRight_zero]

lemma taken_eight (out : Byte) : taken (0 : Byte) out 8 = out := by
  rw [taken_byte, BitVec.setWidth_eq]
  exact BitVec.zero_or

lemma toNat_taken (received : U32) (out : Byte) (hroom : received.toNat < 2 ^ 24) :
    (taken received out 8).toNat = received.toNat * 2 ^ 8 + out.toNat := by
  have hout := out.isLt
  have hshift : (received <<< 8).toNat = received.toNat <<< 8 := by
    rw [BitVec.toNat_shiftLeft, Nat.shiftLeft_eq]
    omega
  have hwidth : (out.setWidth 32).toNat = out.toNat := by
    rw [BitVec.toNat_setWidth]
    omega
  rw [taken_byte, BitVec.toNat_or, hshift, hwidth, ← Nat.shiftLeft_add_eq_or_of_lt hout, Nat.shiftLeft_eq]

/-- The bytes of a word that has been taken in. -/
lemma taken_word (b0 b1 b2 b3 : Byte) {word : U32} (hword : word = taken (taken (taken (taken 0 b0 8) b1 8) b2 8) b3 8) :
    [(word >>> 24).setWidth 8, (word >>> 16).setWidth 8, (word >>> 8).setWidth 8, word.setWidth 8] = [b0, b1, b2, b3] := by
  have h0 := b0.isLt
  have h1 := b1.isLt
  have h2 := b2.isLt
  have h3 := b3.isLt
  have hvalue : word.toNat = ((b0.toNat * 2 ^ 8 + b1.toNat) * 2 ^ 8 + b2.toNat) * 2 ^ 8 + b3.toNat := by
    have hfirst : (taken (0 : U32) b0 8).toNat = b0.toNat := (toNat_taken 0 b0 (by decide)).trans (Nat.zero_add _)
    have hsecond := toNat_taken (taken 0 b0 8) b1 (by omega)
    have hthird := toNat_taken (taken (taken 0 b0 8) b1 8) b2 (by omega)
    rw [hword, toNat_taken _ b3 (by omega), hthird, hsecond, hfirst]
  have hbyte : ∀ (k : ℕ) (b : Byte), word.toNat / 2 ^ k % 2 ^ 8 = b.toNat → (word >>> k).setWidth 8 = b := by
    intro k b h
    apply BitVec.eq_of_toNat_eq
    rw [BitVec.toNat_setWidth, BitVec.toNat_ushiftRight, Nat.shiftRight_eq_div_pow]
    exact h
  rw [hbyte 24 b0 (by omega), hbyte 16 b1 (by omega), hbyte 8 b2 (by omega)]
  have hlast := hbyte 0 b3 (by omega)
  rw [BitVec.ushiftRight_zero] at hlast
  rw [hlast]

/-- The bus with the card between two bytes. -/
structure Between (b : Bus) (p : Protocol) : Prop where
  csN : b.csN = false
  rest : Rest b.card p

/-- The bits that are left of a byte, the last one apart from the others. -/
lemma clockBits_sending (received : BitVec n) (left : ℕ) (hleft : left ≤ 7) (b : Bus) (hcs : b.csN = false)
    (h : Sending b.card p out value (7 - left)) :
    ∃ b', b.clockBits clocking ((List.range' (7 - left) (left + 1)).map value.getMsbD) (taken received out (7 - left)) =
      (taken received out 8, b') ∧ Between b' (p.received value) ∧ b'.card.selected = true ∧
        b'.usesBlockAddressing = b.usesBlockAddressing := by
  induction left generalizing b with
  | zero =>
    obtain ⟨hraised, hmiso⟩ := h.raised (by decide)
    obtain ⟨hrest, hselected, hedge⟩ := hraised.last
    rw [List.range'_succ, List.map_cons, Bus.clockBits, clockBit_eq hcs hselected hedge, hmiso,
      taken_next received out (by decide)]
    exact ⟨_, rfl, ⟨hcs, hrest⟩, hselected, rfl⟩
  | succ left ih =>
    have hplace : 7 - (left + 1) + 1 = 7 - left := by omega
    obtain ⟨hraised, hmiso⟩ := h.raised (by omega)
    have hnext := hraised.next (by omega)
    rw [List.range'_succ, List.map_cons, Bus.clockBits, clockBit_eq hcs hnext.selected hnext.edge, hmiso,
      taken_next received out (by omega), hplace]
    rw [hplace] at hnext
    exact ih (by omega) _ hcs hnext

/-- A byte each way, whatever the clock does. -/
lemma clockBits_byte (clocking : Clocking) (h : Between b p) (value : Byte) (received : BitVec n) :
    ∃ b', b.clockBits clocking (bitsOf value) received = (taken received p.popByte.1 8, b') ∧
      Between b' (p.exchange value) ∧ b'.card.selected = true ∧ b'.usesBlockAddressing = b.usesBlockAddressing := by
  obtain ⟨hraised, hmiso⟩ := h.rest.raised value
  have hnext := hraised.next (by decide)
  have hfirst := taken_next received p.popByte.1 (show 0 < 8 by decide)
  rw [taken_zero] at hfirst
  have hbits : bitsOf value = value.getMsbD 0 :: (List.range' (7 - 6) (6 + 1)).map value.getMsbD := rfl
  rw [hbits, Bus.clockBits, clockBit_eq h.csN hnext.selected hnext.edge, hmiso, hfirst]
  exact clockBits_sending received 6 (by decide) _ h.csN hnext

lemma clockBits_append (bits more : List Bool) (received : BitVec n) (b : Bus) :
    b.clockBits clocking (bits ++ more) received =
      (b.clockBits clocking bits received).2.clockBits clocking more (b.clockBits clocking bits received).1 := by
  induction bits generalizing received b with
  | nil => rfl
  | cons bit bits ih => exact ih _ _

end Buses

end Little64.Boot.Spi

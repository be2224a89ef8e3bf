import Little64.Boot.SpiExchange
import Little64.Library.SimulatedPrograms

/-! What the driver does to the card, byte by byte, command by command. -/

namespace Little64.Boot.Spi

open LittleEndian CheckedAccess SimulatedPrograms

/-- The card as its commands see it, and whether it is selected. -/
structure Link where
  protocol : Protocol
  selected : Bool
  usesBlockAddressing : Bool

/-- A card that is not selected has nothing of a command. -/
structure Released (s : Session) (p : Protocol) : Prop where
  protocol : s.toProtocol = p
  selected : s.selected = false
  cmdFrame : p.cmdFrame = []
  pending : p.pendingMultiblockPoll = false

/-- A bus in a state of the link. A card that has just been selected does not know it yet. -/
structure Bus.At (b : Bus) (l : Link) : Prop where
  csN : b.csN = !l.selected
  usesBlockAddressing : b.usesBlockAddressing = l.usesBlockAddressing
  rest : Rest b.card l.protocol
  aware : l.selected = true ∧ b.card.selected = true ∨ Released b.card l.protocol

/-- What a card keeps that is not selected any more. -/
def Protocol.released (p : Protocol) : Protocol :=
  { p with cmdFrame := [], pendingMultiblockPoll := false, multiblockActive := false }

section Lines

variable {clocking : Clocking} {p : Protocol} {u selected clk mosi : Bool} {s : Session}

lemma Released.rest (h : Released s p) : Rest s p := by
  obtain ⟨hprotocol, hselected, hcmd, hpending⟩ := h
  have hwake : s.wake = { s.resetSelection with selected := true } := if_neg (by rw [hselected]; exact Bool.noConfusion)
  constructor
  · rw [hwake, ← hprotocol]
    change { s.toProtocol with cmdFrame := [], pendingMultiblockPoll := false } = s.toProtocol
    rw [hprotocol, ← hcmd, ← hpending]
  · rw [hwake]
    rfl
  · rw [hwake]
    rfl
  · rw [hwake]
    rfl

lemma does_transferByte (clocking : Clocking) (p : Protocol) (value : Byte) :
    Does Bus.At (transferByte clocking value) ⟨p, true, u⟩ p.popByte.1 ⟨p.exchange value, true, u⟩ := by
  intro b hb
  obtain ⟨b', hclocked, hbetween, hselected, haddressing⟩ :=
    clockBits_byte clocking ⟨hb.csN, hb.rest⟩ value (0 : Byte)
  refine ⟨b', ?_, hbetween.csN, haddressing.trans hb.usesBlockAddressing, hbetween.rest, .inl ⟨rfl, hselected⟩⟩
  change Except.ok (b.clockBits clocking (bitsOf value) 0) = _
  rw [hclocked, taken_eight]

/-- Four bytes at once. -/
lemma does_transferWord (clocking : Clocking) (p : Protocol) :
    ∃ word, Does Bus.At (transferBits clocking (0xFFFFFFFF : U32)) ⟨p, true, u⟩ word
      ⟨(((p.exchange 0xFF).exchange 0xFF).exchange 0xFF).exchange 0xFF, true, u⟩ ∧
    [(word >>> 24).setWidth 8, (word >>> 16).setWidth 8, (word >>> 8).setWidth 8, word.setWidth 8] =
      [p.popByte.1, (p.exchange 0xFF).popByte.1, ((p.exchange 0xFF).exchange 0xFF).popByte.1,
        (((p.exchange 0xFF).exchange 0xFF).exchange 0xFF).popByte.1] := by
  refine ⟨_, fun b hb => ?_, taken_word _ _ _ _ rfl⟩
  obtain ⟨b1, h1, hb1, -, ha1⟩ := clockBits_byte clocking ⟨hb.csN, hb.rest⟩ 0xFF (0 : U32)
  obtain ⟨b2, h2, hb2, -, ha2⟩ := clockBits_byte clocking hb1 0xFF (taken 0 p.popByte.1 8)
  obtain ⟨b3, h3, hb3, -, ha3⟩ := clockBits_byte clocking hb2 0xFF (taken (taken 0 p.popByte.1 8) _ 8)
  obtain ⟨b4, h4, hb4, hselected, ha4⟩ :=
    clockBits_byte clocking hb3 0xFF (taken (taken (taken 0 p.popByte.1 8) _ 8) _ 8)
  have hbits : bitsOf (0xFFFFFFFF : U32) =
      bitsOf (0xFF : Byte) ++ (bitsOf (0xFF : Byte) ++ (bitsOf (0xFF : Byte) ++ bitsOf (0xFF : Byte))) := rfl
  refine ⟨b4, ?_, hb4.csN, ((ha4.trans ha3).trans ha2).trans (ha1.trans hb.usesBlockAddressing), hb4.rest,
    .inl ⟨rfl, hselected⟩⟩
  change Except.ok (b.clockBits clocking (bitsOf _) 0) = _
  rw [hbits, clockBits_append, h1, clockBits_append, h2, clockBits_append, h3, h4]

/-- While the card is not selected, nothing that is on the lines changes it. -/
lemma Released.tick (h : Released s p) : Released (s.tick ⟨true, clk, mosi⟩) p := by
  obtain ⟨hprotocol, hselected, hcmd, hpending⟩ := h
  have hrelease : s.tick ⟨true, clk, mosi⟩ = { s with miso := true } := by
    change s.release = _
    rw [Session.release, if_neg (by rw [hselected]; exact Bool.noConfusion)]
  rw [hrelease]
  exact ⟨hprotocol, hselected, hcmd, hpending⟩

lemma Released.ticks (h : Released s p) (k : ℕ) : Released ((Session.tick ⟨true, clk, mosi⟩)^[k] s) p := by
  induction k with
  | zero => exact h
  | succ k ih =>
    rw [Function.iterate_succ_apply']
    exact ih.tick

/-- The first tick at which a selected card finds that it is not. -/
lemma released_of_selected (hs : s.selected = true) : Released (s.tick ⟨true, clk, mosi⟩) s.toProtocol.released := by
  have hrelease : s.tick ⟨true, clk, mosi⟩ = { s.resetSelection with multiblockActive := false, miso := true } := by
    change s.release = _
    rw [Session.release, if_pos hs]
  rw [hrelease]
  exact ⟨rfl, rfl, rfl, rfl⟩

/-- The bits of a byte on the lines of a card that is not selected. -/
lemma clockBits_released (clocking : Clocking) {n : ℕ} (bits : List Bool) (received : BitVec n) {b : Bus}
    (hcs : b.csN = true) (h : Released b.card p) : ∃ r b', b.clockBits clocking bits received = (r, b') ∧ b'.csN = true ∧
      Released b'.card p ∧ b'.usesBlockAddressing = b.usesBlockAddressing := by
  induction bits generalizing received b with
  | nil => exact ⟨received, b, rfl, hcs, h, rfl⟩
  | cons bit bits ih =>
    rw [Bus.clockBits]
    apply ih
    · exact hcs
    · rw [Bus.clockBit, hcs]
      exact (h.ticks _).ticks _

lemma does_releasedByte (value : Byte) :
    Does Bus.At (Functor.discard (transferByte clocking value)) ⟨p, false, u⟩ ⟨⟩ ⟨p, false, u⟩ := by
  intro b hb
  have hreleased : Released b.card p := by
    rcases hb.aware with ⟨hselected, -⟩ | hreleased
    · cases hselected
    · exact hreleased
  obtain ⟨r, b', hclocked, hcs, hreleased', haddressing⟩ :=
    clockBits_released clocking (bitsOf value) (0 : Byte) hb.csN hreleased
  have hrun : transferByte clocking value b = .ok (r, b') := congrArg Except.ok hclocked
  exact ⟨b', run_discard hrun, hcs, haddressing.trans hb.usesBlockAddressing, hreleased'.rest, .inr hreleased'⟩

lemma does_select : Does Bus.At select ⟨p, selected, u⟩ ⟨⟩ ⟨p, true, u⟩ := by
  apply Does.modify
  intro b hb
  refine ⟨rfl, hb.usesBlockAddressing, hb.rest, ?_⟩
  rcases hb.aware with ⟨-, hselected⟩ | hreleased
  · exact .inl ⟨rfl, hselected⟩
  · exact .inr hreleased

lemma does_setCs : Does Bus.At (setCs true) ⟨p, false, u⟩ ⟨⟩ ⟨p, false, u⟩ := by
  apply Does.modify
  intro b hb
  exact ⟨rfl, hb.usesBlockAddressing, hb.rest, hb.aware⟩

lemma popByte_of_empty (h : p.txQueue = []) : p.popByte = (0xFF, p) := by rw [Protocol.popByte, h]

/-- With nothing to send, time may pass. -/
lemma settled (hrest : Rest s p) (hempty : p.txQueue = []) (haware : s.selected = true ∨ Released s p) (k : ℕ) :
    ((Session.tick ⟨false, false, true⟩)^[k] s).selected = true ∧
        ((Session.tick ⟨false, false, true⟩)^[k] s).toProtocol = p ∨
      Released ((Session.tick ⟨false, false, true⟩)^[k] s) p := by
  cases k with
  | zero =>
    rcases haware with hselected | hreleased
    · refine .inl ⟨hselected, ?_⟩
      rw [← hrest.protocol, wake_of_selected hselected]
      rfl
    · exact .inr hreleased
  | succ k =>
    have hprotocol := hrest.protocol
    refine .inl ?_
    rw [ticks_wake_low]
    refine ⟨(loaded_low (selected_wake s)).selected, ?_⟩
    change s.wake.load.toProtocol = p
    rw [Session.load, if_pos (.inl hrest.idle), hprotocol, popByte_of_empty hempty]

lemma released_eq (hcmd : p.cmdFrame = []) (hpending : p.pendingMultiblockPoll = false)
    (hactive : p.multiblockActive = false) : p.released = p := by
  cases p
  cases hcmd
  cases hpending
  cases hactive
  rfl

lemma settle_run (b : Bus) : settle clocking b =
    .ok (⟨⟩, { b with card := (Session.tick ⟨b.csN, false, true⟩)^[clocking.settle b.bits] b.card }) := rfl

lemma does_deselect (clocking : Clocking) (hempty : p.txQueue = []) (hactive : p.multiblockActive = false) :
    Does Bus.At (deselect clocking) ⟨p, true, u⟩ ⟨⟩ ⟨p.released, false, u⟩ := by
  intro b hb
  have hcs : b.csN = false := hb.csN
  have hrest : Rest b.card p := hb.rest
  have hsettled := settled hrest hempty (hb.aware.imp_left And.right) (clocking.settle b.bits)
  generalize hcard : (Session.tick ⟨false, false, true⟩)^[clocking.settle b.bits] b.card = card at hsettled
  have hreleased : ∀ clk mosi, Released (card.tick ⟨true, clk, mosi⟩) p.released := by
    intro clk mosi
    rcases hsettled with ⟨hselected, hprotocol⟩ | hreleased
    · rw [← hprotocol]
      exact released_of_selected hselected
    · rw [released_eq hreleased.cmdFrame hreleased.pending hactive]
      exact hreleased.tick
  -- the card finds at the first tick of the byte that it is not selected
  have hfirst : Released (Bus.clockBit clocking true { b with card := card, csN := true }).2.card p.released := by
    apply Released.ticks
    change Released ((Session.tick ⟨true, false, true⟩)^[_ + 1] card) _
    rw [Function.iterate_succ_apply]
    exact (hreleased false true).ticks _
  obtain ⟨r, b', hclocked, hcs', hreleased', haddressing⟩ :=
    clockBits_released clocking (List.replicate 7 true) _ rfl hfirst
  have hrun : transferByte clocking 0xFF { b with card := card, csN := true } = .ok (r, b') := congrArg Except.ok hclocked
  refine ⟨b', ?_, hcs', haddressing.trans hb.usesBlockAddressing, hreleased'.rest, .inr hreleased'⟩
  have hsettle : settle clocking b = .ok (⟨⟩, { b with card := card }) := by
    rw [settle_run, hcs, hcard]
  change (settle clocking b >>= fun r => setCs true r.2 >>= fun r => Functor.discard (transferByte clocking 0xFF) r.2) = _
  rw [hsettle]
  exact run_discard hrun

end Lines

section Frames

variable {p q : Protocol} {byte : Byte}

lemma popByte_rest (p : Protocol) : p.popByte.2 = { p with txQueue := p.txQueue.tail } := by
  cases p with
  | mk image cmdFrame txQueue => cases txQueue <;> rfl

/-- Away from the end of a block the card takes no notice of what is asked between two of them. -/
lemma received_of_unasked (h : p.multiblockActive = false ∨ p.txQueue ≠ [] ∨ p.cmdFrame ≠ []) :
    p.received byte = if (p.collect byte).2 then (p.collect byte).1.processCommand else (p.collect byte).1 := by
  have hpoll : p.poll byte = (p, false) := by
    rw [Protocol.poll, if_neg]
    rintro ⟨hactive, hqueue, hcmd⟩
    rcases h with h | h | h
    · rw [h] at hactive
      cases hactive
    · exact h hqueue
    · exact h hcmd
  rw [Protocol.received, hpoll]
  rfl

/-- Ones that the card has no use for. -/
lemma exchange_ones (hcmd : p.cmdFrame = []) (hmore : p.multiblockActive = false ∨ p.txQueue.tail ≠ []) :
    p.exchange 0xFF = { p with txQueue := p.txQueue.tail } := by
  rw [Protocol.exchange, popByte_rest, received_of_unasked (hmore.imp_right .inl), Protocol.collect, if_pos hcmd]
  rfl

/-- The first byte of a command. -/
lemma exchange_start (hcmd : p.cmdFrame = []) (hmore : p.multiblockActive = false ∨ p.txQueue.tail ≠ [])
    (hstart : byte &&& 0xC0 = 0x40) : p.exchange byte = { p with txQueue := p.txQueue.tail, cmdFrame := [byte] } := by
  rw [Protocol.exchange, popByte_rest, received_of_unasked (hmore.imp_right .inl), Protocol.collect, if_pos hcmd,
    if_pos hstart]
  rfl

lemma exchange_collecting (hcmd : p.cmdFrame ≠ []) : p.exchange byte =
    if p.cmdFrame.length = 5
    then Protocol.processCommand { p with txQueue := p.txQueue.tail, cmdFrame := p.cmdFrame ++ [byte] }
    else { p with txQueue := p.txQueue.tail, cmdFrame := p.cmdFrame ++ [byte] } := by
  have hlength : (p.cmdFrame ++ [byte]).length = 6 ↔ p.cmdFrame.length = 5 := by
    rw [List.length_append, List.length_singleton]
    omega
  rw [Protocol.exchange, popByte_rest,
    received_of_unasked (p := { p with txQueue := p.txQueue.tail }) (.inr (.inr hcmd)), Protocol.collect, if_neg hcmd]
  simp only [decide_eq_true_eq, hlength]

/-- The bytes of a command, as the card takes them. -/
lemma sent_frame {b0 b1 b2 b3 b4 b5 : Byte} (hcmd : p.cmdFrame = [])
    (hmore : p.multiblockActive = false ∨ p.txQueue.tail ≠ []) (hstart : b0 &&& 0xC0 = 0x40) :
    [b0, b1, b2, b3, b4, b5].foldl Protocol.exchange p =
      Protocol.processCommand { p with txQueue := p.txQueue.drop 6, cmdFrame := [b0, b1, b2, b3, b4, b5] } := by
  simp only [List.foldl_cons, List.foldl_nil]
  rw [exchange_start hcmd hmore hstart]
  simp [exchange_collecting, ← List.drop_one]

end Frames

section Transactions

variable {clocking : Clocking} {p q : Protocol} {u selected : Bool} {cmd response : Byte} {argument : U32}
  {rest : Blob} {n : ℕ}

lemma does_sendBytes (bytes : Blob) (p : Protocol) :
    Does Bus.At (sendBytes clocking bytes) ⟨p, true, u⟩ ⟨⟩ ⟨bytes.foldl Protocol.exchange p, true, u⟩ :=
  Does.forM (fun p : Protocol => (⟨p, true, u⟩ : Link)) (fun _ _ => (does_transferByte clocking _ _).discard) bytes p

lemma does_sendReleased (bytes : Blob) : Does Bus.At (sendBytes clocking bytes) ⟨p, false, u⟩ ⟨⟩ ⟨p, false, u⟩ :=
  Does.forM (g := fun _ _ => ()) (fun _ : Unit => (⟨p, false, u⟩ : Link)) (fun _ _ => does_releasedByte _) bytes ()

/-- Bytes off the queue. The last one of it is another matter while blocks follow. -/
lemma does_readBytes (clocking : Clocking) (n : ℕ) {p : Protocol} (hcmd : p.cmdFrame = []) (hn : n ≤ p.txQueue.length)
    (hmore : p.multiblockActive = false ∨ n < p.txQueue.length) : Does Bus.At (readBytes clocking n) ⟨p, true, u⟩
      (p.txQueue.take n) ⟨{ p with txQueue := p.txQueue.drop n }, true, u⟩ := by
  induction n generalizing p with
  | zero => exact .pure _
  | succ n ih =>
    cases hqueue : p.txQueue with
    | nil =>
      rw [hqueue] at hn
      cases hn
    | cons value queue =>
      rw [hqueue, List.length_cons] at hn hmore
      have hpop : p.popByte.1 = value := by rw [Protocol.popByte, hqueue]
      have hfirst := does_transferByte (u := u) clocking p 0xFF
      have htail : p.txQueue.tail = queue := by rw [hqueue, List.tail_cons]
      have hqueued : p.multiblockActive = false ∨ p.txQueue.tail ≠ [] := by
        rw [htail]
        refine hmore.imp_right fun hlong hnil => ?_
        rw [hnil, List.length_nil] at hlong
        omega
      rw [hpop, exchange_ones hcmd hqueued, htail] at hfirst
      have hothers := ih (p := { p with txQueue := queue }) hcmd (Nat.le_of_succ_le_succ hn)
        (hmore.imp_right Nat.lt_of_succ_lt_succ)
      exact hfirst.bind (hothers.bind (.pure _))

lemma does_awaitResponse (clocking : Clocking) (hcmd : p.cmdFrame = []) (hqueue : p.txQueue = response :: rest)
    (hmore : p.multiblockActive = false ∨ rest ≠ []) (hresponse : response &&& 0x80 = 0) (retry : ℕ) :
    Does Bus.At (awaitResponse clocking (retry + 1)) ⟨p, true, u⟩ response ⟨{ p with txQueue := rest }, true, u⟩ := by
  have hpop : p.popByte.1 = response := by rw [Protocol.popByte, hqueue]
  have htail : p.txQueue.tail = rest := by rw [hqueue, List.tail_cons]
  have hfirst := does_transferByte (u := u) clocking p 0xFF
  rw [hpop, exchange_ones hcmd (by rw [htail]; exact hmore), htail] at hfirst
  refine hfirst.bind ?_
  rw [if_pos hresponse]
  exact .pure _

/-- A command to which the card answers. The answer is what the queue holds when the command has been taken. -/
lemma does_sendCommandCore (clocking : Clocking) (skipped : Blob) (hsent : (0xFF :: (commandFrame cmd argument ++
      [computeCrc7 (commandFrame cmd argument)])).foldl Protocol.exchange p = q)
    (hcmd : q.cmdFrame = []) (hqueue : q.txQueue = skipped ++ response :: rest) (hresponse : response &&& 0x80 = 0)
    (htail : n ≤ rest.length) (hmore : q.multiblockActive = false ∨ n < rest.length) :
    Does Bus.At (sendCommandCore clocking cmd argument n true skipped.length) ⟨p, selected, u⟩
      (response, rest.take n) ⟨{ q with txQueue := rest.drop n }, true, u⟩ := by
  rw [List.foldl_cons, List.foldl_append] at hsent
  have hskip := does_readBytes (u := u) clocking skipped.length hcmd (by rw [hqueue]; simp)
    (.inr (by rw [hqueue]; simp))
  rw [hqueue, List.take_left, List.drop_left] at hskip
  have hanswer := does_awaitResponse (p := { q with txQueue := response :: rest }) (u := u) clocking hcmd
    rfl (hmore.imp_right fun hlong hnil => by rw [hnil] at hlong; cases hlong) hresponse 15
  have hread := does_readBytes (p := { q with txQueue := rest }) (u := u) clocking n hcmd htail hmore
  rw [sendCommandCore]
  refine does_select.bind ((does_transferByte clocking _ 0xFF).discard.bind ((does_sendBytes _ _).bind ?_))
  refine (does_transferByte clocking _ _).discard.bind ?_
  rw [← hsent] at hskip hanswer hread ⊢
  exact hskip.discard.bind (hanswer.bind (hread.bind (.pure _)))

lemma sendCommandCore_deselecting (cmd : Byte) (argument : U32) (n skip : ℕ) :
    sendCommandCore clocking cmd argument n false skip = (do
      let r ← sendCommandCore clocking cmd argument n true skip
      deselect clocking
      return r) := by
  simp [sendCommandCore]

/-- A card that has nothing to send and nothing of a command, and reads no blocks. -/
structure Idle (p : Protocol) : Prop where
  cmdFrame : p.cmdFrame = []
  txQueue : p.txQueue = []
  pending : p.pendingMultiblockPoll = false
  active : p.multiblockActive = false

/-- The card when it has taken a command. -/
def Protocol.commanded (p : Protocol) (cmd : Byte) (argument : U32) : Protocol :=
  let frame := commandFrame cmd argument
  Protocol.processCommand { p with cmdFrame := frame ++ [computeCrc7 frame] }

lemma sent_command (cmd : Byte) (argument : U32) (hcmd : p.cmdFrame = [])
    (hmore : p.multiblockActive = false ∨ p.txQueue.tail ≠ []) (hstart : (0x40 ||| cmd) &&& 0xC0 = 0x40) :
    (commandFrame cmd argument ++ [computeCrc7 (commandFrame cmd argument)]).foldl Protocol.exchange p =
      Protocol.commanded { p with txQueue := p.txQueue.drop 6 } cmd argument := sent_frame hcmd hmore hstart

lemma Idle.sent (h : Idle p) (hstart : (0x40 ||| cmd) &&& 0xC0 = 0x40) :
    (0xFF :: (commandFrame cmd argument ++ [computeCrc7 (commandFrame cmd argument)])).foldl Protocol.exchange p =
      p.commanded cmd argument := by
  obtain ⟨hcmd, hqueue, -, hactive⟩ := h
  have hones : p.exchange 0xFF = p := by
    rw [exchange_ones hcmd (.inl hactive), hqueue, List.tail_nil, ← hqueue]
  rw [List.foldl_cons, hones, sent_command cmd argument hcmd (.inl hactive) hstart, hqueue, List.drop_nil, ← hqueue]

lemma Idle.does_deselect (clocking : Clocking) (h : Idle p) :
    Does Bus.At (deselect clocking) ⟨p, true, u⟩ ⟨⟩ ⟨p, false, u⟩ := by
  have hdeselect := Spi.does_deselect (u := u) clocking h.txQueue h.active
  rw [released_eq h.cmdFrame h.pending h.active] at hdeselect
  exact hdeselect

/-- A command that is over with its answer. -/
lemma Idle.does_sendCommand (clocking : Clocking) (h : Idle p) (hstart : (0x40 ||| cmd) &&& 0xC0 = 0x40)
    (hq : p.commanded cmd argument = { q with txQueue := response :: rest }) (hidle : Idle q)
    (hresponse : response &&& 0x80 = 0) : Does Bus.At (sendCommand clocking cmd argument rest.length false)
      ⟨p, selected, u⟩ (response, rest) ⟨q, false, u⟩ := by
  have hend : { q with txQueue := [] } = q := by rw [← hidle.txQueue]
  have hcore : Does Bus.At (sendCommandCore clocking cmd argument rest.length true 0) ⟨p, selected, u⟩
      (response, rest.take rest.length) ⟨{ q with txQueue := rest.drop rest.length }, true, u⟩ :=
    does_sendCommandCore (q := { q with txQueue := response :: rest }) clocking [] ((h.sent hstart).trans hq)
      hidle.cmdFrame rfl hresponse le_rfl (.inl hidle.active)
  rw [List.take_length, List.drop_length, hend] at hcore
  rw [sendCommand, sendCommandCore_deselecting]
  exact hcore.bind ((hidle.does_deselect clocking).bind (.pure _))

end Transactions

end Little64.Boot.Spi

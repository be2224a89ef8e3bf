import Little64.Boot.SpiCommands

/-! Stage 0 and the card together: what a read over SPI returns are the blocks of the image. -/

namespace Little64.Boot.Spi

open LittleEndian CheckedAccess ByteFile PatchedImage SimulatedPrograms

section Queues

variable {p : Protocol} {bytes : Blob} {image : Option Blob}

lemma queueByte_eq (value : Byte) (hroom : p.txQueue.length < 2047) :
    p.queueByte value = { p with txQueue := p.txQueue ++ [value] } := by
  rw [Protocol.queueByte, if_neg]
  rw [SPI_SDCARD_QUEUE_SIZE]
  omega

lemma queueBytes_eq (hroom : p.txQueue.length + bytes.length < 2048) :
    p.queueBytes bytes = { p with txQueue := p.txQueue ++ bytes } := by
  induction bytes generalizing p with
  | nil => rw [List.append_nil, Protocol.queueBytes, List.foldl_nil]
  | cons value bytes ih =>
    rw [List.length_cons] at hroom
    rw [Protocol.queueBytes, List.foldl_cons, queueByte_eq value (by omega)]
    refine (ih ?_).trans ?_
    · rw [List.length_append, List.length_singleton]
      omega
    · rw [List.append_assoc, List.singleton_append]

lemma loadBlock_length (image : Option Blob) (block : U32) : (Protocol.loadBlock image block).length = 512 := by
  rw [Protocol.loadBlock, List.length_append, List.length_replicate, part, List.length_take]
  omega

/-- A block on its way, behind what is in the queue already. -/
def offered (image : Option Blob) (block : U32) : Blob := 0xFE :: (Protocol.loadBlock image block ++ [0xFF, 0xFF])

lemma queueDataBlock_eq (block : U32) (hroom : p.txQueue.length < 512) :
    p.queueDataBlock block = { p with txQueue := p.txQueue ++ offered p.image block } := by
  have hbytes : p.queueDataBlock block = p.queueBytes (offered p.image block) := by
    rw [offered, Protocol.queueBytes, List.foldl_cons, List.foldl_append]
    rfl
  have hlength : (offered p.image block).length = 515 := by
    rw [offered, List.length_cons, List.length_append, loadBlock_length]
    rfl
  rw [hbytes, queueBytes_eq (by omega)]

/-- Inside an image that a 32-bit offset reaches, a block is its part of the image. -/
lemma loadBlock_image {image : Blob} {block : U32} (hinside : 512 * (block.toNat + 1) ≤ image.length)
    (hsize : image.length ≤ 2 ^ 32) : Protocol.loadBlock (some image) block = imageDisk image block := by
  have hoffset : (block * SPI_SDCARD_BLOCK_SIZE).toNat = 512 * block.toNat := by
    rw [SPI_SDCARD_BLOCK_SIZE, BitVec.toNat_mul]
    change block.toNat * 512 % 2 ^ 32 = _
    omega
  have hlength : (part image (512 * block.toNat) 512).length = 512 := by
    rw [part, List.length_take, List.length_drop]
    omega
  rw [Protocol.loadBlock, hoffset, imageDisk]
  simp only [Option.getD_some]
  rw [hlength, Nat.sub_self, List.replicate_zero, List.append_nil]

end Queues

section Answers

variable {p : Protocol} {cmd : Byte} {argument : U32}

lemma command_frame (p : Protocol) (cmd : Byte) (argument : U32) (crc : Blob) :
    Protocol.command { p with cmdFrame := commandFrame cmd argument ++ crc } = (0x40 ||| cmd) &&& 0x3F := rfl

/-- A byte of a register, put back in its place. -/
lemma byte_in_place (x : U32) (place k : ℕ) (hk : k < 32) :
    (((x >>> place).setWidth 8).setWidth 32 <<< place).getLsbD k =
      (decide (place ≤ k ∧ k < place + 8) && x.getLsbD k) := by
  by_cases hbelow : k < place
  · have h : ¬ (place ≤ k ∧ k < place + 8) := by omega
    simp [hbelow, h]
  · have hsum : place + (k - place) = k := by omega
    have hwidth : k - place < 8 ↔ k < place + 8 := by omega
    have hle : place ≤ k := by omega
    simp [hk, hbelow, hsum, hwidth, hle]

lemma argument_frame (p : Protocol) (cmd : Byte) (argument : U32) (crc : Blob) :
    Protocol.argument { p with cmdFrame := commandFrame cmd argument ++ crc } = argument := by
  have hlow : (argument.setWidth 8).setWidth 32 = ((argument >>> 0).setWidth 8).setWidth 32 <<< 0 := by
    rw [BitVec.ushiftRight_zero, BitVec.shiftLeft_zero]
  change ((argument >>> 24).setWidth 8).setWidth 32 <<< 24 ||| ((argument >>> 16).setWidth 8).setWidth 32 <<< 16 |||
    ((argument >>> 8).setWidth 8).setWidth 32 <<< 8 ||| (argument.setWidth 8).setWidth 32 = argument
  rw [hlow]
  apply BitVec.eq_of_getLsbD_eq
  intro k hk
  rw [BitVec.getLsbD_or, BitVec.getLsbD_or, BitVec.getLsbD_or, byte_in_place _ _ _ hk, byte_in_place _ _ _ hk,
    byte_in_place _ _ _ hk, byte_in_place _ _ _ hk, ← Bool.and_or_distrib_right, ← Bool.and_or_distrib_right,
    ← Bool.and_or_distrib_right]
  have hsome : (24 ≤ k ∧ k < 24 + 8) ∨ (16 ≤ k ∧ k < 16 + 8) ∨ (8 ≤ k ∧ k < 8 + 8) ∨ (0 ≤ k ∧ k < 0 + 8) := by omega
  simp only [← Bool.decide_or, or_assoc]
  rw [decide_eq_true hsome, Bool.true_and]

lemma Idle.commanded_0 (h : Idle p) :
    p.commanded 0 0 = { p with acmdPending := false, initialized := false, txQueue := [0x01] } := by
  obtain ⟨hcmd, hqueue, -, hactive⟩ := h
  simp only [Protocol.commanded, Protocol.processCommand, command_frame]
  simp [queueByte_eq, hcmd, hqueue, hactive]

lemma Idle.commanded_8 (h : Idle p) : p.commanded 8 0x000001AA = { p with txQueue := [0x01, 0x00, 0x00, 0x01, 0xAA] } := by
  obtain ⟨hcmd, hqueue, -, -⟩ := h
  simp only [Protocol.commanded, Protocol.processCommand, command_frame]
  simp [queueBytes_eq, hcmd, hqueue]

lemma Idle.commanded_55 (h : Idle p) : p.commanded 55 0 =
    { p with acmdPending := true, txQueue := [if p.initialized then 0x00 else 0x01] } := by
  obtain ⟨hcmd, hqueue, -, -⟩ := h
  simp only [Protocol.commanded, Protocol.processCommand, command_frame]
  simp [queueByte_eq, hcmd, hqueue]

lemma Idle.commanded_41 (h : Idle p) (hpending : p.acmdPending = true) : p.commanded 41 0x40000000 =
    { p with initialized := true, acmdPending := false, txQueue := [0x00] } := by
  obtain ⟨hcmd, hqueue, -, -⟩ := h
  simp only [Protocol.commanded, Protocol.processCommand, command_frame]
  simp [queueByte_eq, hcmd, hqueue, hpending]

lemma Idle.commanded_58 (h : Idle p) : p.commanded 58 0 =
    { p with usesBlockAddressing := true, txQueue := [0x00, 0x40, 0x00, 0x00, 0x00] } := by
  obtain ⟨hcmd, hqueue, -, -⟩ := h
  simp only [Protocol.commanded, Protocol.processCommand, command_frame]
  simp [queueBytes_eq, hcmd, hqueue]

/-- One block, behind the response. -/
lemma Idle.commanded_17 (h : Idle p) (hblocks : p.usesBlockAddressing = true) (block : U32) :
    p.commanded 17 block = { p with txQueue := 0x00 :: offered p.image block } := by
  obtain ⟨hcmd, hqueue, -, -⟩ := h
  simp only [Protocol.commanded, Protocol.processCommand, command_frame, argument_frame]
  simp [queueByte_eq, queueDataBlock_eq, Protocol.blockIndexForArg, hblocks, hcmd, hqueue]

/-- The first of many blocks. -/
lemma Idle.commanded_18 (h : Idle p) (hblocks : p.usesBlockAddressing = true) (block : U32) : p.commanded 18 block =
    { p with
      txQueue := 0x00 :: offered p.image block
      multiblockActive := true
      multiblockNextBlock := block + 1 } := by
  obtain ⟨hcmd, hqueue, hpending, -⟩ := h
  simp only [Protocol.commanded, Protocol.processCommand, command_frame, argument_frame]
  simp [queueByte_eq, queueDataBlock_eq, Protocol.blockIndexForArg, hblocks, hcmd, hqueue, hpending]

/-- The end of a read: what is on its way is forgotten. -/
lemma commanded_12 (p : Protocol) : p.commanded 12 0 =
    { p with
      cmdFrame := []
      txQueue := [0xFF, 0x00]
      pendingMultiblockPoll := false
      multiblockActive := false } := by
  simp only [Protocol.commanded, Protocol.processCommand, command_frame]
  simp [queueBytes_eq]

end Answers

section Initialization

variable {clocking : Clocking} {image : Option Blob}

lemma powerOn_at (image : Option Blob) : (Bus.powerOn image).At ⟨.powerOn image, false, false⟩ := by
  have hreleased : Released (Session.powerOn image) (.powerOn image) := ⟨rfl, rfl, rfl, rfl⟩
  exact ⟨rfl, rfl, hreleased.rest, .inr hreleased⟩

/-- The card when stage 0 has found out about it. -/
def Protocol.known (image : Option Blob) : Protocol :=
  { Protocol.powerOn image with initialized := true, usesBlockAddressing := true }

lemma does_initialize (clocking : Clocking) (image : Option Blob) :
    Does Bus.At (sdcardInitializeOrFail clocking) ⟨.powerOn image, false, false⟩ ⟨⟩ ⟨.known image, false, true⟩ := by
  have hanswers : ∀ {p q : Protocol} {cmd : Byte} {argument : U32} (response : Byte) (rest : Blob), Idle p → Idle q →
      (0x40 ||| cmd) &&& 0xC0 = 0x40 → response &&& 0x80 = 0 →
      p.commanded cmd argument = { q with txQueue := response :: rest } →
      Does Bus.At (sendCommand clocking cmd argument rest.length false) ⟨p, false, false⟩ (response, rest)
        ⟨q, false, false⟩ := fun _ _ hp hq hstart hresponse h => hp.does_sendCommand clocking hstart h hq hresponse
  have hon : Idle (.powerOn image) := ⟨rfl, rfl, rfl, rfl⟩
  have happ : Idle { Protocol.powerOn image with acmdPending := true } := ⟨rfl, rfl, rfl, rfl⟩
  have hready : Idle { Protocol.powerOn image with initialized := true } := ⟨rfl, rfl, rfl, rfl⟩
  have hknown : Idle (.known image) := ⟨rfl, rfl, rfl, rfl⟩
  have hreset := hanswers 0x01 [] hon hon (by decide) (by decide) hon.commanded_0
  have hcheck := hanswers 0x01 [0x00, 0x00, 0x01, 0xAA] hon hon (by decide) (by decide) hon.commanded_8
  have hnext := hanswers 0x01 [] hon happ (by decide) (by decide) hon.commanded_55
  have hstart := hanswers 0x00 [] happ hready (by decide) (by decide) (happ.commanded_41 rfl)
  have hconditions := hanswers 0x00 [0x40, 0x00, 0x00, 0x00] hready hknown (by decide) (by decide) hready.commanded_58
  rw [sdcardInitializeOrFail]
  refine does_setCs.bind ((does_sendReleased _).bind ?_)
  have hreset' : Does Bus.At (resetCard clocking 16) ⟨.powerOn image, false, false⟩ ⟨⟩ ⟨.powerOn image, false, false⟩ :=
    hreset.bind (.pure _)
  have hstart' : Does Bus.At (startCard clocking 1000) ⟨.powerOn image, false, false⟩ ⟨⟩
      ⟨{ Protocol.powerOn image with initialized := true }, false, false⟩ := by
    refine hnext.bind ?_
    refine hstart.bind ?_
    exact .pure _
  refine hreset'.bind (hcheck.bind ?_)
  refine hstart'.bind (hconditions.bind ?_)
  have hknows : Does Bus.At (modify fun b => { b with usesBlockAddressing := true } : Driver Unit)
      ⟨.known image, false, false⟩ ⟨⟩ ⟨.known image, false, true⟩ := by
    apply Does.modify
    rintro b ⟨hcs, -, hrest, haware⟩
    exact ⟨hcs, rfl, hrest, haware⟩
  exact hknows.bind (.pure _)

end Initialization

section Blocks

variable {clocking : Clocking} {wide u : Bool} {p : Protocol} {value : Byte} {rest : Blob} {block : U32}

lemma exchange_queued (hcmd : p.cmdFrame = []) (hrest : rest ≠ []) :
    Protocol.exchange { p with txQueue := value :: rest } 0xFF = { p with txQueue := rest } :=
  exchange_ones (p := { p with txQueue := value :: rest }) hcmd (.inr hrest)

/-- With the last byte of a block the card knows whether the host goes on. -/
lemma exchange_end (hcmd : p.cmdFrame = []) (hpending : p.pendingMultiblockPoll = false) :
    Protocol.exchange { p with txQueue := [value] } 0xFF =
      { p with txQueue := [], pendingMultiblockPoll := p.multiblockActive } := by
  rcases Bool.eq_false_or_eq_true p.multiblockActive with hactive | hactive
  · change Protocol.received { p with txQueue := [] } 0xFF = _
    simp [Protocol.received, Protocol.poll, hcmd, hpending, hactive]
  · refine (exchange_ones (p := { p with txQueue := [value] }) hcmd (.inl hactive)).trans ?_
    rw [hactive, ← hpending]
    rfl

lemma does_readWords (words : ℕ) {queue : Blob} (hcmd : p.cmdFrame = []) (hn : 4 * words < queue.length) :
    Does Bus.At (readWords clocking words) ⟨{ p with txQueue := queue }, true, u⟩ (queue.take (4 * words))
      ⟨{ p with txQueue := queue.drop (4 * words) }, true, u⟩ := by
  induction words generalizing queue with
  | zero => exact .pure _
  | succ words ih =>
    obtain ⟨b0, b1, b2, b3, rest, rfl⟩ : ∃ b0 b1 b2 b3 rest, queue = b0 :: b1 :: b2 :: b3 :: rest := by
      match queue with
      | b0 :: b1 :: b2 :: b3 :: rest => exact ⟨b0, b1, b2, b3, rest, rfl⟩
      | [] | [_] => simp at hn
      | [_, _] | [_, _, _] =>
        simp at hn
        omega
    have hleft : 4 * words < rest.length := by
      simp only [List.length_cons] at hn
      omega
    obtain ⟨word, hword, hbytes⟩ := does_transferWord (u := u) clocking
      { p with txQueue := b0 :: b1 :: b2 :: b3 :: rest }
    have hrest : rest ≠ [] := List.ne_nil_of_length_pos (by omega)
    rw [exchange_queued hcmd (List.cons_ne_nil _ _), exchange_queued hcmd (List.cons_ne_nil _ _),
      exchange_queued hcmd (List.cons_ne_nil _ _)] at hword hbytes
    rw [exchange_queued hcmd hrest] at hword
    refine hword.bind ((ih hleft).bind ?_)
    rw [hbytes]
    exact .pure _

/-- Words or bytes, the data are the same. -/
lemma does_readDataBytes (clocking : Clocking) (wide : Bool) (queue : Blob) (hcmd : p.cmdFrame = [])
    (hn : 512 < queue.length) :
    Does Bus.At (readDataBytes clocking wide 512) ⟨{ p with txQueue := queue }, true, u⟩ (queue.take 512)
      ⟨{ p with txQueue := queue.drop 512 }, true, u⟩ := by
  cases wide with
  | false => exact does_readBytes (p := { p with txQueue := queue }) clocking 512 hcmd hn.le (.inr hn)
  | true =>
    refine (does_readWords 128 hcmd hn).bind (Does.bind (Does.pure []) ?_)
    rw [List.append_nil]
    exact .pure _

lemma does_waitForDataTokenFrom (clocking : Clocking) (rest : Blob) (hcmd : p.cmdFrame = []) (hrest : rest ≠ [])
    (timeout : ℕ) :
    Does Bus.At (waitForDataTokenFrom clocking (timeout + 1)) ⟨{ p with txQueue := 0xFE :: rest }, true, u⟩ ⟨⟩
      ⟨{ p with txQueue := rest }, true, u⟩ := by
  have hfirst := does_transferByte (u := u) clocking { p with txQueue := 0xFE :: rest } 0xFF
  rw [exchange_queued hcmd hrest] at hfirst
  exact hfirst.bind (.pure _)

/-- What is left of a block when the token is there. -/
lemma does_payload (clocking : Clocking) (wide : Bool) (hcmd : p.cmdFrame = [])
    (hpending : p.pendingMultiblockPoll = false) (block : U32) :
    Does Bus.At (do
        let data ← readDataBytes clocking wide 512
        discard (transferByte clocking 0xFF)
        discard (transferByte clocking 0xFF)
        return data)
      ⟨{ p with txQueue := Protocol.loadBlock p.image block ++ [0xFF, 0xFF] }, true, u⟩ (Protocol.loadBlock p.image block)
      ⟨{ p with txQueue := [], pendingMultiblockPoll := p.multiblockActive }, true, u⟩ := by
  have hlength := loadBlock_length p.image block
  have hdata := does_readDataBytes (p := p) (u := u) clocking wide (Protocol.loadBlock p.image block ++ [0xFF, 0xFF]) hcmd
    (by simp [hlength])
  rw [List.take_left' hlength, List.drop_left' hlength] at hdata
  have hcrc := does_transferByte (u := u) clocking { p with txQueue := [0xFF, 0xFF] } 0xFF
  rw [exchange_queued hcmd (List.cons_ne_nil _ _)] at hcrc
  have hend := does_transferByte (u := u) clocking { p with txQueue := [0xFF] } 0xFF
  rw [exchange_end hcmd hpending] at hend
  exact hdata.bind (hcrc.discard.bind (hend.discard.bind (.pure _)))

lemma does_readDataBlockPayload (hcmd : p.cmdFrame = []) (hpending : p.pendingMultiblockPoll = false) (block : U32) :
    Does Bus.At (readDataBlockPayload clocking wide) ⟨{ p with txQueue := offered p.image block }, true, u⟩
      (Protocol.loadBlock p.image block)
      ⟨{ p with txQueue := [], pendingMultiblockPoll := p.multiblockActive }, true, u⟩ := by
  have htoken := does_waitForDataTokenFrom (u := u) clocking (Protocol.loadBlock p.image block ++ [0xFF, 0xFF]) hcmd
    (by simp) 999999
  exact htoken.bind (does_payload clocking wide hcmd hpending block)

end Blocks

section Runs

variable {clocking : Clocking} {wide u selected : Bool} {p : Protocol}

/-- A card of which more is expected when a block has been read. -/
structure Asked (p : Protocol) : Prop where
  cmdFrame : p.cmdFrame = []
  txQueue : p.txQueue = []
  pending : p.pendingMultiblockPoll = true
  active : p.multiblockActive = true

/-- When the host goes on, the next block is queued. -/
lemma Asked.exchange (h : Asked p) : p.exchange 0xFF =
    { p with
      txQueue := offered p.image p.multiblockNextBlock
      pendingMultiblockPoll := false
      multiblockNextBlock := p.multiblockNextBlock + 1 } := by
  obtain ⟨hcmd, hqueue, hpending, hactive⟩ := h
  rw [Protocol.exchange, popByte_of_empty hqueue]
  simp [Protocol.received, Protocol.poll, queueDataBlock_eq, hcmd, hqueue, hpending, hactive]

lemma block_succ (lba : U32) (k : ℕ) : lba + BitVec.ofNat 32 (k + 1) = lba + 1 + BitVec.ofNat 32 k := by
  rw [Nat.add_comm k 1, BitVec.ofNat_add, BitVec.add_assoc]
  rfl

lemma readBlocksContiguous_succ (disk : Disk) (lba : U32) (count : ℕ) :
    readBlocksContiguous disk lba (count + 1) = disk lba ++ readBlocksContiguous disk (lba + 1) count := by
  have hfirst : lba + BitVec.ofNat 32 0 = lba := BitVec.add_zero lba
  rw [readBlocksContiguous, readBlocksContiguous, List.range_succ_eq_map, List.flatMap_cons, List.flatMap_map, hfirst]
  simp only [block_succ]

lemma Asked.next (h : Asked p) : Asked { p with multiblockNextBlock := p.multiblockNextBlock + 1 } :=
  ⟨h.cmdFrame, h.txQueue, h.pending, h.active⟩

lemma Asked.does_readDataBlockPayload (h : Asked p) :
    Does Bus.At (readDataBlockPayload clocking wide) ⟨p, true, u⟩ (Protocol.loadBlock p.image p.multiblockNextBlock)
      ⟨{ p with multiblockNextBlock := p.multiblockNextBlock + 1 }, true, u⟩ := by
  have hask := does_transferByte (u := u) clocking p 0xFF
  rw [h.exchange, popByte_of_empty h.txQueue] at hask
  have htoken := does_waitForDataTokenFrom (u := u)
    (p := { p with pendingMultiblockPoll := false, multiblockNextBlock := p.multiblockNextBlock + 1 })
    clocking (Protocol.loadBlock p.image p.multiblockNextBlock ++ [0xFF, 0xFF]) h.cmdFrame (by simp) 999998
  have hdata := does_payload (u := u)
    (p := { p with pendingMultiblockPoll := false, multiblockNextBlock := p.multiblockNextBlock + 1 })
    clocking wide h.cmdFrame rfl p.multiblockNextBlock
  have hend : { p with
      txQueue := []
      pendingMultiblockPoll := p.multiblockActive
      multiblockNextBlock := p.multiblockNextBlock + 1 } =
      { p with multiblockNextBlock := p.multiblockNextBlock + 1 } := by
    rw [h.active, ← h.txQueue, ← h.pending]
  have hread : Does Bus.At (readDataBlockPayload clocking wide) ⟨p, true, u⟩ _ _ := (hask.bind htoken).bind hdata
  simp only [hend] at hread
  exact hread

lemma Asked.does_readPayloads (clocking : Clocking) (wide : Bool) (blocks : ℕ) {p : Protocol} (h : Asked p) :
    Does Bus.At (readPayloads clocking wide blocks) ⟨p, true, u⟩
      (readBlocksContiguous (Protocol.loadBlock p.image) p.multiblockNextBlock blocks)
      ⟨{ p with multiblockNextBlock := p.multiblockNextBlock + BitVec.ofNat 32 blocks }, true, u⟩ := by
  induction blocks generalizing p with
  | zero =>
    rw [BitVec.add_zero]
    exact .pure _
  | succ blocks ih =>
    have hothers := ih h.next
    simp only at hothers
    rw [← block_succ] at hothers
    rw [readBlocksContiguous_succ]
    exact h.does_readDataBlockPayload.bind (hothers.bind (.pure _))

/-- The command that ends a read comes when the next block is already on its way. -/
lemma Asked.sent_stop (h : Asked p) :
    (0xFF :: (commandFrame 12 0 ++ [computeCrc7 (commandFrame 12 0)])).foldl Protocol.exchange p =
      { p with
        txQueue := [0xFF, 0x00]
        pendingMultiblockPoll := false
        multiblockActive := false
        multiblockNextBlock := p.multiblockNextBlock + 1 } := by
  have hframe := sent_command (p := p.exchange 0xFF) 12 0
  rw [List.foldl_cons]
  rw [h.exchange] at hframe ⊢
  rw [hframe h.cmdFrame (.inr (by simp [offered])) (by decide), commanded_12, h.cmdFrame]

/-- A card that has been initialized and is between two reads. -/
structure Ready (p : Protocol) : Prop extends Idle p where
  usesBlockAddressing : p.usesBlockAddressing = true

variable {start : U32}

lemma Idle.does_waitNotBusy (clocking : Clocking) (h : Idle p) :
    Does Bus.At (waitNotBusy clocking) ⟨p, true, u⟩ ⟨⟩ ⟨p, true, u⟩ := by
  have hones := does_transferByte (u := u) clocking p 0xFF
  have hsame : p.exchange 0xFF = p := by
    rw [exchange_ones h.cmdFrame (.inl h.active), h.txQueue, List.tail_nil, ← h.txQueue]
  rw [hsame, popByte_of_empty h.txQueue] at hones
  exact hones.bind (.pure _)

/-- A command that announces blocks, up to the first of them. -/
lemma Ready.does_readCommand (clocking : Clocking) (cmd : Byte) (h : Ready p) {q : Protocol}
    (hstart : (0x40 ||| cmd) &&& 0xC0 = 0x40)
    (hq : p.commanded cmd start = { q with txQueue := 0x00 :: offered p.image start }) (hcmd : q.cmdFrame = []) :
    Does Bus.At (sendCommand clocking cmd start 0 true) ⟨p, false, u⟩ (0x00, [])
      ⟨{ q with txQueue := offered p.image start }, true, u⟩ :=
  does_sendCommandCore (q := { q with txQueue := 0x00 :: offered p.image start }) clocking []
    ((h.toIdle.sent hstart).trans hq) hcmd rfl (by decide) (Nat.zero_le _) (.inr (Nat.zero_lt_succ _))

/-- Stage 0 asks for what it has found out: the card counts in blocks. -/
lemma argument_eq {b : Bus} {selected : Bool} (hb : b.At ⟨p, selected, true⟩) :
    (if b.usesBlockAddressing = true then start else start * SD_BLOCK_SIZE) = start := if_pos hb.usesBlockAddressing

lemma Idle.read (h : Idle p) : { p with txQueue := [], pendingMultiblockPoll := p.multiblockActive } = p := by
  obtain ⟨-, hqueue, hpending, hactive⟩ := h
  cases p
  simp_all only

lemma Ready.does_readBlock (h : Ready p) : Does Bus.At (spiReadBlocksContiguous clocking wide start 1)
    ⟨p, false, true⟩ (Protocol.loadBlock p.image start) ⟨p, false, true⟩ := by
  have hcommand : Does Bus.At (sendCommand clocking 17 start 0 true) ⟨p, false, true⟩ (0x00, [])
      ⟨{ p with txQueue := offered p.image start }, true, true⟩ :=
    h.does_readCommand clocking 17 (by decide) (h.toIdle.commanded_17 h.usesBlockAddressing start) h.cmdFrame
  have hdata : Does Bus.At (readDataBlockPayload clocking wide)
      ⟨{ p with txQueue := offered p.image start }, true, true⟩ (Protocol.loadBlock p.image start)
      ⟨{ p with txQueue := [], pendingMultiblockPoll := p.multiblockActive }, true, true⟩ :=
    does_readDataBlockPayload h.cmdFrame h.pending start
  rw [h.toIdle.read] at hdata
  rw [spiReadBlocksContiguous]
  refine Does.get fun b hb => ?_
  rw [argument_eq hb]
  refine hcommand.bind (hdata.bind ((h.toIdle.does_deselect clocking).bind ?_)) b hb
  exact .pure _

/-- The card when a longer read has ended. -/
lemma Asked.does_sendStopCommand (h : Asked p) : Does Bus.At (sendStopCommand clocking) ⟨p, true, u⟩ 0x00
    ⟨{ p with
      txQueue := []
      pendingMultiblockPoll := false
      multiblockActive := false
      multiblockNextBlock := p.multiblockNextBlock + 1 }, true, u⟩ := by
  refine Does.bind (does_sendCommandCore (n := 0) clocking [0xFF] h.sent_stop h.cmdFrame rfl (by decide) le_rfl
    (.inl rfl)) ?_
  exact .pure _

/-- The blocks of a longer read: the first one comes with the answer, the others are asked for. -/
lemma does_readPayloads (clocking : Clocking) (wide : Bool) (blocks : ℕ) (hcmd : p.cmdFrame = [])
    (hpending : p.pendingMultiblockPoll = false) (hactive : p.multiblockActive = true)
    (hnext : p.multiblockNextBlock = start + 1) :
    ∃ q, Asked q ∧ q.image = p.image ∧ q.usesBlockAddressing = p.usesBlockAddressing ∧
      Does Bus.At (readPayloads clocking wide (blocks + 1)) ⟨{ p with txQueue := offered p.image start }, true, u⟩
        (readBlocksContiguous (Protocol.loadBlock p.image) start (blocks + 1)) ⟨q, true, u⟩ := by
  have hfirst : Does Bus.At (readDataBlockPayload clocking wide)
      ⟨{ p with txQueue := offered p.image start }, true, u⟩ _ _ := does_readDataBlockPayload hcmd hpending start
  have hasked : Asked { p with txQueue := [], pendingMultiblockPoll := p.multiblockActive } := ⟨hcmd, rfl, hactive, hactive⟩
  have hothers := hasked.does_readPayloads (u := u) clocking wide blocks
  refine ⟨{ p with
    txQueue := []
    pendingMultiblockPoll := p.multiblockActive
    multiblockNextBlock := p.multiblockNextBlock + BitVec.ofNat 32 blocks }, ⟨hcmd, rfl, hactive, hactive⟩, rfl, rfl, ?_⟩
  rw [readBlocksContiguous_succ, ← hnext]
  exact hfirst.bind (hothers.bind (.pure _))

/-- More than one block. -/
lemma Ready.does_readBlocks (h : Ready p) {count : U32} (hzero : count ≠ 0) (hone : count ≠ 1) :
    ∃ q, Ready q ∧ q.image = p.image ∧ Does Bus.At (spiReadBlocksContiguous clocking wide start count) ⟨p, false, true⟩
      (readBlocksContiguous (Protocol.loadBlock p.image) start count.toNat) ⟨q, false, true⟩ := by
  obtain ⟨blocks, hblocks⟩ : ∃ blocks, count.toNat = blocks + 1 := by
    refine Nat.exists_eq_succ_of_ne_zero fun h => hzero ?_
    exact BitVec.eq_of_toNat_eq h
  have hcommand := h.does_readCommand (u := true)
    (q := { p with multiblockActive := true, multiblockNextBlock := start + 1 }) clocking 18 (by decide)
    (h.toIdle.commanded_18 h.usesBlockAddressing start) h.cmdFrame
  obtain ⟨q, hasked, himage, haddressing, hpayloads⟩ := does_readPayloads (u := true)
    (p := { p with multiblockActive := true, multiblockNextBlock := start + 1 })
    clocking wide blocks h.cmdFrame h.pending rfl rfl
  have hstopped : Idle { q with
    txQueue := []
    pendingMultiblockPoll := false
    multiblockActive := false
    multiblockNextBlock := q.multiblockNextBlock + 1 } := ⟨hasked.cmdFrame, rfl, rfl, rfl⟩
  refine ⟨_, ⟨hstopped, haddressing.trans h.usesBlockAddressing⟩, himage, ?_⟩
  rw [spiReadBlocksContiguous, hblocks]
  refine Does.get fun b hb => ?_
  rw [argument_eq hb, if_neg hzero, if_neg hone]
  refine hcommand.bind (hpayloads.bind (hasked.does_sendStopCommand.bind ?_)) b hb
  refine (hstopped.does_waitNotBusy clocking).bind ((hstopped.does_deselect clocking).bind ?_)
  exact .pure _

lemma Ready.does_read (h : Ready p) (start count : U32) :
    ∃ q, Ready q ∧ q.image = p.image ∧ Does Bus.At (spiReadBlocksContiguous clocking wide start count) ⟨p, false, true⟩
      (readBlocksContiguous (Protocol.loadBlock p.image) start count.toNat) ⟨q, false, true⟩ := by
  by_cases hzero : count = 0
  · refine ⟨p, h, rfl, ?_⟩
    rw [hzero, spiReadBlocksContiguous]
    exact Does.get fun b hb => ⟨b, rfl, hb⟩
  by_cases hone : count = 1
  · refine ⟨p, h, rfl, ?_⟩
    have hblock : readBlocksContiguous (Protocol.loadBlock p.image) start 1 = Protocol.loadBlock p.image start := by
      rw [readBlocksContiguous_succ]
      exact List.append_nil _
    rw [hone]
    change Does Bus.At _ _ (readBlocksContiguous (Protocol.loadBlock p.image) start 1) _
    rw [hblock]
    exact h.does_readBlock
  exact h.does_readBlocks hzero hone

lemma Ready.does_reads (clocking : Clocking) (wide : Bool) (requests : List (U32 × U32)) {p : Protocol} (h : Ready p) :
    ∃ q, Does Bus.At (requests.mapM fun r => spiReadBlocksContiguous clocking wide r.1 r.2) ⟨p, false, true⟩
      (requests.map fun r => readBlocksContiguous (Protocol.loadBlock p.image) r.1 r.2.toNat) ⟨q, false, true⟩ := by
  induction requests generalizing p with
  | nil => exact ⟨p, .pure _⟩
  | cons request requests ih =>
    obtain ⟨q, hq, himage, hread⟩ := h.does_read request.1 request.2
    obtain ⟨q', hreads⟩ := ih hq
    rw [himage] at hreads
    rw [List.mapM_cons, List.map_cons]
    exact ⟨q', hread.bind (hreads.bind (.pure _))⟩

lemma readBlocksContiguous_image {file : Blob} (hsize : file.length ≤ 2 ^ 32) (start : U32) (count : ℕ)
    (hinside : 512 * (start.toNat + count) ≤ file.length) :
    readBlocksContiguous (Protocol.loadBlock (some file)) start count = part file (512 * start.toNat) (512 * count) := by
  induction count generalizing start with
  | zero => rfl
  | succ count ih =>
    have hnext : (start + 1).toNat = start.toNat + 1 := by
      rw [BitVec.toNat_add]
      change (start.toNat + 1) % 2 ^ 32 = _
      omega
    have hothers := ih (start + 1) (by omega)
    rw [hnext, Nat.mul_succ] at hothers
    rw [readBlocksContiguous_succ, loadBlock_image (by omega) hsize, imageDisk, hothers, part_append, Nat.mul_succ,
      Nat.add_comm]

end Runs

end Little64.Boot.Spi

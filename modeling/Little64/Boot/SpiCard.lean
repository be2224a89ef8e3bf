import Little64.Boot.Stage0Fat32

/-! The SPI SD card of the simulation: a card that reads its sectors from an image file, one tick of the system clock
after the other. -/

namespace Little64.Boot.Spi

open LittleEndian CheckedAccess ByteFile PatchedImage

def SPI_SDCARD_BLOCK_SIZE : U32 := 512
def SPI_SDCARD_QUEUE_SIZE : ℕ := 2048

/-- What the card knows of its commands, and the bytes that it still has to send. -/
structure Protocol where
  image : Option Blob
  cmdFrame : List Byte
  txQueue : List Byte
  acmdPending : Bool
  initialized : Bool
  usesBlockAddressing : Bool
  pendingMultiblockPoll : Bool
  multiblockActive : Bool
  multiblockNextBlock : U32

namespace Protocol

def powerOn (image : Option Blob) : Protocol where
  image := image
  cmdFrame := []
  txQueue := []
  acmdPending := false
  initialized := false
  usesBlockAddressing := false
  pendingMultiblockPoll := false
  multiblockActive := false
  multiblockNextBlock := 0

/-- The ring buffer keeps a place free, and drops what does not fit. -/
def queueByte (p : Protocol) (value : Byte) : Protocol :=
  if p.txQueue.length + 1 = SPI_SDCARD_QUEUE_SIZE then p else { p with txQueue := p.txQueue ++ [value] }

def queueBytes (p : Protocol) (bytes : List Byte) : Protocol := bytes.foldl queueByte p

/-- An empty queue sends ones. -/
def popByte (p : Protocol) : Byte × Protocol :=
  match p.txQueue with
  | [] => (0xFF, p)
  | value :: rest => (value, { p with txQueue := rest })

/-- The offset is computed in 32 bits; what lies behind the end of the file, or in none, is zero. -/
def loadBlock (image : Option Blob) (blockIndex : U32) : Blob :=
  let read := part (image.getD []) (blockIndex * SPI_SDCARD_BLOCK_SIZE).toNat 512
  read ++ List.replicate (512 - read.length) 0

def queueDataBlock (p : Protocol) (blockIndex : U32) : Protocol :=
  (((p.queueByte 0xFE).queueBytes (loadBlock p.image blockIndex)).queueByte 0xFF).queueByte 0xFF

def blockIndexForArg (p : Protocol) (argument : U32) : U32 :=
  if p.usesBlockAddressing then argument else argument / SPI_SDCARD_BLOCK_SIZE

def command (p : Protocol) : Byte := p.cmdFrame.getD 0 0 &&& 0x3F

def argument (p : Protocol) : U32 :=
  (p.cmdFrame.getD 1 0).setWidth 32 <<< 24 ||| (p.cmdFrame.getD 2 0).setWidth 32 <<< 16 |||
    (p.cmdFrame.getD 3 0).setWidth 32 <<< 8 ||| (p.cmdFrame.getD 4 0).setWidth 32

def processCommand (q : Protocol) : Protocol :=
  let cmd := q.command
  let argument := q.argument
  let p := { q with cmdFrame := [] }
  if cmd = 0 then { p with acmdPending := false, initialized := false, multiblockActive := false }.queueByte 0x01
  else if cmd = 8 then p.queueBytes [0x01, 0x00, 0x00, 0x01, 0xAA]
  else if cmd = 12 then
    { p with multiblockActive := false, pendingMultiblockPoll := false, txQueue := [] }.queueBytes [0xFF, 0x00]
  else if cmd = 16 then p.queueByte 0x00
  else if cmd = 17 then (p.queueByte 0x00).queueDataBlock (p.blockIndexForArg argument)
  else if cmd = 18 then
    let p := { p with
      multiblockActive := true
      pendingMultiblockPoll := false
      multiblockNextBlock := p.blockIndexForArg argument }
    let p := (p.queueByte 0x00).queueDataBlock p.multiblockNextBlock
    { p with multiblockNextBlock := p.multiblockNextBlock + 1 }
  else if cmd = 55 then { p with acmdPending := true }.queueByte (if p.initialized then 0x00 else 0x01)
  else if cmd = 58 then { p with usesBlockAddressing := true }.queueBytes [0x00, 0x40, 0x00, 0x00, 0x00]
  else if cmd = 41 then
    if p.acmdPending then { p with initialized := true, acmdPending := false }.queueByte 0x00 else p.queueByte 0x04
  else p.queueByte 0x04

/-- What a byte does that is taken as part of a command; the command is processed when it has its six bytes. -/
def collect (p : Protocol) (byte : Byte) : Protocol × Bool :=
  if p.cmdFrame = [] then
    if byte &&& 0xC0 = 0x40 then ({ p with cmdFrame := [byte] }, false) else (p, false)
  else
    let p := { p with cmdFrame := p.cmdFrame ++ [byte] }
    (p, decide (p.cmdFrame.length = 6))

/-- Between the blocks of a longer read the next one is queued when the host goes on asking. -/
def poll (p : Protocol) (byte : Byte) : Protocol × Bool :=
  if p.multiblockActive ∧ p.txQueue = [] ∧ p.cmdFrame = [] then
    if p.pendingMultiblockPoll then
      let p := { p with pendingMultiblockPoll := false }
      if byte = 0x4C then ({ p with cmdFrame := [byte] }, true)
      else
        let p := p.queueDataBlock p.multiblockNextBlock
        ({ p with multiblockNextBlock := p.multiblockNextBlock + 1 }, decide (byte = 0xFF))
    else if byte = 0xFF then ({ p with pendingMultiblockPoll := true }, true)
    else (p, false)
  else (p, false)

end Protocol

/-- The lines to the card. -/
structure Pins where
  csN : Bool
  clk : Bool
  mosi : Bool
  deriving DecidableEq, Repr

/-- The card, with the shift registers to and from the lines, and the clock as it was last seen. -/
structure Session extends Protocol where
  selected : Bool
  rxByte : Byte
  rxBits : ℕ
  txByte : Byte
  txBitIndex : ℕ
  txLoaded : Bool
  spiEdge : Bool
  miso : Bool

namespace Session

def powerOn (image : Option Blob) : Session where
  toProtocol := .powerOn image
  selected := false
  rxByte := 0
  rxBits := 0
  txByte := 0
  txBitIndex := 0
  txLoaded := false
  spiEdge := false
  miso := true

def resetSelection (s : Session) : Session :=
  { s with
    selected := false, cmdFrame := [], rxByte := 0, rxBits := 0, pendingMultiblockPoll := false, txLoaded := false
    txBitIndex := 0, miso := true }

/-- The next byte is taken when the last one has been sent. -/
def load (s : Session) : Session :=
  if s.txLoaded = false ∨ 8 ≤ s.txBitIndex then
    { s with toProtocol := s.popByte.2, txByte := s.popByte.1, txLoaded := true, txBitIndex := 0 }
  else s

/-- The bit that the card puts on the line while the clock is low. -/
def prepareMiso (s : Session) : Session :=
  let s := s.load
  { s with miso := s.txByte.getMsbD s.txBitIndex }

/-- The command that ends a longer read throws away the byte that is being sent. -/
def processCommand (s : Session) : Session :=
  let t : Session := { s with toProtocol := s.toProtocol.processCommand }
  if s.command = 12 then { t with txLoaded := false, txBitIndex := 0 } else t

def handleReceivedByte (s : Session) (byte : Byte) : Session :=
  let polled := s.poll byte
  if polled.2 then { s with toProtocol := polled.1 }
  else
    let collected := polled.1.collect byte
    let s : Session := { s with toProtocol := collected.1 }
    if collected.2 then s.processCommand else s

def takeBit (s : Session) (mosi : Bool) : Session :=
  { s with rxByte := s.rxByte <<< 1 ||| (BitVec.ofBool mosi).setWidth 8, rxBits := s.rxBits + 1 }

def bitSent (s : Session) : Session :=
  if s.txLoaded = true ∧ s.txBitIndex < 8 then
    let s : Session := { s with txBitIndex := s.txBitIndex + 1 }
    if 8 ≤ s.txBitIndex then { s with txLoaded := false } else s
  else s

/-- What the card does with a bit when the clock rises. -/
def shift (s : Session) (mosi : Bool) : Session :=
  let s := (s.takeBit mosi).bitSent
  if s.rxBits = 8 then { s.handleReceivedByte s.rxByte with rxByte := 0, rxBits := 0 } else s

/-- A card that is not selected. -/
def release (s : Session) : Session :=
  let s : Session := if s.selected then { s.resetSelection with multiblockActive := false } else s
  { s with miso := true }

/-- A selected card forgets what it had of a byte when it was not. -/
def wake (s : Session) : Session := if s.selected then s else { s.resetSelection with selected := true }

/-- The clock as it is now, and as it was seen last. -/
def edge (clk mosi : Bool) (s : Session) : Session :=
  let rising := clk && !s.spiEdge
  let s : Session := { s with spiEdge := clk }
  if rising then s.shift mosi else s

/-- A rising edge of the system clock. -/
def tick (pins : Pins) (s : Session) : Session :=
  if pins.csN then s.release
  else
    let s := s.wake
    let s := if pins.clk then s else s.prepareMiso
    let s := s.edge pins.clk pins.mosi
    if pins.clk then s else s.prepareMiso

end Session

end Little64.Boot.Spi

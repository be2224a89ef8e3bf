import Little64.Boot.SpiCard

/-! How stage 0 reads an SD card over SPI: bits on the lines, bytes made of them, commands and blocks. -/

namespace Little64.Boot.Spi

open LittleEndian CheckedAccess ByteFile PatchedImage

/-- How many more ticks than one the clock stays low before a bit and high after it, and how many it stays low before the
card is given up. They may be different for every bit. -/
structure Clocking where
  low : ℕ → ℕ
  high : ℕ → ℕ
  settle : ℕ → ℕ

/-- The card and the lines to it, with the bits clocked so far, and what stage 0 has found out about the card. -/
structure Bus where
  card : Session
  csN : Bool
  bits : ℕ
  usesBlockAddressing : Bool

def Bus.powerOn (image : Option Blob) : Bus := ⟨.powerOn image, true, 0, false⟩

abbrev Driver := StateT Bus Stage0

def fail {α : Type} (message : String) : Driver α := fun _ => failHard message

section Transfers

variable (clocking : Clocking)

/-- The master of a bus in mode 0: it sets its bit while the clock is low and takes the other one when the clock rises. -/
def Bus.clockBit (mosi : Bool) (b : Bus) : Bool × Bus :=
  let low := (Session.tick ⟨b.csN, false, mosi⟩)^[clocking.low b.bits + 1] b.card
  let high := (Session.tick ⟨b.csN, true, mosi⟩)^[clocking.high b.bits + 1] low
  (low.miso, { b with card := high, bits := b.bits + 1 })

/-- The first bit is the highest. -/
def Bus.clockBits {n : ℕ} : List Bool → BitVec n → Bus → BitVec n × Bus
  | [], received, b => (received, b)
  | bit :: bits, received, b =>
    let r := b.clockBit clocking bit
    Bus.clockBits bits (received <<< 1 ||| (BitVec.ofBool r.1).setWidth n) r.2

def bitsOf {n : ℕ} (value : BitVec n) : List Bool := (List.range n).map value.getMsbD

def transferBits {n : ℕ} (value : BitVec n) : Driver (BitVec n) := fun b => .ok (b.clockBits clocking (bitsOf value) 0)

def transferByte (value : Byte) : Driver Byte := transferBits clocking value

/-- Time passes with the clock low. -/
def settle : Driver Unit :=
  modify fun b => { b with card := (Session.tick ⟨b.csN, false, true⟩)^[clocking.settle b.bits] b.card }

def setCs (csN : Bool) : Driver Unit := modify fun b => { b with csN }

def deselect : Driver Unit := do
  settle clocking
  setCs true
  discard (transferByte clocking 0xFF)

def select : Driver Unit := setCs false

def waitNotBusyFrom : ℕ → Driver Unit
  | 0 => fail "sdcard SPI busy wait timed out"
  | timeout + 1 => do
    if (← transferByte clocking 0xFF) = 0xFF then return ()
    waitNotBusyFrom timeout

def waitNotBusy : Driver Unit := waitNotBusyFrom clocking 1000000

def readBytes : ℕ → Driver Blob
  | 0 => return []
  | size + 1 => do
    let value ← transferByte clocking 0xFF
    return value :: (← readBytes size)

def readWords : ℕ → Driver Blob
  | 0 => return []
  | words + 1 => do
    let value ← transferBits clocking (0xFFFFFFFF : U32)
    return [(value >>> 24).setWidth 8, (value >>> 16).setWidth 8, (value >>> 8).setWidth 8, value.setWidth 8] ++
      (← readWords words)

/-- The registers hold a word or a byte, which is known when stage 0 is built. -/
def readDataBytes (wide : Bool) (size : ℕ) : Driver Blob := do
  if wide then
    let words ← readWords clocking (size / 4)
    return words ++ (← readBytes clocking (size % 4))
  else readBytes clocking size

end Transfers

section Commands

def SDCARD_SPI_R1_IDLE : Byte := 0x01
def SDCARD_SPI_DATA_TOKEN_START_BLOCK : Byte := 0xFE

def crc7Bit (c : Byte × Byte) : Byte × Byte :=
  let crc := c.1 <<< 1
  (if (c.2 ^^^ crc) &&& 0x80 ≠ 0 then crc ^^^ 0x09 else crc, c.2 <<< 1)

def computeCrc7 (data : Blob) : Byte :=
  (data.foldl (fun crc current => (crc7Bit^[8] (crc, current)).1) 0) <<< 1 ||| 0x01

example : computeCrc7 [0x40, 0, 0, 0, 0] = 0x95 := by decide +kernel

variable (clocking : Clocking)

def commandFrame (cmd : Byte) (argument : U32) : Blob :=
  [0x40 ||| cmd, (argument >>> 24).setWidth 8, (argument >>> 16).setWidth 8, (argument >>> 8).setWidth 8,
    argument.setWidth 8]

def sendBytes (bytes : Blob) : Driver Unit := bytes.forM fun value => discard (transferByte clocking value)

/-- The first byte without the top bit, or all ones when the card does not answer. -/
def awaitResponse : ℕ → Driver Byte
  | 0 => return 0xFF
  | retry + 1 => do
    let response ← transferByte clocking 0xFF
    if response &&& 0x80 = 0 then return response
    awaitResponse retry

def sendCommandCore (cmd : Byte) (argument : U32) (responseTailSize : ℕ) (keepSelected : Bool)
    (skipResponseBytes : ℕ) : Driver (Byte × Blob) := do
  let frame := commandFrame cmd argument
  select
  discard (transferByte clocking 0xFF)
  sendBytes clocking frame
  discard (transferByte clocking (computeCrc7 frame))
  discard (readBytes clocking skipResponseBytes)
  let response ← awaitResponse clocking 16
  let responseTail ← readBytes clocking responseTailSize
  if !keepSelected then deselect clocking
  return (response, responseTail)

def sendCommand (cmd : Byte) (argument : U32) (responseTailSize : ℕ) (keepSelected : Bool) : Driver (Byte × Blob) :=
  sendCommandCore clocking cmd argument responseTailSize keepSelected 0

def sendStopCommand : Driver Byte := do return (← sendCommandCore clocking 12 0 0 true 1).1

end Commands

section Reads

variable (clocking : Clocking) (wide : Bool)

def waitForDataTokenFrom : ℕ → Driver Unit
  | 0 => do
    deselect clocking
    fail "sdcard SPI read timed out"
  | timeout + 1 => do
    if (← transferByte clocking 0xFF) = SDCARD_SPI_DATA_TOKEN_START_BLOCK then return ()
    waitForDataTokenFrom timeout

def waitForDataToken : Driver Unit := waitForDataTokenFrom clocking 1000000

def readDataBlockPayload : Driver Blob := do
  waitForDataToken clocking
  let data ← readDataBytes clocking wide 512
  discard (transferByte clocking 0xFF)
  discard (transferByte clocking 0xFF)
  return data

def readPayloads : ℕ → Driver Blob
  | 0 => return []
  | blocks + 1 => do
    let data ← readDataBlockPayload clocking wide
    return data ++ (← readPayloads blocks)

/-- The bytes that are stored from the destination on. -/
def spiReadBlocksContiguous (startBlock blockCount : U32) : Driver Blob := do
  let argument := if (← get).usesBlockAddressing then startBlock else startBlock * SD_BLOCK_SIZE
  if blockCount = 0 then return []
  if blockCount = 1 then
    if (← sendCommand clocking 17 argument 0 true).1 ≠ 0 then fail "sdcard SPI read command failed"
    let data ← readDataBlockPayload clocking wide
    deselect clocking
    return data
  if (← sendCommand clocking 18 argument 0 true).1 ≠ 0 then fail "sdcard SPI multiblock read command failed"
  let data ← readPayloads clocking wide blockCount.toNat
  if (← sendStopCommand clocking) ≠ 0 then
    deselect clocking
    fail "sdcard SPI CMD12 failed"
  waitNotBusy clocking
  deselect clocking
  return data

end Reads

section Initialization

variable (clocking : Clocking)

def resetCard : ℕ → Driver Unit
  | 0 => fail "sdcard SPI CMD0 failed"
  | timeout + 1 => do
    if (← sendCommand clocking 0 0 0 false).1 = SDCARD_SPI_R1_IDLE then return ()
    resetCard timeout

def startCard : ℕ → Driver Unit
  | 0 => fail "sdcard SPI ACMD41 timed out"
  | timeout + 1 => do
    if SDCARD_SPI_R1_IDLE < (← sendCommand clocking 55 0 0 false).1 then fail "sdcard SPI CMD55 failed"
    if (← sendCommand clocking 41 0x40000000 0 false).1 = 0 then return ()
    startCard timeout

def sdcardInitializeOrFail : Driver Unit := do
  setCs true
  sendBytes clocking (List.replicate 20 0xFF)
  resetCard clocking 16
  let check ← sendCommand clocking 8 0x000001AA 4 false
  if check.1 ≠ SDCARD_SPI_R1_IDLE then fail "sdcard SPI CMD8 failed"
  if check.2.getD 2 0 ≠ 0x01 ∨ check.2.getD 3 0 ≠ 0xAA then fail "sdcard SPI CMD8 response invalid"
  startCard clocking 1000
  let conditions ← sendCommand clocking 58 0 4 false
  if conditions.1 ≠ 0 then fail "sdcard SPI CMD58 failed"
  let usesBlockAddressing := decide (conditions.2.getD 0 0 &&& 0x40 ≠ 0)
  modify fun b => { b with usesBlockAddressing }
  if !usesBlockAddressing then
    if (← sendCommand clocking 16 512 0 false).1 ≠ 0 then fail "sdcard SPI CMD16 failed"

end Initialization

end Little64.Boot.Spi

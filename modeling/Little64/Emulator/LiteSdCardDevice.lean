import Little64.Emulator.DiskImage
import Little64.Emulator.DeviceBus

/-! The emulated LiteSDCard controller: registers for the card's commands, and two engines that move
the data of a command between the disk and guest memory. -/

namespace Little64.Emulator

structure DmaEngine where
  baseHi : BitVec 32
  baseLo : BitVec 32
  length : BitVec 32
  enable : BitVec 8
  done : BitVec 8

namespace DmaEngine

def cleared : DmaEngine where
  baseHi := 0
  baseLo := 0
  length := 0
  enable := 0
  done := 0

def dmaBase (e : DmaEngine) : Word := (e.baseHi.setWidth 64 <<< 32) ||| e.baseLo.setWidth 64

end DmaEngine

structure LiteSdCardDevice where
  base : Word
  image : Option DiskImage
  reader : DmaEngine
  writer : DmaEngine
  cmdArgument : BitVec 32
  cmdCommand : BitVec 32
  cmdResponse : Fin 4 → BitVec 32
  cmdEvent : BitVec 8
  dataEvent : BitVec 8
  blockLength : BitVec 16
  blockCount : BitVec 32
  clockDivider : BitVec 32
  phyInitialize : BitVec 32
  phySettings : BitVec 32
  irqPending : BitVec 32
  irqEnable : BitVec 32
  appCmdPending : Bool
  cardSelected : Bool
  wideBus : Bool
  highSpeed : Bool
  rca : BitVec 16
  interruptLine : Bool
  /-- How often a command has been completed: the device cannot tell, proofs can. -/
  completions : ℕ

namespace LiteSdCardDevice

def readerBase : ℕ := 0x0000
def coreBase : ℕ := 0x0800
def irqBase : ℕ := 0x1000
def writerBase : ℕ := 0x1800
def phyBase : ℕ := 0x2000
def regionSize : Word := 0x2200

def eventDone : BitVec 8 := 1 <<< 0
def eventTimeout : BitVec 8 := 1 <<< 2

def transferNone : BitVec 32 := 0
def transferRead : BitVec 32 := 1

def irqReadDone : BitVec 32 := 1 <<< 1
def irqWriteDone : BitVec 32 := 1 <<< 2
def irqCmdDone : BitVec 32 := 1 <<< 3

def reset (base : Word) (image : Option DiskImage) : LiteSdCardDevice where
  base := base
  image := image
  reader := .cleared
  writer := .cleared
  cmdArgument := 0
  cmdCommand := 0
  cmdResponse := fun _ => 0
  cmdEvent := 0
  dataEvent := 0
  blockLength := 512
  blockCount := 1
  clockDivider := 256
  phyInitialize := 0
  phySettings := 0
  irqPending := 0
  irqEnable := 0
  appCmdPending := false
  cardSelected := false
  wideBus := false
  highSpeed := false
  rca := 1
  interruptLine := false
  completions := 0

def read32 (d : LiteSdCardDevice) (addr : Word) : BitVec 32 :=
  let offset := (addr - d.base).toNat
  if offset = readerBase + 0x00 then d.reader.baseHi
  else if offset = readerBase + 0x04 then d.reader.baseLo
  else if offset = readerBase + 0x08 then d.reader.length
  else if offset = readerBase + 0x0C then d.reader.enable.setWidth 32
  else if offset = readerBase + 0x10 then d.reader.done.setWidth 32
  else if offset = coreBase + 0x00 then d.cmdArgument
  else if offset = coreBase + 0x04 then d.cmdCommand
  else if offset = coreBase + 0x0C then d.cmdResponse 0
  else if offset = coreBase + 0x10 then d.cmdResponse 1
  else if offset = coreBase + 0x14 then d.cmdResponse 2
  else if offset = coreBase + 0x18 then d.cmdResponse 3
  else if offset = coreBase + 0x1C then d.cmdEvent.setWidth 32
  else if offset = coreBase + 0x20 then d.dataEvent.setWidth 32
  else if offset = coreBase + 0x24 then d.blockLength.setWidth 32
  else if offset = coreBase + 0x28 then d.blockCount
  else if offset = irqBase + 0x00 then d.irqPending
  else if offset = irqBase + 0x04 then d.irqPending
  else if offset = irqBase + 0x08 then d.irqEnable
  else if offset = writerBase + 0x00 then d.writer.baseHi
  else if offset = writerBase + 0x04 then d.writer.baseLo
  else if offset = writerBase + 0x08 then d.writer.length
  else if offset = writerBase + 0x0C then d.writer.enable.setWidth 32
  else if offset = writerBase + 0x10 then d.writer.done.setWidth 32
  else if offset = phyBase + 0x00 then if d.image.isSome then 0 else 1
  else if offset = phyBase + 0x04 then d.clockDivider
  else if offset = phyBase + 0x08 then d.phyInitialize
  else if offset = phyBase + 0x0C ∨ offset = phyBase + 0x10 then
    if (d.image.map fun image => !image.isReadOnly).getD false then 0 else 1
  else if offset = phyBase + 0x18 then d.phySettings
  else 0

def read8 (d : LiteSdCardDevice) (addr : Word) : BitVec 8 :=
  (d.read32 (addr &&& ~~~3) >>> ((addr &&& 3).toNat * 8)).setWidth 8

-- The composed reads of `MemoryRegion`, which the device does not override.
def read16 (d : LiteSdCardDevice) (addr : Word) : BitVec 16 :=
  (d.read8 addr).setWidth 16 ||| ((d.read8 (addr + 1)).setWidth 16 <<< 8)

def read64 (d : LiteSdCardDevice) (addr : Word) : BitVec 64 :=
  (d.read32 addr).setWidth 64 ||| ((d.read32 (addr + 4)).setWidth 64 <<< 32)

end LiteSdCardDevice

instance : BusDevice LiteSdCardDevice where
  base := LiteSdCardDevice.base
  size := LiteSdCardDevice.regionSize
  read8 := LiteSdCardDevice.read8
  read16 := LiteSdCardDevice.read16
  read32 := LiteSdCardDevice.read32
  read64 := LiteSdCardDevice.read64

namespace LiteSdCardDevice

abbrev Bus := Machine LiteSdCardDevice

def setResponseBits (value : BitVec 128) (start size : ℕ) (field : BitVec 32) : BitVec 128 :=
  if size = 0 then value
  else
    let mask : BitVec 128 := BitVec.ofNat 128 (2 ^ min size 32 - 1)
    (value &&& ~~~(mask <<< start)) ||| ((field.setWidth 128 &&& mask) <<< start)

def splitResponse (value : BitVec 128) : Fin 4 → BitVec 32 := fun i => (value >>> (96 - 32 * i.val)).setWidth 32

def toBigEndianBytes (value : Word) : List (BitVec 8) :=
  (List.range 8).map fun i => (value >>> ((7 - i) * 8)).setWidth 8

def cidResponse : Fin 4 → BitVec 32 :=
  splitResponse <| [(120, 8, 0x42), (104, 16, 0x4C36), (96, 8, 0x45), (88, 8, 0x4D), (80, 8, 0x55), (72, 8, 0x36),
    (64, 8, 0x34), (60, 4, 1), (56, 4, 0), (24, 32, 0x12345678), (12, 8, 24), (8, 4, 4)].foldl
      (fun value (field : ℕ × ℕ × BitVec 32) => setResponseBits value field.1 field.2.1 field.2.2) 0

def csdResponse (d : LiteSdCardDevice) : Fin 4 → BitVec 32 :=
  let sectors := (d.image.map DiskImage.sectorCount).getD 0
  let cSize : BitVec 32 := if 1024 ≤ sectors then (sectors / 1024 - 1).setWidth 32 else 0
  splitResponse <| [(126, 2, 1), (99, 4, 11), (96, 3, 2), (84, 12, 0x5B5), (80, 4, 9), (48, 22, cSize)].foldl
    (fun value (field : ℕ × ℕ × BitVec 32) => setResponseBits value field.1 field.2.1 field.2.2) 0

def scrPayload : List (BitVec 8) := toBigEndianBytes ((2 : Word) <<< 56 ||| (0x5 : Word) <<< 48 ||| (1 : Word) <<< 55)

def switchStatusPayload (d : LiteSdCardDevice) (setMode : Bool) : List (BitVec 8) :=
  ((List.replicate 64 0).set 13 0x01).set 16 (if setMode || d.highSpeed then 0x01 else 0x00)

def sdStatusPayload : List (BitVec 8) := List.replicate 64 0

def updateInterruptLine (d : LiteSdCardDevice) : LiteSdCardDevice :=
  { d with interruptLine := d.irqPending &&& d.irqEnable != 0 }

def setPendingIrq (bits : BitVec 32) (d : LiteSdCardDevice) : LiteSdCardDevice :=
  updateInterruptLine { d with irqPending := d.irqPending ||| bits }

def clearPendingIrq (bits : BitVec 32) (d : LiteSdCardDevice) : LiteSdCardDevice :=
  updateInterruptLine { d with irqPending := d.irqPending &&& ~~~bits }

def clearTransferState (d : LiteSdCardDevice) : LiteSdCardDevice :=
  { d with
    cmdEvent := 0
    dataEvent := 0
    reader := { d.reader with done := 0 }
    writer := { d.writer with done := 0 } }

def prepareShortResponse (value : BitVec 32) (d : LiteSdCardDevice) : LiteSdCardDevice :=
  { d with cmdResponse := fun i => if i = 3 then value else 0 }

def prepareLongResponse (value : Fin 4 → BitVec 32) (d : LiteSdCardDevice) : LiteSdCardDevice :=
  { d with cmdResponse := value }

-- The source has a second function of this body for commands that fail.
def completeCommand (cmdEvent dataEvent : BitVec 8) (irqBits : BitVec 32) (d : LiteSdCardDevice) : LiteSdCardDevice :=
  setPendingIrq (irqBits ||| irqCmdDone)
    { d with cmdEvent := cmdEvent, dataEvent := dataEvent, completions := d.completions + 1 }

def transferLength (d : LiteSdCardDevice) : BitVec 32 :=
  let blocks := if d.blockCount = 0 then 1 else d.blockCount
  let blockLength := if d.blockLength = 0 then 512 else d.blockLength.setWidth 32
  blockLength * blocks

/-- The bytes a command sends to guest memory. -/
structure Payload where
  size : ℕ
  byte : ℕ → BitVec 8

def Payload.ofList (bytes : List (BitVec 8)) : Payload := ⟨bytes.length, fun i => bytes.getD i 0⟩

/-- The length an engine transfers: its own when it is set, the card's blocks when it is not. -/
def engineLength (d : LiteSdCardDevice) (engine : DmaEngine) : ℕ :=
  (if engine.length = 0 then d.transferLength else engine.length).toNat

/-- What a read transfer is to send, and the device after it has read the disk for it. -/
def readPayload (command argument : BitVec 32) (d : LiteSdCardDevice) : Option Payload × LiteSdCardDevice :=
  if command = 17 ∨ command = 18 then
    if d.reader.enable = 0 then (none, d)
    else match d.image with
      | none => (none, d)
      | some image =>
        let size := d.engineLength d.reader
        let result := image.read (argument.setWidth 64 * DiskImage.sectorSize) (fun _ => 0) size
        (if result.1 then some ⟨size, result.2.1⟩ else none, { d with image := some result.2.2 })
  else if command = 51 then (some (.ofList scrPayload), d)
  else if command = 6 then (some (.ofList (d.switchStatusPayload (d.cmdArgument &&& 0x80000000 != 0))), d)
  else if command = 13 then (some (.ofList sdStatusPayload), d)
  else (none, d)

def copyToGuest (nested : Machine.Nested LiteSdCardDevice) (guestPhys : Word) (payload : Payload) (m : Bus) :
    Option Bus := m.storeBytes nested guestPhys (fun _ i => payload.byte i) payload.size

def copyFromGuest (guestPhys : Word) (m : Bus) (i : ℕ) : BitVec 8 := m.read8 (guestPhys + BitVec.ofNat 64 i)

def update (f : LiteSdCardDevice → LiteSdCardDevice) (m : Bus) : Bus := { m with device := f m.device }

def runReadTransfer (nested : Machine.Nested LiteSdCardDevice) (command argument : BitVec 32) (m : Bus) :
    Option (Bool × Bus) :=
  let read := readPayload command argument m.device
  let m := { m with device := read.2 }
  match read.1 with
  | none => some (false, m)
  | some payload =>
    if m.device.reader.enable ≠ 0 ∧ payload.size ≠ 0 then
      (copyToGuest nested m.device.reader.dmaBase payload m).map fun m =>
        (true, update (fun d => completeCommand eventDone eventDone irqReadDone
          { d with reader := { d.reader with done := eventDone } }) m)
    else some (true, update (completeCommand eventDone eventDone irqReadDone) m)

def runWriteTransfer (command argument : BitVec 32) (m : Bus) : Bool × Bus :=
  match m.device.image with
  | none => (false, m)
  | some image =>
    if (command ≠ 24 ∧ command ≠ 25) ∨ m.device.writer.enable = 0 then (false, m)
    else
      let result := image.write (argument.setWidth 64 * DiskImage.sectorSize)
        (copyFromGuest m.device.writer.dmaBase m) (m.device.engineLength m.device.writer)
      if result.1 = false then (false, update (fun d => { d with image := some result.2 }) m)
      else
        (true, update (fun d => completeCommand eventDone eventDone irqWriteDone
          { d with image := some result.2.flush.2, writer := { d.writer with done := eventDone } }) m)

def simpleResponse (value : BitVec 32) (m : Bus) : Option Bus :=
  some (update (fun d => completeCommand eventDone 0 0 (prepareShortResponse value d)) m)

def failCommand (transfer : BitVec 32) (m : Bus) : Bus :=
  update (fun d => completeCommand (eventDone ||| eventTimeout)
    (if transfer = transferNone then 0 else eventDone ||| eventTimeout) 0 (prepareShortResponse 0 d)) m

/-- A command whose data go to the guest, and what it comes to when there are none. -/
def readCommand (nested : Machine.Nested LiteSdCardDevice) (command : BitVec 32) (done : Bus → Bus)
    (otherwise : Bus → Option Bus) (m : Bus) : Option Bus :=
  (runReadTransfer nested command m.device.cmdArgument m).bind fun result =>
    if result.1 then some (done result.2) else otherwise result.2

def setHighSpeed (d : LiteSdCardDevice) : LiteSdCardDevice :=
  if d.cmdArgument &&& 0x80000000 ≠ 0 then { d with highSpeed := true } else d

def writeCommand (command transfer : BitVec 32) (m : Bus) : Option Bus :=
  let result := runWriteTransfer command m.device.cmdArgument m
  if result.1 then some result.2 else some (failCommand transfer result.2)

/-- The switch over the card's commands; `break` there is failure. -/
def runCommand (nested : Machine.Nested LiteSdCardDevice) (command transfer : BitVec 32) (appCmd : Bool) (m : Bus) :
    Option Bus :=
  if command = 0 then
    simpleResponse 0 (update (fun d => { d with cardSelected := false, wideBus := false, highSpeed := false }) m)
  else if command = 2 ∨ command = 10 then
    some (update (fun d => completeCommand eventDone 0 0 (prepareLongResponse cidResponse d)) m)
  else if command = 3 then simpleResponse (m.device.rca.setWidth 32 <<< 16) m
  else if command = 6 then
    if appCmd then
      simpleResponse 0 (update (fun d => { d with wideBus := d.cmdArgument &&& 0x3 == 2 }) m)
    else if transfer = transferRead then
      readCommand nested command (update setHighSpeed) (fun m => some (failCommand transfer m))
        (update (prepareShortResponse 0) m)
    else some (failCommand transfer (update (prepareShortResponse 0) m))
  else if command = 7 then simpleResponse 0 (update (fun d => { d with cardSelected := true }) m)
  else if command = 8 then simpleResponse (m.device.cmdArgument &&& 0xFFF) m
  else if command = 9 then
    some (update (fun d => completeCommand eventDone 0 0 (prepareLongResponse d.csdResponse d)) m)
  else if command = 12 then simpleResponse 0 m
  else if command = 13 then
    if appCmd && transfer == transferRead then
      readCommand nested command id (simpleResponse 0) (update (prepareShortResponse 0) m)
    else simpleResponse 0 (update (prepareShortResponse 0) m)
  else if command = 16 then simpleResponse 0 m
  else if command = 17 ∨ command = 18 then
    readCommand nested command id (fun m => some (failCommand transfer m)) (update (prepareShortResponse 0) m)
  else if command = 24 ∨ command = 25 then
    writeCommand command transfer (update (prepareShortResponse 0) m)
  else if command = 41 then if appCmd then simpleResponse 0xC0FF8000 m else some (failCommand transfer m)
  else if command = 51 then
    if appCmd && transfer == transferRead then
      readCommand nested command id (fun m => some (failCommand transfer m)) (update (prepareShortResponse 0) m)
    else some (failCommand transfer (update (prepareShortResponse 0) m))
  else if command = 55 then simpleResponse 0x20 (update (fun d => { d with appCmdPending := true }) m)
  else some (failCommand transfer m)

def handleCommandSend (nested : Machine.Nested LiteSdCardDevice) (m : Bus) : Option Bus :=
  let m := update clearTransferState m
  let command := (m.device.cmdCommand >>> 8) &&& 0x3F
  let transfer := (m.device.cmdCommand >>> 5) &&& 0x3
  runCommand nested command transfer m.device.appCmdPending (update (fun d => { d with appCmdPending := false }) m)

def setEnable (value : BitVec 32) (e : DmaEngine) : DmaEngine :=
  let enable := (value &&& 0x1).setWidth 8
  { e with enable := enable, done := if enable = 0 then 0 else e.done }

/-- The registers that are only stored to. -/
def writePlainRegister (offset : ℕ) (value : BitVec 32) (d : LiteSdCardDevice) : LiteSdCardDevice :=
  if offset = readerBase + 0x00 then { d with reader.baseHi := value }
  else if offset = readerBase + 0x04 then { d with reader.baseLo := value }
  else if offset = readerBase + 0x08 then { d with reader.length := value }
  else if offset = readerBase + 0x0C then { d with reader := setEnable value d.reader }
  else if offset = coreBase + 0x00 then { d with cmdArgument := value }
  else if offset = coreBase + 0x04 then { d with cmdCommand := value }
  else if offset = coreBase + 0x1C then { d with cmdEvent := d.cmdEvent &&& ~~~(value.setWidth 8) }
  else if offset = coreBase + 0x20 then { d with dataEvent := d.dataEvent &&& ~~~(value.setWidth 8) }
  else if offset = coreBase + 0x24 then { d with blockLength := value.setWidth 16 }
  else if offset = coreBase + 0x28 then { d with blockCount := if value = 0 then 1 else value }
  else if offset = irqBase + 0x04 then clearPendingIrq value d
  else if offset = irqBase + 0x08 then updateInterruptLine { d with irqEnable := value }
  else if offset = writerBase + 0x00 then { d with writer.baseHi := value }
  else if offset = writerBase + 0x04 then { d with writer.baseLo := value }
  else if offset = writerBase + 0x08 then { d with writer.length := value }
  else if offset = writerBase + 0x0C then { d with writer := setEnable value d.writer }
  else if offset = phyBase + 0x04 then { d with clockDivider := value }
  else if offset = phyBase + 0x08 then { d with phyInitialize := value }
  else if offset = phyBase + 0x18 then { d with phySettings := value }
  else d

def writeRegister32 (nested : Machine.Nested LiteSdCardDevice) (addr : Word) (value : BitVec 32) (m : Bus) :
    Option Bus :=
  let offset := (addr - m.device.base).toNat
  if offset = coreBase + 0x08 then if value &&& 0x1 ≠ 0 then handleCommandSend nested m else some m
  else some (update (writePlainRegister offset value) m)

def writeRegister8 (nested : Machine.Nested LiteSdCardDevice) (addr : Word) (value : BitVec 8) (m : Bus) :
    Option Bus :=
  let aligned := addr &&& ~~~3
  let shift := (addr &&& 3).toNat * 8
  let current := (m.device.read32 aligned &&& ~~~((0xFF : BitVec 32) <<< shift)) ||| (value.setWidth 32 <<< shift)
  writeRegister32 nested aligned current m

def writeRegister16 (nested : Machine.Nested LiteSdCardDevice) (addr : Word) (value : BitVec 16) (m : Bus) :
    Option Bus :=
  (writeRegister8 nested addr (value.setWidth 8) m).bind
    (writeRegister8 nested (addr + 1) ((value >>> 8).setWidth 8))

def writeRegister64 (nested : Machine.Nested LiteSdCardDevice) (addr value : Word) (m : Bus) : Option Bus :=
  (writeRegister32 nested addr (value.setWidth 32) m).bind
    (writeRegister32 nested (addr + 4) ((value >>> 32).setWidth 32))

/-- What the controller does with a store to its window. -/
def store (nested : Machine.Nested LiteSdCardDevice) : RegisterStore → Bus → Option Bus
  | .byte addr val => writeRegister8 nested addr val
  | .half addr val => writeRegister16 nested addr val
  | .word addr val => writeRegister32 nested addr val
  | .double addr val => writeRegister64 nested addr val

end LiteSdCardDevice

end Little64.Emulator

import Little64.Emulator.DiskImage
import Little64.Emulator.DeviceBus

/-! The paravirtual block device: a kick reads a request from memory, moves whole sectors between
the disk and the request's buffer, and reports a status. -/

namespace Little64.Emulator

structure PvBlockDevice where
  base : Word
  image : Option DiskImage
  requestAddr : Word
  status : Word
  bounce : ℕ → BitVec 8
  interruptLine : Bool
  /-- The bounce buffer has been accessed past its end: the device cannot tell, proofs can. -/
  bounceOverrun : Bool

namespace PvBlockDevice

def registerMagic : ℕ := 0x00
def registerVersion : ℕ := 0x08
def registerSectorSize : ℕ := 0x10
def registerSectorCount : ℕ := 0x18
def registerMaxSectorsPerRequest : ℕ := 0x20
def registerFeatures : ℕ := 0x28
def registerStatus : ℕ := 0x30
def registerRequestAddress : ℕ := 0x38
def registerKick : ℕ := 0x40
def registerInterruptAck : ℕ := 0x48

def magic : Word := 0x4B4C42505634364C
def version : Word := 1
def featureReadOnly : Word := 1 <<< 0
def featureFlush : Word := 1 <<< 1
def statusReady : Word := 1 <<< 0
def statusBusy : Word := 1 <<< 1
def statusError : Word := 1 <<< 2
def statusInterruptPending : Word := 1 <<< 3
def requestRead : Word := 0
def requestWrite : Word := 1
def requestFlush : Word := 2
def requestStatusOk : Word := 0
def requestStatusIoError : Word := 1
def requestStatusRangeError : Word := 2
def requestStatusUnsupported : Word := 3
def requestStatusReadOnly : Word := 4
def requestStatusInvalid : Word := 5
def maxSectorsPerRequest : Word := 128

/-- The size the constructor gives the bounce buffer. -/
def bounceSize : ℕ := (maxSectorsPerRequest * DiskImage.sectorSize).toNat

structure RequestHeader where
  op : Word
  status : Word
  sector : Word
  sectorCount : Word
  bufferPhys : Word
  bufferLen : Word
  reserved0 : Word
  reserved1 : Word

def read64 (d : PvBlockDevice) (addr : Word) : Word :=
  let offset := (addr - d.base).toNat
  if offset = registerMagic then magic
  else if offset = registerVersion then version
  else if offset = registerSectorSize then DiskImage.sectorSize
  else if offset = registerSectorCount then (d.image.map DiskImage.sectorCount).getD 0
  else if offset = registerMaxSectorsPerRequest then maxSectorsPerRequest
  else if offset = registerFeatures then
    if (d.image.map DiskImage.isReadOnly).getD false then featureFlush ||| featureReadOnly else featureFlush
  else if offset = registerStatus then d.status
  else if offset = registerRequestAddress then d.requestAddr
  else 0

def read8 (d : PvBlockDevice) (addr : Word) : BitVec 8 :=
  (d.read64 (addr &&& ~~~7) >>> ((addr &&& 7).toNat * 8)).setWidth 8

-- The composed reads of `MemoryRegion`, which the device does not override.
def read16 (d : PvBlockDevice) (addr : Word) : BitVec 16 :=
  (d.read8 addr).setWidth 16 ||| ((d.read8 (addr + 1)).setWidth 16 <<< 8)

def read32 (d : PvBlockDevice) (addr : Word) : BitVec 32 :=
  (d.read16 addr).setWidth 32 ||| ((d.read16 (addr + 2)).setWidth 32 <<< 16)

end PvBlockDevice

instance : BusDevice PvBlockDevice where
  base := PvBlockDevice.base
  size := 0x100
  read8 := PvBlockDevice.read8
  read16 := PvBlockDevice.read16
  read32 := PvBlockDevice.read32
  read64 := PvBlockDevice.read64

namespace PvBlockDevice

abbrev Bus := Machine PvBlockDevice

def requestHeader (m : Bus) : RequestHeader where
  op := m.read64 m.device.requestAddr
  status := m.read64 (m.device.requestAddr + 8)
  sector := m.read64 (m.device.requestAddr + 16)
  sectorCount := m.read64 (m.device.requestAddr + 24)
  bufferPhys := m.read64 (m.device.requestAddr + 32)
  bufferLen := m.read64 (m.device.requestAddr + 40)
  reserved0 := m.read64 (m.device.requestAddr + 48)
  reserved1 := m.read64 (m.device.requestAddr + 56)

def readRequestHeader (m : Bus) : Option RequestHeader :=
  if m.device.requestAddr &&& 7 ≠ 0 then none else some (requestHeader m)

def writeRequestStatus (nested : Machine.Nested PvBlockDevice) (requestAddr status : Word) (m : Bus) : Option Bus :=
  m.write64 nested (requestAddr + 8) status

def touchBounce (len : ℕ) (m : Bus) : Bus :=
  { m with device := { m.device with bounceOverrun := m.device.bounceOverrun || decide (bounceSize < len) } }

-- Each byte is taken from the buffer when it is stored.
def transferToGuest (nested : Machine.Nested PvBlockDevice) (guestPhys : Word) (len : ℕ) (m : Bus) : Option Bus :=
  m.storeBytes nested guestPhys (fun m i => m.device.bounce i) len

def transferFromGuest (guestPhys : Word) : ℕ → Bus → Bus
  | 0, m => m
  | i + 1, m =>
    let m := transferFromGuest guestPhys i m
    { m with device := { m.device with
      bounce := Function.update m.device.bounce i (m.read8 (guestPhys + BitVec.ofNat 64 i)) } }

def setErrorState (d : PvBlockDevice) : PvBlockDevice :=
  { d with status := (d.status ||| statusError) &&& ~~~statusBusy }

def clearInterruptPending (d : PvBlockDevice) : PvBlockDevice :=
  { d with status := d.status &&& ~~~statusInterruptPending, interruptLine := false }

def complete (completionStatus : Word) (d : PvBlockDevice) : PvBlockDevice :=
  let d := if completionStatus ≠ requestStatusOk then setErrorState d else d
  { d with status := (d.status &&& ~~~statusBusy) ||| statusInterruptPending, interruptLine := true }

/-- The end that every request comes to. -/
def finish (nested : Machine.Nested PvBlockDevice) (completionStatus : Word) (m : Bus) : Option Bus :=
  (writeRequestStatus nested m.device.requestAddr completionStatus m).map fun m =>
    { m with device := complete completionStatus m.device }

def setImage (image : DiskImage) (m : Bus) : Bus := { m with device := { m.device with image := some image } }

def submitRead (nested : Machine.Nested PvBlockDevice) (image : DiskImage) (header : RequestHeader)
    (transferBytes : ℕ) (m : Bus) : Option Bus :=
  let m := touchBounce transferBytes m
  let result := image.read (header.sector * DiskImage.sectorSize) m.device.bounce transferBytes
  let m := setImage result.2.2 { m with device := { m.device with bounce := result.2.1 } }
  if result.1 = false then finish nested requestStatusIoError m
  else (transferToGuest nested header.bufferPhys transferBytes m).bind (finish nested requestStatusOk)

def submitWrite (nested : Machine.Nested PvBlockDevice) (image : DiskImage) (header : RequestHeader)
    (transferBytes : ℕ) (m : Bus) : Option Bus :=
  if image.isReadOnly then finish nested requestStatusReadOnly m
  else
    let m := transferFromGuest header.bufferPhys transferBytes (touchBounce transferBytes m)
    let written := image.write (header.sector * DiskImage.sectorSize) m.device.bounce transferBytes
    if written.1 = false then finish nested requestStatusIoError (setImage written.2 m)
    else
      let flushed := written.2.flush
      if flushed.1 = false then finish nested requestStatusIoError (setImage flushed.2 m)
      else finish nested requestStatusOk (setImage flushed.2 m)

def submitFlush (nested : Machine.Nested PvBlockDevice) (image : DiskImage) (m : Bus) : Option Bus :=
  let flushed := image.flush
  if flushed.1 = false then finish nested requestStatusIoError (setImage flushed.2 m)
  else finish nested requestStatusOk (setImage flushed.2 m)

def markBusy (m : Bus) : Bus :=
  { m with device := { m.device with status := (m.device.status ||| statusBusy) &&& ~~~statusError } }

def submitRequest (nested : Machine.Nested PvBlockDevice) (m : Bus) : Option Bus :=
  let m := markBusy m
  match m.device.image with
  | none => finish nested requestStatusInvalid m
  | some image =>
    match readRequestHeader m with
    | none => finish nested requestStatusInvalid m
    | some header =>
      if maxSectorsPerRequest < header.sectorCount then finish nested requestStatusRangeError m
      else
        let transferBytes := header.sectorCount * DiskImage.sectorSize
        if header.bufferLen < transferBytes then finish nested requestStatusInvalid m
        else if image.sectorCount < header.sector ∨ image.sectorCount - header.sector < header.sectorCount then
          finish nested requestStatusRangeError m
        else if header.op = requestRead then submitRead nested image header transferBytes.toNat m
        else if header.op = requestWrite then submitWrite nested image header transferBytes.toNat m
        else if header.op = requestFlush then submitFlush nested image m
        else finish nested requestStatusUnsupported m

def writeRegister64 (nested : Machine.Nested PvBlockDevice) (addr value : Word) (m : Bus) : Option Bus :=
  let offset := (addr - m.device.base).toNat
  if offset = registerRequestAddress then some { m with device := { m.device with requestAddr := value } }
  else if offset = registerKick then if value = 1 then submitRequest nested m else some m
  else if offset = registerInterruptAck then
    if value = 1 then some { m with device := clearInterruptPending m.device } else some m
  else some m

def writeRegister8 (nested : Machine.Nested PvBlockDevice) (addr : Word) (value : BitVec 8) (m : Bus) : Option Bus :=
  let aligned := addr &&& ~~~7
  let shift := (addr &&& 7).toNat * 8
  let current := (m.device.read64 aligned &&& ~~~((0xFF : Word) <<< shift)) ||| (value.setWidth 64 <<< shift)
  writeRegister64 nested aligned current m

def writeRegister16 (nested : Machine.Nested PvBlockDevice) (addr : Word) (value : BitVec 16) (m : Bus) :
    Option Bus :=
  (writeRegister8 nested addr (value.setWidth 8) m).bind
    (writeRegister8 nested (addr + 1) ((value >>> 8).setWidth 8))

def writeRegister32 (nested : Machine.Nested PvBlockDevice) (addr : Word) (value : BitVec 32) (m : Bus) :
    Option Bus :=
  (writeRegister16 nested addr (value.setWidth 16) m).bind
    (writeRegister16 nested (addr + 2) ((value >>> 16).setWidth 16))

/-- What the device does with a store to its window. -/
def store (nested : Machine.Nested PvBlockDevice) : RegisterStore → Bus → Option Bus
  | .byte addr val => writeRegister8 nested addr val
  | .half addr val => writeRegister16 nested addr val
  | .word addr val => writeRegister32 nested addr val
  | .double addr val => writeRegister64 nested addr val

end PvBlockDevice

end Little64.Emulator

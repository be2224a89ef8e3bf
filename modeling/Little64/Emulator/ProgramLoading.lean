import Little64.Emulator.ElfImage
import Little64.Emulator.MemoryBus
import Little64.Emulator.Registers

/-! The loaders that install a machine: the configuration of its regions and devices, and the state they leave. -/

namespace Little64.Emulator.ProgramLoading

open CheckedAccess
open ElfImage (Refusal loadImage)

inductive DeviceKind
  | serial
  | timer
  | liteUart
  | liteDramDfiiStub
  | pvBlock (imagePath : String) (readOnly : Bool)
  | liteSdCard (imagePath : String) (readOnly : Bool)
  deriving DecidableEq, Repr

structure DeviceConfig where
  kind : DeviceKind
  base : Word
  name : String
  deriving DecidableEq, Repr

/-- What the loaders need of the devices: what a new one is, how large its window is, and what it makes of a byte. -/
structure DeviceModel (δ : Type) where
  create : DeviceConfig → δ
  size : DeviceConfig → Word
  write8 : δ → Word → BitVec 8 → δ

inductive Content
  | ram (data : ByteMemory.Memory 64)
  | rom (data : ByteMemory.Memory 64)
  /-- The device at an index of the device list. -/
  | device (index : ℕ)

structure BusRegion where
  base : Word
  size : Word
  name : String
  content : Content

def BusRegion.endAddr (r : BusRegion) : Word := r.base + r.size

def BusRegion.overlaps (r q : BusRegion) : Bool := decide (r.base < q.endAddr) && decide (q.base < r.endAddr)

/-- The bus and the devices on it. -/
structure Installed (δ : Type) where
  regions : List BusRegion
  devices : List δ

namespace Installed

variable {δ : Type} (model : DeviceModel δ)

def empty : Installed δ := ⟨[], []⟩

/-- A region that overlaps another throws. -/
def addRegion (m : Installed δ) (r : BusRegion) : Option (Installed δ) :=
  if ∃ q ∈ m.regions, r.overlaps q = true then none else some { m with regions := m.regions ++ [r] }

def addDevice (m : Installed δ) (d : DeviceConfig) : Option (Installed δ) :=
  addRegion { m with devices := m.devices ++ [model.create d] } ⟨d.base, model.size d, d.name, .device m.devices.length⟩

def regionAt (m : Installed δ) (addr : Word) : ℕ :=
  m.regions.findIdx fun r => decide (r.base ≤ addr) && decide (addr < r.endAddr)

def write8 (m : Installed δ) (addr : Word) (value : BitVec 8) : Installed δ :=
  match m.regions[m.regionAt addr]? with
  | none => m
  | some r =>
    match r.content with
    | .ram data =>
      let written : BusRegion := { r with content := .ram (ByteMemory.store data (addr - r.base) 1 value) }
      { m with regions := m.regions.set (m.regionAt addr) written }
    | .rom _ => m
    | .device k => { m with devices := m.devices.modify k fun d => model.write8 d (addr - r.base) value }

def writeBytes (m : Installed δ) (addr : Word) (bytes : Blob) : Installed δ :=
  (List.range bytes.length).foldl (fun m i => m.write8 model (addr + BitVec.ofNat 64 i) (bytes.getD i 0)) m

end Installed

structure MachineConfig where
  regions : List BusRegion
  devices : List DeviceConfig

def MachineConfig.applyTo {δ : Type} (model : DeviceModel δ) (cfg : MachineConfig) : Option (Installed δ) := do
  let m ← cfg.regions.foldlM Installed.addRegion Installed.empty
  cfg.devices.foldlM (Installed.addDevice model) m

def contentsOf (bytes : Blob) (fill : BitVec 8) : ByteMemory.Memory 64 := fun x => bytes.getD x.toNat fill

def ram (base size : Word) (name : String) : BusRegion := ⟨base, size, name, .ram fun _ => 0⟩

def preloadedRam (base : Word) (bytes : Blob) (size : Word) (name : String) : BusRegion :=
  ⟨base, size, name, .ram (contentsOf bytes 0)⟩

def romWindow (base : Word) (bytes : Blob) (fill : BitVec 8) (size : Word) (name : String) : BusRegion :=
  ⟨base, size, name, .rom (contentsOf bytes fill)⟩

def hypercallCapMinimalBoot : Word := 1
def serialBase : Word := 0x08000000
def timerBase : Word := 0x08001000
def pvblkBase : Word := 0x08002000
def litexBootromBase : Word := 0x00000000
def litexBootromSize : Word := 0x00020000
def litexBootromRamBase : Word := 0x40000000
def litexFlashBase : Word := 0x20000000
def litexFlashWindowSize : Word := 0x01000000
def litexSramBase : Word := 0x10000000
def litexSramSize : Word := 0x00004000
def litexSdcardBase : Word := 0xF0000800
def litexUartBase : Word := 0xF0001000
def litexSdramCsrBase : Word := 0xF0003000
def litexFlashSdUartBase : Word := 0xF0003800
def litexBootromSdUartBase : Word := 0xF0004000
def litexFlashRamSize : Word := 64 * 1024 * 1024
def litexBootromRamSize : Word := 256 * 1024 * 1024

structure AttachedDisk where
  path : String
  readOnly : Bool
  valid : Bool
  deriving DecidableEq, Repr

structure State (δ : Type) where
  machine : Installed δ
  registers : Registers
  memBase : Word
  memSize : Word
  pageTableAllocCursor : Word
  isRunning : Bool
  bootSourceBytes : Blob
  clockRunning : Bool
  disk : Option AttachedDisk

namespace State

variable {δ : Type} (s : State δ)

/-- The disk that the machine gets. -/
def validDisk : Option AttachedDisk := s.disk.filter (·.valid)

def setBootSourcePages (bytes : Blob) (pageSize : Word) : State δ :=
  { s with
    bootSourceBytes := bytes
    registers := { s.registers with
      bootSourcePageSize := pageSize
      bootSourcePageCount := if pageSize = 0 then 0 else (BitVec.ofNat 64 bytes.length + pageSize - 1) / pageSize } }

/-- A new machine with its memory and the registers reset. -/
def install (machine : Installed δ) (memBase memSize : Word) : State δ :=
  { s with
    machine, memBase, memSize
    pageTableAllocCursor := memBase + memSize
    registers := { Registers.initial with
      bootSourcePageSize := 4096
      bootSourcePageCount := (BitVec.ofNat 64 s.bootSourceBytes.length + 4095) / 4096
      hypercallCaps := hypercallCapMinimalBoot } }

def setReg (i : Reg) (value : Word) : State δ := { s with registers := s.registers.setReg i value }

end State

/-- How a call ends. -/
inductive Ending (δ : Type)
  | returns (result : Bool) (s : State δ)
  | throws
  | outOfBounds

section Loaders

variable {δ : Type} (model : DeviceModel δ) (available : ℕ) (s : State δ)

/-- What follows when the image of a file is there. -/
def withImage (v : ElfImage.Variant) (file : Blob) (k : ElfImage.Image → Ending δ) : Ending δ :=
  match loadImage v available file with
  | .error (.rejected .returnsFalse) => .returns false s
  | .error (.rejected .throws) => .throws
  | .error .outOfBounds => .outOfBounds
  | .ok image => k image

def withMachine (cfg : MachineConfig) (k : Installed δ → Ending δ) : Ending δ :=
  match cfg.applyTo model with
  | none => .throws
  | some machine => k machine

def elfConfig (disk : Option AttachedDisk) (image : ElfImage.Image) (totalRam : Word) : MachineConfig where
  regions := [preloadedRam image.base image.bytes totalRam "MEM"]
  devices := [⟨.serial, serialBase, "SERIAL"⟩, ⟨.timer, timerBase, "TIMER"⟩] ++
    (disk.map fun d => (⟨.pvBlock d.path d.readOnly, pvblkBase, "PVBLK"⟩ : DeviceConfig)).toList

def loadProgramElf (file : Blob) : Ending δ :=
  withImage available s ElfImage.elf file fun image =>
    let totalRam := BitVec.ofNat 64 image.bytes.length + 64 * 1024 * 1024
    withMachine model (elfConfig s.validDisk image totalRam) fun machine =>
      let t := s.install machine image.base totalRam
      let t := (t.setReg 13 (image.base + totalRam - 8)).setReg 15 image.entry
      .returns true { t with isRunning := true }

def directPagedConfig (diskPath : String) (diskReadOnly : Bool) (image : ElfImage.Image) (kernelPhysicalBase : Word) :
    MachineConfig where
  regions := [romWindow litexBootromBase [] 0x00 litexBootromSize "BOOTROM",
    romWindow litexFlashBase [] 0xFF litexFlashWindowSize "FLASH", ram litexSramBase litexSramSize "SRAM",
    preloadedRam kernelPhysicalBase image.bytes litexBootromRamSize "RAM"]
  devices := [⟨.liteDramDfiiStub, litexSdramCsrBase, "LITEDRAM"⟩,
    ⟨.liteSdCard diskPath diskReadOnly, litexSdcardBase, "LITESDCARD"⟩,
    ⟨.liteUart, litexBootromSdUartBase, "LITEUART"⟩, ⟨.timer, timerBase, "TIMER"⟩]

/-- The place of the device tree: a page boundary behind the image and thirty pages. -/
def dtbPhys (kernelPhysicalBase imageSpan : Word) : Word :=
  kernelPhysicalBase + ((imageSpan + 30 * 4096 + 0xFFF) &&& ~~~0xFFF)

def entryPhysical (image : ElfImage.Image) (kernelPhysicalBase : Word) : Option Word :=
  let imageSpan := BitVec.ofNat 64 image.bytes.length
  if image.base ≤ image.entry ∧ image.entry < image.base + imageSpan then
    some (kernelPhysicalBase + (image.entry - image.base))
  else if kernelPhysicalBase ≤ image.entry ∧ image.entry < kernelPhysicalBase + imageSpan then some image.entry
  else none

/-- The device tree is the caller's or the embedded one. -/
def loadProgramElfDirectPaged (file : Blob) (kernelPhysicalBase : Word) (dtb : Blob) (stackTopReserveBytes : Word) :
    Ending δ :=
  withImage available s ElfImage.directPaged file fun image =>
    if litexBootromRamSize.toNat < image.bytes.length then .returns false s
    else
      let diskPath := (s.validDisk.map AttachedDisk.path).getD ""
      let diskReadOnly := (s.disk.map AttachedDisk.readOnly).getD true
      withMachine model (directPagedConfig diskPath diskReadOnly image kernelPhysicalBase) fun machine =>
        let dtbPhys := dtbPhys kernelPhysicalBase (BitVec.ofNat 64 image.bytes.length)
        let machine :=
          if dtb ≠ [] ∧ dtbPhys + BitVec.ofNat 64 dtb.length ≤ kernelPhysicalBase + litexBootromRamSize then
            machine.writeBytes model dtbPhys dtb
          else machine
        let t := s.install machine kernelPhysicalBase litexBootromRamSize
        match entryPhysical image kernelPhysicalBase with
        | none => .returns false t
        | some entry =>
          if litexBootromRamSize < stackTopReserveBytes then .returns false t
          else
            let t := (t.setReg 1 dtbPhys).setReg 13 (kernelPhysicalBase + litexBootromRamSize - stackTopReserveBytes - 8)
            let t := t.setReg 15 entry
            .returns true { t with
              registers := { t.registers with bootInfoFramePhysical := dtbPhys }
              isRunning := true
              clockRunning := true }

def flashConfig (disk : Option AttachedDisk) (flash : Blob) : MachineConfig where
  regions := [ram 0 litexFlashRamSize "RAM", ram litexSramBase litexSramSize "SRAM",
    romWindow litexFlashBase flash 0xFF litexFlashWindowSize "FLASH"]
  devices := (match disk with
    | some d => [⟨.liteSdCard d.path d.readOnly, litexSdcardBase, "LITESDCARD"⟩,
        ⟨.liteUart, litexFlashSdUartBase, "LITEUART"⟩]
    | none => [⟨.liteUart, litexUartBase, "LITEUART"⟩]) ++ [⟨.timer, timerBase, "TIMER"⟩]

def loadProgramLiteXFlashImage (flash : Blob) : Ending δ :=
  if flash = [] ∨ litexFlashWindowSize.toNat < flash.length then .returns false s
  else
    let t := s.setBootSourcePages flash 4096
    withMachine model (flashConfig s.validDisk flash) fun machine =>
      let t := (t.install machine 0 litexFlashRamSize).setReg 15 litexFlashBase
      .returns true { t with isRunning := true, clockRunning := true }

def bootromConfig (disk : Option AttachedDisk) (bootrom : Blob) : MachineConfig where
  regions := [romWindow litexBootromBase bootrom 0x00 litexBootromSize "BOOTROM",
    romWindow litexFlashBase [] 0xFF litexFlashWindowSize "FLASH", ram litexSramBase litexSramSize "SRAM",
    ram litexBootromRamBase litexBootromRamSize "RAM"]
  devices := [⟨.liteDramDfiiStub, litexSdramCsrBase, "LITEDRAM"⟩] ++
    (disk.map fun d => (⟨.liteSdCard d.path d.readOnly, litexSdcardBase, "LITESDCARD"⟩ : DeviceConfig)).toList ++
    [⟨.liteUart, litexBootromSdUartBase, "LITEUART"⟩, ⟨.timer, timerBase, "TIMER"⟩]

def loadProgramLiteXBootRomImage (bootrom : Blob) : Ending δ :=
  if bootrom = [] ∨ litexBootromSize.toNat < bootrom.length then .returns false s
  else
    let t := s.setBootSourcePages bootrom 4096
    withMachine model (bootromConfig s.validDisk bootrom) fun machine =>
      let t := (t.install machine litexBootromRamBase litexBootromRamSize).setReg 15 litexBootromBase
      .returns true { t with isRunning := true, clockRunning := true }

end Loaders

end Little64.Emulator.ProgramLoading

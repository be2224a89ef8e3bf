import Little64.Library.ByteFile
import Little64.Emulator.Vectors

/-! The binary trace file: the writer with its buffer, its tags and its file, and the reader. -/

namespace Little64.Emulator

open LittleEndian ByteFile

namespace Trace

/-- Tags are pointers to constant strings; the same name may stand at several of them. -/
abbrev Pointer := ℕ

def utf8 (name : String) : List Byte := name.toUTF8.data.toList.map UInt8.toBitVec

structure Config where
  maxBytes : Word
  startCycle : Word
  endCycle : Word
  deriving DecidableEq, Repr

structure Event where
  tag : Pointer
  cycle : Word
  pc : Word
  a : Word
  b : Word
  c : Word
  deriving DecidableEq, Repr

structure TagEntry where
  ptr : Pointer
  name : String
  deriving DecidableEq, Repr

structure TraceWriter where
  buffer : List Byte
  eventsWritten : Word
  eventsDropped : Word
  bytesWritten : Word
  capReached : Bool
  tags : List TagEntry
  lastTagPtr : Option Pointer
  lastTagId : Byte
  /-- The file behind the descriptor, and the offset of the descriptor. -/
  file : List Byte
  pos : ℕ
  deriving DecidableEq, Repr

def kMagic : List Byte := [0x4C, 0x36, 0x34, 0x54]

def kFormatVersion : BitVec 32 := 1

def kHeaderSize : ℕ := 64

def kBinaryRecordSize : ℕ := 41

def kBufferSize : ℕ := 64 * 1024

def headerBytes (version flags tagCount : BitVec 32) (events total tagTableOffset eventsOffset : Word) : List Byte :=
  kMagic ++ le 4 version ++ le 4 flags ++ le 4 tagCount ++ le 8 events ++ le 8 total ++ le 8 tagTableOffset ++
    le 8 eventsOffset ++ List.replicate 16 0

def recordBytes (tagId : Byte) (e : Event) : List Byte :=
  tagId :: (le 8 e.cycle ++ le 8 e.pc ++ le 8 e.a ++ le 8 e.b ++ le 8 e.c)

/-- One entry of the tag table: a length byte and at most 255 bytes of the name. -/
def tagBytes (entry : TagEntry) : List Byte :=
  BitVec.ofNat 8 (min (utf8 entry.name).length 255) :: (utf8 entry.name).take (min (utf8 entry.name).length 255)

/-- The entries that fit into the buffer of a live tag table. -/
def liveTagBytes : List TagEntry → ℕ → List Byte
  | [], _ => []
  | entry :: rest, tagPos =>
    if tagPos + (tagBytes entry).length > 4096 then []
    else tagBytes entry ++ liveTagBytes rest (tagPos + (tagBytes entry).length)

namespace TraceWriter

variable (names : Pointer → String) (config : Config) (s : TraceWriter)

def write (data : List Byte) : TraceWriter :=
  { s with file := overwrite s.file s.pos data, pos := s.pos + data.length }

def lseek (offset : Word) : TraceWriter := { s with pos := offset.toNat }

def writeHeader : TraceWriter :=
  s.write (headerBytes kFormatVersion 0 (BitVec.ofNat 32 s.tags.length) s.eventsWritten
    (s.eventsWritten + s.eventsDropped) s.bytesWritten (BitVec.ofNat 64 kHeaderSize))

def writeHeaderPlaceholder : TraceWriter :=
  let s := s.write (headerBytes kFormatVersion 0 0 0 0 0 (BitVec.ofNat 64 kHeaderSize))
  { s with bytesWritten := s.bytesWritten + BitVec.ofNat 64 kHeaderSize }

/-- A freshly created file with a header that is still to be filled in. -/
def start : TraceWriter := writeHeaderPlaceholder
  { buffer := [], eventsWritten := 0, eventsDropped := 0, bytesWritten := 0, capReached := false, tags := []
    lastTagPtr := none, lastTagId := 0, file := [], pos := 0 }

def writeLiveTagTable : TraceWriter :=
  ((s.write (liveTagBytes s.tags 0)).lseek 0).writeHeader.lseek s.bytesWritten

def flushBuffer : TraceWriter :=
  if s.buffer = [] then s
  else
    let t := s.write s.buffer
    let t := { t with bytesWritten := s.bytesWritten + BitVec.ofNat 64 s.buffer.length, buffer := [] }
    if t.tags = [] then t else t.writeLiveTagTable

def resolveTagId (tag : Pointer) : Byte × TraceWriter :=
  if s.lastTagPtr = some tag then (s.lastTagId, s)
  else
    match s.tags.findIdx? fun entry => entry.ptr == tag with
    | some i => (BitVec.ofNat 8 i, { s with lastTagPtr := some tag, lastTagId := BitVec.ofNat 8 i })
    | none =>
      match s.tags.findIdx? fun entry => entry.name == names tag with
      | some i =>
        (BitVec.ofNat 8 i, { s with
          tags := s.tags.modify i fun entry => { entry with ptr := tag }
          lastTagPtr := some tag, lastTagId := BitVec.ofNat 8 i })
      | none =>
        if s.tags.length ≥ 255 then (255, { s with lastTagPtr := some tag, lastTagId := 255 })
        else
          (BitVec.ofNat 8 s.tags.length, { s with
            tags := s.tags ++ [⟨tag, names tag⟩]
            lastTagPtr := some tag, lastTagId := BitVec.ofNat 8 s.tags.length })

def capped : Bool :=
  decide (0 < config.maxBytes) && decide (config.maxBytes ≤ s.bytesWritten + BitVec.ofNat 64 s.buffer.length)

def writeEventImpl (e : Event) : TraceWriter :=
  if s.capped config then { s with capReached := true, eventsDropped := s.eventsDropped + 1 }
  else
    let (tagId, s) := s.resolveTagId names e.tag
    let s := if s.buffer.length + kBinaryRecordSize > kBufferSize then s.flushBuffer else s
    { s with buffer := s.buffer ++ recordBytes tagId e, eventsWritten := s.eventsWritten + 1 }

def writeEvent (e : Event) : TraceWriter :=
  if e.cycle < config.startCycle then s
  else if config.endCycle < e.cycle then s
  else if s.capReached then s
  else s.writeEventImpl names config e

/-- The tag table and the header for good. -/
def finalizeFile : TraceWriter :=
  ((s.lseek s.bytesWritten).write (s.tags.flatMap tagBytes)).lseek 0 |>.writeHeader

def close : TraceWriter := s.flushBuffer.finalizeFile

end TraceWriter

inductive Op
  | event (e : Event)
  | flush
  deriving DecidableEq, Repr

def perform (names : Pointer → String) (config : Config) (s : TraceWriter) : Op → TraceWriter
  | .event e => s.writeEvent names config e
  | .flush => s.flushBuffer

/-- The closed file after a run of the writer. -/
def closedFile (names : Pointer → String) (config : Config) (ops : List Op) : List Byte :=
  (ops.foldl (perform names config) TraceWriter.start).close.file

structure TraceHeader where
  magic : List Byte
  version : BitVec 32
  flags : BitVec 32
  tagCount : BitVec 32
  eventCount : Word
  totalEventsWritten : Word
  tagTableOffset : Word
  eventsOffset : Word
  deriving DecidableEq, Repr

structure TraceEvent where
  tagId : Byte
  cycle : Word
  pc : Word
  a : Word
  b : Word
  c : Word
  deriving DecidableEq, Repr

def readHeader (file : List Byte) : Option TraceHeader :=
  let data := file.take 64
  if data.length < 64 then none
  else some ⟨data.take 4, field 32 data 4 4, field 32 data 8 4, field 32 data 12 4, field 64 data 16 8, field 64 data 24 8,
    field 64 data 32 8, field 64 data 40 8⟩

/-- The names of the tag table in the order of their numbers, up to the end of the file. -/
def readTags (decode : List Byte → String) : ℕ → List Byte → List String
  | 0, _ => []
  | _ + 1, [] => []
  | n + 1, nameLen :: rest => decode (rest.take nameLen.toNat) :: readTags decode n (rest.drop nameLen.toNat)

def readTagTable (decode : List Byte → String) (file : List Byte) (header : TraceHeader) : List String :=
  readTags decode header.tagCount.toNat (file.drop header.tagTableOffset.toNat)

def parseRecord (record : List Byte) : TraceEvent :=
  ⟨field 8 record 0 1, field 64 record 1 8, field 64 record 9 8, field 64 record 17 8, field 64 record 25 8,
    field 64 record 33 8⟩

/-- The batches of the reader; `none` where a batch is no whole number of records. -/
def readBatches (bytes : List Byte) (remaining : ℕ) : Option (List TraceEvent) :=
  if remaining = 0 then some []
  else
    let n := min 1600 remaining
    let data := bytes.take (n * 41)
    if data.length < 41 then some []
    else if data.length % 41 ≠ 0 then none
    else (readBatches (bytes.drop (n * 41)) (remaining - n)).map (unpack parseRecord 41 (data.length / 41) data ++ ·)
termination_by remaining
decreasing_by omega

def iterEvents (file : List Byte) (header : TraceHeader) : Option (List TraceEvent) :=
  readBatches (file.drop header.eventsOffset.toNat) header.eventCount.toNat

end Trace

end Little64.Emulator

import Little64.Library.BufferedReader
import Little64.Emulator.LiveTrace

/-! A watcher that follows a trace file while it is written. -/

namespace Little64.Emulator

open LittleEndian ByteFile BufferedReader

namespace Trace

/-- The options of `watch`, the block of its reader, and what it makes of the bytes of a name. -/
structure WatchSettings where
  initialN : ℕ
  block : ℕ
  decode : List Byte → String
  isprintable : String → Bool

/-- The variables of `watch` between two polls; `emitted` are the records it has printed. -/
structure Watcher where
  reader : Reader Byte
  header : TraceHeader
  tags : List String
  skip : ℕ
  eventPos : ℕ
  sizeHwm : ℕ
  emitted : List TraceEvent
  deriving DecidableEq

section Watching

variable (settings : WatchSettings) (file : List Byte)

/-- `read_tag_table` behind its seek: names up to the end of the file. -/
def readTagNames : ℕ → Reader Byte → List String × Reader Byte
  | 0, r => ([], r)
  | n + 1, r =>
    match r.read settings.block file 1 with
    | ([], r) => ([], r)
    | (nameLen :: _, r) =>
      let (name, r) := r.read settings.block file nameLen.toNat
      let (names, r) := readTagNames n r
      (settings.decode name :: names, r)

def tryReadTags (r : Reader Byte) (header : TraceHeader) : List String × Reader Byte :=
  if header.tagTableOffset = 0 ∨ header.tagCount = 0 then ([], r)
  else
    let (tags, next) := readTagNames settings file header.tagCount.toNat (r.seek header.tagTableOffset.toNat)
    let next := next.seek r.tell
    if tags.all fun name => name != "" && settings.isprintable name then (tags, next) else ([], next)

def refreshHeader (r : Reader Byte) : Option TraceHeader × Reader Byte :=
  let (data, next) := (r.seek 0).read settings.block file 64
  match readHeader data with
  | none => (none, next)
  | some header =>
    let next := next.seek r.tell
    if header.magic ≠ kMagic then (none, next) else (some header, next)

/-- The existing records that are not shown. -/
def skipped (header : TraceHeader) : ℕ :=
  header.eventCount.toNat - min settings.initialN header.eventCount.toNat

def readExisting (r : Reader Byte) (header : TraceHeader) : List Byte × Reader Byte :=
  if 0 < header.eventCount.toNat ∧ 0 < settings.initialN then
    (r.seek (header.eventsOffset.toNat + skipped settings header * 41)).read settings.block file
      (min settings.initialN header.eventCount.toNat * 41)
  else ([], r)

/-- Opening the file; `none` where the watcher waits for a file it can follow. -/
def attach : Option Watcher :=
  if file.length < 64 then none
  else
    let (data, r) := (Reader.emptyAt 0).read settings.block file 64
    match readHeader data with
    | none => none
    | some header =>
      if header.magic ≠ kMagic then none
      else
        let (tags, r) := tryReadTags settings file r header
        let (shown, r) := readExisting settings file r header
        -- A part of a record at the end is an error that ends the command.
        if shown.length % 41 ≠ 0 then none
        else
          let eventPos := header.eventsOffset.toNat + header.eventCount.toNat * 41
          some
            { reader := r.seek eventPos
              header := header
              tags := tags
              skip := skipped settings header
              eventPos := eventPos
              sizeHwm := file.length
              emitted := unpack parseRecord 41 (shown.length / 41) shown }

variable (w : Watcher)

/-- The records that the size of the file leaves room for. -/
def availableRecords : ℕ :=
  let eventsEnd := w.header.eventsOffset.toNat + (file.length - w.header.eventsOffset.toNat) / 41 * 41
  (eventsEnd - w.eventPos) / 41

def emitRecords : Watcher :=
  if 0 < availableRecords file w then
    let (data, r) := w.reader.read settings.block file (availableRecords file w * 41)
    { w with
      reader := r
      eventPos := w.eventPos + data.length / 41 * 41
      emitted := w.emitted ++ unpack parseRecord 41 (data.length / 41) data }
  else w

def refresh : Watcher :=
  match refreshHeader settings file w.reader with
  | (none, r) => { w with reader := r }
  | (some header, r) =>
    let (tags, r) :=
      if w.tags = [] ∨ w.tags.length < header.tagCount.toNat then
        let (newTags, r) := tryReadTags settings file r header
        (if newTags = [] then w.tags else newTags, r)
      else (w.tags, r)
    { w with header := header, tags := tags, reader := r.seek w.eventPos }

/-- One turn of the loop; a file that became shorter is opened again. -/
def poll : Option Watcher :=
  if file.length < w.sizeHwm then attach settings file
  else some (refresh settings file (emitRecords settings file { w with sizeHwm := max w.sizeHwm file.length }))

end Watching

/-- What the file holds between two writes, and where its records end. -/
structure Version where
  file : List Byte
  recordsEnd : ℕ
  deriving DecidableEq

namespace TraceWriter

variable (s : TraceWriter)

/-- The writer once the buffer is written. -/
def drain : TraceWriter :=
  { s.write s.buffer with bytesWritten := s.bytesWritten + BitVec.ofNat 64 s.buffer.length, buffer := [] }

/-- The file after each write of a flush: the records, the tag table, the header. -/
def flushVersions : List Version :=
  if s.buffer = [] then []
  else if s.drain.tags = [] then [⟨s.drain.file, s.drain.bytesWritten.toNat⟩]
  else [⟨s.drain.file, s.drain.bytesWritten.toNat⟩,
    ⟨(s.drain.write (liveTagBytes s.drain.tags 0)).file, s.drain.bytesWritten.toNat⟩,
    ⟨s.flushBuffer.file, s.drain.bytesWritten.toNat⟩]

end TraceWriter

/-- The writes of a step; an event flushes with its tag already entered. -/
def stepVersions (names : Pointer → String) (config : Config) (s : TraceWriter) (op : Op) : List Version :=
  if (perform names config s op).bytesWritten = s.bytesWritten then []
  else
    match op with
    | .flush => s.flushVersions
    | .event e => (s.resolveTagId names e.tag).2.flushVersions

/-- A writer, the file, the writes that are still to come of a step of the writer, and a watcher. -/
structure Session where
  writer : TraceWriter
  disk : Version
  pending : List Version
  watcher : Option Watcher
  deriving DecidableEq

inductive Action
  | op (op : Op)
  | write
  | attach
  | poll
  deriving DecidableEq, Repr

def Session.start : Session := ⟨TraceWriter.start, ⟨TraceWriter.start.file, kHeaderSize⟩, [], none⟩

variable (settings : WatchSettings) (names : Pointer → String) (config : Config)

/-- The writer goes on only when its last step is on the disk; the watcher acts in between as it likes. -/
def Session.act (σ : Session) : Action → Session
  | .op op =>
    if σ.pending = [] then
      { σ with writer := perform names config σ.writer op, pending := stepVersions names config σ.writer op }
    else σ
  | .write =>
    match σ.pending with
    | [] => σ
    | v :: rest => { σ with disk := v, pending := rest }
  | .attach => { σ with watcher := attach settings σ.disk.file }
  | .poll => { σ with watcher := σ.watcher.bind (poll settings σ.disk.file) }

end Trace

end Little64.Emulator

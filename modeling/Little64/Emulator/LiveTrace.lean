import Little64.Emulator.TraceRoundTrip

/-! Trace files that are read while they are written, or after the writer crashed. -/

namespace Little64.Emulator

open LittleEndian ByteFile

namespace Trace

/-- The crash path: the buffer goes where the descriptor stands, and nothing else is written. -/
def TraceWriter.signalFlush (s : TraceWriter) : TraceWriter :=
  if s.buffer = [] then s else { s.write s.buffer with buffer := [] }

/-- The batches of the `decode` command, which are larger than those of `iter_events`. -/
def decodeBatches (bytes : List Byte) (remaining : ℕ) : Option (List TraceEvent) :=
  if remaining = 0 then some []
  else
    let n := min 4096 remaining
    let data := bytes.take (n * 41)
    if data.length < 41 then some []
    else if data.length % 41 ≠ 0 then none
    else (decodeBatches (bytes.drop (n * 41)) (remaining - n)).map (unpack parseRecord 41 (data.length / 41) data ++ ·)
termination_by remaining
decreasing_by omega

def cmdDecode (file : List Byte) (header : TraceHeader) : Option (List TraceEvent) :=
  decodeBatches (file.drop header.eventsOffset.toNat) header.eventCount.toNat

structure NamedEvent where
  name : String
  cycle : Word
  pc : Word
  a : Word
  b : Word
  c : Word
  deriving DecidableEq, Repr

/-- A record as it is printed; a number without an entry in the table gets a name of its own. -/
def TraceEvent.named (tags : List String) (ev : TraceEvent) : NamedEvent :=
  ⟨tags[ev.tagId.toNat]?.getD ("tag_" ++ toString ev.tagId.toNat), ev.cycle, ev.pc, ev.a, ev.b, ev.c⟩

def Event.named (names : Pointer → String) (e : Event) : NamedEvent := ⟨names e.tag, e.cycle, e.pc, e.a, e.b, e.c⟩

/-- The file is read without an error, and what is read are the first of the events, at least as many as its header
counts. -/
def Decodable (decode : List Byte → String) (names : Pointer → String) (file : List Byte) (events : List Event) :
    Prop :=
  ∃ header decoded n, readHeader file = some header ∧ header.magic = kMagic ∧ iterEvents file header = some decoded ∧
    cmdDecode file header = some decoded ∧ header.eventCount.toNat ≤ n ∧ n ≤ events.length ∧
    decoded.map (TraceEvent.named (readTagTable decode file header)) = (events.take n).map (Event.named names)

/-- The entries of the tag table fit into the buffer of a live one. -/
def TagsFit (tags : List TagEntry) : Prop := (tags.flatMap tagBytes).length ≤ 4096

/-- A step that flushes does so with tags of this kind. -/
def FlushMeets (Q : List TagEntry → Prop) (names : Pointer → String) (config : Config) (s : TraceWriter) (op : Op) :
    Prop :=
  (perform names config s op).bytesWritten ≠ s.bytesWritten → Q (perform names config s op).tags

def FlushesMeet (Q : List TagEntry → Prop) (names : Pointer → String) (config : Config) : TraceWriter → List Op → Prop
  | _, [] => True
  | s, op :: ops => FlushMeets Q names config s op ∧ FlushesMeet Q names config (perform names config s op) ops

instance (tags : List TagEntry) : Decidable (TagsFit tags) := inferInstanceAs (Decidable (_ ≤ _))

instance (Q : List TagEntry → Prop) [DecidablePred Q] (names : Pointer → String) (config : Config) (s : TraceWriter)
    (op : Op) : Decidable (FlushMeets Q names config s op) := inferInstanceAs (Decidable (_ → _))

instance decidableFlushesMeet (Q : List TagEntry → Prop) [DecidablePred Q] (names : Pointer → String)
    (config : Config) :
    (s : TraceWriter) → (ops : List Op) → Decidable (FlushesMeet Q names config s ops)
  | _, [] => .isTrue trivial
  | s, op :: ops =>
    have := decidableFlushesMeet Q names config (perform names config s op) ops
    inferInstanceAs (Decidable (_ ∧ _))

lemma liveTagBytes_all {tags : List TagEntry} {tagPos : ℕ} (h : tagPos + (tags.flatMap tagBytes).length ≤ 4096) :
    liveTagBytes tags tagPos = tags.flatMap tagBytes := by
  induction tags generalizing tagPos with
  | nil => rfl
  | cons entry tags ih =>
    rw [List.flatMap_cons, List.length_append, ← Nat.add_assoc] at h
    rw [liveTagBytes, if_neg (by omega), ih h, List.flatMap_cons]

lemma decodeBatches_records (records : List (Byte × Event)) (rest : List Byte) :
    decodeBatches (encode records ++ rest) records.length =
      some (records.map fun p => ⟨p.1, p.2.cycle, p.2.pc, p.2.a, p.2.b, p.2.c⟩) := by
  have hbatch : 0 < 4096 := by decide
  apply batches_records hbatch
  intro bytes remaining
  rw [decodeBatches]

section Live

variable {Q : List TagEntry → Prop} {names : Pointer → String} {all : List String} {config : Config} {s : TraceWriter}
  {records flushed : List (Byte × Event)} {e : Event}

/-- The header, the records and the tags of a file as the last flush left them. -/
def liveFile (tags : List TagEntry) (flushed : List (Byte × Event)) (total : Word) (stale : List Byte) : List Byte :=
  headerBytes kFormatVersion 0 (BitVec.ofNat 32 tags.length) (BitVec.ofNat 64 flushed.length) total
    (BitVec.ofNat 64 (64 + 41 * flushed.length)) (BitVec.ofNat 64 kHeaderSize) ++
      (encode flushed ++ (liveTagBytes tags 0 ++ stale))

/-- The file before the first flush, or after the last one; the tags have only become more since. -/
def OnDisk (Q : List TagEntry → Prop) (names : Pointer → String) (s : TraceWriter) (flushed : List (Byte × Event)) :
    Prop :=
  flushed = [] ∧ s.file = headerBytes kFormatVersion 0 0 0 0 0 (BitVec.ofNat 64 kHeaderSize) ∨
    ∃ tags stale total, Q tags ∧ tags.map TagEntry.name <+: s.tags.map TagEntry.name ∧
      (∀ p ∈ flushed, Names tags p.1 (names p.2.tag)) ∧ s.file = liveFile tags flushed total stale

/-- A writer whose file can be read while it goes on. -/
structure Live (Q : List TagEntry → Prop) (names : Pointer → String) (all : List String) (s : TraceWriter)
    (records : List (Byte × Event)) : Prop extends Recording names all s records where
  disk : ∃ flushed, flushed <+: records ∧ s.pos = 64 + 41 * flushed.length ∧ OnDisk Q names s flushed

lemma OnDisk.mono {t : TraceWriter} (h : OnDisk Q names s flushed) (hfile : t.file = s.file)
    (htags : s.tags.map TagEntry.name <+: t.tags.map TagEntry.name) : OnDisk Q names t flushed := by
  rcases h with ⟨hnil, hempty⟩ | ⟨tags, stale, total, hQ, hleading, hnames, hdisk⟩
  · exact .inl ⟨hnil, hfile.trans hempty⟩
  · exact .inr ⟨tags, stale, total, hQ, hleading.trans htags, hnames, hfile.trans hdisk⟩

lemma live_start : Live Q names all TraceWriter.start [] where
  toRecording := recording_start
  disk := ⟨[], List.prefix_rfl, rfl, .inl ⟨rfl, rfl⟩⟩

lemma Recording.tags_ne_nil (h : Recording names all s records) (hrecords : records ≠ []) : s.tags ≠ [] := by
  intro hnil
  obtain ⟨p, rest, rfl⟩ := List.exists_cons_of_ne_nil hrecords
  have hnamed := h.known p List.mem_cons_self
  rw [Names, hnil] at hnamed
  cases hnamed

lemma Recording.flushed_file (h : Recording names all s records) (hbuffer : s.buffer ≠ []) :
    ∃ stale, s.flushBuffer.file = liveFile s.tags records (s.eventsWritten + s.eventsDropped) stale := by
  obtain ⟨flushed, buffered, rfl, hwriting⟩ := h.writing
  have hnonempty : flushed ++ buffered ≠ [] := by
    intro hnil
    apply hbuffer
    rw [hwriting.buffer, (List.append_eq_nil_iff.mp hnil).2]
    rfl
  have hdrained := hwriting.drained
  obtain ⟨stale, hfile⟩ := hdrained.liveTagTable_file
  refine ⟨stale, ?_⟩
  rw [TraceWriter.flushBuffer, if_neg hbuffer]
  simp only
  have htags : (s.write s.buffer).tags ≠ [] := h.tags_ne_nil hnonempty
  rw [if_neg htags]
  refine hfile.trans ?_
  have hcount : s.eventsWritten = BitVec.ofNat 64 (flushed ++ buffered).length := hdrained.count
  have hbytes : s.bytesWritten + BitVec.ofNat 64 s.buffer.length =
    BitVec.ofNat 64 (64 + 41 * (flushed ++ buffered).length) :=
    hdrained.bytes
  rw [liveFile, ← hcount, ← hbytes]
  rfl

lemma Live.flushBuffer (h : Live Q names all s records) (hfits : 64 + 41 * records.length < 2 ^ 63)
    (hQ : s.buffer ≠ [] → Q s.tags) : Live Q names all s.flushBuffer records := by
  obtain ⟨hrecording, -, htags, hwriting⟩ := h.toRecording.flushBuffer hfits
  refine ⟨hrecording, ?_⟩
  by_cases hbuffer : s.buffer = []
  · have hsame : s.flushBuffer = s := if_pos hbuffer
    rw [hsame]
    exact h.disk
  · obtain ⟨stale, hfile⟩ := h.toRecording.flushed_file hbuffer
    refine ⟨records, List.prefix_rfl, hwriting.pos, .inr ⟨s.tags, stale, _, hQ hbuffer, ?_, h.known, hfile⟩⟩
    rw [htags]

lemma Writing.flushBuffer_bytes {buffered : List (Byte × Event)} (h : Writing s flushed buffered)
    (hbuffer : s.buffer ≠ []) :
    s.flushBuffer.bytesWritten ≠ s.bytesWritten := by
  have hbytes : s.flushBuffer.bytesWritten = s.bytesWritten + BitVec.ofNat 64 s.buffer.length := by
    rw [TraceWriter.flushBuffer, if_neg hbuffer]
    simp only
    split <;> rfl
  have hlength : s.buffer.length = 41 * buffered.length := by rw [h.buffer, length_encode]
  have hpos : 0 < s.buffer.length := List.length_pos_of_ne_nil hbuffer
  have hroom := h.room
  rw [hbytes]
  intro hsame
  have hzero : (BitVec.ofNat 64 s.buffer.length).toNat = 0 := by
    rw [BitVec.add_right_eq_self.mp hsame]
    rfl
  rw [BitVec.toNat_ofNat] at hzero
  omega

lemma Recording.flushBuffer_bytes (h : Recording names all s records) (hbuffer : s.buffer ≠ []) :
    s.flushBuffer.bytesWritten ≠ s.bytesWritten := by
  obtain ⟨flushed, buffered, -, hwriting⟩ := h.writing
  exact hwriting.flushBuffer_bytes hbuffer

/-- What a step hands to the buffer. -/
def accepted (config : Config) (s : TraceWriter) : Op → List Event
  | .flush => []
  | .event e => if inWindow config e && !s.capReached && !s.capped config then [e] else []

lemma Live.makeRoom (h : Live Q names all s records) (hfits : 64 + 41 * records.length < 2 ^ 63)
    (hQ : (Trace.makeRoom s).bytesWritten ≠ s.bytesWritten → Q s.tags) :
      Live Q names all (Trace.makeRoom s) records := by
  unfold Trace.makeRoom at hQ ⊢
  split at hQ
  · next hroom =>
    rw [if_pos hroom]
    apply h.flushBuffer hfits
    intro hbuffer
    exact hQ (h.toRecording.flushBuffer_bytes hbuffer)
  · next hroom =>
    rw [if_neg hroom]
    exact h

lemma writeEventImpl_eq (names : Pointer → String) (e : Event) (hcapped : s.capped config = false) :
    s.writeEventImpl names config e =
      { Trace.makeRoom (s.resolveTagId names e.tag).2 with
        buffer := (Trace.makeRoom (s.resolveTagId names e.tag).2).buffer ++ recordBytes (s.resolveTagId names e.tag).1 e
        eventsWritten := (Trace.makeRoom (s.resolveTagId names e.tag).2).eventsWritten + 1 } := by
  rw [TraceWriter.writeEventImpl, hcapped, if_neg Bool.false_ne_true]
  rfl

lemma Live.record (h : Live Q names all s records) (hall : all.dedup.length ≤ 255) (he : names e.tag ∈ all)
    (hfits : 64 + 41 * records.length < 2 ^ 63) (hcap : s.capReached = false) (hcapped : s.capped config = false)
    (hmeets : (s.writeEventImpl names config e).bytesWritten ≠ s.bytesWritten →
      Q (s.writeEventImpl names config e).tags) :
    ∃ id, Live Q names all (s.writeEventImpl names config e) (records ++ [(id, e)]) := by
  obtain ⟨id, hrecording, -⟩ := h.toRecording.record hall he hfits hcap hcapped
  refine ⟨id, hrecording, ?_⟩
  obtain ⟨hmid, -, hleading, tags, ptr, lastId, hresolved⟩ := h.toRecording.resolveTagId hall he
  rw [writeEventImpl_eq names e hcapped] at hmeets ⊢
  generalize s.resolveTagId names e.tag = resolved at *
  obtain ⟨found, t⟩ := resolved
  have hlive : Live Q names all t records := by
    obtain ⟨flushed, hflushed, hpos, hdisk⟩ := h.disk
    subst hresolved
    exact ⟨hmid, flushed, hflushed, hpos, hdisk.mono rfl hleading⟩
  have htags : (Trace.makeRoom t).tags = t.tags := (hmid.makeRoom hfits).2.2.1
  have hroomy : Live Q names all (Trace.makeRoom t) records := by
    apply hlive.makeRoom hfits
    intro hbytes
    rw [← htags]
    apply hmeets
    subst hresolved
    exact hbytes
  obtain ⟨flushed, hflushed, hpos, hdisk⟩ := hroomy.disk
  exact ⟨flushed, hflushed.trans (List.prefix_append _ _), hpos, hdisk.mono rfl List.prefix_rfl⟩

lemma Live.event (h : Live Q names all s records) (hall : all.dedup.length ≤ 255) (he : names e.tag ∈ all)
    (hfits : 64 + 41 * records.length < 2 ^ 63) (hmeets : FlushMeets Q names config s (.event e)) :
    ∃ new, Live Q names all (s.writeEvent names config e) (records ++ new) ∧
      new.map Prod.snd = accepted config s (.event e) := by
  have hkept (t : TraceWriter) (ht : Live Q names all t records) (hnone : accepted config s (.event e) = []) :
      ∃ new, Live Q names all t (records ++ new) ∧ new.map Prod.snd = accepted config s (.event e) :=
    ⟨[], by rwa [List.append_nil], hnone.symm⟩
  cases hwindow : inWindow config e with
  | false =>
    rw [writeEvent_out hwindow]
    exact hkept s h (by rw [accepted, hwindow]; rfl)
  | true =>
    cases hcap : s.capReached with
    | true =>
      have hsame : s.writeEvent names config e = s := by
        rw [TraceWriter.writeEvent, hcap, if_pos rfl, ite_self, ite_self]
      rw [hsame]
      exact hkept s h (by rw [accepted, hwindow, hcap]; rfl)
    | false =>
      rw [FlushMeets, perform] at hmeets
      rw [writeEvent_in hwindow hcap] at hmeets ⊢
      cases hcapped : s.capped config with
      | true =>
        rw [TraceWriter.writeEventImpl, hcapped, if_pos rfl]
        apply hkept
        · obtain ⟨flushed, buffered, hrecords, hwriting⟩ := h.writing
          exact ⟨⟨⟨flushed, buffered, hrecords, ⟨hwriting.file, hwriting.pos, hwriting.bytes, hwriting.buffer,
            hwriting.room, hwriting.count⟩⟩, ⟨h.tags.ptrs, h.tags.last, h.tags.nodup, h.tags.among⟩, h.known⟩, h.disk⟩
        · rw [accepted, hwindow, hcap, hcapped]
          rfl
      | false =>
        obtain ⟨id, hlive⟩ := h.record hall he hfits hcap hcapped hmeets
        exact ⟨[(id, e)], hlive, by rw [accepted, hwindow, hcap, hcapped]; rfl⟩

lemma Live.step (h : Live Q names all s records) (hall : all.dedup.length ≤ 255) {op : Op}
    (hop : ∀ e, op.submitted = some e → names e.tag ∈ all) (hfits : 64 + 41 * records.length < 2 ^ 63)
    (hmeets : FlushMeets Q names config s op) :
    ∃ new, Live Q names all (perform names config s op) (records ++ new) ∧ new.map Prod.snd = accepted config s op := by
  cases op with
  | event e => exact h.event hall (hop e rfl) hfits hmeets
  | flush =>
    refine ⟨[], ?_, rfl⟩
    rw [List.append_nil]
    apply h.flushBuffer hfits
    intro hbuffer
    have htags := (h.toRecording.flushBuffer hfits).2.2.1
    rw [← htags]
    exact hmeets (h.toRecording.flushBuffer_bytes hbuffer)

lemma Live.nothing_flushed (h : Live Q names all s records) (hnothing : s.bytesWritten = BitVec.ofNat 64 kHeaderSize)
    (hfits : 64 + 41 * records.length < 2 ^ 63) :
    ∃ tagCount total tableOffset rest, s.signalFlush.file =
      headerBytes kFormatVersion 0 tagCount 0 total tableOffset (BitVec.ofNat 64 kHeaderSize) ++ rest := by
  obtain ⟨flushed, -, hpos, hdisk⟩ := h.disk
  obtain ⟨flushed', buffered, rfl, hwriting⟩ := h.writing
  rw [List.length_append] at hfits
  have hbytes := hwriting.toNat_bytes (by omega)
  rw [hnothing] at hbytes
  have hnone : flushed'.length = 0 := by
    change 64 = _ at hbytes
    omega
  have hsame := hpos.symm.trans hwriting.pos
  have hnil : flushed = [] := List.length_eq_zero_iff.mp (by omega)
  subst hnil
  have hshape : ∃ tagCount total tableOffset rest, s.file =
      headerBytes kFormatVersion 0 tagCount 0 total tableOffset (BitVec.ofNat 64 kHeaderSize) ++ rest := by
    rcases hdisk with ⟨-, hempty⟩ | ⟨tags, stale, total, -, -, -, hdisk⟩
    · exact ⟨0, 0, 0, [], hempty.trans (List.append_nil _).symm⟩
    · exact ⟨_, total, _, _, hdisk⟩
  obtain ⟨tagCount, total, tableOffset, rest, hfile⟩ := hshape
  refine ⟨tagCount, total, tableOffset, ?_⟩
  unfold TraceWriter.signalFlush
  split
  · exact ⟨rest, hfile⟩
  · change ∃ _, overwrite s.file s.pos s.buffer = _
    have hlength : (headerBytes kFormatVersion 0 tagCount 0 total tableOffset (BitVec.ofNat 64 kHeaderSize)).length =
        s.pos := length_headerBytes.trans hpos.symm
    rw [hfile, ← hlength, overwrite_append, List.append_assoc]
    exact ⟨_, rfl⟩

/-- What a run hands to the buffer. -/
def acceptedRun (names : Pointer → String) (config : Config) : TraceWriter → List Op → List Event
  | _, [] => []
  | s, op :: ops => accepted config s op ++ acceptedRun names config (perform names config s op) ops

lemma Live.run {ops : List Op} (h : Live Q names all s records) (hall : all.dedup.length ≤ 255)
    (hamong : ∀ e ∈ ops.filterMap Op.submitted, names e.tag ∈ all)
    (hfits : 64 + 41 * (records.length + (acceptedRun names config s ops).length) < 2 ^ 63)
    (hmeets : FlushesMeet Q names config s ops) :
    ∃ new, Live Q names all (ops.foldl (perform names config) s) (records ++ new) ∧
      new.map Prod.snd = acceptedRun names config s ops := by
  induction ops generalizing s records with
  | nil => exact ⟨[], by rwa [List.append_nil], rfl⟩
  | cons op ops ih =>
    have hop (e : Event) (he : op.submitted = some e) : names e.tag ∈ all :=
      hamong e (List.mem_filterMap.mpr ⟨op, List.mem_cons_self, he⟩)
    rw [acceptedRun, List.length_append] at hfits
    obtain ⟨new, hlive, hnew⟩ := h.step hall hop (by omega) hmeets.1
    have hlength : new.length = (accepted config s op).length := by rw [← hnew, List.length_map]
    obtain ⟨later, hdone, hlater⟩ := ih hlive
      (fun e he => hamong e ((List.Sublist.filterMap _ (List.sublist_cons_self op ops)).mem he))
      (by rw [List.length_append]; omega) hmeets.2
    refine ⟨new ++ later, ?_, ?_⟩
    · rw [← List.append_assoc]
      exact hdone
    · rw [List.map_append, hnew, hlater, acceptedRun]

lemma flushBuffer_capReached : s.flushBuffer.capReached = s.capReached := by
  unfold TraceWriter.flushBuffer
  split
  · rfl
  · simp only
    split <;> rfl

lemma resolveTagId_capReached (tag : Pointer) : (s.resolveTagId names tag).2.capReached = s.capReached := by
  unfold TraceWriter.resolveTagId
  split
  · rfl
  · split
    · rfl
    · split
      · rfl
      · split <;> rfl

lemma perform_capReached (hcap : config.maxBytes = 0) (op : Op) :
    (perform names config s op).capReached = s.capReached := by
  have hcapped : s.capped config = false := by
    rw [TraceWriter.capped, hcap]
    rfl
  cases op with
  | flush => exact flushBuffer_capReached
  | event e =>
    rw [perform, TraceWriter.writeEvent]
    split
    · rfl
    split
    · rfl
    split
    · rfl
    rw [writeEventImpl_eq names e hcapped]
    change (Trace.makeRoom _).capReached = _
    unfold Trace.makeRoom
    split
    · exact flushBuffer_capReached.trans (resolveTagId_capReached _)
    · exact resolveTagId_capReached _

lemma acceptedRun_uncapped (hcap : config.maxBytes = 0) (hreached : s.capReached = false) (ops : List Op) :
    acceptedRun names config s ops = (ops.filterMap Op.submitted).filter (inWindow config) := by
  induction ops generalizing s with
  | nil => rfl
  | cons op ops ih =>
    rw [acceptedRun, ih ((perform_capReached hcap op).trans hreached)]
    cases op with
    | flush => rfl
    | event e =>
      have hcapped : s.capped config = false := by
        rw [TraceWriter.capped, hcap]
        rfl
      rw [accepted, hreached, hcapped]
      change _ = (e :: ops.filterMap Op.submitted).filter (inWindow config)
      cases hwindow : inWindow config e with
      | true =>
        rw [List.filter_cons_of_pos hwindow]
        rfl
      | false =>
        rw [List.filter_cons_of_neg (by rw [hwindow]; exact Bool.false_ne_true)]
        rfl

end Live

section Decoding

variable {names : Pointer → String} {decode : List Byte → String} {events : List Event}

lemma decodable_empty (tagCount : BitVec 32) (total tagTableOffset : Word) (rest : List Byte) :
    Decodable decode names (headerBytes kFormatVersion 0 tagCount 0 total tagTableOffset
      (BitVec.ofNat 64 kHeaderSize) ++
      rest) events := by
  refine ⟨_, [], 0, readHeader_headerBytes rest, rfl, ?_, ?_, le_rfl, Nat.zero_le _, rfl⟩
  · rw [iterEvents, readBatches]
    rfl
  · rw [cmdDecode, decodeBatches]
    rfl

lemma decodable_liveFile {tags : List TagEntry} {flushed : List (Byte × Event)} (total : Word) (stale : List Byte)
    (hdecode : ∀ name, decode (utf8 name) = name) (htags : tags.length ≤ 255)
    (hlength : ∀ t ∈ tags, (utf8 t.name).length ≤ 255) (hfit : TagsFit tags)
    (hnames : ∀ p ∈ flushed, Names tags p.1 (names p.2.tag)) (hleading : flushed.map Prod.snd <+: events)
    (hfits : 64 + 41 * flushed.length < 2 ^ 63) :
      Decodable decode names (liveFile tags flushed total stale) events := by
  have hcount : (BitVec.ofNat 64 flushed.length).toNat = flushed.length := by
    rw [BitVec.toNat_ofNat]
    omega
  have htable : (BitVec.ofNat 64 (64 + 41 * flushed.length)).toNat = 64 + 41 * flushed.length := by
    rw [BitVec.toNat_ofNat]
    omega
  have htagCount : (BitVec.ofNat 32 tags.length).toNat = tags.length := by
    rw [BitVec.toNat_ofNat]
    omega
  have hlive : liveTagBytes tags 0 = tags.flatMap tagBytes := liveTagBytes_all (by rw [Nat.zero_add]; exact hfit)
  have hbody : (liveFile tags flushed total stale).drop (BitVec.ofNat 64 kHeaderSize : Word).toNat =
      encode flushed ++ (liveTagBytes tags 0 ++ stale) := List.drop_left' length_headerBytes
  obtain ⟨rest, hrest⟩ := hleading
  refine ⟨_, flushed.map fun p => ⟨p.1, p.2.cycle, p.2.pc, p.2.a, p.2.b, p.2.c⟩, flushed.length,
    readHeader_headerBytes _, rfl, ?_, ?_, hcount.le, ?_, ?_⟩
  · rw [iterEvents, hbody, hcount]
    exact readBatches_records _ _
  · rw [cmdDecode, hbody, hcount]
    exact decodeBatches_records _ _
  · rw [← hrest, List.length_append, List.length_map]
    exact Nat.le_add_right _ _
  · have hread : readTagTable decode (liveFile tags flushed total stale) ⟨kMagic, kFormatVersion, 0,
        BitVec.ofNat 32 tags.length, BitVec.ofNat 64 flushed.length, total, BitVec.ofNat 64 (64 + 41 * flushed.length),
        BitVec.ofNat 64 kHeaderSize⟩ = tags.map TagEntry.name := by
      rw [readTagTable, liveFile, hlive]
      simp only
      rw [htagCount, htable, ← List.append_assoc,
        List.drop_left' (by rw [List.length_append, length_headerBytes, length_encode])]
      exact readTags_tagBytes hdecode tags hlength stale
    rw [hread, ← hrest, List.take_left' (List.length_map _), List.map_map, List.map_map]
    apply List.map_congr_left
    intro p hp
    have hnamed := hnames p hp
    rw [Names] at hnamed
    simp only [Function.comp, TraceEvent.named, Event.named, hnamed, Option.getD_some]

end Decoding

/-- Wherever a run stops, its file is decodable; after a crash it is where nothing was buffered or nothing flushed
before. -/
theorem live_trace_decodable (names : Pointer → String) (decode : List Byte → String) (config : Config) (ops : List Op)
    (hdecode : ∀ name, decode (utf8 name) = name) (hcap : config.maxBytes = 0)
    (htags : ((ops.filterMap Op.submitted).map fun e => names e.tag).dedup.length ≤ 255)
    (hlength : ∀ e ∈ ops.filterMap Op.submitted, (utf8 (names e.tag)).length ≤ 255)
    (hfits : 64 + 41 * ((ops.filterMap Op.submitted).filter (inWindow config)).length < 2 ^ 63)
    (hmeets : FlushesMeet TagsFit names config TraceWriter.start ops) :
    let s := ops.foldl (perform names config) TraceWriter.start
    let events := (ops.filterMap Op.submitted).filter (inWindow config)
    Decodable decode names s.file events ∧
      (s.buffer = [] ∨ s.bytesWritten = BitVec.ofNat 64 kHeaderSize → Decodable decode names s.signalFlush.file events) := by
  have haccepted : acceptedRun names config TraceWriter.start ops = _ := acceptedRun_uncapped hcap rfl ops
  rw [← haccepted] at hfits ⊢
  intro s events
  obtain ⟨records, hlive, hrecords⟩ := (live_start (Q := TagsFit)).run htags
    (fun e he => List.mem_map.mpr ⟨e, he, rfl⟩) (by rw [List.length_nil, Nat.zero_add]; exact hfits) hmeets
  rw [List.nil_append] at hlive
  change Live TagsFit names _ s records at hlive
  change records.map Prod.snd = events at hrecords
  obtain ⟨flushed, hflushed, hpos, hdisk⟩ := hlive.disk
  have hcount : records.length = events.length := by rw [← hrecords, List.length_map]
  have hle : flushed.length ≤ records.length := hflushed.length_le
  have hfile : Decodable decode names s.file events := by
    rcases hdisk with ⟨-, hempty⟩ | ⟨tags, stale, total, hfit, hleading, hnames, hdisk⟩
    · rw [hempty, ← List.append_nil (headerBytes ..)]
      exact decodable_empty 0 0 0 []
    · have hmem (t : TagEntry) (ht : t ∈ tags) : t ∈ tags ∧ (utf8 t.name).length ≤ 255 := by
        have hname := hlive.tags.among (hleading.subset (List.mem_map.mpr ⟨t, ht, rfl⟩))
        obtain ⟨e, he, hsame⟩ := List.mem_map.mp hname
        rw [← hsame]
        exact ⟨ht, hlength e he⟩
      have htagCount : tags.length ≤ 255 := by
        have hall := hlive.tags.length_le htags
        have hshorter := hleading.length_le
        rw [List.length_map, List.length_map] at hshorter
        exact hshorter.trans hall
      rw [hdisk]
      exact decodable_liveFile total stale hdecode htagCount (fun t ht => (hmem t ht).2) hfit hnames
        (hrecords ▸ hflushed.map Prod.snd) (by change 64 + 41 * events.length < _ at hfits; omega)
  refine ⟨hfile, ?_⟩
  rintro (hbuffer | hnothing)
  · have hsame : s.signalFlush = s := if_pos hbuffer
    rw [hsame]
    exact hfile
  · obtain ⟨tagCount, total, tableOffset, rest, hshape⟩ := hlive.nothing_flushed hnothing (hcount ▸ hfits)
    rw [hshape]
    exact decodable_empty tagCount total tableOffset rest

def crashOps : List Op := [.event ⟨1, 10, 0x100, 1, 2, 3⟩, .flush, .event ⟨1, 11, 0x102, 0, 0, 0⟩]

def uncapped : Config := ⟨0, 0, 100⟩

theorem live_trace_decodable_sample :
    Decodable decodeUtf8 sampleNames (crashOps.foldl (perform sampleNames uncapped) TraceWriter.start).file
      ((crashOps.filterMap Op.submitted).filter (inWindow uncapped)) :=
  (live_trace_decodable sampleNames decodeUtf8 uncapped crashOps decodeUtf8_utf8 rfl (by decide +kernel)
    (by decide +kernel) (by decide +kernel) (by decide +kernel)).1

/-- The records of a crash flush stand where the header expects the tags. -/
theorem crash_flush_takes_tags :
    ¬ Decodable decodeUtf8 sampleNames (crashOps.foldl
      (perform sampleNames uncapped) TraceWriter.start).signalFlush.file
      ((crashOps.filterMap Op.submitted).filter (inWindow uncapped)) := by
  rintro ⟨header, decoded, n, hheader, -, hiter, -, hcount, hn, hnamed⟩
  have hfile : (crashOps.foldl (perform sampleNames uncapped) TraceWriter.start).signalFlush.file =
      headerBytes kFormatVersion 0 1 1 1 105 64 ++ (encode [(0, ⟨1, 10, 0x100, 1, 2, 3⟩)] ++
        recordBytes 0 ⟨1, 11, 0x102, 0, 0, 0⟩) := by decide +kernel
  rw [hfile] at hheader hiter hnamed
  obtain rfl := Option.some.inj ((readHeader_headerBytes _).symm.trans hheader)
  have hread : decoded = [⟨0, 10, 0x100, 1, 2, 3⟩] :=
    Option.some.inj (hiter.symm.trans ((congrArg (readBatches · 1) (List.drop_left' length_headerBytes)).trans
      (readBatches_records [(0, ⟨1, 10, 0x100, 1, 2, 3⟩)] _)))
  subst hread
  have hone : 1 ≤ n := hcount
  have htwo : n ≤ 2 := hn
  obtain rfl | rfl : n = 1 ∨ n = 2 := by omega
  · exact absurd hnamed (by decide +kernel)
  · exact absurd hnamed (by decide +kernel)

end Trace

end Little64.Emulator

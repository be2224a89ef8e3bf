import Little64.Emulator.TraceWriter

/-! What the reader makes of a trace file is what the writer was given. -/

namespace Little64.Emulator

open LittleEndian ByteFile

namespace Trace

section Reading

variable {version flags tagCount : BitVec 32} {events total tagTableOffset eventsOffset : Word} {tagId : Byte} {e : Event}

@[simp] lemma length_headerBytes :
    (headerBytes version flags tagCount events total tagTableOffset eventsOffset).length = 64 := by
  simp [headerBytes, kMagic]

@[simp] lemma length_recordBytes : (recordBytes tagId e).length = 41 := by simp [recordBytes]

lemma readHeader_headerBytes (rest : List Byte) :
    readHeader (headerBytes version flags tagCount events total tagTableOffset eventsOffset ++ rest) =
      some ⟨kMagic, version, flags, tagCount, events, total, tagTableOffset, eventsOffset⟩ := by
  have hdata : (headerBytes version flags tagCount events total tagTableOffset eventsOffset ++ rest).take 64 =
      headerBytes version flags tagCount events total tagTableOffset eventsOffset := List.take_left' length_headerBytes
  have hassoc : headerBytes version flags tagCount events total tagTableOffset eventsOffset =
      kMagic ++ (le 4 version ++ (le 4 flags ++ (le 4 tagCount ++ (le 8 events ++ (le 8 total ++ (le 8 tagTableOffset ++
        (le 8 eventsOffset ++ List.replicate 16 0))))))) := by
    simp only [headerBytes, List.append_assoc]
  rw [readHeader, hdata, length_headerBytes, if_neg (Nat.lt_irrefl 64), hassoc]
  congr 2
  · exact field_of_append kMagic _ rfl rfl rfl
  · exact field_of_append (kMagic ++ le 4 version) _ (by simp only [List.append_assoc]; rfl) (by simp [kMagic]) rfl
  · exact field_of_append (kMagic ++ le 4 version ++ le 4 flags) _ (by simp only [List.append_assoc]; rfl)
      (by simp [kMagic]) rfl
  · exact field_of_append (kMagic ++ le 4 version ++ le 4 flags ++ le 4 tagCount) _
      (by simp only [List.append_assoc]; rfl) (by simp [kMagic]) rfl
  · exact field_of_append (kMagic ++ le 4 version ++ le 4 flags ++ le 4 tagCount ++ le 8 events) _
      (by simp only [List.append_assoc]; rfl) (by simp [kMagic]) rfl
  · exact field_of_append (kMagic ++ le 4 version ++ le 4 flags ++ le 4 tagCount ++ le 8 events ++ le 8 total) _
      (by simp only [List.append_assoc]; rfl) (by simp [kMagic]) rfl
  · exact field_of_append (kMagic ++ le 4 version ++ le 4 flags ++ le 4 tagCount ++ le 8 events ++ le 8 total ++
      le 8 tagTableOffset) _ (by simp only [List.append_assoc]; rfl) (by simp [kMagic]) rfl

lemma parseRecord_recordBytes : parseRecord (recordBytes tagId e) = ⟨tagId, e.cycle, e.pc, e.a, e.b, e.c⟩ := by
  have hassoc : recordBytes tagId e =
      le 1 tagId ++ (le 8 e.cycle ++ (le 8 e.pc ++ (le 8 e.a ++ (le 8 e.b ++ (le 8 e.c ++ []))))) := by
    simp [recordBytes, le, byteAt_zero]
  rw [parseRecord, hassoc]
  congr 1
  · exact field_of_append [] _ rfl rfl rfl
  · exact field_of_append (le 1 tagId) _ rfl (by simp) rfl
  · exact field_of_append (le 1 tagId ++ le 8 e.cycle) _ (by simp only [List.append_assoc]; rfl) (by simp) rfl
  · exact field_of_append (le 1 tagId ++ le 8 e.cycle ++ le 8 e.pc) _ (by simp only [List.append_assoc]; rfl) (by simp) rfl
  · exact field_of_append (le 1 tagId ++ le 8 e.cycle ++ le 8 e.pc ++ le 8 e.a) _ (by simp only [List.append_assoc]; rfl)
      (by simp) rfl
  · exact field_of_append (le 1 tagId ++ le 8 e.cycle ++ le 8 e.pc ++ le 8 e.a ++ le 8 e.b) _
      (by simp only [List.append_assoc]; rfl) (by simp) rfl

/-- A loop over batches of records, however large its batches are. -/
lemma batches_records {batch : ℕ} (hbatch : 0 < batch) {loop : List Byte → ℕ → Option (List TraceEvent)}
    (hloop : ∀ bytes remaining, loop bytes remaining =
      if remaining = 0 then some []
      else if (bytes.take (min batch remaining * 41)).length < 41 then some []
      else if (bytes.take (min batch remaining * 41)).length % 41 ≠ 0 then none
      else (loop (bytes.drop (min batch remaining * 41)) (remaining - min batch remaining)).map
        (unpack parseRecord 41 ((bytes.take (min batch remaining * 41)).length / 41)
          (bytes.take (min batch remaining * 41)) ++ ·))
    (records : List (Byte × Event)) (rest : List Byte) :
    loop (records.flatMap (fun p => recordBytes p.1 p.2) ++ rest) records.length =
      some (records.map fun p => ⟨p.1, p.2.cycle, p.2.pc, p.2.a, p.2.b, p.2.c⟩) := by
  induction hn : records.length using Nat.strong_induction_on generalizing records with
  | _ n ih =>
    have hsize : ∀ l : List (Byte × Event), ∀ p ∈ l, (recordBytes p.1 p.2).length = 41 := fun _ _ _ => length_recordBytes
    rw [hloop]
    by_cases h0 : n = 0
    · rw [if_pos h0]
      rw [h0, List.length_eq_zero_iff] at hn
      rw [hn]
      rfl
    rw [if_neg h0]
    obtain ⟨k, hk⟩ : ∃ k, k = min batch n := ⟨_, rfl⟩
    have hsplit : records = records.take k ++ records.drop k := (List.take_append_drop k records).symm
    have hlength : (records.take k).length = k := by
      rw [List.length_take]
      omega
    have hbytes : records.flatMap (fun p => recordBytes p.1 p.2) ++ rest =
        (records.take k).flatMap (fun p => recordBytes p.1 p.2) ++
          ((records.drop k).flatMap (fun p => recordBytes p.1 p.2) ++ rest) := by
      rw [← List.append_assoc, ← List.flatMap_append, ← hsplit]
    have hdata : ((records.take k).flatMap (fun p => recordBytes p.1 p.2)).length = k * 41 := by
      rw [length_flatMap (hsize _), hlength, Nat.mul_comm]
    have hrest := ih (n - k) (by omega) (records.drop k) (by rw [List.length_drop, hn])
    rw [← hk, hbytes, List.take_left' hdata, List.drop_left' hdata, hdata, if_neg (by omega), if_neg (by omega), hrest,
      Nat.mul_div_cancel _ (by decide), Option.map_some]
    have hunpack : unpack parseRecord 41 _ _ = _ := unpack_flatMap [] (hsize (records.take k))
    rw [List.append_nil, hlength] at hunpack
    rw [hunpack]
    simp only [parseRecord_recordBytes]
    rw [← List.map_append, ← hsplit]

lemma readBatches_records (records : List (Byte × Event)) (rest : List Byte) :
    readBatches (records.flatMap (fun p => recordBytes p.1 p.2) ++ rest) records.length =
      some (records.map fun p => ⟨p.1, p.2.cycle, p.2.pc, p.2.a, p.2.b, p.2.c⟩) := by
  have hbatch : 0 < 1600 := by decide
  apply batches_records hbatch
  intro bytes remaining
  rw [readBatches]

lemma readTags_tagBytes {decode : List Byte → String} (hdecode : ∀ name, decode (utf8 name) = name)
    (tags : List TagEntry) (hlength : ∀ t ∈ tags, (utf8 t.name).length ≤ 255) (rest : List Byte) :
    readTags decode tags.length (tags.flatMap tagBytes ++ rest) = tags.map TagEntry.name := by
  induction tags with
  | nil => rfl
  | cons t tags ih =>
    have ht := hlength t List.mem_cons_self
    have hbytes : tagBytes t = BitVec.ofNat 8 (utf8 t.name).length :: utf8 t.name := by
      rw [tagBytes, Nat.min_eq_left ht, List.take_length]
    have hlen : (BitVec.ofNat 8 (utf8 t.name).length).toNat = (utf8 t.name).length := by
      rw [BitVec.toNat_ofNat]
      omega
    rw [List.length_cons, List.flatMap_cons, hbytes, List.cons_append, List.cons_append, readTags, hlen, List.append_assoc,
      List.take_left, List.drop_left, hdecode, ih fun q hq => hlength q (List.mem_cons_of_mem _ hq), List.map_cons]

end Reading

def encode (records : List (Byte × Event)) : List Byte := records.flatMap fun p => recordBytes p.1 p.2

lemma length_encode (records : List (Byte × Event)) : (encode records).length = 41 * records.length :=
  length_flatMap fun _ _ => length_recordBytes

lemma encode_append (records records' : List (Byte × Event)) :
    encode (records ++ records') = encode records ++ encode records' := List.flatMap_append

section Tags

variable {names : Pointer → String} {all : List String} {s : TraceWriter} {tag : Pointer} {id : Byte} {e : Event}

/-- A number stands for a name in a tag table. -/
def Names (tags : List TagEntry) (id : Byte) (name : String) : Prop := (tags.map TagEntry.name)[id.toNat]? = some name

/-- The tag table: each entry under its name, no name twice, and all of them names of the run. -/
structure TagsOk (names : Pointer → String) (all : List String) (s : TraceWriter) : Prop where
  ptrs : ∀ t ∈ s.tags, names t.ptr = t.name
  last : ∀ p, s.lastTagPtr = some p → Names s.tags s.lastTagId (names p)
  nodup : (s.tags.map TagEntry.name).Nodup
  among : s.tags.map TagEntry.name ⊆ all

lemma TagsOk.length_le (h : TagsOk names all s) (hall : all.dedup.length ≤ 255) : s.tags.length ≤ 255 := by
  have hsub : s.tags.map TagEntry.name ⊆ all.dedup := fun name hname => List.mem_dedup.mpr (h.among hname)
  have hle := (h.nodup.subperm hsub).length_le
  rw [List.length_map] at hle
  omega

lemma names_ofNat {tags : List TagEntry} {i : ℕ} (hi : i < tags.length) (hlt : i < 256) :
    Names tags (BitVec.ofNat 8 i) tags[i].name := by
  rw [Names, BitVec.toNat_ofNat, Nat.mod_eq_of_lt hlt, List.getElem?_map, List.getElem?_eq_getElem hi, Option.map_some]

lemma map_name_modify (tags : List TagEntry) (i : ℕ) (ptr : Pointer) :
    (tags.modify i fun entry => { entry with ptr := ptr }).map TagEntry.name = tags.map TagEntry.name := by
  apply List.ext_getElem
  · rw [List.length_map, List.length_map, List.length_modify]
  · intro j hj _
    rw [List.getElem_map, List.getElem_map, List.getElem_modify]
    split <;> rfl

/-- A tag looked up or entered: its number stands for its name, and every number that stood for one still does. -/
lemma resolveTagId_spec (h : TagsOk names all s) (hall : all.dedup.length ≤ 255) (htag : names tag ∈ all) :
    TagsOk names all (s.resolveTagId names tag).2 ∧
      Names (s.resolveTagId names tag).2.tags (s.resolveTagId names tag).1 (names tag) ∧
      s.tags.map TagEntry.name <+: (s.resolveTagId names tag).2.tags.map TagEntry.name ∧
      ∃ tags ptr id, (s.resolveTagId names tag).2 = { s with tags := tags, lastTagPtr := ptr, lastTagId := id } := by
  have hle := h.length_le hall
  unfold TraceWriter.resolveTagId
  by_cases hlast : s.lastTagPtr = some tag
  · rw [if_pos hlast]
    exact ⟨h, h.last tag hlast, List.prefix_rfl, s.tags, s.lastTagPtr, s.lastTagId, rfl⟩
  rw [if_neg hlast]
  cases hptr : s.tags.findIdx? fun entry => entry.ptr == tag with
  | some i =>
    obtain ⟨hi, hfound, -⟩ := List.findIdx?_eq_some_iff_getElem.mp hptr
    have hname : s.tags[i].name = names tag := by
      rw [← h.ptrs _ (List.getElem_mem hi), eq_of_beq hfound]
    have hid : Names s.tags (BitVec.ofNat 8 i) (names tag) := hname ▸ names_ofNat hi (by omega)
    refine ⟨⟨h.ptrs, ?_, h.nodup, h.among⟩, hid, List.prefix_rfl, s.tags, _, _, rfl⟩
    intro p hp
    cases hp
    exact hid
  | none =>
    cases hname : s.tags.findIdx? fun entry => entry.name == names tag with
    | some i =>
      obtain ⟨hi, hfound, -⟩ := List.findIdx?_eq_some_iff_getElem.mp hname
      have hmap := map_name_modify s.tags i tag
      have hid : Names (s.tags.modify i fun entry => { entry with ptr := tag }) (BitVec.ofNat 8 i) (names tag) := by
        rw [Names, hmap]
        rw [← eq_of_beq hfound]
        exact names_ofNat hi (by omega)
      simp only
      refine ⟨⟨?_, ?_, by rw [hmap]; exact h.nodup, by rw [hmap]; exact h.among⟩, hid, by rw [hmap], _, _, _, rfl⟩
      · intro t ht
        obtain ⟨j, hj, rfl⟩ := List.getElem_of_mem ht
        rw [List.getElem_modify]
        split
        · next hij =>
          subst hij
          exact (eq_of_beq hfound).symm
        · exact h.ptrs _ (List.getElem_mem _)
      · intro p hp
        cases hp
        exact hid
    | none =>
      have hnew : names tag ∉ s.tags.map TagEntry.name := by
        intro hmem
        obtain ⟨t, ht, htn⟩ := List.mem_map.mp hmem
        have hne := List.findIdx?_eq_none_iff.mp hname t ht
        rw [htn, beq_self_eq_true] at hne
        cases hne
      have hroom : s.tags.length < 255 := by
        have hnodup : (names tag :: s.tags.map TagEntry.name).Nodup := List.nodup_cons.mpr ⟨hnew, h.nodup⟩
        have hsub : names tag :: s.tags.map TagEntry.name ⊆ all.dedup := by
          intro name hmem
          rcases List.mem_cons.mp hmem with rfl | hmem
          · exact List.mem_dedup.mpr htag
          · exact List.mem_dedup.mpr (h.among hmem)
        have hlength := (hnodup.subperm hsub).length_le
        rw [List.length_cons, List.length_map] at hlength
        omega
      have hmap : (s.tags ++ [(⟨tag, names tag⟩ : TagEntry)]).map TagEntry.name = s.tags.map TagEntry.name ++ [names tag] := by
        rw [List.map_append]
        rfl
      have hid : Names (s.tags ++ [⟨tag, names tag⟩]) (BitVec.ofNat 8 s.tags.length) (names tag) := by
        rw [Names, hmap, BitVec.toNat_ofNat, Nat.mod_eq_of_lt (by omega), List.getElem?_append_right (by rw [List.length_map]),
          List.length_map, Nat.sub_self]
        rfl
      simp only
      rw [if_neg (by omega)]
      refine ⟨⟨?_, ?_, ?_, ?_⟩, hid, by rw [hmap]; exact List.prefix_append _ _, _, _, _, rfl⟩
      · intro t ht
        rcases List.mem_append.mp ht with ht | ht
        · exact h.ptrs t ht
        · rw [List.mem_singleton.mp ht]
      · intro p hp
        cases hp
        exact hid
      · rw [hmap, List.nodup_append]
        refine ⟨h.nodup, List.nodup_singleton _, ?_⟩
        intro a ha b hb
        rw [List.mem_singleton.mp hb]
        rintro rfl
        exact hnew ha
      · rw [hmap]
        intro name hmem
        rcases List.mem_append.mp hmem with hmem | hmem
        · exact h.among hmem
        · rw [List.mem_singleton.mp hmem]
          exact htag

end Tags

section Writing

variable {s : TraceWriter} {flushed buffered : List (Byte × Event)}

/-- The records in the file and those in the buffer; behind the records the file holds what an earlier tag table left. -/
structure Writing (s : TraceWriter) (flushed buffered : List (Byte × Event)) : Prop where
  file : ∃ head stale, head.length = 64 ∧ s.file = head ++ (encode flushed ++ stale)
  pos : s.pos = 64 + 41 * flushed.length
  bytes : s.bytesWritten = BitVec.ofNat 64 (64 + 41 * flushed.length)
  buffer : s.buffer = encode buffered
  room : buffered.length ≤ 1598
  count : s.eventsWritten = BitVec.ofNat 64 (flushed.length + buffered.length)

lemma writing_start : Writing TraceWriter.start [] [] where
  file := ⟨headerBytes kFormatVersion 0 0 0 0 0 (BitVec.ofNat 64 kHeaderSize), [], length_headerBytes, by
    rw [TraceWriter.start, TraceWriter.writeHeaderPlaceholder, TraceWriter.write]
    rw [overwrite_zero, List.drop_nil]
    rfl⟩
  pos := by
    rw [TraceWriter.start, TraceWriter.writeHeaderPlaceholder, TraceWriter.write]
    exact (Nat.zero_add _).trans length_headerBytes
  bytes := rfl
  buffer := rfl
  room := by decide
  count := rfl

lemma Writing.write_file (h : Writing s flushed buffered) (data : List Byte) :
    ∃ head stale, head.length = 64 ∧ (s.write data).file = head ++ (encode flushed ++ (data ++ stale)) := by
  obtain ⟨head, stale, hhead, hfile⟩ := h.file
  have hlength : (head ++ encode flushed).length = s.pos := by
    rw [List.length_append, hhead, length_encode, h.pos]
  refine ⟨head, stale.drop data.length, hhead, ?_⟩
  rw [TraceWriter.write, hfile, ← List.append_assoc, ← hlength, overwrite_append]
  simp only [List.append_assoc]

lemma writeHeader_file {head rest : List Byte} (hpos : s.pos = 0) (hhead : head.length = 64)
    (hfile : s.file = head ++ rest) : s.writeHeader.file =
      headerBytes kFormatVersion 0 (BitVec.ofNat 32 s.tags.length) s.eventsWritten (s.eventsWritten + s.eventsDropped)
        s.bytesWritten (BitVec.ofNat 64 kHeaderSize) ++ rest := by
  rw [TraceWriter.writeHeader, TraceWriter.write, hpos, overwrite_zero, hfile, length_headerBytes,
    List.drop_left' hhead]

lemma Writing.toNat_bytes (h : Writing s flushed buffered) (hfits : 64 + 41 * flushed.length < 2 ^ 63) :
    s.bytesWritten.toNat = 64 + 41 * flushed.length := by
  rw [h.bytes, BitVec.toNat_ofNat]
  omega

/-- The file with a live tag table behind its records. -/
lemma Writing.liveTagTable_file (h : Writing s flushed buffered) :
    ∃ stale, s.writeLiveTagTable.file = headerBytes kFormatVersion 0 (BitVec.ofNat 32 s.tags.length) s.eventsWritten
      (s.eventsWritten + s.eventsDropped) s.bytesWritten (BitVec.ofNat 64 kHeaderSize) ++
        (encode flushed ++ (liveTagBytes s.tags 0 ++ stale)) := by
  obtain ⟨head, stale, hhead, hfile⟩ := h.write_file (liveTagBytes s.tags 0)
  exact ⟨stale, writeHeader_file (s := (s.write _).lseek 0) rfl hhead hfile⟩

lemma Writing.writeLiveTagTable (h : Writing s flushed buffered) (hfits : 64 + 41 * flushed.length < 2 ^ 63) :
    Writing s.writeLiveTagTable flushed buffered where
  file := by
    obtain ⟨stale, hfile⟩ := h.liveTagTable_file
    exact ⟨_, _, length_headerBytes, hfile⟩
  pos := h.toNat_bytes hfits
  bytes := h.bytes
  buffer := h.buffer
  room := h.room
  count := h.count

lemma Writing.buffer_nil (h : Writing s flushed buffered) (hbuffer : s.buffer = []) : buffered = [] := by
  have hlength := congrArg List.length (h.buffer.symm.trans hbuffer)
  rw [length_encode, List.length_nil] at hlength
  exact List.length_eq_zero_iff.mp (by omega)

/-- The buffered records behind those in the file, before the tag table is written again. -/
lemma Writing.drained (h : Writing s flushed buffered) : Writing { s.write s.buffer with
    bytesWritten := s.bytesWritten + BitVec.ofNat 64 s.buffer.length, buffer := [] } (flushed ++ buffered) [] := by
  have hlength : s.buffer.length = 41 * buffered.length := by rw [h.buffer, length_encode]
  constructor
  case file =>
    obtain ⟨head, stale, hhead, hfile⟩ := h.write_file s.buffer
    refine ⟨head, stale, hhead, hfile.trans ?_⟩
    rw [encode_append, h.buffer, List.append_assoc]
  case pos =>
    change s.pos + s.buffer.length = _
    rw [h.pos, hlength, List.length_append]
    omega
  case bytes =>
    change s.bytesWritten + BitVec.ofNat 64 s.buffer.length = _
    rw [h.bytes, hlength, ← BitVec.ofNat_add, List.length_append]
    congr 1
    omega
  case buffer => rfl
  case room => exact Nat.zero_le _
  case count =>
    change s.eventsWritten = _
    rw [h.count, List.length_append, List.length_nil, Nat.add_zero]

/-- A flush moves the buffered records into the file, and leaves the tags and the rest as they are. -/
lemma Writing.flushBuffer (h : Writing s flushed buffered)
    (hfits : 64 + 41 * (flushed.length + buffered.length) < 2 ^ 63) :
    Writing s.flushBuffer (flushed ++ buffered) [] ∧ s.flushBuffer.tags = s.tags ∧
      s.flushBuffer.lastTagPtr = s.lastTagPtr ∧ s.flushBuffer.lastTagId = s.lastTagId ∧
      s.flushBuffer.capReached = s.capReached := by
  unfold TraceWriter.flushBuffer
  by_cases hbuffer : s.buffer = []
  · rw [if_pos hbuffer]
    have hnil := h.buffer_nil hbuffer
    subst hnil
    rw [List.append_nil]
    exact ⟨h, rfl, rfl, rfl, rfl⟩
  rw [if_neg hbuffer]
  simp only
  split
  · exact ⟨h.drained, rfl, rfl, rfl, rfl⟩
  · exact ⟨h.drained.writeLiveTagTable (by rw [List.length_append]; exact hfits), rfl, rfl, rfl, rfl⟩

lemma Writing.record (h : Writing s flushed buffered) (hroom : buffered.length < 1598) (id : Byte) (e : Event) :
    Writing { s with buffer := s.buffer ++ recordBytes id e, eventsWritten := s.eventsWritten + 1 } flushed
      (buffered ++ [(id, e)]) where
  file := h.file
  pos := h.pos
  bytes := h.bytes
  buffer := by
    change s.buffer ++ recordBytes id e = _
    rw [h.buffer, encode_append]
    simp [encode]
  room := by
    rw [List.length_append, List.length_singleton]
    exact hroom
  count := by
    change s.eventsWritten + 1 = _
    rw [h.count, List.length_append, List.length_singleton, ← Nat.add_assoc]
    exact (BitVec.ofNat_add _ _).symm

end Writing

def Op.submitted : Op → Option Event
  | .event e => some e
  | .flush => none

def inWindow (config : Config) (e : Event) : Bool :=
  decide (config.startCycle ≤ e.cycle) && decide (e.cycle ≤ config.endCycle)

/-- The size cap against a file of `n` records. -/
def capReachedAt (config : Config) (n : ℕ) : Bool :=
  decide (0 < config.maxBytes) && decide (config.maxBytes.toNat ≤ 64 + 41 * n)

/-- The events a trace is to hold, of those still to come after the first `n`: the ones in the window, up to the first of
them at which the cap is reached. -/
def recorded (config : Config) : ℕ → List Event → List Event
  | _, [] => []
  | n, e :: rest =>
    if !inWindow config e then recorded config n rest
    else if capReachedAt config n then []
    else e :: recorded config (n + 1) rest

section Runs

variable {names : Pointer → String} {all : List String} {config : Config} {s : TraceWriter}
  {records : List (Byte × Event)} {e : Event} {ops : List Op}

/-- The writer has taken down these records, each under a number that stands for its tag. -/
structure Recording (names : Pointer → String) (all : List String) (s : TraceWriter) (records : List (Byte × Event)) :
    Prop where
  writing : ∃ flushed buffered, records = flushed ++ buffered ∧ Writing s flushed buffered
  tags : TagsOk names all s
  known : ∀ p ∈ records, Names s.tags p.1 (names p.2.tag)

lemma Recording.flushBuffer (h : Recording names all s records) (hfits : 64 + 41 * records.length < 2 ^ 63) :
    Recording names all s.flushBuffer records ∧ s.flushBuffer.capReached = s.capReached ∧
      s.flushBuffer.tags = s.tags ∧ Writing s.flushBuffer records [] := by
  obtain ⟨flushed, buffered, rfl, hwriting⟩ := h.writing
  rw [List.length_append] at hfits
  obtain ⟨hflushed, htags, hptr, hid, hcap⟩ := hwriting.flushBuffer hfits
  refine ⟨⟨⟨_, [], (List.append_nil _).symm, hflushed⟩, ?_, ?_⟩, hcap, htags, hflushed⟩
  · refine ⟨?_, ?_, ?_, ?_⟩
    · rw [htags]
      exact h.tags.ptrs
    · rw [htags, hptr, hid]
      exact h.tags.last
    · rw [htags]
      exact h.tags.nodup
    · rw [htags]
      exact h.tags.among
  · rw [htags]
    exact h.known

lemma Recording.capped_eq (h : Recording names all s records) (hfits : 64 + 41 * records.length < 2 ^ 63) :
    s.capped config = capReachedAt config records.length := by
  obtain ⟨flushed, buffered, rfl, hwriting⟩ := h.writing
  have hsum : (s.bytesWritten + BitVec.ofNat 64 s.buffer.length).toNat = 64 + 41 * (flushed ++ buffered).length := by
    rw [hwriting.bytes, hwriting.buffer, length_encode, ← BitVec.ofNat_add, BitVec.toNat_ofNat]
    rw [List.length_append] at hfits ⊢
    omega
  rw [TraceWriter.capped, capReachedAt]
  simp only [BitVec.le_def, hsum]

lemma Names.mono {tags tags' : List TagEntry} {id : Byte} {name : String} (h : Names tags id name)
    (hleading : tags.map TagEntry.name <+: tags'.map TagEntry.name) : Names tags' id name := by
  obtain ⟨rest, hrest⟩ := hleading
  obtain ⟨hlt, hget⟩ := List.getElem?_eq_some_iff.mp h
  rw [Names, ← hrest, List.getElem?_append_left hlt]
  exact h

def makeRoom (s : TraceWriter) : TraceWriter :=
  if s.buffer.length + kBinaryRecordSize > kBufferSize then s.flushBuffer else s

lemma Recording.makeRoom (h : Recording names all s records) (hfits : 64 + 41 * records.length < 2 ^ 63) :
    Recording names all (Trace.makeRoom s) records ∧ (Trace.makeRoom s).capReached = s.capReached ∧
      (Trace.makeRoom s).tags = s.tags ∧
      ∃ flushed buffered, records = flushed ++ buffered ∧ Writing (Trace.makeRoom s) flushed buffered ∧
        buffered.length < 1598 := by
  unfold Trace.makeRoom
  split
  · obtain ⟨hrecording, hcap, htags, hwriting⟩ := h.flushBuffer hfits
    exact ⟨hrecording, hcap, htags, records, [], (List.append_nil _).symm, hwriting, by decide⟩
  · next hroom =>
    obtain ⟨flushed, buffered, hrecords, hwriting⟩ := h.writing
    refine ⟨h, rfl, rfl, flushed, buffered, hrecords, hwriting, ?_⟩
    rw [hwriting.buffer, length_encode, kBinaryRecordSize, kBufferSize] at hroom
    omega

/-- The records stand under their tags also once one more tag was looked up. -/
lemma Recording.resolveTagId (h : Recording names all s records) (hall : all.dedup.length ≤ 255) {tag : Pointer}
    (htag : names tag ∈ all) : Recording names all (s.resolveTagId names tag).2 records ∧
      Names (s.resolveTagId names tag).2.tags (s.resolveTagId names tag).1 (names tag) ∧
      s.tags.map TagEntry.name <+: (s.resolveTagId names tag).2.tags.map TagEntry.name ∧
      ∃ tags ptr id, (s.resolveTagId names tag).2 = { s with tags := tags, lastTagPtr := ptr, lastTagId := id } := by
  obtain ⟨htags, hid, hleading, tags, ptr, lastId, hresolved⟩ := resolveTagId_spec h.tags hall htag
  refine ⟨⟨?_, htags, fun p hp => (h.known p hp).mono hleading⟩, hid, hleading, tags, ptr, lastId, hresolved⟩
  obtain ⟨flushed, buffered, hrecords, hwriting⟩ := h.writing
  rw [hresolved]
  exact ⟨flushed, buffered, hrecords, ⟨hwriting.file, hwriting.pos, hwriting.bytes, hwriting.buffer, hwriting.room,
    hwriting.count⟩⟩

lemma Recording.record (h : Recording names all s records) (hall : all.dedup.length ≤ 255) (he : names e.tag ∈ all)
    (hfits : 64 + 41 * records.length < 2 ^ 63) (hcap : s.capReached = false) (hcapped : s.capped config = false) :
    ∃ id, Recording names all (s.writeEventImpl names config e) (records ++ [(id, e)]) ∧
      (s.writeEventImpl names config e).capReached = false := by
  obtain ⟨hmid, hid, -, tags, ptr, lastId, hresolved⟩ := h.resolveTagId hall he
  rw [TraceWriter.writeEventImpl, hcapped, if_neg Bool.false_ne_true]
  generalize s.resolveTagId names e.tag = resolved at *
  obtain ⟨id, t⟩ := resolved
  have hmidCap : t.capReached = false := by
    subst hresolved
    exact hcap
  obtain ⟨hroomy, hroomyCap, hroomyTags, flushed, buffered, rfl, hwriting, hroom⟩ := hmid.makeRoom hfits
  refine ⟨id, ⟨?_, ?_, ?_⟩, hroomyCap.trans hmidCap⟩
  · exact ⟨flushed, buffered ++ [(id, e)], List.append_assoc .., hwriting.record hroom id e⟩
  · exact ⟨hroomy.tags.ptrs, hroomy.tags.last, hroomy.tags.nodup, hroomy.tags.among⟩
  · intro p hp
    rcases List.mem_append.mp hp with hp | hp
    · exact hroomy.known p hp
    · rw [List.mem_singleton.mp hp]
      change Names (Trace.makeRoom t).tags id (names e.tag)
      rw [hroomyTags]
      exact hid

lemma recording_start : Recording names all TraceWriter.start [] := by
  refine ⟨⟨[], [], rfl, writing_start⟩, ⟨?_, ?_, List.nodup_nil, List.nil_subset _⟩, ?_⟩
  · intro t ht
    cases ht
  · intro p hp
    cases hp
  · intro p hp
    cases hp

lemma writeEvent_out (hwindow : inWindow config e = false) : s.writeEvent names config e = s := by
  unfold TraceWriter.writeEvent
  split
  · rfl
  · split
    · rfl
    · next hstart hend =>
      rw [inWindow, decide_eq_true (BitVec.not_lt.mp hstart), decide_eq_true (BitVec.not_lt.mp hend)] at hwindow
      cases hwindow

lemma writeEvent_in (hwindow : inWindow config e = true) (hcap : s.capReached = false) :
    s.writeEvent names config e = s.writeEventImpl names config e := by
  rw [inWindow, Bool.and_eq_true, decide_eq_true_eq, decide_eq_true_eq] at hwindow
  rw [TraceWriter.writeEvent, if_neg (BitVec.not_lt.mpr hwindow.1), if_neg (BitVec.not_lt.mpr hwindow.2), hcap,
    if_neg Bool.false_ne_true]

lemma Recording.run_capped (h : Recording names all s records) (hfits : 64 + 41 * records.length < 2 ^ 63)
    (hcap : s.capReached = true) (ops : List Op) : Recording names all (ops.foldl (perform names config) s) records := by
  induction ops generalizing s with
  | nil => exact h
  | cons op ops ih =>
    cases op with
    | event e =>
      have hsame : s.writeEvent names config e = s := by
        rw [TraceWriter.writeEvent, hcap, if_pos rfl, ite_self, ite_self]
      rw [List.foldl_cons, perform, hsame]
      exact ih h hcap
    | flush =>
      obtain ⟨hflushed, hsame, -⟩ := h.flushBuffer hfits
      exact ih hflushed (hsame.trans hcap)

lemma Recording.run (h : Recording names all s records) (hcap : s.capReached = false) (hall : all.dedup.length ≤ 255)
    (hamong : ∀ e ∈ ops.filterMap Op.submitted, names e.tag ∈ all)
    (hfits : 64 + 41 * (records.length + (recorded config records.length (ops.filterMap Op.submitted)).length) < 2 ^ 63) :
    ∃ records', Recording names all (ops.foldl (perform names config) s) records' ∧
      records'.map Prod.snd =
        records.map Prod.snd ++ recorded config records.length (ops.filterMap Op.submitted) := by
  induction ops generalizing s records with
  | nil => exact ⟨records, h, (List.append_nil _).symm⟩
  | cons op ops ih =>
    cases op with
    | flush =>
      obtain ⟨hflushed, hsame, -⟩ := h.flushBuffer (by omega)
      exact ih hflushed (hsame.trans hcap) hamong hfits
    | event e =>
      have hevents : (Op.event e :: ops).filterMap Op.submitted = e :: ops.filterMap Op.submitted := rfl
      rw [hevents] at hamong hfits ⊢
      rw [List.foldl_cons, perform]
      rw [recorded] at hfits ⊢
      cases hwindow : inWindow config e with
      | false =>
        rw [hwindow, Bool.not_false, if_pos rfl] at hfits
        rw [Bool.not_false, if_pos rfl, writeEvent_out hwindow]
        exact ih h hcap (fun q hq => hamong q (List.mem_cons_of_mem _ hq)) hfits
      | true =>
        rw [hwindow, Bool.not_true, if_neg Bool.false_ne_true] at hfits
        rw [Bool.not_true, if_neg Bool.false_ne_true, writeEvent_in hwindow hcap]
        have hcapped : s.capped config = capReachedAt config records.length := h.capped_eq (by omega)
        cases hreached : capReachedAt config records.length with
        | true =>
          rw [if_pos rfl, List.append_nil, TraceWriter.writeEventImpl, hcapped, hreached, if_pos rfl]
          refine ⟨records, Recording.run_capped ?_ (by omega) rfl ops, rfl⟩
          obtain ⟨flushed, buffered, hrecords, hwriting⟩ := h.writing
          exact ⟨⟨flushed, buffered, hrecords, ⟨hwriting.file, hwriting.pos, hwriting.bytes, hwriting.buffer,
            hwriting.room, hwriting.count⟩⟩, ⟨h.tags.ptrs, h.tags.last, h.tags.nodup, h.tags.among⟩, h.known⟩
        | false =>
          rw [hreached, if_neg Bool.false_ne_true, List.length_cons] at hfits
          rw [if_neg Bool.false_ne_true]
          obtain ⟨id, hrecorded, hnext⟩ := h.record hall (hamong e List.mem_cons_self) (by omega) hcap
            (hcapped.trans hreached)
          have hlength : (records ++ [(id, e)]).length = records.length + 1 := by
            rw [List.length_append, List.length_singleton]
          obtain ⟨records', hdone, hmap⟩ := ih hrecorded hnext (fun q hq => hamong q (List.mem_cons_of_mem _ hq)) (by
            rw [hlength]
            omega)
          refine ⟨records', hdone, ?_⟩
          rw [hmap, hlength, List.map_append, List.append_assoc]
          rfl

/-- The closed file: header, records, tag table, and whatever an earlier tag table left behind it. -/
lemma Recording.close_file (h : Recording names all s records) (hfits : 64 + 41 * records.length < 2 ^ 63) :
    ∃ (tags : List TagEntry) (stale : List Byte) (total : Word), tags.map TagEntry.name = s.tags.map TagEntry.name ∧
      s.close.file = headerBytes kFormatVersion 0 (BitVec.ofNat 32 tags.length) (BitVec.ofNat 64 records.length) total
        (BitVec.ofNat 64 (64 + 41 * records.length)) (BitVec.ofNat 64 kHeaderSize) ++
          (encode records ++ (tags.flatMap tagBytes ++ stale)) := by
  obtain ⟨-, -, htags, hwriting⟩ := h.flushBuffer hfits
  have hbytes := hwriting.toNat_bytes hfits
  have hseek : Writing (s.flushBuffer.lseek s.flushBuffer.bytesWritten) records [] :=
    ⟨hwriting.file, hbytes, hwriting.bytes, hwriting.buffer, hwriting.room, hwriting.count⟩
  obtain ⟨head, stale, hhead, hfile⟩ := hseek.write_file (s.flushBuffer.tags.flatMap tagBytes)
  refine ⟨s.flushBuffer.tags, stale, s.flushBuffer.eventsWritten + s.flushBuffer.eventsDropped, by rw [htags], ?_⟩
  rw [TraceWriter.close, TraceWriter.finalizeFile]
  refine (writeHeader_file (s := ((s.flushBuffer.lseek _).write _).lseek 0) rfl hhead hfile).trans ?_
  have hcount : s.flushBuffer.eventsWritten = BitVec.ofNat 64 records.length := hwriting.count
  have hoffset : s.flushBuffer.bytesWritten = BitVec.ofNat 64 (64 + 41 * records.length) := hwriting.bytes
  change headerBytes kFormatVersion 0 (BitVec.ofNat 32 s.flushBuffer.tags.length) s.flushBuffer.eventsWritten
    (s.flushBuffer.eventsWritten + s.flushBuffer.eventsDropped) s.flushBuffer.bytesWritten (BitVec.ofNat 64 kHeaderSize) ++
      (encode records ++ (s.flushBuffer.tags.flatMap tagBytes ++ stale)) = _
  rw [hoffset, hcount]

end Runs

/-- The reader finds in the closed file what was to be recorded, each event under the name of its tag. -/
theorem decode_closedFile (names : Pointer → String) (decode : List Byte → String) (config : Config) (ops : List Op)
    (hdecode : ∀ name, decode (utf8 name) = name)
    (htags : ((ops.filterMap Op.submitted).map fun e => names e.tag).dedup.length ≤ 255)
    (hlength : ∀ e ∈ ops.filterMap Op.submitted, (utf8 (names e.tag)).length ≤ 255)
    (hfits : 64 + 41 * (recorded config 0 (ops.filterMap Op.submitted)).length < 2 ^ 63) :
    ∃ header decoded, readHeader (closedFile names config ops) = some header ∧ header.magic = kMagic ∧
      header.eventCount.toNat = (recorded config 0 (ops.filterMap Op.submitted)).length ∧
      iterEvents (closedFile names config ops) header = some decoded ∧
      (decoded.map fun ev => ((readTagTable decode (closedFile names config ops) header)[ev.tagId.toNat]?,
        ev.cycle, ev.pc, ev.a, ev.b, ev.c)) =
      (recorded config 0 (ops.filterMap Op.submitted)).map fun e =>
        (some (names e.tag), e.cycle, e.pc, e.a, e.b, e.c) := by
  have hstart : Recording names ((ops.filterMap Op.submitted).map fun e => names e.tag) TraceWriter.start [] :=
    recording_start
  obtain ⟨records, hrecording, hrecords⟩ := hstart.run rfl htags (fun e he => List.mem_map.mpr ⟨e, he, rfl⟩)
    (by rw [List.length_nil, Nat.zero_add]; exact hfits)
  rw [List.map_nil, List.nil_append, List.length_nil] at hrecords
  have hcount : records.length = (recorded config 0 (ops.filterMap Op.submitted)).length := by
    rw [← hrecords, List.length_map]
  rw [← hcount] at hfits
  obtain ⟨tags, stale, total, hnames, hfile⟩ := hrecording.close_file hfits
  change closedFile names config ops = _ at hfile
  have hnamesLength : ∀ t ∈ tags, (utf8 t.name).length ≤ 255 := by
    intro t ht
    have hmem : t.name ∈ (ops.filterMap Op.submitted).map fun e => names e.tag :=
      hrecording.tags.among (hnames ▸ List.mem_map.mpr ⟨t, ht, rfl⟩)
    obtain ⟨e, he, hname⟩ := List.mem_map.mp hmem
    rw [← hname]
    exact hlength e he
  have htagCount : tags.length ≤ 255 := by
    have hle := hrecording.tags.length_le htags
    have hsame := congrArg List.length hnames
    rw [List.length_map, List.length_map] at hsame
    omega
  have hevents : (BitVec.ofNat 64 records.length).toNat = records.length := by
    rw [BitVec.toNat_ofNat]
    omega
  have htable : (BitVec.ofNat 64 (64 + 41 * records.length)).toNat = 64 + 41 * records.length := by
    rw [BitVec.toNat_ofNat]
    omega
  have htagNat : (BitVec.ofNat 32 tags.length).toNat = tags.length := by
    rw [BitVec.toNat_ofNat]
    omega
  refine ⟨_, records.map fun p => ⟨p.1, p.2.cycle, p.2.pc, p.2.a, p.2.b, p.2.c⟩, hfile ▸ readHeader_headerBytes _, rfl,
    hevents.trans hcount, ?_, ?_⟩
  · rw [iterEvents, hfile, hevents]
    exact (congrArg (readBatches · records.length) (List.drop_left' length_headerBytes)).trans (readBatches_records _ _)
  · have hread : readTagTable decode (closedFile names config ops) ⟨kMagic, kFormatVersion, 0,
        BitVec.ofNat 32 tags.length, BitVec.ofNat 64 records.length, total, BitVec.ofNat 64 (64 + 41 * records.length),
        BitVec.ofNat 64 kHeaderSize⟩ = tags.map TagEntry.name := by
      rw [readTagTable, hfile]
      simp only
      rw [htagNat, htable, ← List.append_assoc, List.drop_left' (by rw [List.length_append, length_headerBytes, length_encode])]
      exact readTags_tagBytes hdecode tags hnamesLength stale
    rw [hread, ← hrecords, List.map_map, List.map_map]
    apply List.map_congr_left
    intro p hp
    have hknown := hrecording.known p hp
    rw [Names, ← hnames] at hknown
    simp only [Function.comp, hknown]

def decodeUtf8 (bytes : List Byte) : String := (String.fromUTF8? ⟨(bytes.map UInt8.ofBitVec).toArray⟩).getD "\uFFFD"

lemma decodeUtf8_utf8 (name : String) : decodeUtf8 (utf8 name) = name := by
  have hbytes : (utf8 name).map UInt8.ofBitVec = name.toByteArray.data.toList := by
    rw [utf8, List.map_map, String.toUTF8_eq_toByteArray]
    exact List.map_id _
  rw [decodeUtf8, hbytes, Array.toArray_toList, String.fromUTF8?, dif_pos name.isValidUTF8]
  rfl

def sampleNames (tag : Pointer) : String := if tag ≤ 1 then "boot" else "irq"

def sampleConfig : Config := ⟨150, 10, 20⟩

def sampleOps : List Op :=
  [.event ⟨0, 5, 0, 0, 0, 0⟩, .event ⟨1, 10, 0x100, 1, 2, 3⟩, .flush, .event ⟨2, 11, 0x102, 0, 0, 0⟩,
    .event ⟨0, 12, 0x104, 7, 8, 9⟩, .event ⟨0, 13, 0x106, 0, 0, 0⟩]

theorem decode_closedFile_sample : (recorded sampleConfig 0 (sampleOps.filterMap Op.submitted)).length = 3 ∧
    ∃ header decoded, readHeader (closedFile sampleNames sampleConfig sampleOps) = some header ∧
      header.magic = kMagic ∧
      header.eventCount.toNat = (recorded sampleConfig 0 (sampleOps.filterMap Op.submitted)).length ∧
      iterEvents (closedFile sampleNames sampleConfig sampleOps) header = some decoded ∧
      (decoded.map fun ev => ((readTagTable decodeUtf8 (closedFile sampleNames sampleConfig sampleOps)
        header)[ev.tagId.toNat]?, ev.cycle, ev.pc, ev.a, ev.b, ev.c)) =
      (recorded sampleConfig 0 (sampleOps.filterMap Op.submitted)).map fun e =>
        (some (sampleNames e.tag), e.cycle, e.pc, e.a, e.b, e.c) :=
  ⟨by decide, decode_closedFile sampleNames decodeUtf8 sampleConfig sampleOps decodeUtf8_utf8 (by decide +kernel)
    (by decide +kernel) (by decide +kernel)⟩

end Trace

end Little64.Emulator

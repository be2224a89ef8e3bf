import Little64.Emulator.TraceWatch

/-! The watcher of a trace file prints the records of the file, one after the other and nothing else. -/

namespace Little64.Emulator

open LittleEndian ByteFile BufferedReader

namespace Trace

/-- A record as the reader gets it. -/
def asRead (p : Byte × Event) : TraceEvent := ⟨p.1, p.2.cycle, p.2.pc, p.2.a, p.2.b, p.2.c⟩

lemma unpack_encode (records : List (Byte × Event)) :
    unpack parseRecord 41 records.length (encode records) = records.map asRead := by
  have hunpack : unpack parseRecord 41 _ _ = _ := unpack_flatMap [] fun (p : Byte × Event) (_ : p ∈ records) =>
    (length_recordBytes : (recordBytes p.1 p.2).length = 41)
  rw [List.append_nil] at hunpack
  rw [encode, hunpack]
  apply List.map_congr_left
  intro p _
  exact parseRecord_recordBytes

lemma drop_encode (records : List (Byte × Event)) (j : ℕ) :
    (encode records).drop (41 * j) = encode (records.drop j) := by
  rcases Nat.le_total j records.length with hle | hge
  · conv_lhs => rw [← List.take_append_drop j records, encode_append]
    apply List.drop_left'
    rw [length_encode, List.length_take, Nat.min_eq_left hle]
  · rw [List.drop_of_length_le hge, List.drop_of_length_le]
    · rfl
    · rw [length_encode]
      exact Nat.mul_le_mul_left 41 hge

lemma take_encode (records : List (Byte × Event)) (j : ℕ) :
    (encode records).take (41 * j) = encode (records.take j) := by
  rcases Nat.le_total j records.length with hle | hge
  · conv_lhs => rw [← List.take_append_drop j records, encode_append]
    apply List.take_left'
    rw [length_encode, List.length_take, Nat.min_eq_left hle]
  · rw [List.take_of_length_le hge, List.take_of_length_le]
    rw [length_encode]
    exact Nat.mul_le_mul_left 41 hge

lemma length_le_overwrite (file : List Byte) (pos : ℕ) (data : List Byte) :
    file.length ≤ (overwrite file pos data).length := by
  rw [overwrite, List.length_append, List.length_append, List.length_append, List.length_take, List.length_replicate,
    List.length_drop]
  omega

section Versions

variable {records : List (Byte × Event)} {v : Version} {k : ℕ}

/-- A header that counts at most so many records, the records, and something behind them. -/
structure Shaped (records : List (Byte × Event)) (v : Version) (k : ℕ) : Prop where
  le : k ≤ records.length
  recordsEnd : v.recordsEnd = 64 + 41 * k
  file : ∃ tagCount count total tableOffset tail, count.toNat ≤ k ∧ v.file =
    headerBytes kFormatVersion 0 tagCount count total tableOffset (BitVec.ofNat 64 kHeaderSize) ++
      (encode (records.take k) ++ tail)

/-- The versions lead to the last one, and neither the file nor its records become shorter on the way. -/
def LeadTo (records : List (Byte × Event)) (last : Version) : Version → List Version → Prop
  | v, [] => v = last ∧ ∃ k, Shaped records v k
  | v, next :: rest => (∃ k, Shaped records v k) ∧ v.file.length ≤ next.file.length ∧ v.recordsEnd ≤ next.recordsEnd ∧
      LeadTo records last next rest

lemma Shaped.append (h : Shaped records v k) (new : List (Byte × Event)) : Shaped (records ++ new) v k where
  le := h.le.trans (by rw [List.length_append]; exact Nat.le_add_right _ _)
  recordsEnd := h.recordsEnd
  file := by
    rw [List.take_append_of_le_length h.le]
    exact h.file

lemma LeadTo.append {last : Version} {rest : List Version} (h : LeadTo records last v rest)
    (new : List (Byte × Event)) :
    LeadTo (records ++ new) last v rest := by
  induction rest generalizing v with
  | nil => exact ⟨h.1, h.2.imp fun _ hk => hk.append new⟩
  | cons next rest ih => exact ⟨h.1.imp fun _ hk => hk.append new, h.2.1, h.2.2.1, ih h.2.2.2⟩

lemma LeadTo.shaped {last : Version} {rest : List Version} (h : LeadTo records last v rest) :
    ∃ k, Shaped records v k := by
  cases rest with
  | nil => exact h.2
  | cons next rest => exact h.1

lemma Shaped.behind (h : Shaped records v k) (data : List Byte) :
    Shaped records ⟨overwrite v.file v.recordsEnd data, v.recordsEnd⟩ k where
  le := h.le
  recordsEnd := h.recordsEnd
  file := by
    obtain ⟨tagCount, count, total, tableOffset, tail, hcount, hfile⟩ := h.file
    refine ⟨tagCount, count, total, tableOffset, data ++ tail.drop data.length, hcount, ?_⟩
    have hlength : (headerBytes kFormatVersion 0 tagCount count total tableOffset (BitVec.ofNat 64 kHeaderSize) ++
        encode (records.take k)).length = v.recordsEnd := by
      rw [List.length_append, length_headerBytes, length_encode, List.length_take, Nat.min_eq_left h.le, h.recordsEnd]
    rw [hfile, ← List.append_assoc, ← hlength, overwrite_append]
    simp only [List.append_assoc]

lemma Shaped.extend {rest : List (Byte × Event)} (h : Shaped records v k) (hrest : records.drop k = rest) :
    Shaped records ⟨overwrite v.file v.recordsEnd (encode rest), 64 + 41 * records.length⟩ records.length where
  le := le_rfl
  recordsEnd := rfl
  file := by
    subst hrest
    obtain ⟨tagCount, count, total, tableOffset, tail, hcount, hfile⟩ := h.file
    refine ⟨tagCount, count, total, tableOffset, tail.drop (encode (records.drop k)).length, hcount.trans h.le, ?_⟩
    have hlength : (headerBytes kFormatVersion 0 tagCount count total tableOffset (BitVec.ofNat 64 kHeaderSize) ++
        encode (records.take k)).length = v.recordsEnd := by
      rw [List.length_append, length_headerBytes, length_encode, List.length_take, Nat.min_eq_left h.le, h.recordsEnd]
    have hall : encode records = encode (records.take k) ++ encode (records.drop k) := by
      rw [← encode_append, List.take_append_drop]
    rw [hfile, ← List.append_assoc, ← hlength, overwrite_append, List.take_length, hall]
    simp only [List.append_assoc]

end Versions

section Writer

variable {names : Pointer → String} {config : Config} {s : TraceWriter} {records flushed buffered : List (Byte × Event)}

/-- The writer has taken in these records, and its file is of the shape of a trace. -/
def Logged (s : TraceWriter) (records : List (Byte × Event)) : Prop :=
  ∃ flushed buffered, records = flushed ++ buffered ∧ Writing s flushed buffered ∧
    Shaped records ⟨s.file, s.pos⟩ flushed.length

lemma logged_start : Logged TraceWriter.start [] := by
  refine ⟨[], [], rfl, writing_start, le_rfl, rfl, 0, 0, 0, 0, [], le_rfl, ?_⟩
  rw [List.take_nil, List.append_nil]
  exact (List.append_nil _).symm

lemma Writing.drain (h : Writing s flushed buffered) : Writing s.drain (flushed ++ buffered) [] := h.drained

lemma Logged.flushBuffer (h : Logged s records) (hfits : 64 + 41 * records.length < 2 ^ 63) :
    LeadTo records ⟨s.flushBuffer.file, s.flushBuffer.pos⟩ ⟨s.file, s.pos⟩ s.flushVersions ∧
      Logged s.flushBuffer records := by
  obtain ⟨flushed, buffered, rfl, hwriting, hshaped⟩ := h
  by_cases hbuffer : s.buffer = []
  · have hsame : s.flushBuffer = s := if_pos hbuffer
    have hversions : s.flushVersions = [] := if_pos hbuffer
    rw [hsame, hversions]
    exact ⟨⟨rfl, _, hshaped⟩, flushed, buffered, rfl, hwriting, hshaped⟩
  have hdrain := hwriting.drain
  have hend := hdrain.toNat_bytes hfits
  have hpos : s.drain.pos = 64 + 41 * (flushed ++ buffered).length := hdrain.pos
  have hle : s.pos ≤ 64 + 41 * (flushed ++ buffered).length := by
    rw [hwriting.pos, List.length_append]
    omega
  have hrecords : Shaped (flushed ++ buffered) ⟨s.drain.file, 64 + 41 * (flushed ++ buffered).length⟩
      (flushed ++ buffered).length := by
    have hextended := hshaped.extend (List.drop_left : (flushed ++ buffered).drop flushed.length = buffered)
    rw [← hwriting.buffer] at hextended
    exact hextended
  have hlonger : s.file.length ≤ s.drain.file.length := length_le_overwrite s.file s.pos s.buffer
  by_cases htags : s.drain.tags = []
  · have hflushed : s.flushBuffer = s.drain := (if_neg hbuffer).trans (if_pos htags)
    have hversions : s.flushVersions = [⟨s.drain.file, s.drain.bytesWritten.toNat⟩] :=
      (if_neg hbuffer).trans (if_pos htags)
    rw [hflushed, hversions, hend, hpos]
    refine ⟨⟨⟨_, hshaped⟩, hlonger, hle, rfl, _, hrecords⟩, _, [], (List.append_nil _).symm, hdrain, ?_⟩
    rw [hpos]
    exact hrecords
  · have hflushed : s.flushBuffer = s.drain.writeLiveTagTable := (if_neg hbuffer).trans (if_neg htags)
    have hversions : s.flushVersions = [⟨s.drain.file, s.drain.bytesWritten.toNat⟩,
        ⟨(s.drain.write (liveTagBytes s.drain.tags 0)).file, s.drain.bytesWritten.toNat⟩,
        ⟨s.flushBuffer.file, s.drain.bytesWritten.toNat⟩] := (if_neg hbuffer).trans (if_neg htags)
    have hposFlushed : s.flushBuffer.pos = 64 + 41 * (flushed ++ buffered).length := by
      rw [hflushed]
      exact hend
    have htable : Shaped (flushed ++ buffered) ⟨(s.drain.write (liveTagBytes s.drain.tags 0)).file,
        64 + 41 * (flushed ++ buffered).length⟩ (flushed ++ buffered).length := by
      have hbehind := hrecords.behind (liveTagBytes s.drain.tags 0)
      rw [TraceWriter.write, hpos]
      exact hbehind
    have hheader : Shaped (flushed ++ buffered) ⟨s.flushBuffer.file, 64 + 41 * (flushed ++ buffered).length⟩
        (flushed ++ buffered).length := by
      obtain ⟨stale, hfile⟩ := hdrain.liveTagTable_file
      have hcount : s.drain.eventsWritten.toNat ≤ (flushed ++ buffered).length := by
        rw [hdrain.count, BitVec.toNat_ofNat]
        exact Nat.mod_le _ _
      rw [← List.take_length (l := flushed ++ buffered)] at hfile
      rw [hflushed]
      exact ⟨le_rfl, rfl, _, _, _, _, _, hcount, hfile⟩
    have hfinal : (s.drain.write (liveTagBytes s.drain.tags 0)).file.length ≤ s.flushBuffer.file.length := by
      rw [hflushed]
      exact length_le_overwrite _ 0 _
    rw [hversions, hend, hposFlushed]
    refine ⟨⟨⟨_, hshaped⟩, hlonger, hle, ⟨_, hrecords⟩, length_le_overwrite _ _ _, le_rfl, ⟨_, htable⟩, hfinal, le_rfl,
      rfl, _, hheader⟩, _, [], (List.append_nil _).symm, ?_, ?_⟩
    · rw [hflushed]
      exact hdrain.writeLiveTagTable hfits
    · rw [hposFlushed]
      exact hheader

/-- The record that a step hands to the buffer. -/
def takenIn (names : Pointer → String) (config : Config) (s : TraceWriter) : Op → List (Byte × Event)
  | .flush => []
  | .event e =>
    if inWindow config e && !s.capReached && !s.capped config then [((s.resolveTagId names e.tag).1, e)] else []

lemma Logged.record (h : Logged s records) (hroom : ¬ s.buffer.length + kBinaryRecordSize > kBufferSize) (id : Byte)
    (e : Event) :
    Logged { s with buffer := s.buffer ++ recordBytes id e, eventsWritten := s.eventsWritten + 1 }
      (records ++ [(id, e)]) := by
  obtain ⟨flushed, buffered, rfl, hwriting, hshaped⟩ := h
  have hfew : buffered.length < 1598 := by
    rw [hwriting.buffer, length_encode, kBinaryRecordSize, kBufferSize] at hroom
    omega
  exact ⟨flushed, buffered ++ [(id, e)], List.append_assoc .., hwriting.record hfew id e, hshaped.append _⟩

lemma Logged.congr {t : TraceWriter} (h : Logged s records) (hfile : t.file = s.file) (hpos : t.pos = s.pos)
    (hbytes : t.bytesWritten = s.bytesWritten) (hbuffer : t.buffer = s.buffer)
    (hcount : t.eventsWritten = s.eventsWritten) : Logged t records := by
  obtain ⟨flushed, buffered, hrecords, hwriting, hshaped⟩ := h
  refine ⟨flushed, buffered, hrecords, ⟨?_, ?_, ?_, ?_, hwriting.room, ?_⟩, ?_⟩
  · rw [hfile]
    exact hwriting.file
  · rw [hpos]
    exact hwriting.pos
  · rw [hbytes]
    exact hwriting.bytes
  · rw [hbuffer]
    exact hwriting.buffer
  · rw [hcount]
    exact hwriting.count
  · rw [hfile, hpos]
    exact hshaped

lemma resolveTagId_fields (names : Pointer → String) (s : TraceWriter) (tag : Pointer) :
    ∃ tags ptr id, (s.resolveTagId names tag).2 = { s with tags := tags, lastTagPtr := ptr, lastTagId := id } := by
  unfold TraceWriter.resolveTagId
  split
  · exact ⟨s.tags, s.lastTagPtr, s.lastTagId, rfl⟩
  · split
    · exact ⟨_, _, _, rfl⟩
    · split
      · exact ⟨_, _, _, rfl⟩
      · split
        · exact ⟨_, _, _, rfl⟩
        · exact ⟨_, _, _, rfl⟩

lemma Logged.nothing_new (h : Logged s records) : LeadTo records ⟨s.file, s.pos⟩ ⟨s.file, s.pos⟩ [] := by
  obtain ⟨flushed, buffered, -, -, hshaped⟩ := h
  exact ⟨rfl, _, hshaped⟩

/-- Where a step leads the writer, and its file on the way. -/
def Led (names : Pointer → String) (config : Config) (s : TraceWriter) (op : Op) (records : List (Byte × Event)) :
    Prop :=
  LeadTo records ⟨(perform names config s op).file, (perform names config s op).pos⟩ ⟨s.file, s.pos⟩
      (stepVersions names config s op) ∧
    Logged (perform names config s op) records

lemma Logged.led_flush (h : Logged s records) (hfits : 64 + 41 * records.length < 2 ^ 63) :
    Led names config s .flush records := by
  have hflush := h.flushBuffer hfits
  have hversions : stepVersions names config s .flush = s.flushVersions := by
    by_cases hbuffer : s.buffer = []
    · have hsame : (perform names config s .flush).bytesWritten = s.bytesWritten :=
        congrArg TraceWriter.bytesWritten (if_pos hbuffer : s.flushBuffer = s)
      exact (if_pos hsame).trans (if_pos hbuffer).symm
    · obtain ⟨flushed, buffered, -, hwriting, -⟩ := h
      exact if_neg (hwriting.flushBuffer_bytes hbuffer)
  rw [Led, hversions]
  exact hflush

lemma Logged.led_kept {e : Event} (h : Logged s records) (hnone : takenIn names config s (.event e) = [])
    (hsame : ∃ reached dropped, s.writeEvent names config e = { s with capReached := reached, eventsDropped := dropped }) :
    Led names config s (.event e) (records ++ takenIn names config s (.event e)) := by
  obtain ⟨reached, dropped, hsame⟩ := hsame
  have hbytes : (perform names config s (.event e)).bytesWritten = s.bytesWritten := by
    rw [perform, hsame]
  rw [hnone, List.append_nil, Led, stepVersions, if_pos hbytes, perform, hsame]
  exact ⟨h.nothing_new, h.congr rfl rfl rfl rfl rfl⟩

lemma Logged.led_recorded {e : Event} (h : Logged s records) (hfits : 64 + 41 * records.length < 2 ^ 63)
    (hwindow : inWindow config e = true) (hcap : s.capReached = false) (hcapped : s.capped config = false) :
    Led names config s (.event e) (records ++ [((s.resolveTagId names e.tag).1, e)]) := by
  have hperform : perform names config s (.event e) = s.writeEventImpl names config e := writeEvent_in hwindow hcap
  obtain ⟨tags, ptr, lastId, hresolved⟩ := resolveTagId_fields names s e.tag
  have hlogged : Logged (s.resolveTagId names e.tag).2 records := by
    rw [hresolved]
    exact h.congr rfl rfl rfl rfl rfl
  have hdisk : (⟨s.file, s.pos⟩ : Version) =
      ⟨(s.resolveTagId names e.tag).2.file, (s.resolveTagId names e.tag).2.pos⟩ := by
    rw [hresolved]
  have hbytes : s.bytesWritten = (s.resolveTagId names e.tag).2.bytesWritten := by rw [hresolved]
  rw [Led, stepVersions, hperform, writeEventImpl_eq names e hcapped, hdisk, hbytes]
  generalize s.resolveTagId names e.tag = resolved at *
  obtain ⟨id, t⟩ := resolved
  unfold makeRoom
  split
  · next hroom =>
    have hbuffer : t.buffer ≠ [] := by
      intro hnil
      rw [hnil] at hroom
      exact absurd hroom (by decide)
    have hnew : t.flushBuffer.bytesWritten ≠ t.bytesWritten := by
      obtain ⟨flushed, buffered, -, hwriting, -⟩ := hlogged
      exact hwriting.flushBuffer_bytes hbuffer
    have hempty : t.flushBuffer.buffer = [] := by
      rw [TraceWriter.flushBuffer, if_neg hbuffer]
      simp only
      split <;> rfl
    obtain ⟨hlead, hflushed⟩ := hlogged.flushBuffer hfits
    have hshort : ¬ t.flushBuffer.buffer.length + kBinaryRecordSize > kBufferSize := by
      rw [hempty]
      decide
    refine ⟨?_, hflushed.record hshort id e⟩
    change LeadTo _ _ _ (if t.flushBuffer.bytesWritten = t.bytesWritten then [] else t.flushVersions)
    rw [if_neg hnew]
    exact hlead.append _
  · next hroom =>
    refine ⟨?_, hlogged.record hroom id e⟩
    rw [if_pos rfl]
    exact hlogged.nothing_new.append _

lemma Logged.led (h : Logged s records) (hfits : 64 + 41 * records.length < 2 ^ 63) (op : Op) :
    Led names config s op (records ++ takenIn names config s op) := by
  cases op with
  | flush =>
    rw [takenIn, List.append_nil]
    exact h.led_flush hfits
  | event e =>
    cases hwindow : inWindow config e with
    | false =>
      apply h.led_kept
      · rw [takenIn, hwindow]
        rfl
      · exact ⟨_, _, writeEvent_out hwindow⟩
    | true =>
      cases hcap : s.capReached with
      | true =>
        apply h.led_kept
        · rw [takenIn, hwindow, hcap]
          rfl
        · refine ⟨s.capReached, s.eventsDropped, ?_⟩
          rw [TraceWriter.writeEvent, hcap, if_pos rfl, ite_self, ite_self, ← hcap]
      | false =>
        cases hcapped : s.capped config with
        | true =>
          apply h.led_kept
          · rw [takenIn, hwindow, hcap, hcapped]
            rfl
          · refine ⟨true, s.eventsDropped + 1, ?_⟩
            rw [writeEvent_in hwindow hcap, TraceWriter.writeEventImpl, hcapped, if_pos rfl]
        | false =>
          rw [takenIn, hwindow, hcap, hcapped]
          exact h.led_recorded hfits hwindow hcap hcapped

end Writer

section Headers

variable {file old : List Byte} {settings : WatchSettings} {r : Reader Byte}

/-- The file is long enough for a header, and the records start behind it. -/
def Headed (file : List Byte) : Prop :=
  64 ≤ file.length ∧ ∀ i < 8, file[40 + i]? = some (byteAt (BitVec.ofNat 64 kHeaderSize : Word) i)

lemma headed_headerBytes (tagCount : BitVec 32) (count total tableOffset : Word) (rest : List Byte) :
    Headed (headerBytes kFormatVersion 0 tagCount count total tableOffset (BitVec.ofNat 64 kHeaderSize) ++ rest) := by
  constructor
  · rw [List.length_append, length_headerBytes]
    exact Nat.le_add_right _ _
  · intro i hi
    have hfront : (kMagic ++ le 4 kFormatVersion ++ le 4 (0 : BitVec 32) ++ le 4 tagCount ++ le 8 count ++ le 8 total ++
        le 8 tableOffset).length = 40 := by simp [kMagic]
    rw [headerBytes, List.append_assoc, List.append_assoc, List.getElem?_append_right (by omega), hfront,
      Nat.add_sub_cancel_left, List.getElem?_append_left (by rw [length_le]; exact hi), le, List.getElem?_map,
      List.getElem?_range hi]
    rfl

lemma readHeader_headed (h : Headed file) :
    ∃ header, readHeader file = some header ∧ header.eventsOffset = BitVec.ofNat 64 kHeaderSize := by
  have hlength : ¬ (file.take 64).length < 64 := by
    rw [List.length_take]
    exact Nat.not_lt.mpr (Nat.le_min.mpr ⟨le_rfl, h.1⟩)
  refine ⟨_, if_neg hlength, ?_⟩
  have hbytes : field 64 (file.take 64) 40 8 = lowBytes 8 (BitVec.ofNat 64 kHeaderSize : Word) := by
    apply assemble_congr
    intro i hi
    rw [List.getD_eq_getElem?_getD, List.getElem?_take, if_pos (by omega), h.2 i hi]
    rfl
  exact hbytes.trans (lowBytes_all 8 _ (by decide))

lemma Headed.mixed (hold : Headed old) (hfile : Headed file) {n : ℕ} (hn : n ≤ old.length) :
    Headed ((old.take n ++ file.drop n).take 64) := by
  have htake : (old.take n).length = n := by rw [List.length_take, Nat.min_eq_left hn]
  constructor
  · have hlong := hfile.1
    rw [List.length_take, List.length_append, htake, List.length_drop]
    omega
  · intro i hi
    rw [List.getElem?_take, if_pos (by omega)]
    by_cases hin : 40 + i < n
    · rw [List.getElem?_append_left (by omega), List.getElem?_take, if_pos hin]
      exact hold.2 i hi
    · rw [List.getElem?_append_right (by omega), htake, List.getElem?_drop, Nat.add_sub_of_le (by omega)]
      exact hfile.2 i hi

/-- The buffer is a part of a version of the file, be it an older one. -/
def FromVersion (r : Reader Byte) : Prop := ∃ old, Headed old ∧ r.Mirrors old

lemma FromVersion.seek (h : FromVersion r) (target : ℕ) : FromVersion (r.seek target) := by
  obtain ⟨old, hold, hmirrors⟩ := h
  exact ⟨old, hold, hmirrors.seek target⟩

lemma FromVersion.read (hfile : Headed file) (h : FromVersion r) (block n : ℕ) :
    FromVersion (r.read block file n).2 := by
  obtain ⟨old, hold, hmirrors⟩ := h
  rcases hmirrors.read_or block file n with hsame | hnew
  · exact ⟨old, hold, hsame⟩
  · exact ⟨file, hfile, hnew⟩

variable {P : Reader Byte → Prop}

lemma readTagNames_keeps (hread : ∀ r n, P r → P (r.read settings.block file n).2) (n : ℕ) (h : P r) :
    P (readTagNames settings file n r).2 := by
  induction n generalizing r with
  | zero => exact h
  | succ n ih =>
    have hone := hread r 1 h
    rw [readTagNames]
    split
    · next heq =>
      rw [heq] at hone
      exact hone
    · next heq =>
      rw [heq] at hone
      exact ih (hread _ _ hone)

lemma tryReadTags_keeps (hread : ∀ r n, P r → P (r.read settings.block file n).2) (hseek : ∀ r n, P r → P (r.seek n))
    (header : TraceHeader) (h : P r) :
    P (tryReadTags settings file r header).2 ∧ (tryReadTags settings file r header).2.tell = r.tell := by
  unfold tryReadTags
  split
  · exact ⟨h, rfl⟩
  · have hnames := readTagNames_keeps hread header.tagCount.toNat (hseek r header.tagTableOffset.toNat h)
    simp only
    split
    · exact ⟨hseek _ _ hnames, Reader.tell_seek ..⟩
    · exact ⟨hseek _ _ hnames, Reader.tell_seek ..⟩

lemma refreshHeader_spec (hblock : 0 < settings.block) (hfile : Headed file) (h : FromVersion r) :
    FromVersion (refreshHeader settings file r).2 ∧ (refreshHeader settings file r).2.tell = r.tell ∧
      ∀ header, (refreshHeader settings file r).1 = some header →
        header.eventsOffset = BitVec.ofNat 64 kHeaderSize := by
  have hseek := h.seek 0
  have hnext := hseek.read hfile settings.block 64
  have hdata : Headed ((r.seek 0).read settings.block file 64).1 := by
    obtain ⟨old, hold, hmirrors⟩ := hseek
    have hzero : (r.seek 0).start + (r.seek 0).pos = 0 := r.tell_seek 0
    obtain ⟨hstart, hpos⟩ : (r.seek 0).start = 0 ∧ (r.seek 0).pos = 0 := by omega
    rw [Reader.Mirrors, hstart, List.drop_zero] at hmirrors
    have hlength : (r.seek 0).bytes.length ≤ old.length := by
      rw [hmirrors, List.length_take]
      exact Nat.min_le_right _ _
    rw [(r.seek 0).read_data hblock, Reader.held, hpos, hstart, List.drop_zero, Nat.zero_add]
    conv in (r.seek 0).bytes ++ _ => rw [hmirrors]
    rw [List.length_take, Nat.min_eq_left hlength]
    exact hold.mixed hfile hlength
  obtain ⟨header, hheader, hoffset⟩ := readHeader_headed hdata
  unfold refreshHeader
  simp only [hheader]
  split
  · refine ⟨hnext.seek _, Reader.tell_seek .., ?_⟩
    intro header' hsome
    cases hsome
  · refine ⟨hnext.seek _, Reader.tell_seek .., ?_⟩
    intro header' hsome
    rw [← Option.some.inj hsome]
    exact hoffset

end Headers

section Watching

variable {settings : WatchSettings} {records : List (Byte × Event)} {disk : Version} {w : Watcher} {k : ℕ}

lemma Shaped.headed (h : Shaped records disk k) : Headed disk.file := by
  obtain ⟨tagCount, count, total, tableOffset, tail, -, hfile⟩ := h.file
  rw [hfile]
  exact headed_headerBytes ..

/-- The watcher has printed the records from the first it was to show to the last it has read. -/
structure Watching (records : List (Byte × Event)) (disk : Version) (w : Watcher) : Prop where
  offset : w.header.eventsOffset = BitVec.ofNat 64 kHeaderSize
  tell : w.reader.tell = w.eventPos
  buffered : FromVersion w.reader
  size : w.sizeHwm ≤ disk.file.length
  progress : ∃ j, w.eventPos = 64 + 41 * j ∧ w.eventPos ≤ disk.recordsEnd ∧ w.skip ≤ j ∧
    w.emitted = ((records.take j).drop w.skip).map asRead

lemma Shaped.records_bytes (h : Shaped records disk k) {i j : ℕ} (hi : i ≤ j) (hj : j ≤ k) :
    (disk.file.drop (64 + 41 * i)).take ((j - i) * 41) = encode ((records.take j).drop i) := by
  obtain ⟨tagCount, count, total, tableOffset, tail, -, hfile⟩ := h.file
  have hlength : (encode (records.take k)).length = 41 * k := by
    rw [length_encode, List.length_take, Nat.min_eq_left h.le]
  have hlong : 41 * i ≤ (encode (records.take k)).length := by omega
  have hleft : (j - i) * 41 ≤ ((encode (records.take k)).drop (41 * i)).length := by
    rw [List.length_drop, hlength]
    omega
  rw [← List.drop_drop, hfile, List.drop_left' length_headerBytes, List.drop_append_of_le_length hlong,
    List.take_append_of_le_length hleft, drop_encode, Nat.mul_comm, take_encode, List.drop_take, List.take_take,
    List.drop_take, Nat.min_eq_left (by omega)]

lemma take_drop_append {α : Type*} (l : List α) {a b c : ℕ} (hab : a ≤ b) (hbc : b ≤ c) (hc : c ≤ l.length) :
    (l.take b).drop a ++ (l.take c).drop b = (l.take c).drop a := by
  have hsplit : l.take c = l.take b ++ (l.take c).drop b := by
    conv_lhs => rw [← List.take_append_drop b (l.take c), List.take_take, Nat.min_eq_left hbc]
  have hlength : a ≤ (l.take b).length := by
    rw [List.length_take]
    omega
  conv_rhs => rw [hsplit, List.drop_append_of_le_length hlength]

lemma Watching.availableRecords (h : Watching records disk w) (hshaped : Shaped records disk k)
    (hshort : disk.file.length < disk.recordsEnd + 41) {j : ℕ} (hj : w.eventPos = 64 + 41 * j) :
    availableRecords disk.file w = k - j := by
  obtain ⟨tagCount, count, total, tableOffset, tail, -, hfile⟩ := hshaped.file
  have hoffset : w.header.eventsOffset.toNat = 64 := by
    rw [h.offset]
    rfl
  have hlength : disk.file.length = 64 + (41 * k + tail.length) := by
    rw [hfile, List.length_append, length_headerBytes, List.length_append, length_encode, List.length_take,
      Nat.min_eq_left hshaped.le]
  have htail : tail.length < 41 := by
    rw [hlength, hshaped.recordsEnd] at hshort
    omega
  have hrecords : (64 + (41 * k + tail.length) - 64) / 41 = k := by omega
  simp only [Trace.availableRecords, hoffset, hlength, hrecords, hj]
  omega

lemma Watching.emitRecords (h : Watching records disk w) (hblock : 0 < settings.block) (hshaped : Shaped records disk k)
    (hfresh : w.reader.Fresh disk.file) (hshort : disk.file.length < disk.recordsEnd + 41) :
    Watching records disk (emitRecords settings disk.file w) ∧
      (emitRecords settings disk.file w).eventPos = disk.recordsEnd := by
  obtain ⟨j, hj, hbehind, hskip, hemitted⟩ := h.progress
  have havailable := h.availableRecords hshaped hshort hj
  have hend := hshaped.recordsEnd
  have hjk : j ≤ k := by omega
  unfold Trace.emitRecords
  rw [havailable]
  split
  · have hdata : (w.reader.read settings.block disk.file ((k - j) * 41)).1 = encode ((records.take k).drop j) := by
      rw [hfresh.read_data hblock, h.tell, hj]
      exact hshaped.records_bytes hjk le_rfl
    have hcount : ((records.take k).drop j).length = k - j := by
      rw [List.length_drop, List.length_take, Nat.min_eq_left hshaped.le]
    have hlength : (encode ((records.take k).drop j)).length = 41 * (k - j) := by rw [length_encode, hcount]
    have htell := w.reader.tell_read settings.block disk.file ((k - j) * 41)
    have hbuffered := h.buffered.read hshaped.headed settings.block ((k - j) * 41)
    have hunpack := unpack_encode ((records.take k).drop j)
    rw [hdata, hlength, h.tell] at htell
    rw [hcount] at hunpack
    simp only [hdata, hlength]
    rw [Nat.mul_div_cancel_left _ (by decide), hunpack]
    have hpos : w.eventPos + (k - j) * 41 = disk.recordsEnd := by omega
    refine ⟨⟨h.offset, ?_, hbuffered, h.size, k, ?_, hpos.le, hskip.trans hjk, ?_⟩, hpos⟩
    · rw [htell, Nat.mul_comm]
    · exact hpos.trans hend
    · change w.emitted ++ _ = _
      rw [hemitted, ← List.map_append, take_drop_append records hskip hjk hshaped.le]
  · have hnothing : j = k := by omega
    exact ⟨h, by rw [hj, hnothing, hend]⟩

lemma Watching.refresh (h : Watching records disk w) (hblock : 0 < settings.block) (hheaded : Headed disk.file) :
    Watching records disk (refresh settings disk.file w) ∧
      (refresh settings disk.file w).eventPos = w.eventPos := by
  obtain ⟨hbuffered, htell, hoffset⟩ := refreshHeader_spec hblock hheaded h.buffered
  have hread (r : Reader Byte) (n : ℕ) (hr : FromVersion r) := hr.read hheaded settings.block n
  have hseek (r : Reader Byte) (n : ℕ) (hr : FromVersion r) := hr.seek n
  unfold Trace.refresh
  generalize refreshHeader settings disk.file w.reader = refreshed at *
  obtain ⟨found, r⟩ := refreshed
  cases found with
  | none => exact ⟨⟨h.offset, htell.trans h.tell, hbuffered, h.size, h.progress⟩, rfl⟩
  | some header =>
    have htags := (tryReadTags_keeps hread hseek header hbuffered).1
    refine ⟨⟨hoffset header rfl, Reader.tell_seek .., ?_, h.size, h.progress⟩, rfl⟩
    simp only
    split
    · exact hseek _ _ htags
    · exact hseek _ _ hbuffered

lemma Watching.poll (h : Watching records disk w) (hblock : 0 < settings.block) (hshaped : Shaped records disk k)
    (hfresh : w.reader.Fresh disk.file) (hshort : disk.file.length < disk.recordsEnd + 41) :
    ∃ w', poll settings disk.file w = some w' ∧ Watching records disk w' ∧ w'.eventPos = disk.recordsEnd := by
  have hgrown : Watching records disk { w with sizeHwm := max w.sizeHwm disk.file.length } :=
    ⟨h.offset, h.tell, h.buffered, max_le h.size le_rfl, h.progress⟩
  obtain ⟨hemitted, hpos⟩ := hgrown.emitRecords hblock hshaped hfresh hshort
  obtain ⟨hrefreshed, hsame⟩ := hemitted.refresh hblock hshaped.headed
  exact ⟨_, if_neg (Nat.not_lt.mpr h.size), hrefreshed, hsame.trans hpos⟩

lemma readExisting_spec (hblock : 0 < settings.block) (hshaped : Shaped records disk k) {r : Reader Byte}
    (hr : r.Mirrors disk.file) {header : TraceHeader} (hoffset : header.eventsOffset.toNat = 64)
    (hcount : header.eventCount.toNat ≤ k) :
    (readExisting settings disk.file r header).1 =
        encode ((records.take header.eventCount.toNat).drop (skipped settings header)) ∧
      (readExisting settings disk.file r header).2.Mirrors disk.file := by
  have hskip : skipped settings header ≤ header.eventCount.toNat := Nat.sub_le _ _
  unfold readExisting
  split
  · have hseek := hr.seek (header.eventsOffset.toNat + skipped settings header * 41)
    have hshow : min settings.initialN header.eventCount.toNat = header.eventCount.toNat - skipped settings header := by
      rw [skipped]
      omega
    refine ⟨?_, hseek.read settings.block _⟩
    rw [hseek.fresh.read_data hblock, Reader.tell_seek, hoffset, hshow, Nat.mul_comm (skipped settings header)]
    exact hshaped.records_bytes hskip hcount
  · next hnone =>
    have hall : header.eventCount.toNat ≤ skipped settings header := by
      rw [skipped]
      omega
    refine ⟨?_, hr⟩
    rw [List.drop_of_length_le ((List.length_take_le _ _).trans hall)]
    rfl

lemma readHeader_take (file : List Byte) : readHeader (file.take 64) = readHeader file := by
  rw [readHeader, readHeader, List.take_take, Nat.min_self]

lemma attach_watching (hblock : 0 < settings.block) (hshaped : Shaped records disk k)
    (h : attach settings disk.file = some w) : Watching records disk w := by
  obtain ⟨tagCount, count, total, tableOffset, tail, hcount, hfile⟩ := hshaped.file
  have hempty := Reader.mirrors_emptyAt 0 disk.file
  have hdata : ((Reader.emptyAt 0).read settings.block disk.file 64).1 = disk.file.take 64 :=
    hempty.fresh.read_data hblock 64
  have hheader : readHeader disk.file = some ⟨kMagic, kFormatVersion, 0, tagCount, count, total, tableOffset,
      BitVec.ofNat 64 kHeaderSize⟩ := by
    rw [hfile]
    exact readHeader_headerBytes _
  have hread (r : Reader Byte) (n : ℕ) (hr : r.Mirrors disk.file) := hr.read settings.block n
  have hseek (r : Reader Byte) (n : ℕ) (hr : r.Mirrors disk.file) := hr.seek n
  obtain ⟨header, hnamed⟩ : ∃ header : TraceHeader,
      header = ⟨kMagic, kFormatVersion, 0, tagCount, count, total, tableOffset, BitVec.ofNat 64 kHeaderSize⟩ := ⟨_, rfl⟩
  have hmagic : header.magic = kMagic := by rw [hnamed]
  have hoffset : header.eventsOffset = BitVec.ofNat 64 kHeaderSize := by rw [hnamed]
  have hevents : header.eventCount.toNat ≤ k := by
    rw [hnamed]
    exact hcount
  have hbase : header.eventsOffset.toNat = 64 := by
    rw [hoffset]
    rfl
  rw [← hnamed] at hheader
  rw [attach, if_neg (Nat.not_lt.mpr hshaped.headed.1)] at h
  simp only [hdata, readHeader_take, hheader, hmagic] at h
  have htags := (tryReadTags_keeps hread hseek header (hempty.read settings.block 64)).1
  generalize tryReadTags settings disk.file _ header = read at h htags
  obtain ⟨tags, r⟩ := read
  obtain ⟨hshown, hmirrors⟩ := readExisting_spec hblock hshaped htags hbase hevents
  generalize readExisting settings disk.file r header = existing at h hshown hmirrors
  obtain ⟨shown, r'⟩ := existing
  have hbytes : shown = encode ((records.take header.eventCount.toNat).drop (skipped settings header)) := hshown
  have hlength : ((records.take header.eventCount.toNat).drop (skipped settings header)).length * 41 =
      shown.length := by
    rw [hbytes, length_encode, Nat.mul_comm]
  simp only [← hlength, Nat.mul_mod_left, Nat.mul_div_cancel _ (by decide : 0 < 41)] at h
  obtain rfl := Option.some.inj h
  have hskip : skipped settings header ≤ header.eventCount.toNat := Nat.sub_le _ _
  refine ⟨hoffset, Reader.tell_seek .., ⟨disk.file, hshaped.headed, hmirrors.seek _⟩, le_rfl, header.eventCount.toNat, ?_, ?_,
    hskip, ?_⟩
  · change header.eventsOffset.toNat + header.eventCount.toNat * 41 = _
    omega
  · change header.eventsOffset.toNat + header.eventCount.toNat * 41 ≤ _
    rw [hshaped.recordsEnd]
    omega
  · change unpack parseRecord 41 _ shown = _
    rw [hbytes]
    exact unpack_encode _

lemma Watching.append (h : Watching records disk w) (hshaped : Shaped records disk k) (new : List (Byte × Event)) :
    Watching (records ++ new) disk w := by
  obtain ⟨j, hj, hbehind, hskip, hemitted⟩ := h.progress
  have hle : j ≤ records.length := by
    have hend := hshaped.recordsEnd
    have hrecords := hshaped.le
    omega
  refine ⟨h.offset, h.tell, h.buffered, h.size, j, hj, hbehind, hskip, ?_⟩
  rw [List.take_append_of_le_length hle]
  exact hemitted

lemma Watching.later {next : Version} (h : Watching records disk w) (hlength : disk.file.length ≤ next.file.length)
    (hend : disk.recordsEnd ≤ next.recordsEnd) : Watching records next w := by
  obtain ⟨j, hj, hbehind, hskip, hemitted⟩ := h.progress
  exact ⟨h.offset, h.tell, h.buffered, h.size.trans hlength, j, hj, hbehind.trans hend, hskip, hemitted⟩

end Watching

section Sessions

variable {settings : WatchSettings} {names : Pointer → String} {config : Config} {records : List (Byte × Event)}
  {σ : Session}

/-- A poll finds the reader without stale bytes, and less than one record's size behind the records. -/
def PollMeets (σ : Session) : Prop :=
  ∀ w ∈ σ.watcher, w.reader.Fresh σ.disk.file ∧ σ.disk.file.length < σ.disk.recordsEnd + 41

instance (σ : Session) : Decidable (PollMeets σ) :=
  decidable_of_iff (∀ w ∈ σ.watcher.toList, w.reader.held = (σ.disk.file.drop w.reader.tell).take w.reader.held.length ∧
    σ.disk.file.length < σ.disk.recordsEnd + 41) (by
      simp only [PollMeets, Option.mem_toList, Option.mem_def, Reader.Fresh])

def ActMeets (σ : Session) : Action → Prop
  | .poll => PollMeets σ
  | .op _ => True
  | .write => True
  | .attach => True

instance decidableActMeets (σ : Session) : (action : Action) → Decidable (ActMeets σ action)
  | .poll => inferInstanceAs (Decidable (PollMeets σ))
  | .op _ => .isTrue trivial
  | .write => .isTrue trivial
  | .attach => .isTrue trivial

def RunMeets (settings : WatchSettings) (names : Pointer → String) (config : Config) : Session → List Action → Prop
  | _, [] => True
  | σ, action :: actions =>
    ActMeets σ action ∧ RunMeets settings names config (σ.act settings names config action) actions

instance decidableRunMeets (settings : WatchSettings) (names : Pointer → String) (config : Config) :
    (σ : Session) → (actions : List Action) → Decidable (RunMeets settings names config σ actions)
  | _, [] => .isTrue trivial
  | σ, action :: actions =>
    have := decidableRunMeets settings names config (σ.act settings names config action) actions
    inferInstanceAs (Decidable (_ ∧ _))

/-- The records that the writer takes in along a run. -/
def Session.takenIn (names : Pointer → String) (config : Config) (σ : Session) : Action → List (Byte × Event)
  | .op op => if σ.pending = [] then Trace.takenIn names config σ.writer op else []
  | .write => []
  | .attach => []
  | .poll => []

def recordsOf (settings : WatchSettings) (names : Pointer → String) (config : Config) :
    Session → List Action → List (Byte × Event)
  | _, [] => []
  | σ, action :: actions =>
    σ.takenIn names config action ++ recordsOf settings names config (σ.act settings names config action) actions

/-- The writer has these records, its writes lead to its file, and the watcher has printed some of them. -/
structure Session.Ok (records : List (Byte × Event)) (σ : Session) : Prop where
  logged : Logged σ.writer records
  lead : LeadTo records ⟨σ.writer.file, σ.writer.pos⟩ σ.disk σ.pending
  watching : ∀ w ∈ σ.watcher, Watching records σ.disk w

lemma ok_start : Session.start.Ok [] where
  logged := logged_start
  lead := logged_start.nothing_new
  watching := by
    intro w hw
    cases hw

lemma Session.Ok.act (h : σ.Ok records) (hblock : 0 < settings.block) (hfits : 64 + 41 * records.length < 2 ^ 63)
    {action : Action} (hmeets : ActMeets σ action) :
    (σ.act settings names config action).Ok (records ++ σ.takenIn names config action) := by
  obtain ⟨k, hshaped⟩ := h.lead.shaped
  cases action with
  | op op =>
    rw [Session.act, Session.takenIn]
    by_cases hpending : σ.pending = []
    · rw [if_pos hpending, if_pos hpending]
      have hlead := h.lead
      rw [hpending] at hlead
      obtain ⟨hsteps, hlogged⟩ : Led names config σ.writer op _ := h.logged.led hfits op
      refine ⟨hlogged, ?_, fun w hw => (h.watching w hw).append hshaped _⟩
      change LeadTo _ _ σ.disk _
      rw [hlead.1]
      exact hsteps
    · rw [if_neg hpending, if_neg hpending, List.append_nil]
      exact h
  | write =>
    rw [Session.takenIn, List.append_nil, Session.act]
    have hlead := h.lead
    split
    · exact h
    · next next rest hpending =>
      rw [hpending] at hlead
      obtain ⟨-, hlength, hend, hrest⟩ := hlead
      exact ⟨h.logged, hrest, fun w hw => (h.watching w hw).later hlength hend⟩
  | attach =>
    rw [Session.takenIn, List.append_nil]
    exact ⟨h.logged, h.lead, fun w hw => attach_watching hblock hshaped hw⟩
  | poll =>
    rw [Session.takenIn, List.append_nil]
    refine ⟨h.logged, h.lead, ?_⟩
    intro w hw
    obtain ⟨before, hbefore, hpolled⟩ := Option.bind_eq_some_iff.mp hw
    obtain ⟨hfresh, hshort⟩ := hmeets before hbefore
    obtain ⟨after, hafter, hwatching, -⟩ := (h.watching before hbefore).poll hblock hshaped hfresh hshort
    rw [hafter] at hpolled
    rw [← Option.some.inj hpolled]
    exact hwatching

lemma Session.Ok.run {actions : List Action} (h : σ.Ok records) (hblock : 0 < settings.block)
    (hfits : 64 + 41 * (records.length + (recordsOf settings names config σ actions).length) < 2 ^ 63)
    (hmeets : RunMeets settings names config σ actions) :
    (actions.foldl (Session.act settings names config) σ).Ok
      (records ++ recordsOf settings names config σ actions) := by
  induction actions generalizing σ records with
  | nil =>
    rw [recordsOf, List.append_nil]
    exact h
  | cons action actions ih =>
    rw [recordsOf, List.length_append] at hfits
    have hnext : (σ.act settings names config action).Ok _ := h.act hblock (by omega) hmeets.1
    rw [recordsOf, ← List.append_assoc]
    apply ih hnext _ hmeets.2
    rw [List.length_append]
    omega

end Sessions

/-- In each run whose polls meet the condition the watcher prints the records of the run in their order, each once;
after a poll it has printed all that are in the file. -/
theorem watch_prints_records (settings : WatchSettings) (names : Pointer → String) (config : Config)
    (actions : List Action)
    (hblock : 0 < settings.block)
    (hfits : 64 + 41 * (recordsOf settings names config Session.start actions).length < 2 ^ 63)
    (hmeets : RunMeets settings names config Session.start actions) :
    let σ := actions.foldl (Session.act settings names config) Session.start
    let records := recordsOf settings names config Session.start actions
    (∀ w, σ.watcher = some w → ∃ j, 64 + 41 * j ≤ σ.disk.recordsEnd ∧ w.skip ≤ j ∧
        w.emitted = ((records.take j).drop w.skip).map asRead) ∧
      (PollMeets σ → ∀ w, (σ.act settings names config .poll).watcher = some w →
        ∃ k, σ.disk.recordsEnd = 64 + 41 * k ∧ w.emitted = ((records.take k).drop w.skip).map asRead) := by
  intro σ records
  have hok : σ.Ok records := ok_start.run hblock (by rw [List.length_nil, Nat.zero_add]; exact hfits) hmeets
  obtain ⟨k, hshaped⟩ := hok.lead.shaped
  constructor
  · intro w hw
    obtain ⟨j, hj, hbehind, hskip, hemitted⟩ := (hok.watching w hw).progress
    exact ⟨j, hj ▸ hbehind, hskip, hemitted⟩
  · intro hpoll w hw
    obtain ⟨before, hbefore, hpolled⟩ := Option.bind_eq_some_iff.mp hw
    obtain ⟨hfresh, hshort⟩ := hpoll before hbefore
    obtain ⟨after, hafter, hwatching, hend⟩ := (hok.watching before hbefore).poll hblock hshaped hfresh hshort
    rw [hafter] at hpolled
    obtain rfl := Option.some.inj hpolled
    obtain ⟨j, hj, -, -, hemitted⟩ := hwatching.progress
    exact ⟨j, hend.symm.trans hj, hemitted⟩

def watchSettings : WatchSettings := ⟨20, 8192, decodeUtf8, fun _ => true⟩

def watchedActions : List Action :=
  [.attach, .op (.event ⟨1, 10, 0x100, 1, 2, 3⟩), .op .flush, .write, .write, .write, .poll]

theorem watch_prints_records_sample :
    ∃ w j, (watchedActions.foldl (Session.act watchSettings sampleNames uncapped) Session.start).watcher = some w ∧
      64 + 41 * j ≤
        (watchedActions.foldl (Session.act watchSettings sampleNames uncapped) Session.start).disk.recordsEnd ∧
      w.skip ≤ j ∧ w.emitted =
        (((recordsOf watchSettings sampleNames uncapped Session.start watchedActions).take j).drop w.skip).map asRead := by
  have hsome : (watchedActions.foldl (Session.act watchSettings sampleNames uncapped) Session.start).watcher.isSome := by
    decide +kernel
  obtain ⟨w, hw⟩ := Option.isSome_iff_exists.mp hsome
  obtain ⟨j, hj⟩ := (watch_prints_records watchSettings sampleNames uncapped watchedActions (by decide)
    (by decide +kernel) (by decide +kernel)).1 w hw
  exact ⟨w, j, hw, hj⟩

def longName (_ : Pointer) : String := "a tag with a name that takes more bytes than a record"

/-- A tag table as long as a record is printed as one. -/
theorem tag_table_printed :
    ¬ ∀ w, (watchedActions.foldl (Session.act watchSettings longName uncapped) Session.start).watcher = some w →
      ∃ j, w.emitted =
        (((recordsOf watchSettings longName uncapped Session.start watchedActions).take j).drop w.skip).map asRead := by
  intro h
  have hprinted : (watchedActions.foldl (Session.act watchSettings longName uncapped) Session.start).watcher.map
      (fun w => w.emitted.length) = some 2 := by decide +kernel
  have hrecords : (recordsOf watchSettings longName uncapped Session.start watchedActions).length = 1 := by
    decide +kernel
  obtain ⟨w, hw, hlength⟩ := Option.map_eq_some_iff.mp hprinted
  obtain ⟨j, hj⟩ := h w hw
  have hcount := congrArg List.length hj
  rw [hlength, List.length_map, List.length_drop, List.length_take, hrecords] at hcount
  omega

end Trace

end Little64.Emulator

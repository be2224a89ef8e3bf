import Little64.Boot.FlashBoot
import Little64.Emulator.ElfContainment

/-! The program headers of a kernel as the boot image builder parses them and as the emulator scans them. -/

namespace Little64.Boot

open CheckedAccess LittleEndian ByteFile PatchedImage
open Emulator.ElfImage (Phdr Extent ehdr headers headerAt headerPlace HeadersInside extent extent_succ imageBase imageSize
  ptLoad)

variable {file : Blob} {n : ℕ}

def LoadSegment.ofHeader (ph : Phdr) : LoadSegment := ⟨ph.offset.toNat, ph.vaddr.toNat, ph.filesz.toNat, ph.memsz.toNat⟩

def segmentAt (file : Blob) (i : ℕ) : LoadSegment := .ofHeader (headerAt file i)

/-- Where the segment ends in memory. -/
def LoadSegment.stop (s : LoadSegment) : ℕ := s.vaddr + s.memsz

def LoadSegments.add (l : LoadSegments) (s : LoadSegment) : LoadSegments :=
  ⟨l.segments ++ [s], some (l.minVaddr.elim s.vaddr fun m => min m s.vaddr), max l.maxVaddr s.stop⟩

def LoadSegments.addHeader (file : Blob) (l : LoadSegments) (i : ℕ) : LoadSegments :=
  if (headerAt file i).type = ptLoad then l.add (segmentAt file i) else l

/-- The segments among the first headers. -/
def loadSegments (file : Blob) (n : ℕ) : LoadSegments := (List.range n).foldl (LoadSegments.addHeader file) ⟨[], none, 0⟩

/-- The bytes of every segment lie in the file. -/
def SegmentsInside (file : Blob) (n : ℕ) : Prop :=
  ∀ i < n, (headerAt file i).type = ptLoad → (segmentAt file i).offset + (segmentAt file i).filesz ≤ file.length

/-- What both loaders ask of the file header, in exact arithmetic. -/
structure KernelHeader (file : Blob) : Prop where
  size : 64 ≤ file.length
  magic : (ehdr file).magic = 0x464C457F
  format : ¬ ((ehdr file).fileClass ≠ 2 ∨ (ehdr file).data ≠ 1)
  machine : (ehdr file).machine = 0x4C36
  table : (ehdr file).phoff.toNat + headers file * (ehdr file).phentsize.toNat ≤ file.length

lemma loadSegments_succ (n : ℕ) : loadSegments file (n + 1) = (loadSegments file n).addHeader file n := by
  rw [loadSegments, List.range_succ, List.foldl_append]
  rfl

section FileHeader

lemma take_eq_iff {bytes : Blob} (hlength : 4 ≤ bytes.length) {a b c d : Byte} :
    bytes.take 4 = [a, b, c, d] ↔
      bytes.getD 0 0 = a ∧ bytes.getD 1 0 = b ∧ bytes.getD 2 0 = c ∧ bytes.getD 3 0 = d := by
  match bytes, hlength with
  | x :: y :: z :: w :: rest, _ => simp

lemma magic_iff (hlength : 64 ≤ file.length) :
    file.take 4 = [0x7F, 0x45, 0x4C, 0x46] ↔ (ehdr file).magic = 0x464C457F := by
  rw [take_eq_iff (by omega)]
  have hbytes : ∀ i < 4, byteAt (ehdr file).magic i = file.getD i 0 := by
    intro i hi
    have hbyte := byteAt_assemble (w := 32) (fun i => file.getD (0 + i) 0) 4 i hi (by omega)
    rw [Nat.zero_add] at hbyte
    exact hbyte
  rw [← hbytes 0 (by omega), ← hbytes 1 (by omega), ← hbytes 2 (by omega), ← hbytes 3 (by omega)]
  constructor
  · rintro ⟨h0, h1, h2, h3⟩
    apply eq_of_byteAt_eq
    intro i hi
    obtain rfl | rfl | rfl | rfl : i = 0 ∨ i = 1 ∨ i = 2 ∨ i = 3 := by omega
    · exact h0
    · exact h1
    · exact h2
    · exact h3
  · intro h
    rw [h]
    decide

lemma format_iff (hlength : 64 ≤ file.length) :
    (file.drop 4).take 2 = [2, 1] ↔ ¬ ((ehdr file).fileClass ≠ 2 ∨ (ehdr file).data ≠ 1) := by
  have hclass : (ehdr file).fileClass = file.getD 4 0 := assemble_one _
  have hdata : (ehdr file).data = file.getD 5 0 := assemble_one _
  rw [hclass, hdata, not_or, not_not, not_not]
  match file, hlength with
  | _ :: _ :: _ :: _ :: x :: y :: _, _ => simp

end FileHeader

section ProgramHeaders

variable {l l' : LoadSegments}

lemma parseProgramHeader_eq_ok (i : ℕ) :
    parseProgramHeader file (ehdr file).phoff.toNat (ehdr file).phentsize.toNat l i = .ok l' ↔
      headerPlace file i + 56 ≤ file.length ∧
        ((headerAt file i).type = ptLoad → (segmentAt file i).offset + (segmentAt file i).filesz ≤ file.length) ∧
        l.addHeader file i = l' := by
  have htype : unpackU32 file (headerPlace file i) = PT_LOAD ↔ (headerAt file i).type = ptLoad :=
    BitVec.toNat_inj (x := (headerAt file i).type) (y := ptLoad)
  rw [parseProgramHeader, check_eq_ok, Nat.not_lt]
  apply and_congr_right
  intro _
  change (if unpackU32 file (headerPlace file i) ≠ PT_LOAD then pure l else _) = _ ↔ _
  rw [LoadSegments.addHeader]
  by_cases hload : (headerAt file i).type = ptLoad
  · rw [if_neg (not_not.mpr (htype.mpr hload)), check_eq_ok, Nat.not_lt, if_pos hload]
    constructor
    · rintro ⟨hinside, h⟩
      exact ⟨fun _ => hinside, Except.ok.inj h⟩
    · rintro ⟨hinside, h⟩
      exact ⟨hinside hload, congrArg Except.ok h⟩
  · rw [if_pos fun h => hload (htype.mp h), if_neg hload]
    constructor
    · intro h
      exact ⟨fun h => absurd h hload, Except.ok.inj h⟩
    · rintro ⟨-, h⟩
      exact congrArg Except.ok h

lemma parseProgramHeaders_eq_ok :
    (List.range n).foldlM (parseProgramHeader file (ehdr file).phoff.toNat (ehdr file).phentsize.toNat) ⟨[], none, 0⟩ =
        .ok l ↔ HeadersInside file n ∧ SegmentsInside file n ∧ loadSegments file n = l := by
  induction n generalizing l with
  | zero =>
    constructor
    · intro h
      exact ⟨fun i hi => absurd hi (Nat.not_lt_zero i), fun i hi => absurd hi (Nat.not_lt_zero i), Except.ok.inj h⟩
    · rintro ⟨-, -, h⟩
      exact congrArg Except.ok h
  | succ n ih =>
    have hone : ∀ l, [n].foldlM (parseProgramHeader file (ehdr file).phoff.toNat (ehdr file).phentsize.toNat) l =
        parseProgramHeader file (ehdr file).phoff.toNat (ehdr file).phentsize.toNat l n := fun l => by
      rw [List.foldlM_cons]
      exact bind_pure _
    rw [List.range_succ, List.foldlM_append, bind_eq_ok, loadSegments_succ]
    constructor
    · rintro ⟨mid, hmid, hlast⟩
      rw [hone, parseProgramHeader_eq_ok] at hlast
      obtain ⟨hheaders, hsegments, rfl⟩ := ih.mp hmid
      obtain ⟨hheader, hsegment, hl⟩ := hlast
      refine ⟨fun i hi => ?_, fun i hi => ?_, hl⟩
      · rcases Nat.lt_succ_iff_lt_or_eq.mp hi with hlt | rfl
        · exact hheaders i hlt
        · exact hheader
      · rcases Nat.lt_succ_iff_lt_or_eq.mp hi with hlt | rfl
        · exact hsegments i hlt
        · exact hsegment
    · rintro ⟨hheaders, hsegments, hl⟩
      refine ⟨loadSegments file n, ih.mpr ⟨fun i hi => hheaders i (by omega), fun i hi => hsegments i (by omega), rfl⟩, ?_⟩
      rw [hone, parseProgramHeader_eq_ok]
      exact ⟨hheaders n (by omega), hsegments n (by omega), hl⟩

/-- The files that the builder can parse, and what it makes of them. -/
lemma parse_eq_ok {p : ParsedElf} :
    parseLittle64ElfLoadSegments file = .ok p ↔
      KernelHeader file ∧ HeadersInside file (headers file) ∧ SegmentsInside file (headers file) ∧
        (loadSegments file (headers file)).minVaddr = some p.minVaddr ∧
        p = ⟨(ehdr file).entry.toNat, (loadSegments file (headers file)).segments, p.minVaddr,
          (loadSegments file (headers file)).maxVaddr⟩ := by
  have hmachine : unpackU16 file 18 = EM_LITTLE64 ↔ (ehdr file).machine = 0x4C36 :=
    BitVec.toNat_inj (x := (ehdr file).machine) (y := 0x4C36)
  simp only [parseLittle64ElfLoadSegments, check_eq_ok, Nat.not_lt, not_not]
  constructor
  · rintro ⟨hsize, hmagic, hformat, hmach, htable, h⟩
    obtain ⟨l, hl, h⟩ := bind_eq_ok.mp h
    obtain ⟨hheaders, hsegments, rfl⟩ := parseProgramHeaders_eq_ok.mp hl
    refine ⟨⟨hsize, (magic_iff hsize).mp hmagic, (format_iff hsize).mp hformat, hmachine.mp hmach, htable⟩, hheaders,
      hsegments, ?_⟩
    split at h
    · cases h
    · next minVaddr hmin =>
      obtain rfl := Except.ok.inj h
      exact ⟨hmin, rfl⟩
  · rintro ⟨hheader, hheaders, hsegments, hmin, hp⟩
    refine ⟨hheader.size, (magic_iff hheader.size).mpr hheader.magic, (format_iff hheader.size).mpr hheader.format,
      hmachine.mpr hheader.machine, hheader.table, ?_⟩
    rw [bind_eq_ok]
    refine ⟨loadSegments file (headers file), parseProgramHeaders_eq_ok.mpr ⟨hheaders, hsegments, rfl⟩, ?_⟩
    rw [hmin]
    exact congrArg Except.ok hp.symm

end ProgramHeaders

section Extents

/-- What the two scans have found among the same headers, one in numbers and one in words. -/
structure Scanned (l : LoadSegments) (e : Extent) : Prop where
  found : e.foundLoad = l.minVaddr.isSome
  first : e.minAddr.toNat = l.minVaddr.getD (2 ^ 64 - 1)
  lower : ∀ s ∈ l.segments, e.minAddr.toNat ≤ s.vaddr
  small : ∀ s ∈ l.segments, s.vaddr < 2 ^ 64 ∧ s.memsz < 2 ^ 64
  last : ∀ s ∈ l.segments, s.stop ≤ l.maxVaddr
  lastWrapped : ∀ s ∈ l.segments, s.stop % 2 ^ 64 ≤ e.maxAddr.toNat
  fresh : l.minVaddr = none → l.maxVaddr = 0 ∧ e.maxAddr.toNat = 0
  attained : l.minVaddr ≠ none →
    (∃ s ∈ l.segments, s.stop = l.maxVaddr) ∧ ∃ s ∈ l.segments, s.stop % 2 ^ 64 = e.maxAddr.toNat

variable {l : LoadSegments} {e : Extent} {ph : Phdr}

lemma toNat_minAddr_add (hload : ph.type = ptLoad) :
    (e.add ph).minAddr.toNat = min e.minAddr.toNat ph.vaddr.toNat := by
  rw [Extent.add, if_neg (not_not.mpr hload)]
  change (if ph.vaddr < e.minAddr then ph.vaddr else e.minAddr).toNat = _
  split
  · next h =>
    rw [BitVec.lt_def] at h
    omega
  · next h =>
    rw [BitVec.lt_def] at h
    omega

lemma toNat_maxAddr_add (hload : ph.type = ptLoad) :
    (e.add ph).maxAddr.toNat = max e.maxAddr.toNat ((LoadSegment.ofHeader ph).stop % 2 ^ 64) := by
  have hstop : (ph.vaddr + ph.memsz).toNat = (LoadSegment.ofHeader ph).stop % 2 ^ 64 := BitVec.toNat_add _ _
  rw [Extent.add, if_neg (not_not.mpr hload)]
  change (if e.maxAddr < ph.vaddr + ph.memsz then ph.vaddr + ph.memsz else e.maxAddr).toNat = _
  rw [← hstop]
  split
  · next h =>
    rw [BitVec.lt_def] at h
    omega
  · next h =>
    rw [BitVec.lt_def] at h
    omega

lemma Scanned.add (h : Scanned l e) (hload : ph.type = ptLoad) : Scanned (l.add (.ofHeader ph)) (e.add ph) where
  found := by
    rw [Extent.add, if_neg (not_not.mpr hload)]
    rfl
  first := by
    have hvaddr := ph.vaddr.isLt
    rw [toNat_minAddr_add hload, h.first]
    change _ = l.minVaddr.elim ph.vaddr.toNat fun m => min m ph.vaddr.toNat
    cases l.minVaddr with
    | none => exact Nat.min_eq_right (by change ph.vaddr.toNat ≤ 2 ^ 64 - 1; omega)
    | some m => rfl
  lower s hs := by
    rw [toNat_minAddr_add hload]
    rcases List.mem_append.mp hs with hs | hs
    · exact (Nat.min_le_left _ _).trans (h.lower s hs)
    · rw [List.mem_singleton.mp hs]
      exact Nat.min_le_right _ _
  small s hs := by
    rcases List.mem_append.mp hs with hs | hs
    · exact h.small s hs
    · rw [List.mem_singleton.mp hs]
      exact ⟨ph.vaddr.isLt, ph.memsz.isLt⟩
  last s hs := by
    rcases List.mem_append.mp hs with hs | hs
    · exact (h.last s hs).trans (Nat.le_max_left _ _)
    · rw [List.mem_singleton.mp hs]
      exact Nat.le_max_right _ _
  lastWrapped s hs := by
    rw [toNat_maxAddr_add hload]
    rcases List.mem_append.mp hs with hs | hs
    · exact (h.lastWrapped s hs).trans (Nat.le_max_left _ _)
    · rw [List.mem_singleton.mp hs]
      exact Nat.le_max_right _ _
  fresh hnone := by cases hnone
  attained _ := by
    have hnew : LoadSegment.ofHeader ph ∈ (l.add (.ofHeader ph)).segments :=
      List.mem_append_right _ (List.mem_singleton_self _)
    have hold : ∀ s ∈ l.segments, s ∈ (l.add (.ofHeader ph)).segments := fun s hs => List.mem_append_left _ hs
    have hmax : (l.add (.ofHeader ph)).maxVaddr = max l.maxVaddr (LoadSegment.ofHeader ph).stop := rfl
    rw [toNat_maxAddr_add hload, hmax]
    cases hmin : l.minVaddr with
    | none =>
      obtain ⟨hmax, hwrapped⟩ := h.fresh hmin
      rw [hmax, hwrapped, Nat.zero_max, Nat.zero_max]
      exact ⟨⟨_, hnew, rfl⟩, _, hnew, rfl⟩
    | some m =>
      obtain ⟨⟨s, hs, hstop⟩, t, ht, hwrapped⟩ := h.attained (by rw [hmin]; exact Option.some_ne_none m)
      constructor
      · rcases Nat.le_total l.maxVaddr (LoadSegment.ofHeader ph).stop with hle | hle
        · exact ⟨_, hnew, (Nat.max_eq_right hle).symm⟩
        · exact ⟨s, hold s hs, hstop.trans (Nat.max_eq_left hle).symm⟩
      · rcases Nat.le_total e.maxAddr.toNat ((LoadSegment.ofHeader ph).stop % 2 ^ 64) with hle | hle
        · exact ⟨_, hnew, (Nat.max_eq_right hle).symm⟩
        · exact ⟨t, hold t ht, hwrapped.trans (Nat.max_eq_left hle).symm⟩

lemma scanned (file : Blob) (n : ℕ) : Scanned (loadSegments file n) (extent file n) := by
  induction n with
  | zero =>
    exact
      { found := rfl
        first := rfl
        lower := fun s hs => by cases hs
        small := fun s hs => by cases hs
        last := fun s hs => by cases hs
        lastWrapped := fun s hs => by cases hs
        fresh := fun _ => ⟨rfl, rfl⟩
        attained := fun h => absurd rfl h }
  | succ n ih =>
    rw [loadSegments_succ, extent_succ, LoadSegments.addHeader]
    split
    · next hload => exact ih.add hload
    · next hload =>
      rw [Extent.add, if_pos hload]
      exact ih

end Extents

section Spans

variable {p : ParsedElf} (hp : parseLittle64ElfLoadSegments file = .ok p)

/-- The ends of the segments in 64 bits reach into the same page as the real ones. -/
def ParsedElf.EndsTogether (p : ParsedElf) : Prop :=
  p.virtualBase + p.span < 2 ^ 64 ∨ (∀ s ∈ p.segments, 2 ^ 64 ≤ s.stop) ∨
    p.virtualBase + p.span = 2 ^ 64 ∧ ∃ s ∈ p.segments, s.stop < 2 ^ 64 ∧ 2 ^ 64 - 4096 < s.stop

include hp

lemma scanned_parsed : Scanned ⟨p.segments, some p.minVaddr, p.maxVaddr⟩ (extent file (headers file)) := by
  obtain ⟨-, -, -, hmin, hp⟩ := parse_eq_ok.mp hp
  have hscanned := scanned file (headers file)
  have hloads : loadSegments file (headers file) = ⟨p.segments, some p.minVaddr, p.maxVaddr⟩ := by
    rw [hp, ← hmin]
  rw [hloads] at hscanned
  exact hscanned

lemma toNat_imageBase : (imageBase file).toNat = p.virtualBase := by
  have hfirst := (scanned_parsed hp).first
  have hbound := (extent file (headers file)).minAddr.isLt
  change ((extent file (headers file)).minAddr / 4096 * 4096).toNat = _
  rw [BitVec.toNat_mul, BitVec.toNat_udiv, hfirst, ParsedElf.virtualBase, PAGE_SIZE]
  change p.minVaddr / 4096 * 4096 % 2 ^ 64 = _
  rw [Nat.mod_eq_of_lt]
  rw [hfirst] at hbound
  change p.minVaddr < 2 ^ 64 at hbound
  omega

lemma toNat_imageSize : (imageSize file).toNat =
    (2 ^ 64 - p.virtualBase + (extent file (headers file)).maxAddr.toNat + 4095) % 2 ^ 64 / 4096 * 4096 := by
  have hbase := toNat_imageBase hp
  change (((extent file (headers file)).maxAddr - imageBase file + 4095) / 4096 * 4096).toNat = _
  rw [BitVec.toNat_mul, BitVec.toNat_udiv, BitVec.toNat_add, BitVec.toNat_sub, hbase]
  change ((2 ^ 64 - p.virtualBase + _) % 2 ^ 64 + 4095) % 2 ^ 64 / 4096 * 4096 % 2 ^ 64 = _
  omega

/-- What is known of the places of the segments. -/
lemma parsed_places : p.virtualBase ≤ p.minVaddr ∧ p.minVaddr < 2 ^ 64 ∧ p.virtualBase % 4096 = 0 ∧
    (∀ s ∈ p.segments, p.minVaddr ≤ s.vaddr ∧ s.vaddr < 2 ^ 64 ∧ s.stop ≤ p.maxVaddr ∧ s.vaddr ≤ s.stop ∧
      s.stop < 2 ^ 65 ∧ s.stop % 2 ^ 64 ≤ (extent file (headers file)).maxAddr.toNat) ∧
    (∃ s ∈ p.segments, s.stop = p.maxVaddr) ∧
    ∃ s ∈ p.segments, s.stop % 2 ^ 64 = (extent file (headers file)).maxAddr.toNat := by
  have hscanned := scanned_parsed hp
  have hfirst : (extent file (headers file)).minAddr.toNat = p.minVaddr := hscanned.first
  have hattained := hscanned.attained (Option.some_ne_none _)
  have hbound := (extent file (headers file)).minAddr.isLt
  rw [hfirst] at hbound
  rw [ParsedElf.virtualBase, PAGE_SIZE]
  refine ⟨by omega, hbound, by omega, fun s hs => ?_, hattained.1, hattained.2⟩
  have hlower := hscanned.lower s hs
  rw [hfirst] at hlower
  obtain ⟨hvaddr, hmemsz⟩ := hscanned.small s hs
  refine ⟨hlower, hvaddr, hscanned.last s hs, Nat.le_add_right _ _, ?_, hscanned.lastWrapped s hs⟩
  rw [LoadSegment.stop]
  omega

omit hp in
lemma span_eq (p : ParsedElf) : p.span = (p.maxVaddr - p.virtualBase + 4095) / 4096 * 4096 := by
  rw [ParsedElf.span, alignUp, PAGE_SIZE]
  omega

lemma imageSize_le_span : (imageSize file).toNat ≤ p.span := by
  obtain ⟨hbase, hmin, -, hplaces, -, s, hs, hwrapped⟩ := parsed_places hp
  obtain ⟨hlower, -, hlast, hstop, hsmall, -⟩ := hplaces s hs
  have hbound := (extent file (headers file)).maxAddr.isLt
  rw [toNat_imageSize hp, span_eq]
  apply Nat.mul_le_mul_right
  apply Nat.div_le_div_right
  rw [← hwrapped] at hbound ⊢
  omega

lemma imageSize_eq_span_iff (hsmall : p.span ≤ 2 ^ 28) : (imageSize file).toNat = p.span ↔ p.EndsTogether := by
  obtain ⟨hbase, hmin, hpage, hplaces, ⟨t, ht, hmax⟩, s, hs, hwrapped⟩ := parsed_places hp
  have hs' := hplaces s hs
  have ht' := hplaces t ht
  have hbound := (extent file (headers file)).maxAddr.isLt
  rw [toNat_imageSize hp, ParsedElf.EndsTogether]
  rw [span_eq] at hsmall ⊢
  generalize (extent file (headers file)).maxAddr.toNat = wrapped at *
  constructor
  · intro hsize
    by_cases hall : ∀ s ∈ p.segments, 2 ^ 64 ≤ s.stop
    · exact .inr (.inl hall)
    · simp only [not_forall, not_le] at hall
      obtain ⟨q, hq, hfits⟩ := hall
      have hq' := hplaces q hq
      rw [Nat.mod_eq_of_lt hfits] at hq'
      by_cases hend : p.virtualBase + (p.maxVaddr - p.virtualBase + 4095) / 4096 * 4096 < 2 ^ 64
      · exact .inl hend
      · refine .inr (.inr ⟨by omega, s, hs, by omega, by omega⟩)
  · rintro (hend | hall | ⟨hend, q, hq, hfits, hpage⟩)
    · have hstop : s.stop < 2 ^ 64 := by omega
      omega
    · have hstop := hall s hs
      have htop := hall t ht
      omega
    · have hq' := hplaces q hq
      rw [Nat.mod_eq_of_lt hfits] at hq'
      omega

end Spans

end Little64.Boot

import Little64.Boot.Fat32RoundTrip
import Little64.Boot.FlatteningAgreement
import Little64.Boot.Stage0Kernel

/-! Stage 0 puts the segments of a kernel into memory one after the other, and its checksum goes over the image as it
grows. -/

namespace Little64.Boot.Stage0Kernel

open CheckedAccess LittleEndian ByteFile PatchedImage
open Emulator.ElfImage (headerAt headers headerPlace ehdr ptLoad HeadersInside)

section Memory

variable {ram : Ram} {base destination size address : Word} {bytes : Blob} {n off : ℕ}

lemma getElem?_physicalBytes (ram : Ram) (base : Word) (n k : ℕ) :
    (physicalBytes ram base n)[k]? = if k < n then some (ram (base + BitVec.ofNat 64 k)) else none := by
  rw [physicalBytes, List.getElem?_map]
  split
  · next hk => rw [List.getElem?_range hk, Option.map_some]
  · next hk => rw [List.getElem?_eq_none (by rw [List.length_range]; omega), Option.map_none]

@[simp] lemma length_physicalBytes (ram : Ram) (base : Word) (n : ℕ) : (physicalBytes ram base n).length = n := by
  rw [physicalBytes, List.length_map, List.length_range]

/-- How far a place of a window is behind another one. -/
lemma toNat_distance (base : Word) {off k : ℕ} (hoff : off < 2 ^ 64) (hk : k < 2 ^ 64) :
    (base + BitVec.ofNat 64 k - (base + BitVec.ofNat 64 off)).toNat = if off ≤ k then k - off else 2 ^ 64 + k - off := by
  have hbase := base.isLt
  rw [BitVec.toNat_sub, BitVec.toNat_add, BitVec.toNat_add, BitVec.toNat_ofNat, BitVec.toNat_ofNat,
    Nat.mod_eq_of_lt hoff, Nat.mod_eq_of_lt hk]
  split
  all_goals omega

lemma toNat_offset (base : Word) {k : ℕ} (hk : k < 2 ^ 64) : (base + BitVec.ofNat 64 k - base).toNat = k := by
  have hdistance := toNat_distance base (show 0 < 2 ^ 64 by decide) hk
  rw [if_pos (Nat.zero_le k), BitVec.add_zero] at hdistance
  exact hdistance

lemma physicalBytes_zeroed (ram : Ram) (base size : Word) :
    physicalBytes (zeroToPhysical ram base size) base size.toNat = List.replicate size.toNat 0 := by
  have hsize := size.isLt
  apply List.ext_getElem?
  intro k
  rw [getElem?_physicalBytes, List.getElem?_replicate]
  split
  · next hk =>
    have hinside : base + BitVec.ofNat 64 k - base < size := by
      rw [BitVec.lt_def, toNat_offset base (by omega)]
      exact hk
    rw [zeroToPhysical, if_pos hinside]
  · rfl

section Copies

variable (ram : Ram) (base : Word) (hend : off + bytes.length < 2 ^ 64)

include hend

lemma copyToPhysical_at {k : ℕ} (hk : k < 2 ^ 64) :
    copyToPhysical ram (base + BitVec.ofNat 64 off) bytes (base + BitVec.ofNat 64 k) =
      if off ≤ k ∧ k < off + bytes.length then bytes.getD (k - off) 0 else ram (base + BitVec.ofNat 64 k) := by
  rw [copyToPhysical, toNat_distance base (by omega) hk]
  by_cases hbefore : off ≤ k
  · rw [if_pos hbefore]
    by_cases hinside : k < off + bytes.length
    · rw [if_pos (by omega), if_pos ⟨hbefore, hinside⟩]
    · rw [if_neg (by omega), if_neg fun h => hinside h.2]
  · rw [if_neg hbefore, if_neg (by omega), if_neg fun h => hbefore h.1]

/-- Bytes that are written inside a window. -/
lemma physicalBytes_copied (hinside : off + bytes.length ≤ n) (hn : n < 2 ^ 64) :
    physicalBytes (copyToPhysical ram (base + BitVec.ofNat 64 off) bytes) base n =
      patch (physicalBytes ram base n) off bytes := by
  apply List.ext_getElem?
  intro k
  rw [getElem?_patch (by rw [length_physicalBytes]; exact hinside), getElem?_physicalBytes, getElem?_physicalBytes]
  by_cases hk : k < n
  · rw [if_pos hk, if_pos hk, copyToPhysical_at ram base hend (by omega)]
    split
    · rw [List.getD_eq_getElem?_getD, List.getElem?_eq_getElem (by omega), Option.getD_some]
    · rfl
  · rw [if_neg hk, if_neg hk, if_neg (by omega)]

/-- Bytes that are written behind a window. -/
lemma physicalBytes_behind (hbehind : n ≤ off) :
    physicalBytes (copyToPhysical ram (base + BitVec.ofNat 64 off) bytes) base n = physicalBytes ram base n := by
  apply List.ext_getElem?
  intro k
  rw [getElem?_physicalBytes, getElem?_physicalBytes]
  by_cases hk : k < n
  · rw [if_pos hk, if_pos hk, copyToPhysical_at ram base hend (by omega), if_neg (by omega)]
  · rw [if_neg hk, if_neg hk]

end Copies

lemma physicalBytes_written (ram : Ram) (destination : Word) (bytes : Blob) (hlength : bytes.length < 2 ^ 64) :
    physicalBytes (copyToPhysical ram destination bytes) destination bytes.length = bytes := by
  apply List.ext_getElem?
  intro k
  rw [getElem?_physicalBytes]
  split
  · next hk =>
    have hdistance := toNat_offset destination (hk.trans hlength)
    rw [copyToPhysical, hdistance, if_pos hk, List.getD_eq_getElem?_getD, List.getElem?_eq_getElem hk, Option.getD_some]
  · next hk => rw [List.getElem?_eq_none (Nat.not_lt.mp hk)]

end Memory

lemma ok_then {α β : Type} (a : α) (f : α → Stage0 β) : (Except.ok a >>= f) = f a := rfl

section Images

variable {B bytes : Blob} {n off pad : ℕ}

/-- An image of which the first bytes are there, and zeros. -/
def grown (B : Blob) (n : ℕ) : Blob := B ++ List.replicate (n - B.length) 0

lemma grown_zeros {k : ℕ} (hk : B.length + k ≤ n) : grown (B ++ List.replicate k 0) n = grown B n := by
  have hsplit : n - B.length = k + (n - (B.length + k)) := by omega
  rw [grown, grown, List.length_append, List.length_replicate, hsplit, List.replicate_add, List.append_assoc]

/-- The next bytes of an image. -/
lemma patch_grown (B bytes : Blob) (hend : B.length + bytes.length ≤ n) :
    patch (grown B n) B.length bytes = grown (B ++ bytes) n := by
  have hdrop : (grown B n).drop (B.length + bytes.length) = List.replicate (n - (B.length + bytes.length)) 0 := by
    rw [grown, List.drop_append, List.drop_of_length_le (Nat.le_add_right _ _), List.nil_append, List.drop_replicate]
    congr 1
    omega
  rw [patch, hdrop, grown, List.take_left, grown, List.length_append]

end Images

section Loads

variable {disk : Disk} {volume : Fat32Volume} {kernelFile : Stage0FileInfo} {place : Placement} {l : Loading}
  {ph : ProgramHeader} {start : Ram} {base : Word} {B bytes : Blob} {span off k : ℕ}

/-- The image as far as it has been loaded. Behind it memory is as it was. -/
structure Loaded (base : Word) (span : ℕ) (start : Ram) (l : Loading) (B : Blob) : Prop where
  length : B.length ≤ span
  window : physicalBytes l.ram base span = grown B span
  crc : l.kernelLoadCrc = crc32UpdateBytes crc32Initialize B
  offset : l.currentKernelOffset = BitVec.ofNat 32 B.length
  outside : ∀ address, span ≤ (address - base).toNat → l.ram address = start address

section Steps

variable (h : Loaded base span start l B) (hspan : span < 2 ^ 32)

include h hspan

lemma Loaded.advance (hk : B.length + k ≤ span) :
    Loaded base span start (l.advance (BitVec.ofNat 32 k)) (B ++ List.replicate k 0) where
  length := by
    rw [List.length_append, List.length_replicate]
    exact hk
  window := h.window.trans (grown_zeros hk).symm
  crc := by
    have hzeros : (BitVec.ofNat 32 k).toNat = k := by
      rw [BitVec.toNat_ofNat]
      omega
    rw [crc32UpdateBytes_append, ← h.crc, ← crc32UpdateZeros_eq]
    exact congrArg (crc32UpdateZeros l.kernelLoadCrc) hzeros
  offset := by
    rw [List.length_append, List.length_replicate, BitVec.ofNat_add, ← h.offset]
    rfl
  outside := h.outside

lemma Loaded.skipTo (hoff : B.length ≤ off) (hend : off ≤ span) :
    Loaded base span start (l.skipTo (BitVec.ofNat 32 off)) (B ++ List.replicate (off - B.length) 0) := by
  have hlt : l.currentKernelOffset < BitVec.ofNat 32 off ↔ B.length < off := by
    rw [h.offset, BitVec.lt_def, BitVec.toNat_ofNat, BitVec.toNat_ofNat, Nat.mod_eq_of_lt (by omega),
      Nat.mod_eq_of_lt (by omega)]
  rw [Loading.skipTo]
  split
  · next hbehind =>
    have hgap : BitVec.ofNat 32 off - l.currentKernelOffset = BitVec.ofNat 32 (off - B.length) := by
      rw [h.offset]
      apply BitVec.eq_of_toNat_eq
      rw [BitVec.toNat_sub, BitVec.toNat_ofNat, BitVec.toNat_ofNat, BitVec.toNat_ofNat]
      omega
    have hadvanced := h.advance hspan (k := off - B.length) (by omega)
    have hsum : BitVec.ofNat 32 off = (l.advance (BitVec.ofNat 32 (off - B.length))).currentKernelOffset := by
      rw [hadvanced.offset, List.length_append, List.length_replicate]
      congr 1
      omega
    rw [hgap, hsum]
    exact hadvanced
  · next hat =>
    have hsame : off - B.length = 0 := by
      rw [hlt] at hat
      omega
    rw [hsame, List.replicate_zero, List.append_nil]
    exact h

lemma Loaded.write (bytes : Blob) (hend : B.length + bytes.length ≤ span) : Loaded base span start
    (l.write (base + BitVec.ofNat 64 B.length) (BitVec.ofNat 32 bytes.length) bytes) (B ++ bytes) where
  length := by rwa [List.length_append]
  window := by
    have hcopied := physicalBytes_copied l.ram base (n := span) (by omega) hend (by omega)
    rw [h.window, patch_grown B bytes hend] at hcopied
    exact hcopied
  crc := by
    rw [crc32UpdateBytes_append, ← h.crc]
    rfl
  offset := by
    rw [List.length_append, BitVec.ofNat_add, ← h.offset]
    rfl
  outside address haddress := by
    have hbehind : bytes.length ≤ (address - (base + BitVec.ofNat 64 B.length)).toNat := by
      have hbase := base.isLt
      have hfar := h.length
      rw [BitVec.toNat_sub] at haddress ⊢
      rw [BitVec.toNat_add, BitVec.toNat_ofNat]
      omega
    rw [← h.outside address haddress]
    exact if_neg (Nat.not_lt.mpr hbehind)

end Steps

/-- A segment that does not begin before the end of what has been loaded. -/
lemma Loaded.segment (h : Loaded base span start l B) (ph : ProgramHeader) (hspan : span < 2 ^ 32)
    (hload : ph.type = PT_LOAD)
    (hbase : place.loadPhysicalBase = base) (hplace : ph.vaddr - place.virtualBase = BitVec.ofNat 64 off)
    {cache : FatCache disk}
    (hread : readFileRangeToPhysical volume kernelFile (ph.offset.setWidth 32) (ph.filesz.setWidth 32) cache = .ok bytes)
    (hbytes : bytes.length = ph.filesz.toNat) (hfilled : ph.filesz.toNat ≤ ph.memsz.toNat) (hoff : B.length ≤ off)
    (hend : off + ph.memsz.toNat ≤ span) :
    ∃ l' B', loadSegment volume kernelFile place l ph cache = .ok l' ∧ Loaded base span start l' B' ∧
      grown B' span = patch (grown B span) off bytes ∧ B'.length = off + ph.memsz.toNat := by
  have hgap := h.skipTo hspan hoff (by omega)
  have hlength : (B ++ List.replicate (off - B.length) 0).length = off := by
    rw [List.length_append, List.length_replicate]
    omega
  have hwritten := hgap.write hspan bytes (by omega)
  have hpatched := patch_grown (n := span) (B ++ List.replicate (off - B.length) 0) bytes (by omega)
  rw [grown_zeros (by omega), hlength] at hpatched
  rw [hlength] at hwritten
  -- the words of the program header, and the numbers that they stand for
  have hdestination : place.loadPhysicalBase + (ph.vaddr - place.virtualBase) = base + BitVec.ofNat 64 off := by
    rw [hbase, hplace]
  have hoffset : (place.loadPhysicalBase + (ph.vaddr - place.virtualBase) - place.loadPhysicalBase).setWidth 32 =
      BitVec.ofNat 32 off := by
    rw [hplace, BitVec.add_comm, BitVec.add_sub_cancel, ← BitVec.ofNat_toNat, BitVec.toNat_ofNat,
      Nat.mod_eq_of_lt (by omega)]
  have hsize : ph.filesz.setWidth 32 = BitVec.ofNat 32 bytes.length := by
    rw [hbytes, BitVec.ofNat_toNat]
  have hrun : loadSegment volume kernelFile place l ph cache = (if ph.filesz < ph.memsz then
      .ok (((l.skipTo (BitVec.ofNat 32 off)).write (base + BitVec.ofNat 64 off) (BitVec.ofNat 32 bytes.length)
        bytes).advance ((ph.memsz - ph.filesz).setWidth 32))
      else .ok ((l.skipTo (BitVec.ofNat 32 off)).write (base + BitVec.ofNat 64 off) (BitVec.ofNat 32 bytes.length)
        bytes)) := by
    rw [loadSegment, if_neg (not_not.mpr hload), hread]
    dsimp only
    rw [hoffset, hdestination, hsize]
    rfl
  rw [hrun]
  split
  · next hmore =>
    have hpad : (ph.memsz - ph.filesz).setWidth 32 = BitVec.ofNat 32 (ph.memsz.toNat - ph.filesz.toNat) := by
      rw [← BitVec.ofNat_toNat, BitVec.toNat_sub_of_le (BitVec.le_of_lt hmore)]
    rw [hpad]
    have hlong : (B ++ List.replicate (off - B.length) 0 ++ bytes).length = off + bytes.length := by
      rw [List.length_append, hlength]
    have hadvanced := hwritten.advance hspan (k := ph.memsz.toNat - ph.filesz.toNat) (by omega)
    refine ⟨_, _, rfl, hadvanced, (grown_zeros (by omega)).trans hpatched.symm, ?_⟩
    rw [List.length_append, List.length_replicate, hlong]
    omega
  · next hexact =>
    rw [BitVec.lt_def] at hexact
    refine ⟨_, _, rfl, hwritten, hpatched.symm, ?_⟩
    rw [List.length_append, hlength]
    omega

end Loads

section Headers

variable {elf : Blob} {h : ElfHeader} {p : ParsedElf} {n i : ℕ}

/-- A program header of the file as stage 0 reads it. -/
def headerOf (elf : Blob) (i : ℕ) : ProgramHeader :=
  ⟨(headerAt elf i).type, (headerAt elf i).offset, (headerAt elf i).vaddr, (headerAt elf i).filesz, (headerAt elf i).memsz⟩

/-- The header is that of the file. -/
structure Reads (h : ElfHeader) (elf : Blob) : Prop where
  entry : h.entry.toNat = unpackU64 elf 24
  count : h.phnum.toNat = headers elf
  programHeaders : ∀ i < headers elf, h.programHeader i = headerOf elf i

/-- The segments of the first headers come first. -/
lemma segments_prefix {m : ℕ} (hn : n ≤ m) : (loadSegments elf n).segments <+: (loadSegments elf m).segments := by
  induction m, hn using Nat.le_induction with
  | base => exact List.prefix_rfl
  | succ m _ ih =>
    rw [loadSegments_succ, LoadSegments.addHeader]
    split
    · exact ih.trans (List.prefix_append _ _)
    · exact ih

lemma maxVaddr_le {x : ℕ} (hstops : ∀ s ∈ (loadSegments elf n).segments, s.stop ≤ x) :
    (loadSegments elf n).maxVaddr ≤ x := by
  have hscanned := scanned elf n
  by_cases hnone : (loadSegments elf n).minVaddr = none
  · rw [(hscanned.fresh hnone).1]
    exact Nat.zero_le x
  · obtain ⟨⟨s, hs, hstop⟩, -⟩ := hscanned.attained hnone
    rw [← hstop]
    exact hstops s hs

/-- What stage 0 can load in one go, from the lowest address to the highest. -/
structure Ordered (elf : Blob) (p : ParsedElf) : Prop where
  ascending : p.segments.Pairwise fun s t => s.stop ≤ t.vaddr
  filled : ∀ s ∈ p.segments, s.filesz ≤ s.memsz
  readable : ∀ s ∈ p.segments, ¬ BehindChain elf s.offset s.filesz

/-- A segment begins behind those before it. -/
lemma Ordered.behind (ho : Ordered elf p) (hp : parseLittle64ElfLoadSegments elf = .ok p) (hi : i < headers elf)
    (hload : (headerAt elf i).type = ptLoad) : (loadSegments elf i).maxVaddr ≤ (segmentAt elf i).vaddr := by
  apply maxVaddr_le
  intro s hs
  have hnext : (loadSegments elf (i + 1)).segments = (loadSegments elf i).segments ++ [segmentAt elf i] := by
    rw [loadSegments_succ, LoadSegments.addHeader, if_pos hload]
    rfl
  have hprefix : (loadSegments elf (i + 1)).segments <+: (loadSegments elf (headers elf)).segments := segments_prefix hi
  rw [segments_parsed hp, hnext] at hprefix
  have hpairs := ho.ascending.sublist hprefix.sublist
  exact (List.pairwise_append.mp hpairs).2.2 s hs _ (List.mem_singleton_self _)

variable {disk : Disk} {volume : Fat32Volume} {kernelFile : Stage0FileInfo} {place : Placement} {start : Ram} {base : Word}

lemma loaded_start (start : Ram) (base : Word) {span : ℕ} (hspan : span < 2 ^ 64) :
    Loaded base span start ⟨zeroToPhysical start base (BitVec.ofNat 64 span), crc32Initialize, 0⟩ [] where
  length := Nat.zero_le _
  window := by
    have hzeroed := physicalBytes_zeroed start base (BitVec.ofNat 64 span)
    rw [BitVec.toNat_ofNat, Nat.mod_eq_of_lt hspan] at hzeroed
    exact hzeroed
  crc := rfl
  offset := rfl
  outside address haddress := by
    have hbehind : ¬ address - base < BitVec.ofNat 64 span := by
      rw [BitVec.lt_def, BitVec.toNat_ofNat, Nat.mod_eq_of_lt hspan]
      exact Nat.not_lt.mpr haddress
    exact if_neg hbehind

/-- The kernel's file reads as it is. -/
def ReadsFile (volume : Fat32Volume) (disk : Disk) (file : Stage0FileInfo) (payload : Blob) : Prop :=
  ∀ offset size, offset + size ≤ payload.length → ¬ BehindChain payload offset size → ∀ cache : FatCache disk,
    readFileRangeToBuffer volume file (BitVec.ofNat 32 offset) (BitVec.ofNat 32 size) cache =
      .ok (part payload offset size) ∧
    readFileRangeToPhysical volume file (BitVec.ofNat 32 offset) (BitVec.ofNat 32 size) cache =
      .ok (part payload offset size)

lemma foldlM_succ {α : Type} (f : α → ℕ → Stage0 α) (a : α) (n : ℕ) :
    (List.range (n + 1)).foldlM f a = (List.range n).foldlM f a >>= fun b => f b n := by
  rw [List.range_succ, List.foldlM_append]
  apply bind_congr
  intro b
  rw [List.foldlM_cons]
  exact bind_pure _

/-- The image after the first program headers is the builder's after the same ones. -/
lemma loads_headers (start : Ram) (hp : parseLittle64ElfLoadSegments elf = .ok p) (ho : Ordered elf p) (hh : Reads h elf)
    (hspan : p.span < 2 ^ 32) (hfile : ReadsFile volume disk kernelFile elf) (hbase : place.loadPhysicalBase = base)
    (hvirtual : place.virtualBase = BitVec.ofNat 64 p.virtualBase) (cache : ℕ → FatCache disk) (hn : n ≤ headers elf) :
    ∃ l B, (List.range n).foldlM (fun l i => loadSegment volume kernelFile place l (h.programHeader i) (cache (i + 1)))
        ⟨zeroToPhysical start base (BitVec.ofNat 64 p.span), crc32Initialize, 0⟩ = .ok l ∧
      Loaded base p.span start l B ∧
      grown B p.span = (loadSegments elf n).segments.foldl
        (fun image s => patch image (s.vaddr - p.virtualBase) (part elf s.offset s.filesz)) (List.replicate p.span 0) ∧
      B.length ≤ (loadSegments elf n).maxVaddr - p.virtualBase := by
  induction n with
  | zero => exact ⟨_, [], rfl, loaded_start start base (by omega), rfl, Nat.zero_le _⟩
  | succ n ih =>
    obtain ⟨l, B, hrun, hloaded, himage, hlength⟩ := ih (by omega)
    rw [foldlM_succ, hrun, hh.programHeaders n hn]
    rw [loadSegments_succ, LoadSegments.addHeader]
    by_cases hload : (headerAt elf n).type = ptLoad
    · obtain ⟨-, -, hinside, -, -⟩ := parse_eq_ok.mp hp
      obtain ⟨hvb, hmin, hpage, hplaces, -⟩ := parsed_places hp
      have hmem := mem_segments hn hload
      rw [segments_parsed hp] at hmem
      obtain ⟨hlower, hvaddr, hstop, -⟩ := hplaces _ hmem
      have hbytes := hinside n hn hload
      have hbehind := ho.behind hp hn hload
      have hroom : p.maxVaddr - p.virtualBase ≤ p.span := by
        rw [span_eq]
        omega
      have hoff : (headerOf elf n).vaddr - place.virtualBase =
          BitVec.ofNat 64 ((segmentAt elf n).vaddr - p.virtualBase) := by
        apply BitVec.eq_of_toNat_eq
        rw [hvirtual, BitVec.toNat_sub, BitVec.toNat_ofNat, BitVec.toNat_ofNat]
        change (2 ^ 64 - p.virtualBase % 2 ^ 64 + (segmentAt elf n).vaddr) % 2 ^ 64 = _
        omega
      have hread := (hfile _ _ hbytes (ho.readable _ hmem) (cache (n + 1))).2
      obtain ⟨l', B', hsegment, hloaded', himage', hlength'⟩ := hloaded.segment (headerOf elf n) hspan hload hbase
        hoff hread (length_part hbytes) (ho.filled _ hmem) (by omega) (by
          change _ + (segmentAt elf n).memsz ≤ _
          rw [LoadSegment.stop] at hstop
          omega)
      rw [if_pos hload]
      refine ⟨l', B', hsegment, hloaded', ?_, ?_⟩
      · rw [himage', himage]
        change _ = List.foldl _ _ ((loadSegments elf n).segments ++ [segmentAt elf n])
        rw [List.foldl_append]
        rfl
      · rw [hlength']
        change (segmentAt elf n).vaddr - p.virtualBase + (segmentAt elf n).memsz ≤
          max (loadSegments elf n).maxVaddr (segmentAt elf n).stop - p.virtualBase
        have hmax := Nat.le_max_right (loadSegments elf n).maxVaddr (segmentAt elf n).stop
        rw [LoadSegment.stop] at hmax ⊢
        omega
    · rw [if_neg hload]
      exact ⟨l, B, if_pos hload, hloaded, himage, hlength⟩

/-- The scan finds the addresses that the builder finds. -/
lemma scans_headers (hp : parseLittle64ElfLoadSegments elf = .ok p) (hh : Reads h elf) (hfirst : p.minVaddr ≠ 0)
    (hlast : p.maxVaddr < 2 ^ 64) (hsize : elf.length < 2 ^ 32) (hn : n ≤ headers elf) :
    ∃ w, (List.range n).foldlM (fun w i => ImageWindow.scan (BitVec.ofNat 32 elf.length) w (h.programHeader i)) ⟨0, 0⟩ =
        .ok w ∧
      w.minVaddr.toNat = (loadSegments elf n).minVaddr.getD 0 ∧ w.maxVaddr.toNat = (loadSegments elf n).maxVaddr ∧
      ∀ m, (loadSegments elf n).minVaddr = some m → m ≠ 0 := by
  induction n with
  | zero => exact ⟨⟨0, 0⟩, rfl, rfl, rfl, fun m h => by cases h⟩
  | succ n ih =>
    obtain ⟨w, hrun, hmin, hmax, hnonzero⟩ := ih (by omega)
    rw [foldlM_succ, hrun, hh.programHeaders n hn]
    rw [loadSegments_succ, LoadSegments.addHeader]
    by_cases hload : (headerAt elf n).type = ptLoad
    · obtain ⟨-, -, hinside, -, -⟩ := parse_eq_ok.mp hp
      obtain ⟨-, -, -, hplaces, -⟩ := parsed_places hp
      have hmem := mem_segments hn hload
      rw [segments_parsed hp] at hmem
      obtain ⟨hlower, hvaddr, hstop, -⟩ := hplaces _ hmem
      have hbytes := hinside n hn hload
      have hfits : ¬ (BitVec.ofNat 32 elf.length).setWidth 64 < (headerOf elf n).offset + (headerOf elf n).filesz := by
        rw [BitVec.lt_def, BitVec.toNat_setWidth, BitVec.toNat_ofNat, BitVec.toNat_add]
        change ¬ elf.length % 2 ^ 32 % 2 ^ 64 < ((segmentAt elf n).offset + (segmentAt elf n).filesz) % 2 ^ 64
        omega
      have hstopWord : ((headerOf elf n).vaddr + (headerOf elf n).memsz).toNat = (segmentAt elf n).stop := by
        rw [BitVec.toNat_add]
        change (segmentAt elf n).stop % 2 ^ 64 = _
        omega
      have hvaddrWord : (headerOf elf n).vaddr.toNat = (segmentAt elf n).vaddr := rfl
      rw [if_pos hload]
      refine ⟨_, (if_neg (not_not.mpr hload)).trans (guard_passed hfits), ?_, ?_, ?_⟩
      · change (if w.minVaddr = 0 ∨ (headerOf elf n).vaddr < w.minVaddr then (headerOf elf n).vaddr else w.minVaddr).toNat =
          (loadSegments elf n).minVaddr.elim (segmentAt elf n).vaddr fun m => min m (segmentAt elf n).vaddr
        cases hfound : (loadSegments elf n).minVaddr with
        | none =>
          rw [hfound] at hmin
          rw [if_pos (.inl (BitVec.eq_of_toNat_eq hmin))]
          rfl
        | some m =>
          have hm := hnonzero m hfound
          rw [hfound] at hmin
          change w.minVaddr.toNat = m at hmin
          have hsome : w.minVaddr ≠ 0 := fun hzero => hm (by rw [← hmin, hzero]; rfl)
          change _ = min m _
          rw [← hmin, ← hvaddrWord]
          split
          · next h =>
            have hlt := h.resolve_left hsome
            rw [BitVec.lt_def] at hlt
            omega
          · next h =>
            rw [not_or, BitVec.lt_def] at h
            omega
      · change (if w.maxVaddr < (headerOf elf n).vaddr + (headerOf elf n).memsz then
          (headerOf elf n).vaddr + (headerOf elf n).memsz else w.maxVaddr).toNat =
          max (loadSegments elf n).maxVaddr (segmentAt elf n).stop
        rw [← hmax, ← hstopWord]
        split
        · next h =>
          rw [BitVec.lt_def] at h
          omega
        · next h =>
          rw [BitVec.lt_def] at h
          omega
      · intro m hm
        obtain rfl := Option.some.inj hm
        cases hfound : (loadSegments elf n).minVaddr with
        | none =>
          change (segmentAt elf n).vaddr ≠ 0
          omega
        | some m =>
          have hm := hnonzero m hfound
          change min m (segmentAt elf n).vaddr ≠ 0
          omega
    · rw [if_neg hload]
      exact ⟨w, if_pos hload, hmin, hmax, hnonzero⟩

end Headers

end Little64.Boot.Stage0Kernel

import Little64.Linker.ObjectFile

/-! The sections of an object file, and what the linker keeps of them. -/

namespace Little64.Linker

open CheckedAccess LittleEndian

def fieldAt (w : ℕ) (file : Blob) (off : Word) (n : ℕ) : BitVec w := assemble w (fun i => file.getD (off.toNat + i) 0) n

structure FileSection where
  index : ℕ
  name : Blob
  offset : Word
  size : Word

/-- The section of a header, if it has a name. -/
def sectionAt (file : Blob) (shoff : Word) (shentsize : BitVec 16) (shstr : Blob) (si : ℕ) : Option FileSection :=
  let shBase := shoff + BitVec.ofNat 64 si * shentsize.setWidth 64
  let name := fieldAt 32 file shBase 4
  if shstr.length ≤ name.toNat then none
  else some ⟨si, cString (shstr.drop name.toNat), fieldAt 64 file (shBase + 0x18) 8, fieldAt 64 file (shBase + 0x20) 8⟩

def fileSections (file : Blob) : List FileSection :=
  let shoff := fieldAt 64 file 0x28 8
  let shentsize := fieldAt 16 file 0x3A 2
  let shnum := fieldAt 16 file 0x3C 2
  let shstrBase := shoff + (fieldAt 16 file 0x3E 2).setWidth 64 * shentsize.setWidth 64
  let shstr := (file.drop (fieldAt 64 file (shstrBase + 0x18) 8).toNat).take (fieldAt 64 file (shstrBase + 0x20) 8).toNat
  (List.range shnum.toNat).filterMap (sectionAt file shoff shentsize shstr)

def contents (file : Blob) (s : FileSection) : Blob := (file.drop s.offset.toNat).take s.size.toNat

/-- The last section of a name. -/
def lastNamed (name : Blob) (secs : List FileSection) : Option FileSection :=
  secs.foldl (fun found s => if s.name = name then some s else found) none

def rodataContents (file : Blob) (secs : List FileSection) : Blob :=
  secs.flatMap fun s => if isRodataName s.name then contents file s else []

/-- What the linker keeps of the sections of one name: the last one. -/
structure KeepsNamed (file : Blob) (secs : List FileSection) (name : Blob) (shndx : Option ℕ) (bytes : Blob)
    (size : Word) : Prop where
  index : shndx = (lastNamed name secs).map FileSection.index
  held : bytes = ((lastNamed name secs).map (contents file)).getD []
  counted : size.toNat = bytes.length

structure KeepsBss (secs : List FileSection) (shndx : Option ℕ) (size : Word) : Prop where
  index : shndx = (lastNamed bssName secs).map FileSection.index
  counted : size = ((lastNamed bssName secs).map FileSection.size).getD 0

/-- The `.rodata` sections are joined; each offset is that of a section in the joined bytes. -/
structure KeepsRodata (file : Blob) (secs : List FileSection) (bytes : Blob) (offsets : ℕ → Option Word) : Prop where
  held : bytes = rodataContents file secs
  starts : ∀ i start, offsets i = some start → ∃ before s behind, secs = before ++ s :: behind ∧ s.index = i ∧
    isRodataName s.name ∧ s.size ≠ 0 ∧ start = BitVec.ofNat 64 (rodataContents file before).length
  recorded : ∀ before s behind, secs = before ++ s :: behind → isRodataName s.name → s.size ≠ 0 →
    (∀ s' ∈ behind, s'.index ≠ s.index) → offsets s.index = some (BitVec.ofNat 64 (rodataContents file before).length)

structure Keeps (file : Blob) (secs : List FileSection) (ctx : ObjectContext) : Prop where
  text : KeepsNamed file secs textName ctx.textShndx ctx.textBytes ctx.textSize
  data : KeepsNamed file secs dataName ctx.dataShndx ctx.dataBytes ctx.dataSize
  bss : KeepsBss secs ctx.bssShndx ctx.bssSize
  rodata : KeepsRodata file secs ctx.rodataBytes ctx.rodataSecOffsets

variable {file : Blob} {secs : List FileSection} {ctx ctx' : ObjectContext} {s : FileSection}

lemma lastNamed_append (name : Blob) : lastNamed name (secs ++ [s]) =
    if s.name = name then some s else lastNamed name secs := by
  rw [lastNamed, List.foldl_append]
  rfl

lemma rodataContents_append : rodataContents file (secs ++ [s]) =
    rodataContents file secs ++ if isRodataName s.name then contents file s else [] := by
  rw [rodataContents, List.flatMap_append, List.flatMap_singleton, rodataContents]

lemma length_contents (h : s.offset.toNat + s.size.toNat ≤ file.length) : (contents file s).length = s.size.toNat := by
  rw [contents, List.length_take, List.length_drop]
  omega

lemma eq_append_singleton {α : Type} {l before behind : List α} {x y : α} (h : l ++ [x] = before ++ y :: behind) :
    (before = l ∧ y = x ∧ behind = []) ∨ ∃ behind', behind = behind' ++ [x] ∧ l = before ++ y :: behind' := by
  rcases List.eq_nil_or_concat behind with rfl | ⟨behind', z, rfl⟩
  · obtain ⟨rfl, hxy⟩ := List.append_inj' h rfl
    exact .inl ⟨rfl, (List.cons.inj hxy).1.symm, rfl⟩
  · rw [List.concat_eq_append, ← List.cons_append, ← List.append_assoc] at h
    obtain ⟨rfl, hz⟩ := List.append_inj' h rfl
    refine .inr ⟨behind', ?_, rfl⟩
    rw [List.concat_eq_append, (List.cons.inj hz).1]

section Named

variable {name bytes : Blob} {shndx : Option ℕ} {size : Word} {offsets : ℕ → Option Word}

lemma KeepsNamed.hit (hname : s.name = name) (hinside : s.offset.toNat + s.size.toNat ≤ file.length) :
    KeepsNamed file (secs ++ [s]) name (some s.index) (contents file s) s.size := by
  refine ⟨?_, ?_, (length_contents hinside).symm⟩
  · rw [lastNamed_append, if_pos hname]
    rfl
  · rw [lastNamed_append, if_pos hname]
    rfl

lemma KeepsNamed.miss (h : KeepsNamed file secs name shndx bytes size) (hname : s.name ≠ name) :
    KeepsNamed file (secs ++ [s]) name shndx bytes size := by
  refine ⟨?_, ?_, h.counted⟩
  · rw [lastNamed_append, if_neg hname, h.index]
  · rw [lastNamed_append, if_neg hname, h.held]

lemma KeepsBss.hit (hname : s.name = bssName) : KeepsBss (secs ++ [s]) (some s.index) s.size := by
  constructor
  · rw [lastNamed_append, if_pos hname]
    rfl
  · rw [lastNamed_append, if_pos hname]
    rfl

lemma KeepsBss.miss (h : KeepsBss secs shndx size) (hname : s.name ≠ bssName) :
    KeepsBss (secs ++ [s]) shndx size := by
  constructor
  · rw [lastNamed_append, if_neg hname, h.index]
  · rw [lastNamed_append, if_neg hname, h.counted]

lemma KeepsRodata.offsets_append (h : KeepsRodata file secs bytes offsets) : ∀ i start, offsets i = some start →
    ∃ before s' behind, secs ++ [s] = before ++ s' :: behind ∧ s'.index = i ∧ isRodataName s'.name ∧
      s'.size ≠ 0 ∧ start = BitVec.ofNat 64 (rodataContents file before).length := by
  intro i start hstart
  obtain ⟨before, s', behind, rfl, hs⟩ := h.starts i start hstart
  exact ⟨before, s', behind ++ [s], List.append_assoc _ _ _, hs⟩

lemma KeepsRodata.hit (h : KeepsRodata file secs bytes offsets) (hname : isRodataName s.name = true)
    (hsize : s.size ≠ 0) :
    KeepsRodata file (secs ++ [s]) (bytes ++ contents file s)
      fun i => if i = s.index then some (BitVec.ofNat 64 bytes.length) else offsets i := by
  constructor
  · rw [rodataContents_append, if_pos hname, h.held]
  · intro i start hstart
    split at hstart
    · rename_i hi
      refine ⟨secs, s, [], rfl, hi.symm, hname, hsize, ?_⟩
      rw [← Option.some.inj hstart, h.held]
    · exact h.offsets_append i start hstart
  · intro before s' behind hsplit hname' hsize' hlast
    rcases eq_append_singleton hsplit with ⟨rfl, rfl, rfl⟩ | ⟨behind', rfl, rfl⟩
    · rw [if_pos rfl, h.held]
    · have hne : s'.index ≠ s.index := (hlast s (List.mem_append_right _ List.mem_cons_self)).symm
      rw [if_neg hne]
      exact h.recorded before s' behind' rfl hname' hsize' fun t ht => hlast t (List.mem_append_left _ ht)

lemma KeepsRodata.miss (h : KeepsRodata file secs bytes offsets)
    (hname : isRodataName s.name = false ∨ s.size = 0) : KeepsRodata file (secs ++ [s]) bytes offsets := by
  refine ⟨?_, h.offsets_append, ?_⟩
  · rw [rodataContents_append, h.held]
    rcases hname with hname | hempty
    · rw [hname]
      exact (List.append_nil _).symm
    · rw [contents, hempty]
      split <;> exact (List.append_nil _).symm
  · intro before s' behind hsplit hname' hsize hlast
    rcases eq_append_singleton hsplit with ⟨rfl, rfl, rfl⟩ | ⟨behind', rfl, rfl⟩
    · rcases hname with hname | hempty
      · exact absurd (hname.symm.trans hname') Bool.false_ne_true
      · exact absurd hempty hsize
    · exact h.recorded before s' behind' rfl hname' hsize fun t ht => hlast t (List.mem_append_left _ ht)

end Named

lemma Keeps.empty (file : Blob) : Keeps file [] .empty := by
  refine ⟨⟨rfl, rfl, rfl⟩, ⟨rfl, rfl, rfl⟩, ⟨rfl, rfl⟩, ⟨rfl, ?_, ?_⟩⟩
  · intro i start h
    cases h
  · intro before s behind h
    exact absurd h.symm (List.append_ne_nil_of_right_ne_nil _ (List.cons_ne_nil _ _))

lemma ne_of_rodata {name : Blob} (hname : isRodataName s.name = true) (hrodata : isRodataName name = false) :
    s.name ≠ name := by
  rintro rfl
  exact Bool.false_ne_true (hrodata.symm.trans hname)

lemma not_rodata_of_rela (hname : (relaName ++ rodataName).isPrefixOf s.name = true) : isRodataName s.name = false := by
  obtain ⟨rest, hrest⟩ := List.isPrefixOf_iff_prefix.1 hname
  rw [← hrest]
  rfl

lemma Keeps.other (h : Keeps file secs ctx) (htext : s.name ≠ textName) (hdata : s.name ≠ dataName)
    (hbss : s.name ≠ bssName) (hrodata : isRodataName s.name = false ∨ s.size = 0) : Keeps file (secs ++ [s]) ctx :=
  ⟨h.text.miss htext, h.data.miss hdata, h.bss.miss hbss, h.rodata.miss hrodata⟩

/-- What a section adds to a scan that goes on. -/
inductive Scans (file : Blob) (s : FileSection) (entsize : Word) (scan : Scan) : Scan → Prop
  | text : s.name = textName → inRange file s.offset s.size = true → s.offset.toNat + s.size.toNat ≤ file.length →
      Scans file s entsize scan { scan with ctx := { scan.ctx with
        textShndx := some s.index, textSize := s.size, textBytes := contents file s } }
  | data : s.name = dataName → inRange file s.offset s.size = true → s.offset.toNat + s.size.toNat ≤ file.length →
      Scans file s entsize scan { scan with ctx := { scan.ctx with
        dataShndx := some s.index, dataSize := s.size, dataBytes := contents file s } }
  | bss : s.name = bssName →
      Scans file s entsize scan { scan with ctx := { scan.ctx with bssShndx := some s.index, bssSize := s.size } }
  | rodata : isRodataName s.name = true → s.size ≠ 0 → inRange file s.offset s.size = true →
      s.offset.toNat + s.size.toNat ≤ file.length →
      Scans file s entsize scan { scan with ctx := { scan.ctx with
        rodataSecOffsets := fun i =>
          if i = s.index then some (BitVec.ofNat 64 scan.ctx.rodataBytes.length) else scan.ctx.rodataSecOffsets i
        rodataBytes := scan.ctx.rodataBytes ++ contents file s } }
  | emptyRodata : isRodataName s.name = true → s.size = 0 → Scans file s entsize scan scan
  | symtab : s.name = symtabName → Scans file s entsize scan
      { scan with symtabOffset := s.offset, symtabSize := s.size, symtabEntsize := entsize }
  | strtab : s.name = strtabName → inRange file s.offset s.size = true →
      Scans file s entsize scan { scan with strtabOffset := s.offset, strtabSize := s.size }
  | relaText (relocs : List Reloc) : s.name = relaName ++ textName → inRange file s.offset s.size = true →
      readRelas file s.offset (s.size.toNat / 24) = .ok relocs →
      Scans file s entsize scan { scan with ctx := { scan.ctx with textRelocs := scan.ctx.textRelocs ++ relocs } }
  | relaData (relocs : List Reloc) : s.name = relaName ++ dataName → inRange file s.offset s.size = true →
      readRelas file s.offset (s.size.toNat / 24) = .ok relocs →
      Scans file s entsize scan { scan with ctx := { scan.ctx with dataRelocs := scan.ctx.dataRelocs ++ relocs } }
  | relaRodata (targetShndx : BitVec 32) (relocs : List Reloc) : (relaName ++ rodataName).isPrefixOf s.name = true →
      inRange file s.offset s.size = true → readRelas file s.offset (s.size.toNat / 24) = .ok relocs →
      Scans file s entsize scan { scan with ctx := { scan.ctx with
        deferredRodataRelas := scan.ctx.deferredRodataRelas ++ [⟨targetShndx, relocs⟩] } }
  | other : s.name ≠ textName → s.name ≠ dataName → s.name ≠ bssName → isRodataName s.name = false →
      s.name ≠ symtabName → s.name ≠ strtabName → s.name ≠ relaName ++ textName → s.name ≠ relaName ++ dataName →
      (relaName ++ rodataName).isPrefixOf s.name = false → Scans file s entsize scan scan

lemma scanNamed_scans {shBase entsize : Word} {scan scan' : Scan}
    (hscan : scanNamed file s.name s.index shBase s.offset s.size entsize scan = .ok scan') :
    Scans file s entsize scan scan' := by
  have hrange (h : ¬ (!inRange file s.offset s.size) = true) : inRange file s.offset s.size = true := by
    rwa [Bool.not_eq_true', Bool.not_eq_false] at h
  rw [scanNamed] at hscan
  by_cases htext : s.name = textName
  · rw [if_pos htext] at hscan
    obtain ⟨hchecked, hscan⟩ := check_eq_ok.1 hscan
    obtain ⟨bytes, hslice, hscan⟩ := bind_eq_ok.1 hscan
    obtain ⟨hinside, rfl⟩ := slice_eq_ok.1 hslice
    obtain rfl := Except.ok.inj hscan
    exact .text htext (hrange hchecked) hinside
  rw [if_neg htext] at hscan
  by_cases hdata : s.name = dataName
  · rw [if_pos hdata] at hscan
    obtain ⟨hchecked, hscan⟩ := check_eq_ok.1 hscan
    obtain ⟨bytes, hslice, hscan⟩ := bind_eq_ok.1 hscan
    obtain ⟨hinside, rfl⟩ := slice_eq_ok.1 hslice
    obtain rfl := Except.ok.inj hscan
    exact .data hdata (hrange hchecked) hinside
  rw [if_neg hdata] at hscan
  by_cases hbss : s.name = bssName
  · rw [if_pos hbss] at hscan
    obtain rfl := Except.ok.inj hscan
    exact .bss hbss
  rw [if_neg hbss] at hscan
  by_cases hrodata : isRodataName s.name = true
  · rw [if_pos hrodata] at hscan
    by_cases hempty : s.size = 0
    · rw [if_pos hempty] at hscan
      obtain rfl := Except.ok.inj hscan
      exact .emptyRodata hrodata hempty
    rw [if_neg hempty] at hscan
    obtain ⟨hchecked, hscan⟩ := check_eq_ok.1 hscan
    obtain ⟨bytes, hslice, hscan⟩ := bind_eq_ok.1 hscan
    obtain ⟨hinside, rfl⟩ := slice_eq_ok.1 hslice
    obtain rfl := Except.ok.inj hscan
    exact .rodata hrodata hempty (hrange hchecked) hinside
  rw [if_neg hrodata] at hscan
  by_cases hsymtab : s.name = symtabName
  · rw [if_pos hsymtab] at hscan
    obtain rfl := Except.ok.inj hscan
    exact .symtab hsymtab
  rw [if_neg hsymtab] at hscan
  by_cases hstrtab : s.name = strtabName
  · rw [if_pos hstrtab] at hscan
    obtain ⟨hchecked, hscan⟩ := check_eq_ok.1 hscan
    obtain rfl := Except.ok.inj hscan
    exact .strtab hstrtab (hrange hchecked)
  rw [if_neg hstrtab] at hscan
  by_cases hrelatext : s.name = relaName ++ textName
  · rw [if_pos hrelatext] at hscan
    obtain ⟨hchecked, hscan⟩ := check_eq_ok.1 hscan
    obtain ⟨relocs, hrelocs, hscan⟩ := bind_eq_ok.1 hscan
    obtain rfl := Except.ok.inj hscan
    exact .relaText relocs hrelatext (hrange hchecked) hrelocs
  rw [if_neg hrelatext] at hscan
  by_cases hreladata : s.name = relaName ++ dataName
  · rw [if_pos hreladata] at hscan
    obtain ⟨hchecked, hscan⟩ := check_eq_ok.1 hscan
    obtain ⟨relocs, hrelocs, hscan⟩ := bind_eq_ok.1 hscan
    obtain rfl := Except.ok.inj hscan
    exact .relaData relocs hreladata (hrange hchecked) hrelocs
  rw [if_neg hreladata] at hscan
  by_cases hrelarodata : (relaName ++ rodataName).isPrefixOf s.name = true
  · rw [if_pos hrelarodata] at hscan
    obtain ⟨hchecked, hscan⟩ := check_eq_ok.1 hscan
    obtain ⟨targetShndx, -, hscan⟩ := bind_eq_ok.1 hscan
    obtain ⟨relocs, hrelocs, hscan⟩ := bind_eq_ok.1 hscan
    obtain rfl := Except.ok.inj hscan
    exact .relaRodata targetShndx relocs hrelarodata (hrange hchecked) hrelocs
  · rw [if_neg hrelarodata] at hscan
    obtain rfl := Except.ok.inj hscan
    exact .other htext hdata hbss (Bool.eq_false_iff.2 hrodata) hsymtab hstrtab hrelatext hreladata
      (Bool.eq_false_iff.2 hrelarodata)

lemma Keeps.unread (h : Keeps file secs ctx) {name : Blob} (hname : s.name = name) (htext : name ≠ textName)
    (hdata : name ≠ dataName) (hbss : name ≠ bssName) (hrodata : isRodataName name = false) :
    Keeps file (secs ++ [s]) ctx := by
  subst hname
  exact h.other htext hdata hbss (.inl hrodata)

lemma Scans.keeps {entsize : Word} {scan scan' : Scan} (h : Keeps file secs scan.ctx)
    (hscans : Scans file s entsize scan scan') : Keeps file (secs ++ [s]) scan'.ctx := by
  cases hscans with
  | text hname _ hinside =>
    have hdata : s.name ≠ dataName := by rw [hname]; decide
    have hbss : s.name ≠ bssName := by rw [hname]; decide
    have hrodata : isRodataName s.name = false := by rw [hname]; decide
    exact ⟨.hit hname hinside, h.data.miss hdata, h.bss.miss hbss, h.rodata.miss (.inl hrodata)⟩
  | data hname _ hinside =>
    have htext : s.name ≠ textName := by rw [hname]; decide
    have hbss : s.name ≠ bssName := by rw [hname]; decide
    have hrodata : isRodataName s.name = false := by rw [hname]; decide
    exact ⟨h.text.miss htext, .hit hname hinside, h.bss.miss hbss, h.rodata.miss (.inl hrodata)⟩
  | bss hname =>
    have htext : s.name ≠ textName := by rw [hname]; decide
    have hdata : s.name ≠ dataName := by rw [hname]; decide
    have hrodata : isRodataName s.name = false := by rw [hname]; decide
    exact ⟨h.text.miss htext, h.data.miss hdata, .hit hname, h.rodata.miss (.inl hrodata)⟩
  | rodata hname hsize _ _ =>
    have hne {name : Blob} (hrodata : isRodataName name = false) : s.name ≠ name := ne_of_rodata hname hrodata
    exact ⟨h.text.miss (hne (by decide)), h.data.miss (hne (by decide)), h.bss.miss (hne (by decide)),
      h.rodata.hit hname hsize⟩
  | emptyRodata hname hsize =>
    have hne {name : Blob} (hrodata : isRodataName name = false) : s.name ≠ name := ne_of_rodata hname hrodata
    exact h.other (hne (by decide)) (hne (by decide)) (hne (by decide)) (.inr hsize)
  | symtab hname =>
    have hkept := h.unread hname (by decide) (by decide) (by decide) (by decide)
    exact ⟨hkept.text, hkept.data, hkept.bss, hkept.rodata⟩
  | strtab hname _ =>
    have hkept := h.unread hname (by decide) (by decide) (by decide) (by decide)
    exact ⟨hkept.text, hkept.data, hkept.bss, hkept.rodata⟩
  | relaText relocs hname _ _ =>
    have hkept := h.unread hname (by decide) (by decide) (by decide) (by decide)
    exact ⟨hkept.text, hkept.data, hkept.bss, hkept.rodata⟩
  | relaData relocs hname _ _ =>
    have hkept := h.unread hname (by decide) (by decide) (by decide) (by decide)
    exact ⟨hkept.text, hkept.data, hkept.bss, hkept.rodata⟩
  | relaRodata targetShndx relocs hname _ _ =>
    have hne {name : Blob} (hnot : (relaName ++ rodataName).isPrefixOf name = false) : s.name ≠ name := by
      rintro rfl
      exact Bool.false_ne_true (hnot.symm.trans hname)
    have hrodata : isRodataName s.name = false := not_rodata_of_rela hname
    have hkept := h.other (hne (by decide)) (hne (by decide)) (hne (by decide)) (.inl hrodata)
    exact ⟨hkept.text, hkept.data, hkept.bss, hkept.rodata⟩
  | other htext hdata hbss hrodata => exact h.other htext hdata hbss (.inl hrodata)

lemma readU16_ok {off : Word} {v : BitVec 16} (h : readU16 file off = .ok v) : v = fieldAt 16 file off 2 :=
  (read_eq_ok.1 h).2

lemma readU32_ok {off : Word} {v : BitVec 32} (h : readU32 file off = .ok v) : v = fieldAt 32 file off 4 :=
  (read_eq_ok.1 h).2

lemma readU64_ok {off v : Word} (h : readU64 file off = .ok v) : v = fieldAt 64 file off 8 :=
  (read_eq_ok.1 h).2

lemma scanSection_cases {shoff : Word} {shentsize : BitVec 16} {shstr : Blob} {scan scan' : Scan} {si : ℕ}
    (hscan : scanSection file shoff shentsize shstr scan si = .ok scan') :
    (sectionAt file shoff shentsize shstr si = none ∧ scan' = scan) ∨
      ∃ s, sectionAt file shoff shentsize shstr si = some s ∧
        Scans file s (fieldAt 64 file (shoff + BitVec.ofNat 64 si * shentsize.setWidth 64 + 0x38) 8) scan scan' := by
  rw [scanSection] at hscan
  obtain ⟨name, hname, hscan⟩ := bind_eq_ok.1 hscan
  obtain rfl := readU32_ok hname
  rw [sectionAt]
  by_cases hnone : shstr.length ≤ (fieldAt 32 file (shoff + BitVec.ofNat 64 si * shentsize.setWidth 64) 4).toNat
  · rw [if_pos hnone] at hscan
    obtain rfl := Except.ok.inj hscan
    exact .inl ⟨if_pos hnone, rfl⟩
  · rw [if_neg hnone] at hscan
    obtain ⟨off, hoff, hscan⟩ := bind_eq_ok.1 hscan
    obtain ⟨sz, hsz, hscan⟩ := bind_eq_ok.1 hscan
    obtain ⟨entsize, hentsize, hscan⟩ := bind_eq_ok.1 hscan
    obtain rfl := readU64_ok hoff
    obtain rfl := readU64_ok hsz
    obtain rfl := readU64_ok hentsize
    exact .inr ⟨_, if_neg hnone, scanNamed_scans hscan⟩

lemma scanSection_keeps {shoff : Word} {shentsize : BitVec 16} {shstr : Blob} {scan scan' : Scan} {si : ℕ}
    (h : Keeps file secs scan.ctx) (hscan : scanSection file shoff shentsize shstr scan si = .ok scan') :
    Keeps file (secs ++ (sectionAt file shoff shentsize shstr si).toList) scan'.ctx := by
  rcases scanSection_cases hscan with ⟨hnone, rfl⟩ | ⟨s, hsome, hscans⟩
  · rw [hnone]
    exact (List.append_nil secs).symm ▸ h
  · rw [hsome]
    exact hscans.keeps h

lemma scanSections_keeps {shoff : Word} {shentsize : BitVec 16} {shstr : Blob} {scan scan' : Scan} {indices : List ℕ}
    (h : Keeps file secs scan.ctx)
    (hscan : indices.foldlM (scanSection file shoff shentsize shstr) scan = .ok scan') :
    Keeps file (secs ++ indices.filterMap (sectionAt file shoff shentsize shstr)) scan'.ctx := by
  induction indices generalizing secs scan with
  | nil =>
    obtain rfl := Except.ok.inj hscan
    exact (List.append_nil secs).symm ▸ h
  | cons si indices ih =>
    rw [List.foldlM_cons] at hscan
    obtain ⟨middle, hfirst, hrest⟩ := bind_eq_ok.1 hscan
    have hkeeps := ih (scanSection_keeps h hfirst) hrest
    rw [List.append_assoc] at hkeeps
    have hcons : (si :: indices).filterMap (sectionAt file shoff shentsize shstr) =
        (sectionAt file shoff shentsize shstr si).toList ++ indices.filterMap (sectionAt file shoff shentsize shstr) := by
      cases hs : sectionAt file shoff shentsize shstr si with
      | none => exact List.filterMap_cons_none hs
      | some s => exact List.filterMap_cons_some hs
    rw [hcons]
    exact hkeeps

lemma finish_keeps {scan : Scan} (h : Keeps file secs scan.ctx) (hfinish : scan.finish file = .ok ctx) :
    Keeps file secs ctx := by
  rw [Scan.finish] at hfinish
  split at hfinish
  · obtain ⟨syms, -, hfinish⟩ := bind_eq_ok.1 hfinish
    obtain rfl := Except.ok.inj hfinish
    exact ⟨h.text, h.data, h.bss, h.rodata⟩
  · obtain rfl := Except.ok.inj hfinish
    exact ⟨h.text, h.data, h.bss, h.rodata⟩

theorem parseObject_keeps (h : parseObject file = .ok ctx) : Keeps file (fileSections file) ctx := by
  rw [parseObject] at h
  obtain ⟨-, h⟩ := check_eq_ok.1 h
  obtain ⟨-, h⟩ := check_eq_ok.1 h
  obtain ⟨-, h⟩ := check_eq_ok.1 h
  obtain ⟨shoff, hshoff, h⟩ := bind_eq_ok.1 h
  obtain ⟨shentsize, hshentsize, h⟩ := bind_eq_ok.1 h
  obtain ⟨shnum, hshnum, h⟩ := bind_eq_ok.1 h
  obtain ⟨shstrndx, hshstrndx, h⟩ := bind_eq_ok.1 h
  obtain ⟨-, h⟩ := check_eq_ok.1 h
  obtain ⟨-, h⟩ := check_eq_ok.1 h
  obtain ⟨shstrOffset, hshstrOffset, h⟩ := bind_eq_ok.1 h
  obtain ⟨shstrSize, hshstrSize, h⟩ := bind_eq_ok.1 h
  obtain ⟨-, h⟩ := check_eq_ok.1 h
  obtain ⟨shstr, hshstr, h⟩ := bind_eq_ok.1 h
  obtain rfl := readU64_ok hshoff
  obtain rfl := readU16_ok hshentsize
  obtain rfl := readU16_ok hshnum
  obtain rfl := readU16_ok hshstrndx
  obtain rfl := readU64_ok hshstrOffset
  obtain rfl := readU64_ok hshstrSize
  obtain ⟨-, rfl⟩ := slice_eq_ok.1 hshstr
  obtain ⟨scan, hscan, h⟩ := bind_eq_ok.1 h
  exact finish_keeps (scanSections_keeps (.empty file) hscan) h

end Little64.Linker

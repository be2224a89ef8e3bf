import Little64.Linker.LinkLayout

/-! Where the parser reads: inside the file, as long as no range check passes by wrap-around and the section headers
lie in the file. -/

namespace Little64.Linker

open CheckedAccess LittleEndian Placement

section Fields

variable (file : Blob)

def eShoff : Word := fieldAt 64 file 0x28 8
def eShentsize : BitVec 16 := fieldAt 16 file 0x3A 2
def eShnum : BitVec 16 := fieldAt 16 file 0x3C 2
def eShstrndx : BitVec 16 := fieldAt 16 file 0x3E 2

def headerAddress (si : ℕ) : Word := eShoff file + BitVec.ofNat 64 si * (eShentsize file).setWidth 64

def tableSize : Word := (eShnum file).setWidth 64 * (eShentsize file).setWidth 64
def shstrOffset : Word := fieldAt 64 file (headerAddress file (eShstrndx file).toNat + 0x18) 8
def shstrSize : Word := fieldAt 64 file (headerAddress file (eShstrndx file).toNat + 0x20) 8
def shstr : Blob := (file.drop (shstrOffset file).toNat).take (shstrSize file).toNat

/-- The file passes the checks before the section headers are used. -/
structure ReachesTable : Prop where
  size : 64 ≤ file.length
  magic : file.take 4 = [0x7F, 0x45, 0x4C, 0x46]
  ident : (file.drop 4).take 2 = [2, 1]

structure ReachesNames : Prop extends ReachesTable file where
  table : inRange file (eShoff file) (tableSize file) = true
  index : ¬ eShnum file ≤ eShstrndx file

structure ReachesSections : Prop extends ReachesNames file where
  names : inRange file (shstrOffset file) (shstrSize file) = true

/-- The state of the scan before the section of an index. -/
structure Scanned (si : ℕ) (scan : Scan) : Prop extends ReachesSections file where
  run : (List.range si).foldlM (scanSection file (eShoff file) (eShentsize file) (shstr file)) .start = .ok scan

def headerSection (si : ℕ) : Option FileSection :=
  sectionAt file (eShoff file) (eShentsize file) (shstr file) si

/-- The sections whose range is checked. -/
def RangeChecked (s : FileSection) : Prop :=
  s.name = textName ∨ s.name = dataName ∨ (isRodataName s.name = true ∧ s.size ≠ 0) ∨ s.name = strtabName ∨
    s.name = relaName ++ textName ∨ s.name = relaName ++ dataName ∨
      (relaName ++ rodataName).isPrefixOf s.name = true

def Scan.HasSymbols (scan : Scan) : Prop :=
  scan.symtabOffset ≠ 0 ∧ scan.symtabSize ≠ 0 ∧ scan.symtabEntsize = 24 ∧ scan.strtabOffset ≠ 0 ∧ scan.strtabSize ≠ 0

def Scan.symbolOffset (scan : Scan) (i : ℕ) : Word := scan.symtabOffset + BitVec.ofNat 64 i * 24

/-- What holds of every range check that the parser reaches. -/
structure ParseChecks (holds : ℕ → Word → Word → Prop) : Prop where
  table : ReachesTable file → holds file.length (eShoff file) (tableSize file)
  names : ReachesNames file → holds file.length (shstrOffset file) (shstrSize file)
  sections : ∀ si scan s, si < (eShnum file).toNat → Scanned file si scan → headerSection file si = some s →
    RangeChecked s → holds file.length s.offset s.size
  symbols : ∀ scan, Scanned file (eShnum file).toNat scan → scan.HasSymbols → ∀ i, 1 ≤ i →
    i < 1 + (scan.symtabSize.toNat / 24 - 1) →
    (∀ j, 1 ≤ j → j < i → inRange file (scan.symbolOffset j) 24 = true) → holds file.length (scan.symbolOffset i) 24

/-- The section headers that the parser reads lie in the file: of a section without a name only the name field. -/
structure HeadersInside : Prop where
  names : ReachesNames file → (headerAddress file (eShstrndx file).toNat).toNat + 0x28 ≤ file.length
  sections : ∀ si scan, si < (eShnum file).toNat → Scanned file si scan →
    (headerAddress file si).toNat + 4 ≤ file.length ∧
      (headerSection file si ≠ none → (headerAddress file si).toNat + 0x40 ≤ file.length)

end Fields

section Parse

variable {file : Blob}

lemma inRange_iff {off size : Word} : inRange file off size = true ↔ (off + size).toNat ≤ file.length :=
  decide_eq_true_iff

lemma contained_readRela {off : Word} (h : off.toNat + 24 ≤ file.length) (hlen : file.length < 2 ^ 63) :
    Contained (readRela file off) := by
  have hadd {k : Word} (hk : k.toNat ≤ 16) : (off + k).toNat + 8 ≤ file.length := by
    have hin : off.toNat + k.toNat ≤ file.length := by omega
    rw [toNat_add_of_le hin (by omega)]
    omega
  rw [readRela, contained_bind]
  refine ⟨(contained_read _ _ _).2 (by omega), fun roff _ => ?_⟩
  rw [contained_bind]
  refine ⟨(contained_read _ _ _).2 (hadd (by decide)), fun rinfo _ => ?_⟩
  rw [contained_bind]
  exact ⟨(contained_read _ _ _).2 (hadd (by decide)), fun radd _ => contained_pure _⟩

lemma contained_readRelas {off : Word} {n : ℕ} (h : off.toNat + 24 * n ≤ file.length) (hlen : file.length < 2 ^ 63) :
    Contained (readRelas file off n) := by
  induction n generalizing off with
  | zero => exact contained_pure _
  | succ n ih =>
    have h24 : (24 : Word).toNat = 24 := rfl
    have hin : off.toNat + (24 : Word).toNat ≤ file.length := by omega
    have hnext : (off + 24).toNat = off.toNat + 24 := toNat_add_of_le hin (by omega)
    rw [readRelas, contained_bind]
    refine ⟨contained_readRela (by omega) hlen, fun r _ => ?_⟩
    rw [contained_bind]
    exact ⟨ih (by omega), fun rest _ => contained_pure _⟩

lemma contained_scanNamed {s : FileSection} {shBase entsize : Word} {scan : Scan}
    (hheader : shBase.toNat + 0x40 ≤ file.length) (hlen : file.length < 2 ^ 63)
    (hexact : RangeChecked s → Exact file.length s.offset s.size) :
    Contained (scanNamed file s.name s.index shBase s.offset s.size entsize scan) := by
  have hinside (hchecked : RangeChecked s) (hrange : ¬ (!inRange file s.offset s.size) = true) :
      s.offset.toNat + s.size.toNat ≤ file.length := by
    rw [Bool.not_eq_true', Bool.not_eq_false, inRange_iff] at hrange
    exact (hexact hchecked).1 hrange
  have hslice (hchecked : RangeChecked s) (hrange : ¬ (!inRange file s.offset s.size) = true) :
      Contained (slice file s.offset.toNat s.size.toNat : Result Blob) :=
    (contained_slice _ _ _).2 (hinside hchecked hrange)
  have hrelas (hchecked : RangeChecked s) (hrange : ¬ (!inRange file s.offset s.size) = true) :
      Contained (readRelas file s.offset (s.size.toNat / 24)) := by
    have hin := hinside hchecked hrange
    exact contained_readRelas (by omega) hlen
  rw [scanNamed]
  by_cases htext : s.name = textName
  · rw [if_pos htext, contained_check]
    intro hrange
    exact contained_bind.2 ⟨hslice (.inl htext) hrange, fun _ _ => contained_pure _⟩
  rw [if_neg htext]
  by_cases hdata : s.name = dataName
  · rw [if_pos hdata, contained_check]
    intro hrange
    exact contained_bind.2 ⟨hslice (.inr (.inl hdata)) hrange, fun _ _ => contained_pure _⟩
  rw [if_neg hdata]
  by_cases hbss : s.name = bssName
  · rw [if_pos hbss]
    exact contained_pure _
  rw [if_neg hbss]
  by_cases hrodata : isRodataName s.name = true
  · rw [if_pos hrodata]
    by_cases hempty : s.size = 0
    · rw [if_pos hempty]
      exact contained_pure _
    rw [if_neg hempty, contained_check]
    intro hrange
    exact contained_bind.2 ⟨hslice (.inr (.inr (.inl ⟨hrodata, hempty⟩))) hrange, fun _ _ => contained_pure _⟩
  rw [if_neg hrodata]
  by_cases hsymtab : s.name = symtabName
  · rw [if_pos hsymtab]
    exact contained_pure _
  rw [if_neg hsymtab]
  by_cases hstrtab : s.name = strtabName
  · rw [if_pos hstrtab, contained_check]
    intro _
    exact contained_pure _
  rw [if_neg hstrtab]
  by_cases hrelatext : s.name = relaName ++ textName
  · rw [if_pos hrelatext, contained_check]
    intro hrange
    exact contained_bind.2 ⟨hrelas (.inr (.inr (.inr (.inr (.inl hrelatext))))) hrange, fun _ _ => contained_pure _⟩
  rw [if_neg hrelatext]
  by_cases hreladata : s.name = relaName ++ dataName
  · rw [if_pos hreladata, contained_check]
    intro hrange
    exact contained_bind.2
      ⟨hrelas (.inr (.inr (.inr (.inr (.inr (.inl hreladata)))))) hrange, fun _ _ => contained_pure _⟩
  rw [if_neg hreladata]
  by_cases hrelarodata : (relaName ++ rodataName).isPrefixOf s.name = true
  · rw [if_pos hrelarodata, contained_check]
    intro hrange
    have h44 : (0x2C : Word).toNat = 44 := rfl
    have hin : shBase.toNat + (0x2C : Word).toNat ≤ file.length := by omega
    have htarget : Contained (readU32 file (shBase + 0x2C)) := by
      apply (contained_read _ _ _).2
      rw [toNat_add_of_le hin (by omega)]
      omega
    refine contained_bind.2 ⟨htarget, fun _ _ => ?_⟩
    exact contained_bind.2
      ⟨hrelas (.inr (.inr (.inr (.inr (.inr (.inr hrelarodata)))))) hrange, fun _ _ => contained_pure _⟩
  · rw [if_neg hrelarodata]
    exact contained_pure _

lemma scanSection_contained_iff {si : ℕ} {scan : Scan} (hlen : file.length < 2 ^ 63)
    (hexact : ∀ s, headerSection file si = some s → RangeChecked s → Exact file.length s.offset s.size)
    (haddress : (headerAddress file si).toNat ≤ file.length) :
    Contained (scanSection file (eShoff file) (eShentsize file) (shstr file) scan si) ↔
      (headerAddress file si).toNat + 4 ≤ file.length ∧
        (headerSection file si ≠ none → (headerAddress file si).toNat + 0x40 ≤ file.length) := by
  have hread {k : Word} (hk : k.toNat ≤ 0x38) : Contained (readU64 file (headerAddress file si + k)) ↔
      (headerAddress file si).toNat + k.toNat + 8 ≤ file.length := by
    rw [readU64, contained_read, BitVec.toNat_add, Nat.mod_eq_of_lt (by omega)]
  have h18 : (0x18 : Word).toNat = 0x18 := rfl
  have h20 : (0x20 : Word).toNat = 0x20 := rfl
  have h38 : (0x38 : Word).toNat = 0x38 := rfl
  rw [scanSection, contained_bind, readU32, contained_read]
  apply and_congr_right
  intro hname
  have hvalue : (read 32 file (headerAddress file si).toNat 4 : Result (BitVec 32)) =
      .ok (fieldAt 32 file (headerAddress file si) 4) := read_eq_ok.2 ⟨hname, rfl⟩
  by_cases hnone : (shstr file).length ≤ (fieldAt 32 file (headerAddress file si) 4).toNat
  · have hsection : headerSection file si = none := if_pos hnone
    refine iff_of_true ?_ fun h => absurd hsection h
    intro name hok
    obtain rfl := Except.ok.inj (hvalue.symm.trans hok)
    rw [if_pos hnone]
    exact contained_pure _
  · have hsection : headerSection file si = some ⟨si,
        cString ((shstr file).drop (fieldAt 32 file (headerAddress file si) 4).toNat),
        fieldAt 64 file (headerAddress file si + 0x18) 8, fieldAt 64 file (headerAddress file si + 0x20) 8⟩ := if_neg hnone
    constructor
    · intro h _
      have hrest := h _ hvalue
      rw [if_neg hnone, contained_bind] at hrest
      obtain ⟨hoff, hrest⟩ := hrest
      have hrest := hrest _ (read_eq_ok.2 ⟨(contained_read _ _ _).1 hoff, rfl⟩)
      obtain ⟨hsz, hrest⟩ := contained_bind.1 hrest
      have hrest := hrest _ (read_eq_ok.2 ⟨(contained_read _ _ _).1 hsz, rfl⟩)
      have hentsize := (hread (k := 0x38) (by decide)).1 (contained_bind.1 hrest).1
      omega
    · intro h name hok
      have hheader := h (by rw [hsection]; exact Option.some_ne_none _)
      obtain rfl := Except.ok.inj (hvalue.symm.trans hok)
      rw [if_neg hnone, contained_bind]
      refine ⟨(hread (by decide)).2 (by omega), fun off hoff => ?_⟩
      rw [contained_bind]
      refine ⟨(hread (by decide)).2 (by omega), fun sz hsz => ?_⟩
      rw [contained_bind]
      refine ⟨(hread (by decide)).2 (by omega), fun entsize _ => ?_⟩
      obtain rfl := readU64_ok hoff
      obtain rfl := readU64_ok hsz
      exact contained_scanNamed hheader hlen (hexact _ hsection)

/-- The string table that a scan has found lies in the file. -/
def StrtabInside (file : Blob) (scan : Scan) : Prop := scan.strtabOffset.toNat + scan.strtabSize.toNat ≤ file.length

lemma strtabInside_section {si : ℕ} {scan scan' : Scan}
    (hexact : ∀ s, headerSection file si = some s → RangeChecked s → Exact file.length s.offset s.size)
    (h : StrtabInside file scan)
    (hscan : scanSection file (eShoff file) (eShentsize file) (shstr file) scan si = .ok scan') :
    StrtabInside file scan' := by
  rcases scanSection_cases hscan with ⟨-, rfl⟩ | ⟨s, hsome, hscans⟩
  · exact h
  · cases hscans with
    | strtab hname hrange => exact (hexact s hsome (.inr (.inr (.inr (.inl hname))))).1 (inRange_iff.1 hrange)
    | _ => exact h

lemma Scanned.succ {si : ℕ} {scan : Scan} (h : Scanned file (si + 1) scan) : ∃ scan', Scanned file si scan' ∧
    scanSection file (eShoff file) (eShentsize file) (shstr file) scan' si = .ok scan := by
  have hrun := h.run
  rw [List.range_succ, List.foldlM_append] at hrun
  obtain ⟨scan', hscan', hrun⟩ := bind_eq_ok.1 hrun
  rw [List.foldlM_cons] at hrun
  obtain ⟨scan'', hlast, hrun⟩ := bind_eq_ok.1 hrun
  obtain rfl := Except.ok.inj hrun
  exact ⟨scan', ⟨h.toReachesSections, hscan'⟩, hlast⟩

lemma strtabInside_scanned (hexact : ParseChecks file Exact) {si : ℕ} {scan : Scan} (hsi : si ≤ (eShnum file).toNat)
    (h : Scanned file si scan) : StrtabInside file scan := by
  induction si generalizing scan with
  | zero =>
    obtain rfl := Except.ok.inj h.run
    exact Nat.zero_le _
  | succ si ih =>
    obtain ⟨scan', hscanned, hlast⟩ := h.succ
    exact strtabInside_section (fun s hs => hexact.sections si scan' s hsi hscanned hs) (ih (by omega) hscanned) hlast

lemma contained_readSym {scan : Scan} {symOff : Word} (hstrtab : StrtabInside file scan)
    (h : symOff.toNat + 24 ≤ file.length) (hlen : file.length < 2 ^ 63) :
    Contained (readSym file scan.strtabOffset scan.strtabSize symOff) := by
  have hadd {k : Word} {n : ℕ} (hk : k.toNat + n ≤ 24) : (symOff + k).toNat + n ≤ file.length := by
    have hin : symOff.toNat + k.toNat ≤ file.length := by omega
    rw [toNat_add_of_le hin (by omega)]
    omega
  rw [readSym, contained_bind]
  refine ⟨(contained_read _ _ _).2 (by omega), fun nameIdx _ => ?_⟩
  rw [contained_bind]
  refine ⟨(contained_read _ _ _).2 (hadd (by decide)), fun info _ => ?_⟩
  rw [contained_bind]
  refine ⟨(contained_read _ _ _).2 (hadd (by decide)), fun shndx _ => ?_⟩
  rw [contained_bind]
  refine ⟨(contained_read _ _ _).2 (hadd (by decide)), fun value _ => ?_⟩
  dsimp only
  split
  · rename_i hname
    refine contained_bind.2 ⟨?_, fun _ _ => contained_pure _⟩
    rw [StrtabInside] at hstrtab
    have hwide : (nameIdx.setWidth 64).toNat = nameIdx.toNat := by
      rw [BitVec.toNat_setWidth, Nat.mod_eq_of_lt (by omega)]
    have hin : scan.strtabOffset.toNat + (nameIdx.setWidth 64).toNat ≤ file.length := by omega
    apply contained_readString
    rw [toNat_add_of_le hin (by omega)]
    omega
  · exact contained_pure _

lemma contained_readSyms {scan : Scan} (hstrtab : StrtabInside file scan) (hlen : file.length < 2 ^ 63) {i n : ℕ}
    {syms : List (ℕ × SymEntry)}
    (hexact : ∀ k, i ≤ k → k < i + n → (∀ j, i ≤ j → j < k → inRange file (scan.symbolOffset j) 24 = true) →
      Exact file.length (scan.symbolOffset k) 24) :
    Contained (readSyms file scan.strtabOffset scan.strtabSize scan.symtabOffset i n syms) := by
  induction n generalizing i syms with
  | zero => exact contained_pure _
  | succ n ih =>
    rw [readSyms]
    by_cases hrange : inRange file (scan.symbolOffset i) 24 = true
    · have hfirst := hexact i le_rfl (by omega) fun j hij hji => absurd hji (Nat.not_lt.2 hij)
      have hinside : (scan.symbolOffset i).toNat + 24 ≤ file.length := hfirst.1 (inRange_iff.1 hrange)
      rw [if_neg (by rw [Scan.symbolOffset] at hrange; rw [hrange]; decide), contained_bind]
      refine ⟨contained_readSym hstrtab hinside hlen, fun entry _ => ih ?_⟩
      intro k hik hk hbefore
      apply hexact k (by omega) (by omega)
      intro j hij hjk
      rcases Nat.eq_or_lt_of_le hij with rfl | hlt
      · exact hrange
      · exact hbefore j hlt hjk
    · rw [if_pos (by rw [Scan.symbolOffset] at hrange; rw [Bool.not_eq_true'] ; exact Bool.eq_false_iff.2 hrange)]
      exact contained_pure _

/-- The scan of the sections and what follows it. -/
def scanFile (file : Blob) : Result ObjectContext := do
  let scan ← (List.range (eShnum file).toNat).foldlM
    (scanSection file (eShoff file) (eShentsize file) (shstr file)) .start
  scan.finish file

lemma contained_readU64 {β : Type} {off : Word} {f : Word → Result β} : Contained (readU64 file off >>= f) ↔
    off.toNat + 8 ≤ file.length ∧ Contained (f (fieldAt 64 file off 8)) := by
  rw [readU64, contained_then fun h => read_eq_ok.2 ⟨(contained_read _ _ _).1 h, rfl⟩, contained_read]
  rfl

lemma contained_readU16 {β : Type} {off : Word} {f : BitVec 16 → Result β} : Contained (readU16 file off >>= f) ↔
    off.toNat + 2 ≤ file.length ∧ Contained (f (fieldAt 16 file off 2)) := by
  rw [readU16, contained_then fun h => read_eq_ok.2 ⟨(contained_read _ _ _).1 h, rfl⟩, contained_read]
  rfl

lemma contained_parseObject : Contained (parseObject file) ↔ (ReachesNames file →
    (headerAddress file (eShstrndx file).toNat + 0x18).toNat + 8 ≤ file.length ∧
    (headerAddress file (eShstrndx file).toNat + 0x20).toNat + 8 ≤ file.length ∧
    (inRange file (shstrOffset file) (shstrSize file) = true →
      (shstrOffset file).toNat + (shstrSize file).toNat ≤ file.length ∧ Contained (scanFile file))) := by
  have haddress : fieldAt 64 file 0x28 8 + (fieldAt 16 file 0x3E 2).setWidth 64 * (fieldAt 16 file 0x3A 2).setWidth 64 =
      headerAddress file (eShstrndx file).toNat := by
    rw [headerAddress, BitVec.ofNat_toNat]
    rfl
  simp only [parseObject, contained_check, contained_readU64, contained_readU16, contained_sliceThen, not_lt, ne_eq,
    not_not, Bool.not_eq_true', Bool.not_eq_false, haddress]
  constructor
  · intro h hreach
    exact (h hreach.size hreach.magic hreach.ident).2.2.2.2 hreach.table hreach.index
  · intro h hsize hmagic hident
    have h28 : (0x28 : Word).toNat = 0x28 := rfl
    have h3A : (0x3A : Word).toNat = 0x3A := rfl
    have h3C : (0x3C : Word).toNat = 0x3C := rfl
    have h3E : (0x3E : Word).toNat = 0x3E := rfl
    refine ⟨by omega, by omega, by omega, by omega, fun htable hindex => ?_⟩
    exact h ⟨⟨hsize, hmagic, hident⟩, htable, hindex⟩

lemma toNat_entryAddress {start : Word} {num entsize : BitVec 16} {bound i : ℕ}
    (htable : start.toNat + num.toNat * entsize.toNat ≤ bound) (hbound : bound < 2 ^ 63) (hi : i < num.toNat) :
    (start + BitVec.ofNat 64 i * entsize.setWidth 64).toNat ≤ bound := by
  have hnum := num.isLt
  have hle : i * entsize.toNat ≤ num.toNat * entsize.toNat := Nat.mul_le_mul_right _ hi.le
  have hwide : (entsize.setWidth 64).toNat = entsize.toNat := by
    rw [BitVec.toNat_setWidth, Nat.mod_eq_of_lt (by omega)]
  have hindex : (BitVec.ofNat 64 i).toNat = i := Nat.mod_eq_of_lt (by omega)
  have hoffset : (BitVec.ofNat 64 i * entsize.setWidth 64).toNat = i * entsize.toNat := by
    rw [BitVec.toNat_mul, hwide, hindex, Nat.mod_eq_of_lt (by omega)]
  have hin : start.toNat + (BitVec.ofNat 64 i * entsize.setWidth 64).toNat ≤ bound := by omega
  rw [toNat_add_of_le hin (by omega)]
  exact hin

lemma toNat_headerAddress (htable : (eShoff file).toNat + (tableSize file).toNat ≤ file.length)
    (hlen : file.length < 2 ^ 63) {si : ℕ} (hsi : si < (eShnum file).toNat) :
    (headerAddress file si).toNat ≤ file.length := by
  have hnum := (eShnum file).isLt
  have hent := (eShentsize file).isLt
  have hprod : (eShnum file).toNat * (eShentsize file).toNat < 2 ^ 16 * 2 ^ 16 := Nat.mul_lt_mul'' hnum hent
  have hwide (x : BitVec 16) : (x.setWidth 64).toNat = x.toNat := by
    rw [BitVec.toNat_setWidth, Nat.mod_eq_of_lt (by omega)]
  have htotal : (tableSize file).toNat = (eShnum file).toNat * (eShentsize file).toNat := by
    rw [tableSize, BitVec.toNat_mul, hwide, hwide, Nat.mod_eq_of_lt (by omega)]
  rw [htotal] at htable
  exact toNat_entryAddress htable hlen hsi

lemma contained_scanFile_iff (hlen : file.length < 2 ^ 63) (hexact : ParseChecks file Exact) (hreach : ReachesSections file) :
    Contained (scanFile file) ↔ ∀ si scan, si < (eShnum file).toNat → Scanned file si scan →
      (headerAddress file si).toNat + 4 ≤ file.length ∧
        (headerSection file si ≠ none → (headerAddress file si).toNat + 0x40 ≤ file.length) := by
  have htable := (hexact.table hreach.toReachesTable).1 (inRange_iff.1 hreach.table)
  have hsection (si : ℕ) (scan : Scan) (hsi : si < (eShnum file).toNat) (hscanned : Scanned file si scan) :=
    @scanSection_contained_iff file si scan hlen (fun s hs => hexact.sections si scan s hsi hscanned hs)
      (toNat_headerAddress htable hlen hsi)
  rw [scanFile, contained_bind, contained_foldlM_range]
  constructor
  · rintro ⟨hscan, -⟩ si scan hsi hscanned
    exact (hsection si scan hsi hscanned).1 (hscan si scan hsi hscanned.run)
  · intro h
    constructor
    · intro si scan hsi hrun
      have hscanned : Scanned file si scan := ⟨hreach, hrun⟩
      exact (hsection si scan hsi hscanned).2 (h si scan hsi hscanned)
    · intro scan hrun
      have hscanned : Scanned file (eShnum file).toNat scan := ⟨hreach, hrun⟩
      rw [Scan.finish]
      split
      · rename_i hsymbols
        refine contained_bind.2 ⟨?_, fun _ _ => contained_pure _⟩
        exact contained_readSyms (strtabInside_scanned hexact le_rfl hscanned) hlen
          (hexact.symbols scan hscanned hsymbols)
      · exact contained_pure _

theorem parseObject_contained_iff (hlen : file.length < 2 ^ 63) (hexact : ParseChecks file Exact) :
    Contained (parseObject file) ↔ HeadersInside file := by
  have h18 : (0x18 : Word).toNat = 0x18 := rfl
  have h20 : (0x20 : Word).toNat = 0x20 := rfl
  have haddress (hreach : ReachesNames file) :
      (headerAddress file (eShstrndx file).toNat).toNat ≤ file.length := by
    have htable := (hexact.table hreach.toReachesTable).1 (inRange_iff.1 hreach.table)
    exact toNat_headerAddress htable hlen (Nat.lt_of_not_le hreach.index)
  have hread (hreach : ReachesNames file) {k : Word} (hk : k.toNat ≤ 0x20) :
      (headerAddress file (eShstrndx file).toNat + k).toNat =
        (headerAddress file (eShstrndx file).toNat).toNat + k.toNat := by
    have hin := haddress hreach
    rw [BitVec.toNat_add, Nat.mod_eq_of_lt (by omega)]
  rw [contained_parseObject]
  constructor
  · intro h
    constructor
    · intro hreach
      have hsize := (h hreach).2.1
      rw [hread hreach (by decide)] at hsize
      omega
    · intro si scan hsi hscanned
      have hreach := hscanned.toReachesSections
      exact (contained_scanFile_iff hlen hexact hreach).1 ((h hreach.toReachesNames).2.2 hreach.names).2 si scan hsi
        hscanned
  · intro h hreach
    have hnames := h.names hreach
    refine ⟨?_, ?_, fun hstr => ⟨(hexact.names hreach).1 (inRange_iff.1 hstr), ?_⟩⟩
    · rw [hread hreach (by decide)]
      omega
    · rw [hread hreach (by decide)]
      omega
    · exact (contained_scanFile_iff hlen hexact ⟨hreach, hstr⟩).2 h.sections

end Parse

end Little64.Linker

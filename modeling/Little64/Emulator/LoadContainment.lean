import Little64.Emulator.HeadlessRuntime
import Little64.Linker.Containment

/-! Where the headless loader reads and writes: inside its vectors, as long as no range check passes by wrap-around and
every relocation lies in the text. -/

namespace Little64.Emulator.HeadlessRuntime

open CheckedAccess LittleEndian
open Linker (neededBytes cString objectFile startName relPcrel6 LinkContained LinkSafe linkObjectsInternal)

section Values

variable (file : Blob)

/-- The values of the reads that stay inside the file. -/
def u16At (off : Word) : BitVec 16 :=
  if file.length < (off + 2).toNat then 0 else assemble 16 (fun i => file.getD (off.toNat + i) 0) 2

def u32At (off : Word) : BitVec 32 :=
  if file.length < (off + 4).toNat then 0 else assemble 32 (fun i => file.getD (off.toNat + i) 0) 4

def u64At (off : Word) : Word := (u32At file off).setWidth 64 ||| (u32At file (off + 4)).setWidth 64 <<< 32

def eShoff : Word := u64At file 0x28
def eShentsize : BitVec 16 := u16At file 0x3A
def eShnum : BitVec 16 := u16At file 0x3C
def eShstrndx : BitVec 16 := u16At file 0x3E

def shstrBase : Word := eShoff file + intProduct (eShentsize file) (eShstrndx file)
def shstrOffset : Word := u64At file (shstrBase file + 0x18)
def shstrSize : Word := u64At file (shstrBase file + 0x20)
def shstr : Blob := (file.drop (shstrOffset file).toNat).take (shstrSize file).toNat

def headerAddress (i : ℕ) : Word := eShoff file + BitVec.ofNat 64 i * (eShentsize file).setWidth 64

def sectionName (i : ℕ) : Option Blob :=
  let nameOff := u32At file (headerAddress file i)
  if (shstr file).length ≤ nameOff.toNat then none else some (cString ((shstr file).drop nameOff.toNat))

def sectionOffset (i : ℕ) : Word := u64At file (headerAddress file i + 0x18)
def sectionSize (i : ℕ) : Word := u64At file (headerAddress file i + 0x20)

/-- A section without a name is not checked. -/
def Passes (i : ℕ) : Prop :=
  sectionName file i ≠ none → (sectionOffset file i + sectionSize file i).toNat ≤ file.length

def addSection (t : Tables) (i : ℕ) : Tables :=
  match sectionName file i with
  | none => t
  | some name => t.add name (sectionOffset file i) (sectionSize file i)

/-- The tables that the first section headers name. -/
def tables (n : ℕ) : Tables := (List.range n).foldl (addSection file) .start

structure ReachesNames : Prop where
  size : 64 ≤ file.length
  table : (eShoff file + intProduct (eShnum file) (eShentsize file)).toNat ≤ file.length

structure ReachesSections : Prop extends ReachesNames file where
  names : (shstrOffset file + shstrSize file).toNat ≤ file.length

structure ReachesText : Prop extends ReachesSections file where
  sections : ∀ i < (eShnum file).toNat, Passes file i

structure ReachesRelocs : Prop extends ReachesText file where
  nonempty : (tables file (eShnum file).toNat).textSize ≠ 0
  text : ((tables file (eShnum file).toNat).textOffset + (tables file (eShnum file).toNat).textSize).toNat ≤ file.length
  present : (tables file (eShnum file).toNat).relaOffset ≠ 0 ∧ (tables file (eShnum file).toNat).relaSize ≠ 0

/-- What holds of every range check that the loader reaches. -/
structure LoadChecks (holds : ℕ → Word → Word → Prop) : Prop where
  names : ReachesNames file → holds file.length (shstrOffset file) (shstrSize file)
  sections : ReachesSections file → ∀ i < (eShnum file).toNat, (∀ j < i, Passes file j) → sectionName file i ≠ none →
    holds file.length (sectionOffset file i) (sectionSize file i)
  text : ReachesText file → (tables file (eShnum file).toNat).textSize ≠ 0 →
    holds file.length (tables file (eShnum file).toNat).textOffset (tables file (eShnum file).toNat).textSize

def tableBytes : ℕ := (eShnum file).toNat * (eShentsize file).toNat

/-- The check of the section headers has the outcome that it has in integers. -/
def ExactTable : Prop :=
  (eShoff file + intProduct (eShnum file) (eShentsize file)).toNat ≤ file.length ↔
    (eShoff file).toNat + tableBytes file ≤ file.length

/-- The product is an `int` and the sum does not wrap around, or the check has the same outcome all the same. -/
def TableFits : Prop :=
  if tableBytes file < 2 ^ 31 then
    (eShoff file).toNat + tableBytes file < 2 ^ 64 ∨ file.length + 2 ^ 64 < (eShoff file).toNat + tableBytes file
  else if (eShoff file).toNat + tableBytes file < 2 ^ 32 then file.length < (eShoff file).toNat + tableBytes file
  else (eShoff file).toNat + tableBytes file ≤ file.length ∨
    file.length + 2 ^ 32 < (eShoff file).toNat + tableBytes file

def relocOffset (i : ℕ) : Word :=
  u64At file ((tables file (eShnum file).toNat).relaOffset + BitVec.ofNat 64 i * 24)

def relocType (i : ℕ) : BitVec 32 :=
  (u64At file ((tables file (eShnum file).toNat).relaOffset + BitVec.ofNat 64 i * 24 + 8)).setWidth 32

/-- What the checks leave open: the header of the section names, and the offsets of the relocations. -/
structure LoadInside : Prop where
  names : ReachesNames file →
    NoWrap file.length (shstrBase file + 0x18) 8 ∧ NoWrap file.length (shstrBase file + 0x20) 8
  relocs : ReachesRelocs file → ∀ i < (tables file (eShnum file).toNat).relaSize.toNat / 24, ∀ needed,
    neededBytes (relocType file i) = some needed →
      (relocOffset file i).toNat + needed.toNat ≤ (tables file (eShnum file).toNat).textSize.toNat

structure LoadContained : Prop where
  inside : Contained (loadRelocatableElf file)
  table : 64 ≤ file.length → ExactTable file
  checks : LoadChecks file Exact

structure LoadSafe : Prop extends LoadInside file where
  table : 64 ≤ file.length → TableFits file
  checks : LoadChecks file NoWrap

end Values

variable {file : Blob}

lemma contained_readU32 (hlen : 64 ≤ file.length ∧ file.length < 2 ^ 63) (off : Word) :
    Contained (readU32 file off) ↔ NoWrap file.length off 4 := by
  have h4 : (4 : Word).toNat = 4 := rfl
  have hoff := off.isLt
  rw [readU32, NoWrap, h4, BitVec.toNat_add, h4]
  split
  · exact iff_of_true (contained_ok _) (by omega)
  · rw [contained_read]
    omega

lemma readU32_eq {off : Word} (hlen : 64 ≤ file.length ∧ file.length < 2 ^ 63) (h : NoWrap file.length off 4) :
    readU32 file off = .ok (u32At file off) := by
  have hread := (contained_readU32 hlen off).2 h
  rw [readU32, u32At]
  rw [readU32] at hread
  split
  · rfl
  · rename_i hin
    rw [if_neg hin, contained_read] at hread
    exact read_eq_ok.2 ⟨hread, rfl⟩

lemma contained_readU64 (hlen : 64 ≤ file.length ∧ file.length < 2 ^ 63) (off : Word) :
    Contained (readU64 file off) ↔ NoWrap file.length off 8 := by
  have h4 : (4 : Word).toNat = 4 := rfl
  have h8 : (8 : Word).toNat = 8 := rfl
  have hoff := off.isLt
  have hlast (lo : BitVec 32) : Contained (do
      let hi ← readU32 file (off + 4)
      return lo.setWidth 64 ||| hi.setWidth 64 <<< 32) ↔ NoWrap file.length (off + 4) 4 := by
    rw [contained_bind, contained_readU32 hlen, and_iff_left]
    intro hi _
    exact contained_pure _
  rw [readU64, contained_bind, contained_readU32 hlen]
  constructor
  · rintro ⟨hlo, h⟩
    have hhi := (hlast _).1 (h _ (readU32_eq hlen hlo))
    rw [NoWrap, BitVec.toNat_add, h4] at hhi
    rw [NoWrap, h4] at hlo
    rw [NoWrap, h8]
    omega
  · intro h
    rw [NoWrap, h8] at h
    refine ⟨?_, fun lo _ => (hlast lo).2 ?_⟩
    · rw [NoWrap, h4]
      omega
    · rw [NoWrap, BitVec.toNat_add, h4]
      omega

lemma readU64_eq {off : Word} (hlen : 64 ≤ file.length ∧ file.length < 2 ^ 63) (h : NoWrap file.length off 8) :
    readU64 file off = .ok (u64At file off) := by
  have h4 : (4 : Word).toNat = 4 := rfl
  have h8 : (8 : Word).toNat = 8 := rfl
  rw [NoWrap, h8] at h
  have hoff := off.isLt
  have hlo : NoWrap file.length off 4 := by
    rw [NoWrap, h4]
    omega
  have hhi : NoWrap file.length (off + 4) 4 := by
    rw [NoWrap, BitVec.toNat_add, h4]
    omega
  rw [readU64, readU32_eq hlen hlo, readU32_eq hlen hhi]
  rfl

lemma exactTable_iff (hlen : file.length < 2 ^ 63) : ExactTable file ↔ TableFits file := by
  have hint := toNat_intProduct (eShnum file) (eShentsize file)
  have hbytes : (eShnum file).toNat * (eShentsize file).toNat < 2 ^ 16 * 2 ^ 16 :=
    Nat.mul_lt_mul'' (eShnum file).isLt (eShentsize file).isLt
  have hshoff := (eShoff file).isLt
  rw [ExactTable, TableFits, BitVec.toNat_add, hint, tableBytes]
  by_cases hsmall : (eShnum file).toNat * (eShentsize file).toNat < 2 ^ 31
  · rw [if_pos hsmall, if_pos hsmall]
    omega
  · rw [if_neg hsmall, if_neg hsmall]
    split <;> omega

lemma headerAddress_le (hlen : file.length < 2 ^ 63) (hexact : ExactTable file) (hreach : ReachesNames file) {i : ℕ}
    (hi : i < (eShnum file).toNat) : (headerAddress file i).toNat ≤ file.length :=
  Linker.toNat_entryAddress (hexact.1 hreach.table) hlen hi

lemma noWrap_of_lt {off n : Word} {bound : ℕ} (h : off.toNat + n.toNat < 2 ^ 64) : NoWrap bound off n := .inl h

lemma readU64_header (hlen : 64 ≤ file.length ∧ file.length < 2 ^ 63) {i : ℕ} (haddress : (headerAddress file i).toNat ≤ file.length) {k : Word} (hk : k.toNat ≤ 0x20) :
    readU64 file (headerAddress file i + k) = .ok (u64At file (headerAddress file i + k)) := by
  apply readU64_eq hlen
  apply noWrap_of_lt
  have hadd : (headerAddress file i + k).toNat = (headerAddress file i).toNat + k.toNat := by
    rw [BitVec.toNat_add, Nat.mod_eq_of_lt (by omega)]
  rw [hadd]
  change _ + 8 < _
  omega

lemma loadSection_eq (hlen : 64 ≤ file.length ∧ file.length < 2 ^ 63) {i : ℕ}
    (haddress : (headerAddress file i).toNat ≤ file.length) (t : Tables) :
    loadSection file (eShoff file) (eShentsize file) (shstr file) t i =
      if (shstr file).length ≤ (u32At file (headerAddress file i)).toNat then .ok t
      else if file.length < (sectionOffset file i + sectionSize file i).toNat then reject "Error: ELF section out of range"
      else .ok (t.add (cString ((shstr file).drop (u32At file (headerAddress file i)).toNat)) (sectionOffset file i)
        (sectionSize file i)) := by
  have hname : readU32 file (headerAddress file i) = .ok (u32At file (headerAddress file i)) := by
    apply readU32_eq hlen
    apply noWrap_of_lt
    change _ + 4 < _
    omega
  rw [loadSection]
  change (readU32 file (headerAddress file i) >>= _) = _
  rw [hname]
  change (if (shstr file).length ≤ (u32At file (headerAddress file i)).toNat then _ else
    readU64 file (headerAddress file i + 0x18) >>= _) = _
  split
  · rfl
  rw [readU64_header hlen haddress (by decide)]
  change (readU64 file (headerAddress file i + 0x20) >>= _) = _
  rw [readU64_header hlen haddress (by decide)]
  change (if file.length < (sectionOffset file i + sectionSize file i).toNat then _ else _) = _
  split
  · rfl
  · rfl

lemma contained_loadSection (hlen : 64 ≤ file.length ∧ file.length < 2 ^ 63) {i : ℕ}
    (haddress : (headerAddress file i).toNat ≤ file.length) (t : Tables) :
    Contained (loadSection file (eShoff file) (eShentsize file) (shstr file) t i) := by
  rw [loadSection_eq hlen haddress]
  split
  · exact contained_ok _
  split
  · exact contained_reject _
  · exact contained_ok _

lemma loadSection_ok (hlen : 64 ≤ file.length ∧ file.length < 2 ^ 63) {i : ℕ}
    (haddress : (headerAddress file i).toNat ≤ file.length) {t t' : Tables} :
    loadSection file (eShoff file) (eShentsize file) (shstr file) t i = .ok t' ↔
      Passes file i ∧ t' = addSection file t i := by
  rw [loadSection_eq hlen haddress, Passes, addSection, sectionName]
  split
  · rw [Except.ok.injEq]
    exact ⟨fun h => ⟨fun hne => absurd rfl hne, h.symm⟩, fun h => h.2.symm⟩
  · split
    · rename_i hfail
      refine iff_of_false (fun h => by cases h) fun h => ?_
      exact absurd (h.1 (Option.some_ne_none _)) (Nat.not_le.2 hfail)
    · rename_i hpass
      rw [Except.ok.injEq]
      exact ⟨fun h => ⟨fun _ => Nat.not_lt.1 hpass, h.symm⟩, fun h => h.2.symm⟩

lemma loadSections_ok (hlen : 64 ≤ file.length ∧ file.length < 2 ^ 63) {n : ℕ}
    (haddress : ∀ i < n, (headerAddress file i).toNat ≤ file.length) {t : Tables} :
    (List.range n).foldlM (loadSection file (eShoff file) (eShentsize file) (shstr file)) .start = .ok t ↔
      (∀ i < n, Passes file i) ∧ t = tables file n := by
  induction n generalizing t with
  | zero =>
    rw [List.range_zero, List.foldlM_nil]
    constructor
    · intro h
      exact ⟨fun i hi => absurd hi (Nat.not_lt_zero i), (Except.ok.inj h).symm⟩
    · rintro ⟨-, rfl⟩
      rfl
  | succ n ih =>
    have htables : tables file (n + 1) = addSection file (tables file n) n := by
      rw [tables, List.range_succ, List.foldl_append]
      rfl
    have hlast {u : Tables} : [n].foldlM (loadSection file (eShoff file) (eShentsize file) (shstr file)) u = .ok t ↔
        Passes file n ∧ t = addSection file u n := by
      rw [List.foldlM_cons, ← loadSection_ok hlen (haddress n (Nat.lt_succ_self n))]
      constructor
      · intro h
        obtain ⟨u', hu', h⟩ := bind_eq_ok.1 h
        obtain rfl := Except.ok.inj h
        exact hu'
      · intro h
        exact bind_eq_ok.2 ⟨t, h, rfl⟩
    rw [List.range_succ, List.foldlM_append, bind_eq_ok, htables]
    constructor
    · rintro ⟨u, hu, h⟩
      obtain ⟨hbefore, rfl⟩ := (ih fun i hi => haddress i (by omega)).1 hu
      obtain ⟨hpass, rfl⟩ := hlast.1 h
      refine ⟨fun i hi => ?_, rfl⟩
      rcases Nat.lt_succ_iff_lt_or_eq.1 hi with hlt | rfl
      · exact hbefore i hlt
      · exact hpass
    · rintro ⟨hpass, rfl⟩
      refine ⟨tables file n, (ih fun i hi => haddress i (by omega)).2 ⟨fun i hi => hpass i (by omega), rfl⟩, ?_⟩
      exact hlast.2 ⟨hpass n (Nat.lt_succ_self n), rfl⟩

/-- The ranges of the tables lie in the file. -/
structure Tables.Inside (t : Tables) (file : Blob) : Prop where
  text : t.textOffset.toNat + t.textSize.toNat ≤ file.length
  symtab : t.symtabOffset.toNat + t.symtabSize.toNat ≤ file.length
  rela : t.relaOffset.toNat + t.relaSize.toNat ≤ file.length

lemma Tables.Inside.add {t : Tables} {name : Blob} {off siz : Word} (h : t.Inside file)
    (hin : off.toNat + siz.toNat ≤ file.length) : (t.add name off siz).Inside file := by
  rw [Tables.add]
  split
  · exact ⟨hin, h.symtab, h.rela⟩
  split
  · exact ⟨h.text, hin, h.rela⟩
  split
  · exact ⟨h.text, h.symtab, hin⟩
  · exact h

lemma tables_inside (hchecks : LoadChecks file Exact) (hreach : ReachesSections file) {n : ℕ}
    (hn : n ≤ (eShnum file).toNat) (hpass : ∀ i < n, Passes file i) : (tables file n).Inside file := by
  induction n with
  | zero => exact ⟨Nat.zero_le _, Nat.zero_le _, Nat.zero_le _⟩
  | succ n ih =>
    have hbefore := ih (by omega) fun i hi => hpass i (by omega)
    rw [tables, List.range_succ, List.foldl_append]
    change (addSection file (tables file n) n).Inside file
    rw [addSection]
    cases hname : sectionName file n with
    | none => exact hbefore
    | some name =>
      have hne : sectionName file n ≠ none := by
        rw [hname]
        exact Option.some_ne_none _
      have hexact := hchecks.sections hreach n hn (fun j hj => hpass j (by omega)) hne
      exact hbefore.add (hexact.1 (hpass n (Nat.lt_succ_self n) hne))

lemma readU64_entry (hlen : 64 ≤ file.length ∧ file.length < 2 ^ 63) {start : Word} {n i : ℕ}
    (hin : start.toNat + 24 * n ≤ file.length) (hi : i < n) {k : Word} (hk : k.toNat ≤ 16) :
    readU64 file (start + BitVec.ofNat 64 i * 24 + k) = .ok (u64At file (start + BitVec.ofNat 64 i * 24 + k)) := by
  have h24 : (24 : Word).toNat = 24 := rfl
  have hindex : (BitVec.ofNat 64 i).toNat = i := Nat.mod_eq_of_lt (by omega)
  have hentry : (BitVec.ofNat 64 i * 24).toNat = 24 * i := by
    rw [BitVec.toNat_mul, hindex, h24]
    omega
  apply readU64_eq hlen
  apply noWrap_of_lt
  rw [BitVec.toNat_add, BitVec.toNat_add, hentry]
  change _ + 8 < _
  omega

lemma loadSymbols_ok (hlen : 64 ≤ file.length ∧ file.length < 2 ^ 63) {symtabOffset : Word} {entries : ℕ}
    (hin : symtabOffset.toNat + 24 * entries ≤ file.length) : ∃ syms, loadSymbols file symtabOffset entries = .ok syms := by
  apply mapM_ok
  intro i hi
  exact ⟨_, readU64_entry hlen hin (List.mem_range.1 hi) (by decide)⟩

/-- A relocation of a known type has its field inside a text of a length. -/
def Fits (type : BitVec 32) (rOffset : Word) (length : ℕ) : Prop :=
  ∀ needed, neededBytes type = some needed → rOffset.toNat + needed.toNat ≤ length

section Text

variable {text : Blob} {rOffset target : Word} {rType : BitVec 32}

lemma write_spec {off n : ℕ} {w : ℕ} (v : BitVec w) :
    (off + n ≤ text.length → ∃ text', (write text off n v : Load Blob) = .ok text' ∧ text'.length = text.length) ∧
      (¬ off + n ≤ text.length → (write text off n v : Load Blob) = .error .outOfBounds) := by
  rw [write]
  constructor
  · intro h
    refine ⟨_, if_pos h, length_patch ?_⟩
    rwa [length_bytesOf]
  · exact fun h => if_neg h

lemma patchText_spec :
    (Fits rType rOffset text.length →
      ∃ text', patchText text rOffset target rType = .ok text' ∧ text'.length = text.length) ∧
    (¬ Fits rType rOffset text.length → patchText text rOffset target rType = .error .outOfBounds) := by
  rw [patchText, Fits, neededBytes]
  by_cases h64 : rType = 1
  · have hfits : (∀ needed : Word, some (8 : Word) = some needed → rOffset.toNat + needed.toNat ≤ text.length) ↔
        rOffset.toNat + 8 ≤ text.length := by simp
    rw [if_pos h64, if_pos (show rType = Linker.relAbs64 from h64), hfits]
    exact write_spec target
  rw [if_neg h64, if_neg (show ¬ rType = Linker.relAbs64 from h64)]
  by_cases h32 : rType = 2
  · have hfits : (∀ needed : Word, some (4 : Word) = some needed → rOffset.toNat + needed.toNat ≤ text.length) ↔
        rOffset.toNat + 4 ≤ text.length := by simp
    rw [if_pos h32, if_pos (show rType = Linker.relAbs32 from h32), hfits]
    exact write_spec target
  rw [if_neg h32, if_neg (show ¬ rType = Linker.relAbs32 from h32)]
  by_cases hpcrel : rType = 3 ∨ rType = 4 ∨ rType = 5
  · have hfits : (∀ needed : Word, some (2 : Word) = some needed → rOffset.toNat + needed.toNat ≤ text.length) ↔
        rOffset.toNat + 2 ≤ text.length := by simp
    rw [if_pos hpcrel, if_pos (show rType = Linker.relPcrel6 ∨ rType = Linker.relPcrel10 ∨ rType = Linker.relPcrel13
      from hpcrel), hfits, CheckedAccess.read]
    constructor
    · intro h
      rw [if_pos h]
      exact (write_spec _).1 h
    · intro h
      rw [if_neg h]
      rfl
  · rw [if_neg hpcrel, if_neg (show ¬ (rType = Linker.relPcrel6 ∨ rType = Linker.relPcrel10 ∨ rType = Linker.relPcrel13)
      from hpcrel)]
    constructor
    · intro _
      exact ⟨text, rfl, rfl⟩
    · intro h
      refine absurd ?_ h
      intro needed hneeded
      cases hneeded

end Text

section Relocs

variable {start : Word} (syms : List Word) (text : Blob) {n : ℕ}

lemma relocateText_eq (hlen : 64 ≤ file.length ∧ file.length < 2 ^ 63) (hin : start.toNat + 24 * n ≤ file.length) {i : ℕ}
    (hi : i < n) : ∃ target, relocateText file start syms text i =
      patchText text (u64At file (start + BitVec.ofNat 64 i * 24)) target
        ((u64At file (start + BitVec.ofNat 64 i * 24 + 8)).setWidth 32) := by
  have hoffset := readU64_entry hlen hin hi (k := 0) (by decide)
  have hzero : start + BitVec.ofNat 64 i * 24 + 0 = start + BitVec.ofNat 64 i * 24 := BitVec.add_zero _
  rw [hzero] at hoffset
  rw [relocateText]
  dsimp only
  rw [hoffset]
  change ∃ target, (readU64 file (start + BitVec.ofNat 64 i * 24 + 8) >>= _) = _
  rw [readU64_entry hlen hin hi (by decide)]
  change ∃ target, (readU64 file (start + BitVec.ofNat 64 i * 24 + 16) >>= _) = _
  rw [readU64_entry hlen hin hi (by decide)]
  exact ⟨_, rfl⟩

def FitsAt (file : Blob) (start : Word) (i length : ℕ) : Prop :=
  Fits ((u64At file (start + BitVec.ofNat 64 i * 24 + 8)).setWidth 32) (u64At file (start + BitVec.ofNat 64 i * 24)) length

lemma relocateText_spec (hlen : 64 ≤ file.length ∧ file.length < 2 ^ 63) (hin : start.toNat + 24 * n ≤ file.length) {i : ℕ}
    (hi : i < n) :
    (FitsAt file start i text.length →
      ∃ text', relocateText file start syms text i = .ok text' ∧ text'.length = text.length) ∧
    (¬ FitsAt file start i text.length → relocateText file start syms text i = .error .outOfBounds) := by
  obtain ⟨target, heq⟩ := relocateText_eq syms text hlen hin hi
  rw [heq]
  exact patchText_spec

/-- The loop rejects nothing: it leaves the text at the first relocation that does not fit. -/
lemma contained_relocs (hlen : 64 ≤ file.length ∧ file.length < 2 ^ 63) (hin : start.toNat + 24 * n ≤ file.length) {m : ℕ}
    (hm : m ≤ n) :
    ((∀ i < m, FitsAt file start i text.length) → ∃ text',
      (List.range m).foldlM (relocateText file start syms) text = .ok text' ∧ text'.length = text.length) ∧
    (Contained ((List.range m).foldlM (relocateText file start syms) text) →
      ∀ i < m, FitsAt file start i text.length) := by
  induction m with
  | zero => exact ⟨fun _ => ⟨text, rfl, rfl⟩, fun _ i hi => absurd hi (Nat.not_lt_zero i)⟩
  | succ m ih =>
    obtain ⟨hruns, hfits⟩ := ih (by omega)
    rw [List.range_succ, List.foldlM_append]
    constructor
    · intro h
      obtain ⟨text', hrun, hlength⟩ := hruns fun i hi => h i (by omega)
      have hlast := h m (Nat.lt_succ_self m)
      rw [← hlength] at hlast
      obtain ⟨text'', hstep, hlength'⟩ := (relocateText_spec syms text' hlen hin hm).1 hlast
      refine ⟨text'', ?_, hlength'.trans hlength⟩
      rw [hrun]
      change (relocateText file start syms text' m >>= _) = _
      rw [hstep]
      rfl
    · intro h
      obtain ⟨hbefore, hstep⟩ := contained_bind.1 h
      have hall := hfits hbefore
      obtain ⟨text', hrun, hlength⟩ := hruns hall
      intro i hi
      rcases Nat.lt_succ_iff_lt_or_eq.1 hi with hlt | rfl
      · exact hall i hlt
      · by_contra hnot
        rw [← hlength] at hnot
        have hlast := hstep text' hrun
        rw [List.foldlM_cons, (relocateText_spec syms text' hlen hin hm).2 hnot] at hlast
        exact hlast rfl

end Relocs

/-- The part of the load behind the section headers. -/
def loadText (file : Blob) (t : Tables) : Load (List (BitVec 16)) := do
  if t.textSize = 0 ∨ file.length < (t.textOffset + t.textSize).toNat then
    reject "Error: ELF .text section missing or invalid"
  let text ← slice file t.textOffset.toNat t.textSize.toNat
  let syms ←
    if t.symtabOffset ≠ 0 ∧ t.symtabSize ≠ 0 then loadSymbols file t.symtabOffset (t.symtabSize.toNat / 24)
    else pure []
  let text ←
    if t.relaOffset ≠ 0 ∧ t.relaSize ≠ 0 then
      (List.range (t.relaSize.toNat / 24)).foldlM (relocateText file t.relaOffset syms) text
    else pure text
  return Linker.toWords text

lemma contained_loadText (hlen : 64 ≤ file.length ∧ file.length < 2 ^ 63) {t : Tables} (hin : t.Inside file) :
    Contained (loadText file t) ↔
      (t.textSize ≠ 0 → (t.textOffset + t.textSize).toNat ≤ file.length → t.relaOffset ≠ 0 ∧ t.relaSize ≠ 0 →
        ∀ i < t.relaSize.toNat / 24, FitsAt file t.relaOffset i t.textSize.toNat) := by
  have htext := hin.text
  have hsymtab := hin.symtab
  have hrela := hin.rela
  have hslice : (slice file t.textOffset.toNat t.textSize.toNat : Load Blob) =
      .ok ((file.drop t.textOffset.toNat).take t.textSize.toNat) := slice_eq_ok.2 ⟨htext, rfl⟩
  have hlength : ((file.drop t.textOffset.toNat).take t.textSize.toNat).length = t.textSize.toNat := by
    rw [List.length_take, List.length_drop]
    omega
  have hlast (syms : List Word) : Contained (
      if t.relaOffset ≠ 0 ∧ t.relaSize ≠ 0 then
        (List.range (t.relaSize.toNat / 24)).foldlM (relocateText file t.relaOffset syms)
          ((file.drop t.textOffset.toNat).take t.textSize.toNat) >>= fun text => pure (Linker.toWords text)
      else pure (Linker.toWords ((file.drop t.textOffset.toNat).take t.textSize.toNat))) ↔
      (t.relaOffset ≠ 0 ∧ t.relaSize ≠ 0 →
        ∀ i < t.relaSize.toNat / 24, FitsAt file t.relaOffset i t.textSize.toNat) := by
    obtain ⟨hruns, hfits⟩ := contained_relocs syms
      ((file.drop t.textOffset.toNat).take t.textSize.toNat) hlen
      (show t.relaOffset.toNat + 24 * (t.relaSize.toNat / 24) ≤ file.length by omega) le_rfl
    rw [hlength] at hruns hfits
    split
    · rename_i hpresent
      constructor
      · intro h _
        exact hfits (contained_bind.1 h).1
      · intro h
        obtain ⟨text', hrun, -⟩ := hruns (h hpresent)
        rw [hrun]
        exact contained_ok _
    · rename_i habsent
      exact iff_of_true (contained_pure _) fun h => absurd h habsent
  rw [loadText, contained_check, not_or, not_lt, and_imp, hslice]
  apply imp_congr_right
  intro _
  apply imp_congr_right
  intro _
  by_cases hsyms : t.symtabOffset ≠ 0 ∧ t.symtabSize ≠ 0
  · obtain ⟨syms, hok⟩ := loadSymbols_ok hlen
      (show t.symtabOffset.toNat + 24 * (t.symtabSize.toNat / 24) ≤ file.length by omega)
    rw [← hlast syms]
    simp only [if_pos hsyms, hok]
    rfl
  · rw [← hlast []]
    simp only [if_neg hsyms]
    rfl

lemma contained_readU64Then {α : Type} (hlen : 64 ≤ file.length ∧ file.length < 2 ^ 63) {off : Word}
    {f : Word → Load α} :
    Contained (readU64 file off >>= f) ↔ NoWrap file.length off 8 ∧ Contained (f (u64At file off)) := by
  rw [contained_then fun h => readU64_eq hlen ((contained_readU64 hlen off).1 h), contained_readU64 hlen]

lemma readU16_header (hlen : 64 ≤ file.length ∧ file.length < 2 ^ 63) {off : Word} (hoff : off.toNat + 2 ≤ 64) :
    readU16 file off = .ok (u16At file off) := by
  have hin : off.toNat + (2 : Word).toNat ≤ file.length := by
    change off.toNat + 2 ≤ _
    omega
  have hnot : ¬ file.length < (off + 2).toNat := by
    rw [toNat_add_of_le hin (by omega)]
    exact Nat.not_lt.2 hin
  rw [readU16, u16At, if_neg hnot, if_neg hnot]
  exact read_eq_ok.2 ⟨hin, rfl⟩

lemma contained_readU16Then {α : Type} (hlen : 64 ≤ file.length ∧ file.length < 2 ^ 63) {off : Word}
    {f : BitVec 16 → Load α} (hoff : off.toNat + 2 ≤ 64) :
    Contained (readU16 file off >>= f) ↔ Contained (f (u16At file off)) := by
  rw [readU16_header hlen hoff]
  rfl

lemma contained_sections (hlen : 64 ≤ file.length ∧ file.length < 2 ^ 63) (htable : ExactTable file)
    (hchecks : LoadChecks file Exact) (hreach : ReachesSections file) :
    Contained ((List.range (eShnum file).toNat).foldlM (loadSection file (eShoff file) (eShentsize file) (shstr file))
      .start >>= loadText file) ↔ (ReachesRelocs file →
        ∀ i < (tables file (eShnum file).toNat).relaSize.toNat / 24,
          FitsAt file (tables file (eShnum file).toNat).relaOffset i (tables file (eShnum file).toNat).textSize.toNat) := by
  have haddress {i : ℕ} (hi : i < (eShnum file).toNat) : (headerAddress file i).toNat ≤ file.length :=
    headerAddress_le hlen.2 htable hreach.toReachesNames hi
  rw [contained_bind, contained_foldlM_range, and_iff_right]
  · constructor
    · intro h hrelocs
      have hload := h _ ((loadSections_ok hlen fun i hi => haddress hi).2 ⟨hrelocs.sections, rfl⟩)
      have hinside := tables_inside hchecks hreach le_rfl hrelocs.sections
      exact (contained_loadText hlen hinside).1 hload hrelocs.nonempty hrelocs.text hrelocs.present
    · intro h t hrun
      obtain ⟨hpass, rfl⟩ := (loadSections_ok hlen fun i hi => haddress hi).1 hrun
      refine (contained_loadText hlen (tables_inside hchecks hreach le_rfl hpass)).2 ?_
      intro hnonempty htext hpresent
      exact h ⟨⟨hreach, hpass⟩, hnonempty, htext, hpresent⟩
  · intro i t hi _
    exact contained_loadSection hlen (haddress hi) t

/-- A load stays inside its vectors if its checks are exact and what they leave open is inside. -/
theorem contained_load (hlen : file.length < 2 ^ 63) (htable : 64 ≤ file.length → ExactTable file)
    (hchecks : LoadChecks file Exact) : Contained (loadRelocatableElf file) ↔ LoadInside file := by
  by_cases h64 : 64 ≤ file.length
  · have hfile : 64 ≤ file.length ∧ file.length < 2 ^ 63 := ⟨h64, hlen⟩
    have hshoff : NoWrap file.length 0x28 8 := noWrap_of_lt (by decide)
    simp only [loadRelocatableElf, contained_check, contained_readU64Then hfile, hshoff, true_and, not_lt,
      contained_readU16Then hfile (show (0x3A : Word).toNat + 2 ≤ 64 by decide),
      contained_readU16Then hfile (show (0x3C : Word).toNat + 2 ≤ 64 by decide),
      contained_readU16Then hfile (show (0x3E : Word).toNat + 2 ≤ 64 by decide), contained_sliceThen]
    constructor
    · intro h
      constructor
      · intro hreach
        have hnames := h h64 hreach.table
        exact ⟨hnames.1, hnames.2.1⟩
      · intro hreach
        have hsections := ((h h64 hreach.table).2.2 hreach.names).2
        exact (contained_sections hfile (htable h64) hchecks hreach.toReachesSections).1 hsections hreach
    · intro h _ hheaders
      have hreach : ReachesNames file := ⟨h64, hheaders⟩
      have hnames := h.names hreach
      refine ⟨hnames.1, hnames.2, fun hstr => ⟨(hchecks.names hreach).1 hstr, ?_⟩⟩
      exact (contained_sections hfile (htable h64) hchecks ⟨hreach, hstr⟩).2 h.relocs
  · rw [loadRelocatableElf, contained_check]
    refine iff_of_true (fun hsmall => absurd (Nat.not_lt.1 hsmall) h64) ⟨?_, ?_⟩
    · intro hreach
      exact absurd hreach.size h64
    · intro hreach
      exact absurd hreach.size h64

lemma exact_checks_iff (hlen : file.length < 2 ^ 63) : LoadChecks file Exact ↔ LoadChecks file NoWrap := by
  have hiff {off size : Word} : Exact file.length off size ↔ NoWrap file.length off size :=
    exact_iff_noWrap (by omega)
  constructor
  · intro h
    exact ⟨fun hr => hiff.1 (h.names hr), fun hr i hi hp hn => hiff.1 (h.sections hr i hi hp hn),
      fun hr hn => hiff.1 (h.text hr hn)⟩
  · intro h
    exact ⟨fun hr => hiff.2 (h.names hr), fun hr i hi hp hn => hiff.2 (h.sections hr i hi hp hn),
      fun hr hn => hiff.2 (h.text hr hn)⟩

theorem loadContained_iff (hlen : file.length < 2 ^ 63) : LoadContained file ↔ LoadSafe file := by
  constructor
  · intro h
    exact ⟨(contained_load hlen h.table h.checks).1 h.inside, fun h64 => (exactTable_iff hlen).1 (h.table h64),
      (exact_checks_iff hlen).1 h.checks⟩
  · intro h
    have htable : 64 ≤ file.length → ExactTable file := fun h64 => (exactTable_iff hlen).2 (h.table h64)
    have hchecks := (exact_checks_iff hlen).2 h.checks
    exact ⟨(contained_load hlen htable hchecks).2 h.toLoadInside, htable, hchecks⟩

/-- For all files: when the linker and the loader keep to their vectors with exact range checks. -/
theorem containment_iff {files : List Blob} (hfiles : ∀ file ∈ files, file.length < 2 ^ 63)
    (himage : Linker.totalSize (Linker.parsed files) < 2 ^ 63) (hlen : file.length < 2 ^ 63) :
    (LinkContained files ↔ LinkSafe files) ∧ (LoadContained file ↔ LoadSafe file) :=
  ⟨Linker.linkContained_iff hfiles himage, loadContained_iff hlen⟩

theorem containment_iff_sample :
    let file := objectFile [0x34, 0x12] [] [⟨startName, 0x10, 1, 0⟩]
    (LinkContained [file] ↔ LinkSafe [file]) ∧ (LoadContained file ↔ LoadSafe file) := by
  intro file
  have hlen : file.length < 2 ^ 63 := by decide +kernel
  apply containment_iff
  · intro f hf
    obtain rfl := List.mem_singleton.1 hf
    exact hlen
  · decide +kernel
  · exact hlen

/-- The sum of the offset and the size of the field is zero: both programs index behind their vectors. -/
theorem wrapped_relocation :
    let file := objectFile [0x34, 0x12] [⟨0xFFFFFFFFFFFFFFFE, 1, relPcrel6, 0⟩] [⟨startName, 0x10, 1, 0⟩]
    ¬ LinkContained [file] ∧ ¬ LoadContained file := by
  intro file
  have hlink : linkObjectsInternal [file] = .error .outOfBounds := by decide +kernel
  have hload : loadRelocatableElf file = .error .outOfBounds := by decide +kernel
  exact ⟨fun h => h.inside hlink, fun h => h.inside hload⟩

end Little64.Emulator.HeadlessRuntime

import Little64.Emulator.ElfImage

/-! Where the loaders of executable files read and write: the headers lie in the file when the last one does, the copies
as far as their sizes are checked without wrap-around. -/

namespace Little64.Emulator.ElfImage

open CheckedAccess LittleEndian

inductive Loader
  | elf
  | directPaged
  deriving DecidableEq, Repr

def Loader.variant : Loader → Variant
  | .elf => ElfImage.elf
  | .directPaged => ElfImage.directPaged

/-- The products below which the loader's arithmetic is exact. -/
def Loader.productBound : Loader → ℕ
  | .elf => 2 ^ 31
  | .directPaged => 2 ^ 32

section Conditions

variable (l : Loader) (available : ℕ) (file : Blob)

def headerPlace (i : ℕ) : ℕ := (ehdr file).phoff.toNat + i * (ehdr file).phentsize.toNat

def headerAt (i : ℕ) : Phdr := phdr file (headerPlace file i)

def headers : ℕ := (ehdr file).phnum.toNat

/-- The extent of the segments among the first headers. -/
def extent (n : ℕ) : Extent := (List.range n).foldl (fun e i => e.add (headerAt file i)) .start

def imageBase : Word := (extent file (headers file)).base
def imageSize : Word := (extent file (headers file)).size

structure ReachesHeaders : Prop where
  size : 64 ≤ file.length
  magic : (ehdr file).magic = 0x464C457F
  format : ¬ ((ehdr file).fileClass ≠ 2 ∨ (ehdr file).data ≠ 1)
  machine : (ehdr file).machine = 0x4C36
  table : ((ehdr file).phoff + l.variant.product (ehdr file).phnum (ehdr file).phentsize).toNat ≤ file.length

structure ReachesSegments : Prop extends ReachesHeaders l file where
  found : (extent file (headers file)).foundLoad = true
  allocated : (imageSize file).toNat ≤ available

def imageOffset (i : ℕ) : Word := (headerAt file i).vaddr - imageBase file

/-- The check of a segment, where the loader makes one. -/
def Passes (i : ℕ) : Prop := (headerAt file i).type = ptLoad → l.variant.checked = true →
  (imageOffset file i + (headerAt file i).filesz).toNat ≤ (imageSize file).toNat ∧
    ((headerAt file i).offset + (headerAt file i).filesz).toNat ≤ file.length

/-- The loader reads each header where it is, and everything inside the file and the image. -/
structure InBounds : Prop where
  exact : ReachesHeaders l file → ∀ i < headers file, (headerOffset l.variant file i).toNat = headerPlace file i
  inside : Contained (loadImage l.variant available file)

/-- The last header of a table lies in the file, and not too far from the first. -/
def LastHeaderFits : Prop :=
  headers file ≠ 0 → headerPlace file (headers file - 1) + 56 ≤ file.length ∧
    (headers file - 1) * (ehdr file).phentsize.toNat < l.productBound

/-- A segment that takes nothing from the file, or takes it from inside the file and fits in the image. -/
def SegmentFits (i : ℕ) : Prop := (headerAt file i).filesz.toNat = 0 ∨
  (headerAt file i).offset.toNat + (headerAt file i).filesz.toNat ≤ file.length ∧
    (imageOffset file i).toNat + (headerAt file i).filesz.toNat ≤ (imageSize file).toNat

/-- The sums that the check of a segment makes do not wrap around when it passes. -/
def CheckedExactly (i : ℕ) : Prop := (headerAt file i).filesz.toNat ≠ 0 → Passes l file i →
  (imageOffset file i).toNat + (headerAt file i).filesz.toNat < 2 ^ 64 ∧
    (headerAt file i).offset.toNat + (headerAt file i).filesz.toNat < 2 ^ 64

structure Safe : Prop where
  table : ReachesHeaders l file → LastHeaderFits l file
  segments : ReachesSegments l available file → ∀ i < headers file, (headerAt file i).type = ptLoad →
    (∀ j < i, Passes l file j) → if l.variant.checked then CheckedExactly l file i else SegmentFits file i

end Conditions

variable {l : Loader} {available : ℕ} {file : Blob} {i n : ℕ}

/-- The address of a header is exact up to where the product or the sum wraps around. -/
lemma headerOffset_exact_iff (hi : i < headers file) :
    (headerOffset l.variant file i).toNat = headerPlace file i ↔
      i * (ehdr file).phentsize.toNat < l.productBound ∧ headerPlace file i < 2 ^ 64 := by
  have hi16 : (BitVec.ofNat 16 i).toNat = i := by
    have hnum := (ehdr file).phnum.isLt
    rw [headers] at hi
    rw [BitVec.toNat_ofNat, Nat.mod_eq_of_lt (by omega)]
  have hphoff := (ehdr file).phoff.isLt
  have hproduct : (BitVec.ofNat 16 i).toNat * (ehdr file).phentsize.toNat < 2 ^ 16 * 2 ^ 16 :=
    Nat.mul_lt_mul'' (BitVec.ofNat 16 i).isLt (ehdr file).phentsize.isLt
  rw [hi16] at hproduct
  rw [headerOffset, headerPlace, BitVec.toNat_add]
  cases l with
  | elf =>
    have hint := HeadlessRuntime.toNat_intProduct (BitVec.ofNat 16 i) (ehdr file).phentsize
    rw [hi16] at hint
    change (_ + (HeadlessRuntime.intProduct _ _).toNat) % 2 ^ 64 = _ ↔ _ < 2 ^ 31 ∧ _
    rw [hint]
    split <;> omega
  | directPaged =>
    change (_ + (BitVec.setWidth 64 _ * BitVec.setWidth 64 _).toNat) % 2 ^ 64 = _ ↔ _ < 2 ^ 32 ∧ _
    have hsize := (ehdr file).phentsize.isLt
    rw [BitVec.toNat_mul, BitVec.toNat_setWidth, BitVec.toNat_setWidth, hi16,
      Nat.mod_eq_of_lt (a := i) (by omega), Nat.mod_eq_of_lt (a := (ehdr file).phentsize.toNat) (by omega)]
    omega

def HeadersInside (file : Blob) (n : ℕ) : Prop := ∀ i < n, headerPlace file i + 56 ≤ file.length

lemma readPhdr_eq (hinside : headerPlace file i + 56 ≤ file.length) :
    readPhdr file (headerPlace file i) = .ok (headerAt file i) := if_pos hinside

lemma extent_succ (n : ℕ) : extent file (n + 1) = (extent file n).add (headerAt file n) := by
  rw [extent, List.range_succ, List.foldl_append]
  rfl

lemma scan_ok (hexact : ∀ i < headers file, (headerOffset l.variant file i).toNat = headerPlace file i)
    (hn : n ≤ headers file) (hinside : HeadersInside file n) :
    (List.range n).foldlM (scanHeader l.variant file) .start = .ok (extent file n) := by
  induction n with
  | zero => rfl
  | succ n ih =>
    rw [List.range_succ, List.foldlM_append, ih (by omega) fun i hi => hinside i (by omega), extent_succ]
    change (scanHeader l.variant file (extent file n) n >>= pure) = _
    rw [scanHeader, hexact n (by omega), readPhdr_eq (hinside n (by omega))]
    rfl

lemma contained_scan_iff (hexact : ∀ i < headers file, (headerOffset l.variant file i).toNat = headerPlace file i)
    (hn : n ≤ headers file) :
    Contained ((List.range n).foldlM (scanHeader l.variant file) .start) ↔ HeadersInside file n := by
  constructor
  · intro hcontained
    induction n with
    | zero => exact fun i hi => absurd hi (Nat.not_lt_zero i)
    | succ n ih =>
      rw [List.range_succ, List.foldlM_append, contained_bind] at hcontained
      obtain ⟨hbefore, hlast⟩ := hcontained
      have hinside := ih (by omega) hbefore
      have hscan := hlast _ (scan_ok hexact (by omega) hinside)
      intro i hi
      rcases Nat.lt_succ_iff_lt_or_eq.1 hi with hlt | rfl
      · exact hinside i hlt
      · by_contra houtside
        apply hscan
        change (scanHeader l.variant file (extent file i) i >>= pure) = _
        rw [scanHeader, hexact i (by omega), readPhdr, if_neg houtside]
        rfl
  · intro hinside
    rw [scan_ok hexact hn hinside]
    exact contained_ok _

lemma lastHeaderFits_iff (hlen : file.length < 2 ^ 63) :
    LastHeaderFits l file ↔
      (∀ i < headers file, (headerOffset l.variant file i).toNat = headerPlace file i) ∧
        HeadersInside file (headers file) := by
  constructor
  · intro hlast
    have hbefore : ∀ i < headers file, i * (ehdr file).phentsize.toNat < l.productBound ∧
        headerPlace file i + 56 ≤ file.length := by
      intro i hi
      obtain ⟨hinside, hbound⟩ := hlast (by omega)
      have hle : i * (ehdr file).phentsize.toNat ≤ (headers file - 1) * (ehdr file).phentsize.toNat :=
        Nat.mul_le_mul_right _ (by omega)
      rw [headerPlace] at hinside ⊢
      exact ⟨by omega, by omega⟩
    refine ⟨fun i hi => ?_, fun i hi => (hbefore i hi).2⟩
    rw [headerOffset_exact_iff hi]
    have hi' := hbefore i hi
    exact ⟨hi'.1, by omega⟩
  · rintro ⟨hexact, hinside⟩ hne
    have hlt : headers file - 1 < headers file := by omega
    exact ⟨hinside _ hlt, ((headerOffset_exact_iff hlt).1 (hexact _ hlt)).1⟩

/-- The segments that the loop over the copies passes. -/
def Copied (l : Loader) (file : Blob) (i : ℕ) : Prop :=
  Passes l file i ∧ ((headerAt file i).type = ptLoad → SegmentFits file i)

lemma copySegment_eq (hexact : (headerOffset l.variant file i).toNat = headerPlace file i)
    (hinside : headerPlace file i + 56 ≤ file.length) (ram : Blob) :
    copySegment l.variant file (imageBase file) ram i =
      if (headerAt file i).type ≠ ptLoad then .ok ram
      else if l.variant.checked = true ∧ (ram.length < (imageOffset file i + (headerAt file i).filesz).toNat ∨
          file.length < ((headerAt file i).offset + (headerAt file i).filesz).toNat) then reject .returnsFalse
      else copy (headerAt file i).filesz.toNat file (headerAt file i).offset.toNat ram (imageOffset file i).toNat := by
  rw [copySegment, hexact, readPhdr_eq hinside, imageOffset]
  change (if (headerAt file i).type ≠ ptLoad then pure ram else if _ then _ else _) = _
  split
  · rfl
  split <;> rfl

section Segment

variable {ram : Blob}

lemma contained_copySegment (hexact : (headerOffset l.variant file i).toNat = headerPlace file i)
    (hinside : headerPlace file i + 56 ≤ file.length) (hlength : ram.length = (imageSize file).toNat) :
    Contained (copySegment l.variant file (imageBase file) ram i) ↔
      ((headerAt file i).type = ptLoad → Passes l file i → SegmentFits file i) := by
  rw [copySegment_eq hexact hinside]
  split
  · next htype => exact iff_of_true (contained_ok _) fun h => absurd h htype
  · next htype =>
    rw [not_not] at htype
    split
    · next hfails =>
      refine iff_of_true (contained_reject _) fun _ hpasses => ?_
      obtain ⟨himage, hfile⟩ := hpasses htype hfails.1
      rw [hlength] at hfails
      omega
    · next hpasses =>
      rw [contained_copy, hlength]
      refine ⟨fun h _ _ => h, fun h => h htype fun _ hchecked => ?_⟩
      rw [hlength] at hpasses
      have hsums := not_and.1 hpasses hchecked
      omega

lemma copySegment_ok (hexact : (headerOffset l.variant file i).toNat = headerPlace file i)
    (hinside : headerPlace file i + 56 ≤ file.length) (hlength : ram.length = (imageSize file).toNat) :
    (∃ ram', copySegment l.variant file (imageBase file) ram i = .ok ram') ↔ Copied l file i := by
  rw [copySegment_eq hexact hinside]
  split
  · next htype =>
    exact iff_of_true ⟨ram, rfl⟩ ⟨fun h => absurd h htype, fun h => absurd h htype⟩
  · next htype =>
    rw [not_not] at htype
    split
    · next hfails =>
      refine iff_of_false (fun h => by cases h.choose_spec) fun h => ?_
      obtain ⟨himage, hfile⟩ := h.1 htype hfails.1
      rw [hlength] at hfails
      omega
    · next hpasses =>
      rw [hlength] at hpasses
      have hchecks : Passes l file i := by
        intro _ hchecked
        have hsums := not_and.1 hpasses hchecked
        omega
      rw [copy, hlength]
      constructor
      · rintro ⟨ram', h⟩
        split at h
        · next hfits => exact ⟨hchecks, fun _ => hfits⟩
        · cases h
      · intro h
        exact ⟨_, if_pos (h.2 htype)⟩

lemma length_copySegment (hexact : (headerOffset l.variant file i).toNat = headerPlace file i)
    (hinside : headerPlace file i + 56 ≤ file.length) {ram' : Blob}
    (h : copySegment l.variant file (imageBase file) ram i = .ok ram') : ram'.length = ram.length := by
  rw [copySegment_eq hexact hinside] at h
  split at h
  · exact congrArg List.length (Except.ok.inj h).symm
  split at h
  · cases h
  · exact length_copy h

end Segment

section Segments

lemma copies_ok (hexact : ∀ i < headers file, (headerOffset l.variant file i).toNat = headerPlace file i)
    (hinside : HeadersInside file (headers file)) (hn : n ≤ headers file) :
    ((∃ ram, (List.range n).foldlM (copySegment l.variant file (imageBase file))
        (List.replicate (imageSize file).toNat 0) = .ok ram) ↔ ∀ i < n, Copied l file i) ∧
    ∀ ram, (List.range n).foldlM (copySegment l.variant file (imageBase file))
      (List.replicate (imageSize file).toNat 0) = .ok ram → ram.length = (imageSize file).toNat := by
  induction n with
  | zero =>
    refine ⟨iff_of_true ⟨_, rfl⟩ fun i hi => absurd hi (Nat.not_lt_zero i), fun ram h => ?_⟩
    rw [← Except.ok.inj h, List.length_replicate]
  | succ n ih =>
    obtain ⟨hbefore, hlength⟩ := ih (by omega)
    have hstep : ∀ ram, [n].foldlM (copySegment l.variant file (imageBase file)) ram =
        copySegment l.variant file (imageBase file) ram n := fun ram => by
      rw [List.foldlM_cons]
      exact bind_pure _
    rw [List.range_succ, List.foldlM_append]
    constructor
    · constructor
      · rintro ⟨ram', h⟩
        obtain ⟨ram, hram, hlast⟩ := bind_eq_ok.1 h
        rw [hstep] at hlast
        have hcopied := (copySegment_ok (hexact n (by omega)) (hinside n (by omega)) (hlength ram hram)).1 ⟨_, hlast⟩
        intro i hi
        rcases Nat.lt_succ_iff_lt_or_eq.1 hi with hlt | rfl
        · exact hbefore.1 ⟨ram, hram⟩ i hlt
        · exact hcopied
      · intro h
        obtain ⟨ram, hram⟩ := hbefore.2 fun i hi => h i (by omega)
        obtain ⟨ram', hlast⟩ := (copySegment_ok (hexact n (by omega)) (hinside n (by omega)) (hlength ram hram)).2
          (h n (by omega))
        refine ⟨ram', bind_eq_ok.2 ⟨ram, hram, ?_⟩⟩
        rw [hstep]
        exact hlast
    · intro ram' h
      obtain ⟨ram, hram, hlast⟩ := bind_eq_ok.1 h
      rw [hstep] at hlast
      rw [length_copySegment (hexact n (by omega)) (hinside n (by omega)) hlast]
      exact hlength ram hram

lemma contained_copies_iff
    (hexact : ∀ i < headers file, (headerOffset l.variant file i).toNat = headerPlace file i)
    (hinside : HeadersInside file (headers file)) :
    Contained ((List.range (headers file)).foldlM (copySegment l.variant file (imageBase file))
        (List.replicate (imageSize file).toNat 0)) ↔
      ∀ i < headers file, (headerAt file i).type = ptLoad → (∀ j ≤ i, Passes l file j) → SegmentFits file i := by
  rw [contained_foldlM_range]
  constructor
  · intro h i
    induction i using Nat.strong_induction_on with
    | _ i ih =>
      intro hi htype hpasses
      have hcopied : ∀ j < i, Copied l file j := fun j hj =>
        ⟨hpasses j hj.le, fun hload => ih j hj (by omega) hload fun k hk => hpasses k (by omega)⟩
      obtain ⟨hok, hlength⟩ := copies_ok (n := i) hexact hinside (by omega)
      obtain ⟨ram, hram⟩ := hok.2 hcopied
      exact (contained_copySegment (hexact i hi) (hinside i hi) (hlength ram hram)).1 (h i ram hi hram) htype
        (hpasses i le_rfl)
  · intro h i ram hi hram
    obtain ⟨hok, hlength⟩ := copies_ok (n := i) hexact hinside (by omega)
    have hcopied := hok.1 ⟨ram, hram⟩
    rw [contained_copySegment (hexact i hi) (hinside i hi) (hlength ram hram)]
    intro htype hpasses
    apply h i hi htype
    intro j hj
    rcases Nat.lt_or_eq_of_le hj with hlt | rfl
    · exact (hcopied j hlt).1
    · exact hpasses

lemma checkedExactly_iff (hlen : file.length < 2 ^ 63) (hchecked : l.variant.checked = true)
    (htype : (headerAt file i).type = ptLoad) :
    CheckedExactly l file i ↔ (Passes l file i → SegmentFits file i) := by
  have hsize := (imageSize file).isLt
  rw [CheckedExactly, SegmentFits]
  constructor
  · intro h hpasses
    by_cases hzero : (headerAt file i).filesz.toNat = 0
    · exact .inl hzero
    · obtain ⟨himage, hfile⟩ := hpasses htype hchecked
      obtain ⟨hsum, hsum'⟩ := h hzero hpasses
      rw [BitVec.toNat_add, Nat.mod_eq_of_lt hsum] at himage
      rw [BitVec.toNat_add, Nat.mod_eq_of_lt hsum'] at hfile
      exact .inr ⟨hfile, himage⟩
  · intro h hne hpasses
    obtain ⟨hfile, himage⟩ := (h hpasses).resolve_left hne
    exact ⟨by omega, by omega⟩

end Segments

lemma contained_loadImage_iff : Contained (loadImage l.variant available file) ↔ (ReachesHeaders l file →
    Contained (do
      let e ← (List.range (headers file)).foldlM (scanHeader l.variant file) .start
      if e.foundLoad = false then reject .returnsFalse
      let ram ← allocate available e.size.toNat
      let ram ← (List.range (headers file)).foldlM (copySegment l.variant file e.base) ram
      return (⟨e.base, ram, (ehdr file).entry⟩ : Image))) := by
  rw [loadImage, contained_check, contained_check, contained_check, contained_check, contained_check]
  constructor
  · intro h hreach
    exact h (Nat.not_lt.2 hreach.size) (not_not.2 hreach.magic) hreach.format (not_not.2 hreach.machine)
      (Nat.not_lt.2 hreach.table)
  · intro h hsize hmagic hformat hmachine htable
    exact h ⟨Nat.not_lt.1 hsize, not_not.1 hmagic, hformat, not_not.1 hmachine, Nat.not_lt.1 htable⟩

lemma contained_segments_iff (hreach : ReachesHeaders l file) :
    Contained (do
      if (extent file (headers file)).foundLoad = false then reject .returnsFalse
      let ram ← allocate available (imageSize file).toNat
      let ram ← (List.range (headers file)).foldlM (copySegment l.variant file (imageBase file)) ram
      return (⟨imageBase file, ram, (ehdr file).entry⟩ : Image)) ↔
    (ReachesSegments l available file →
      Contained ((List.range (headers file)).foldlM (copySegment l.variant file (imageBase file))
        (List.replicate (imageSize file).toNat 0))) := by
  rw [contained_check, contained_bind]
  have hreturn : ∀ ram : Blob, Contained (do
      let ram ← (List.range (headers file)).foldlM (copySegment l.variant file (imageBase file)) ram
      return (⟨imageBase file, ram, (ehdr file).entry⟩ : Image)) ↔
      Contained ((List.range (headers file)).foldlM (copySegment l.variant file (imageBase file)) ram) := by
    intro ram
    rw [contained_bind]
    exact ⟨fun h => h.1, fun h => ⟨h, fun _ _ => contained_pure _⟩⟩
  have hallocate : Contained (allocate available (imageSize file).toNat) := by
    rw [allocate]
    split
    · exact contained_ok _
    · exact contained_reject _
  constructor
  · intro h hsegments
    have hfound : ¬ (extent file (headers file)).foundLoad = false := by
      rw [hsegments.found]
      exact Bool.noConfusion
    exact (hreturn _).1 ((h hfound).2 _ (if_pos hsegments.allocated))
  · intro h hfound
    refine ⟨hallocate, fun ram hram => ?_⟩
    rw [hreturn]
    rw [allocate] at hram
    split at hram
    · next hfits =>
      obtain rfl := Except.ok.inj hram
      exact h ⟨hreach, by rwa [Bool.not_eq_false] at hfound, hfits⟩
    · cases hram

lemma contained_afterScan_iff (hreach : ReachesHeaders l file)
    (hexact : ∀ i < headers file, (headerOffset l.variant file i).toNat = headerPlace file i) :
    Contained (loadImage l.variant available file) ↔ HeadersInside file (headers file) ∧
      (HeadersInside file (headers file) → ReachesSegments l available file →
        Contained ((List.range (headers file)).foldlM (copySegment l.variant file (imageBase file))
          (List.replicate (imageSize file).toNat 0))) := by
  rw [contained_loadImage_iff, contained_bind, contained_scan_iff hexact le_rfl]
  constructor
  · intro h
    obtain ⟨hinside, hrest⟩ := h hreach
    exact ⟨hinside, fun _ => (contained_segments_iff hreach).1 (hrest _ (scan_ok hexact le_rfl hinside))⟩
  · rintro ⟨hinside, hrest⟩ -
    refine ⟨hinside, fun e he => ?_⟩
    obtain rfl := Except.ok.inj ((scan_ok hexact le_rfl hinside).symm.trans he)
    exact (contained_segments_iff hreach).2 (hrest hinside)

lemma passes_of_unchecked (hchecked : ¬ l.variant.checked = true) (i : ℕ) : Passes l file i :=
  fun _ h => absurd h hchecked

/-- The copies stay inside when each segment that is reached is checked exactly, or fits where it is not checked. -/
lemma segments_iff (hlen : file.length < 2 ^ 63) :
    (∀ i < headers file, (headerAt file i).type = ptLoad → (∀ j < i, Passes l file j) →
      if l.variant.checked then CheckedExactly l file i else SegmentFits file i) ↔
    ∀ i < headers file, (headerAt file i).type = ptLoad → (∀ j ≤ i, Passes l file j) → SegmentFits file i := by
  apply forall_congr' fun i => forall_congr' fun hi => forall_congr' fun htype => ?_
  by_cases hchecked : l.variant.checked = true
  · rw [if_pos hchecked, checkedExactly_iff hlen hchecked htype]
    constructor
    · intro h hpasses
      exact h (fun j hj => hpasses j hj.le) (hpasses i le_rfl)
    · intro h hbefore hpasses
      apply h
      intro j hj
      rcases Nat.lt_or_eq_of_le hj with hlt | rfl
      · exact hbefore j hlt
      · exact hpasses
  · rw [if_neg hchecked]
    exact ⟨fun h _ => h fun j _ => passes_of_unchecked hchecked j, fun h _ => h fun j _ => passes_of_unchecked hchecked j⟩

/-- Both loaders stay in bounds on exactly the files whose last header lies in the file and whose segments do not get
past the loader's checks, if it has any, by wrap-around. -/
theorem inBounds_iff (l : Loader) (available : ℕ) (file : Blob) (hlen : file.length < 2 ^ 63) :
    InBounds l available file ↔ Safe l available file := by
  by_cases hreach : ReachesHeaders l file
  · constructor
    · rintro ⟨hexact, hcontained⟩
      obtain ⟨hinside, hcopies⟩ := (contained_afterScan_iff hreach (hexact hreach)).1 hcontained
      refine ⟨fun _ => (lastHeaderFits_iff hlen).2 ⟨hexact hreach, hinside⟩, fun hsegments => ?_⟩
      rw [segments_iff hlen]
      exact (contained_copies_iff (hexact hreach) hinside).1 (hcopies hinside hsegments)
    · rintro ⟨htable, hsegments⟩
      obtain ⟨hexact, hinside⟩ := (lastHeaderFits_iff hlen).1 (htable hreach)
      refine ⟨fun _ => hexact, (contained_afterScan_iff hreach hexact).2 ⟨hinside, fun _ hreached => ?_⟩⟩
      exact (contained_copies_iff hexact hinside).2 ((segments_iff hlen).1 (hsegments hreached))
  · constructor
    · intro _
      exact ⟨fun h => absurd h hreach, fun h => absurd h.toReachesHeaders hreach⟩
    · intro _
      exact ⟨fun h => absurd h hreach, contained_loadImage_iff.2 fun h => absurd h hreach⟩

/-- A file header with one program header behind it, and no more. -/
def sampleFile (vaddr filesz : Word) : Blob :=
  [0x7F, 0x45, 0x4C, 0x46, 2, 1] ++ List.replicate 12 0 ++ [0x36, 0x4C] ++ List.replicate 12 0 ++
    bytesOf (64 : Word) 8 ++ List.replicate 14 0 ++ [56, 0, 1, 0] ++ List.replicate 6 0 ++ [1, 0, 0, 0, 0, 0, 0, 0] ++
    bytesOf (64 : Word) 8 ++ bytesOf vaddr 8 ++ List.replicate 8 0 ++ bytesOf filesz 8 ++ bytesOf (8 : Word) 8 ++
    List.replicate 8 0

theorem inBounds_iff_sample : InBounds .elf (2 ^ 32) (sampleFile 0x1008 8) := by
  refine (inBounds_iff .elf (2 ^ 32) (sampleFile 0x1008 8) (by decide +kernel)).2 ⟨fun _ _ => ?_, fun _ i hi _ _ => ?_⟩
  · exact ⟨by decide +kernel, by decide +kernel⟩
  · have hheaders : headers (sampleFile 0x1008 8) = 1 := by decide +kernel
    obtain rfl : i = 0 := by omega
    exact .inr ⟨by decide +kernel, by decide +kernel⟩

/-- The one loader copies what it does not check, the other a size whose sums wrap around. -/
theorem copy_outOfBounds : ¬ InBounds .elf (2 ^ 32) (sampleFile 0x1008 0x2000) ∧
    ¬ InBounds .directPaged (2 ^ 32) (sampleFile 0x1008 0xFFFFFFFFFFFFFFFC) := by
  constructor
  · rintro ⟨-, hinside⟩
    exact hinside (by decide +kernel)
  · rintro ⟨-, hinside⟩
    exact hinside (by decide +kernel)

end Little64.Emulator.ElfImage

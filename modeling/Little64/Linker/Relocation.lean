import Little64.Linker.Link

/-! What a relocation that is accepted does: one field of the image gets new bytes. -/

namespace Little64.Linker

open CheckedAccess LittleEndian Placement

def pcrelField (type : BitVec 32) : Option PcrelField :=
  if type = relPcrel6 then some pcrel6
  else if type = relPcrel10 then some pcrel10
  else if type = relPcrel13 then some pcrel13
  else none

def halfWord (image : Blob) (address : ℕ) : BitVec 16 := assemble 16 (fun i => image.getD (address + i) 0) 2

/-- The bytes that a relocation puts into its field. -/
def fieldBytes (image : Blob) (rel : Reloc) (patchAddr symAddr : Word) (needed : ℕ) : Result Blob :=
  match pcrelField rel.type with
  | some field => do
    let newInstr ← field.encode (halfWord image patchAddr.toNat) symAddr rel.addend patchAddr
    return bytesOf newInstr needed
  | none => return bytesOf (symAddr + rel.addend) needed

/-- A relocation that is applied to an image, and the image after it. -/
structure Applied (globals : GlobalSymbols) (syms : List (ℕ × SymEntry)) (sectionBase : Word) (sectionSize : ℕ)
    (rel : Reloc) (image image' : Blob) (needed symAddr : Word) (bytes : Blob) : Prop where
  size : neededBytes rel.type = some needed
  offset : (rel.offset + needed).toNat ≤ sectionSize
  symbol : resolveSymbol globals syms rel.sym = .ok symAddr
  checked : (sectionBase + rel.offset + needed).toNat ≤ image.length
  inside : (sectionBase + rel.offset).toNat + needed.toNat ≤ image.length
  field : fieldBytes image rel (sectionBase + rel.offset) symAddr needed.toNat = .ok bytes
  patched : image' = patch image (sectionBase + rel.offset).toNat bytes

variable {globals : GlobalSymbols} {syms : List (ℕ × SymEntry)} {sectionBase : Word} {sectionSize : ℕ} {rel : Reloc}
  {image image' : Blob}

lemma patchAbs_ok (needed : Word) {patchAddr value : Word} {name : String} :
    patchAbs image patchAddr value needed.toNat name = .ok image' ↔
      (patchAddr + needed).toNat ≤ image.length ∧ patchAddr.toNat + needed.toNat ≤ image.length ∧
        image' = patch image patchAddr.toNat (bytesOf value needed.toNat) := by
  have hneeded : BitVec.ofNat 64 needed.toNat = needed := BitVec.eq_of_toNat_eq (by simp)
  rw [patchAbs, hneeded, check_eq_ok, write_eq_ok, not_lt]

lemma patchPcrel_ok {patchAddr symAddr addend : Word} {field : PcrelField} :
    patchPcrel image patchAddr symAddr addend field = .ok image' ↔
      (patchAddr + 2).toNat ≤ image.length ∧ patchAddr.toNat + 2 ≤ image.length ∧
        ∃ newInstr, field.encode (halfWord image patchAddr.toNat) symAddr addend patchAddr = .ok newInstr ∧
          image' = patch image patchAddr.toNat (bytesOf newInstr 2) := by
  rw [patchPcrel, check_eq_ok, not_lt]
  apply and_congr_right
  intro _
  constructor
  · intro h
    obtain ⟨instr, hread, h⟩ := bind_eq_ok.1 h
    obtain ⟨hinside, rfl⟩ := read_eq_ok.1 hread
    obtain ⟨newInstr, hencode, h⟩ := bind_eq_ok.1 h
    exact ⟨hinside, newInstr, hencode, (write_eq_ok.1 h).2⟩
  · rintro ⟨hinside, newInstr, hencode, rfl⟩
    apply bind_eq_ok.2
    refine ⟨_, read_eq_ok.2 ⟨hinside, rfl⟩, ?_⟩
    exact bind_eq_ok.2 ⟨newInstr, hencode, write_eq_ok.2 ⟨hinside, rfl⟩⟩

lemma patch_ok {needed symAddr : Word} (hsize : neededBytes rel.type = some needed) :
    (if rel.type = relAbs64 then patchAbs image (sectionBase + rel.offset) (symAddr + rel.addend) 8 "ABS64"
      else if rel.type = relAbs32 then patchAbs image (sectionBase + rel.offset) (symAddr + rel.addend) 4 "ABS32"
      else if rel.type = relPcrel6 then patchPcrel image (sectionBase + rel.offset) symAddr rel.addend pcrel6
      else if rel.type = relPcrel10 then patchPcrel image (sectionBase + rel.offset) symAddr rel.addend pcrel10
      else patchPcrel image (sectionBase + rel.offset) symAddr rel.addend pcrel13) = .ok image' ↔
    (sectionBase + rel.offset + needed).toNat ≤ image.length ∧
      (sectionBase + rel.offset).toNat + needed.toNat ≤ image.length ∧
      ∃ bytes, fieldBytes image rel (sectionBase + rel.offset) symAddr needed.toNat = .ok bytes ∧
        image' = patch image (sectionBase + rel.offset).toNat bytes := by
  have habs (h : pcrelField rel.type = none) :
      (∃ bytes, fieldBytes image rel (sectionBase + rel.offset) symAddr needed.toNat = .ok bytes ∧
        image' = patch image (sectionBase + rel.offset).toNat bytes) ↔
      image' = patch image (sectionBase + rel.offset).toNat (bytesOf (symAddr + rel.addend) needed.toNat) := by
    rw [fieldBytes, h]
    constructor
    · rintro ⟨bytes, hbytes, rfl⟩
      rw [Except.ok.inj hbytes]
    · intro h
      exact ⟨_, rfl, h⟩
  have hpcrel {field : PcrelField} (h : pcrelField rel.type = some field) :
      (∃ bytes, fieldBytes image rel (sectionBase + rel.offset) symAddr needed.toNat = .ok bytes ∧
        image' = patch image (sectionBase + rel.offset).toNat bytes) ↔
      ∃ newInstr, field.encode (halfWord image (sectionBase + rel.offset).toNat) symAddr rel.addend
          (sectionBase + rel.offset) = .ok newInstr ∧
        image' = patch image (sectionBase + rel.offset).toNat (bytesOf newInstr needed.toNat) := by
    rw [fieldBytes, h]
    constructor
    · rintro ⟨bytes, hbytes, rfl⟩
      obtain ⟨newInstr, hencode, hb⟩ := bind_eq_ok.1 hbytes
      exact ⟨newInstr, hencode, by rw [Except.ok.inj hb]⟩
    · rintro ⟨newInstr, hencode, rfl⟩
      exact ⟨_, bind_eq_ok.2 ⟨newInstr, hencode, rfl⟩, rfl⟩
  rw [neededBytes] at hsize
  by_cases h64 : rel.type = relAbs64
  · rw [if_pos h64, Option.some.injEq] at hsize
    subst hsize
    rw [if_pos h64, habs (by rw [h64]; rfl)]
    exact patchAbs_ok 8
  rw [if_neg h64] at hsize
  rw [if_neg h64]
  by_cases h32 : rel.type = relAbs32
  · rw [if_pos h32, Option.some.injEq] at hsize
    subst hsize
    rw [if_pos h32, habs (by rw [h32]; rfl)]
    exact patchAbs_ok 4
  rw [if_neg h32] at hsize
  rw [if_neg h32]
  by_cases h6 : rel.type = relPcrel6
  · rw [if_pos (.inl h6), Option.some.injEq] at hsize
    subst hsize
    rw [if_pos h6, hpcrel (by rw [h6]; rfl)]
    exact patchPcrel_ok
  rw [if_neg h6]
  by_cases h10 : rel.type = relPcrel10
  · rw [if_pos (.inr (.inl h10)), Option.some.injEq] at hsize
    subst hsize
    rw [if_pos h10, hpcrel (by rw [h10]; rfl)]
    exact patchPcrel_ok
  rw [if_neg h10]
  by_cases h13 : rel.type = relPcrel13
  · rw [if_pos (.inr (.inr h13)), Option.some.injEq] at hsize
    subst hsize
    rw [hpcrel (by rw [h13]; rfl)]
    exact patchPcrel_ok
  · rw [if_neg (by tauto)] at hsize
    exact absurd hsize (Option.some_ne_none _).symm

theorem applyReloc_ok : applyReloc globals syms sectionBase sectionSize image rel = .ok image' ↔
    ∃ needed symAddr bytes, Applied globals syms sectionBase sectionSize rel image image' needed symAddr bytes := by
  rw [applyReloc]
  cases hsize : neededBytes rel.type with
  | none =>
    refine iff_of_false (fun h => by cases h) ?_
    rintro ⟨needed, symAddr, bytes, h⟩
    exact absurd (hsize.symm.trans h.size) (Option.some_ne_none _).symm
  | some needed =>
    dsimp only
    rw [check_eq_ok, not_lt]
    constructor
    · rintro ⟨hoffset, h⟩
      obtain ⟨symAddr, hsymbol, h⟩ := bind_eq_ok.1 h
      obtain ⟨hchecked, hinside, bytes, hfield, hpatch⟩ := (patch_ok hsize).1 h
      exact ⟨needed, symAddr, bytes, hsize, hoffset, hsymbol, hchecked, hinside, hfield, hpatch⟩
    · rintro ⟨needed', symAddr, bytes, h⟩
      obtain rfl : needed = needed' := Option.some.inj (hsize.symm.trans h.size)
      refine ⟨h.offset, bind_eq_ok.2 ⟨symAddr, h.symbol, ?_⟩⟩
      exact (patch_ok hsize).2 ⟨h.checked, h.inside, bytes, h.field, h.patched⟩

lemma Applied.length_bytes {needed symAddr : Word} {bytes : Blob}
    (h : Applied globals syms sectionBase sectionSize rel image image' needed symAddr bytes) :
    bytes.length = needed.toNat := by
  have hfield := h.field
  rw [fieldBytes] at hfield
  split at hfield
  · obtain ⟨newInstr, -, hbytes⟩ := bind_eq_ok.1 hfield
    rw [← Except.ok.inj hbytes, length_bytesOf]
  · rw [← Except.ok.inj hfield, length_bytesOf]

end Little64.Linker

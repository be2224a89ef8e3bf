import Little64.Emulator.DataAccess
import Little64.Hdl.InstructionFields
import Little64.Linker.LinkLayout

/-! The PC-relative fields that the linker writes and the addresses that the emulator computes from them. -/

namespace Little64.Linker

open CheckedAccess LittleEndian Placement
open Emulator (Cpu Instruction LsOpcode)
open Hdl (instructionTop2 instructionTop3 decode_lsReg decode_lsPcRel decode_lsPcRel_jump decode_ldi decode_jump
  decode_gp)

/-- What the emulator does with the effective address of a PC-relative instruction. -/
inductive Uses (s : Cpu) (instr : Instruction) (target : Word) : Prop
  | jump : s.dispatchInstruction instr = s.setReg 15 target → Uses s instr target
  | branch : s.dispatchInstruction instr =
      (if Cpu.checkCondition s.registers.flags (LsOpcode.ofBits instr.opcodeLs) then s.setReg 15 target else s) →
        Uses s instr target
  | move : s.dispatchInstruction instr = s.setReg instr.rd target → Uses s instr target
  | load (width : ℕ) : s.dataAccess instr = .load width instr.rd target → Uses s instr target
  | store (width : ℕ) : s.dataAccess instr = .store width target → Uses s instr target
  | pushFrom : s.dataAccess instr = .pushFrom instr.rd target → Uses s instr target
  | popTo : s.dataAccess instr = .popTo instr.rd target → Uses s instr target

/-- The instructions whose format has the field of a relocation type. -/
def CarriedBy (type : BitVec 32) (instr : Instruction) : Prop :=
  (type = relPcrel6 ∧ instr.format = 1 ∧ ¬ 11 ≤ instr.opcodeLs) ∨
    (type = relPcrel10 ∧ instr.format = 1 ∧ 11 ≤ instr.opcodeLs) ∨
    (type = relPcrel13 ∧ instr.format = 3 ∧ instr.isUnconditionalJump = true)

/-- The emulator finds the target in the new half-word, and the bits beside the field are the old ones. -/
structure FieldAgrees (type : BitVec 32) (field : PcrelField) (patchAddr target : Word) (old new : BitVec 16) : Prop where
  carried : CarriedBy type (Instruction.decode new)
  effective : ∀ s : Cpu, s.reg 15 = patchAddr + 2 →
    s.reg 15 + (Instruction.decode new).pcRel.signExtend 64 * 2 = target ∧ Uses s (Instruction.decode new) target
  kept : ∀ k, ¬ (field.low ≤ k ∧ k < field.low + field.width) → new.getLsbD k = old.getLsbD k

section Encoding

variable {field : PcrelField} {old new : BitVec 16} {symAddr addend patchAddr : Word}

lemma halves {diff : Word} (h : diff.srem 2 = 0) : diff.sdiv 2 * 2 = diff := by
  have hrem : diff.toInt.tmod 2 = 0 := by
    have hi := congrArg BitVec.toInt h
    rw [BitVec.toInt_srem] at hi
    exact hi
  have hdiv : (diff.sdiv 2).toInt = diff.toInt.tdiv 2 := BitVec.toInt_sdiv_of_ne_or_ne _ _ (.inr (by decide))
  have hprod : diff.toInt.tdiv 2 * 2 = diff.toInt := by
    have hsum := Int.mul_tdiv_add_tmod diff.toInt 2
    rw [hrem, add_zero, mul_comm] at hsum
    exact hsum
  apply BitVec.eq_of_toInt_eq
  rw [BitVec.toInt_mul, hdiv]
  change (diff.toInt.tdiv 2 * 2).bmod (2 ^ 64) = _
  rw [hprod, BitVec.toInt_bmod_cancel]

/-- The distance that a field counts, in half-words. -/
def relVal (symAddr addend patchAddr : Word) : Word := (symAddr + addend - (patchAddr + 2)).sdiv 2

lemma encode_ok : field.encode old symAddr addend patchAddr = .ok new ↔
    field.carries old = true ∧ (symAddr + addend - (patchAddr + 2)).srem 2 = 0 ∧
      ¬ ((relVal symAddr addend patchAddr).slt (-(BitVec.ofNat 64 (2 ^ (field.width - 1)))) ||
        (BitVec.ofNat 64 (2 ^ (field.width - 1) - 1)).slt (relVal symAddr addend patchAddr)) ∧
      new = field.insert old (relVal symAddr addend patchAddr) := by
  unfold PcrelField.encode
  rw [check_eq_ok]
  dsimp only
  rw [check_eq_ok, check_eq_ok, not_not, Bool.not_eq_true', Bool.not_eq_false]
  exact and_congr_right fun _ => and_congr_right fun _ => and_congr_right fun _ =>
    ⟨fun h => (Except.ok.inj h).symm, fun h => congrArg Except.ok h.symm⟩

lemma getLsbD_insert (relVal : Word) (k : ℕ) (hk : k < 16) : (field.insert old relVal).getLsbD k =
    if field.low ≤ k ∧ k < field.low + field.width then relVal.getLsbD (k - field.low) else old.getLsbD k := by
  rw [PcrelField.insert]
  change ((old &&& ~~~(BitFields.lowMask 16 field.width <<< field.low)) |||
    ((relVal.setWidth 16 &&& BitFields.lowMask 16 field.width) <<< field.low)).getLsbD k = _
  rw [BitFields.getLsbD_insert _ _ _ _ _ hk, BitVec.getLsbD_setWidth]
  have hsub : k - field.low < 16 := by omega
  rw [decide_eq_true hsub, Bool.true_and]

lemma extract_insert (relVal : Word) (hfield : field.low + field.width ≤ 16) :
    (field.insert old relVal).extractLsb' field.low field.width = relVal.setWidth field.width := by
  apply BitVec.eq_of_getLsbD_eq
  intro k hk
  rw [BitVec.getLsbD_extractLsb', BitVec.getLsbD_setWidth, getLsbD_insert _ _ (by omega), if_pos (by omega),
    Nat.add_sub_cancel_left]

lemma extract_kept {low width : ℕ} (h : ∀ k, low ≤ k → k < low + width → new.getLsbD k = old.getLsbD k) :
    new.extractLsb' low width = old.extractLsb' low width := by
  apply BitVec.eq_of_getLsbD_eq
  intro k hk
  rw [BitVec.getLsbD_extractLsb', BitVec.getLsbD_extractLsb', h (low + k) (by omega) (by omega)]

section Fields

variable {raw : BitVec 16}

lemma decode_format : (Instruction.decode raw).format = instructionTop2 raw := by
  have htop : instructionTop2 raw = 0 ∨ instructionTop2 raw = 1 ∨ instructionTop2 raw = 2 ∨ instructionTop2 raw = 3 := by
    generalize instructionTop2 raw = top
    revert top
    decide
  rcases htop with h | h | h | h
  · rw [decode_lsReg h, h]
  · by_cases hj : 11 ≤ raw.extractLsb' 10 4
    · rw [decode_lsPcRel_jump h hj, h]
    · rw [decode_lsPcRel h hj, h]
  · rw [decode_ldi h, h]
  · by_cases h7 : instructionTop3 raw = 7
    · rw [decode_jump h h7, h]
    · rw [decode_gp h h7, h]

lemma opcodeLs_pcRel (h : instructionTop2 raw = 1) : (Instruction.decode raw).opcodeLs = raw.extractLsb' 10 4 := by
  by_cases hj : 11 ≤ raw.extractLsb' 10 4
  · rw [decode_lsPcRel_jump h hj]
  · rw [decode_lsPcRel h hj]

lemma top2_of_top3 (h : instructionTop3 raw = 7) : instructionTop2 raw = 3 := by
  have hpart : instructionTop2 raw = (instructionTop3 raw).extractLsb' 1 2 := by
    apply BitVec.eq_of_getLsbD_eq
    intro k hk
    have hk' : 1 + k < 3 := by omega
    simp [instructionTop2, instructionTop3, hk, hk', ← Nat.add_assoc]
  rw [hpart, h]
  rfl

lemma jump_iff : instructionTop2 raw = 3 ∧ (Instruction.decode raw).isUnconditionalJump = true ↔
    instructionTop3 raw = 7 := by
  constructor
  · rintro ⟨h, hjump⟩
    by_contra h7
    rw [decode_gp h h7] at hjump
    cases hjump
  · intro h7
    have h := top2_of_top3 h7
    exact ⟨h, by rw [decode_jump h h7]⟩

lemma carriedBy_iff {type : BitVec 32} : CarriedBy type (Instruction.decode raw) ↔
    (type = relPcrel6 ∧ instructionTop2 raw = 1 ∧ ¬ 11 ≤ raw.extractLsb' 10 4) ∨
    (type = relPcrel10 ∧ instructionTop2 raw = 1 ∧ 11 ≤ raw.extractLsb' 10 4) ∨
    (type = relPcrel13 ∧ instructionTop3 raw = 7) := by
  rw [CarriedBy, decode_format, jump_iff]
  apply or_congr
  · apply and_congr_right
    intro _
    exact and_congr_right fun h => by rw [opcodeLs_pcRel h]
  · apply or_congr_left
    apply and_congr_right
    intro _
    exact and_congr_right fun h => by rw [opcodeLs_pcRel h]

end Fields

lemma field_cases {type : BitVec 32} (h : pcrelField type = some field) :
    (type = relPcrel6 ∧ field = pcrel6) ∨ (type = relPcrel10 ∧ field = pcrel10) ∨
      (type = relPcrel13 ∧ field = pcrel13) := by
  rw [pcrelField] at h
  split at h
  · exact .inl ⟨‹_›, (Option.some.inj h).symm⟩
  split at h
  · exact .inr (.inl ⟨‹_›, (Option.some.inj h).symm⟩)
  split at h
  · exact .inr (.inr ⟨‹_›, (Option.some.inj h).symm⟩)
  · cases h

lemma carriedBy_insert {type : BitVec 32} (h : pcrelField type = some field) (distance : Word) :
    CarriedBy type (Instruction.decode (field.insert old distance)) ↔ CarriedBy type (Instruction.decode old) := by
  have hkept (low width : ℕ) (hbehind : field.low + field.width ≤ low) (hword : low + width ≤ 16) :
      (field.insert old distance).extractLsb' low width = old.extractLsb' low width := by
    apply extract_kept
    intro k hlow hk
    rw [getLsbD_insert _ _ (by omega), if_neg (by omega)]
  rw [carriedBy_iff, carriedBy_iff]
  rcases field_cases h with ⟨rfl, rfl⟩ | ⟨rfl, rfl⟩ | ⟨rfl, rfl⟩
  · have h10 : relPcrel6 ≠ relPcrel10 := by decide
    have h13 : relPcrel6 ≠ relPcrel13 := by decide
    rw [instructionTop2, instructionTop2, hkept 14 2 (by decide) (by decide), hkept 10 4 (by decide) (by decide)]
    simp only [h10, h13, false_and, or_false]
  · have h6 : relPcrel10 ≠ relPcrel6 := by decide
    have h13 : relPcrel10 ≠ relPcrel13 := by decide
    rw [instructionTop2, instructionTop2, hkept 14 2 (by decide) (by decide), hkept 10 4 (by decide) (by decide)]
    simp only [h6, h13, false_and, or_false]
  · have h6 : relPcrel13 ≠ relPcrel6 := by decide
    have h10 : relPcrel13 ≠ relPcrel10 := by decide
    rw [instructionTop3, instructionTop3, hkept 13 3 (by decide) (by decide)]
    simp only [h6, h10, false_and, false_or]

lemma pcRel_carried {type : BitVec 32} (h : pcrelField type = some field) {raw : BitVec 16}
    (hcarried : CarriedBy type (Instruction.decode raw)) :
    (Instruction.decode raw).pcRel = (raw.extractLsb' field.low field.width).signExtend 16 := by
  rw [carriedBy_iff] at hcarried
  rcases field_cases h with ⟨rfl, rfl⟩ | ⟨rfl, rfl⟩ | ⟨rfl, rfl⟩
  · rcases hcarried with ⟨-, htop, hop⟩ | ⟨htype, -⟩ | ⟨htype, -⟩
    · rw [decode_lsPcRel htop hop]
      rfl
    · exact absurd htype (by decide)
    · exact absurd htype (by decide)
  · rcases hcarried with ⟨htype, -⟩ | ⟨-, htop, hop⟩ | ⟨htype, -⟩
    · exact absurd htype (by decide)
    · rw [decode_lsPcRel_jump htop hop]
      rfl
    · exact absurd htype (by decide)
  · rcases hcarried with ⟨htype, -⟩ | ⟨htype, -⟩ | ⟨-, htop⟩
    · exact absurd htype (by decide)
    · exact absurd htype (by decide)
    · rw [decode_jump (top2_of_top3 htop) htop]
      rfl

/-- The emulator uses the effective address of an instruction with such a field. -/
lemma uses_effective {type : BitVec 32} {instr : Instruction} (hcarried : CarriedBy type instr) (s : Cpu) :
    Uses s instr (s.reg 15 + instr.pcRel.signExtend 64 * 2) := by
  have hpcRel (hformat : instr.format = 1) : Uses s instr (s.reg 15 + instr.pcRel.signExtend 64 * 2) := by
    have hdispatch : s.dispatchInstruction instr = s.dispatchLSPCRel instr := by
      rw [Cpu.dispatchInstruction, hformat]
      rfl
    have haccess : s.dataAccess instr = s.lsPCRelAccess instr := by
      rw [Cpu.dataAccess, hformat]
      rfl
    rw [Cpu.lsPCRelAccess] at haccess
    rw [Cpu.dispatchLSPCRel] at hdispatch
    dsimp only at haccess hdispatch
    cases hop : LsOpcode.ofBits instr.opcodeLs with
    | load => exact .load 64 (by rw [haccess, hop])
    | store => exact .store 64 (by rw [haccess, hop])
    | push => exact .pushFrom (by rw [haccess, hop])
    | pop => exact .popTo (by rw [haccess, hop])
    | move => exact .move (by rw [hdispatch, hop])
    | byteLoad => exact .load 8 (by rw [haccess, hop])
    | byteStore => exact .store 8 (by rw [haccess, hop])
    | shortLoad => exact .load 16 (by rw [haccess, hop])
    | shortStore => exact .store 16 (by rw [haccess, hop])
    | wordLoad => exact .load 32 (by rw [haccess, hop])
    | wordStore => exact .store 32 (by rw [haccess, hop])
    | jumpZ => exact .branch (by rw [hdispatch, hop])
    | jumpC => exact .branch (by rw [hdispatch, hop])
    | jumpS => exact .branch (by rw [hdispatch, hop])
    | jumpGT => exact .branch (by rw [hdispatch, hop])
    | jumpLT => exact .branch (by rw [hdispatch, hop])
  rcases hcarried with ⟨-, hformat, -⟩ | ⟨-, hformat, -⟩ | ⟨-, hformat, hjump⟩
  · exact hpcRel hformat
  · exact hpcRel hformat
  · apply Uses.jump
    rw [Cpu.dispatchInstruction, hformat]
    exact if_pos hjump

lemma carried_of_check {type : BitVec 32} (h : pcrelField type = some field) (hcheck : field.carries old = true)
    (hne : type ≠ relPcrel6) : CarriedBy type (Instruction.decode old) := by
  rw [carriedBy_iff]
  rcases field_cases h with ⟨htype, -⟩ | ⟨rfl, rfl⟩ | ⟨rfl, rfl⟩
  · exact absurd htype hne
  · have hparts : old >>> 14 = 1 ∧ 11 ≤ (old >>> 10) &&& 0xF := by
      change (old >>> 14 == 1 && decide (11 ≤ (old >>> 10) &&& 0xF)) = true at hcheck
      rw [Bool.and_eq_true, beq_iff_eq, decide_eq_true_iff] at hcheck
      exact hcheck
    obtain ⟨htop, hop⟩ := hparts
    refine .inr (.inl ⟨rfl, ?_, ?_⟩)
    · rw [← Hdl.format_eq, htop]
      rfl
    · have hvalue : ((old >>> 10) &&& BitFields.lowMask 16 4).toNat = (old.extractLsb' 10 4).toNat := by
        rw [BitFields.toNat_and_lowMask, BitVec.extractLsb'_toNat, BitVec.toNat_ushiftRight]
      rw [BitVec.le_def] at hop ⊢
      exact hvalue ▸ hop
  · have htop : old >>> 13 = 7 := eq_of_beq hcheck
    refine .inr (.inr ⟨rfl, ?_⟩)
    rw [instructionTop3, ← BitFields.extractLsb'_eq, htop]
    rfl

lemma distance_extends {type : BitVec 32} (h : pcrelField type = some field) {distance : Word}
    (hrange : ¬ (distance.slt (-(BitVec.ofNat 64 (2 ^ (field.width - 1)))) ||
      (BitVec.ofNat 64 (2 ^ (field.width - 1) - 1)).slt distance)) :
    ((distance.setWidth field.width).signExtend 16).signExtend 64 = distance := by
  have hbounds {low high : Word} (hr : ¬ (distance.slt low || high.slt distance)) :
      low.toInt ≤ distance.toInt ∧ distance.toInt ≤ high.toInt := by
    rw [Bool.or_eq_true, not_or, BitVec.slt_iff_toInt_lt, BitVec.slt_iff_toInt_lt, not_lt, not_lt] at hr
    exact hr
  obtain ⟨hlow, hhigh⟩ := hbounds hrange
  rcases field_cases h with ⟨-, rfl⟩ | ⟨-, rfl⟩ | ⟨-, rfl⟩
  · rw [BitFields.signExtend_signExtend (by decide)]
    exact BitFields.signExtend_setWidth_of_range distance 5 (by decide) hlow (Int.lt_add_one_of_le hhigh)
  · rw [BitFields.signExtend_signExtend (by decide)]
    exact BitFields.signExtend_setWidth_of_range distance 9 (by decide) hlow (Int.lt_add_one_of_le hhigh)
  · rw [BitFields.signExtend_signExtend (by decide)]
    exact BitFields.signExtend_setWidth_of_range distance 12 (by decide) hlow (Int.lt_add_one_of_le hhigh)

theorem fieldAgrees_iff {type : BitVec 32} (h : pcrelField type = some field)
    (hencode : field.encode old symAddr addend patchAddr = .ok new) :
    FieldAgrees type field patchAddr (symAddr + addend) old new ↔ CarriedBy type (Instruction.decode old) := by
  obtain ⟨-, heven, hrange, rfl⟩ := encode_ok.1 hencode
  constructor
  · intro hagrees
    exact (carriedBy_insert h _).1 hagrees.carried
  · intro hcarried
    have hnew := (carriedBy_insert h (relVal symAddr addend patchAddr)).2 hcarried
    have hword : field.low + field.width ≤ 16 := by
      rcases field_cases h with ⟨-, rfl⟩ | ⟨-, rfl⟩ | ⟨-, rfl⟩ <;> decide
    refine ⟨hnew, ?_, ?_⟩
    · intro s hpc
      have htarget : s.reg 15 + (Instruction.decode (field.insert old (relVal symAddr addend patchAddr))).pcRel.signExtend
          64 * 2 = symAddr + addend := by
        rw [pcRel_carried h hnew, extract_insert _ hword, distance_extends h hrange, hpc, relVal, halves heven]
        exact add_sub_cancel _ _
      exact ⟨htarget, htarget ▸ uses_effective hnew s⟩
    · intro k hk
      rcases Nat.lt_or_ge k 16 with hlt | hge
      · rw [getLsbD_insert _ _ hlt, if_neg hk]
      · rw [BitVec.getLsbD_of_ge _ _ hge, BitVec.getLsbD_of_ge _ _ hge]

end Encoding

section Runs

variable {objs : List (ObjectContext × ObjLayout)} {globals : GlobalSymbols} {linked linked' : Blob}

/-- A PC-relative relocation at its turn in a link. -/
structure PcrelPatch (objs : List (ObjectContext × ObjLayout)) where
  before : List LinkStep
  behind : List LinkStep
  syms : List (ℕ × SymEntry)
  base : Word
  size : ℕ
  rel : Reloc
  field : PcrelField
  symAddr : Word
  image : Blob
  image' : Blob
  split : linkSteps objs = before ++ .patch syms base size rel :: behind
  typed : pcrelField rel.type = some field
  resolved : resolveSymbol (globalSymbols objs) syms rel.sym = .ok symAddr
  reached : before.foldlM (perform (globalSymbols objs)) [] = .ok image
  applied : perform (globalSymbols objs) image (.patch syms base size rel) = .ok image'

namespace PcrelPatch

variable (p : PcrelPatch objs)

def address : Word := p.base + p.rel.offset

def old : BitVec 16 := halfWord p.image p.address.toNat

def new : BitVec 16 := halfWord p.image' p.address.toNat

/-- The emulator computes symbol plus addend from the patched half-word, whose other bits are the old ones. -/
def Agrees : Prop := FieldAgrees p.rel.type p.field p.address (p.symAddr + p.rel.addend) p.old p.new

/-- No relocation behind this one patches the same bytes. -/
def Stays : Prop := ∀ step ∈ p.behind, step.Patches fun k => k ≠ p.address.toNat ∧ k ≠ p.address.toNat + 1

end PcrelPatch

lemma halfWord_patch {image : Blob} {a : ℕ} (v : BitVec 16) (h : a + 2 ≤ image.length) :
    halfWord (patch image a (bytesOf v 2)) a = v := by
  have hbyte {i : ℕ} (hi : i < 2) : (patch image a (bytesOf v 2)).getD (a + i) 0 = byteAt v i := by
    rw [List.getD_eq_getElem?_getD, getElem?_patch (by rw [length_bytesOf]; exact h), length_bytesOf, if_pos (by omega),
      Nat.add_sub_cancel_left, getElem?_bytesOf v hi]
    rfl
  rw [halfWord, assemble_congr fun i hi => hbyte hi]
  exact lowBytes_all 2 v (by decide)

lemma kept_step {step : LinkStep} {k : ℕ} (hk : k < linked.length) (hpatches : step.Patches fun j => j ≠ k)
    (h : perform globals linked step = .ok linked') : linked'[k]? = linked[k]? ∧ k < linked'.length := by
  have hgrown {l t : Blob} (hl : k < l.length) : (l ++ t)[k]? = l[k]? ∧ k < (l ++ t).length :=
    ⟨List.getElem?_append_left hl, by rw [List.length_append]; omega⟩
  have heven : (padEven linked)[k]? = linked[k]? ∧ k < (padEven linked).length := by
    rw [padEven]
    split
    · exact hgrown hk
    · exact ⟨rfl, hk⟩
  have hto {l : Blob} (bytes : Blob) (n : ℕ) (hl : k < l.length) :
      (padTo l n ++ bytes)[k]? = l[k]? ∧ k < (padTo l n ++ bytes).length := by
    rw [padTo, List.append_assoc]
    exact hgrown hl
  cases step with
  | start base bytes =>
    rw [perform] at h
    split at h
    · cases h
    · rw [← Except.ok.inj h]
      obtain ⟨hsame, hlt⟩ := hto bytes base.toNat heven.2
      exact ⟨hsame.trans heven.1, hlt⟩
  | align =>
    rw [← Except.ok.inj h]
    exact heven
  | append base bytes =>
    rw [← Except.ok.inj h]
    exact hto bytes base.toNat hk
  | patch syms base size rel =>
    obtain ⟨needed, symAddr, bytes, happ⟩ := applyReloc_ok.1 h
    have hinside := happ.inside
    rw [← happ.length_bytes] at hinside
    rw [happ.patched, length_patch hinside, getElem?_patch hinside, if_neg]
    · exact ⟨rfl, hk⟩
    · rintro ⟨hle, hlt⟩
      rw [happ.length_bytes] at hlt
      exact hpatches needed happ.size k hle hlt rfl

lemma kept_steps {steps : List LinkStep} {k : ℕ} (hk : k < linked.length)
    (hpatches : ∀ step ∈ steps, step.Patches fun j => j ≠ k) (h : steps.foldlM (perform globals) linked = .ok linked') :
    linked'[k]? = linked[k]? ∧ k < linked'.length := by
  induction steps generalizing linked with
  | nil =>
    obtain rfl := Except.ok.inj h
    exact ⟨rfl, hk⟩
  | cons step steps ih =>
    rw [List.foldlM_cons] at h
    obtain ⟨middle, hstep, hrest⟩ := bind_eq_ok.1 h
    obtain ⟨hsame, hlt⟩ := kept_step hk (hpatches step List.mem_cons_self) hstep
    obtain ⟨hsame', hlt'⟩ := ih hlt (fun s hs => hpatches s (List.mem_cons_of_mem _ hs)) hrest
    exact ⟨hsame'.trans hsame, hlt'⟩

lemma needed_of_typed {type : BitVec 32} {field : PcrelField} (h : pcrelField type = some field) :
    neededBytes type = some 2 := by
  rcases field_cases h with ⟨rfl, -⟩ | ⟨rfl, -⟩ | ⟨rfl, -⟩ <;> rfl

namespace PcrelPatch

variable (p : PcrelPatch objs)

lemma encoded : p.field.encode p.old p.symAddr p.rel.addend p.address = .ok p.new ∧
    p.address.toNat + 2 ≤ p.image'.length := by
  obtain ⟨needed, symAddr, bytes, happ⟩ := applyReloc_ok.1 p.applied
  obtain rfl : symAddr = p.symAddr := Except.ok.inj (happ.symbol.symm.trans p.resolved)
  obtain rfl : needed = 2 := Option.some.inj (happ.size.symm.trans (needed_of_typed p.typed))
  have hinside : p.address.toNat + 2 ≤ p.image.length := happ.inside
  have hfield := happ.field
  rw [fieldBytes, p.typed] at hfield
  obtain ⟨newInstr, hencode, hbytes⟩ := bind_eq_ok.1 hfield
  have himage : p.image' = patch p.image p.address.toNat (bytesOf newInstr 2) := by
    rw [happ.patched, ← Except.ok.inj hbytes]
    rfl
  have hnew : p.new = newInstr := by
    rw [new, himage]
    exact halfWord_patch newInstr hinside
  rw [hnew, himage, length_patch (by rw [length_bytesOf]; exact hinside)]
  exact ⟨hencode, hinside⟩

theorem agrees_iff : p.Agrees ↔ CarriedBy p.rel.type (Instruction.decode p.old) :=
  fieldAgrees_iff p.typed p.encoded.1

/-- Each PC-relative relocation of a link has its turn. -/
theorem exists_of_mem {object : ObjectContext × ObjLayout} {s : PlacedSection} {rel : Reloc} {field : PcrelField}
    (h : objs.foldlM (linkObject (globalSymbols objs)) [] = .ok linked) (hobject : object ∈ objs)
    (hs : s ∈ sections object) (hrel : rel ∈ s.relocs) (htyped : pcrelField rel.type = some field) :
    ∃ p : PcrelPatch objs, p.rel = rel ∧ p.base = s.base ∧ p.syms = object.1.syms := by
  rw [foldlM_linkObject] at h
  obtain ⟨before, behind, hsplit⟩ := List.append_of_mem (patch_mem_linkSteps hobject hs hrel)
  rw [hsplit, List.foldlM_append] at h
  obtain ⟨image, hbefore, h⟩ := bind_eq_ok.1 h
  rw [List.foldlM_cons] at h
  obtain ⟨image', hstep, -⟩ := bind_eq_ok.1 h
  obtain ⟨needed, symAddr, bytes, happ⟩ := applyReloc_ok.1 hstep
  exact ⟨⟨before, behind, object.1.syms, s.base, s.bytes.length, rel, field, symAddr, image, image', hsplit, htyped,
    happ.symbol, hbefore, hstep⟩, rfl, rfl, rfl⟩

/-- The half-word is in the output, unless a later relocation patches it again. -/
theorem stays_in_output (h : objs.foldlM (linkObject (globalSymbols objs)) [] = .ok linked) (hstays : p.Stays) :
    halfWord (bytesOfWords (toWords linked)) p.address.toNat = p.new := by
  rw [foldlM_linkObject, p.split, List.foldlM_append] at h
  obtain ⟨image, hbefore, h⟩ := bind_eq_ok.1 h
  obtain rfl := Except.ok.inj (hbefore.symm.trans p.reached)
  rw [List.foldlM_cons] at h
  obtain ⟨image', hstep, h⟩ := bind_eq_ok.1 h
  obtain rfl := Except.ok.inj (hstep.symm.trans p.applied)
  have hinside := p.encoded.2
  have hkept {k : ℕ} (hk : k = p.address.toNat ∨ k = p.address.toNat + 1) :
      linked[k]? = p.image'[k]? ∧ k < linked.length := by
    apply kept_steps (by omega) _ h
    intro step hmem
    have hnot := hstays step hmem
    cases step with
    | patch syms base size rel =>
      intro needed hneeded j hle hlt
      obtain ⟨h0, h1⟩ := hnot needed hneeded j hle hlt
      rcases hk with rfl | rfl
      · exact h0
      · exact h1
    | _ => trivial
  rw [bytesOfWords_toWords, halfWord, new, halfWord]
  apply assemble_congr
  intro i hi
  obtain ⟨hsame, hlt⟩ := hkept (k := p.address.toNat + i) (by omega)
  rw [List.getD_eq_getElem?_getD, List.getD_eq_getElem?_getD, getElem?_padEven_of_ne hlt.ne, hsame]

end PcrelPatch

/-- The PC-relative relocations of an accepted link. -/
def AllPatches (files : List Blob) (holds : ∀ {objs : List (ObjectContext × ObjLayout)}, PcrelPatch objs → Prop) : Prop :=
  ∀ out, linkObjectsInternal files = .ok out → ∀ p : PcrelPatch (placedObjects (parsed files)), holds p

/-- Each PC-relative relocation of an accepted link has its turn, and its half-word stays unless a later relocation
patches the same bytes; all of them agree with the emulator exactly if each half-word under a PCREL6 relocation is a
PC-relative instruction other than a jump. -/
theorem pcrel_agrees_iff (files : List Blob) :
    (∀ out, linkObjectsInternal files = .ok out →
      (∀ object ∈ placedObjects (parsed files), ∀ s ∈ sections object, ∀ rel ∈ s.relocs,
        pcrelField rel.type ≠ none → ∃ p : PcrelPatch (placedObjects (parsed files)),
          p.rel = rel ∧ p.base = s.base ∧ p.syms = object.1.syms) ∧
      ∀ p : PcrelPatch (placedObjects (parsed files)), p.Stays →
        halfWord (bytesOfWords out.words) p.address.toNat = p.new) ∧
    (AllPatches files PcrelPatch.Agrees ↔
      AllPatches files fun p => p.rel.type = relPcrel6 → CarriedBy relPcrel6 (Instruction.decode p.old)) := by
  refine ⟨?_, ?_⟩
  · intro out hlink
    obtain ⟨-, linked, hlinked, rfl⟩ := linkObjectsInternal_ok hlink
    constructor
    · intro object hobject s hs rel hrel htyped
      obtain ⟨field, hfield⟩ := Option.ne_none_iff_exists'.1 htyped
      exact PcrelPatch.exists_of_mem hlinked hobject hs hrel hfield
    · intro p hstays
      exact p.stays_in_output hlinked hstays
  · constructor
    · intro h out hlink p hsix
      exact hsix ▸ p.agrees_iff.1 (h out hlink p)
    · intro h out hlink p
      apply p.agrees_iff.2
      by_cases hsix : p.rel.type = relPcrel6
      · exact hsix.symm ▸ h out hlink p hsix
      · exact carried_of_check p.typed (encode_ok.1 p.encoded.1).1 hsix

/-- A PCREL6 relocation at a `STOP`: the link succeeds, and the word has become an `LSR`. -/
theorem stop_patched :
    let file := objectFile [0x00, 0xDF, 0x00, 0xDF] [⟨0, 1, relPcrel6, 0⟩] [⟨[0x66], 2, 1, 2⟩]
    linkObjectsInternal [file] = .ok ⟨[0xDC00, 0xDF00], none⟩ ∧ ¬ AllPatches [file] PcrelPatch.Agrees := by
  intro file
  have hlink : linkObjectsInternal [file] = .ok ⟨[0xDC00, 0xDF00], none⟩ := by decide +kernel
  refine ⟨hlink, fun h => ?_⟩
  let p : PcrelPatch (placedObjects (parsed [file])) :=
    { before := [.start 0 [0x00, 0xDF, 0x00, 0xDF]]
      behind := [.append 4 [], .append 4 []]
      syms := [(1, ⟨[0x66], 2, 1, 2⟩)]
      base := 0
      size := 4
      rel := ⟨0, 1, relPcrel6, 0⟩
      field := pcrel6
      symAddr := 2
      image := [0x00, 0xDF, 0x00, 0xDF]
      image' := [0x00, 0xDC, 0x00, 0xDF]
      split := by decide +kernel
      typed := rfl
      resolved := by decide +kernel
      reached := by decide +kernel
      applied := by decide +kernel }
  have hcarried := p.agrees_iff.1 (h _ hlink p)
  have hstop : p.old = 0xDF00 := by decide
  rw [hstop, carriedBy_iff] at hcarried
  exact absurd hcarried (by decide)

end Runs

end Little64.Linker

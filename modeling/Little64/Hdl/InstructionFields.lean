import Little64.Emulator.Instruction
import Little64.Hdl.ExecuteStage
import Little64.Library.BitFields

/-! The fields of an instruction word, as the emulator decodes them and as the cores cut them out. -/

namespace Little64.Hdl

open Emulator (Reg Instruction)

variable {raw : BitVec 16}

open BitFields (extractLsb'_eq)

lemma format_eq : (raw >>> 14).setWidth 2 = instructionTop2 raw := extractLsb'_eq raw 14 2

lemma decode_lsReg (h : instructionTop2 raw = 0) :
    Instruction.decode raw =
      ⟨0, instructionRd raw, raw.extractLsb' 10 4, instructionLsOffset2 raw, instructionRs1 raw, 0, 0, 0, false, 0⟩ := by
  simp only [Instruction.decode, format_eq, h]
  rw [extractLsb'_eq, extractLsb'_eq, extractLsb'_eq]
  rfl

lemma decode_lsPcRel_jump (h : instructionTop2 raw = 1) (hj : 11 ≤ raw.extractLsb' 10 4) :
    Instruction.decode raw =
      ⟨1, 15, raw.extractLsb' 10 4, 0, 0, (raw.extractLsb' 0 10).signExtend 16, 0, 0, false, 0⟩ := by
  have hspread : (if raw &&& 0x3FF &&& 0x200 ≠ 0 then raw &&& 0x3FF ||| 0xFC00 else raw &&& 0x3FF) =
      (raw.extractLsb' 0 10).signExtend 16 :=
    BitFields.spread_lowMask 10 raw 0xFC00 (by decide) (by decide) (by decide)
  simp only [Instruction.decode, format_eq, h, hspread]
  rw [extractLsb'_eq]
  exact if_pos hj

lemma decode_lsPcRel (h : instructionTop2 raw = 1) (hj : ¬ 11 ≤ raw.extractLsb' 10 4) :
    Instruction.decode raw =
      ⟨1, instructionRd raw, raw.extractLsb' 10 4, 0, 0, (raw.extractLsb' 4 6).signExtend 16, 0, 0, false, 0⟩ := by
  generalize hx : ((raw >>> 4).setWidth 8 : BitVec 8) = x
  have hfield : (raw >>> 4 &&& 0x3F).setWidth 8 = x &&& 0x3F := by
    rw [← hx]
    ext i hi
    simp
  have hlow : x.extractLsb' 0 6 = raw.extractLsb' 4 6 := by
    rw [← hx]
    ext i hi
    simp [Nat.lt_trans hi (by decide : 6 < 8)]
  have hspread : (if x &&& 0x3F &&& 0x20 ≠ 0 then x &&& 0x3F ||| 0xC0 else x &&& 0x3F) =
      (x.extractLsb' 0 6).signExtend 8 :=
    BitFields.spread_lowMask 6 x 0xC0 (by decide) (by decide) (by decide)
  have hmsb : (x &&& 0x3F).msb = false := by
    rw [BitVec.msb_and]
    exact Bool.and_false _
  have hwide : (if x &&& 0x3F &&& 0x20 ≠ 0 then (x &&& 0x3F ||| 0xC0).signExtend 16 else (x &&& 0x3F).setWidth 16) =
      (raw.extractLsb' 4 6).signExtend 16 := by
    rw [← hlow, ← BitFields.signExtend_signExtend (by decide : 6 ≤ 8), ← hspread]
    split
    · rfl
    · exact (BitVec.signExtend_eq_setWidth_of_msb_false hmsb).symm
  simp only [Instruction.decode, format_eq, h, hfield, hwide]
  rw [extractLsb'_eq, extractLsb'_eq]
  exact if_neg hj

lemma decode_ldi (h : instructionTop2 raw = 2) :
    Instruction.decode raw =
      ⟨2, instructionRd raw, 0, 0, 0, 0, instructionLdiShift raw, instructionLdiImm8 raw, false, 0⟩ := by
  simp only [Instruction.decode, format_eq, h]
  rw [extractLsb'_eq, extractLsb'_eq]
  rfl

lemma top3_eq (h : instructionTop2 raw = 3) : raw >>> 13 &&& 1 ≠ 0 ↔ instructionTop3 raw = 7 := by
  have h14 : raw.getLsbD 14 = true := by simpa [instructionTop2] using congrArg (fun f => f.getLsbD 0) h
  have h15 : raw.getLsbD 15 = true := by simpa [instructionTop2] using congrArg (fun f => f.getLsbD 1) h
  have hbit : (raw >>> 13 &&& 1 != 0) = (raw >>> 13).getLsbD 0 := BitFields.and_bit_ne_zero (raw >>> 13) 0 (by decide)
  rw [← bne_iff_ne, hbit, BitVec.getLsbD_ushiftRight]
  constructor
  · intro h13
    rw [instructionTop3]
    ext i hi
    interval_cases i <;> simp_all
  · intro h7
    simpa [instructionTop3] using congrArg (fun f => f.getLsbD 0) h7

lemma decode_jump (h : instructionTop2 raw = 3) (h7 : instructionTop3 raw = 7) :
    Instruction.decode raw = ⟨3, 15, 0, 0, 0, (raw.extractLsb' 0 13).signExtend 16, 0, 0, true, 0⟩ := by
  have hspread : (if raw &&& 0x1FFF &&& 0x1000 ≠ 0 then raw &&& 0x1FFF ||| 0xE000 else raw &&& 0x1FFF) =
      (raw.extractLsb' 0 13).signExtend 16 :=
    BitFields.spread_lowMask 13 raw 0xE000 (by decide) (by decide) (by decide)
  simp only [Instruction.decode, format_eq, h, hspread]
  exact if_pos ((top3_eq h).2 h7)

lemma decode_gp (h : instructionTop2 raw = 3) (h7 : instructionTop3 raw ≠ 7) :
    Instruction.decode raw =
      ⟨3, instructionRd raw, 0, 0, instructionRs1 raw, 0, 0, 0, false, raw.extractLsb' 8 5⟩ := by
  simp only [Instruction.decode, format_eq, h]
  rw [extractLsb'_eq, extractLsb'_eq]
  exact if_neg fun hb => h7 ((top3_eq h).1 hb)

end Little64.Hdl

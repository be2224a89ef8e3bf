import Little64.Hdl.StepEquivalence

/-! The ALU of the execute stage computes the results and flags of the emulator's. -/

namespace Little64.Hdl

open Emulator (Cpu GpOpcode)

/-- What an ALU instruction does to the destination and the flags of the emulator is what the execute stage drives. -/
structure AluAgree (s t : Cpu) (op : GpOpcode) (rd : Emulator.Reg) (o : ExecuteOutputs) : Prop where
  flagsWrite : o.flagsWrite = true
  flags : t.registers.flags = o.flagsValue.setWidth 64
  regWrite : o.regWrite = decide (op ≠ .test)
  result : t.reg rd = if op = .test then s.reg rd else o.regValue
  destination : op ≠ .test → o.regIndex = rd

lemma flags_updateFlags (registers : Emulator.Registers) (result : Word) (carry : Bool) :
    (registers.updateFlags result carry).flags = (flagValue result carry).setWidth 64 := by
  rw [← flagValue_eq registers, Emulator.Registers.updateFlags]
  simp only
  split_ifs <;> rfl

theorem alu_equivalence (s : Cpu) (i : ExecuteInputs) (op : GpOpcode) (hv : i.valid = true)
    (h6 : instructionTop3 i.instruction = 6) (hop : instructionGpOpcode i.instruction = some op)
    (hplain : PlainOpcode op) (ha : i.operandA = s.reg i.rd) (hb : i.operandB = s.reg i.rs1) :
    AluAgree s (s.dispatchInstruction (.decode i.instruction)) op i.rd i.outputs := by
  have htop : instructionTop2 i.instruction = 3 := by
    have hfields : instructionTop2 i.instruction = (instructionTop3 i.instruction).extractLsb' 1 2 := by
      apply BitVec.eq_of_getLsbD_eq
      intro k hk
      have hk' : k + 1 < 3 := by omega
      simp [instructionTop2, instructionTop3, hk, hk', Nat.add_comm]
    rw [hfields, h6]
    decide
  have h7 : instructionTop3 i.instruction ≠ 7 := by
    rw [h6]
    decide
  rw [outputs_alu hv rfl ha hb htop h7 hop hplain rfl, dispatch_alu htop h7 hop hplain rfl]
  by_cases htest : op = .test
  · subst htest
    exact ⟨rfl, flags_updateFlags _ _ _, rfl, rfl, fun h => absurd rfl h⟩
  · rw [if_neg htest, if_neg htest]
    refine ⟨rfl, flags_updateFlags s.registers _ _, (decide_eq_true htest).symm, ?_, fun _ => rfl⟩
    rw [if_neg htest]
    exact if_pos rfl

/-- A shift left of an odd word by 64. -/
def oversized : Cpu := Emulator.sampleCpu fun r => if r = 1 then 0x8000000000000001 else 64

def oversizedInputs : ExecuteInputs :=
  { idleInputs with
    valid := true, instruction := 0xD421
    operandA := oversized.reg 1, operandB := oversized.reg 2 }

theorem alu_equivalence_oversized :
    AluAgree oversized (oversized.dispatchInstruction (.decode 0xD421)) .sll 1 oversizedInputs.outputs :=
  alu_equivalence oversized oversizedInputs .sll rfl (by decide) (by decide) trivial rfl rfl

end Little64.Hdl

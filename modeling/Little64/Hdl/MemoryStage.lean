import Little64.Hdl.ExecuteStage

/-! The memory stage of the V3 and V4 cores: one or two requests to the load/store unit, and the
register writes and the next PC that the response gives. -/

namespace Little64.Hdl

open Emulator (Reg)

/-- Up to two register results of one instruction. -/
structure RegWrites where
  regWrite : Bool
  regIndex : Reg
  regValue : Word
  auxRegWrite : Bool
  auxRegIndex : Reg
  auxRegValue : Word
  deriving DecidableEq, Repr

namespace RegWrites

def none : RegWrites := ⟨false, 0, 0, false, 0, 0⟩

/-- The value a bypass takes for a register, the first port before the second. -/
def lookup (w : RegWrites) (r : Reg) : Option Word :=
  if w.regWrite ∧ w.regIndex = r then some w.regValue
  else if w.auxRegWrite ∧ w.auxRegIndex = r then some w.auxRegValue
  else Option.none

/-- Register writeback: the second port is assigned last, and `R0` is never written. -/
def apply (w : RegWrites) (regs : Reg → Word) : Reg → Word := fun r =>
  if w.auxRegWrite ∧ w.auxRegIndex ≠ 0 ∧ w.auxRegIndex = r then w.auxRegValue
  else if w.regWrite ∧ w.regIndex ≠ 0 ∧ w.regIndex = r then w.regValue
  else regs r

lemma apply_none (regs : Reg → Word) : none.apply regs = regs := by
  funext r
  simp [apply, none]

lemma apply_congr (w : RegWrites) {regs regs' : Reg → Word} {r : Reg} (h : regs r = regs' r) :
    w.apply regs r = w.apply regs' r := by
  simp only [apply, h]

/-- The two ports do not write the same register. -/
def Distinct (w : RegWrites) : Prop := w.regWrite = true → w.auxRegWrite = true → w.regIndex ≠ w.auxRegIndex

lemma apply_eq_lookup {w : RegWrites} (h : w.Distinct) (regs : Reg → Word) {r : Reg} (hr : r ≠ 0) :
    w.apply regs r = (w.lookup r).getD (regs r) := by
  rw [apply, lookup]
  by_cases h1 : w.regWrite = true ∧ w.regIndex = r
  · have h2 : ¬ (w.auxRegWrite = true ∧ w.auxRegIndex ≠ 0 ∧ w.auxRegIndex = r) := by
      rintro ⟨ha, _, hi⟩
      exact h h1.1 ha (h1.2.trans hi.symm)
    have h3 : w.regIndex ≠ 0 := by
      rw [h1.2]
      exact hr
    rw [if_neg h2, if_pos ⟨h1.1, h3, h1.2⟩, if_pos h1]
    rfl
  · have h3 : ¬ (w.regWrite = true ∧ w.regIndex ≠ 0 ∧ w.regIndex = r) := fun h => h1 ⟨h.1, h.2.2⟩
    rw [if_neg h1, if_neg h3]
    by_cases h2 : w.auxRegWrite = true ∧ w.auxRegIndex = r
    · have h4 : w.auxRegIndex ≠ 0 := by
        rw [h2.2]
        exact hr
      rw [if_pos h2, if_pos ⟨h2.1, h4, h2.2⟩]
      rfl
    · rw [if_neg h2, if_neg fun h => h2 ⟨h.1, h.2.2⟩]
      rfl

lemma apply_zero (w : RegWrites) (regs : Reg → Word) : w.apply regs 0 = regs 0 := by
  rw [apply, if_neg fun h => h.2.1 h.2.2, if_neg fun h => h.2.1 h.2.2]

end RegWrites

structure MemoryResult where
  writes : RegWrites
  nextPc : Word
  deriving DecidableEq, Repr

namespace MemoryOp

variable (op : MemoryOp) (loadValue : Word)

def postValue : Word := if op.postRegUseLoadResult then loadValue + op.postRegDelta else op.postRegValue

def resultNextPc : Word :=
  if op.postRegWrite ∧ op.postRegIndex = 15 then op.postValue loadValue
  else if op.regWrite ∧ op.regIndex = 15 then loadValue
  else op.nextPc

def resultWrites : RegWrites :=
  if op.postRegWrite then
    if op.regWrite then
      if op.postRegIndex = op.regIndex then ⟨true, op.regIndex, op.postValue loadValue, false, 0, 0⟩
      else ⟨true, op.regIndex, loadValue, true, op.postRegIndex, op.postValue loadValue⟩
    else ⟨true, op.postRegIndex, op.postValue loadValue, false, 0, 0⟩
  else ⟨op.regWrite, op.regIndex, loadValue, false, 0, 0⟩

def result : MemoryResult := ⟨op.resultWrites loadValue, op.resultNextPc loadValue⟩

/-- The operation writes the register when it ends. -/
def Writes (r : Reg) : Prop :=
  op.regWrite = true ∧ op.regIndex = r ∨ op.postRegWrite = true ∧ op.postRegIndex = r

lemma resultWrites_distinct : (op.resultWrites loadValue).Distinct := by
  rw [resultWrites]
  split
  · split
    · split
      · exact nofun
      · next h => exact fun _ _ => Ne.symm h
    · exact nofun
  · exact nofun

lemma apply_of_not_writes {r : Reg} (h : ¬ op.Writes r) (regs : Reg → Word) :
    (op.resultWrites loadValue).apply regs r = regs r := by
  simp only [Writes, not_or, not_and] at h
  obtain ⟨h1, h2⟩ := h
  rw [resultWrites]
  split
  · next hp =>
    split
    · next hw =>
      split
      · simp [RegWrites.apply, h1 hw]
      · simp [RegWrites.apply, h1 hw, h2 hp]
    · simp [RegWrites.apply, h2 hp]
  · cases hw : op.regWrite with
    | true => simp [RegWrites.apply, h1 hw]
    | false => simp [RegWrites.apply]

lemma resultNextPc_of_lookup {value : Word} (h : (op.resultWrites loadValue).lookup 15 = some value) :
    op.resultNextPc loadValue = value := by
  rw [resultWrites] at h
  rw [resultNextPc]
  cases hp : op.postRegWrite with
  | false => cases hw : op.regWrite <;> simp_all [RegWrites.lookup]
  | true =>
    cases hw : op.regWrite with
    | false => simp_all [RegWrites.lookup]
    | true =>
      by_cases hi : op.postRegIndex = op.regIndex
      · simp_all [RegWrites.lookup]
      · by_cases h15 : op.postRegIndex = 15
        · have hne : op.regIndex ≠ 15 := fun he => hi (h15.trans he.symm)
          simp_all [RegWrites.lookup]
        · simp_all [RegWrites.lookup]

def nextChainStoreValue : Word := if op.chainStoreUseLoadResult then loadValue else op.chainStoreValue

end MemoryOp

end Little64.Hdl

import Little64.Library.Runs
import Little64.Hdl.Frontend

/-! The frontend delivers what memory holds: every valid line, the prefetched line and the
request in flight agree with memory from the last invalidation on. -/

namespace Little64.Hdl.Frontend

open FrontendConfig ByteMemory LittleEndian

variable {c : FrontendConfig}

/-- The 64 bits on the bus when the line at a base address is read. -/
def lineWord (m : Memory c.addressWidth) (base : Word) : Word := load 64 m (base.setWidth c.addressWidth) 8

/-- The half-word that memory holds at an address. -/
def halfWord (m : Memory c.addressWidth) (addr : Word) : BitVec 16 := load 16 m (addr.setWidth c.addressWidth) 2

def Aligned (base : Word) : Prop := base &&& fetchLineMask = base

structure Agrees (m : Memory c.addressWidth) (s : Frontend c) : Prop where
  lines : ∀ base, Aligned base → s.hit base = true → s.dataMem (index (line base)) = lineWord m base
  prefetch : s.prefetchValid = true → Aligned s.prefetchBase ∧ s.prefetchData = lineWord m s.prefetchBase
  request : s.requestValid = true → s.requestCancelled = false → Aligned s.requestLineBase

/-- The bus answers a request with what memory holds, and no line update is requested. -/
def Answers (m : Memory c.addressWidth) (s : Frontend c) (i : FrontendInputs) : Prop :=
  i.updateLineValid = false ∧ (s.requestValid = true → i.ack = true → i.datR = lineWord m s.requestLineBase)

section Addresses

lemma aligned_iff (base : Word) : Aligned base ↔ base.toNat % 8 = 0 := by
  have hmask : fetchLineMask = ~~~BitFields.lowMask 64 3 := by decide
  rw [Aligned, hmask, ← BitVec.toNat_inj, BitFields.toNat_and_not_lowMask]
  omega

lemma aligned_lineBaseRequested (i : FrontendInputs) : Aligned (lineBaseRequested i) := by
  rw [Aligned, lineBaseRequested, BitVec.and_assoc, BitVec.and_self]

lemma aligned_nextLineBase (i : FrontendInputs) : Aligned (nextLineBase i) := by
  have h := (aligned_iff _).mp (aligned_lineBaseRequested i)
  rw [aligned_iff, nextLineBase, BitVec.toNat_add]
  change (_ + 8) % 2 ^ 64 % 8 = 0
  omega

lemma setWidth_of_aligned {base : Word} (h : Aligned base) :
    base.setWidth c.addressWidth = (line base : c.Line).setWidth c.addressWidth <<< 3 := by
  have h8 := (aligned_iff _).mp h
  have hbase : base = (base >>> 3) <<< 3 := by
    rw [← BitVec.toNat_inj, BitVec.toNat_shiftLeft, BitVec.toNat_ushiftRight, Nat.shiftRight_eq_div_pow,
      Nat.shiftLeft_eq]
    have := base.isLt
    omega
  apply BitVec.eq_of_getLsbD_eq
  intro k hk
  rw [BitVec.getLsbD_setWidth, BitVec.getLsbD_shiftLeft, BitVec.getLsbD_setWidth, line, BitVec.getLsbD_setWidth,
    BitVec.getLsbD_ushiftRight]
  by_cases hk3 : k < 3
  · have hz : base.getLsbD k = false := by
      rw [hbase, BitVec.getLsbD_shiftLeft]
      simp [hk3]
    simp [hk3, hz]
  · have hw : k - 3 < c.lineNumberWidth := by
      rw [FrontendConfig.lineNumberWidth]
      omega
    simp [hk, hk3, hw, show k - 3 < c.addressWidth by omega, show 3 + (k - 3) = k by omega]

lemma line_eq {x y : c.Line} (hi : index x = index y) (ht : tag x = tag y) : x = y := by
  apply BitVec.eq_of_getLsbD_eq
  intro k hk
  by_cases hlow : k < c.indexBits
  · have hb := congrArg (fun v => v.getLsbD k) hi
    simpa [index, BitVec.getLsbD_setWidth, hlow] using hb
  · have hb := congrArg (fun v => v.getLsbD (k - c.indexBits)) ht
    have hw : k - c.indexBits < c.tagWidth := by
      rw [FrontendConfig.tagWidth]
      omega
    simpa [tag, BitVec.getLsbD_setWidth, BitVec.getLsbD_ushiftRight, hw,
      show c.indexBits + (k - c.indexBits) = k by omega] using hb

lemma lineWord_congr {m : Memory c.addressWidth} {x y : Word} (hx : Aligned x) (hy : Aligned y)
    (hi : index (line x : c.Line) = index (line y)) (ht : tag (line x : c.Line) = tag (line y)) :
    lineWord m x = lineWord m y := by
  rw [lineWord, setWidth_of_aligned hx, line_eq hi ht, ← setWidth_of_aligned hy, lineWord]

lemma byteAt_extract (v : Word) (n i : ℕ) : byteAt (v.extractLsb' (8 * n) 16) i = byteAt v (n + i) ∨ 2 ≤ i := by
  by_cases hi : i < 2
  · refine .inl (BitVec.eq_of_getLsbD_eq fun k hk => ?_)
    rw [getLsbD_byteAt, getLsbD_byteAt, BitVec.getLsbD_extractLsb', Nat.mul_add, Nat.add_assoc]
    simp [hk, show 8 * i + k < 16 by omega]
  · exact .inr (Nat.le_of_not_lt hi)

lemma toNat_halfWordBase (pc : Word) : (pc &&& ~~~1).toNat = pc.toNat / 2 * 2 := by
  have h := BitFields.toNat_and_not_lowMask pc 1
  rwa [show BitFields.lowMask 64 1 = 1 by decide, pow_one] at h

lemma toNat_lineBaseRequested (i : FrontendInputs) : (lineBaseRequested i).toNat = i.pc.toNat / 8 * 8 := by
  rw [lineBaseRequested, show fetchLineMask = ~~~BitFields.lowMask 64 3 by decide, BitFields.toNat_and_not_lowMask]
  rfl

lemma slotIndex_eq (i : FrontendInputs) : slotIndex i = i.pc.toNat / 2 % 4 := by
  rw [slotIndex, BitVec.toNat_setWidth, BitVec.toNat_ushiftRight, Nat.shiftRight_eq_div_pow, pow_one]

lemma halfWord_of_lineWord (m : Memory c.addressWidth) (i : FrontendInputs) :
    (lineWord m (lineBaseRequested i)).extractLsb' (16 * slotIndex i) 16 = halfWord m (i.pc &&& ~~~1) := by
  have hslot := slotIndex_eq i
  have hbase : (i.pc &&& ~~~1).setWidth c.addressWidth =
      (lineBaseRequested i).setWidth c.addressWidth + BitVec.ofNat c.addressWidth (2 * slotIndex i) := by
    rw [← BitVec.ofNat_toNat, ← BitVec.ofNat_toNat, ← BitVec.ofNat_add, toNat_halfWordBase, toNat_lineBaseRequested,
      hslot]
    congr 1
    omega
  apply eq_of_byteAt_eq
  intro k hk
  have hbyte := (byteAt_extract (lineWord m (lineBaseRequested i)) (2 * slotIndex i) k).resolve_right (by omega)
  rw [show 8 * (2 * slotIndex i) = 16 * slotIndex i by omega] at hbyte
  rw [hbyte, lineWord, byteAt_load m _ 8 _ (by omega) (by omega), halfWord, byteAt_load m _ 2 _ (by omega) (by omega),
    offset_add, hbase]

end Addresses

section Step

variable {m : Memory c.addressWidth} {s : Frontend c} {i : FrontendInputs}

lemma hit_iff (base : Word) :
    s.hit base = true ↔ s.validBits (index (line base)) = true ∧ s.tagMem (index (line base)) = tag (line base) := by
  rw [hit, Bool.and_eq_true, beq_iff_eq]

lemma cacheWrite_eq (h : i.updateLineValid = false) :
    s.cacheWrite i =
      if s.fills i then some ⟨index (line s.requestLineBase), tag (line s.requestLineBase), i.datR⟩
      else if s.promotes i then
        some ⟨index (line (lineBaseRequested i)), tag (line (lineBaseRequested i)), s.prefetchData⟩
      else none := by
  have hu : s.updates i = false := by
    rw [updates, h]
    simp
  rw [cacheWrite]
  simp only [hu, Bool.false_eq_true, if_false]

/-- A slot written with the word of an aligned line agrees with memory, and so do the others. -/
lemma written_lines {base₀ data : Word} (hagrees : Agrees m s) (h₀ : Aligned base₀) (hdata : data = lineWord m base₀)
    (hvalid : (s.step i).validBits = setBit s.validBits (index (line base₀)))
    (htag : (s.step i).tagMem = fun x => if x = index (line base₀) then tag (line base₀) else s.tagMem x)
    (hmem : (s.step i).dataMem = fun x => if x = index (line base₀) then data else s.dataMem x) :
    ∀ base, Aligned base → (s.step i).hit base = true → (s.step i).dataMem (index (line base)) = lineWord m base := by
  intro base hb hh
  rw [hit_iff, hvalid, htag, setBit] at hh
  rw [hmem]
  by_cases hi : index (line base : c.Line) = index (line base₀)
  · simp only [hi, if_true] at hh ⊢
    rw [hdata]
    exact lineWord_congr h₀ hb hi.symm hh.2
  · simp only [hi, if_false] at hh ⊢
    exact hagrees.lines base hb ((hit_iff base).mpr hh)

lemma lines_step (hagrees : Agrees m s) (hans : Answers m s i) :
    ∀ base, Aligned base → (s.step i).hit base = true → (s.step i).dataMem (index (line base)) = lineWord m base := by
  have hw := cacheWrite_eq (s := s) hans.1
  by_cases hf : s.fills i = true
  · rw [if_pos hf] at hw
    have hacc : s.responseAccepted i = true := (Bool.and_eq_true _ _ ▸ hf : _ ∧ _).1
    simp only [responseAccepted, requestDone, Bool.and_eq_true, Bool.not_eq_true'] at hacc
    refine written_lines hagrees (hagrees.request hacc.1.1 hacc.2.1.2) (hans.2 hacc.1.1 hacc.2.1.1.1) ?_ ?_ ?_
    · exact if_pos hf
    · simp only [step, hw]
    · simp only [step, hw]
  · rw [if_neg hf] at hw
    by_cases hp : s.promotes i = true
    · rw [if_pos hp] at hw
      simp only [promotes, prefetchHit, Bool.and_eq_true, beq_iff_eq] at hp
      have hpre := hagrees.prefetch hp.1.2.1
      rw [hp.1.2.2] at hpre
      refine written_lines hagrees hpre.1 hpre.2 ?_ ?_ ?_
      · exact (if_neg hf).trans (if_pos (by simpa [promotes, prefetchHit] using hp))
      · simp only [step, hw]
      · simp only [step, hw]
    · rw [if_neg hp] at hw
      intro base hb hh
      have hvalid : (s.step i).validBits = if i.invalidate then fun _ => false else s.validBits :=
        (if_neg hf).trans (if_neg hp)
      rw [hit_iff, hvalid] at hh
      simp only [step, hw] at hh ⊢
      by_cases hinv : i.invalidate = true
      · simp only [hinv, if_true] at hh
        exact absurd hh.1 Bool.false_ne_true
      · simp only [hinv] at hh
        exact hagrees.lines base hb ((hit_iff base).mpr hh)

lemma prefetch_step (hagrees : Agrees m s) (hans : Answers m s i) (h : (s.step i).prefetchValid = true) :
    Aligned (s.step i).prefetchBase ∧ (s.step i).prefetchData = lineWord m (s.step i).prefetchBase := by
  simp only [step] at h ⊢
  by_cases hp : s.prefetches i = true
  · have hacc : s.responseAccepted i = true := (Bool.and_eq_true _ _ ▸ hp : _ ∧ _).1
    simp only [responseAccepted, requestDone, Bool.and_eq_true, Bool.not_eq_true'] at hacc
    simp only [hp, if_true]
    exact ⟨hagrees.request hacc.1.1 hacc.2.1.2, hans.2 hacc.1.1 hacc.2.1.1.1⟩
  · simp only [hp] at h ⊢
    by_cases hinv : i.invalidate = true
    · simp only [hinv, if_true] at h
      exact absurd h Bool.false_ne_true
    · simp only [hinv] at h
      exact hagrees.prefetch h

lemma request_step (hagrees : Agrees m s) (hv : (s.step i).requestValid = true)
    (hc : (s.step i).requestCancelled = false) : Aligned (s.step i).requestLineBase := by
  simp only [step, nextRequestCancelled] at hv hc ⊢
  by_cases hd : s.demandRequest i = true
  · simp only [hd, if_true]
    exact aligned_lineBaseRequested i
  by_cases hp : s.prefetchRequest i = true
  · simp only [hd, hp, if_true]
    exact aligned_nextLineBase i
  simp only [hd, hp, Bool.false_or, Bool.and_eq_true, Bool.not_eq_true'] at hv
  simp only [hd, hp, hv.2, Bool.or_self, Bool.false_eq_true, if_false] at hc ⊢
  by_cases hinv : i.invalidate = true
  · rw [if_pos hinv, hv.1] at hc
    cases hc
  · rw [if_neg hinv] at hc
    exact hagrees.request hv.1 hc

lemma agrees_step (hagrees : Agrees m s) (hans : Answers m s i) : Agrees m (s.step i) :=
  ⟨lines_step hagrees hans, prefetch_step hagrees hans, request_step hagrees⟩

lemma agrees_reset (m : Memory c.addressWidth) : Agrees m (reset c) :=
  ⟨fun _ _ h => absurd h Bool.false_ne_true, fun h => absurd h Bool.false_ne_true,
    fun h => absurd h Bool.false_ne_true⟩

lemma agrees_invalidated (m : Memory c.addressWidth) (s : Frontend c) (h : i.invalidate = true) :
    Agrees m (s.step i) := by
  have hacc : s.responseAccepted i = false := by simp [responseAccepted, h]
  have hd : s.demandRequest i = false := by simp [demandRequest, h]
  have hp : s.prefetchRequest i = false := by simp [prefetchRequest, h]
  have hprom : s.promotes i = false := by simp [promotes, h]
  have hf : s.fills i = false := by simp [fills, hacc]
  have hpf : s.prefetches i = false := by simp [prefetches, hacc]
  refine ⟨fun base _ hh => ?_, fun hv => ?_, fun hv hc => ?_⟩
  · rw [hit_iff] at hh
    simp [step, nextValidBits, hf, hprom, h] at hh
  · simp [step, hpf, h] at hv
  · simp [step, nextRequestCancelled, hd, hp, h] at hv hc
    rw [hv.1] at hc
    exact absurd (hc hv.2) Bool.true_eq_false.mp

/-- Where the frontend agrees with memory, a valid instruction is the half-word of memory. -/
lemma instructionWord_of_agrees (hagrees : Agrees m s) (h : s.instructionValid i = true) :
    s.instructionWord i = halfWord m (i.pc &&& ~~~1) := by
  have hsel : s.selectedLineData i = lineWord m (lineBaseRequested i) := by
    rw [selectedLineData]
    by_cases hp : s.prefetchHit i = true
    · rw [if_pos hp]
      rw [prefetchHit, Bool.and_eq_true, beq_iff_eq] at hp
      rw [(hagrees.prefetch hp.1).2, hp.2]
    · rw [if_neg hp]
      rw [instructionValid, Bool.or_eq_true, or_iff_left hp] at h
      exact hagrees.lines _ (aligned_lineBaseRequested i) h
  rw [instructionWord, hsel]
  exact halfWord_of_lineWord m i

end Step

section Runs

/-- The frontend after reset or after an invalidation. -/
def Fresh (s : Frontend c) : Prop :=
  s = reset c ∨ ∃ (t : Frontend c) (i : FrontendInputs), i.invalidate = true ∧ s = t.step i

lemma Fresh.agrees {s : Frontend c} (h : Fresh s) (m : Memory c.addressWidth) : Agrees m s := by
  rcases h with rfl | ⟨t, i, hi, rfl⟩
  · exact agrees_reset m
  · exact agrees_invalidated m t hi

/-- While memory stays as it is, every instruction delivered since the last invalidation is the half-word
that memory holds at `pc`, taken without its lowest bit. -/
theorem delivers_memory (m : Memory c.addressWidth) (s : Frontend c) (hs : Fresh s) (is : List FrontendInputs)
    (hans : Runs.Along step (Answers m) s is) (i : FrontendInputs)
    (hv : (Runs.run step s is).instructionValid i = true) :
    (Runs.run step s is).instructionWord i = halfWord m (i.pc &&& ~~~1) := by
  apply instructionWord_of_agrees _ hv
  exact Runs.Reach.invariant (fun t ht => ht) (fun t i ht ha => agrees_step ht ha)
    (hans.reach (.start (show Agrees m s from hs.agrees m)))

/-- A frontend with sixteen lines that is asked for the instruction at address `1`. -/
def oddPc (ack : Bool) : FrontendInputs := ⟨1, false, false, 0, ack, false, 1⟩

def oddMemory : Memory 64 := fun addr => if addr = 0 then 1 else 0

lemma oddPc_answers : Runs.Along step (Answers (c := ⟨64, 4, 1024⟩) oddMemory) (reset _) [oddPc false, oddPc true] :=
  .cons ⟨rfl, fun h => by cases h⟩ (.cons ⟨rfl, fun _ _ => by decide +kernel⟩ (.nil _))

theorem delivers_memory_sample :
    (Runs.run step (reset ⟨64, 4, 1024⟩) [oddPc false, oddPc true]).instructionWord (oddPc false) =
      halfWord (c := ⟨64, 4, 1024⟩) oddMemory 0 :=
  delivers_memory (c := ⟨64, 4, 1024⟩) oddMemory _ (.inl rfl) _ oddPc_answers (oddPc false) (by decide +kernel)

/-- At an odd address the frontend delivers the half-word below it. -/
theorem odd_pc_rounds_down :
    (Runs.Along step (Answers (c := ⟨64, 4, 1024⟩) oddMemory) (reset _) [oddPc false, oddPc true]) ∧
      (Runs.run step (reset ⟨64, 4, 1024⟩) [oddPc false, oddPc true]).instructionValid (oddPc false) = true ∧
        (Runs.run step (reset ⟨64, 4, 1024⟩) [oddPc false, oddPc true]).instructionWord (oddPc false) ≠
          halfWord (c := ⟨64, 4, 1024⟩) oddMemory (oddPc false).pc :=
  ⟨oddPc_answers, by decide +kernel, by decide +kernel⟩

end Runs

end Little64.Hdl.Frontend

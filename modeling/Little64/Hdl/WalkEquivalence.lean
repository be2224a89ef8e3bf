import Little64.Library.Runs
import Little64.Hdl.PageWalk
import Little64.Emulator.AddressTranslator

/-! Two page-table walks: the state machine of the V4 core against the translation of the emulator. -/

namespace Little64.Hdl

open Emulator Emulator.Vectors
open Emulator.AddressTranslator (translate tableIndex leafWalker readEntry makeFault resolveLeaf resolve)

namespace PageWalk

/-- The result that a walk presents in a cycle. -/
def outcome (s : PageWalk) (user : Bool) : Option PagingTranslateResult :=
  if s.fault user then some (.fault s.faultCause s.faultAux)
  else if s.leafSuccess user then some (.mapped s.resultPhys)
  else none

/-- A response is the entry that the walk has asked for. -/
def Answers (read : Word → Word) (s : PageWalk) (i : WalkInputs) : Prop :=
  s.responseValid i = true → i.responseError = false ∧ i.responseLoadValue = read s.pteAddr

end PageWalk

/-- What the hardware does with one entry at a level: the latched entry of a walk that is there. -/
def entryOutcome (user : Bool) (virtualAddr : Word) (access : AccessType) (level : ℕ) (pte : Word) :
    Option PagingTranslateResult :=
  PageWalk.outcome
    { PageWalk.start virtualAddr 0 access .memory with
      processing := true
      level := BitVec.ofNat 2 level
      pteLatched := pte } user

def hardwareWalker (user : Bool) (virtualAddr : Word) (access : AccessType) :
    RadixWalk.Walker Word Word Word PagingTranslateResult where
  slot n table := table + tableIndex virtualAddr n * 8
  descend n pte :=
    match entryOutcome user virtualAddr access n pte with
    | some result => .inl result
    | none => .inr ((pte >>> 10) <<< 12)
  last pte := (entryOutcome user virtualAddr access 0 pte).getD (.mapped 0)

def requestFault (access : AccessType) (root virtualAddr : Word) : Option FaultRecord :=
  match access with
  | .execute => fetchFault true root virtualAddr
  | _ => memoryFault root virtualAddr

/-- The results that the hardware gives, at any latency of the memory. -/
inductive HardwareResult (read : Word → Word) (root virtualAddr : Word) (access : AccessType) (user : Bool) :
    PagingTranslateResult → Prop
  | refused {f : FaultRecord} : requestFault access root virtualAddr = some f →
      HardwareResult read root virtualAddr access user (.fault f.cause f.aux)
  | walked {resumeKind : WalkResume} {is : List WalkInputs} {result : PagingTranslateResult} :
      requestFault access root virtualAddr = none →
      Runs.Along (PageWalk.step · user) (PageWalk.Answers read)
        (PageWalk.start virtualAddr root access resumeKind) is →
      (Runs.run (PageWalk.step · user) (PageWalk.start virtualAddr root access resumeKind) is).outcome user =
        some result →
      HardwareResult read root virtualAddr access user result

section Walk

variable {read : Word → Word} {user : Bool} {virtualAddr root : Word} {access : AccessType} {s : PageWalk}
  {i : WalkInputs} {result : PagingTranslateResult}

lemma pteAddr_eq (h : s.level ≤ 2) :
    s.pteAddr = s.tableAddr + tableIndex s.virtualAddr s.level.toNat * 8 := by
  have hl : ∀ l : BitVec 2, l ≤ 2 → l = 0 ∨ l = 1 ∨ l = 2 := by decide
  have hshift : ∀ x : Word, x <<< 3 = x * 8 := fun x => by
    rw [BitVec.shiftLeft_eq_mul_twoPow]
    rfl
  rw [PageWalk.pteAddr, PageWalk.index, hshift]
  rcases hl _ h with h | h | h <;> rw [h] <;> rfl

/-- The outcome goes by the latched entry, the level, the address and the access alone. -/
lemma outcome_eq (hp : s.processing = true) (hl : s.level ≤ 2) :
    s.outcome user = entryOutcome user s.virtualAddr s.access s.level.toNat s.pteLatched := by
  have hlevel : BitVec.ofNat 2 s.level.toNat = s.level := by
    rw [BitVec.ofNat_toNat, BitVec.setWidth_eq]
  cases s
  subst hp
  rw [entryOutcome, hlevel]
  rfl

lemma outcome_idle (hp : s.processing = false) : s.outcome user = none := by
  have hf : s.fault user = false := by rw [PageWalk.fault, hp, Bool.false_and]
  have hs : s.leafSuccess user = false := by rw [PageWalk.leafSuccess, hp, Bool.false_and, Bool.false_and]
  rw [PageWalk.outcome, hf, hs]
  rfl

lemma entryOutcome_zero (pte : Word) : entryOutcome user virtualAddr access 0 pte ≠ none := by
  rw [entryOutcome, PageWalk.outcome]
  generalize hw : ({ PageWalk.start virtualAddr 0 access .memory with
    processing := true, level := BitVec.ofNat 2 0, pteLatched := pte } : PageWalk) = w
  have hp : w.processing = true := by rw [← hw]
  have hl : w.level = 0 := by rw [← hw]; rfl
  by_cases hf : w.fault user = true
  · rw [if_pos hf]
    exact Option.some_ne_none _
  · have hleaf : w.leafSuccess user = true := by
      rw [PageWalk.leafSuccess, hp, Bool.eq_false_iff.mpr hf]
      simp only [PageWalk.fault, hp, hl] at hf ⊢
      cases hleaf : w.isLeaf <;> cases hperm : w.permissionOk <;> cases huser : w.userOk user <;>
        simp [hleaf, hperm, huser] at hf ⊢
    rw [if_neg hf, if_pos hleaf]
    exact Option.some_ne_none _

/-- A walk on its way to a result. -/
structure OnTheWay (read : Word → Word) (user : Bool) (virtualAddr : Word) (access : AccessType)
    (result : PagingTranslateResult) (s : PageWalk) : Prop where
  active : s.active = true
  sameAddr : s.virtualAddr = virtualAddr
  sameAccess : s.access = access
  bound : s.level ≤ 2
  latched : s.processing = true → s.pteLatched = read s.pteAddr
  run : (hardwareWalker user virtualAddr access).run read s.level.toNat s.tableAddr = result

lemma OnTheWay.outcome (h : OnTheWay read user virtualAddr access result s) (hp : s.processing = true) :
    s.outcome user = some result ∨
      s.outcome user = none ∧ 0 < s.level ∧
        (hardwareWalker user virtualAddr access).run read (s.level.toNat - 1) s.tableNext = result := by
  have hrun := h.run
  have hpte : read (s.tableAddr + tableIndex virtualAddr s.level.toNat * 8) = s.pteLatched := by
    rw [h.latched hp, pteAddr_eq h.bound, h.sameAddr]
  rw [outcome_eq hp h.bound, h.sameAddr, h.sameAccess]
  cases hl : s.level.toNat with
  | zero =>
    rw [hl] at hrun hpte
    simp only [RadixWalk.Walker.run, hardwareWalker, hpte] at hrun
    cases ho : entryOutcome user virtualAddr access 0 s.pteLatched with
    | none => exact absurd ho (entryOutcome_zero _)
    | some r =>
      rw [ho] at hrun
      exact .inl (congrArg some hrun)
  | succ n =>
    rw [hl] at hrun hpte
    simp only [RadixWalk.Walker.run, hardwareWalker, hpte] at hrun
    cases ho : entryOutcome user virtualAddr access (n + 1) s.pteLatched with
    | some r =>
      rw [ho] at hrun
      exact .inl (congrArg some hrun)
    | none =>
      rw [ho] at hrun
      refine .inr ⟨rfl, ?_, hrun⟩
      rw [BitVec.lt_def, hl]
      exact Nat.succ_pos n

lemma outcome_none (h : s.outcome user = none) : s.fault user = false ∧ s.leafSuccess user = false := by
  rw [PageWalk.outcome] at h
  by_cases hf : s.fault user = true
  · rw [if_pos hf] at h
    cases h
  · rw [if_neg hf] at h
    by_cases hl : s.leafSuccess user = true
    · rw [if_pos hl] at h
      cases h
    · exact ⟨Bool.eq_false_iff.mpr hf, Bool.eq_false_iff.mpr hl⟩

/-- A walk without a result in this cycle either waits, or latches an entry, or goes down a level. -/
lemma onTheWay_step (h : OnTheWay read user virtualAddr access result s) (ha : PageWalk.Answers read s i)
    (ho : s.outcome user = none) : OnTheWay read user virtualAddr access result (s.step user i) := by
  obtain ⟨hf, hl⟩ := outcome_none ho
  by_cases hp : s.processing = true
  · have hd : s.descends user = true := by simp [PageWalk.descends, hp, hf, hl]
    obtain ⟨_, hpos, hrun⟩ := (h.outcome hp).resolve_left (by rw [ho]; intro hn; cases hn)
    have hlevel : ∀ l : BitVec 2, 0 < l → l ≤ 2 → l - 1 ≤ 2 ∧ (l - 1).toNat = l.toNat - 1 := by decide
    obtain ⟨hle, hsub⟩ := hlevel _ hpos h.bound
    rw [PageWalk.step, if_pos hd]
    exact ⟨h.active, h.sameAddr, h.sameAccess, hle, fun hn => absurd hn Bool.false_ne_true, by rw [hsub]; exact hrun⟩
  · have hp' : s.processing = false := Bool.eq_false_iff.mpr hp
    have hd : s.descends user = false := by simp [PageWalk.descends, hp']
    rw [PageWalk.step, if_neg (by rw [hd]; exact Bool.false_ne_true), if_neg (by rw [hl]; exact Bool.false_ne_true)]
    by_cases hr : (s.responseValid i && !s.responseError i) = true
    · rw [if_pos hr]
      have hv : s.responseValid i = true := (Bool.and_eq_true _ _ ▸ hr : _ ∧ _).1
      exact ⟨h.active, h.sameAddr, h.sameAccess, h.bound, fun _ => (ha hv).2, h.run⟩
    · rw [if_neg hr]
      exact ⟨h.active, h.sameAddr, h.sameAccess, h.bound, fun hn => absurd hn hp, h.run⟩

lemma onTheWay_start (read : Word → Word) (user : Bool) (virtualAddr root : Word) (access : AccessType)
    (resumeKind : WalkResume) :
    OnTheWay read user virtualAddr access ((hardwareWalker user virtualAddr access).run read 2 root)
      (PageWalk.start virtualAddr root access resumeKind) :=
  ⟨rfl, rfl, rfl, BitVec.le_refl _, fun h => absurd h Bool.false_ne_true, rfl⟩

/-- A walk on its way, or one that is over: its result stands, or its leaf has been taken. -/
def Walking (read : Word → Word) (user : Bool) (virtualAddr : Word) (access : AccessType)
    (result : PagingTranslateResult) (s : PageWalk) : Prop :=
  OnTheWay read user virtualAddr access result s ∨ s.active = false ∧ s.processing = false

lemma walking_step (h : Walking read user virtualAddr access result s) (ha : PageWalk.Answers read s i) :
    Walking read user virtualAddr access result (s.step user i) := by
  rcases h with h | ⟨hactive, hidle⟩
  · cases ho : s.outcome user with
    | none => exact .inl (onTheWay_step h ha ho)
    | some r =>
      have hp : s.processing = true := by
        by_contra hp
        rw [outcome_idle (Bool.eq_false_iff.mpr hp)] at ho
        cases ho
      have hd : s.descends user = false := by
        rw [PageWalk.outcome] at ho
        rw [PageWalk.descends]
        by_cases hf : s.fault user = true
        · simp [hf]
        · rw [if_neg hf] at ho
          by_cases hl : s.leafSuccess user = true
          · simp [hl]
          · rw [if_neg hl] at ho
            cases ho
      rw [PageWalk.step, if_neg (by rw [hd]; exact Bool.false_ne_true)]
      by_cases hl : s.leafSuccess user = true
      · rw [if_pos hl]
        exact .inr ⟨rfl, rfl⟩
      · have hr : s.responseValid i = false := by simp [PageWalk.responseValid, hp]
        rw [if_neg hl, if_neg (by rw [hr]; exact Bool.false_ne_true)]
        exact .inl ⟨h.active, h.sameAddr, h.sameAccess, h.bound, h.latched, h.run⟩
  · refine .inr ?_
    have hd : s.descends user = false := by simp [PageWalk.descends, hidle]
    have hl : s.leafSuccess user = false := by simp [PageWalk.leafSuccess, hidle]
    have hr : s.responseValid i = false := by simp [PageWalk.responseValid, hactive]
    rw [PageWalk.step, if_neg (by rw [hd]; exact Bool.false_ne_true), if_neg (by rw [hl]; exact Bool.false_ne_true),
      if_neg (by rw [hr]; exact Bool.false_ne_true)]
    exact ⟨hactive, hidle⟩

lemma outcome_run {is : List WalkInputs} {resumeKind : WalkResume} {r : PagingTranslateResult}
    (h : Runs.Along (PageWalk.step · user) (PageWalk.Answers read) (PageWalk.start virtualAddr root access resumeKind) is)
    (ho : (Runs.run (PageWalk.step · user) (PageWalk.start virtualAddr root access resumeKind) is).outcome user =
      some r) : r = (hardwareWalker user virtualAddr access).run read 2 root := by
  have hw : Walking read user virtualAddr access ((hardwareWalker user virtualAddr access).run read 2 root)
      (Runs.run (PageWalk.step · user) (PageWalk.start virtualAddr root access resumeKind) is) :=
    Runs.Reach.invariant (fun s hs => hs) (fun s i hs ha => walking_step hs ha)
      (h.reach (.start (Or.inl (onTheWay_start read user virtualAddr root access resumeKind))))
  generalize Runs.run (PageWalk.step · user) (PageWalk.start virtualAddr root access resumeKind) is = s at hw ho
  by_cases hp : s.processing = true
  · rcases hw with hw | ⟨_, hidle⟩
    · rcases hw.outcome hp with hr | ⟨hr, _⟩
      · rw [ho] at hr
        exact Option.some.inj hr
      · rw [ho] at hr
        cases hr
    · rw [hp] at hidle
      cases hidle
  · rw [outcome_idle (Bool.eq_false_iff.mpr hp)] at ho
    cases ho

/-- The cycles of progress that a walk still needs. -/
def remaining (s : PageWalk) : ℕ := 2 * s.level.toNat + if s.processing then 0 else 1

lemma remaining_step (h : OnTheWay read user virtualAddr access result s) (ha : PageWalk.Answers read s i)
    (ho : s.outcome user = none) :
    remaining (s.step user i) ≤ remaining s ∧ (i.responseValid = true → remaining (s.step user i) < remaining s) := by
  obtain ⟨hf, hl⟩ := outcome_none ho
  by_cases hp : s.processing = true
  · have hd : s.descends user = true := by simp [PageWalk.descends, hp, hf, hl]
    obtain ⟨_, hpos, _⟩ := (h.outcome hp).resolve_left (by rw [ho]; intro hn; cases hn)
    have hlevel : ∀ l : BitVec 2, 0 < l → (l - 1).toNat = l.toNat - 1 := by decide
    have hlt : 0 < s.level.toNat := hpos
    rw [PageWalk.step, if_pos hd, remaining, remaining, hp]
    simp only [hlevel _ hpos, if_true, Bool.false_eq_true, if_false]
    omega
  · have hp' : s.processing = false := Bool.eq_false_iff.mpr hp
    have hd : s.descends user = false := by simp [PageWalk.descends, hp']
    rw [PageWalk.step, if_neg (by rw [hd]; exact Bool.false_ne_true), if_neg (by rw [hl]; exact Bool.false_ne_true)]
    by_cases hr : (s.responseValid i && !s.responseError i) = true
    · rw [if_pos hr, remaining, remaining, hp']
      simp
    · rw [if_neg hr]
      refine ⟨le_refl _, fun hv => absurd ?_ hr⟩
      have hresp : s.responseValid i = true := by simp [PageWalk.responseValid, h.active, hp', hv]
      simp [hresp, PageWalk.responseError, (ha hresp).1]

/-- A walk ends: as many responses as it still needs bring its result, however late they come. -/
lemma walk_ends {is : List WalkInputs} (hs : OnTheWay read user virtualAddr access result s)
    (h : Runs.Along (PageWalk.step · user) (PageWalk.Answers read) s is)
    (hn : remaining s ≤ is.countP (·.responseValid)) :
    ∃ before, before <+: is ∧ (Runs.run (PageWalk.step · user) s before).outcome user = some result := by
  induction h with
  | nil s =>
    have hz : remaining s = 0 := Nat.le_zero.mp hn
    have hp : s.processing = true := by
      by_contra hp
      rw [remaining, if_neg hp] at hz
      omega
    refine ⟨[], List.prefix_rfl, (hs.outcome hp).resolve_right ?_⟩
    rintro ⟨_, hpos, _⟩
    rw [remaining, if_pos hp] at hz
    have hlt : 0 < s.level.toNat := hpos
    omega
  | @cons s i is ha _ ih =>
    cases ho : s.outcome user with
    | some r =>
      have hp : s.processing = true := by
        by_contra hp
        rw [outcome_idle (Bool.eq_false_iff.mpr hp)] at ho
        cases ho
      refine ⟨[], List.nil_prefix, (hs.outcome hp).resolve_right ?_⟩
      rintro ⟨hnone, _⟩
      rw [ho] at hnone
      cases hnone
    | none =>
      obtain ⟨hle, hlt⟩ := remaining_step hs ha ho
      obtain ⟨before, hpre, hres⟩ := ih (onTheWay_step hs ha ho) (by
        rw [List.countP_cons] at hn
        by_cases hv : i.responseValid = true
        · have := hlt hv
          simp only [hv, if_true] at hn
          omega
        · simp only [hv, Bool.false_eq_true, if_false] at hn
          omega)
      exact ⟨i :: before, (List.prefix_cons_inj i).mpr hpre, hres⟩

end Walk

section Comparison

variable {user : Bool} {virtualAddr root pte : Word} {access : AccessType} {n : ℕ} {bus : MemoryBus}

lemma outcome_processing (s : PageWalk) (hp : s.processing = true) (hn : n ≤ 2) (hl : s.level = BitVec.ofNat 2 n) :
    s.outcome user =
      if s.invalid then some (makeFault trapPageFaultNotPresent auxSubtypeNoValidPte (BitVec.ofNat 64 n))
      else if s.reserved then some (makeFault trapPageFaultReserved auxSubtypeReservedBit (BitVec.ofNat 64 n))
      else if s.isLeaf then
        if s.permissionOk && s.userOk user then some (.mapped s.resultPhys)
        else some (makeFault trapPageFaultPermission auxSubtypePermission (BitVec.ofNat 64 n))
      else if n = 0 then some (makeFault trapPageFaultReserved auxSubtypeInvalidNonleaf 0)
      else none := by
  have hlevel : n = 0 ∨ n = 1 ∨ n = 2 := by omega
  rcases hlevel with rfl | rfl | rfl <;>
    simp only [PageWalk.outcome, PageWalk.leafSuccess, PageWalk.fault, PageWalk.faultCause, PageWalk.faultAux, hp,
      hl] <;>
    cases s.invalid <;> cases s.reserved <;> cases s.isLeaf <;> cases s.permissionOk <;> cases s.userOk user <;> rfl

lemma resolveLeaf_eq (hleaf : pte &&& (PTE_R ||| PTE_W ||| PTE_X) ≠ 0) (hn : n ≤ 2) (s : PageWalk)
    (hs : s = { PageWalk.start virtualAddr 0 access .memory with
      processing := true, level := BitVec.ofNat 2 n, pteLatched := pte }) :
    (if s.permissionOk && s.userOk user then some (.mapped s.resultPhys)
      else some (makeFault trapPageFaultPermission auxSubtypePermission (BitVec.ofNat 64 n))) =
      some (resolveLeaf user virtualAddr access pte (BitVec.ofNat 64 n)
        (if n = 2 then 30 else if n = 1 then 21 else 12)) := by
  have hperm : s.permissionOk = AddressTranslator.permissionAllowed access pte := by
    rw [hs]
    cases access <;> rfl
  have huser : s.userOk user = !(user && pte &&& PTE_U == 0) := by
    rw [hs, PageWalk.userOk, Bool.not_and]
    rfl
  have hphys : s.resultPhys =
      (pte >>> 10) <<< 12 + (virtualAddr &&& (1 <<< (if n = 2 then 30 else if n = 1 then 21 else 12) - 1)) := by
    have hlevel : n = 0 ∨ n = 1 ∨ n = 2 := by omega
    rw [hs]
    rcases hlevel with rfl | rfl | rfl <;> rfl
  have hleaf' : ¬ pte &&& (AddressTranslator.PTE_R ||| AddressTranslator.PTE_W ||| AddressTranslator.PTE_X) = 0 := hleaf
  rw [hperm, huser, hphys, resolveLeaf, if_neg hleaf']
  cases AddressTranslator.permissionAllowed access pte with
  | false => rfl
  | true =>
    change (if (!(user && pte &&& PTE_U == 0)) = true then _ else _) =
      some (if (user && pte &&& PTE_U == 0) = true then _ else _)
    cases user && pte &&& PTE_U == 0 <;> rfl

/-- The entries at which the two walks part: a superpage with reserved bits, and an entry of the last level
without permissions. -/
def Parts (level : ℕ) (pte : Word) : Prop :=
  pte &&& PTE_V ≠ 0 ∧
    if level = 0 then pte &&& PTE_RESERVED_MASK = 0 ∧ pte &&& (PTE_R ||| PTE_W ||| PTE_X) = 0
    else pte &&& (PTE_R ||| PTE_W ||| PTE_X) ≠ 0 ∧ pte &&& PTE_RESERVED_MASK ≠ 0

instance (level : ℕ) (pte : Word) : Decidable (Parts level pte) := inferInstanceAs (Decidable (_ ∧ _))

lemma entryOutcome_eq (hn : n ≤ 2) :
    entryOutcome user virtualAddr access n pte =
      if pte &&& PTE_V = 0 then some (makeFault trapPageFaultNotPresent auxSubtypeNoValidPte (BitVec.ofNat 64 n))
      else if pte &&& PTE_RESERVED_MASK ≠ 0 then
        some (makeFault trapPageFaultReserved auxSubtypeReservedBit (BitVec.ofNat 64 n))
      else if pte &&& (PTE_R ||| PTE_W ||| PTE_X) ≠ 0 then
        some (resolveLeaf user virtualAddr access pte (BitVec.ofNat 64 n)
          (if n = 2 then 30 else if n = 1 then 21 else 12))
      else if n = 0 then some (makeFault trapPageFaultReserved auxSubtypeInvalidNonleaf 0)
      else none := by
  rw [entryOutcome]
  generalize hs : ({ PageWalk.start virtualAddr 0 access .memory with
    processing := true, level := BitVec.ofNat 2 n, pteLatched := pte } : PageWalk) = s
  rw [outcome_processing s (by rw [← hs]) hn (by rw [← hs])]
  have hpte : s.pteLatched = pte := by rw [← hs]
  simp only [PageWalk.invalid, PageWalk.reserved, PageWalk.isLeaf, hpte, beq_iff_eq, bne_iff_ne]
  by_cases hleaf : pte &&& (PTE_R ||| PTE_W ||| PTE_X) ≠ 0
  · rw [resolveLeaf_eq hleaf hn s hs.symm]
  · simp only [hleaf, if_false]

/-- The walk of the emulator as a walker with the results of translation. -/
def emulatorWalker (user : Bool) (virtualAddr : Word) (access : AccessType) :
    RadixWalk.Walker Word Word Word PagingTranslateResult :=
  (leafWalker virtualAddr).map (resolve user virtualAddr access)

lemma last_iff (pte : Word) :
    (emulatorWalker user virtualAddr access).last pte = (hardwareWalker user virtualAddr access).last pte ↔
      ¬ Parts 0 pte := by
  have hlast : (emulatorWalker user virtualAddr access).last pte =
      if pte &&& PTE_V = 0 then makeFault trapPageFaultNotPresent auxSubtypeNoValidPte 0
      else if pte &&& PTE_RESERVED_MASK ≠ 0 then makeFault trapPageFaultReserved auxSubtypeReservedBit 0
      else resolveLeaf user virtualAddr access pte 0 12 := by
    change resolve user virtualAddr access (if pte &&& PTE_V = 0 then _ else if pte &&& PTE_RESERVED_MASK ≠ 0 then _
      else _) = _
    split
    · rfl
    · split <;> rfl
  rw [hlast, hardwareWalker]
  simp only [entryOutcome_eq (Nat.zero_le 2), Parts]
  by_cases hv : pte &&& PTE_V = 0
  · simp only [hv, if_true, ne_eq, not_true, false_and, not_false_eq_true, iff_true]
    rfl
  by_cases hr : pte &&& PTE_RESERVED_MASK = 0
  · by_cases hl : pte &&& (PTE_R ||| PTE_W ||| PTE_X) = 0
    · have hl' : pte &&& (AddressTranslator.PTE_R ||| AddressTranslator.PTE_W ||| AddressTranslator.PTE_X) = 0 := hl
      simp only [hv, hr, hl, ne_eq, not_true, not_false_eq_true, if_true, if_false, and_self, iff_false, resolveLeaf, hl']
      decide
    · simp only [hv, hr, hl, ne_eq, not_true, not_false_eq_true, if_true, if_false, and_false, iff_true]
      rfl
  · simp only [hv, hr, ne_eq, not_false_eq_true, if_true, if_false, false_and, and_false, iff_true]
    rfl

lemma descend_emulator (n : ℕ) (pte : Word) :
    (emulatorWalker user virtualAddr access).descend n pte =
      if pte &&& PTE_V = 0 then .inl (makeFault trapPageFaultNotPresent auxSubtypeNoValidPte (BitVec.ofNat 64 n))
      else if pte &&& (PTE_R ||| PTE_W ||| PTE_X) ≠ 0 then
        .inl (resolveLeaf user virtualAddr access pte (BitVec.ofNat 64 n)
          (if BitVec.ofNat 64 n = (2 : Word) then 30 else 21))
      else if pte &&& PTE_RESERVED_MASK ≠ 0 then
        .inl (makeFault trapPageFaultReserved auxSubtypeReservedBit (BitVec.ofNat 64 n))
      else .inr ((pte >>> 10) <<< 12) := by
  change Sum.map (resolve user virtualAddr access) id (if pte &&& PTE_V = 0 then _
    else if pte &&& (PTE_R ||| PTE_W ||| PTE_X) ≠ 0 then _ else if pte &&& PTE_RESERVED_MASK ≠ 0 then _ else _) = _
  split
  · rfl
  · split
    · rfl
    · split <;> rfl

lemma pageShift_eq (h : n < 2) : (if BitVec.ofNat 64 (n + 1) = (2 : Word) then 30 else 21) =
    if n + 1 = 2 then 30 else if n + 1 = 1 then 21 else 12 := by
  have hn : n = 0 ∨ n = 1 := by omega
  rcases hn with rfl | rfl <;> rfl

lemma descend_same (pte : Word) (hn : n < 2) (h : ¬ Parts (n + 1) pte) :
    (emulatorWalker user virtualAddr access).descend (n + 1) pte =
      (hardwareWalker user virtualAddr access).descend (n + 1) pte := by
  rw [descend_emulator, hardwareWalker, pageShift_eq hn]
  simp only [entryOutcome_eq (show n + 1 ≤ 2 from hn), Nat.succ_ne_zero, if_false]
  by_cases hv : pte &&& PTE_V = 0
  · simp only [hv, if_true]
  by_cases hl : pte &&& (PTE_R ||| PTE_W ||| PTE_X) = 0
  · by_cases hr : pte &&& PTE_RESERVED_MASK = 0
    · simp only [hv, hl, hr, ne_eq, not_true, if_false]
    · simp only [hv, hl, hr, ne_eq, not_true, not_false_eq_true, if_false, if_true]
  · have hr : pte &&& PTE_RESERVED_MASK = 0 := by
      by_contra hr
      exact h ⟨hv, (if_neg (Nat.succ_ne_zero n)).mpr ⟨hl, hr⟩⟩
    simp only [hv, hl, hr, ne_eq, not_true, not_false_eq_true, if_false, if_true]

lemma resolveLeaf_not_reserved (leaf level : Word) (shift : ℕ) (aux : Word) :
    resolveLeaf user virtualAddr access leaf level shift ≠ .fault trapPageFaultReserved aux := by
  rw [resolveLeaf]
  split
  · intro h
    exact absurd (PagingTranslateResult.fault.inj h).1 (by decide)
  · split
    · intro h
      exact absurd (PagingTranslateResult.fault.inj h).1 (by decide)
    · split
      · intro h
        exact absurd (PagingTranslateResult.fault.inj h).1 (by decide)
      · intro h
        cases h

lemma descend_diff (pte : Word) (hn : n < 2) (h : Parts (n + 1) pte) :
    ∃ r r', (emulatorWalker user virtualAddr access).descend (n + 1) pte = .inl r ∧
      (hardwareWalker user virtualAddr access).descend (n + 1) pte = .inl r' ∧ r ≠ r' := by
  obtain ⟨hv, h⟩ := h
  rw [if_neg (Nat.succ_ne_zero n)] at h
  refine ⟨resolveLeaf user virtualAddr access pte (BitVec.ofNat 64 (n + 1))
    (if BitVec.ofNat 64 (n + 1) = (2 : Word) then 30 else 21),
    makeFault trapPageFaultReserved auxSubtypeReservedBit (BitVec.ofNat 64 (n + 1)), ?_, ?_, ?_⟩
  · rw [descend_emulator, if_neg hv, if_pos h.1]
  · rw [hardwareWalker]
    simp only [entryOutcome_eq (show n + 1 ≤ 2 from hn), hv, h.2, ne_eq, not_false_eq_true, if_false, if_true]
  · exact resolveLeaf_not_reserved _ _ _ _

/-- The entries visited by the walk of an address, with their levels. -/
def visited (bus : MemoryBus) (root virtualAddr : Word) : List (ℕ × Word × Word) :=
  (leafWalker virtualAddr).trail (readEntry bus) 2 root

/-- Where the hardware and the emulator give the same result: an unaligned root and a non-canonical address do not
come together, and the walk, if there is one, visits no entry at which the two part. -/
def WalksAgree (bus : MemoryBus) (root virtualAddr : Word) (access : AccessType) : Prop :=
  (access = .execute ∧ virtualAddr.getLsbD 0 = true) ∨
    (isCanonical39 virtualAddr = true ∨ rootAligned root = true) ∧
      (isCanonical39 virtualAddr = true → rootAligned root = true →
        ∀ v ∈ visited bus root virtualAddr, ¬ Parts v.1 v.2.2)

lemma walks_agree_iff (bus : MemoryBus) (user : Bool) (root virtualAddr : Word) (access : AccessType) :
    (hardwareWalker user virtualAddr access).run (readEntry bus) 2 root =
        AddressTranslator.walk bus user virtualAddr access 2 root ↔
      ∀ v ∈ visited bus root virtualAddr, ¬ Parts v.1 v.2.2 := by
  have hemu : AddressTranslator.walk bus user virtualAddr access 2 root =
      (emulatorWalker user virtualAddr access).run (readEntry bus) 2 root := by
    rw [AddressTranslator.walk_eq, emulatorWalker, RadixWalk.Walker.run_map]
  have htrail : visited bus root virtualAddr = (emulatorWalker user virtualAddr access).trail (readEntry bus) 2 root :=
    ((leafWalker virtualAddr).trail_map (readEntry bus) (resolve user virtualAddr access) 2 root).symm
  rw [hemu, htrail, eq_comm]
  exact RadixWalk.Walker.run_eq_iff (emulatorWalker user virtualAddr access) (hardwareWalker user virtualAddr access)
    (readEntry bus) rfl last_iff 2 (fun _ e hk => descend_same e hk) (fun _ e hk => descend_diff e hk) root

lemma isCanonical39_eq (addr : Word) : isCanonical39 addr = AddressTranslator.isCanonical39 addr := by
  have hsign : ((addr >>> 38) &&& 1 = 0) ↔ addr.getLsbD 38 = false := by
    have h := BitFields.and_bit_ne_zero (addr >>> 38) 0 (by decide)
    rw [BitVec.getLsbD_ushiftRight] at h
    change ((addr >>> 38) &&& 1 != 0) = addr.getLsbD 38 at h
    rw [← h, bne_eq_false_iff_eq]
  have hupper : ∀ x : BitVec 25, (addr.extractLsb' 39 25 == x) = (addr >>> 39 == x.setWidth 64) := fun x => by
    rw [Bool.eq_iff_iff, beq_iff_eq, beq_iff_eq, ← BitVec.toNat_inj, ← BitVec.toNat_inj, BitVec.extractLsb'_toNat,
      BitVec.toNat_ushiftRight, BitVec.toNat_setWidth, Nat.shiftRight_eq_div_pow]
    have ha := addr.isLt
    have hx := x.isLt
    omega
  rw [isCanonical39, AddressTranslator.isCanonical39]
  simp only [hsign]
  cases addr.getLsbD 38 with
  | false => exact hupper 0
  | true => exact hupper (BitVec.allOnes 25)

lemma rootAligned_iff (root : Word) : rootAligned root = true ↔ root &&& (AddressTranslator.PAGE_SIZE - 1) = 0 := by
  rw [rootAligned, beq_iff_eq]
  rfl

lemma odd_iff (addr : Word) : addr.getLsbD 0 = true ↔ addr &&& 1 ≠ 0 := by
  have h := BitFields.and_bit_ne_zero addr 0 (by decide)
  rw [← h, bne_iff_ne]
  rfl

lemma requestFault_eq (access : AccessType) (root virtualAddr : Word) :
    requestFault access root virtualAddr =
      if access = .execute ∧ virtualAddr.getLsbD 0 = true then some ⟨trapExecAlign, encodeAux auxSubtypeNone 0⟩
      else if isCanonical39 virtualAddr = false then some ⟨trapPageFaultCanonical, encodeAux auxSubtypeCanonical 2⟩
      else if rootAligned root = false then some ⟨trapPageFaultReserved, encodeAux auxSubtypeReservedBit 2⟩
      else none := by
  have hmem : memoryFault root virtualAddr =
      if isCanonical39 virtualAddr = false then some ⟨trapPageFaultCanonical, encodeAux auxSubtypeCanonical 2⟩
      else if rootAligned root = false then some ⟨trapPageFaultReserved, encodeAux auxSubtypeReservedBit 2⟩
      else none := by
    rw [memoryFault]
    simp only [Bool.not_eq_true']
  cases access with
  | read => exact hmem.trans (if_neg fun h => by cases h.1).symm
  | write => exact hmem.trans (if_neg fun h => by cases h.1).symm
  | execute =>
    rw [requestFault, fetchFault, hmem]
    simp only [true_and, if_true]

lemma exists_run (read : Word → Word) (user : Bool) (n : ℕ) (s : PageWalk) :
    ∃ is, Runs.Along (PageWalk.step · user) (PageWalk.Answers read) s is ∧ is.countP (·.responseValid) = n := by
  induction n generalizing s with
  | zero => exact ⟨[], .nil s, rfl⟩
  | succ n ih =>
    let i : WalkInputs := ⟨true, true, false, read s.pteAddr⟩
    obtain ⟨is, hrun, hcount⟩ := ih (s.step user i)
    exact ⟨i :: is, .cons (fun _ => ⟨rfl, rfl⟩) hrun, by rw [List.countP_cons, hcount]; rfl⟩

lemma hardwareResult_exists (read : Word → Word) (user : Bool) (root virtualAddr : Word) (access : AccessType) :
    ∃ result, HardwareResult read root virtualAddr access user result := by
  cases hf : requestFault access root virtualAddr with
  | some f => exact ⟨_, .refused hf⟩
  | none =>
    obtain ⟨is, hrun, hcount⟩ := exists_run read user 5 (PageWalk.start virtualAddr root access .memory)
    obtain ⟨before, ⟨after, hsplit⟩, hres⟩ := walk_ends (onTheWay_start read user virtualAddr root access .memory) hrun
      (by rw [hcount]; exact le_refl 5)
    refine ⟨_, .walked hf ?_ hres⟩
    rw [← hsplit] at hrun
    exact hrun.of_append

/-- The hardware always comes to a result, and every result it can come to is the one of the emulator exactly where
`WalksAgree` holds. -/
theorem walk_equivalence_iff (bus : MemoryBus) (root virtualAddr : Word) (access : AccessType) (user : Bool) :
    (∃ result, HardwareResult (readEntry bus) root virtualAddr access user result) ∧
      ∀ result, HardwareResult (readEntry bus) root virtualAddr access user result →
        (result = translate bus ⟨true, root, user⟩ virtualAddr access ↔ WalksAgree bus root virtualAddr access) := by
  refine ⟨hardwareResult_exists _ user root virtualAddr access, fun result h => ?_⟩
  have hreq := requestFault_eq access root virtualAddr
  simp only [WalksAgree, AddressTranslator.translate, ← odd_iff, ← isCanonical39_eq]
  by_cases hodd : access = .execute ∧ virtualAddr.getLsbD 0 = true
  · rw [if_pos hodd] at hreq ⊢
    cases h with
    | refused hf =>
      rw [hreq, Option.some.injEq] at hf
      rw [← hf]
      exact iff_of_true rfl (.inl hodd)
    | walked hf _ _ =>
      rw [hreq] at hf
      cases hf
  rw [if_neg hodd] at hreq ⊢
  rw [or_iff_right hodd, if_neg (show ¬ (!true) = true by decide)]
  cases hc : isCanonical39 virtualAddr with
  | false =>
    rw [if_pos hc] at hreq
    cases h with
    | walked hf _ _ =>
      rw [hreq] at hf
      cases hf
    | refused hf =>
      rw [hreq, Option.some.injEq] at hf
      rw [← hf]
      cases hr : rootAligned root with
      | false =>
        rw [if_pos fun hz => by rw [(rootAligned_iff root).mpr hz] at hr; cases hr]
        refine iff_of_false (by decide) fun h => ?_
        exact h.1.elim Bool.false_ne_true Bool.false_ne_true
      | true =>
        rw [if_neg (not_not.mpr ((rootAligned_iff root).mp hr)), if_pos (by decide)]
        exact iff_of_true rfl ⟨.inr rfl, fun h => absurd h Bool.false_ne_true⟩
  | true =>
    rw [if_neg (by rw [hc]; decide)] at hreq
    cases hr : rootAligned root with
    | false =>
      rw [if_pos hr] at hreq
      rw [if_pos fun hz => by rw [(rootAligned_iff root).mpr hz] at hr; cases hr]
      cases h with
      | refused hf =>
        rw [hreq, Option.some.injEq] at hf
        rw [← hf]
        exact iff_of_true rfl ⟨.inl rfl, fun _ h => absurd h Bool.false_ne_true⟩
      | walked hf _ _ =>
        rw [hreq] at hf
        cases hf
    | true =>
      rw [if_neg (by rw [hr]; decide)] at hreq
      rw [if_neg (not_not.mpr ((rootAligned_iff root).mp hr)), if_neg (show ¬ (!true) = true by decide)]
      cases h with
      | refused hf =>
        rw [hreq] at hf
        cases hf
      | walked _ hrun hres =>
        rw [outcome_run hrun hres]
        refine (walks_agree_iff bus user root virtualAddr access).trans ⟨fun h => ⟨.inl rfl, fun _ _ => h⟩, fun h => ?_⟩
        exact h.2 rfl rfl

/-- A root table whose entry for the first gigabyte is a user page with a reserved bit set. -/
def reservedLeafRam : MemoryRegion where
  base := 0
  size := 0x10000
  kind := .ram
  data addr := if addr = 0x1000 then 0x1F else if addr = 0x1007 then 0x80 else 0

def reservedLeafBus : MemoryBus := ⟨[reservedLeafRam], List.pairwise_singleton _ _⟩

theorem walk_equivalence_iff_sample :
    (PagingTranslateResult.fault trapPageFaultCanonical (encodeAux auxSubtypeCanonical 2) =
      translate reservedLeafBus ⟨true, 0x1000, true⟩ 0x8000000000000000 .read) ↔
        WalksAgree reservedLeafBus 0x1000 0x8000000000000000 .read :=
  (walk_equivalence_iff reservedLeafBus 0x1000 0x8000000000000000 .read true).2 _ (.refused (f := ⟨_, _⟩) rfl)

/-- The hardware refuses the superpage with a reserved bit, the emulator maps it. -/
theorem reserved_superpage_parts :
    HardwareResult (readEntry reservedLeafBus) 0x1000 0x2000 .read true
        (.fault trapPageFaultReserved (encodeAux auxSubtypeReservedBit 2)) ∧
      translate reservedLeafBus ⟨true, 0x1000, true⟩ 0x2000 .read = .mapped 0x2000 := by
  have hrun : Runs.Along (PageWalk.step · true) (PageWalk.Answers (readEntry reservedLeafBus))
      (PageWalk.start 0x2000 0x1000 .read .memory) [⟨true, true, false, 0x800000000000001F⟩] :=
    .cons (fun _ => ⟨rfl, by decide +kernel⟩) (.nil _)
  exact ⟨.walked (by decide) hrun (by decide +kernel), by decide +kernel⟩

end Comparison

end Little64.Hdl

import Little64.Hdl.ExecuteShape
import Little64.Hdl.Occupancy

/-! The link register of the core against the order in which load-linked, store-conditional and
store instructions are performed. -/

namespace Little64.Hdl

open ByteMemory Runs

inductive LinkEvent
  | loadLinked (addr : Word)
  | store (addr : Word) (widthBytes : ℕ)
  | storeConditional (addr : Word) (writes reports : Bool)
  deriving DecidableEq, Repr

namespace LinkEvent

/-- The reservation of the eight bytes at an address outlives the event. -/
def Keeps (addr : Word) : LinkEvent → Prop
  | .loadLinked _ => False
  | .store addr' n => ¬ Overlap addr' n addr 8
  | .storeConditional _ _ _ => False

end LinkEvent

/-- The last load-linked was at the address, and nothing since then broke the reservation. -/
def Linked (log : List LinkEvent) (addr : Word) : Prop :=
  ∃ before after, log = before ++ .loadLinked addr :: after ∧ ∀ e ∈ after, e.Keeps addr

/-- A store-conditional writes memory and reports success exactly on a reserved address. -/
def ConditionalStoresLinked (log : List LinkEvent) : Prop :=
  ∀ before addr writes reports after, log = before ++ .storeConditional addr writes reports :: after →
    (writes = true ↔ Linked before addr) ∧ (reports = true ↔ Linked before addr)

/-- The reservation after an event. -/
def LinkEvent.reserved (r : Option Word) : LinkEvent → Option Word
  | .loadLinked addr => some addr
  | .store addr n => r.filter fun reserved => !decide (Overlap addr n reserved 8)
  | .storeConditional _ _ _ => none

def reservation (log : List LinkEvent) : Option Word := log.foldl LinkEvent.reserved none

section Log

variable {log : List LinkEvent} {addr : Word}

lemma reserved_eq_some (e : LinkEvent) (r : Option Word) :
    e.reserved r = some addr ↔ e = .loadLinked addr ∨ r = some addr ∧ e.Keeps addr := by
  cases e with
  | loadLinked addr' => simp [LinkEvent.reserved, LinkEvent.Keeps]
  | store addr' n => simp [LinkEvent.reserved, LinkEvent.Keeps, Option.filter_eq_some_iff]
  | storeConditional addr' writes reports => simp [LinkEvent.reserved, LinkEvent.Keeps]

lemma linked_append (e : LinkEvent) :
    Linked (log ++ [e]) addr ↔ e = .loadLinked addr ∨ Linked log addr ∧ e.Keeps addr :=
  exists_mark_append

theorem linked_iff : Linked log addr ↔ reservation log = some addr := by
  induction log using List.reverseRecOn with
  | nil =>
    refine ⟨?_, fun h => absurd h nofun⟩
    rintro ⟨before, after, heq, _⟩
    exact absurd heq (by simp)
  | append_singleton log e ih =>
    rw [linked_append, reservation, List.foldl_append]
    change _ ↔ e.reserved (reservation log) = some addr
    rw [reserved_eq_some, ih]

lemma conditionalStoresLinked_append {e : LinkEvent} (h : ConditionalStoresLinked log)
    (he : ∀ addr writes reports, e = .storeConditional addr writes reports →
      (writes = true ↔ Linked log addr) ∧ (reports = true ↔ Linked log addr)) :
    ConditionalStoresLinked (log ++ [e]) := by
  intro before addr writes reports after heq
  rcases append_singleton_eq_split.1 heq with ⟨rfl, rfl, rfl⟩ | ⟨rest, rfl, rfl⟩
  · exact he addr writes reports rfl
  · exact h before addr writes reports rest rfl

end Log

namespace Core

variable {c : CoreConfig} (s : Core c) (i : CoreInputs c)

/-- The event of the instruction that performs its access or fails its store-conditional in this cycle. -/
def linkEvents : List LinkEvent :=
  if s.memoryToRetire i then
    if s.xm.op.setReservation then [.loadLinked s.xm.virtualAddr]
    else if s.xm.op.flagsWrite then
      [.storeConditional s.xm.virtualAddr s.xm.op.write (s.xm.op.flagsValue.getLsbD 0)]
    else if s.xm.op.write then [.store s.xm.virtualAddr s.xm.op.widthBytes]
    else []
  else if s.executeToStorebuf then [.store s.execute.memoryAddr s.execute.memory.widthBytes]
  else if s.executeToStorebufLoad && s.execute.memory.setReservation then [.loadLinked s.execute.memoryAddr]
  else if s.executeToRetire && s.execute.clearReservation then
    [.storeConditional s.de.operandB false (s.execute.flagsValue.getLsbD 0)]
  else []

/-- The core with the events of its run so far. -/
def linkStep : Core c × List LinkEvent → CoreInputs c → Core c × List LinkEvent :=
  logged Core.step linkEvents

/-- The reservation that the link register stands for. -/
def linkReservation : Option Word := if s.llReservationValid then some s.llReservationAddr else none

/-- In this cycle the link register follows the event: a load-linked that the store buffer serves
finds its reservation standing, a store that the store buffer takes leaves the reserved bytes alone,
and a store to reserved bytes that the memory stage completes lies, like them, below the end of the
address space. -/
def LinkObserved : Prop :=
  (s.executeToStorebufLoad = true → s.execute.memory.setReservation = true →
    s.llReservationValid = true ∧ s.llReservationAddr = s.execute.memoryAddr) ∧
  (s.executeToStorebuf = true → s.llReservationValid = true →
    ¬ Overlap s.execute.memoryAddr s.execute.memory.widthBytes s.llReservationAddr 8) ∧
  (s.memoryToRetire i = true → s.xm.op.write = true → s.llReservationValid = true →
    Overlap s.xm.virtualAddr s.xm.op.widthBytes s.llReservationAddr 8 →
    s.llReservationAddr.toNat + 8 ≤ 2 ^ 64 ∧ s.xm.virtualAddr.toNat + s.xm.op.widthBytes ≤ 2 ^ 64)

instance : Decidable (s.LinkObserved i) := by
  unfold LinkObserved
  infer_instance

structure LinkInvariant (s : Core c) : Prop where
  occupancy : s.Occupancy
  shape : s.xm.valid = true → s.xm.op.Shape
  links : s.xm.valid = true → s.xm.op.setReservation = true → s.xm.op.reservationAddr = s.xm.virtualAddr
  holds : s.xm.valid = true → s.xm.op.flagsWrite = true → s.linkReservation = some s.xm.virtualAddr

section Steps

variable {s i}

lemma next_linkReservation (h : s.resetPending = false) :
    (s.step i).linkReservation =
      if s.nextLlReservationValid i then
        some (if s.memoryToRetire i && s.xm.op.setReservation then s.xm.op.reservationAddr
          else s.llReservationAddr)
      else none := by
  rw [step_eq i h]
  rfl

lemma overlap_of_compare {addr reserved : Word} {n : ℕ} (hn : n = 1 ∨ n = 2 ∨ n = 4 ∨ n = 8)
    (h : addr ≤ reserved + 7 ∧ reserved ≤ addr + BitVec.ofNat 64 n - 1) : Overlap addr n reserved 8 := by
  rw [overlap_iff]
  refine ⟨by omega, by omega, ?_⟩
  simp only [InRange]
  rcases hn with rfl | rfl | rfl | rfl <;> bv_omega

lemma compare_of_overlap {addr reserved : Word} {n : ℕ} (hn : n = 1 ∨ n = 2 ∨ n = 4 ∨ n = 8)
    (h : Overlap addr n reserved 8) (ha : addr.toNat + n ≤ 2 ^ 64) (hr : reserved.toNat + 8 ≤ 2 ^ 64) :
    addr ≤ reserved + 7 ∧ reserved ≤ addr + BitVec.ofNat 64 n - 1 := by
  rw [overlap_iff] at h
  obtain ⟨_, _, h⟩ := h
  simp only [InRange] at h
  rcases hn with rfl | rfl | rfl | rfl <;> bv_omega

lemma compare_wraps {addr reserved : Word} {n : ℕ} (hn : n = 1 ∨ n = 2 ∨ n = 4 ∨ n = 8)
    (h : addr ≤ reserved + 7 ∧ reserved ≤ addr + BitVec.ofNat 64 n - 1) :
    addr.toNat + n ≤ 2 ^ 64 ∧ reserved.toNat + 8 ≤ 2 ^ 64 := by
  rcases hn with rfl | rfl | rfl | rfl <;> bv_omega

lemma storeOverlapsReservation_iff (hs : s.LinkInvariant) (h : s.memoryToRetire i = true)
    (hw : s.xm.op.write = true) :
    s.storeOverlapsReservation i = true ↔ s.llReservationValid = true ∧
      s.xm.virtualAddr ≤ s.llReservationAddr + 7 ∧
        s.llReservationAddr ≤ s.xm.virtualAddr + BitVec.ofNat 64 s.xm.op.widthBytes - 1 := by
  have hn : s.xm.op.widthBytes ≠ 0 := by
    have := (hs.shape (memoryToRetire_spec h).1).width
    omega
  simp only [storeOverlapsReservation, h, hw, Bool.and_eq_true, bne_iff_ne, decide_eq_true_eq, ne_eq, hn,
    not_false_eq_true, and_true, and_assoc]
  exact Iff.rfl

/-- A store that the memory stage completes clears the reservation of bytes that it overlaps,
unless the comparison wraps. -/
lemma retiredStore_iff (hs : s.LinkInvariant) (hr : s.resetPending = false) (h : s.memoryToRetire i = true)
    (hw : s.xm.op.write = true) :
    (s.step i).linkReservation =
        s.linkReservation.filter (fun a => !decide (Overlap s.xm.virtualAddr s.xm.op.widthBytes a 8)) ↔
      (s.llReservationValid = true → Overlap s.xm.virtualAddr s.xm.op.widthBytes s.llReservationAddr 8 →
        s.llReservationAddr.toNat + 8 ≤ 2 ^ 64 ∧ s.xm.virtualAddr.toNat + s.xm.op.widthBytes ≤ 2 ^ 64) := by
  have hx := (memoryToRetire_spec h).1
  have hshape := hs.shape hx
  have hset : s.xm.op.setReservation = false := (hshape.store hw).2.2
  have hret : s.executeToRetire = false := by
    apply Bool.eq_false_of_not_eq_true
    intro he
    exact Bool.false_ne_true ((executeToRetire_spec he).2.2.1.symm.trans hx)
  have hiff := storeOverlapsReservation_iff hs h hw
  rw [next_linkReservation hr, nextLlReservationValid, linkReservation]
  simp only [h, hset, hret, Bool.and_false, Bool.false_and, Bool.false_eq_true, if_false]
  cases hl : s.llReservationValid with
  | false => cases s.storeOverlapsReservation i <;> simp
  | true =>
    simp only [hl, true_and] at hiff
    simp only [if_true, Option.filter_some, forall_true_left]
    by_cases ho : Overlap s.xm.virtualAddr s.xm.op.widthBytes s.llReservationAddr 8
    · simp only [ho, decide_true, Bool.not_true, Bool.false_eq_true, if_false, forall_true_left]
      cases hov : s.storeOverlapsReservation i with
      | true =>
        have hc := compare_wraps hshape.width (hiff.1 hov)
        exact ⟨fun _ => ⟨hc.2, hc.1⟩, fun _ => rfl⟩
      | false =>
        refine ⟨fun hn => absurd hn (by simp), fun hn => ?_⟩
        have hc := hiff.2 (compare_of_overlap hshape.width ho hn.2 hn.1)
        exact absurd hc (by simp [hov])
    · have hov : s.storeOverlapsReservation i = false := by
        apply Bool.eq_false_of_not_eq_true
        intro hov
        exact ho (overlap_of_compare hshape.width (hiff.1 hov))
      simp [ho, hov]

lemma executeToRetire_of_memoryStart (h : s.execute.memoryStart = true) : s.executeToRetire = false := by
  apply Bool.eq_false_of_not_eq_true
  intro he
  exact Bool.false_ne_true ((executeToRetire_spec he).2.1.symm.trans h)

/-- One cycle keeps the link register in step with the log exactly when it observes the event. -/
lemma linkReservation_step_iff (hs : s.LinkInvariant) (hr : s.resetPending = false) :
    (s.step i).linkReservation = (s.linkEvents i).foldl LinkEvent.reserved s.linkReservation ↔
      s.LinkObserved i := by
  cases h : s.memoryToRetire i with
  | true =>
    have hx := (memoryToRetire_spec h).1
    have hb : s.executeToStorebuf = false := by
      apply Bool.eq_false_of_not_eq_true
      intro he
      exact Bool.false_ne_true ((executeToStorebuf_spec he).2.2.2.2.2.2.2.2.2.1.symm.trans hx)
    have hbl : s.executeToStorebufLoad = false := by
      apply Bool.eq_false_of_not_eq_true
      intro he
      exact Bool.false_ne_true ((executeToStorebufLoad_spec he).2.2.2.2.2.2.2.1.symm.trans hx)
    simp only [LinkObserved, hb, hbl, h, Bool.false_eq_true, false_implies, true_and, forall_true_left, linkEvents,
      if_true]
    cases hw : s.xm.op.write with
    | true =>
      simp only [forall_true_left]
      rw [← retiredStore_iff hs hr h hw, ((hs.shape hx).store hw).2.2]
      cases hf : s.xm.op.flagsWrite with
      | false => exact Iff.rfl
      | true =>
        have hself : Overlap s.xm.virtualAddr s.xm.op.widthBytes s.xm.virtualAddr 8 := by
          rw [((hs.shape hx).conditional hf).2.1, overlap_iff]
          simp [InRange]
        rw [hs.holds hx hf]
        simp [LinkEvent.reserved, Option.filter_some, hself]
    | false =>
      have hf : s.xm.op.flagsWrite = false := by
        apply Bool.eq_false_of_not_eq_true
        intro hf
        exact Bool.false_ne_true (hw.symm.trans ((hs.shape hx).conditional hf).1)
      have hov : s.storeOverlapsReservation i = false := by simp [storeOverlapsReservation, hw]
      rw [next_linkReservation hr, nextLlReservationValid, hov]
      cases hset : s.xm.op.setReservation with
      | true => simp [h, LinkEvent.reserved, hs.links hx hset]
      | false =>
        have hret : s.executeToRetire = false := by
          apply Bool.eq_false_of_not_eq_true
          intro he
          exact Bool.false_ne_true ((executeToRetire_spec he).2.2.1.symm.trans hx)
        simp [hf, hret, linkReservation]
  | false =>
    have hov : s.storeOverlapsReservation i = false := by simp [storeOverlapsReservation, h]
    rw [next_linkReservation hr, nextLlReservationValid, hov]
    simp only [LinkObserved, h, linkEvents, Bool.false_and, Bool.false_eq_true, if_false, false_implies, and_true]
    cases hb : s.executeToStorebuf with
    | true =>
      have hbl : s.executeToStorebufLoad = false := by
        apply Bool.eq_false_of_not_eq_true
        intro he
        exact Bool.false_ne_true ((executeToStorebufLoad_spec he).2.2.1.symm.trans (executeToStorebuf_spec hb).2.2.1)
      have hret := executeToRetire_of_memoryStart (executeToStorebuf_spec hb).2.1
      simp only [hbl, hret, Bool.false_and, Bool.false_eq_true, if_false, false_implies, true_and, if_true,
        forall_true_left, List.foldl_cons, List.foldl_nil, LinkEvent.reserved, linkReservation]
      cases hl : s.llReservationValid <;> simp [Option.filter_some]
    | false =>
      cases hbl : s.executeToStorebufLoad with
      | true =>
        have hret := executeToRetire_of_memoryStart (executeToStorebufLoad_spec hbl).2.1
        cases hset : s.execute.memory.setReservation <;> simp [hret, LinkEvent.reserved, linkReservation]
      | false =>
        cases hret : s.executeToRetire && s.execute.clearReservation <;>
          simp [LinkEvent.reserved, linkReservation]

lemma linkEvents_starting (hs : s.Occupancy) (hr : s.resetPending = true) :
    s.linkEvents i = [] ∧ (s.step i).linkReservation = s.linkReservation ∧ s.LinkObserved i := by
  obtain ⟨hd, _⟩ := hs.starting hr
  have hm : s.memoryToRetire i = false := by simp [memoryToRetire, hd.xm]
  have hb : s.executeToStorebuf = false := by simp [executeToStorebuf, hd.de]
  have hbl : s.executeToStorebufLoad = false := by simp [executeToStorebufLoad, hd.de]
  have hret : s.executeToRetire = false := by simp [executeToRetire, hd.de]
  refine ⟨by simp [linkEvents, hm, hb, hbl, hret], ?_, by simp [LinkObserved, hm, hb, hbl]⟩
  rw [step_reset_eq i hr]
  rfl

lemma linkReservation_kept (hr : s.resetPending = false) (hm : s.memoryToRetire i = false)
    (he : s.executeToRetire = false) : (s.step i).linkReservation = s.linkReservation := by
  rw [next_linkReservation hr, nextLlReservationValid]
  simp [storeOverlapsReservation, hm, he, linkReservation]

theorem LinkInvariant.step (hs : s.LinkInvariant) (i : CoreInputs c) : (s.step i).LinkInvariant := by
  cases hr : s.resetPending with
  | true =>
    have hd := (hs.occupancy.starting hr).1
    have hx : (s.step i).xm.valid = false := by
      rw [step_reset_eq i hr]
      exact hd.xm
    have hf : (s.step i).xm.valid = true → False := fun h => Bool.false_ne_true (hx.symm.trans h)
    exact ⟨hs.occupancy.step i, fun h => (hf h).elim, fun h => (hf h).elim, fun h => (hf h).elim⟩
  | false =>
    have hx : (s.step i).xm = s.nextXm i := by rw [step_eq i hr]
    refine ⟨hs.occupancy.step i, ?_, ?_, ?_⟩ <;> rw [hx] <;> intro hv
    · exact nextXm_shape hs.shape hv
    · obtain ⟨_, _, _, ⟨_, _, hm⟩ | ⟨_, hem, hm⟩ | ⟨_, _, hxv, hm⟩⟩ := nextXm_cases hv
      · change (s.managedXm i).op.setReservation = true → _
        rw [hm]
        exact nofun
      · change (s.managedXm i).op.setReservation = true → (s.managedXm i).op.reservationAddr = (s.managedXm i).virtualAddr
        rw [hm]
        exact (execute_shape s).links (executeToMemory_spec hem).2.1
      · change (s.managedXm i).op.setReservation = true → (s.managedXm i).op.reservationAddr = (s.managedXm i).virtualAddr
        rw [hm]
        exact hs.links hxv
    · obtain ⟨_, hmr, _, ⟨_, _, hm⟩ | ⟨_, hem, hm⟩ | ⟨_, _, hxv, hm⟩⟩ := nextXm_cases hv
      · change (s.managedXm i).op.flagsWrite = true → _
        rw [hm]
        exact nofun
      · have hspec := executeToMemory_spec hem
        change (s.managedXm i).op.flagsWrite = true → _ = some (s.managedXm i).virtualAddr
        rw [hm, linkReservation_kept hr hmr (executeToRetire_of_memoryStart hspec.2.1)]
        intro hf
        obtain ⟨hl, ha⟩ := (execute_shape s).holds hspec.2.1 hf
        change s.llReservationValid = true at hl
        change s.llReservationAddr = s.execute.memoryAddr at ha
        simp [linkReservation, startedXm, hl, ha]
      · have hret : s.executeToRetire = false := by
          apply Bool.eq_false_of_not_eq_true
          intro he
          exact Bool.false_ne_true ((executeToRetire_spec he).2.2.1.symm.trans hxv)
        change (s.managedXm i).op.flagsWrite = true → _ = some (s.managedXm i).virtualAddr
        rw [hm, linkReservation_kept hr hmr hret]
        exact hs.holds hxv

/-- Every store-conditional that the core performs agrees with the link register. -/
lemma conditionalStoresLinked_step (hs : s.LinkInvariant) {log : List LinkEvent}
    (ha : s.linkReservation = reservation log) (h : ConditionalStoresLinked log) :
    ConditionalStoresLinked (log ++ s.linkEvents i) := by
  rw [linkEvents]
  cases hm : s.memoryToRetire i with
  | true =>
    have hx := (memoryToRetire_spec hm).1
    cases hset : s.xm.op.setReservation with
    | true => exact conditionalStoresLinked_append h nofun
    | false =>
      cases hf : s.xm.op.flagsWrite with
      | true =>
        obtain ⟨hw, _, _, hz⟩ := (hs.shape hx).conditional hf
        refine conditionalStoresLinked_append h fun addr writes reports he => ?_
        cases he
        rw [linked_iff, ← ha, hs.holds hx hf, hw, hz]
        simp
      | false =>
        cases s.xm.op.write with
        | true => exact conditionalStoresLinked_append h nofun
        | false => simpa using h
  | false =>
    cases s.executeToStorebuf with
    | true => exact conditionalStoresLinked_append h nofun
    | false =>
      cases s.executeToStorebufLoad && s.execute.memory.setReservation with
      | true => exact conditionalStoresLinked_append h nofun
      | false =>
        cases hc : s.executeToRetire && s.execute.clearReservation with
        | false => simpa using h
        | true =>
          rw [Bool.and_eq_true] at hc
          obtain ⟨hl, hz⟩ := (execute_shape s).fails hc.2
          have hne : s.linkReservation ≠ some s.de.operandB := by
            change (s.llReservationValid && s.llReservationAddr == s.de.operandB) = false at hl
            rw [linkReservation]
            cases hv : s.llReservationValid with
            | false => simp
            | true => simpa [hv] using hl
          refine conditionalStoresLinked_append h fun addr writes reports he => ?_
          cases he
          rw [linked_iff, ← ha, hz]
          simp [hne]

end Steps

/-- The link register stands for the reservation of the log, and the store-conditionals followed it. -/
def LinkAtomicity (p : Core c × List LinkEvent) : Prop :=
  (∀ addr, p.1.linkReservation = some addr ↔ Linked p.2 addr) ∧ ConditionalStoresLinked p.2

lemma agrees_iff (log : List LinkEvent) :
    (∀ addr, s.linkReservation = some addr ↔ Linked log addr) ↔ s.linkReservation = reservation log := by
  simp only [linked_iff]
  exact ⟨Option.ext, fun h _ => by rw [h]⟩

/-- From reset on, load-linked and store-conditional are atomic all along a run exactly when
the link register observes the event of every cycle. -/
theorem linkAtomicity_iff (c : CoreConfig) (is : List (CoreInputs c)) :
    (∀ is', is' <+: is → LinkAtomicity (run linkStep (reset c, []) is')) ↔
      Along linkStep (fun p i => p.1.LinkObserved i) (reset c, []) is := by
  have hstart : (reset c).LinkInvariant :=
    ⟨occupancy_reset c, fun h => absurd h Bool.false_ne_true, fun h => absurd h Bool.false_ne_true,
      fun h => absurd h Bool.false_ne_true⟩
  have hnil : ConditionalStoresLinked [] := by
    intro before addr writes reports after heq
    exact absurd heq (by simp)
  have hagree : (reset c).linkReservation = reservation [] := rfl
  have hstep : ∀ (p : Core c × List LinkEvent) i, p.1.LinkInvariant ∧ LinkAtomicity p →
      (LinkAtomicity (linkStep p i) ↔ p.1.LinkObserved i) ∧
        (p.1.LinkObserved i → (linkStep p i).1.LinkInvariant ∧ LinkAtomicity (linkStep p i)) := by
    rintro ⟨s, log⟩ i ⟨hs, ha, hc⟩
    rw [agrees_iff] at ha
    have hc' := conditionalStoresLinked_step (i := i) hs ha hc
    have hiff : LinkAtomicity (linkStep (s, log) i) ↔ s.LinkObserved i := by
      have hstep : (s.step i).linkReservation = reservation (log ++ s.linkEvents i) ↔ s.LinkObserved i := by
        rw [reservation, List.foldl_append]
        change _ = (s.linkEvents i).foldl LinkEvent.reserved (reservation log) ↔ _
        rw [← ha]
        cases hr : s.resetPending with
        | false => exact linkReservation_step_iff hs hr
        | true =>
          obtain ⟨he, hk, ho⟩ := linkEvents_starting (i := i) hs.occupancy hr
          rw [he]
          exact ⟨fun _ => ho, fun _ => hk⟩
      rw [← hstep, ← agrees_iff]
      exact ⟨fun h => h.1, fun h => ⟨h, hc'⟩⟩
    exact ⟨hiff, fun h => ⟨hs.step i, hiff.2 h⟩⟩
  have hgood : LinkAtomicity (reset c, []) := ⟨((reset c).agrees_iff []).2 hagree, hnil⟩
  exact along_iff hstep ⟨hstart, hgood⟩ hgood is

/-- `STORE R2, [R1]`, `LLR`, `SCR` and `STOP`, in one line: the store buffer serves the load-linked,
which leaves the link register clear. -/
theorem not_conditionalStoresLinked : ¬ ∀ (c : CoreConfig) (is : List (CoreInputs c)),
    ConditionalStoresLinked (run linkStep (reset c, []) is).2 := by
  intro h
  have hlog : (run linkStep (reset .uncached, [])
      (List.replicate 10 (.endless .uncached 0xDF00C412C3130412 0x100))).2 =
      [.store 0x100 8, .loadLinked 0x100, .storeConditional 0x100 false false] := by
    decide +kernel
  have hc := h .uncached (List.replicate 10 (.endless .uncached 0xDF00C412C3130412 0x100))
  rw [hlog] at hc
  have hlinked : Linked [.store 0x100 8, .loadLinked 0x100] 0x100 := linked_iff.2 (by decide)
  have hfalse := (hc _ 0x100 false false [] rfl).1.2 hlinked
  exact Bool.false_ne_true hfalse

end Core

end Little64.Hdl

import Little64.Hdl.DataBridge
import Little64.Library.Runs

/-! The bridge at work between its requester and the word bus: every request is answered once, in order, and its bytes
are the bytes of its beats. -/

namespace Little64.Hdl

open LittleEndian

namespace DataBridge

inductive Response
  | data (value : Word)
  | error
  deriving DecidableEq, Repr

/-- One cycle: whether the requester starts its next request, its lines while it has none, and the answer of the bus. -/
structure Cycle where
  go : Bool
  quiet : CpuLines
  bus : BusAnswer
  deriving DecidableEq, Repr

/-- The bridge between a requester that holds each request until it is answered and the word bus, with what has passed on
both sides. -/
structure System where
  bridge : Bridge
  todo : List Request
  active : Bool
  beats : List Beat
  responses : List Response

namespace System

def start (requests : List Request) : System := ⟨Bridge.reset, requests, false, [], []⟩

variable (s : System)

def requesting (c : Cycle) : Option Request := if s.active || c.go then s.todo.head? else none

def cpuLines (c : Cycle) : CpuLines :=
  match s.requesting c with
  | some r => ⟨r.adr, r.datW, r.sel, true, true, r.we⟩
  | none => { c.quiet with cyc := false }

def answered : Bool := s.bridge.cpuAck || s.bridge.cpuErr

def acknowledged (c : Cycle) : Bool := s.bridge.bus.stb && c.bus.ack && !c.bus.err

def response : List Response :=
  if s.bridge.cpuAck then [.data s.bridge.responseData] else if s.bridge.cpuErr then [.error] else []

def step (c : Cycle) : System where
  bridge := s.bridge.step (s.cpuLines c) c.bus
  todo := if s.answered then s.todo.tail else s.todo
  active := !s.answered && (s.requesting c).isSome
  beats := s.beats ++ if s.acknowledged c then [⟨s.bridge.bus, c.bus.datR⟩] else []
  responses := s.responses ++ s.response

/-- The system after the first cycles of a run. -/
def after (requests : List Request) (cycles : ℕ → Cycle) : ℕ → System
  | 0 => start requests
  | n + 1 => (after requests cycles n).step (cycles n)

end System

/-- A request with the beats done for it and the response given to it. -/
structure Exchange where
  request : Request
  beats : List Beat
  response : Response

/-- The bytes of the beats are the bytes of the request, with the values the response returns; a request that ends with
a bus error has done the first of them. -/
def Exchange.Served (e : Exchange) : Prop :=
  match e.response with
  | .data value => e.beats.flatMap Beat.events = e.request.events value
  | .error => ∃ value, e.beats.flatMap Beat.events <+: e.request.events value

section Refinement

variable {s : Bridge} {t : System} {r : Request} {rest : List Request} {current : List Beat} {datR : Word} {c : Cycle}

structure Latched (s : Bridge) (r : Request) : Prop where
  adr : s.latchedAdr = r.adr
  datW : s.latchedDatW = r.datW
  sel : s.latchedSel = r.sel
  we : s.latchedWe = r.we

def firstBeat (s : Bridge) (datR : Word) : Beat :=
  ⟨⟨s.firstBusAdr.setWidth 61, s.firstBusDatW, s.firstBusSel, true, true, s.latchedWe⟩, datR⟩

def secondBeat (s : Bridge) (datR : Word) : Beat :=
  ⟨⟨s.secondBusAdr.setWidth 61, s.secondBusDatW, s.secondBusSel, true, true, s.latchedWe⟩, datR⟩

lemma events_firstBeat (h : Latched s r) {value : Word} (hvalue : ∀ j < 8 - s.offset, byteAt datR (s.offset + j) = byteAt value j) :
    (firstBeat s datR).events = (List.range (8 - s.offset)).filterMap
      (laneEvent r.sel r.adr r.we (if r.we then r.datW else value)) := by
  rw [Beat.events, firstBeat, ← h.sel, ← h.adr, ← h.we, ← h.datW]
  apply lanes_first
  intro j hj
  cases s.latchedWe with
  | true => exact byteAt_firstBusDatW hj
  | false => exact hvalue j hj

lemma events_secondBeat (h : Latched s r) {value : Word}
    (hvalue : ∀ j < s.offset, byteAt datR j = byteAt value (8 - s.offset + j)) :
    (secondBeat s datR).events = (List.range s.offset).filterMap fun j =>
      laneEvent r.sel r.adr r.we (if r.we then r.datW else value) (8 - s.offset + j) := by
  rw [Beat.events, secondBeat, ← h.sel, ← h.adr, ← h.we, ← h.datW]
  apply lanes_second
  intro j hj
  cases s.latchedWe with
  | true => exact byteAt_secondBusDatW hj
  | false => exact hvalue j hj

lemma request_events (s : Bridge) (r : Request) (value : Word) : r.events value =
    (List.range (8 - s.offset)).filterMap (laneEvent r.sel r.adr r.we (if r.we then r.datW else value)) ++
      (List.range s.offset).filterMap fun j =>
        laneEvent r.sel r.adr r.we (if r.we then r.datW else value) (8 - s.offset + j) :=
  lanes_eq s.offset (offset_lt s) r.sel r.adr

lemma served_single (h : Latched s r) (hsplit : s.splitAccess = false) :
    Exchange.Served ⟨r, [firstBeat s datR], .data (s.singleReadData datR)⟩ := by
  have hsecond : s.secondBusSel = 0#8 := by
    rw [Bridge.splitAccess, bne_eq_false_iff_eq] at hsplit
    exact hsplit
  have hrest : (List.range s.offset).filterMap (fun j => laneEvent r.sel r.adr r.we
      (if r.we then r.datW else s.singleReadData datR) (8 - s.offset + j)) = [] := by
    rw [List.filterMap_eq_nil_iff]
    intro j hj
    rw [List.mem_range] at hj
    have hlt := offset_lt s
    have hsel := getLsbD_secondBusSel (s := s) (j := j) (by omega)
    rw [hsecond, BitVec.getLsbD_zero, h.sel, show 8 + j - s.offset = 8 - s.offset + j by omega] at hsel
    rw [laneEvent, ← hsel]
    rfl
  simp only [Exchange.Served, List.flatMap_singleton]
  rw [request_events s, hrest, List.append_nil]
  exact events_firstBeat h fun j _ => (byteAt_singleReadData s datR j).symm

lemma served_combined (h : Latched s r) :
    Exchange.Served ⟨r, [firstBeat s s.firstReadData, secondBeat s datR], .data (s.combinedReadData datR)⟩ := by
  simp only [Exchange.Served, List.flatMap_cons, List.flatMap_nil, List.append_nil]
  rw [request_events s, events_firstBeat h fun j hj => (byteAt_combinedReadData_first hj).symm,
    events_secondBeat h fun j hj => (byteAt_combinedReadData_second hj).symm]

lemma prefix_firstBeat (h : Latched s r) :
    ∃ value, [firstBeat s s.firstReadData].flatMap Beat.events <+: r.events value := by
  refine ⟨s.combinedReadData 0, ?_⟩
  rw [List.flatMap_singleton, request_events s, events_firstBeat h fun j hj => (byteAt_combinedReadData_first hj).symm]
  exact List.prefix_append _ _

/-- What the bridge is in the middle of, with the beats done for it so far. -/
inductive InFlight (t : System) : List Beat → Prop
  | quiet : t.bridge.state = .idle → t.bridge.responseValid = false → InFlight t []
  | first {r : Request} {rest : List Request} : t.bridge.state = .beat0 → t.bridge.responseValid = false →
      t.active = true → t.todo = r :: rest → Latched t.bridge r → InFlight t []
  | second {r : Request} {rest : List Request} : t.bridge.state = .beat1 → t.bridge.responseValid = false →
      t.active = true → t.todo = r :: rest → Latched t.bridge r →
      InFlight t [firstBeat t.bridge t.bridge.firstReadData]
  | answer {r : Request} {rest : List Request} {current : List Beat} : t.bridge.state = .idle →
      t.bridge.responseValid = true → t.active = true → t.todo = r :: rest →
      Exchange.Served ⟨r, current, if t.bridge.responseError then .error else .data t.bridge.responseData⟩ →
      InFlight t current

/-- All that has passed, cut into the exchanges that are done and the one in flight. -/
structure Accounts (requests : List Request) (t : System) (done : List Exchange) (current : List Beat) : Prop where
  requests : done.map Exchange.request ++ t.todo = requests
  responses : t.responses = done.map Exchange.response
  beats : t.beats = done.flatMap Exchange.beats ++ current
  served : ∀ e ∈ done, e.Served
  inFlight : InFlight t current

lemma requesting_active (hactive : t.active = true) (htodo : t.todo = r :: rest) : t.requesting c = some r := by
  rw [System.requesting, hactive, Bool.true_or, if_pos rfl, htodo, List.head?_cons]

lemma answered_of_not_valid (hvalid : t.bridge.responseValid = false) : t.answered = false ∧ t.response = [] := by
  have hcpuAck : t.bridge.cpuAck = false := by rw [Bridge.cpuAck, hvalid, Bool.false_and]
  have hcpuErr : t.bridge.cpuErr = false := by rw [Bridge.cpuErr, hvalid, Bool.false_and]
  constructor
  · rw [System.answered, hcpuAck, hcpuErr, Bool.false_or]
  · rw [System.response, hcpuAck, hcpuErr]
    rfl

def System.passed (t : System) (c : Cycle) : List Beat := if t.acknowledged c then [⟨t.bridge.bus, c.bus.datR⟩] else []

lemma Accounts.pass {requests : List Request} {done : List Exchange} (h : Accounts requests t done current)
    (hvalid : t.bridge.responseValid = false) (hnext : InFlight (t.step c) (current ++ t.passed c)) :
    Accounts requests (t.step c) done (current ++ t.passed c) := by
  obtain ⟨hanswered, hresponse⟩ := answered_of_not_valid hvalid
  refine ⟨?_, ?_, ?_, h.served, hnext⟩
  · rw [System.step, hanswered]
    exact h.requests
  · rw [System.step, hresponse, List.append_nil]
    exact h.responses
  · rw [System.step, h.beats, List.append_assoc]
    rfl

lemma step_held (hvalid : t.bridge.responseValid = false) (hactive : t.active = true) (htodo : t.todo = r :: rest) :
    (t.step c).active = true ∧ (t.step c).todo = r :: rest := by
  obtain ⟨hanswered, -⟩ := answered_of_not_valid hvalid
  constructor
  · rw [System.step, hanswered, requesting_active hactive htodo]
    rfl
  · rw [System.step, hanswered]
    exact htodo

lemma step_idle_none (hstate : t.bridge.state = .idle) (hvalid : t.bridge.responseValid = false)
    (hrequest : t.requesting c = none) : (t.step c).bridge = t.bridge := by
  simp only [System.step, Bridge.step, System.cpuLines, hrequest, hvalid, hstate, Bool.false_eq_true, if_false,
    Bool.false_and]

lemma step_idle_some (hstate : t.bridge.state = .idle) (hvalid : t.bridge.responseValid = false)
    (hrequest : t.requesting c = some r) : (t.step c).bridge = { t.bridge with
      latchedAdr := r.adr, latchedDatW := r.datW, latchedSel := r.sel, latchedWe := r.we, state := .beat0 } := by
  simp only [System.step, Bridge.step, System.cpuLines, hrequest, hvalid, hstate, Bool.false_eq_true, if_false,
    Bool.and_self, if_true]

lemma step_beat0 (hstate : t.bridge.state = .beat0) (hvalid : t.bridge.responseValid = false) :
    (t.step c).bridge = if c.bus.err then
      { t.bridge with responseValid := true, responseError := true, responseData := 0, state := .idle }
    else if c.bus.ack then
      if t.bridge.splitAccess then { t.bridge with firstReadData := c.bus.datR, state := .beat1 }
      else { t.bridge with responseValid := true, responseError := false
                           responseData := t.bridge.singleReadData c.bus.datR, state := .idle }
    else t.bridge := by
  simp only [System.step, Bridge.step, hvalid, hstate, Bool.false_eq_true, if_false]

lemma step_beat1 (hstate : t.bridge.state = .beat1) (hvalid : t.bridge.responseValid = false) :
    (t.step c).bridge = if c.bus.err then
      { t.bridge with responseValid := true, responseError := true, responseData := 0, state := .idle }
    else if c.bus.ack then
      { t.bridge with responseValid := true, responseError := false
                      responseData := t.bridge.combinedReadData c.bus.datR, state := .idle }
    else t.bridge := by
  simp only [System.step, Bridge.step, hvalid, hstate, Bool.false_eq_true, if_false]

lemma inFlight_quiet (hstate : t.bridge.state = .idle) (hvalid : t.bridge.responseValid = false) :
    InFlight (t.step c) (t.passed c) := by
  have hpassed : t.passed c = [] := by
    rw [System.passed, System.acknowledged, Bridge.bus, hstate]
    rfl
  obtain ⟨hanswered, -⟩ := answered_of_not_valid hvalid
  rw [hpassed]
  cases hrequest : t.requesting c with
  | none =>
    have hbridge := step_idle_none hstate hvalid hrequest
    apply InFlight.quiet
    · rw [hbridge]
      exact hstate
    · rw [hbridge]
      exact hvalid
  | some r =>
    have hbridge := step_idle_some hstate hvalid hrequest
    obtain ⟨rest, htodo⟩ : ∃ rest, t.todo = r :: rest := by
      rw [System.requesting] at hrequest
      split at hrequest
      · exact List.head?_eq_some_iff.mp hrequest
      · cases hrequest
    apply InFlight.first
    · rw [hbridge]
    · rw [hbridge]
      exact hvalid
    · rw [System.step, hanswered, hrequest]
      rfl
    · rw [System.step, hanswered]
      exact htodo
    · rw [hbridge]
      exact ⟨rfl, rfl, rfl, rfl⟩

lemma inFlight_first (hstate : t.bridge.state = .beat0) (hvalid : t.bridge.responseValid = false)
    (hactive : t.active = true) (htodo : t.todo = r :: rest) (hlatched : Latched t.bridge r) :
    InFlight (t.step c) (t.passed c) := by
  obtain ⟨hheld, hkept⟩ := step_held (c := c) hvalid hactive htodo
  have hbus : t.bridge.bus.stb = true := by rw [Bridge.bus, hstate]
  have hbeat : (⟨t.bridge.bus, c.bus.datR⟩ : Beat) = firstBeat t.bridge c.bus.datR := by
    rw [Bridge.bus, hstate]
    rfl
  have hstep := step_beat0 (c := c) hstate hvalid
  rw [System.passed, System.acknowledged, hbus, hbeat, Bool.true_and]
  cases herr : c.bus.err with
  | true =>
    rw [herr, if_pos rfl] at hstep
    rw [Bool.not_true, Bool.and_false, if_neg Bool.false_ne_true]
    refine .answer (by rw [hstep]) (by rw [hstep]) hheld hkept ?_
    rw [hstep]
    exact ⟨0, List.nil_prefix⟩
  | false =>
    rw [herr, if_neg Bool.false_ne_true] at hstep
    cases hack : c.bus.ack with
    | false =>
      rw [hack, if_neg Bool.false_ne_true] at hstep
      exact .first (hstep ▸ hstate) (hstep ▸ hvalid) hheld hkept (hstep ▸ hlatched)
    | true =>
      rw [hack, if_pos rfl] at hstep
      rw [Bool.not_false, Bool.and_self, if_pos rfl]
      cases hsplit : t.bridge.splitAccess with
      | true =>
        rw [hsplit, if_pos rfl] at hstep
        have hsecond := InFlight.second (t := t.step c) (by rw [hstep])
          (by rw [hstep]; exact hvalid) hheld hkept (by rw [hstep]; exact ⟨hlatched.adr, hlatched.datW, hlatched.sel, hlatched.we⟩)
        rw [hstep] at hsecond
        exact hsecond
      | false =>
        rw [hsplit, if_neg Bool.false_ne_true] at hstep
        refine .answer (by rw [hstep]) (by rw [hstep]) hheld hkept ?_
        rw [hstep]
        exact served_single hlatched hsplit

lemma inFlight_second (hstate : t.bridge.state = .beat1) (hvalid : t.bridge.responseValid = false)
    (hactive : t.active = true) (htodo : t.todo = r :: rest) (hlatched : Latched t.bridge r) :
    InFlight (t.step c) ([firstBeat t.bridge t.bridge.firstReadData] ++ t.passed c) := by
  obtain ⟨hheld, hkept⟩ := step_held (c := c) hvalid hactive htodo
  have hbus : t.bridge.bus.stb = true := by rw [Bridge.bus, hstate]
  have hbeat : (⟨t.bridge.bus, c.bus.datR⟩ : Beat) = secondBeat t.bridge c.bus.datR := by
    rw [Bridge.bus, hstate]
    rfl
  have hstep := step_beat1 (c := c) hstate hvalid
  rw [System.passed, System.acknowledged, hbus, hbeat, Bool.true_and]
  cases herr : c.bus.err with
  | true =>
    rw [herr, if_pos rfl] at hstep
    rw [Bool.not_true, Bool.and_false, if_neg Bool.false_ne_true, List.append_nil]
    refine .answer (by rw [hstep]) (by rw [hstep]) hheld hkept ?_
    rw [hstep]
    exact prefix_firstBeat hlatched
  | false =>
    rw [herr, if_neg Bool.false_ne_true] at hstep
    cases hack : c.bus.ack with
    | false =>
      rw [hack, if_neg Bool.false_ne_true] at hstep
      have hsecond := InFlight.second (t := t.step c) (hstep ▸ hstate) (hstep ▸ hvalid) hheld hkept (hstep ▸ hlatched)
      rw [hstep] at hsecond
      exact hsecond
    | true =>
      rw [hack, if_pos rfl] at hstep
      rw [Bool.not_false, Bool.and_self, if_pos rfl]
      refine .answer (by rw [hstep]) (by rw [hstep]) hheld hkept ?_
      rw [hstep]
      exact served_combined hlatched

lemma Accounts.respond {requests : List Request} {done : List Exchange} (h : Accounts requests t done current)
    (hstate : t.bridge.state = .idle) (hvalid : t.bridge.responseValid = true) (htodo : t.todo = r :: rest)
    (hserved : Exchange.Served
      ⟨r, current, if t.bridge.responseError then .error else .data t.bridge.responseData⟩) :
    Accounts requests (t.step c)
      (done ++ [⟨r, current, if t.bridge.responseError then .error else .data t.bridge.responseData⟩]) [] := by
  have hanswered : t.answered = true := by
    rw [System.answered, Bridge.cpuAck, Bridge.cpuErr, hvalid]
    cases t.bridge.responseError <;> rfl
  have hresponse : t.response = [if t.bridge.responseError then .error else .data t.bridge.responseData] := by
    rw [System.response, Bridge.cpuAck, Bridge.cpuErr, hvalid]
    cases t.bridge.responseError <;> rfl
  have hacknowledged : t.acknowledged c = false := by
    rw [System.acknowledged, Bridge.bus, hstate]
    rfl
  have hbridge : (t.step c).bridge = { t.bridge with responseValid := false } := by
    rw [System.step, Bridge.step, if_pos hvalid]
  constructor
  case requests =>
    rw [System.step, hanswered, if_pos rfl, htodo, List.map_append, List.append_assoc, ← h.requests, htodo]
    rfl
  case responses =>
    rw [System.step, hresponse, h.responses, List.map_append]
    rfl
  case beats =>
    rw [System.step, hacknowledged, h.beats, if_neg Bool.false_ne_true, List.append_nil, List.append_nil,
      List.flatMap_append, List.flatMap_singleton]
  case served =>
    intro e he
    rcases List.mem_append.mp he with he | he
    · exact h.served e he
    · rw [List.mem_singleton.mp he]
      exact hserved
  case inFlight =>
    apply InFlight.quiet
    · rw [hbridge]
      exact hstate
    · rw [hbridge]

lemma Accounts.step {requests : List Request} {done : List Exchange} (h : Accounts requests t done current) (c : Cycle) :
    ∃ done' current', Accounts requests (t.step c) done' current' := by
  cases h.inFlight with
  | quiet hstate hvalid => exact ⟨done, _, h.pass hvalid (inFlight_quiet hstate hvalid)⟩
  | first hstate hvalid hactive htodo hlatched =>
    exact ⟨done, _, h.pass hvalid (inFlight_first hstate hvalid hactive htodo hlatched)⟩
  | second hstate hvalid hactive htodo hlatched =>
    exact ⟨done, _, h.pass hvalid (inFlight_second hstate hvalid hactive htodo hlatched)⟩
  | answer hstate hvalid _ htodo hserved => exact ⟨_, [], h.respond hstate hvalid htodo hserved⟩

lemma accounts_after (requests : List Request) (cycles : ℕ → Cycle) (n : ℕ) :
    ∃ done current, Accounts requests (System.after requests cycles n) done current := by
  induction n with
  | zero =>
    refine ⟨[], [], rfl, rfl, rfl, ?_, .quiet rfl rfl⟩
    intro e he
    cases he
  | succ n ih =>
    obtain ⟨done, current, h⟩ := ih
    exact h.step (cycles n)

lemma InFlight.prefix_events (h : InFlight t current) :
    ∃ value, current.flatMap Beat.events <+: t.todo.head?.elim [] fun r => r.events value := by
  cases h with
  | quiet => exact ⟨0, List.nil_prefix⟩
  | first => exact ⟨0, List.nil_prefix⟩
  | second _ _ _ htodo hlatched =>
    rw [htodo]
    exact prefix_firstBeat hlatched
  | answer _ _ _ htodo hserved =>
    rw [htodo]
    rw [Exchange.Served] at hserved
    cases herror : t.bridge.responseError with
    | true =>
      rw [herror] at hserved
      exact hserved
    | false =>
      rw [herror] at hserved
      exact ⟨t.bridge.responseData, hserved ▸ List.prefix_rfl⟩

lemma no_error (requests : List Request) {cycles : ℕ → Cycle} {n : ℕ} (h : ∀ m < n, (cycles m).bus.err = false) :
    (System.after requests cycles n).bridge.responseError = false ∧
      .error ∉ (System.after requests cycles n).responses := by
  induction n with
  | zero => exact ⟨rfl, List.not_mem_nil⟩
  | succ n ih =>
    obtain ⟨herror, hresponses⟩ := ih fun m hm => h m (Nat.lt_succ_of_lt hm)
    have herr := h n (Nat.lt_succ_self n)
    constructor
    · simp only [System.after, System.step, Bridge.step, herr]
      split
      · exact herror
      · split
        · split
          · exact herror
          · exact herror
        · rw [if_neg Bool.false_ne_true]
          split
          · split
            · exact herror
            · rfl
          · exact herror
        · rw [if_neg Bool.false_ne_true]
          split
          · rfl
          · exact herror
    · simp only [System.after, System.step, List.mem_append, not_or]
      refine ⟨hresponses, ?_⟩
      rw [System.response, Bridge.cpuAck, Bridge.cpuErr, herror]
      cases (System.after requests cycles n).bridge.responseValid <;> simp

end Refinement

section Liveness

variable {requests : List Request} {cycles : ℕ → Cycle} {n L : ℕ}

/-- A stage of the service of the request after the first `L`. -/
def Stage (requests : List Request) (cycles : ℕ → Cycle) (L : ℕ) (state : BridgeState) (valid : Bool) (n : ℕ) : Prop :=
  (System.after requests cycles n).bridge.state = state ∧
    (System.after requests cycles n).bridge.responseValid = valid ∧
    (System.after requests cycles n).responses.length = L

lemma length_responses (hvalid : (System.after requests cycles n).bridge.responseValid = false) :
    (System.after requests cycles (n + 1)).responses.length = (System.after requests cycles n).responses.length := by
  rw [System.after, System.step, (answered_of_not_valid hvalid).2, List.append_nil]

lemma stage_answer {state : BridgeState} (h : Stage requests cycles L state true n) :
    (System.after requests cycles (n + 1)).responses.length = L + 1 := by
  obtain ⟨-, hvalid, hlength⟩ := h
  rw [System.after, System.step, List.length_append, hlength, System.response, Bridge.cpuAck, Bridge.cpuErr, hvalid]
  cases (System.after requests cycles n).bridge.responseError <;> rfl

def BusAnswers (cycles : ℕ → Cycle) : Prop := ∀ n, ∃ m ≥ n, (cycles m).bus.ack = true ∨ (cycles m).bus.err = true

lemma stage_second (hbus : BusAnswers cycles) (h : Stage requests cycles L .beat1 false n) :
    ∃ m, Stage requests cycles L .idle true m := by
  have hstep : ∀ k, Stage requests cycles L .beat1 false k →
      if (cycles k).bus.ack = true ∨ (cycles k).bus.err = true then Stage requests cycles L .idle true (k + 1)
      else Stage requests cycles L .beat1 false (k + 1) := by
    rintro k ⟨hstate, hvalid, hlength⟩
    have hbridge := step_beat1 (c := cycles k) hstate hvalid
    have hnext := (length_responses hvalid).trans hlength
    cases herr : (cycles k).bus.err <;> cases hack : (cycles k).bus.ack <;>
      simp only [herr, hack, Bool.false_eq_true, if_true, if_false, or_true, or_false, or_self] at hbridge ⊢
    · exact ⟨by rw [System.after, hbridge, hstate], by rw [System.after, hbridge, hvalid], hnext⟩
    · exact ⟨by rw [System.after, hbridge], by rw [System.after, hbridge], hnext⟩
    · exact ⟨by rw [System.after, hbridge], by rw [System.after, hbridge], hnext⟩
    · exact ⟨by rw [System.after, hbridge], by rw [System.after, hbridge], hnext⟩
  obtain ⟨m, hm, hfires⟩ := hbus n
  obtain ⟨k, hk, hanswer⟩ := Runs.exists_fires (fun k hk hno => by
    have hnext := hstep k hk
    rwa [if_neg hno] at hnext) h ⟨m, hm, fun _ => hfires⟩
  have hnext := hstep k hk
  rw [if_pos hanswer] at hnext
  exact ⟨k + 1, hnext⟩

lemma stage_first (hbus : BusAnswers cycles) (h : Stage requests cycles L .beat0 false n) :
    ∃ m, Stage requests cycles L .idle true m := by
  have hstep : ∀ k, Stage requests cycles L .beat0 false k →
      if (cycles k).bus.ack = true ∨ (cycles k).bus.err = true then
        Stage requests cycles L .idle true (k + 1) ∨ Stage requests cycles L .beat1 false (k + 1)
      else Stage requests cycles L .beat0 false (k + 1) := by
    rintro k ⟨hstate, hvalid, hlength⟩
    have hbridge := step_beat0 (c := cycles k) hstate hvalid
    have hnext := (length_responses hvalid).trans hlength
    cases herr : (cycles k).bus.err <;> cases hack : (cycles k).bus.ack <;>
      simp only [herr, hack, Bool.false_eq_true, if_true, if_false, or_true, or_false, or_self] at hbridge ⊢
    · exact ⟨by rw [System.after, hbridge, hstate], by rw [System.after, hbridge, hvalid], hnext⟩
    · cases hsplit : (System.after requests cycles k).bridge.splitAccess <;>
        simp only [hsplit, Bool.false_eq_true, if_true, if_false] at hbridge
      · exact .inl ⟨by rw [System.after, hbridge], by rw [System.after, hbridge], hnext⟩
      · exact .inr ⟨by rw [System.after, hbridge], by rw [System.after, hbridge, hvalid], hnext⟩
    · exact .inl ⟨by rw [System.after, hbridge], by rw [System.after, hbridge], hnext⟩
    · exact .inl ⟨by rw [System.after, hbridge], by rw [System.after, hbridge], hnext⟩
  obtain ⟨m, hm, hfires⟩ := hbus n
  obtain ⟨k, hk, hanswer⟩ := Runs.exists_fires (fun k hk hno => by
    have hnext := hstep k hk
    rwa [if_neg hno] at hnext) h ⟨m, hm, fun _ => hfires⟩
  have hnext := hstep k hk
  rw [if_pos hanswer] at hnext
  rcases hnext with hdone | hsecond
  · exact ⟨k + 1, hdone⟩
  · exact stage_second hbus hsecond

def RequesterGoes (cycles : ℕ → Cycle) : Prop := ∀ n, ∃ m ≥ n, (cycles m).go = true

lemma stage_quiet (hgo : RequesterGoes cycles) (hbus : BusAnswers cycles) (h : Stage requests cycles L .idle false n)
    (htodo : (System.after requests cycles n).todo ≠ []) : ∃ m, Stage requests cycles L .idle true m := by
  have hkeep : ∀ k, Stage requests cycles L .idle false k ∧ (System.after requests cycles k).todo ≠ [] →
      ¬ ((System.after requests cycles k).requesting (cycles k) ≠ none) →
      Stage requests cycles L .idle false (k + 1) ∧ (System.after requests cycles (k + 1)).todo ≠ [] := by
    rintro k ⟨⟨hstate, hvalid, hlength⟩, htodo⟩ hno
    have hbridge := step_idle_none hstate hvalid (not_not.mp hno)
    refine ⟨⟨by rw [System.after, hbridge, hstate], by rw [System.after, hbridge, hvalid],
      (length_responses hvalid).trans hlength⟩, ?_⟩
    rw [System.after, System.step, (answered_of_not_valid hvalid).1]
    exact htodo
  obtain ⟨m, hm, hgoes⟩ := hgo n
  obtain ⟨k, ⟨⟨hstate, hvalid, hlength⟩, -⟩, hrequest⟩ := Runs.exists_fires hkeep ⟨h, htodo⟩ ⟨m, hm, fun hm' => by
    obtain ⟨r, rest, hr⟩ := List.exists_cons_of_ne_nil hm'.2
    rw [System.requesting, hgoes, Bool.or_true, if_pos rfl, hr]
    exact Option.some_ne_none r⟩
  obtain ⟨r, hr⟩ := Option.ne_none_iff_exists'.mp hrequest
  have hbridge := step_idle_some hstate hvalid hr
  refine stage_first hbus (n := k + 1) ⟨by rw [System.after, hbridge], by rw [System.after, hbridge, hvalid], ?_⟩
  exact (length_responses hvalid).trans hlength

lemma next_response (hgo : RequesterGoes cycles) (hbus : BusAnswers cycles)
    (htodo : (System.after requests cycles n).todo ≠ []) :
    ∃ m, (System.after requests cycles m).responses.length = (System.after requests cycles n).responses.length + 1 := by
  obtain ⟨done, current, haccounts⟩ := accounts_after requests cycles n
  obtain ⟨m, hm⟩ : ∃ m, Stage requests cycles (System.after requests cycles n).responses.length .idle true m := by
    cases haccounts.inFlight with
    | quiet hstate hvalid => exact stage_quiet hgo hbus ⟨hstate, hvalid, rfl⟩ htodo
    | first hstate hvalid => exact stage_first hbus ⟨hstate, hvalid, rfl⟩
    | second hstate hvalid => exact stage_second hbus ⟨hstate, hvalid, rfl⟩
    | answer hstate hvalid => exact ⟨n, hstate, hvalid, rfl⟩
  exact ⟨m + 1, stage_answer hm⟩

lemma all_answered (hgo : RequesterGoes cycles) (hbus : BusAnswers cycles) {k : ℕ} (hk : k ≤ requests.length) :
    ∃ n, (System.after requests cycles n).responses.length = k := by
  induction k with
  | zero => exact ⟨0, rfl⟩
  | succ k ih =>
    obtain ⟨n, hn⟩ := ih (by omega)
    obtain ⟨done, current, haccounts⟩ := accounts_after requests cycles n
    have htodo : (System.after requests cycles n).todo ≠ [] := by
      intro hempty
      have hlength := congrArg List.length haccounts.requests
      have hdone := congrArg List.length haccounts.responses
      rw [hempty, List.append_nil, List.length_map] at hlength
      rw [List.length_map] at hdone
      omega
    obtain ⟨m, hm⟩ := next_response hgo hbus htodo
    exact ⟨m, hm.trans (by rw [hn])⟩

end Liveness

/-- At every moment of every run the requests answered are a beginning of the requests made, each with one response and
with beats that transfer its bytes; only a bus error gives an error, and where the bus goes on answering every request
is answered. -/
theorem bridge_refines (requests : List Request) (cycles : ℕ → Cycle) :
    (∀ n, ∃ (done : List Exchange) (current : List Beat), done.map Exchange.request ++ (System.after requests cycles n).todo = requests ∧
      (System.after requests cycles n).responses = done.map Exchange.response ∧
      (System.after requests cycles n).beats = done.flatMap Exchange.beats ++ current ∧
      (∀ e ∈ done, e.Served) ∧
      (∃ value, current.flatMap Beat.events <+:
        (System.after requests cycles n).todo.head?.elim [] fun r => r.events value) ∧
      (.error ∈ (System.after requests cycles n).responses → ∃ m < n, (cycles m).bus.err = true)) ∧
    (RequesterGoes cycles → BusAnswers cycles → ∀ k ≤ requests.length,
      ∃ n, (System.after requests cycles n).responses.length = k) := by
  constructor
  · intro n
    obtain ⟨done, current, h⟩ := accounts_after requests cycles n
    refine ⟨done, current, h.requests, h.responses, h.beats, h.served, h.inFlight.prefix_events, fun herror => ?_⟩
    by_contra hno
    push Not at hno
    exact (no_error requests fun m hm => Bool.eq_false_iff.mpr (hno m hm)).2 herror
  · intro hgo hbus k hk
    exact all_answered hgo hbus hk

end DataBridge

end Little64.Hdl

import Little64.Emulator.TimerDevice

/-! What the timer is for: two sources that each count their own deadlines, and a device that keeps to them while no
deadline passes the end of the clock and no two ticks in a row are due. -/

namespace Little64.Emulator

/-- A source in use: when it was programmed, how often it has asserted, whether a tick has always met its deadline, and
the deadline it waits for. -/
structure TimerSource where
  interval : ℕ
  programmed : ℕ
  asserted : ℕ
  punctual : Bool
  deadline : ℕ
  deriving DecidableEq, Repr

namespace TimerSource

def program (now interval : ℕ) : TimerSource := ⟨interval, now, 0, true, now + interval⟩

def due (now : ℕ) (x : TimerSource) : Bool := decide (x.deadline ≤ now)

def tick (now : ℕ) (x : TimerSource) : TimerSource :=
  if x.due now then
    { x with
      asserted := x.asserted + 1
      punctual := x.punctual && decide (now = x.deadline)
      deadline := now + x.interval }
  else x

end TimerSource

/-- Both sources and the line that they share. -/
structure TwoTimers where
  cycleSource : Option TimerSource
  timeSource : Option TimerSource
  cycles : ℕ
  nanoseconds : ℕ
  line : Bool
  deriving DecidableEq, Repr

namespace TwoTimers

def start : TwoTimers := ⟨none, none, 0, 0, false⟩

variable (s : TwoTimers)

def asserts : TimerEvent → Bool
  | .tick => s.cycleSource.any (TimerSource.due s.cycles) || s.timeSource.any (TimerSource.due s.nanoseconds)
  | _ => false

/-- Programming a source concerns that source only; switching it off clears the line as well. -/
def step : TimerEvent → TwoTimers
  | .tick => { s with
      cycleSource := s.cycleSource.map (TimerSource.tick s.cycles)
      timeSource := s.timeSource.map (TimerSource.tick s.nanoseconds)
      line := s.line || s.asserts .tick }
  | .write64 offset val =>
    if offset = 16 then
      if val = 0 then { s with cycleSource := none, line := false }
      else { s with cycleSource := some (.program s.cycles val.toNat) }
    else if offset = 24 then
      if val = 0 then { s with timeSource := none, line := false }
      else { s with timeSource := some (.program s.nanoseconds val.toNat) }
    else s
  | .write8 => s
  | .advance cycles nanoseconds => { s with
      cycles := s.cycles + cycles
      nanoseconds := s.nanoseconds + nanoseconds }
  | .acknowledge => { s with line := false }

end TwoTimers

namespace TimerSystem

/-- No sum passes the end of the clock, and no source is due when the last tick asserted and nothing was programmed
since. -/
def Regular (s : TimerSystem) : TimerEvent → Prop
  | .tick =>
    (s.device.cycleDue s.clockCycles = true →
      s.device.firedThisCycle = false ∧ s.cycles + s.device.cycleInterval.toNat < 2 ^ 64) ∧
    (s.device.timeDue s.virtualNanoseconds = true →
      s.device.firedThisCycle = false ∧ s.nanoseconds + s.device.timeIntervalNs.toNat < 2 ^ 64)
  | .write64 offset val =>
    (offset = 16 → s.cycles + val.toNat < 2 ^ 64) ∧ (offset = 24 → s.nanoseconds + val.toNat < 2 ^ 64)
  | .advance cycles nanoseconds => s.cycles + cycles < 2 ^ 64 ∧ s.nanoseconds + nanoseconds < 2 ^ 64
  | _ => True

instance (s : TimerSystem) : (e : TimerEvent) → Decidable (s.Regular e)
  | .tick => inferInstanceAs (Decidable (_ ∧ _))
  | .write64 _ _ => inferInstanceAs (Decidable (_ ∧ _))
  | .write8 => .isTrue trivial
  | .advance _ _ => inferInstanceAs (Decidable (_ ∧ _))
  | .acknowledge => .isTrue trivial

end TimerSystem

/-- The registers of a source are those of the abstract one. -/
def Tracks (interval next : Word) : Option TimerSource → Prop
  | none => interval = 0
  | some x => interval ≠ 0 ∧ interval.toNat = x.interval ∧ next.toNat = x.deadline

structure Follows (s : TimerSystem) (a : TwoTimers) : Prop where
  cycleSource : Tracks s.device.cycleInterval s.device.nextCycleFire a.cycleSource
  timeSource : Tracks s.device.timeIntervalNs s.device.nextTimeFireNs a.timeSource
  cycles : s.cycles = a.cycles
  nanoseconds : s.nanoseconds = a.nanoseconds
  line : s.line = a.line
  cycles_lt : s.cycles < 2 ^ 64
  nanoseconds_lt : s.nanoseconds < 2 ^ 64

section Simulation

variable {s : TimerSystem} {a : TwoTimers} {e : TimerEvent} {interval next : Word} {x : Option TimerSource} {now : ℕ}

lemma due_of_tracks (h : Tracks interval next x) (hnow : now < 2 ^ 64) :
    TimerDevice.due interval next (BitVec.ofNat 64 now) = x.any (TimerSource.due now) := by
  cases x with
  | none =>
    have hzero : interval = 0 := h
    rw [TimerDevice.due, decide_eq_false (not_not.2 hzero)]
    rfl
  | some x =>
    obtain ⟨hne, -, hdeadline⟩ := h
    have hreached : next ≤ BitVec.ofNat 64 now ↔ x.deadline ≤ now := by
      rw [BitVec.le_def, BitVec.toNat_ofNat, Nat.mod_eq_of_lt hnow, hdeadline]
    rw [TimerDevice.due, decide_eq_true hne, Bool.true_and]
    exact decide_eq_decide.2 hreached

lemma tracks_tick (h : Tracks interval next x) (hnow : now < 2 ^ 64)
    (hfits : TimerDevice.due interval next (BitVec.ofNat 64 now) = true → now + interval.toNat < 2 ^ 64) :
    Tracks interval (if TimerDevice.due interval next (BitVec.ofNat 64 now) then BitVec.ofNat 64 now + interval else next)
      (x.map (TimerSource.tick now)) := by
  have hdue := due_of_tracks h hnow
  cases x with
  | none => exact h
  | some x =>
    obtain ⟨hne, hinterval, hdeadline⟩ := h
    rw [Option.any_some] at hdue
    rw [Option.map_some, TimerSource.tick, hdue]
    split
    · next hfires =>
      refine ⟨hne, hinterval, ?_⟩
      have hsum := hfits (hdue.trans hfires)
      rw [BitVec.toNat_add, BitVec.toNat_ofNat, Nat.mod_eq_of_lt hnow, Nat.mod_eq_of_lt hsum, hinterval]
    · exact ⟨hne, hinterval, hdeadline⟩

lemma tracks_program {val : Word} (hne : val ≠ 0) (hnow : now < 2 ^ 64) (hfits : now + val.toNat < 2 ^ 64) :
    Tracks val (BitVec.ofNat 64 now + val) (some (.program now val.toNat)) := by
  refine ⟨hne, rfl, ?_⟩
  rw [BitVec.toNat_add, BitVec.toNat_ofNat, Nat.mod_eq_of_lt hnow, Nat.mod_eq_of_lt hfits]
  rfl

lemma asserts_eq (h : Follows s a) (hregular : s.Regular e) : s.asserts e = a.asserts e := by
  cases e with
  | tick =>
    have hcycle : s.device.cycleDue s.clockCycles = a.cycleSource.any (TimerSource.due a.cycles) := by
      rw [← h.cycles]
      exact due_of_tracks h.cycleSource h.cycles_lt
    have htime : s.device.timeDue s.virtualNanoseconds = a.timeSource.any (TimerSource.due a.nanoseconds) := by
      rw [← h.nanoseconds]
      exact due_of_tracks h.timeSource h.nanoseconds_lt
    rw [TimerSystem.asserts, TwoTimers.asserts, ← hcycle, ← htime, TimerDevice.tick]
    obtain ⟨hcycles, htimes⟩ := hregular
    simp only
    cases hc : s.device.cycleDue s.clockCycles with
    | true => rw [(hcycles hc).1]; rfl
    | false =>
      cases ht : s.device.timeDue s.virtualNanoseconds with
      | true => rw [(htimes ht).1]; rfl
      | false => rfl
  | _ => rfl

lemma tick_fields (d : TimerDevice) (c t : Word) :
    (d.tick c t).1.cycleInterval = d.cycleInterval ∧ (d.tick c t).1.timeIntervalNs = d.timeIntervalNs ∧
      (d.tick c t).1.nextCycleFire = (if d.cycleDue c then c + d.cycleInterval else d.nextCycleFire) ∧
      (d.tick c t).1.nextTimeFireNs = (if d.timeDue t then t + d.timeIntervalNs else d.nextTimeFireNs) := by
  rw [TimerDevice.tick]
  simp only
  split
  · exact ⟨rfl, rfl, rfl, rfl⟩
  split <;> exact ⟨rfl, rfl, rfl, rfl⟩

lemma follows_tick (h : Follows s a) (hregular : s.Regular .tick) : Follows (s.step .tick) (a.step .tick) := by
  obtain ⟨hcycleInterval, htimeInterval, hnextCycle, hnextTime⟩ :=
    tick_fields s.device s.clockCycles s.virtualNanoseconds
  refine ⟨?_, ?_, h.cycles, h.nanoseconds, ?_, h.cycles_lt, h.nanoseconds_lt⟩
  · change Tracks (s.device.tick _ _).1.cycleInterval (s.device.tick _ _).1.nextCycleFire (a.cycleSource.map _)
    rw [hcycleInterval, hnextCycle, ← h.cycles]
    exact tracks_tick h.cycleSource h.cycles_lt fun hdue => (hregular.1 hdue).2
  · change Tracks (s.device.tick _ _).1.timeIntervalNs (s.device.tick _ _).1.nextTimeFireNs (a.timeSource.map _)
    rw [htimeInterval, hnextTime, ← h.nanoseconds]
    exact tracks_tick h.timeSource h.nanoseconds_lt fun hdue => (hregular.2 hdue).2
  · change (s.line || s.asserts .tick) = (a.line || a.asserts .tick)
    rw [h.line, asserts_eq h hregular]

lemma follows_write64 {offset val : Word} (h : Follows s a) (hregular : s.Regular (.write64 offset val)) :
    Follows (s.step (.write64 offset val)) (a.step (.write64 offset val)) := by
  rw [TimerSystem.step, TwoTimers.step]
  by_cases h16 : offset = 16
  · subst h16
    by_cases hval : val = 0
    · subst hval
      exact ⟨rfl, h.timeSource, h.cycles, h.nanoseconds, Bool.and_false _, h.cycles_lt, h.nanoseconds_lt⟩
    · have hwritten : s.device.write64 s.clockCycles s.virtualNanoseconds 16 val =
          ({ s.device with cycleInterval := val, nextCycleFire := s.clockCycles + val, firedThisCycle := false },
            false) := by
        rw [TimerDevice.write64, if_neg (by decide), if_pos rfl, if_pos hval]
      rw [if_pos rfl, if_neg hval, hwritten, ← h.cycles]
      exact ⟨tracks_program hval h.cycles_lt (hregular.1 rfl), h.timeSource, rfl, h.nanoseconds,
        (Bool.and_true _).trans h.line, h.cycles_lt, h.nanoseconds_lt⟩
  by_cases h24 : offset = 24
  · subst h24
    by_cases hval : val = 0
    · subst hval
      exact ⟨h.cycleSource, rfl, h.cycles, h.nanoseconds, Bool.and_false _, h.cycles_lt, h.nanoseconds_lt⟩
    · have hwritten : s.device.write64 s.clockCycles s.virtualNanoseconds 24 val =
          ({ s.device with timeIntervalNs := val, nextTimeFireNs := s.virtualNanoseconds + val, firedThisCycle := false },
            false) := by
        rw [TimerDevice.write64, if_neg (by decide), if_neg (by decide), if_pos rfl, if_pos hval]
      rw [if_neg (by decide), if_pos rfl, if_neg hval, hwritten, ← h.nanoseconds]
      exact ⟨h.cycleSource, tracks_program hval h.nanoseconds_lt (hregular.2 rfl), h.cycles, rfl,
        (Bool.and_true _).trans h.line, h.cycles_lt, h.nanoseconds_lt⟩
  · have hwritten : s.device.write64 s.clockCycles s.virtualNanoseconds offset val = (s.device, false) := by
      rw [TimerDevice.write64, if_neg h16, if_neg h24]
      exact ite_self _
    rw [if_neg h16, if_neg h24, hwritten]
    exact ⟨h.cycleSource, h.timeSource, h.cycles, h.nanoseconds, (Bool.and_true _).trans h.line, h.cycles_lt,
      h.nanoseconds_lt⟩

lemma follows_step (h : Follows s a) (hregular : s.Regular e) : Follows (s.step e) (a.step e) := by
  cases e with
  | tick => exact follows_tick h hregular
  | write64 offset val => exact follows_write64 h hregular
  | write8 => exact h
  | advance cycles nanoseconds =>
    exact ⟨h.cycleSource, h.timeSource, congrArg (· + cycles) h.cycles, congrArg (· + nanoseconds) h.nanoseconds,
      h.line, hregular.1, hregular.2⟩
  | acknowledge =>
    exact ⟨h.cycleSource, h.timeSource, h.cycles, h.nanoseconds, rfl, h.cycles_lt, h.nanoseconds_lt⟩

end Simulation

section Accounts

/-- No assertion comes before its interval has elapsed, and while the ticks meet the deadlines none is left out. -/
structure Keeps (now : ℕ) (x : TimerSource) : Prop where
  positive : 0 < x.interval
  enough : x.programmed + (x.asserted + 1) * x.interval ≤ x.deadline
  exact : x.punctual = true → x.deadline = x.programmed + (x.asserted + 1) * x.interval
  recent : x.deadline ≤ now + x.interval

variable {now : ℕ} {x : TimerSource}

lemma keeps_program {interval : ℕ} (h : 0 < interval) : Keeps now (.program now interval) := by
  have hfirst : (0 + 1) * interval = interval := by rw [Nat.zero_add, Nat.one_mul]
  refine ⟨h, ?_, fun _ => ?_, le_rfl⟩
  · change now + (0 + 1) * interval ≤ now + interval
    rw [hfirst]
  · change now + interval = now + (0 + 1) * interval
    rw [hfirst]

lemma keeps_advance (h : Keeps now x) (n : ℕ) : Keeps (now + n) x :=
  ⟨h.positive, h.enough, h.exact, h.recent.trans (by omega)⟩

lemma keeps_tick (h : Keeps now x) : Keeps now (x.tick now) ∧ now < (x.tick now).deadline := by
  rw [TimerSource.tick]
  split
  · next hdue =>
    have hreached : x.deadline ≤ now := of_decide_eq_true hdue
    have hnext : (x.asserted + 1 + 1) * x.interval = (x.asserted + 1) * x.interval + x.interval := Nat.succ_mul _ _
    refine ⟨⟨h.positive, ?_, fun hpunctual => ?_, le_rfl⟩, Nat.lt_add_of_pos_right h.positive⟩
    · have henough := h.enough
      change x.programmed + (x.asserted + 1 + 1) * x.interval ≤ now + x.interval
      omega
    · obtain ⟨hbefore, hmet⟩ := Bool.and_eq_true_iff.1 hpunctual
      have hexact := h.exact hbefore
      have hnow : now = x.deadline := of_decide_eq_true hmet
      change now + x.interval = x.programmed + (x.asserted + 1 + 1) * x.interval
      omega
  · next hdue =>
    rw [TimerSource.due, decide_eq_true_iff, Nat.not_le] at hdue
    exact ⟨h, hdue⟩

lemma asserted_le (h : Keeps now x) : x.asserted ≤ (now - x.programmed) / x.interval := by
  have henough := h.enough
  have hrecent := h.recent
  rw [Nat.succ_mul] at henough
  rw [Nat.le_div_iff_mul_le h.positive]
  omega

lemma asserted_eq (h : Keeps now x) (hwaits : now < x.deadline) (hpunctual : x.punctual = true) :
    x.asserted = (now - x.programmed) / x.interval := by
  apply Nat.le_antisymm (asserted_le h)
  have hexact := h.exact hpunctual
  rw [← Nat.lt_succ_iff, Nat.div_lt_iff_lt_mul h.positive]
  rw [hexact] at hwaits
  have hpositive : 0 < (x.asserted + 1) * x.interval := Nat.mul_pos (Nat.succ_pos _) h.positive
  change now - x.programmed < (x.asserted + 1) * x.interval
  omega

structure Kept (a : TwoTimers) : Prop where
  cycleSource : ∀ x ∈ a.cycleSource, Keeps a.cycles x
  timeSource : ∀ x ∈ a.timeSource, Keeps a.nanoseconds x

lemma kept_step {a : TwoTimers} (h : Kept a) (e : TimerEvent) : Kept (a.step e) := by
  cases e with
  | tick =>
    constructor
    · intro x hx
      obtain ⟨y, hy, rfl⟩ := Option.map_eq_some_iff.1 hx
      exact (keeps_tick (h.cycleSource y hy)).1
    · intro x hx
      obtain ⟨y, hy, rfl⟩ := Option.map_eq_some_iff.1 hx
      exact (keeps_tick (h.timeSource y hy)).1
  | write64 offset val =>
    have hpositive (hval : val ≠ 0) : 0 < val.toNat := by
      rw [Nat.pos_iff_ne_zero]
      exact fun hzero => hval (BitVec.eq_of_toNat_eq hzero)
    rw [TwoTimers.step]
    split
    · split
      · exact ⟨fun x hx => (Option.not_mem_none x hx).elim, h.timeSource⟩
      · next hval => exact ⟨fun x hx => Option.some.inj hx ▸ keeps_program (hpositive hval), h.timeSource⟩
    split
    · split
      · exact ⟨h.cycleSource, fun x hx => (Option.not_mem_none x hx).elim⟩
      · next hval => exact ⟨h.cycleSource, fun x hx => Option.some.inj hx ▸ keeps_program (hpositive hval)⟩
    · exact h
  | write8 => exact h
  | advance cycles nanoseconds =>
    exact ⟨fun x hx => keeps_advance (h.cycleSource x hx) cycles,
      fun x hx => keeps_advance (h.timeSource x hx) nanoseconds⟩
  | acknowledge => exact ⟨h.cycleSource, h.timeSource⟩

/-- A source has asserted at most once an interval since it was programmed, and right after a tick exactly so if every
tick has met its deadline. -/
def Accounted (justTicked : Prop) (now : ℕ) (x : TimerSource) : Prop :=
  x.asserted ≤ (now - x.programmed) / x.interval ∧
    (justTicked → x.punctual = true → x.asserted = (now - x.programmed) / x.interval)

lemma accounted_kept {a : TwoTimers} (h : Kept a) :
    (∀ x ∈ a.cycleSource, Accounted False a.cycles x) ∧ ∀ x ∈ a.timeSource, Accounted False a.nanoseconds x :=
  ⟨fun x hx => ⟨asserted_le (h.cycleSource x hx), False.elim⟩, fun x hx => ⟨asserted_le (h.timeSource x hx), False.elim⟩⟩

lemma accounted_ticked {a : TwoTimers} (h : Kept a) :
    (∀ x ∈ (a.step .tick).cycleSource, Accounted True a.cycles x) ∧
      ∀ x ∈ (a.step .tick).timeSource, Accounted True a.nanoseconds x := by
  constructor
  · intro x hx
    obtain ⟨y, hy, rfl⟩ := Option.map_eq_some_iff.1 hx
    obtain ⟨hkeeps, hwaits⟩ := keeps_tick (h.cycleSource y hy)
    exact ⟨asserted_le hkeeps, fun _ => asserted_eq hkeeps hwaits⟩
  · intro x hx
    obtain ⟨y, hy, rfl⟩ := Option.map_eq_some_iff.1 hx
    obtain ⟨hkeeps, hwaits⟩ := keeps_tick (h.timeSource y hy)
    exact ⟨asserted_le hkeeps, fun _ => asserted_eq hkeeps hwaits⟩

end Accounts

section Runs

variable {events : List TimerEvent}

lemma follows_run (h : Runs.Along TimerSystem.step TimerSystem.Regular .start events) :
    Follows (Runs.run TimerSystem.step .start events) (Runs.run TwoTimers.step .start events) := by
  induction events using List.reverseRecOn with
  | nil => exact ⟨rfl, rfl, rfl, rfl, rfl, by decide, by decide⟩
  | append_singleton events e ih =>
    rw [Runs.run_append, Runs.run_append]
    exact follows_step (ih h.of_append) h.last

lemma kept_run (events : List TimerEvent) : Kept (Runs.run TwoTimers.step .start events) := by
  induction events using List.reverseRecOn with
  | nil => exact ⟨fun x hx => (Option.not_mem_none x hx).elim, fun x hx => (Option.not_mem_none x hx).elim⟩
  | append_singleton events e ih =>
    rw [Runs.run_append]
    exact kept_step ih e

end Runs

/-- In every run of regular steps the device follows the two sources, asserts exactly when one of them is due, and each
source has asserted once an interval. -/
theorem timer_follows (events : List TimerEvent) (e : TimerEvent)
    (h : Runs.Along TimerSystem.step TimerSystem.Regular .start (events ++ [e])) :
    Follows (Runs.run TimerSystem.step .start (events ++ [e])) (Runs.run TwoTimers.step .start (events ++ [e])) ∧
      (Runs.run TimerSystem.step .start events).asserts e = (Runs.run TwoTimers.step .start events).asserts e ∧
      (∀ x ∈ (Runs.run TwoTimers.step .start (events ++ [e])).cycleSource,
        Accounted (e = .tick) (Runs.run TwoTimers.step .start (events ++ [e])).cycles x) ∧
      ∀ x ∈ (Runs.run TwoTimers.step .start (events ++ [e])).timeSource,
        Accounted (e = .tick) (Runs.run TwoTimers.step .start (events ++ [e])).nanoseconds x := by
  refine ⟨follows_run h, asserts_eq (follows_run h.of_append) h.last, ?_⟩
  by_cases hticked : e = .tick
  · subst hticked
    rw [Runs.run_append, eq_true (rfl : TimerEvent.tick = .tick)]
    exact accounted_ticked (kept_run events)
  · rw [eq_false hticked]
    exact accounted_kept (kept_run (events ++ [e]))

theorem timer_follows_period :
    Accounted (TimerEvent.tick = .tick) 4 ⟨2, 0, 2, true, 6⟩ ∧
      (Runs.run TimerSystem.step .start [.write64 16 2, .tick, .advance 2 1000, .tick, .advance 1 500, .tick, .advance 1 500]).asserts
        .tick = true :=
  have hrun := timer_follows [.write64 16 2, .tick, .advance 2 1000, .tick, .advance 1 500, .tick, .advance 1 500] .tick
    (by decide +kernel)
  ⟨hrun.2.2.1 _ rfl, hrun.2.1⟩

/-- Switching off a source that has never asserted takes back what the other one asserted. -/
theorem disable_clears_other :
    (Runs.run TimerSystem.step .start [.write64 16 1, .write64 24 1000, .advance 1 1]).asserts .tick = true ∧
      (Runs.run TwoTimers.step .start [.write64 16 1, .write64 24 1000, .advance 1 1, .tick]).timeSource.map
        TimerSource.asserted = some 0 ∧
      (Runs.run TimerSystem.step .start [.write64 16 1, .write64 24 1000, .advance 1 1, .tick]).line = true ∧
      (Runs.run TimerSystem.step .start [.write64 16 1, .write64 24 1000, .advance 1 1, .tick, .write64 24 0]).line =
        false := by
  decide +kernel

end Little64.Emulator

import Little64.Hdl.BasicAccesses
import Little64.Hdl.EmulatedRuns

/-! Programs on the basic core: over memory that answers every access, each instruction ends, and leaves what the same
instruction leaves in the pipelined cores. -/

namespace Little64.Hdl

open Emulator (Reg Cpu)
open ByteMemory LeadsTo

lemma Machine.run_retired (writable : Word → Bool) (i : ExecuteInputs) (m : Machine) (n : ℕ) :
    (m.run writable i n).retired = m.retired + n := by
  induction n with
  | zero => rfl
  | succ n ih =>
    change (m.run writable i n).retired + 1 = _
    rw [ih, Nat.add_assoc]

section Programs

variable {c : BasicConfig} {writable : Word → Bool} {env : ℕ → BasicEnvironment c} {t₀ : BasicSystem c} {m : Machine}

lemma Answering.fetches (h : Answering writable t₀ env) (heven : (m.regs 15).getLsbD 0 = false) :
    Leads (BasicSystem.after writable t₀ env) (Rests .fetchTranslate m)
      (fun t => Rests .execute m t ∧ Executes m t.core) := by
  have htranslate : Leads (BasicSystem.after writable t₀ env) (Rests .fetchTranslate m)
      (fun t => Rests .fetch m t ∧ t.core.fetchPhysAddr = m.regs 15) := .of_step fun n ht => ht.fetchTranslate heven
  refine htranslate.trans (.of_fires (fun n hn => h.iAck n hn.1.iBusCyc) ?_ fun n ⟨ht, hphys⟩ hack =>
    ht.fetch hphys heven (h.iErr n) hack)
  intro n ⟨ht, hphys⟩ hack
  rw [Bool.not_eq_true] at hack
  have hwait := ht.fetch_wait writable (h.iErr n) hack
  exact ⟨hwait.1, hwait.2.trans hphys⟩

/-- From one instruction to the next. -/
theorem Answering.step (h : Answering writable t₀ env) (i : ExecuteInputs) (hm : m.Plain) :
    Leads (BasicSystem.after writable t₀ env) (Rests .fetchTranslate m)
      (Rests .fetchTranslate (m.step writable i)) := by
  refine (h.fetches hm.even).trans fun n ⟨ht, hx⟩ => ?_
  rcases ht.execute writable (env n) i hx hm.plain hm.operands with hnext | ⟨p, m₁, hp, hresult⟩
  · exact ⟨n + 1, Nat.le_succ n, hnext⟩
  · obtain ⟨k, hk, hk'⟩ := h.performs p m₁ (n + 1) hp
    rw [hresult] at hk'
    exact ⟨k, (Nat.le_succ n).trans hk, hk'⟩

/-- A program runs on the core, instruction after instruction, however long memory takes for each access. -/
theorem Answering.runs (h : Answering writable t₀ env) (i : ExecuteInputs) (n : ℕ)
    (hm : ∀ k < n, (m.run writable i k).Plain) :
    Leads (BasicSystem.after writable t₀ env) (Rests .fetchTranslate m)
      (Rests .fetchTranslate (m.run writable i n)) :=
  .iterate (P := fun k => Rests .fetchTranslate (m.run writable i k)) fun k hk => h.step i (hm k hk)

/-- The machine as the reset cycle leaves it. -/
def Machine.boot (e : BasicEnvironment c) (memory : Memory 64) : Machine where
  regs r := if r = 1 then e.bootR1 else if r = 13 then e.bootR13 else if r = 15 then c.resetVector else 0
  flags := 0
  memory := memory
  retired := 0

lemma boots (writable : Word → Bool) (e : BasicEnvironment c) (memory : Memory 64) :
    Rests .fetchTranslate (Machine.boot e memory) ((BasicSystem.start c memory).step writable e) := by
  have hcontrol : ((BasicSystem.start c memory).step writable e).core.specialRegs.cpuControl = 0 := rfl
  refine ⟨⟨?_, rfl, rfl, ?_, rfl, ?_, ?_⟩, rfl, rfl⟩
  · funext r
    change (if r = 0 then 0 else if r = 1 then e.bootR1 else if r = 13 then e.bootR13 else
      if r = 15 then c.resetVector else if r = 15 then c.resetVector else 0) =
        if r = 1 then e.bootR1 else if r = 13 then e.bootR13 else if r = 15 then c.resetVector else 0
    by_cases h0 : r = 0
    · rw [if_pos h0, h0]
      rfl
    · rw [if_neg h0]
      split_ifs <;> rfl
  · exact BasicSystem.memory_step (BasicSystem.writes_of_we rfl)
  · rw [hcontrol]
    rfl
  · rw [hcontrol]
    rfl

lemma Answering.reaches {memory : Memory 64} (h : Answering writable (.start c memory) env) (i : ExecuteInputs) (n : ℕ)
    (hm : ∀ k < n, ((Machine.boot (env 0) memory).run writable i k).Plain) :
    ∃ k, Rests .fetchTranslate ((Machine.boot (env 0) memory).run writable i n)
      (BasicSystem.after writable (.start c memory) env k) := by
  obtain ⟨k, _, hk⟩ := h.runs i n hm 1 (boots writable (env 0) memory)
  exact ⟨k, hk⟩

/-- From reset, every program of plain instructions reaches each of its instructions, with the registers, the flags, the
memory and the count of commits that the instruction semantics of the pipelined cores gives it there. -/
theorem basic_runs {memory : Memory 64} (h : Answering writable (.start c memory) env) (i : ExecuteInputs) (n : ℕ)
    (hm : ∀ k < n, ((Machine.boot (env 0) memory).run writable i k).Plain) :
    ∃ k, Rests .fetchTranslate ((Machine.boot (env 0) memory).run writable i n)
      (BasicSystem.after writable (.start c memory) env k) ∧
        (BasicSystem.after writable (.start c memory) env k).commits = n := by
  obtain ⟨k, hk⟩ := h.reaches i n hm
  refine ⟨k, hk, hk.commits.trans ?_⟩
  rw [Machine.run_retired]
  exact Nat.zero_add n

/-- From reset, every program of plain instructions runs on the core as in the emulator that starts with the same
registers and memory, as long as the emulator runs: however long memory takes for each access, the core reaches each of
the emulator's states. -/
theorem basic_runs_as_emulator {s : Cpu} (h : Answering s.bus.writable (.start c (contents s.bus)) env) (hready : Ready s)
    (hstart : emulated s 0 = .boot (env 0) (contents s.bus)) (n : ℕ)
    (hm : ∀ k < n, (emulated (Cpu.cycle^[k] s) k).Alike) (hrunning : (Cpu.cycle^[n] s).isRunning = true) :
    ∃ k, Rests .fetchTranslate (emulated (Cpu.cycle^[n] s) n)
      (BasicSystem.after s.bus.writable (.start c (contents s.bus)) env k) := by
  have hrun : ∀ k ≤ n, emulated (Cpu.cycle^[k] s) k =
      (Machine.boot (env 0) (contents s.bus)).run s.bus.writable idleInputs k := by
    intro k hk
    rw [← hstart]
    exact (emulated_run hready idleInputs k (fun j hj => hm j (hj.trans_le hk)) (running_of_le hk hrunning)).2.2
  rw [hrun n le_rfl]
  refine h.reaches idleInputs n fun k hk => ?_
  rw [← hrun k hk.le]
  exact (hm k hk).toPlain

end Programs

section Sample

def basicSampleConfig : BasicConfig := ⟨false, 6, false, 4, 0⟩

/-- The instruction bus answers every third cycle, the data bus every second one. -/
def basicSampleEnvironment (n : ℕ) : BasicEnvironment basicSampleConfig :=
  ⟨n % 3 == 0, false, n % 2 == 1, false, 0xDEADBEEF, 0, 0x105, 0x1122334455667788⟩

lemma basicSampleEnvironment_answering (writable : Word → Bool) (t₀ : BasicSystem basicSampleConfig) :
    Answering writable t₀ basicSampleEnvironment := by
  refine ⟨fun _ => rfl, fun _ => rfl, fun n _ => ⟨3 * n, by omega, ?_⟩, fun n _ => ⟨2 * n + 1, by omega, ?_⟩⟩
  · change (3 * n % 3 == 0) = true
    rw [Nat.mul_mod_right]
    rfl
  · change ((2 * n + 1) % 2 == 1) = true
    rw [Nat.mul_add_mod]
    rfl

/-- `STORE R13, [R1]` and `LOAD R2, [R1]`, across two words. -/
def basicSampleMemory : Memory 64 := fun x => if x = 0 then 0x1D else if x = 1 then 0x04 else if x = 2 then 0x12 else 0

theorem basic_runs_sample : ∃ k, Rests .fetchTranslate
    ((Machine.boot (basicSampleEnvironment 0) basicSampleMemory).run (fun _ => true) idleInputs 2)
    (BasicSystem.after (fun _ => true) (.start basicSampleConfig basicSampleMemory) basicSampleEnvironment k) ∧
      (BasicSystem.after (fun _ => true) (.start basicSampleConfig basicSampleMemory) basicSampleEnvironment k).commits =
        2 := by
  refine basic_runs (basicSampleEnvironment_answering _ _) idleInputs 2 fun k hk => ?_
  interval_cases k
  · exact ⟨by decide +kernel, fun h => absurd h (by decide +kernel), by decide +kernel⟩
  · exact ⟨by decide +kernel, fun h => absurd h (by decide +kernel), by decide +kernel⟩

def basicSampleRam : Emulator.MemoryRegion where
  base := 0
  size := 0x10000
  kind := .ram
  data := basicSampleMemory

def basicSampleCpu : Cpu :=
  { Emulator.sampleCpu fun r => if r = 1 then 0x105 else if r = 13 then 0x1122334455667788 else 0 with
    registers := { Emulator.Registers.initial with
      regs := fun r => if r = 1 then 0x105 else if r = 13 then 0x1122334455667788 else 0 }
    bus := ⟨[basicSampleRam], List.pairwise_singleton _ _⟩ }

theorem basic_runs_as_emulator_sample : ∃ k, Rests .fetchTranslate (emulated (Cpu.cycle^[2] basicSampleCpu) 2)
    (BasicSystem.after basicSampleCpu.bus.writable (.start basicSampleConfig (contents basicSampleCpu.bus))
      basicSampleEnvironment k) := by
  refine basic_runs_as_emulator (basicSampleEnvironment_answering _ _)
    ⟨rfl, rfl, by decide +kernel, by decide +kernel⟩ ?_ 2 (fun k hk => ?_) (by decide +kernel)
  · refine Machine.ext ?_ rfl rfl rfl
    funext r
    revert r
    decide +kernel
  · interval_cases k
    · exact ⟨⟨by decide +kernel, fun h => absurd h (by decide +kernel), by decide +kernel⟩, by decide +kernel⟩
    · exact ⟨⟨by decide +kernel, fun h => absurd h (by decide +kernel), by decide +kernel⟩, by decide +kernel⟩

end Sample

end Little64.Hdl

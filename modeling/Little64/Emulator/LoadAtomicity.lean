import Little64.Emulator.ElfContainment
import Little64.Emulator.ProgramLoading

/-! What a failed load leaves: the old machine, unless the one loader that goes on checking after it has installed the
new one finds a bad entry or a bad stack. -/

namespace Little64.Emulator.ProgramLoading

open CheckedAccess
open ElfImage (loadImage)

inductive LoadRequest
  | elf (file : Blob)
  | directPaged (file : Blob) (kernelPhysicalBase : Word) (dtb : Blob) (stackTopReserveBytes : Word)
  | flashImage (flash : Blob)
  | bootRomImage (bootrom : Blob)
  deriving DecidableEq, Repr

section Requests

variable {δ : Type} (model : DeviceModel δ) (available : ℕ)

def load (s : State δ) : LoadRequest → Ending δ
  | .elf file => loadProgramElf model available s file
  | .directPaged file kernelPhysicalBase dtb stackTopReserveBytes =>
    loadProgramElfDirectPaged model available s file kernelPhysicalBase dtb stackTopReserveBytes
  | .flashImage flash => loadProgramLiteXFlashImage model s flash
  | .bootRomImage bootrom => loadProgramLiteXBootRomImage model s bootrom

structure Untouched (s t : State δ) : Prop where
  machine : t.machine = s.machine
  registers : t.registers = s.registers
  memBase : t.memBase = s.memBase
  memSize : t.memSize = s.memSize
  pageTableAllocCursor : t.pageTableAllocCursor = s.pageTableAllocCursor

/-- A load that returns false has done nothing. -/
def Atomic (r : LoadRequest) : Prop := ∀ s t, load model available s r = .returns false t → Untouched s t

/-- The image is there and fits, and its machine has no overlapping regions. -/
structure Installs (file : Blob) (kernelPhysicalBase : Word) (image : ElfImage.Image) : Prop where
  loaded : loadImage ElfImage.directPaged available file = .ok image
  fits : image.bytes.length ≤ litexBootromRamSize.toNat
  applies : ∃ diskPath diskReadOnly,
    (directPagedConfig diskPath diskReadOnly image kernelPhysicalBase).applyTo model ≠ none

/-- Nothing is left to refuse once the machine is installed. -/
def Settled : LoadRequest → Prop
  | .directPaged file kernelPhysicalBase _ stackTopReserveBytes =>
    ∀ image, Installs model available file kernelPhysicalBase image →
      entryPhysical image kernelPhysicalBase ≠ none ∧ stackTopReserveBytes ≤ litexBootromRamSize
  | _ => True

end Requests

variable {δ : Type} {model : DeviceModel δ} {available : ℕ}

lemma Untouched.refl (s : State δ) : Untouched s s := ⟨rfl, rfl, rfl, rfl, rfl⟩

lemma returns_false_inj {s t : State δ} (h : Ending.returns false s = .returns false t) : t = s := by
  injection h with _ h
  exact h.symm

lemma withImage_returns_false {s t : State δ} {v : ElfImage.Variant} {file : Blob} {k : ElfImage.Image → Ending δ}
    (h : withImage available s v file k = .returns false t) :
    t = s ∨ ∃ image, loadImage v available file = .ok image ∧ k image = .returns false t := by
  rw [withImage] at h
  split at h
  · exact .inl (returns_false_inj h)
  · cases h
  · cases h
  · next image himage => exact .inr ⟨image, himage, h⟩

lemma withMachine_returns_false {t : State δ} {cfg : MachineConfig} {k : Installed δ → Ending δ}
    (h : withMachine model cfg k = .returns false t) :
    ∃ machine, cfg.applyTo model = some machine ∧ k machine = .returns false t := by
  rw [withMachine] at h
  split at h
  · cases h
  · next machine hmachine => exact ⟨machine, hmachine, h⟩

lemma atomic_elf (file : Blob) : Atomic model available (.elf file) := by
  intro s t h
  rcases withImage_returns_false h with rfl | ⟨image, -, himage⟩
  · exact .refl t
  · obtain ⟨machine, -, hmachine⟩ := withMachine_returns_false himage
    cases hmachine

lemma atomic_flashImage (flash : Blob) : Atomic model available (.flashImage flash) := by
  intro s t h
  change loadProgramLiteXFlashImage model s flash = _ at h
  rw [loadProgramLiteXFlashImage] at h
  split at h
  · rw [returns_false_inj h]
    exact .refl s
  · obtain ⟨machine, -, hmachine⟩ := withMachine_returns_false h
    cases hmachine

lemma atomic_bootRomImage (bootrom : Blob) : Atomic model available (.bootRomImage bootrom) := by
  intro s t h
  change loadProgramLiteXBootRomImage model s bootrom = _ at h
  rw [loadProgramLiteXBootRomImage] at h
  split at h
  · rw [returns_false_inj h]
    exact .refl s
  · obtain ⟨machine, -, hmachine⟩ := withMachine_returns_false h
    cases hmachine

section DirectPaged

variable {file dtb : Blob} {kernelPhysicalBase stackTopReserveBytes : Word}

/-- A state before the call, with a disk and registers in use. -/
def usedState (diskPath : String) (diskReadOnly : Bool) : State δ where
  machine := .empty
  registers := { Registers.initial with regs := fun _ => 1 }
  memBase := 0
  memSize := 0
  pageTableAllocCursor := 0
  isRunning := false
  bootSourceBytes := []
  clockRunning := false
  disk := some ⟨diskPath, diskReadOnly, true⟩

lemma atomic_of_settled
    (h : Settled model available (.directPaged file kernelPhysicalBase dtb stackTopReserveBytes)) :
    Atomic model available (.directPaged file kernelPhysicalBase dtb stackTopReserveBytes) := by
  intro s t hload
  rcases withImage_returns_false hload with rfl | ⟨image, hloaded, himage⟩
  · exact .refl t
  simp only at himage
  split at himage
  · rw [returns_false_inj himage]
    exact .refl s
  next hfits =>
  obtain ⟨machine, hmachine, hrest⟩ := withMachine_returns_false himage
  obtain ⟨hentry, hreserve⟩ := h image ⟨hloaded, Nat.not_lt.1 hfits, _, _, by rw [hmachine]; exact Option.some_ne_none _⟩
  split at hrest
  · next hnone => exact absurd hnone hentry
  · rw [if_neg (BitVec.not_lt.2 hreserve)] at hrest
    cases hrest

variable (dtb) in
/-- A load that fails once the machine is installed leaves the registers reset. -/
lemma fails_installed {image : ElfImage.Image} (h : Installs model available file kernelPhysicalBase image)
    (hfails : entryPhysical image kernelPhysicalBase = none ∨ litexBootromRamSize < stackTopReserveBytes) :
    ∃ s t, load model available s (.directPaged file kernelPhysicalBase dtb stackTopReserveBytes) = .returns false t ∧
      s.registers.regs 1 = 1 ∧ t.registers.regs 1 = 0 := by
  obtain ⟨hloaded, hfits, diskPath, diskReadOnly, happlies⟩ := h
  obtain ⟨machine, hmachine⟩ := Option.ne_none_iff_exists'.1 happlies
  refine ⟨usedState diskPath diskReadOnly, ?_⟩
  rw [load, loadProgramElfDirectPaged, withImage, hloaded]
  simp only
  rw [if_neg (Nat.not_lt.2 hfits)]
  change ∃ t, withMachine model (directPagedConfig diskPath diskReadOnly image kernelPhysicalBase) _ = _ ∧ _
  rw [withMachine, hmachine]
  simp only
  rcases hfails with hnone | hreserve
  · rw [hnone]
    exact ⟨_, rfl, rfl, rfl⟩
  · cases entryPhysical image kernelPhysicalBase with
    | none => exact ⟨_, rfl, rfl, rfl⟩
    | some entry =>
      simp only
      rw [if_pos hreserve]
      exact ⟨_, rfl, rfl, rfl⟩

lemma settled_of_atomic
    (h : Atomic model available (.directPaged file kernelPhysicalBase dtb stackTopReserveBytes)) :
    Settled model available (.directPaged file kernelPhysicalBase dtb stackTopReserveBytes) := by
  intro image hinstalls
  by_contra hbad
  have hfails : entryPhysical image kernelPhysicalBase = none ∨ litexBootromRamSize < stackTopReserveBytes := by
    rw [not_and_or, not_not, BitVec.not_le] at hbad
    exact hbad
  obtain ⟨s, t, hload, hbefore, hafter⟩ := fails_installed dtb hinstalls hfails
  rw [(h s t hload).registers, hbefore] at hafter
  exact absurd hafter (by decide)

end DirectPaged

/-- A failed load leaves the machine as it was exactly where nothing can be refused once the new one is installed. -/
theorem atomic_iff (model : DeviceModel δ) (available : ℕ) (r : LoadRequest) :
    Atomic model available r ↔ Settled model available r := by
  cases r with
  | elf file => exact iff_of_true (atomic_elf file) trivial
  | directPaged file kernelPhysicalBase dtb stackTopReserveBytes => exact ⟨settled_of_atomic, atomic_of_settled⟩
  | flashImage flash => exact iff_of_true (atomic_flashImage flash) trivial
  | bootRomImage bootrom => exact iff_of_true (atomic_bootRomImage bootrom) trivial

/-- Devices with windows of a page and no state. -/
def plainDevices : DeviceModel Unit := ⟨fun _ => (), fun _ => 0x100, fun d _ _ => d⟩

/-- An entry that lies in neither window is found when the old machine is gone. -/
theorem late_refusal_not_atomic :
    ¬ Atomic plainDevices (2 ^ 32) (.directPaged (ElfImage.sampleFile 0x1008 8) 0x40000000 [] 0) := by
  intro h
  have himage : (loadImage ElfImage.directPaged (2 ^ 32) (ElfImage.sampleFile 0x1008 8)).map (fun image =>
      (entryPhysical image 0x40000000, decide (image.bytes.length ≤ litexBootromRamSize.toNat),
        ((directPagedConfig "" true image 0x40000000).applyTo plainDevices).isSome)) = .ok (none, true, true) := by
    decide +kernel
  cases hloaded : loadImage ElfImage.directPaged (2 ^ 32) (ElfImage.sampleFile 0x1008 8) with
  | error fault =>
    rw [hloaded] at himage
    cases himage
  | ok image =>
    rw [hloaded] at himage
    obtain ⟨hentry, hrest⟩ := Prod.mk.inj (Except.ok.inj himage)
    obtain ⟨hfits, happlies⟩ := Prod.mk.inj hrest
    rw [decide_eq_true_iff] at hfits
    have hinstalls : Installs plainDevices (2 ^ 32) (ElfImage.sampleFile 0x1008 8) 0x40000000 image :=
      ⟨hloaded, hfits, "", true, Option.isSome_iff_ne_none.1 happlies⟩
    exact (settled_of_atomic h image hinstalls).1 hentry

end Little64.Emulator.ProgramLoading

import Little64.Emulator.Dispatch

/-! Reading pages of the boot source by a hypercall: which requests are served as asked. -/

namespace Little64.Emulator

namespace Cpu

/-- The bytes of a source, each at one place from a shift on: some of them were copied. -/
structure Copied (bytes : List (BitVec 8)) (shift : Word) (S : ℕ → Prop) (bus bus' : MemoryBus) : Prop where
  inside : ∀ x access, S (x - shift).toNat → bus.writable x = true →
    bus'.read8 x access = bytes.getD (x - shift).toNat 0
  outside : ∀ x access, ¬ (S (x - shift).toNat ∧ bus.writable x = true) → bus'.read8 x access = bus.read8 x access
  writable : ∀ x, bus'.writable x = bus.writable x

section Copies

variable {bytes : List (BitVec 8)} {shift : Word} {S : ℕ → Prop} {bus bus' : MemoryBus}

lemma Copied.congr {S' : ℕ → Prop} (h : Copied bytes shift S bus bus') (hS : ∀ k, S' k ↔ S k) :
    Copied bytes shift S' bus bus' :=
  ⟨fun x access hx => h.inside x access ((hS _).1 hx), fun x access hx => h.outside x access fun hc =>
    hx ⟨(hS _).2 hc.1, hc.2⟩, h.writable⟩

lemma Copied.refl (bytes : List (BitVec 8)) (shift : Word) (bus : MemoryBus) :
    Copied bytes shift (fun _ => False) bus bus :=
  ⟨fun _ _ hx => absurd hx not_false, fun _ _ _ => rfl, fun _ => rfl⟩

lemma sub_add_ofNat (shift : Word) {k : ℕ} (hk : k < 2 ^ 64) : (shift + BitVec.ofNat 64 k - shift).toNat = k := by
  rw [BitVec.add_comm, BitVec.add_sub_cancel, BitVec.toNat_ofNat, Nat.mod_eq_of_lt hk]

lemma inRange_one {shift x : Word} {k : ℕ} (hk : k < 2 ^ 64) :
    ByteMemory.InRange (shift + BitVec.ofNat 64 k) 1 x ↔ (x - shift).toNat = k := by
  have hoffset := ByteMemory.offset_sub shift x k hk
  have hlt := (x - shift).isLt
  rw [ByteMemory.InRange, hoffset]
  split <;> omega

lemma Copied.write (h : Copied bytes shift S bus bus') {k : ℕ} (hbytes : bytes.length < 2 ^ 64) {byte : BitVec 8}
    (hbyte : bytes[k]? = some byte) :
    Copied bytes shift (fun j => S j ∨ j = k) bus (bus'.write8 (shift + BitVec.ofNat 64 k) byte .write) := by
  have hk : k < bytes.length := (List.getElem?_eq_some_iff.1 hbyte).1
  have hoverlay := bus'.write8_overlay (shift + BitVec.ofNat 64 k) byte
  refine ⟨fun x access hx hwritable => ?_, fun x access hx => ?_, fun x => (hoverlay.writable x).trans (h.writable x)⟩
  · rw [hoverlay.byte, h.writable]
    by_cases hplace : (x - shift).toNat = k
    · rw [if_pos ⟨(inRange_one (by omega)).2 hplace, hwritable⟩, hplace, List.getD_eq_getElem?_getD, hbyte]
      have hzero : (x - (shift + BitVec.ofNat 64 k)).toNat = 0 := by
        rw [ByteMemory.offset_sub shift x k (by omega), if_neg (by omega), hplace, Nat.sub_self]
      rw [hzero, LittleEndian.byteAt_zero, Option.getD_some]
    · rw [if_neg fun hc => hplace ((inRange_one (by omega)).1 hc.1)]
      exact h.inside x access (hx.resolve_right hplace) hwritable
  · rw [hoverlay.byte, h.writable, if_neg fun hc => hx ⟨.inr ((inRange_one (by omega)).1 hc.1), hc.2⟩]
    exact h.outside x access fun hc => hx ⟨.inl hc.1, hc.2⟩

/-- The copy of a page stops at the end of the source, so that its offsets do not wrap. -/
lemma Copied.page (hbytes : bytes.length < 2 ^ 64) (sourceOff : Word) (n : ℕ) {i : Word}
    (hn : i.toNat + n < 2 ^ 64) (hi : i.toNat = 0 ∨ sourceOff.toNat + i.toNat ≤ bytes.length)
    (h : Copied bytes shift S bus bus') :
    Copied bytes shift (fun k => S k ∨ sourceOff.toNat + i.toNat ≤ k ∧ k < sourceOff.toNat + i.toNat + n ∧
      k < bytes.length) bus (copySourcePage bytes sourceOff (shift + sourceOff) n i bus') := by
  induction n generalizing i bus' S with
  | zero =>
    rw [copySourcePage]
    apply h.congr
    intro k
    exact ⟨fun hk => hk.resolve_right (by omega), .inl⟩
  | succ n ih =>
    have hsource := sourceOff.isLt
    have hle : (sourceOff + i).toNat ≤ sourceOff.toNat + i.toNat := by
      rw [BitVec.toNat_add]
      exact Nat.mod_le _ _
    have hindex : (sourceOff + i).toNat < bytes.length → (sourceOff + i).toNat = sourceOff.toNat + i.toNat := by
      intro hlt
      rw [BitVec.toNat_add] at hlt ⊢
      apply Nat.mod_eq_of_lt
      omega
    rw [copySourcePage]
    cases hbyte : bytes[(sourceOff + i).toNat]? with
    | none =>
      rw [List.getElem?_eq_none_iff] at hbyte
      apply h.congr
      intro k
      exact ⟨fun hk => hk.resolve_right (by omega), .inl⟩
    | some byte =>
      have hlt := (List.getElem?_eq_some_iff.1 hbyte).1
      have hexact := hindex hlt
      have hnext : (i + 1).toNat = i.toNat + 1 := by
        rw [BitVec.toNat_add]
        exact Nat.mod_eq_of_lt (by change i.toNat + 1 < 2 ^ 64; omega)
      have hplace : shift + sourceOff + i = shift + BitVec.ofNat 64 (sourceOff + i).toNat := by
        rw [BitVec.ofNat_toNat, BitVec.setWidth_eq, BitVec.add_assoc]
      simp only
      rw [hplace]
      refine (ih (by omega) (.inr (by omega)) (h.write hbytes hbyte)).congr fun k => ?_
      rw [or_assoc]
      apply or_congr_right
      omega

/-- Where a page starts in the source, in the arithmetic of the loop. -/
def sourceOffset (startPage pageSize : Word) (p : ℕ) : ℕ := ((startPage + BitVec.ofNat 64 p) * pageSize).toNat

/-- The bytes that the loops copy. -/
def CopiedBy (startPage pageCount pageSize : Word) (sourceLen k : ℕ) : Prop :=
  ∃ p < pageCount.toNat, sourceOffset startPage pageSize p ≤ k ∧ k < sourceOffset startPage pageSize p + pageSize.toNat ∧
    k < sourceLen

lemma Copied.pages (hbytes : bytes.length < 2 ^ 64) (startPage dstPhys pageSize : Word)
    (hshift : shift = dstPhys - startPage * pageSize) (n : ℕ) {p : ℕ} (hn : p + n < 2 ^ 64)
    (h : Copied bytes shift S bus bus') :
    Copied bytes shift (fun k => S k ∨ ∃ q, p ≤ q ∧ q < p + n ∧ sourceOffset startPage pageSize q ≤ k ∧
      k < sourceOffset startPage pageSize q + pageSize.toNat ∧ k < bytes.length) bus
      (copySourcePages bytes pageSize startPage dstPhys n (BitVec.ofNat 64 p) bus') := by
  induction n generalizing p bus' S with
  | zero =>
    rw [copySourcePages]
    apply h.congr
    intro k
    refine ⟨fun hk => hk.resolve_right ?_, .inl⟩
    rintro ⟨q, hq, hqn, _⟩
    omega
  | succ n ih =>
    have hdest : dstPhys + BitVec.ofNat 64 p * pageSize = shift + (startPage + BitVec.ofNat 64 p) * pageSize := by
      rw [hshift]
      ring
    have hnext : BitVec.ofNat 64 p + 1 = BitVec.ofNat 64 (p + 1) := (BitVec.ofNat_add p 1).symm
    rw [copySourcePages, hdest, hnext]
    have hzero : (0 : Word).toNat = 0 := rfl
    have hpage := h.page hbytes ((startPage + BitVec.ofNat 64 p) * pageSize) pageSize.toNat (i := 0) (by omega) (.inl rfl)
    rw [hzero, Nat.add_zero] at hpage
    refine (ih (by omega) hpage).congr fun k => ?_
    constructor
    · rintro (hk | ⟨q, hq, hqn, hk⟩)
      · exact .inl (.inl hk)
      · rcases Nat.eq_or_lt_of_le hq with rfl | hq
        · exact .inl (.inr hk)
        · exact .inr ⟨q, hq, by omega, hk⟩
    · rintro ((hk | hk) | ⟨q, hq, hqn, hk⟩)
      · exact .inl hk
      · exact .inr ⟨p, le_rfl, by omega, hk⟩
      · exact .inr ⟨q, by omega, by omega, hk⟩

end Copies

/-- What a request for pages of the boot source is made of: the registers, and the size of the source. -/
structure SourceRequest where
  startPage : Word
  pageCount : Word
  dstPhys : Word
  selector : Word
  pageSize : Word
  totalPages : Word
  sourceLen : Word
  deriving DecidableEq, Repr

structure Asks (s : Cpu) (r : SourceRequest) : Prop where
  service : s.reg 1 = hypercallReadBootSourcePages
  startPage : s.reg 2 = r.startPage
  pageCount : s.reg 3 = r.pageCount
  dstPhys : s.reg 4 = r.dstPhys
  selector : s.reg 5 = r.selector
  pageSize : s.registers.bootSourcePageSize = r.pageSize
  totalPages : s.registers.bootSourcePageCount = r.totalPages
  sourceLen : s.bootSourceBytes.length = r.sourceLen.toNat

/-- The bytes of the requested pages that exist. -/
def sourceBytes (bytes : List (BitVec 8)) (startPage pageCount pageSize : ℕ) : List (BitVec 8) :=
  (bytes.drop (startPage * pageSize)).take (pageCount * pageSize)

/-- The memory holds the bytes from an address on, where it can be written, and is unchanged elsewhere. -/
structure SourceCopied (bytes : List (BitVec 8)) (dstPhys : Word) (bus bus' : MemoryBus) : Prop where
  inside : ∀ x access, dstPhys.toNat ≤ x.toNat → x.toNat < dstPhys.toNat + bytes.length → bus.writable x = true →
    bus'.read8 x access = bytes.getD (x.toNat - dstPhys.toNat) 0
  outside : ∀ x access, ¬ (dstPhys.toNat ≤ x.toNat ∧ x.toNat < dstPhys.toNat + bytes.length ∧ bus.writable x = true) →
    bus'.read8 x access = bus.read8 x access
  writable : ∀ x, bus'.writable x = bus.writable x

/-- The request is refused and the memory is as before; or its pages are all there, and their bytes were copied
in no more rounds than there are pages. -/
structure Served (r : SourceRequest) (s t : Cpu) : Prop where
  outcome : t.reg 1 ≠ hypercallStatusOk ∧ t.bus = s.bus ∨
    t.reg 1 = hypercallStatusOk ∧ r.startPage.toNat + r.pageCount.toNat ≤ r.totalPages.toNat ∧
      r.pageCount.toNat ≤ r.totalPages.toNat ∧
      SourceCopied (sourceBytes s.bootSourceBytes r.startPage.toNat r.pageCount.toNat r.pageSize.toNat) r.dstPhys
        s.bus t.bus
  exact : r.selector = 0 → r.pageSize ≠ 0 → r.pageCount ≠ 0 →
    (t.reg 1 = hypercallStatusOk ↔ r.startPage.toNat + r.pageCount.toNat ≤ r.totalPages.toNat)

namespace SourceRequest

variable (r : SourceRequest)

/-- The checks of the hypercall. -/
def Accepted : Prop :=
  r.selector = 0 ∧ r.pageSize ≠ 0 ∧ r.startPage < r.totalPages ∧ r.pageCount ≠ 0 ∧
    r.startPage + r.pageCount ≤ r.totalPages

instance : Decidable r.Accepted := by
  unfold Accepted
  infer_instance

def shift : Word := r.dstPhys - r.startPage * r.pageSize

/-- How many bytes of the requested pages exist. -/
def existing : ℕ := min (r.pageCount.toNat * r.pageSize.toNat) (r.sourceLen.toNat - r.startPage.toNat * r.pageSize.toNat)

/-- No sum, product or address of the request wraps, but for bytes that would go to the last address of all. -/
structure Sound : Prop where
  sum : r.startPage.toNat + r.pageCount.toNat < 2 ^ 64
  pages : ∀ k, CopiedBy r.startPage r.pageCount r.pageSize r.sourceLen.toNat k →
    r.startPage.toNat * r.pageSize.toNat ≤ k ∨ r.shift + BitVec.ofNat 64 k = BitVec.allOnes 64
  destination : r.dstPhys.toNat + r.existing ≤ 2 ^ 64

end SourceRequest

section Arithmetic

variable {r : SourceRequest} {k j : ℕ} {x : Word} {bus : MemoryBus}

/-- With no wrap of the sum, the requested bytes that exist are all copied. -/
lemma copiedBy_of_lt (hsum : r.startPage.toNat + r.pageCount.toNat < 2 ^ 64) (hj : j < r.existing) :
    CopiedBy r.startPage r.pageCount r.pageSize r.sourceLen.toNat (r.startPage.toNat * r.pageSize.toNat + j) := by
  have hlen := r.sourceLen.isLt
  rw [SourceRequest.existing, lt_min_iff] at hj
  have hsize : 0 < r.pageSize.toNat := by
    rcases Nat.eq_zero_or_pos r.pageSize.toNat with hzero | hpos
    · rw [hzero, Nat.mul_zero] at hj
      omega
    · exact hpos
  obtain ⟨p, i, rfl, hi⟩ : ∃ p i, j = p * r.pageSize.toNat + i ∧ i < r.pageSize.toNat :=
    ⟨_, _, (Nat.div_add_mod' j r.pageSize.toNat).symm, Nat.mod_lt _ hsize⟩
  have hp : p < r.pageCount.toNat := by
    by_contra hge
    have hmul := Nat.mul_le_mul_right r.pageSize.toNat (Nat.le_of_not_lt hge)
    omega
  have hpage : (r.startPage.toNat + p) * r.pageSize.toNat = r.startPage.toNat * r.pageSize.toNat + p * r.pageSize.toNat :=
    Nat.add_mul _ _ _
  have hstart : (r.startPage + BitVec.ofNat 64 p).toNat = r.startPage.toNat + p := by
    rw [BitVec.toNat_add, BitVec.toNat_ofNat]
    omega
  have hoffset : sourceOffset r.startPage r.pageSize p = (r.startPage.toNat + p) * r.pageSize.toNat := by
    rw [sourceOffset, BitVec.toNat_mul, hstart]
    apply Nat.mod_eq_of_lt
    omega
  refine ⟨p, hp, ?_, ?_, by omega⟩
  · omega
  · omega

lemma CopiedBy.lt (h : CopiedBy r.startPage r.pageCount r.pageSize r.sourceLen.toNat k) :
    k < r.startPage.toNat * r.pageSize.toNat + r.pageCount.toNat * r.pageSize.toNat ∧ k < r.sourceLen.toNat := by
  obtain ⟨p, hp, _, hk, hlen⟩ := h
  have hstart : (r.startPage + BitVec.ofNat 64 p).toNat ≤ r.startPage.toNat + p := by
    rw [BitVec.toNat_add, BitVec.toNat_ofNat]
    exact (Nat.mod_le _ _).trans (Nat.add_le_add_left (Nat.mod_le _ _) _)
  have hoffset : sourceOffset r.startPage r.pageSize p ≤ (r.startPage.toNat + p) * r.pageSize.toNat := by
    rw [sourceOffset, BitVec.toNat_mul]
    exact (Nat.mod_le _ _).trans (Nat.mul_le_mul_right _ hstart)
  have hlast := Nat.mul_le_mul_right r.pageSize.toNat (Nat.succ_le_of_lt hp)
  rw [Nat.succ_mul] at hlast
  rw [Nat.add_mul] at hoffset
  exact ⟨by omega, hlen⟩

lemma shift_add (r : SourceRequest) (j : ℕ) :
    r.shift + BitVec.ofNat 64 (r.startPage.toNat * r.pageSize.toNat + j) = r.dstPhys + BitVec.ofNat 64 j := by
  rw [BitVec.ofNat_add, BitVec.ofNat_mul, BitVec.ofNat_toNat, BitVec.ofNat_toNat, BitVec.setWidth_eq,
    BitVec.setWidth_eq, SourceRequest.shift]
  ring

lemma eq_shift_add (r : SourceRequest) (x : Word) : r.shift + BitVec.ofNat 64 (x - r.shift).toNat = x := by
  rw [BitVec.ofNat_toNat, BitVec.setWidth_eq, BitVec.add_comm, BitVec.sub_add_cancel]

lemma writable_last (bus : MemoryBus) : bus.writable (BitVec.allOnes 64) = false := by
  rw [MemoryBus.writable, Option.isSome_eq_false_iff, Option.isNone_iff_eq_none]
  cases hresolve : bus.resolveAccessRange (BitVec.allOnes 64) 1 .write with
  | none => rfl
  | some region =>
    have hcontains := (MemoryBus.mem_of_resolve hresolve).2.1
    rw [MemoryRegion.contains, Bool.and_eq_true, decide_eq_true_eq, decide_eq_true_eq] at hcontains
    have hlast : (BitVec.allOnes 64).toNat = 2 ^ 64 - 1 := rfl
    have hend := region.endAddr.isLt
    rw [BitVec.lt_def, hlast] at hcontains
    omega

end Arithmetic

section Requests

variable {r : SourceRequest} {s : Cpu} (h : Asks s r)

include h

lemma executeHypercall_refused (hrefused : ¬ r.Accepted) :
    s.executeHypercall.reg 1 ≠ hypercallStatusOk ∧ s.executeHypercall.bus = s.bus := by
  rw [executeHypercall, h.service, h.startPage, h.pageCount, h.dstPhys, h.selector, h.pageSize, h.totalPages]
  simp only
  rw [if_neg (by decide), if_neg (by decide), if_pos trivial]
  by_cases hsource : r.selector ≠ 0 ∨ r.pageSize = 0
  · rw [if_pos hsource]
    exact ⟨(by decide : hypercallStatusInvalid ≠ hypercallStatusOk), rfl⟩
  · rw [if_neg hsource, if_pos]
    · exact ⟨(by decide : hypercallStatusRange ≠ hypercallStatusOk), rfl⟩
    · rw [not_or, not_not] at hsource
      by_contra hrange
      rw [not_or, not_or, BitVec.not_le, BitVec.not_lt] at hrange
      exact hrefused ⟨hsource.1, hsource.2, hrange.1, hrange.2.1, hrange.2.2⟩

lemma executeHypercall_accepted (haccepted : r.Accepted) :
    s.executeHypercall.reg 1 = hypercallStatusOk ∧ s.executeHypercall.bus =
      copySourcePages s.bootSourceBytes r.pageSize r.startPage r.dstPhys r.pageCount.toNat 0 s.bus := by
  obtain ⟨hselector, hsize, hstart, hcount, hsum⟩ := haccepted
  rw [executeHypercall, h.service, h.startPage, h.pageCount, h.dstPhys, h.selector, h.pageSize, h.totalPages]
  simp only
  rw [if_neg (by decide), if_neg (by decide), if_pos trivial, if_neg, if_neg]
  · exact ⟨rfl, rfl⟩
  · rw [not_or, not_or, BitVec.not_le, BitVec.not_lt]
    exact ⟨hstart, hcount, hsum⟩
  · rw [not_or, not_not]
    exact ⟨hselector, hsize⟩

lemma length_sourceBytes :
    (sourceBytes s.bootSourceBytes r.startPage.toNat r.pageCount.toNat r.pageSize.toNat).length = r.existing := by
  rw [sourceBytes, List.length_take, List.length_drop, h.sourceLen, SourceRequest.existing]

lemma copied_accepted (haccepted : r.Accepted) :
    Copied s.bootSourceBytes r.shift (CopiedBy r.startPage r.pageCount r.pageSize r.sourceLen.toNat) s.bus
      s.executeHypercall.bus := by
  have hlen := r.sourceLen.isLt
  have hcount := r.pageCount.isLt
  rw [(executeHypercall_accepted h haccepted).2]
  have hpages := (Copied.refl s.bootSourceBytes r.shift s.bus).pages (by rw [h.sourceLen]; exact hlen) r.startPage
    r.dstPhys r.pageSize rfl r.pageCount.toNat (p := 0) (by omega)
  apply hpages.congr
  intro k
  rw [h.sourceLen, false_or]
  constructor
  · rintro ⟨p, hp, hk⟩
    exact ⟨p, Nat.zero_le p, by omega, hk⟩
  · rintro ⟨p, _, hp, hk⟩
    exact ⟨p, by omega, hk⟩

lemma sourceCopied_of_sound (haccepted : r.Accepted) (hsound : r.Sound) :
    SourceCopied (sourceBytes s.bootSourceBytes r.startPage.toNat r.pageCount.toNat r.pageSize.toNat) r.dstPhys s.bus
      s.executeHypercall.bus := by
  have hcopied := copied_accepted h haccepted
  have hlen := r.sourceLen.isLt
  have hdest := hsound.destination
  refine ⟨fun x access hlow hhigh hwritable => ?_, fun x access hout => ?_, hcopied.writable⟩
  · rw [length_sourceBytes h] at hhigh
    obtain ⟨j, hj⟩ : ∃ j, x.toNat = r.dstPhys.toNat + j := ⟨_, (Nat.add_sub_of_le hlow).symm⟩
    have hexisting : j < r.existing := by omega
    have hcopiedBy := copiedBy_of_lt hsound.sum hexisting
    have hx : x = r.dstPhys + BitVec.ofNat 64 j := by
      apply BitVec.eq_of_toNat_eq
      rw [BitVec.toNat_add, BitVec.toNat_ofNat, hj]
      omega
    have hplace : (x - r.shift).toNat = r.startPage.toNat * r.pageSize.toNat + j := by
      rw [hx, ← shift_add]
      exact sub_add_ofNat _ (hcopiedBy.lt.2.trans hlen)
    rw [hcopied.inside x access (hplace ▸ hcopiedBy) hwritable, hplace, hj, Nat.add_sub_cancel_left, sourceBytes,
      List.getD_eq_getElem?_getD, List.getD_eq_getElem?_getD, List.getElem?_take, List.getElem?_drop, if_pos]
    rw [SourceRequest.existing, lt_min_iff] at hexisting
    exact hexisting.1
  · apply hcopied.outside
    rintro ⟨hcopiedBy, hwritable⟩
    apply hout
    rcases hsound.pages _ hcopiedBy with hfirst | hlast
    · obtain ⟨j, hj⟩ : ∃ j, (x - r.shift).toNat = r.startPage.toNat * r.pageSize.toNat + j :=
        ⟨_, (Nat.add_sub_of_le hfirst).symm⟩
      have hlt := hcopiedBy.lt
      have hexisting : j < r.existing := by
        rw [SourceRequest.existing, lt_min_iff]
        omega
      have hx : x.toNat = r.dstPhys.toNat + j := by
        rw [← eq_shift_add r x, hj, shift_add, BitVec.toNat_add, BitVec.toNat_ofNat]
        omega
      rw [length_sourceBytes h]
      exact ⟨by omega, by omega, hwritable⟩
    · rw [eq_shift_add] at hlast
      rw [hlast, writable_last] at hwritable
      cases hwritable

lemma served_of_sound (hsound : r.Accepted → r.Sound) : Served r s s.executeHypercall := by
  by_cases haccepted : r.Accepted
  · have hok := (executeHypercall_accepted h haccepted).1
    have hsum := (hsound haccepted).sum
    have hrange := haccepted.2.2.2.2
    have htotal : r.startPage.toNat + r.pageCount.toNat ≤ r.totalPages.toNat := by
      rw [BitVec.le_def, BitVec.toNat_add, Nat.mod_eq_of_lt hsum] at hrange
      exact hrange
    refine ⟨.inr ⟨hok, htotal, by omega, sourceCopied_of_sound h haccepted (hsound haccepted)⟩, fun _ _ _ => ?_⟩
    exact iff_of_true hok htotal
  · obtain ⟨hstatus, hbus⟩ := executeHypercall_refused h haccepted
    refine ⟨.inl ⟨hstatus, hbus⟩, fun hselector hsize hcount => iff_of_false hstatus fun htotal => ?_⟩
    have hlt := r.totalPages.isLt
    have hpos : r.pageCount.toNat ≠ 0 := fun hzero => hcount (BitVec.eq_of_toNat_eq hzero)
    apply haccepted
    refine ⟨hselector, hsize, ?_, hcount, ?_⟩
    · rw [BitVec.lt_def]
      omega
    · rw [BitVec.le_def, BitVec.toNat_add]
      omega

end Requests

section Probes

/-- Memory wherever there can be some. -/
def probeRam : MemoryRegion where
  base := 0
  size := BitVec.allOnes 64
  kind := .ram
  data _ := 1

/-- A machine that makes a request, with a source of zeros. -/
def probe (r : SourceRequest) : Cpu where
  registers := { Registers.initial with
    regs := fun i =>
      if i = 1 then hypercallReadBootSourcePages else if i = 2 then r.startPage else if i = 3 then r.pageCount
      else if i = 4 then r.dstPhys else r.selector
    bootSourcePageSize := r.pageSize
    bootSourcePageCount := r.totalPages }
  isRunning := true
  bus := ⟨[probeRam], List.pairwise_singleton _ _⟩
  tlb _ := TlbEntry.initial
  memBase := 0
  memSize := 0
  bootSourceBytes := List.replicate r.sourceLen.toNat 0
  events := []

lemma asks_probe (r : SourceRequest) : Asks (probe r) r :=
  ⟨rfl, rfl, rfl, rfl, rfl, rfl, rfl, List.length_replicate⟩

variable {r : SourceRequest} {x : Word} {access : AccessType}

lemma resolve_probe (hx : x ≠ BitVec.allOnes 64) :
    (probe r).bus.resolveAccessRange x 1 access = some probeRam := by
  have hlt : x < BitVec.allOnes 64 := by
    rw [BitVec.lt_def, BitVec.toNat_allOnes]
    have hne : x.toNat ≠ 2 ^ 64 - 1 := fun heq => hx (BitVec.eq_of_toNat_eq heq)
    have := x.isLt
    omega
  have hend : probeRam.endAddr = BitVec.allOnes 64 := by decide
  have hbase : probeRam.base ≤ x := BitVec.le_def.2 (Nat.zero_le _)
  have hcontains : probeRam.contains x = true := by
    rw [MemoryRegion.contains, hend, decide_eq_true hlt, Bool.and_true]
    exact decide_eq_true hbase
  have hfind : (probe r).bus.findRegion x = some probeRam :=
    MemoryBus.findRegion_eq (List.mem_singleton_self _) hcontains
  have hsame : x + BitVec.ofNat 64 1 - 1 = x := BitVec.add_sub_cancel _ _
  have hallows : probeRam.allows x 1 access = true := by
    rw [MemoryRegion.allows, hend, hsame, decide_eq_true hlt, decide_eq_true hbase,
      decide_eq_true (by omega : 1 - 1 ≤ 2 ^ 64 - 1 - x.toNat)]
    rfl
  rw [MemoryBus.resolveAccessRange, if_neg (by decide), if_neg (by omega), hfind, Option.filter_some, if_pos hallows]

lemma writable_probe (hx : x ≠ BitVec.allOnes 64) : (probe r).bus.writable x = true := by
  rw [MemoryBus.writable, resolve_probe hx]
  rfl

lemma read8_probe (hx : x ≠ BitVec.allOnes 64) : (probe r).bus.read8 x access = 1 := by
  have hload : LittleEndian.assemble 8 (fun _ => 1) 1 = 1 := by decide
  rw [MemoryBus.read8, resolve_probe hx]
  exact hload

lemma mem_destination (haccepted : r.Accepted) (hserved : Served r (probe r) (probe r).executeHypercall)
    (hcopied : CopiedBy r.startPage r.pageCount r.pageSize r.sourceLen.toNat (x - r.shift).toNat)
    (hx : x ≠ BitVec.allOnes 64) : r.dstPhys.toNat ≤ x.toNat ∧ x.toNat < r.dstPhys.toNat + r.existing := by
  have hasks := asks_probe r
  have hok := (executeHypercall_accepted hasks haccepted).1
  have hwritten := (copied_accepted hasks haccepted).inside x .read hcopied (writable_probe hx)
  have hzero : (probe r).bootSourceBytes.getD (x - r.shift).toNat 0 = 0 := by
    change (List.replicate r.sourceLen.toNat (0 : BitVec 8)).getD _ 0 = 0
    rw [List.getD_eq_getElem _ _ (by rw [List.length_replicate]; exact hcopied.lt.2), List.getElem_replicate]
  obtain ⟨hrefused, _⟩ | ⟨_, _, _, hsource⟩ := hserved.outcome
  · exact absurd hok hrefused
  · by_contra hout
    have hkept := hsource.outside x .read fun hin => hout (by
      rw [length_sourceBytes hasks] at hin
      exact ⟨hin.1, hin.2.1⟩)
    rw [hwritten, hzero, read8_probe hx] at hkept
    cases hkept

lemma sound_of_served (haccepted : r.Accepted) (hserved : Served r (probe r) (probe r).executeHypercall) : r.Sound := by
  have hok := (executeHypercall_accepted (asks_probe r) haccepted).1
  have hlen := r.sourceLen.isLt
  have htotal : r.startPage.toNat + r.pageCount.toNat ≤ r.totalPages.toNat :=
    (hserved.exact haccepted.1 haccepted.2.1 haccepted.2.2.2.1).1 hok
  have hsum := htotal.trans_lt r.totalPages.isLt
  refine ⟨hsum, fun k hcopied => ?_, ?_⟩
  · rw [or_iff_not_imp_right]
    intro hlast
    have hplace := sub_add_ofNat r.shift (hcopied.lt.2.trans hlen)
    obtain ⟨hlow, hhigh⟩ := mem_destination haccepted hserved (by rw [hplace]; exact hcopied) hlast
    obtain ⟨j, hj⟩ : ∃ j, (r.shift + BitVec.ofNat 64 k).toNat = r.dstPhys.toNat + j :=
      ⟨_, (Nat.add_sub_of_le hlow).symm⟩
    have hbyte := copiedBy_of_lt hsum (by omega : j < r.existing)
    have hsame : r.shift + BitVec.ofNat 64 k =
        r.shift + BitVec.ofNat 64 (r.startPage.toNat * r.pageSize.toNat + j) := by
      rw [shift_add]
      apply BitVec.eq_of_toNat_eq
      rw [hj, BitVec.toNat_add, BitVec.toNat_ofNat]
      have := (r.shift + BitVec.ofNat 64 k).isLt
      omega
    have hk : k = r.startPage.toNat * r.pageSize.toNat + j := by
      rw [← hplace, hsame, sub_add_ofNat _ (hbyte.lt.2.trans hlen)]
    omega
  · by_contra hwrap
    have hdst := r.dstPhys.isLt
    obtain ⟨j, hj⟩ : ∃ j, r.dstPhys.toNat + j = 2 ^ 64 := ⟨_, Nat.add_sub_of_le hdst.le⟩
    have hbyte := copiedBy_of_lt hsum (by omega : j < r.existing)
    have hzero : r.shift + BitVec.ofNat 64 (r.startPage.toNat * r.pageSize.toNat + j) = 0 := by
      rw [shift_add]
      apply BitVec.eq_of_toNat_eq
      rw [BitVec.toNat_add, BitVec.toNat_ofNat]
      change _ = 0
      omega
    have hplace := sub_add_ofNat r.shift (hbyte.lt.2.trans hlen)
    rw [hzero] at hplace
    have hin := mem_destination haccepted hserved (x := 0) (by rw [hplace]; exact hbyte) (by decide)
    have hnothing : (0 : Word).toNat = 0 := rfl
    have hfits : r.existing < 2 ^ 64 := by
      rw [SourceRequest.existing]
      omega
    omega

end Probes

/-- Which requests are served as asked, whatever the memory and the source hold. -/
theorem readBootSourcePages_iff (r : SourceRequest) :
    (∀ s, Asks s r → Served r s s.executeHypercall) ↔ (r.Accepted → r.Sound) :=
  ⟨fun hserved haccepted => sound_of_served haccepted (hserved _ (asks_probe r)),
    fun hsound _ hasks => served_of_sound hasks hsound⟩

/-- Two pages, and a count that wraps the end of the range to its start. -/
def wrappingRequest : SourceRequest := ⟨1, BitVec.allOnes 64, 0x10000, 0, 4096, 2, 8192⟩

theorem wrapping_request_accepted : Asks (probe wrappingRequest) wrappingRequest ∧
    (probe wrappingRequest).executeHypercall.reg 1 = hypercallStatusOk ∧
    ¬ Served wrappingRequest (probe wrappingRequest) (probe wrappingRequest).executeHypercall := by
  have hok := (executeHypercall_accepted (asks_probe wrappingRequest) (by decide)).1
  refine ⟨asks_probe _, hok, fun hserved => ?_⟩
  have htotal := (hserved.exact (by decide) (by decide) (by decide)).1 hok
  revert htotal
  decide

end Cpu

end Little64.Emulator

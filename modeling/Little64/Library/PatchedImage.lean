import Little64.Library.ByteFile
import Little64.Library.Placement

/-! Vectors in which blocks of bytes are overwritten, and what is read back from them. -/

namespace PatchedImage

open CheckedAccess LittleEndian ByteFile Placement

variable {w n m o off k : ℕ} {l : Blob} {b : Block} {blocks before after : List Block}

def part (l : Blob) (off n : ℕ) : Blob := (l.drop off).take n

def ascii (s : String) : Blob := s.toList.map fun ch => BitVec.ofNat 8 ch.toNat

def patched (l : Blob) (blocks : List Block) : Blob := blocks.foldl (fun l b => patch l b.base b.bytes) l

/-- The blocks lie in a range, each one behind those before it. -/
structure Fit (lo hi : ℕ) (blocks : List Block) : Prop where
  start : ∀ b ∈ blocks, lo ≤ b.base
  inside : ∀ b ∈ blocks, b.stop ≤ hi
  apart : blocks.Pairwise fun b b' => b.stop ≤ b'.base

section Parts

lemma getElem?_part (l : Blob) (off n k : ℕ) : (part l off n)[k]? = if k < n then l[off + k]? else none := by
  rw [part, List.getElem?_take, List.getElem?_drop]

lemma length_part (h : off + n ≤ l.length) : (part l off n).length = n := by
  rw [part, List.length_take, List.length_drop]
  omega

lemma part_part (l : Blob) (off : ℕ) (h : o + m ≤ n) : part (part l off n) o m = part l (off + o) m := by
  apply List.ext_getElem?
  intro k
  rw [getElem?_part, getElem?_part, getElem?_part]
  by_cases hk : k < m
  · rw [if_pos hk, if_pos hk, if_pos (by omega), Nat.add_assoc]
  · rw [if_neg hk, if_neg hk]

lemma part_all (l : Blob) : part l 0 l.length = l := by rw [part, List.drop_zero, List.take_length]

lemma part_append (l : Blob) (off n m : ℕ) : part l off n ++ part l (off + n) m = part l off (n + m) := by
  rw [part, part, part, List.take_add, List.drop_drop]

lemma field_part (w : ℕ) (l : Blob) (off : ℕ) (h : o + m ≤ n) :
    field w (part l off n) o m = field w l (off + o) m := by
  apply assemble_congr
  intro i hi
  rw [List.getD_eq_getElem?_getD, List.getD_eq_getElem?_getD, getElem?_part, if_pos (by omega), Nat.add_assoc]

lemma field_le (v : BitVec w) (hw : w = 8 * n) : field w (le n v) 0 n = v :=
  field_of_append [] [] (List.append_nil _).symm rfl hw

lemma field_congr (w : ℕ) {l' : Blob} {off' : ℕ} (h : part l off n = part l' off' n) :
    field w l off n = field w l' off' n := by
  have hleft := field_part w l off (n := n) (o := 0) (m := n) (Nat.zero_add n).le
  have hright := field_part w l' off' (n := n) (o := 0) (m := n) (Nat.zero_add n).le
  rw [Nat.add_zero] at hleft hright
  rw [← hleft, h, hright]

end Parts

section Patches

lemma patched_append (l : Blob) (before after : List Block) :
    patched l (before ++ after) = patched (patched l before) after := List.foldl_append

lemma length_patched (h : ∀ b ∈ blocks, b.stop ≤ l.length) : (patched l blocks).length = l.length := by
  induction blocks generalizing l with
  | nil => rfl
  | cons b blocks ih =>
    have hlen : (patch l b.base b.bytes).length = l.length := length_patch (h b List.mem_cons_self)
    have hrest := ih (l := patch l b.base b.bytes) (by
      rw [hlen]
      exact fun b' hb' => h b' (List.mem_cons_of_mem _ hb'))
    exact hrest.trans hlen

lemma getElem?_patched_outside (h : ∀ b ∈ blocks, b.stop ≤ l.length) (hout : ∀ b ∈ blocks, k < b.base ∨ b.stop ≤ k) :
    (patched l blocks)[k]? = l[k]? := by
  induction blocks generalizing l with
  | nil => rfl
  | cons b blocks ih =>
    have hb := h b List.mem_cons_self
    have hk := hout b List.mem_cons_self
    have hlen : (patch l b.base b.bytes).length = l.length := length_patch hb
    have hrest := ih (l := patch l b.base b.bytes) (by
      rw [hlen]
      exact fun b' hb' => h b' (List.mem_cons_of_mem _ hb')) fun b' hb' => hout b' (List.mem_cons_of_mem _ hb')
    refine hrest.trans ?_
    rw [Block.stop] at hb hk
    rw [getElem?_patch hb, if_neg (by omega)]

lemma part_patched_outside (h : ∀ b ∈ blocks, b.stop ≤ l.length)
    (hout : ∀ b ∈ blocks, off + n ≤ b.base ∨ b.stop ≤ off) : part (patched l blocks) off n = part l off n := by
  apply List.ext_getElem?
  intro k
  rw [getElem?_part, getElem?_part]
  by_cases hk : k < n
  · rw [if_pos hk, if_pos hk]
    apply getElem?_patched_outside h
    intro b hb
    have hb := hout b hb
    omega
  · rw [if_neg hk, if_neg hk]

/-- The last block written over a byte is what is read there. -/
lemma getElem?_patched (h : ∀ b' ∈ before ++ b :: after, b'.stop ≤ l.length) (hk : b.base ≤ k ∧ k < b.stop)
    (hafter : ∀ b' ∈ after, k < b'.base ∨ b'.stop ≤ k) :
    (patched l (before ++ b :: after))[k]? = b.bytes[k - b.base]? := by
  have hbefore : (patched l before).length = l.length :=
    length_patched fun b' hb' => h b' (List.mem_append_left _ hb')
  have hb : b.base + b.bytes.length ≤ (patched l before).length :=
    hbefore ▸ h b (List.mem_append_right _ List.mem_cons_self)
  have hlen : (patch (patched l before) b.base b.bytes).length = l.length := (length_patch hb).trans hbefore
  rw [patched_append]
  refine (getElem?_patched_outside (l := patch (patched l before) b.base b.bytes) ?_ hafter).trans ?_
  · rw [hlen]
    exact fun b' hb' => h b' (List.mem_append_right _ (List.mem_cons_of_mem _ hb'))
  · rw [Block.stop] at hk
    rw [getElem?_patch hb, if_pos hk]

lemma part_patched_last (before after : List Block) (h : ∀ b' ∈ before ++ b :: after, b'.stop ≤ l.length)
    (hafter : ∀ b' ∈ after, b.stop ≤ b'.base) (ho : o + n ≤ b.bytes.length) :
    part (patched l (before ++ b :: after)) (b.base + o) n = part b.bytes o n := by
  apply List.ext_getElem?
  intro k
  rw [getElem?_part, getElem?_part]
  by_cases hk : k < n
  · have hstop : b.base + o + k < b.stop := by
      rw [Block.stop]
      omega
    rw [if_pos hk, if_pos hk, getElem?_patched h ⟨by omega, hstop⟩ fun b' hb' => .inl (hstop.trans_le (hafter b' hb'))]
    congr 1
    omega
  · rw [if_neg hk, if_neg hk]

variable (h : Fit 0 l.length blocks)

include h

lemma getElem?_patched_of_mem (hb : b ∈ blocks) (ho : o < b.bytes.length) :
    (patched l blocks)[b.base + o]? = b.bytes[o]? := by
  obtain ⟨before, after, rfl⟩ := List.append_of_mem hb
  have happart := (List.pairwise_cons.1 (List.pairwise_append.1 h.apart).2.1).1
  have hstop : b.base + o < b.stop := Nat.add_lt_add_left ho b.base
  rw [getElem?_patched h.inside ⟨Nat.le_add_right _ _, hstop⟩ fun b' hb' => .inl (hstop.trans_le (happart b' hb')),
    Nat.add_sub_cancel_left]

lemma getD_patched (hb : b ∈ blocks) (ho : o < b.bytes.length) :
    (patched l blocks).getD (b.base + o) 0 = b.bytes.getD o 0 := by
  rw [List.getD_eq_getElem?_getD, getElem?_patched_of_mem h hb ho, List.getD_eq_getElem?_getD]

lemma part_patched (hb : b ∈ blocks) (ho : o + n ≤ b.bytes.length) :
    part (patched l blocks) (b.base + o) n = part b.bytes o n := by
  obtain ⟨before, after, rfl⟩ := List.append_of_mem hb
  apply part_patched_last before after h.inside _ ho
  exact (List.pairwise_cons.1 (List.pairwise_append.1 h.apart).2.1).1

lemma field_patched (hb : b ∈ blocks) (ho : o + n ≤ b.bytes.length) :
    field w (patched l blocks) (b.base + o) n = field w b.bytes o n := by
  apply assemble_congr
  intro i hi
  rw [Nat.add_assoc]
  exact getD_patched h hb (by omega)

lemma part_patched_all (hb : b ∈ blocks) : part (patched l blocks) b.base b.bytes.length = b.bytes := by
  have hpart := part_patched h hb (Nat.zero_add b.bytes.length).le
  rwa [part_all] at hpart

/-- A word written into the vector is read there. -/
lemma field_patched_le {v : BitVec w} (hb : ⟨off, le n v⟩ ∈ blocks) (hw : w = 8 * n) :
    field w (patched l blocks) off n = v := by
  have hfield := field_patched (w := w) (o := 0) (n := n) h hb ((Nat.zero_add n).trans (length_le n v).symm).le
  exact hfield.trans (field_le v hw)

lemma byte_patched {x : Byte} {xs : Blob} (hb : ⟨off, x :: xs⟩ ∈ blocks) : (patched l blocks).getD off 0 = x :=
  getD_patched (o := 0) h hb (Nat.succ_pos _)

end Patches

section Fits

variable {lo hi mid : ℕ}

lemma Fit.of_ascending (h : Ascending lo (blocks ++ [⟨hi, []⟩])) : Fit lo hi blocks := by
  have hpairwise := List.pairwise_append.1 h.pairwise
  exact ⟨fun b hb => h.le_base (List.mem_append_left _ hb),
    fun b hb => hpairwise.2.2 b hb _ (List.mem_singleton_self _), hpairwise.1⟩

lemma Fit.mono {lo' hi' : ℕ} (h : Fit lo hi blocks) (hlo : lo' ≤ lo) (hhi : hi ≤ hi') : Fit lo' hi' blocks :=
  ⟨fun b hb => hlo.trans (h.start b hb), fun b hb => (h.inside b hb).trans hhi, h.apart⟩

lemma Fit.append (hbefore : Fit lo mid before) (hafter : Fit mid hi after) (hlo : lo ≤ mid) (hhi : mid ≤ hi) :
    Fit lo hi (before ++ after) := by
  refine ⟨fun b hb => ?_, fun b hb => ?_, ?_⟩
  · rcases List.mem_append.1 hb with hb | hb
    · exact hbefore.start b hb
    · exact hlo.trans (hafter.start b hb)
  · rcases List.mem_append.1 hb with hb | hb
    · exact (hbefore.inside b hb).trans hhi
    · exact hafter.inside b hb
  · rw [List.pairwise_append]
    exact ⟨hbefore.apart, hafter.apart, fun b hb b' hb' => (hbefore.inside b hb).trans (hafter.start b' hb')⟩

/-- A table of blocks of one size. -/
lemma fit_table (lo size count : ℕ) {bytes : ℕ → Blob} (hsize : ∀ k < count, (bytes k).length ≤ size) :
    Fit lo (lo + size * count) ((List.range count).map fun k => ⟨lo + size * k, bytes k⟩) := by
  have hstep : ∀ {j k : ℕ}, j < k → size * j + size ≤ size * k := fun {j k} hjk => by
    rw [← Nat.mul_succ]
    exact Nat.mul_le_mul_left size hjk
  refine ⟨fun b hb => ?_, fun b hb => ?_, ?_⟩
  · obtain ⟨k, _, rfl⟩ := List.mem_map.1 hb
    exact Nat.le_add_right _ _
  · obtain ⟨k, hk, rfl⟩ := List.mem_map.1 hb
    have hk := List.mem_range.1 hk
    have hlen := hsize k hk
    have hle := hstep hk
    change lo + size * k + (bytes k).length ≤ _
    omega
  · rw [List.pairwise_map]
    apply List.pairwise_lt_range.imp_of_mem
    intro j k hj _ hjk
    have hlen := hsize j (List.mem_range.1 hj)
    have hle := hstep hjk
    change lo + size * j + (bytes j).length ≤ lo + size * k
    omega

end Fits

section Overwrites

variable {off' : ℕ} {bytes bytes' : Blob}

lemma overwrite_eq_patch (h : off ≤ l.length) : overwrite l off bytes = patch l off bytes := by
  rw [overwrite, patch, Nat.sub_eq_zero_of_le h, List.replicate_zero, List.append_nil]

/-- Bytes written over others at the same place; the longer ones of them reach further. -/
lemma patch_patch (h : off ≤ l.length) :
    patch (patch l off bytes) off bytes' = patch l off (bytes' ++ bytes.drop bytes'.length) := by
  have htake : (l.take off).length = off := List.length_take_of_le h
  have hfirst : (patch l off bytes).take off = l.take off := by
    rw [patch, List.append_assoc, List.take_left' htake]
  have hrest : (patch l off bytes).drop (off + bytes'.length) =
      bytes.drop bytes'.length ++ l.drop (off + (bytes' ++ bytes.drop bytes'.length).length) := by
    rw [patch, List.append_assoc, ← List.drop_drop, List.drop_left' htake, List.drop_append, List.drop_drop,
      List.length_append, List.length_drop]
    congr 2
    omega
  rw [patch, hfirst, hrest, patch, ← List.append_assoc, ← List.append_assoc]

/-- The order of writes to different places makes no difference. -/
lemma patch_comm (hapart : off + bytes.length ≤ off') (hinside : off' + bytes'.length ≤ l.length) :
    patch (patch l off bytes) off' bytes' = patch (patch l off' bytes') off bytes := by
  apply List.ext_getElem?
  intro k
  have hleft : (patch l off bytes).length = l.length := length_patch (by omega)
  have hright : (patch l off' bytes').length = l.length := length_patch hinside
  rw [getElem?_patch (by rw [hleft]; exact hinside), getElem?_patch (by omega), getElem?_patch (by rw [hright]; omega),
    getElem?_patch hinside]
  split
  · rw [if_neg (by omega)]
  · rfl

end Overwrites

end PatchedImage

import Mathlib.Data.List.Basic
import Mathlib.Order.Lattice
import Mathlib.Tactic.Common

/-! Buffered readers of files that others may write: what a read returns of the buffer and of the file. -/

namespace BufferedReader

variable {α : Type*} {file : List α}

/-- The bytes of one fill of the buffer, where they stood in the file, and how far they were read. -/
structure Reader (α : Type*) where
  start : ℕ
  bytes : List α
  pos : ℕ
  inBuffer : pos ≤ bytes.length
  deriving DecidableEq

namespace Reader

/-- A reader with nothing in its buffer. -/
def emptyAt (offset : ℕ) : Reader α := ⟨offset, [], 0, Nat.le_refl 0⟩

/-- A reader that filled its buffer, and read the first of the bytes. -/
def filled (offset : ℕ) (bytes : List α) (n : ℕ) : Reader α :=
  ⟨offset, bytes, min n bytes.length, Nat.min_le_right _ _⟩

variable (r : Reader α)

def tell : ℕ := r.start + r.pos

/-- What is in the buffer and was not read. -/
def held : List α := r.bytes.drop r.pos

/-- A seek stays in a buffer that holds something still, where it can. -/
def seek (target : ℕ) : Reader α :=
  if h : 0 < r.held.length ∧ r.start ≤ target ∧ target ≤ r.start + r.bytes.length then
    { r with pos := target - r.start, inBuffer := Nat.sub_le_iff_le_add'.mpr h.2.2 }
  else emptyAt target

/-- A read takes what the buffer holds, then whole blocks from the file, and then fills the buffer for the rest. -/
def read (block : ℕ) (file : List α) (n : ℕ) : List α × Reader α :=
  if h : n ≤ r.held.length then
    (r.held.take n, { r with
      pos := r.pos + n
      inBuffer := by
        have := r.inBuffer
        rw [held, List.length_drop] at h
        omega })
  else
    let next := r.start + r.bytes.length
    let rest := n - r.held.length
    let direct := rest / block * block
    let blocks := (file.drop next).take direct
    if blocks.length < direct then (r.held ++ blocks, emptyAt (next + blocks.length))
    else if rest = direct then (r.held ++ blocks, emptyAt (next + direct))
    else
      let bytes := (file.drop (next + direct)).take block
      (r.held ++ blocks ++ bytes.take (rest - direct), filled (next + direct) bytes (rest - direct))

/-- The unread part of the buffer is what stands there in the file. -/
def Fresh (file : List α) : Prop := r.held = (file.drop r.tell).take r.held.length

/-- The whole buffer is what stands there in the file. -/
def Mirrors (file : List α) : Prop := r.bytes = (file.drop r.start).take r.bytes.length

@[simp] lemma tell_emptyAt (offset : ℕ) : (emptyAt offset : Reader α).tell = offset := rfl

@[simp] lemma held_emptyAt (offset : ℕ) : (emptyAt offset : Reader α).held = [] := rfl

lemma tell_filled (offset : ℕ) (bytes : List α) (n : ℕ) :
    (filled offset bytes n).tell = offset + (bytes.take n).length := by
  rw [List.length_take]
  rfl

lemma mirrors_filled (offset n m : ℕ) (file : List α) :
    (filled offset ((file.drop offset).take m) n).Mirrors file := by
  change (file.drop offset).take m = (file.drop offset).take ((file.drop offset).take m).length
  rw [List.length_take, ← List.take_eq_take_min]

lemma mirrors_emptyAt (offset : ℕ) (file : List α) : (emptyAt offset).Mirrors file := rfl

@[simp] lemma tell_seek (target : ℕ) : (r.seek target).tell = target := by
  unfold seek
  split
  · next h => exact Nat.add_sub_of_le h.2.1
  · rfl

lemma Mirrors.seek {r : Reader α} (h : r.Mirrors file) (target : ℕ) : (r.seek target).Mirrors file := by
  unfold Reader.seek
  split
  · exact h
  · rfl

lemma length_held : r.held.length = r.bytes.length - r.pos := List.length_drop

lemma Mirrors.fresh {r : Reader α} (h : r.Mirrors file) : r.Fresh file := by
  rw [Fresh, length_held, tell, held]
  conv_lhs => rw [h]
  rw [List.drop_take, List.drop_drop]

lemma read_data {block : ℕ} (hblock : 0 < block) (file : List α) (n : ℕ) :
    (r.read block file n).1 = (r.held ++ file.drop (r.start + r.bytes.length)).take n := by
  unfold read
  split
  · next h => rw [List.take_append_of_le_length h]
  · next h =>
    rw [List.take_append, List.take_of_length_le (Nat.le_of_not_le h)]
    obtain ⟨rest, hrest⟩ : ∃ rest, rest = n - r.held.length := ⟨_, rfl⟩
    have hdirect : rest / block * block ≤ rest := Nat.div_mul_le_self rest block
    have hleft : rest < rest / block * block + block := Nat.lt_div_mul_add hblock
    simp only [← hrest]
    split
    · next hshort =>
      rw [List.length_take] at hshort
      rw [List.take_of_length_le (by omega), List.take_of_length_le (by omega)]
    · split
      · next hall => rw [← hall]
      · have hsplit : rest = rest / block * block + (rest - rest / block * block) := by omega
        conv_rhs => rw [hsplit]
        rw [List.take_add, List.drop_drop, List.take_take, Nat.min_eq_left (by omega), List.append_assoc]

lemma tell_read (block : ℕ) (file : List α) (n : ℕ) :
    (r.read block file n).2.tell = r.tell + (r.read block file n).1.length := by
  have hin := r.inBuffer
  have hheld := r.length_held
  unfold read
  split
  · next h =>
    rw [List.length_take, Nat.min_eq_left h, tell, tell, Nat.add_assoc]
  · next h =>
    simp only
    split
    · rw [List.length_append, tell_emptyAt, tell]
      omega
    · next hblocks =>
      have hlength : ((file.drop (r.start + r.bytes.length)).take ((n - r.held.length) / block * block)).length =
          (n - r.held.length) / block * block :=
        Nat.le_antisymm (List.length_take_le _ _) (Nat.le_of_not_lt hblocks)
      split
      · rw [List.length_append, hlength, tell_emptyAt, tell]
        omega
      · rw [List.length_append, List.length_append, hlength, tell_filled, tell]
        omega

lemma Fresh.read_data {r : Reader α} (h : r.Fresh file) {block : ℕ} (hblock : 0 < block) (n : ℕ) :
    (r.read block file n).1 = (file.drop r.tell).take n := by
  have hin := r.inBuffer
  have hheld := r.length_held
  have hnext : r.start + r.bytes.length = r.tell + r.held.length := by
    rw [tell]
    omega
  rw [r.read_data hblock, hnext, ← List.drop_drop]
  obtain ⟨k, hk⟩ : ∃ k, k = r.held.length := ⟨_, rfl⟩
  rw [Fresh, ← hk] at h
  rw [← hk, h, List.take_append_drop]

lemma Mirrors.read_or {r : Reader α} {old : List α} (block : ℕ) (file : List α) (h : r.Mirrors old) (n : ℕ) :
    (r.read block file n).2.Mirrors old ∨ (r.read block file n).2.Mirrors file := by
  unfold Reader.read
  split
  · exact .inl h
  · simp only
    split
    · exact .inr rfl
    · split
      · exact .inr rfl
      · exact .inr (mirrors_filled ..)

lemma Mirrors.read {r : Reader α} (block : ℕ) (h : r.Mirrors file) (n : ℕ) : (r.read block file n).2.Mirrors file :=
  (h.read_or block file n).elim id id

end Reader

end BufferedReader

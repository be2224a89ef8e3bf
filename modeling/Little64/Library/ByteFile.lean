import Little64.Library.LittleEndian

/-! Files as strings of bytes: little-endian fields, writing over what is there, and tables of records of one size. -/

namespace ByteFile

open LittleEndian

variable {w n : ℕ} {α β : Type*}

def le (n : ℕ) (v : BitVec w) : List Byte := (List.range n).map (byteAt v)

def field (w : ℕ) (bytes : List Byte) (offset n : ℕ) : BitVec w :=
  assemble w (fun i => bytes.getD (offset + i) 0) n

/-- What a write at a position makes of a file; a gap before it is filled with zeros. -/
def overwrite (file : List Byte) (pos : ℕ) (data : List Byte) : List Byte :=
  file.take pos ++ List.replicate (pos - file.length) 0 ++ data ++ file.drop (pos + data.length)

/-- The records of a table, each parsed from `size` bytes. -/
def unpack (parse : List Byte → β) (size : ℕ) : ℕ → List Byte → List β
  | 0, _ => []
  | n + 1, bytes => parse (bytes.take size) :: unpack parse size n (bytes.drop size)

@[simp] lemma length_le (n : ℕ) (v : BitVec w) : (le n v).length = n := by
  rw [le, List.length_map, List.length_range]

lemma field_of_append {bytes : List Byte} {offset : ℕ} {v : BitVec w} (before after : List Byte)
    (hbytes : bytes = before ++ (le n v ++ after)) (hoffset : before.length = offset) (hw : w = 8 * n) :
    field w bytes offset n = v := by
  subst hbytes
  subst hoffset
  have hbytes : field w (before ++ (le n v ++ after)) before.length n = lowBytes n v := by
    apply assemble_congr
    intro i hi
    rw [List.getD_eq_getElem?_getD, List.getElem?_append_right (Nat.le_add_right _ _), Nat.add_sub_cancel_left,
      List.getElem?_append_left (by rw [length_le]; exact hi), le, List.getElem?_map, List.getElem?_range hi]
    rfl
  rw [hbytes, lowBytes_all n v hw.le]

lemma overwrite_append (before stale data : List Byte) :
    overwrite (before ++ stale) before.length data = before ++ data ++ stale.drop data.length := by
  have hgap : before.length - (before ++ stale).length = 0 := by
    rw [List.length_append]
    omega
  rw [overwrite, hgap, List.take_left, List.replicate_zero, List.append_nil, List.drop_append]
  simp

lemma overwrite_zero (file data : List Byte) : overwrite file 0 data = data ++ file.drop data.length := by
  have h := overwrite_append [] file data
  rw [List.nil_append, List.nil_append, List.length_nil] at h
  exact h

lemma length_flatMap {size : ℕ} {encode : α → List Byte} {records : List α}
    (hsize : ∀ a ∈ records, (encode a).length = size) : (records.flatMap encode).length = size * records.length := by
  induction records with
  | nil => rfl
  | cons a records ih =>
    rw [List.flatMap_cons, List.length_append, hsize a List.mem_cons_self,
      ih fun b hb => hsize b (List.mem_cons_of_mem _ hb), List.length_cons, Nat.mul_succ, Nat.add_comm]

/-- Records written one behind the other are read back one behind the other, whatever follows them. -/
lemma unpack_flatMap {size : ℕ} {encode : α → List Byte} {parse : List Byte → β} {records : List α} (rest : List Byte)
    (hsize : ∀ a ∈ records, (encode a).length = size) :
    unpack parse size records.length (records.flatMap encode ++ rest) = records.map fun a => parse (encode a) := by
  induction records with
  | nil => rfl
  | cons a records ih =>
    have ha := hsize a List.mem_cons_self
    rw [List.length_cons, unpack, List.flatMap_cons, List.append_assoc, ← ha, List.take_left, List.drop_left, ha,
      ih fun b hb => hsize b (List.mem_cons_of_mem _ hb), List.map_cons]

end ByteFile

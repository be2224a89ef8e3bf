import Little64.Library.CheckedAccess

/-! Blocks of bytes placed one behind the other into an image, with zero bytes between them. -/

namespace Placement

open CheckedAccess

/-- Zero bytes up to an even length. -/
def padEven (b : Blob) : Blob := if b.length % 2 ≠ 0 then b ++ [0] else b

/-- Zero bytes up to a length. -/
def padTo (b : Blob) (n : ℕ) : Blob := b ++ List.replicate (n - b.length) 0

structure Block where
  base : ℕ
  bytes : Blob
  deriving DecidableEq

def Block.stop (b : Block) : ℕ := b.base + b.bytes.length

def place (l : Blob) (b : Block) : Blob := padTo l b.base ++ b.bytes

/-- Each block starts at or behind the end of the one before it. -/
def Ascending : ℕ → List Block → Prop
  | _, [] => True
  | n, b :: bs => n ≤ b.base ∧ Ascending b.stop bs

def Covers (blocks : List Block) (a : ℕ) : Prop := ∃ b ∈ blocks, b.base ≤ a ∧ a < b.stop

variable {l : Blob} {b : Block} {n : ℕ}

lemma length_padTo (h : l.length ≤ n) : (padTo l n).length = n := by
  rw [padTo, List.length_append, List.length_replicate]
  omega

lemma padTo_padTo {m : ℕ} (h : n ≤ m) : padTo (padTo l n) m = padTo l m := by
  rw [padTo, padTo, padTo, List.append_assoc, List.replicate_append_replicate, List.length_append,
    List.length_replicate]
  congr 2
  omega

lemma padTo_padEven (h : l.length ≤ n) (he : n % 2 = 0) : padTo (padEven l) n = padTo l n := by
  rw [padEven]
  split
  · rename_i hodd
    have hone : l ++ [0] = padTo l (l.length + 1) := by
      rw [padTo, Nat.add_sub_cancel_left]
      rfl
    rw [hone]
    exact padTo_padTo (by omega)
  · rfl

lemma getElem?_padTo (n k : ℕ) :
    (padTo l n)[k]? = if k < l.length then l[k]? else if k < n then some 0 else none := by
  rw [padTo]
  rcases Nat.lt_or_ge k l.length with hk | hk
  · rw [List.getElem?_append_left hk, if_pos hk]
  · rw [List.getElem?_append_right hk, List.getElem?_replicate, if_neg (Nat.not_lt.2 hk)]
    congr 1
    rw [eq_iff_iff]
    omega

lemma length_place (h : l.length ≤ b.base) : (place l b).length = b.stop := by
  rw [place, List.length_append, length_padTo h, Block.stop]

lemma getElem?_place (h : l.length ≤ b.base) (k : ℕ) :
    (place l b)[k]? = if k < l.length then l[k]? else if k < b.base then some 0 else b.bytes[k - b.base]? := by
  rw [place]
  rcases Nat.lt_or_ge k b.base with hk | hk
  · rw [List.getElem?_append_left (by rw [length_padTo h]; exact hk), getElem?_padTo, if_pos hk, if_pos hk]
  · rw [List.getElem?_append_right (by rw [length_padTo h]; exact hk), length_padTo h, if_neg (by omega),
      if_neg (by omega)]

lemma Ascending.mono {m : ℕ} {blocks : List Block} (hm : m ≤ n) (h : Ascending n blocks) : Ascending m blocks := by
  cases blocks with
  | nil => exact h
  | cons b bs => exact ⟨hm.trans h.1, h.2⟩

lemma Ascending.le_base {blocks : List Block} (h : Ascending n blocks) (hb : b ∈ blocks) : n ≤ b.base := by
  induction blocks generalizing n with
  | nil => exact absurd hb List.not_mem_nil
  | cons b' bs ih =>
    rcases List.mem_cons.1 hb with rfl | hb
    · exact h.1
    · have hstop := ih h.2 hb
      rw [Block.stop] at hstop
      exact h.1.trans (by omega)

lemma Ascending.append {m n : ℕ} {bs cs : List Block} (hb : Ascending m bs) (hmn : m ≤ n)
    (hstop : ∀ b ∈ bs, b.stop ≤ n) (hc : Ascending n cs) : Ascending m (bs ++ cs) := by
  induction bs generalizing m with
  | nil => exact hc.mono hmn
  | cons b bs ih =>
    refine ⟨hb.1, ?_⟩
    exact ih hb.2 (hstop b List.mem_cons_self) fun b' hb' => hstop b' (List.mem_cons_of_mem _ hb')

lemma Ascending.left {bs cs : List Block} (h : Ascending n (bs ++ cs)) : Ascending n bs := by
  induction bs generalizing n with
  | nil => trivial
  | cons b bs ih => exact ⟨h.1, ih h.2⟩

lemma Ascending.right {bs cs : List Block} (h : Ascending l.length (bs ++ cs)) :
    Ascending (bs.foldl place l).length cs := by
  induction bs generalizing l with
  | nil => exact h
  | cons b bs ih =>
    apply ih
    rw [length_place h.1]
    exact h.2

theorem Ascending.pairwise {blocks : List Block} (h : Ascending n blocks) :
    blocks.Pairwise fun b b' => b.stop ≤ b'.base := by
  induction blocks generalizing n with
  | nil => exact List.Pairwise.nil
  | cons b bs ih => exact List.Pairwise.cons (fun b' hb' => h.2.le_base hb') (ih h.2)

/-- The image of ascending blocks behind some bytes. -/
structure Placed (l : Blob) (blocks : List Block) (image : Blob) : Prop where
  kept : ∀ k < l.length, image[k]? = l[k]?
  grown : l.length ≤ image.length
  within : ∀ b ∈ blocks, b.stop ≤ image.length
  held : ∀ b ∈ blocks, ∀ k < b.bytes.length, image[b.base + k]? = b.bytes[k]?
  zero : ∀ a, l.length ≤ a → a < image.length → ¬ Covers blocks a → image[a]? = some 0

theorem placed_foldl {blocks : List Block} (h : Ascending l.length blocks) : Placed l blocks (blocks.foldl place l) := by
  induction blocks generalizing l with
  | nil =>
    refine ⟨fun k _ => rfl, le_rfl, fun b hb => absurd hb List.not_mem_nil, fun b hb => absurd hb List.not_mem_nil, ?_⟩
    intro a hle hlt
    exact absurd hlt (Nat.not_lt.2 hle)
  | cons b bs ih =>
    obtain ⟨hbase, hrest⟩ := h
    have hlen := length_place hbase
    have hp := ih (l := place l b) (by rw [hlen]; exact hrest)
    have hstop : l.length ≤ b.stop := by
      rw [Block.stop]
      omega
    rw [List.foldl_cons]
    constructor
    · intro k hk
      rw [hp.kept k (by omega), getElem?_place hbase, if_pos hk]
    · exact hstop.trans (hlen ▸ hp.grown)
    · intro b' hb'
      rcases List.mem_cons.1 hb' with rfl | hb'
      · exact hlen ▸ hp.grown
      · exact hp.within b' hb'
    · intro b' hb' k hk
      rcases List.mem_cons.1 hb' with rfl | hb'
      · have hlt : b'.base + k < b'.stop := by
          rw [Block.stop]
          omega
        rw [hp.kept _ (by omega), getElem?_place hbase, if_neg (by omega), if_neg (by omega), Nat.add_sub_cancel_left]
      · exact hp.held b' hb' k hk
    · intro a hle hlt hcover
      have hb : ¬ (b.base ≤ a ∧ a < b.stop) := fun h => hcover ⟨b, List.mem_cons_self, h⟩
      rcases Nat.lt_or_ge a b.stop with ha | ha
      · rw [hp.kept a (by omega), getElem?_place hbase, if_neg (by omega), if_pos (by omega)]
      · apply hp.zero a (by omega) hlt
        rintro ⟨b', hb', hin⟩
        exact hcover ⟨b', List.mem_cons_of_mem _ hb', hin⟩

/-- Two images of one length that differ at some offsets only. -/
structure AgreesOutside (fields : ℕ → Prop) (l image : Blob) : Prop where
  length : l.length = image.length
  eq : ∀ k, ¬ fields k → l[k]? = image[k]?

section Agreement

variable {fields : ℕ → Prop} {image : Blob}

lemma AgreesOutside.refl (fields : ℕ → Prop) (l : Blob) : AgreesOutside fields l l := ⟨rfl, fun _ _ => rfl⟩

lemma AgreesOutside.append (h : AgreesOutside fields l image) (bytes : Blob) :
    AgreesOutside fields (l ++ bytes) (image ++ bytes) := by
  constructor
  · rw [List.length_append, List.length_append, h.length]
  · intro k hk
    rw [List.getElem?_append, List.getElem?_append, h.length, h.eq k hk]

lemma AgreesOutside.padTo (h : AgreesOutside fields l image) (n : ℕ) :
    AgreesOutside fields (padTo l n) (padTo image n) := by
  rw [Placement.padTo, Placement.padTo, h.length]
  exact h.append _

lemma AgreesOutside.padEven (h : AgreesOutside fields l image) : AgreesOutside fields (padEven l) (padEven image) := by
  rw [Placement.padEven, Placement.padEven, h.length]
  split
  · exact h.append _
  · exact h

lemma AgreesOutside.patch {off : ℕ} {bytes : Blob} (h : AgreesOutside fields l image)
    (hinside : off + bytes.length ≤ l.length) (hfields : ∀ k, off ≤ k → k < off + bytes.length → fields k) :
    AgreesOutside fields (patch l off bytes) image := by
  constructor
  · rw [length_patch hinside, h.length]
  · intro k hk
    rw [getElem?_patch hinside, if_neg, h.eq k hk]
    rintro ⟨hle, hlt⟩
    exact hk (hfields k hle hlt)

end Agreement

end Placement

import Little64.Library.LongDivision

/-! The division and the multiplication of double words that the LiteX software gets for a machine with neither. What it
has for single words is code of its own that these call. -/

namespace Little64.Boot.CompilerRt

open LongDivision

abbrev SuInt := BitVec 32
abbrev DuInt := BitVec 64

/-- The halves of a double word. -/
structure Udwords where
  low : SuInt
  high : SuInt
  deriving DecidableEq, Repr

def Udwords.all (x : Udwords) : DuInt := x.high ++ x.low

def Udwords.ofAll (a : DuInt) : Udwords := ⟨a.extractLsb' 0 32, a.extractLsb' 32 32⟩

/-- A shift by the width or more is undefined. -/
def shl (x sr : SuInt) : Option SuInt := if sr < 32 then some (x <<< sr) else none
def shr (x sr : SuInt) : Option SuInt := if sr < 32 then some (x >>> sr) else none

/-- Zeros are not counted in a zero. -/
def clz (x : SuInt) : Option SuInt := if x = 0 then none else some x.clz
def ctz (x : SuInt) : Option SuInt := if x = 0 then none else some x.ctz

section Division

variable (udivsi3 umodsi3 : SuInt → SuInt → SuInt)

/-- The variables of the loop. -/
structure Division where
  q : Udwords
  r : Udwords
  carry : SuInt
  deriving DecidableEq, Repr

/-- What comes of the special cases: the quotient and the remainder, or the rounds that the loop has to make. -/
inductive Prepared
  | done (quotient remainder : DuInt)
  | rounds (sr : SuInt) (q r : Udwords)
  deriving DecidableEq, Repr

def prepare (n d : Udwords) : Option Prepared := do
  if n.high = 0 then
    if d.high = 0 then
      return .done ((udivsi3 n.low d.low).setWidth 64) ((umodsi3 n.low d.low).setWidth 64)
    return .done 0 (n.low.setWidth 64)
  if d.low = 0 then
    if d.high = 0 then
      return .done ((udivsi3 n.high d.low).setWidth 64) ((umodsi3 n.high d.low).setWidth 64)
    if n.low = 0 then
      return .done ((udivsi3 n.high d.high).setWidth 64) (Udwords.mk 0 (umodsi3 n.high d.high)).all
    if d.high &&& (d.high - 1) = 0 then
      let quotient ← shr n.high (← ctz d.high)
      return .done (quotient.setWidth 64) (Udwords.mk n.low (n.high &&& (d.high - 1))).all
    let sr := (← clz d.high) - (← clz n.high)
    if 30 < sr then return .done 0 n.all
    let sr := sr + 1
    return .rounds sr ⟨0, ← shl n.low (32 - sr)⟩ ⟨(← shl n.high (32 - sr)) ||| (← shr n.low sr), ← shr n.high sr⟩
  if d.high = 0 then
    if d.low &&& (d.low - 1) = 0 then
      let remainder := (n.low &&& (d.low - 1)).setWidth 64
      if d.low = 1 then return .done n.all remainder
      let sr ← ctz d.low
      return .done (Udwords.mk ((← shl n.high (32 - sr)) ||| (← shr n.low sr)) (← shr n.high sr)).all remainder
    let sr := 1 + 32 + ((← clz d.low) - (← clz n.high))
    if sr = 32 then return .rounds sr ⟨0, n.low⟩ ⟨n.high, 0⟩
    if sr < 32 then
      return .rounds sr ⟨0, ← shl n.low (32 - sr)⟩ ⟨(← shl n.high (32 - sr)) ||| (← shr n.low sr), ← shr n.high sr⟩
    return .rounds sr ⟨← shl n.low (64 - sr), (← shl n.high (64 - sr)) ||| (← shr n.low (sr - 32))⟩
      ⟨← shr n.high (sr - 32), 0⟩
  let sr := (← clz d.high) - (← clz n.high)
  if 31 < sr then return .done 0 n.all
  let sr := sr + 1
  if sr = 32 then return .rounds sr ⟨0, n.low⟩ ⟨n.high, 0⟩
  return .rounds sr ⟨0, ← shl n.low (32 - sr)⟩ ⟨(← shl n.high (32 - sr)) ||| (← shr n.low sr), ← shr n.high sr⟩

namespace Division

/-- The quotient and the remainder as one word of four halves, to the left by one place. -/
def shifted (l : Division) : Division where
  r := ⟨l.r.low <<< 1 ||| l.q.high >>> 31, l.r.high <<< 1 ||| l.r.low >>> 31⟩
  q := ⟨l.q.low <<< 1 ||| l.carry, l.q.high <<< 1 ||| l.q.low >>> 31⟩
  carry := l.carry

/-- All ones where the remainder is not less than the divisor. -/
def mask (d : Udwords) (l : Division) : DuInt := (d.all - l.r.all - 1).sshiftRight 63

def subtracted (d : Udwords) (l : Division) : Division where
  q := l.q
  r := .ofAll (l.r.all - (d.all &&& l.mask d))
  carry := (l.mask d &&& 1).setWidth 32

def round (d : Udwords) (l : Division) : Division := l.shifted.subtracted d

end Division

/-- The quotient, and the remainder for a caller that wants it. -/
def udivmoddi4 (a b : DuInt) : Option (DuInt × DuInt) := do
  let d := Udwords.ofAll b
  match ← prepare udivsi3 umodsi3 (.ofAll a) d with
  | .done quotient remainder => return (quotient, remainder)
  | .rounds sr q r =>
    let l := (Division.round d)^[sr.toNat] ⟨q, r, 0⟩
    return (l.q.all <<< 1 ||| l.carry.setWidth 64, l.r.all)

end Division

example : udivmoddi4 (· / ·) (· % ·) 1000000007000000021 12345678901 = some (81000001, 3673321120) := by decide +kernel

section Halves

variable (x : Udwords)

lemma toNat_all : x.all.toNat = x.high.toNat * 2 ^ 32 + x.low.toNat := by
  rw [Udwords.all, BitVec.toNat_append, ← Nat.shiftLeft_add_eq_or_of_lt x.low.isLt, Nat.shiftLeft_eq]

lemma all_ofAll (a : DuInt) : (Udwords.ofAll a).all = a := by
  apply BitVec.eq_of_toNat_eq
  have ha := a.isLt
  rw [toNat_all]
  change (a.extractLsb' 32 32).toNat * 2 ^ 32 + (a.extractLsb' 0 32).toNat = a.toNat
  rw [BitVec.extractLsb'_toNat, BitVec.extractLsb'_toNat, Nat.shiftRight_eq_div_pow, Nat.shiftRight_eq_div_pow]
  omega

/-- A bit that comes in from the right. -/
lemma toNat_shiftIn {w : ℕ} (a bit : BitVec w) (hbit : bit.toNat ≤ 1) :
    (a <<< 1 ||| bit).toNat = (2 * a.toNat + bit.toNat) % 2 ^ w := by
  cases w with
  | zero => rw [BitVec.eq_nil a, BitVec.eq_nil bit]; rfl
  | succ w =>
    have hdouble : 2 * a.toNat % 2 ^ (w + 1) = 2 * (a.toNat % 2 ^ w) := by rw [pow_succ', Nat.mul_mod_mul_left]
    have hrest : a.toNat % 2 ^ w < 2 ^ w := Nat.mod_lt _ (Nat.two_pow_pos w)
    have hfits : 2 * (a.toNat % 2 ^ w) + bit.toNat < 2 ^ (w + 1) := by
      rw [pow_succ']
      omega
    have hsum := Nat.two_pow_add_eq_or_of_lt (i := 1) (show bit.toNat < 2 ^ 1 by omega) (a.toNat % 2 ^ w)
    rw [pow_one] at hsum
    calc (a <<< 1 ||| bit).toNat = 2 * a.toNat % 2 ^ (w + 1) ||| bit.toNat := by
          rw [BitVec.toNat_or, BitVec.toNat_shiftLeft, Nat.shiftLeft_eq, pow_one, Nat.mul_comm]
      _ = 2 * (a.toNat % 2 ^ w) + bit.toNat := by rw [hdouble, hsum]
      _ = (2 * a.toNat + bit.toNat) % 2 ^ (w + 1) := by
          rw [Nat.add_mod, hdouble, Nat.mod_eq_of_lt bit.isLt, Nat.mod_eq_of_lt hfits]

lemma toNat_top (a : SuInt) : (a >>> 31).toNat = a.toNat / 2 ^ 31 := by
  rw [BitVec.toNat_ushiftRight, Nat.shiftRight_eq_div_pow]

lemma toNat_all_shiftIn (bit : SuInt) (hbit : bit.toNat ≤ 1) :
    (Udwords.mk (x.low <<< 1 ||| bit) (x.high <<< 1 ||| x.low >>> 31)).all.toNat =
      (2 * x.all.toNat + bit.toNat) % 2 ^ 64 := by
  have hlow := x.low.isLt
  have htop := toNat_top x.low
  rw [toNat_all, toNat_all]
  change (x.high <<< 1 ||| x.low >>> 31).toNat * 2 ^ 32 + (x.low <<< 1 ||| bit).toNat = _
  rw [toNat_shiftIn _ _ hbit, toNat_shiftIn _ _ (by omega), htop]
  omega

end Halves

section Rounds

variable {n : ℕ} {k : ℕ} {d : Udwords} {l : Division}

/-- The difference has its sign where the remainder is not less than the divisor, if they are not too far apart. -/
lemma mask_eq (hbelow : l.r.all.toNat < 2 * d.all.toNat) (hsign : d.all.toNat ≤ 2 ^ 63 ∨ 2 ^ 63 ≤ l.r.all.toNat) :
    l.mask d = if d.all.toNat ≤ l.r.all.toNat then BitVec.allOnes 64 else 0#64 := by
  have hr := l.r.all.isLt
  have hd := d.all.isLt
  have hmsb : (d.all - l.r.all - 1).msb = decide (d.all.toNat ≤ l.r.all.toNat) := by
    rw [BitVec.msb_eq_decide, BitVec.toNat_sub, BitVec.toNat_sub]
    change decide (2 ^ 63 ≤ (2 ^ 64 - 1 + (2 ^ 64 - l.r.all.toNat + d.all.toNat) % 2 ^ 64) % 2 ^ 64) = _
    rw [decide_eq_decide]
    omega
  apply BitVec.eq_of_toNat_eq
  have hdiff := (d.all - l.r.all - 1).isLt
  by_cases hle : d.all.toNat ≤ l.r.all.toNat
  · rw [decide_eq_true hle] at hmsb
    have hupper := BitVec.le_toNat_of_msb_true hmsb
    rw [if_pos hle, Division.mask, BitVec.toNat_sshiftRight_of_msb_true hmsb, Nat.shiftRight_eq_div_pow,
      BitVec.toNat_allOnes]
    omega
  · rw [decide_eq_false hle] at hmsb
    have hlower := BitVec.toNat_lt_of_msb_false hmsb
    rw [if_neg hle, Division.mask, BitVec.toNat_sshiftRight_of_msb_false hmsb, Nat.shiftRight_eq_div_pow]
    exact Nat.div_eq_of_lt hlower

/-- A round takes in one bit of the dividend. -/
lemma round_holds (h : Holds 64 n d.all.toNat (k + 1) l.r.all.toNat l.q.all.toNat l.carry.toNat) (hk : k + 1 ≤ 64)
    (hn : n < 2 ^ 64) (hd : 0 < d.all.toNat) (hsign : d.all.toNat ≤ 2 ^ 63 ∨ k = 0 ∧ 2 ^ 63 ≤ n) :
    Holds 64 n d.all.toNat k (l.round d).r.all.toNat (l.round d).q.all.toNat (l.round d).carry.toNat := by
  obtain ⟨htaken, hbelow⟩ := h.taken hd
  have htop := h.top hk hn
  have hstep := h.step hk hn hd
  have hcarry : l.carry.toNat ≤ 1 := by
    rw [h.carry]
    omega
  have hq : l.shifted.q.all.toNat = (2 * l.q.all.toNat + l.carry.toNat) % 2 ^ 64 :=
    toNat_all_shiftIn l.q l.carry hcarry
  have hr : l.shifted.r.all.toNat = 2 * l.r.all.toNat + n / 2 ^ k % 2 := by
    have hbit : (l.q.high >>> 31).toNat = n / 2 ^ k % 2 := by
      have hlow := l.q.low.isLt
      rw [← htop, toNat_top, toNat_all]
      omega
    have hshift := toNat_all_shiftIn l.r (l.q.high >>> 31) (by omega)
    have hle := Nat.div_le_self n (2 ^ k)
    rw [hbit, Nat.mod_eq_of_lt (by omega)] at hshift
    exact hshift
  have hmask : l.shifted.mask d = if d.all.toNat ≤ l.shifted.r.all.toNat then BitVec.allOnes 64 else 0#64 := by
    apply mask_eq
    · rw [hr]
      exact hbelow
    · rw [hr]
      -- a divisor with the top bit set meets the whole dividend in its only round
      rcases hsign with hsmall | ⟨rfl, hlarge⟩
      · exact .inl hsmall
      · rcases Nat.lt_or_ge (2 ^ 63) d.all.toNat with hd' | hd'
        · have hnone : n / 2 ^ (0 + 1) / d.all.toNat = 0 := Nat.div_eq_of_lt (by omega)
          rw [hnone, Nat.mul_zero, Nat.zero_add] at htaken
          rw [← htaken, pow_zero, Nat.div_one]
          exact .inr (by omega)
        · exact .inl hd'
  rw [← hr, ← hq] at hstep
  have hround : (l.round d).r.all = l.shifted.r.all - (d.all &&& l.shifted.mask d) := all_ofAll _
  have hcarried : (l.round d).carry = (l.shifted.mask d &&& 1).setWidth 32 := rfl
  change Holds 64 n _ k _ l.shifted.q.all.toNat _
  rw [hround, hcarried, hmask]
  split at hstep
  · next hle =>
    rw [if_pos hle, BitVec.and_allOnes, BitVec.toNat_sub_of_le hle]
    exact hstep
  · next hlt =>
    rw [if_neg hlt, BitVec.and_zero, BitVec.sub_zero]
    exact hstep

/-- The rounds that are left find the quotient and the remainder. -/
lemma rounds_holds (h : Holds 64 n d.all.toNat k l.r.all.toNat l.q.all.toNat l.carry.toNat) (hk : k ≤ 64) (hn : n < 2 ^ 64)
    (hd : 0 < d.all.toNat) (hsign : d.all.toNat ≤ 2 ^ 63 ∨ k ≤ 1 ∧ 2 ^ 63 ≤ n) :
    Holds 64 n d.all.toNat 0 ((Division.round d)^[k] l).r.all.toNat ((Division.round d)^[k] l).q.all.toNat
      ((Division.round d)^[k] l).carry.toNat := by
  induction k generalizing l with
  | zero => exact h
  | succ k ih =>
    rw [Function.iterate_succ_apply]
    apply ih (round_holds h hk hn hd ?_) (by omega)
    · rcases hsign with hsmall | ⟨honly, hlarge⟩
      · exact .inl hsmall
      · exact .inr ⟨by omega, hlarge⟩
    · rcases hsign with hsmall | ⟨honly, hlarge⟩
      · exact .inl hsmall
      · exact .inr ⟨by omega, hlarge⟩

end Rounds

section Counts

variable {x : SuInt}

lemma clz_bounds (hx : x ≠ 0) : x.clz.toNat ≤ 31 ∧ 2 ^ (31 - x.clz.toNat) ≤ x.toNat ∧
    x.toNat < 2 ^ (32 - x.clz.toNat) := by
  have hlt := BitVec.clz_lt_iff_ne_zero.mpr hx
  rw [BitVec.lt_def] at hlt
  change x.clz.toNat < 32 at hlt
  exact ⟨by omega, BitVec.two_pow_sub_clz_le_toNat_of_ne_zero (by decide) hx, BitVec.toNat_lt_two_pow_sub_clz⟩

lemma clz_eq (hx : x ≠ 0) : clz x = some x.clz := if_neg hx

lemma ctz_eq (hx : x ≠ 0) : ctz x = some x.ctz := if_neg hx

lemma shl_eq {sr : SuInt} (h : sr.toNat < 32) : shl x sr = some (x <<< sr) := if_pos (BitVec.lt_def.mpr h)

lemma shr_eq {sr : SuInt} (h : sr.toNat < 32) : shr x sr = some (x >>> sr) := if_pos (BitVec.lt_def.mpr h)

/-- A word that has no bit in common with the one before it has one bit, which is where the zeros end. -/
lemma toNat_eq_of_and_sub_one (hx : x ≠ 0) (h : x &&& (x - 1) = 0) :
    x.ctz.toNat < 32 ∧ x.toNat = 2 ^ x.ctz.toNat ∧ ∀ y : SuInt, (y &&& (x - 1)).toNat = y.toNat % 2 ^ x.ctz.toNat := by
  have hne : x.toNat ≠ 0 := fun hzero => hx (BitVec.eq_of_toNat_eq hzero)
  have hlt := BitVec.ctz_lt_iff_ne_zero.mpr hx
  rw [BitVec.lt_def] at hlt
  change x.ctz.toNat < 32 at hlt
  have hbefore : (x - 1).toNat = x.toNat - 1 := by
    have hbound := x.isLt
    rw [BitVec.toNat_sub]
    change (2 ^ 32 - 1 + x.toNat) % 2 ^ 32 = _
    omega
  have hand := congrArg BitVec.toNat h
  rw [BitVec.toNat_and, hbefore] at hand
  obtain ⟨t, ht⟩ := (Nat.and_sub_one_eq_zero_iff_isPowerOfTwo hne).mp hand
  have hbit := BitVec.getLsbD_true_ctz_of_ne_zero hx
  rw [BitVec.getLsbD, ht, Nat.testBit_two_pow] at hbit
  obtain rfl := of_decide_eq_true hbit
  refine ⟨hlt, ht, fun y => ?_⟩
  rw [BitVec.toNat_and, hbefore, ht, Nat.and_two_pow_sub_one_eq_mod]

end Counts

section Preparation

variable {n : Udwords} {sr : SuInt}

lemma toNat_thirtyTwo_sub (hsr : sr.toNat ≤ 32) : (32 - sr).toNat = 32 - sr.toNat :=
  BitVec.toNat_sub_of_le (BitVec.le_def.mpr hsr)

lemma toNat_shiftRight (x : SuInt) : (x >>> sr).toNat = x.toNat / 2 ^ sr.toNat := by
  change (x >>> sr.toNat).toNat = _
  rw [BitVec.toNat_ushiftRight, Nat.shiftRight_eq_div_pow]

lemma toNat_shiftLeft (x : SuInt) (hsr : sr.toNat ≤ 32) :
    (x <<< (32 - sr)).toNat = x.toNat % 2 ^ sr.toNat * 2 ^ (32 - sr.toNat) := by
  change (x <<< (32 - sr).toNat).toNat = _
  rw [BitVec.toNat_shiftLeft, toNat_thirtyTwo_sub hsr, Nat.shiftLeft_eq]
  have hplaces : 2 ^ 32 = 2 ^ sr.toNat * 2 ^ (32 - sr.toNat) := by
    rw [← pow_add]
    congr 1
    omega
  rw [hplaces, Nat.mul_mod_mul_right]

/-- The bits that leave a half to the right come into the other one from the left. -/
lemma toNat_joined (x y : SuInt) (hsr : sr.toNat ≤ 32) :
    ((x <<< (32 - sr)) ||| (y >>> sr)).toNat =
      x.toNat % 2 ^ sr.toNat * 2 ^ (32 - sr.toNat) + y.toNat / 2 ^ sr.toNat := by
  have hy : y.toNat / 2 ^ sr.toNat < 2 ^ (32 - sr.toNat) := by
    apply Nat.div_lt_of_lt_mul
    rw [← pow_add]
    have hw : sr.toNat + (32 - sr.toNat) = 32 := by omega
    rw [hw]
    exact y.isLt
  rw [BitVec.toNat_or, toNat_shiftLeft x hsr, toNat_shiftRight, Nat.mul_comm, Nat.two_pow_add_eq_or_of_lt hy]

/-- What the loop needs to find when it has so many rounds to make. -/
structure Ready (n d : DuInt) (sr : ℕ) (q r : DuInt) : Prop where
  rounds : sr ≤ 64
  q : q.toNat = n.toNat % 2 ^ sr * 2 ^ (64 - sr)
  r : r.toNat = n.toNat / 2 ^ sr
  small : n.toNat / 2 ^ sr < d.toNat
  sign : d.toNat ≤ 2 ^ 63 ∨ sr ≤ 1 ∧ 2 ^ 63 ≤ n.toNat

lemma places (hsr : sr.toNat ≤ 32) : 2 ^ sr.toNat * 2 ^ (32 - sr.toNat) = 2 ^ 32 := by
  rw [← pow_add]
  congr 1
  omega

/-- The halves of a double word that is moved to the right by less than a half. -/
lemma toNat_right (hsr : sr.toNat ≤ 32) :
    (Udwords.mk ((n.high <<< (32 - sr)) ||| (n.low >>> sr)) (n.high >>> sr)).all.toNat = n.all.toNat / 2 ^ sr.toNat := by
  have hplaces := places hsr
  have hhigh := Nat.div_add_mod n.high.toNat (2 ^ sr.toNat)
  rw [toNat_all, toNat_all, toNat_joined _ _ hsr, toNat_shiftRight, ← hplaces]
  generalize 2 ^ sr.toNat = p at *
  generalize 2 ^ (32 - sr.toNat) = m at *
  have hp : 0 < p := by
    rcases Nat.eq_zero_or_pos p with rfl | hp
    · omega
    · exact hp
  have hsum : n.high.toNat * (p * m) + n.low.toNat = p * (n.high.toNat * m) + n.low.toNat := by ring
  rw [hsum, Nat.mul_add_div hp]
  calc n.high.toNat / p * (p * m) + (n.high.toNat % p * m + n.low.toNat / p)
      = (p * (n.high.toNat / p) + n.high.toNat % p) * m + n.low.toNat / p := by ring
    _ = n.high.toNat * m + n.low.toNat / p := by rw [hhigh]

/-- The halves of a double word that is moved to the left by more than a half. -/
lemma toNat_left (hsr : sr.toNat ≤ 32) :
    (Udwords.mk 0 (n.low <<< (32 - sr))).all.toNat = n.all.toNat % 2 ^ sr.toNat * 2 ^ (64 - sr.toNat) := by
  have hplaces := places hsr
  have hshift : 2 ^ (64 - sr.toNat) = 2 ^ (32 - sr.toNat) * 2 ^ 32 := by
    rw [← pow_add]
    congr 1
    omega
  have hmod : n.all.toNat % 2 ^ sr.toNat = n.low.toNat % 2 ^ sr.toNat := by
    rw [toNat_all, ← hplaces, Nat.mul_comm, Nat.mul_assoc, Nat.mul_add_mod]
  rw [hmod, hshift, toNat_all, toNat_shiftLeft _ hsr]
  change _ + 0 = _
  ring

/-- The same for a move to the left by less than a half. -/
lemma toNat_left_less (hsr : sr.toNat ≤ 32) :
    (Udwords.mk (n.low <<< (32 - sr)) ((n.high <<< (32 - sr)) ||| (n.low >>> sr))).all.toNat =
      n.all.toNat % 2 ^ (32 + sr.toNat) * 2 ^ (32 - sr.toNat) := by
  have hplaces := places hsr
  have hlow := Nat.div_add_mod n.low.toNat (2 ^ sr.toNat)
  have hmod : n.all.toNat % 2 ^ (32 + sr.toNat) = n.high.toNat % 2 ^ sr.toNat * 2 ^ 32 + n.low.toNat := by
    have hbound := n.low.isLt
    rw [toNat_all, pow_add, Nat.mod_mul, Nat.mul_comm n.high.toNat, Nat.mul_add_mod, Nat.mod_eq_of_lt hbound,
      Nat.mul_add_div (by decide), Nat.div_eq_of_lt hbound, Nat.add_zero]
    ring
  rw [hmod, toNat_all, toNat_joined _ _ hsr, toNat_shiftLeft _ hsr, ← hplaces]
  generalize 2 ^ sr.toNat = p at *
  generalize 2 ^ (32 - sr.toNat) = m at *
  calc (n.high.toNat % p * m + n.low.toNat / p) * (p * m) + n.low.toNat % p * m
      = (n.high.toNat % p * (p * m) + (p * (n.low.toNat / p) + n.low.toNat % p)) * m := by ring
    _ = (n.high.toNat % p * (p * m) + n.low.toNat) * m := by rw [hlow]

section Cases

variable {n d : Udwords} {q r : Udwords}

lemma all_lt_of_high_lt (h : n.high.toNat < d.high.toNat) : n.all.toNat < d.all.toNat := by
  have hlow := n.low.isLt
  rw [toNat_all, toNat_all]
  omega

/-- A divisor that has its first bit as many places behind that of the dividend as rounds are to be made, less one. -/
lemma small_of_width {n d c : ℕ} {sr : ℕ} (hn : n < 2 ^ (c + sr)) (hd : 2 ^ c ≤ d) : n / 2 ^ sr < d := by
  apply (Nat.div_lt_of_lt_mul _).trans_le hd
  rw [← pow_add, Nat.add_comm]
  exact hn

/-- A divisor that starts in its high half. -/
lemma ready_high (hn : n.high ≠ 0) (hd : d.high ≠ 0) (hle : ¬ 31 < d.high.clz - n.high.clz) :
    (d.high.clz - n.high.clz + 1).toNat = d.high.clz.toNat + 1 - n.high.clz.toNat ∧
      n.high.clz.toNat ≤ d.high.clz.toNat ∧
      n.all.toNat / 2 ^ (d.high.clz - n.high.clz + 1).toNat < d.all.toNat ∧
      (d.all.toNat ≤ 2 ^ 63 ∨ (d.high.clz - n.high.clz + 1).toNat ≤ 1 ∧ 2 ^ 63 ≤ n.all.toNat) := by
  obtain ⟨hcn, hnlower, hnupper⟩ := clz_bounds hn
  obtain ⟨hcd, hdlower, hdupper⟩ := clz_bounds hd
  rw [BitVec.lt_def, BitVec.toNat_sub] at hle
  change ¬ 31 < _ at hle
  have hclz : n.high.clz.toNat ≤ d.high.clz.toNat := by omega
  have hsr : (d.high.clz - n.high.clz + 1).toNat = d.high.clz.toNat + 1 - n.high.clz.toNat := by
    rw [BitVec.toNat_add, BitVec.toNat_sub]
    change (_ + 1) % _ = _
    omega
  have hlow := n.low.isLt
  have hlow' := d.low.isLt
  refine ⟨hsr, hclz, ?_, ?_⟩
  · have hwidth : n.all.toNat < 2 ^ (63 - d.high.clz.toNat + (d.high.clz.toNat + 1 - n.high.clz.toNat)) := by
      have hexp : 63 - d.high.clz.toNat + (d.high.clz.toNat + 1 - n.high.clz.toNat) = 32 - n.high.clz.toNat + 32 := by
        omega
      rw [hexp, pow_add, toNat_all]
      omega
    have hstart : 2 ^ (63 - d.high.clz.toNat) ≤ d.all.toNat := by
      have hexp : 63 - d.high.clz.toNat = (31 - d.high.clz.toNat) + 32 := by omega
      rw [hexp, pow_add, toNat_all]
      omega
    rw [hsr]
    exact small_of_width hwidth hstart
  · rcases Nat.eq_zero_or_pos d.high.clz.toNat with hzero | hpos
    · rw [hsr, toNat_all, toNat_all]
      have hn0 : n.high.clz.toNat = 0 := by omega
      rw [hn0] at hnlower
      exact .inr ⟨by omega, by omega⟩
    · have hupper : d.high.toNat < 2 ^ 31 := hdupper.trans_le (Nat.pow_le_pow_right (by decide) (by omega))
      rw [toNat_all]
      exact .inl (by omega)

lemma zero_of_toNat {x : SuInt} (h : x.toNat = 0) : x = 0 := BitVec.eq_of_toNat_eq h

end Cases

end Preparation

section Results

variable {udivsi3 umodsi3 : SuInt → SuInt → SuInt} {n d : Udwords}

/-- What the division of single words has to be. -/
structure Divides (udivsi3 umodsi3 : SuInt → SuInt → SuInt) : Prop where
  quotient : ∀ a b, b ≠ 0 → udivsi3 a b = a / b
  remainder : ∀ a b, b ≠ 0 → umodsi3 a b = a % b

def Prepared.Right (n d : Udwords) : Prepared → Prop
  | .done quotient remainder => quotient = n.all / d.all ∧ remainder = n.all % d.all
  | .rounds sr q r => Ready n.all d.all sr.toNat q.all r.all

lemma done_right {quotient remainder : DuInt} (hquotient : quotient.toNat = n.all.toNat / d.all.toNat)
    (hremainder : remainder.toNat = n.all.toNat % d.all.toNat) : (Prepared.done quotient remainder).Right n d :=
  ⟨BitVec.eq_of_toNat_eq hquotient, BitVec.eq_of_toNat_eq hremainder⟩

lemma toNat_widened (x : SuInt) : (x.setWidth 64).toNat = x.toNat := by
  have hx := x.isLt
  rw [BitVec.toNat_setWidth]
  omega

/-- A dividend of a single word. -/
lemma prepare_short (hdivides : Divides udivsi3 umodsi3) (hd : d.all ≠ 0) (hn : n.high = 0) :
    ∃ p, prepare udivsi3 umodsi3 n d = some p ∧ p.Right n d := by
  have hshort : n.all.toNat = n.low.toNat := by
    rw [toNat_all, hn]
    exact Nat.zero_add _
  rw [prepare, if_pos hn]
  by_cases hhigh : d.high = 0
  · have hdivisor : d.all.toNat = d.low.toNat := by
      rw [toNat_all, hhigh]
      exact Nat.zero_add _
    have hlow : d.low ≠ 0 := by
      intro hzero
      apply hd
      apply BitVec.eq_of_toNat_eq
      rw [hdivisor, hzero]
      rfl
    refine ⟨_, if_pos hhigh, done_right ?_ ?_⟩
    · rw [toNat_widened, hdivides.quotient _ _ hlow, BitVec.toNat_udiv, hshort, hdivisor]
    · rw [toNat_widened, hdivides.remainder _ _ hlow, BitVec.toNat_umod, hshort, hdivisor]
  · have hless : n.all.toNat < d.all.toNat := by
      apply all_lt_of_high_lt
      rw [hn]
      exact Nat.pos_of_ne_zero fun hzero => hhigh (zero_of_toNat hzero)
    refine ⟨_, if_neg hhigh, done_right ?_ ?_⟩
    · rw [Nat.div_eq_of_lt hless]
      rfl
    · rw [toNat_widened, Nat.mod_eq_of_lt hless, hshort]

section Shifts

variable {sr : SuInt}

/-- The loop starts with the word moved by less than a half. -/
lemma rounds_less (hpos : 0 < sr.toNat) (hsr : sr.toNat < 32) (hsmall : n.all.toNat / 2 ^ sr.toNat < d.all.toNat)
    (hsign : d.all.toNat ≤ 2 ^ 63 ∨ sr.toNat ≤ 1 ∧ 2 ^ 63 ≤ n.all.toNat) :
    ∃ p, (do
      return Prepared.rounds sr ⟨0, ← shl n.low (32 - sr)⟩
        ⟨(← shl n.high (32 - sr)) ||| (← shr n.low sr), ← shr n.high sr⟩) = some p ∧ p.Right n d := by
  have hleft : (32 - sr).toNat < 32 := by
    rw [toNat_thirtyTwo_sub hsr.le]
    omega
  refine ⟨.rounds sr ⟨0, n.low <<< (32 - sr)⟩ ⟨(n.high <<< (32 - sr)) ||| (n.low >>> sr), n.high >>> sr⟩, ?_, ?_⟩
  · rw [shl_eq hleft, shl_eq hleft, shr_eq hsr, shr_eq hsr]
    rfl
  · exact ⟨by omega, toNat_left hsr.le, toNat_right hsr.le, hsmall, hsign⟩

/-- The same with the word moved by a half. -/
lemma rounds_half (hsr : sr.toNat = 32) (hsmall : n.all.toNat / 2 ^ sr.toNat < d.all.toNat)
    (hsign : d.all.toNat ≤ 2 ^ 63 ∨ sr.toNat ≤ 1 ∧ 2 ^ 63 ≤ n.all.toNat) :
    (Prepared.rounds sr ⟨0, n.low⟩ ⟨n.high, 0⟩).Right n d := by
  have hlow := n.low.isLt
  refine ⟨by omega, ?_, ?_, hsmall, hsign⟩
  · rw [hsr, toNat_all, toNat_all]
    change n.low.toNat * 2 ^ 32 + 0 = _
    omega
  · rw [hsr, toNat_all, toNat_all]
    change 0 * 2 ^ 32 + n.high.toNat = _
    omega

/-- The same with the word moved by more than a half. -/
lemma rounds_more (hlower : 32 < sr.toNat) (hupper : sr.toNat < 64) (hsmall : n.all.toNat / 2 ^ sr.toNat < d.all.toNat)
    (hsign : d.all.toNat ≤ 2 ^ 63 ∨ sr.toNat ≤ 1 ∧ 2 ^ 63 ≤ n.all.toNat) :
    ∃ p, (do
      return Prepared.rounds sr ⟨← shl n.low (64 - sr), (← shl n.high (64 - sr)) ||| (← shr n.low (sr - 32))⟩
        ⟨← shr n.high (sr - 32), 0⟩) = some p ∧ p.Right n d := by
  have hless : (sr - 32).toNat = sr.toNat - 32 := BitVec.toNat_sub_of_le (BitVec.le_def.mpr hlower.le)
  have hbelow : (sr - 32).toNat < 32 := by omega
  have hsame : 64 - sr = 32 - (sr - 32) := by ring
  have hleft : (32 - (sr - 32)).toNat < 32 := by
    rw [toNat_thirtyTwo_sub (by omega)]
    omega
  have hplace : 32 + (sr - 32).toNat = sr.toNat := by omega
  have hrest : 32 - (sr - 32).toNat = 64 - sr.toNat := by omega
  refine ⟨.rounds sr ⟨n.low <<< (64 - sr), (n.high <<< (64 - sr)) ||| (n.low >>> (sr - 32))⟩
    ⟨n.high >>> (sr - 32), 0⟩, ?_, ?_⟩
  · rw [hsame, shl_eq hleft, shl_eq hleft, shr_eq hbelow, shr_eq hbelow]
    rfl
  · refine ⟨hupper.le, ?_, ?_, hsmall, hsign⟩
    · rw [hsame, toNat_left_less hbelow.le, hplace, hrest]
    · have hlow := n.low.isLt
      have hdiv : (n.high.toNat * 2 ^ 32 + n.low.toNat) / 2 ^ 32 = n.high.toNat := by omega
      rw [← hplace, pow_add, ← Nat.div_div_eq_div_mul, toNat_all, toNat_all, hdiv]
      change 0 * 2 ^ 32 + (n.high >>> (sr - 32)).toNat = _
      rw [toNat_shiftRight, Nat.zero_mul, Nat.zero_add]

end Shifts

/-- A dividend that is less than the divisor has to be told by its high half. -/
lemma all_lt_of_clz_lt (hn : n.high ≠ 0) (hd : d.high ≠ 0) (hlt : d.high.clz.toNat < n.high.clz.toNat) :
    n.all.toNat < d.all.toNat := by
  obtain ⟨hcn, -, hupper⟩ := clz_bounds hn
  obtain ⟨-, hlower, -⟩ := clz_bounds hd
  apply all_lt_of_high_lt
  calc n.high.toNat < 2 ^ (32 - n.high.clz.toNat) := hupper
    _ ≤ 2 ^ (31 - d.high.clz.toNat) := Nat.pow_le_pow_right (by decide) (by omega)
    _ ≤ d.high.toNat := hlower

lemma done_of_lt (h : n.all.toNat < d.all.toNat) : (Prepared.done 0 n.all).Right n d := by
  apply done_right
  · rw [Nat.div_eq_of_lt h]
    rfl
  · exact (Nat.mod_eq_of_lt h).symm

/-- A divisor whose low half is zero. -/
lemma prepare_round (hdivides : Divides udivsi3 umodsi3) (hn : n.high ≠ 0) (hlow : d.low = 0) (hhigh : d.high ≠ 0) :
    ∃ p, prepare udivsi3 umodsi3 n d = some p ∧ p.Right n d := by
  have hdivisor : d.all.toNat = d.high.toNat * 2 ^ 32 := by
    rw [toNat_all, hlow]
    exact Nat.add_zero _
  have hdivided : n.all.toNat / d.all.toNat = n.high.toNat / d.high.toNat := by
    have hbound := n.low.isLt
    rw [hdivisor, Nat.mul_comm, ← Nat.div_div_eq_div_mul, toNat_all]
    congr 1
    omega
  have hrest : n.all.toNat % d.all.toNat = n.high.toNat % d.high.toNat * 2 ^ 32 + n.low.toNat := by
    have hbound := n.low.isLt
    rw [hdivisor, Nat.mul_comm, Nat.mod_mul, toNat_all]
    have hdiv : (n.high.toNat * 2 ^ 32 + n.low.toNat) / 2 ^ 32 = n.high.toNat := by omega
    rw [hdiv]
    omega
  rw [prepare, if_neg hn, if_pos hlow]
  simp only [if_neg hhigh]
  by_cases hzero : n.low = 0
  · refine ⟨_, if_pos hzero, done_right ?_ ?_⟩
    · rw [toNat_widened, hdivides.quotient _ _ hhigh, BitVec.toNat_udiv, hdivided]
    · rw [toNat_all, hrest, hdivides.remainder _ _ hhigh, BitVec.toNat_umod, hzero]
  simp only [if_neg hzero]
  by_cases hpower : d.high &&& (d.high - 1) = 0
  · obtain ⟨hctz, hvalue, hmask⟩ := toNat_eq_of_and_sub_one hhigh hpower
    refine ⟨.done ((n.high >>> d.high.ctz).setWidth 64) (Udwords.mk n.low (n.high &&& (d.high - 1))).all, ?_,
      done_right ?_ ?_⟩
    · rw [if_pos hpower, ctz_eq hhigh, Option.bind_eq_bind, Option.bind_some, shr_eq hctz]
      rfl
    · rw [toNat_widened, toNat_shiftRight, hdivided, hvalue]
    · rw [toNat_all, hrest, hvalue]
      change (n.high &&& (d.high - 1)).toNat * _ + _ = _
      rw [hmask]
  simp only [if_neg hpower, clz_eq hn, clz_eq hhigh, Option.bind_eq_bind, Option.bind_some]
  by_cases hlarge : 30 < d.high.clz - n.high.clz
  · refine ⟨_, if_pos hlarge, done_of_lt (all_lt_of_clz_lt hn hhigh ?_)⟩
    obtain ⟨hcn, -, -⟩ := clz_bounds hn
    obtain ⟨hcd, hlower, hupper⟩ := clz_bounds hhigh
    rw [BitVec.lt_def, BitVec.toNat_sub] at hlarge
    change 30 < _ at hlarge
    -- a difference of 31 would be the divisor whose high half is one
    by_contra hle
    have hlast : d.high.clz.toNat = 31 := by omega
    rw [hlast] at hlower hupper
    apply hpower
    have hone : d.high = 1 := by
      apply BitVec.eq_of_toNat_eq
      change _ = 1
      omega
    rw [hone]
    rfl
  · have hle : ¬ 31 < d.high.clz - n.high.clz := by
      rw [BitVec.lt_def] at hlarge ⊢
      change ¬ 30 < _ at hlarge
      change ¬ 31 < _
      omega
    obtain ⟨hsr, hclz, hsmall, hsign⟩ := ready_high hn hhigh hle
    rw [BitVec.lt_def, BitVec.toNat_sub] at hlarge
    change ¬ 30 < _ at hlarge
    obtain ⟨hcd, -, -⟩ := clz_bounds hhigh
    rw [if_neg (by rw [BitVec.lt_def, BitVec.toNat_sub]; exact hlarge)]
    exact rounds_less (by omega) (by omega) hsmall hsign

/-- A divisor of a single word. -/
lemma prepare_narrow (hn : n.high ≠ 0) (hlow : d.low ≠ 0) (hhigh : d.high = 0) :
    ∃ p, prepare udivsi3 umodsi3 n d = some p ∧ p.Right n d := by
  have hdivisor : d.all.toNat = d.low.toNat := by
    rw [toNat_all, hhigh]
    exact Nat.zero_add _
  have hbound := n.low.isLt
  rw [prepare, if_neg hn, if_neg hlow, if_pos hhigh]
  by_cases hpower : d.low &&& (d.low - 1) = 0
  · obtain ⟨hctz, hvalue, hmask⟩ := toNat_eq_of_and_sub_one hlow hpower
    have hremainder : ((n.low &&& (d.low - 1)).setWidth 64).toNat = n.all.toNat % d.all.toNat := by
      have hplaces : 2 ^ d.low.ctz.toNat * 2 ^ (32 - d.low.ctz.toNat) = 2 ^ 32 := places hctz.le
      rw [toNat_widened, hmask, hdivisor, hvalue, toNat_all, ← hplaces, Nat.mul_comm, Nat.mul_assoc, Nat.mul_add_mod]
    simp only [if_pos hpower]
    by_cases hone : d.low = 1
    · refine ⟨_, if_pos hone, done_right ?_ hremainder⟩
      rw [hdivisor, hone]
      exact (Nat.div_one _).symm
    · have hpos : 0 < d.low.ctz.toNat := by
        apply Nat.pos_of_ne_zero
        intro hzero
        apply hone
        apply BitVec.eq_of_toNat_eq
        rw [hvalue, hzero]
        rfl
      have hleft : (32 - d.low.ctz).toNat < 32 := by
        rw [toNat_thirtyTwo_sub hctz.le]
        omega
      refine ⟨.done (Udwords.mk ((n.high <<< (32 - d.low.ctz)) ||| (n.low >>> d.low.ctz)) (n.high >>> d.low.ctz)).all _, ?_,
        done_right ?_ hremainder⟩
      · rw [if_neg hone, ctz_eq hlow, Option.bind_eq_bind, Option.bind_some, shl_eq hleft, shr_eq hctz, shr_eq hctz]
        rfl
      · rw [toNat_right hctz.le, hdivisor, hvalue]
  simp only [if_neg hpower, clz_eq hn, clz_eq hlow, Option.bind_eq_bind, Option.bind_some]
  obtain ⟨hcn, hnlower, hnupper⟩ := clz_bounds hn
  obtain ⟨hcd, hdlower, hdupper⟩ := clz_bounds hlow
  have hmore : d.low.clz.toNat ≠ 31 := by
    intro hlast
    rw [hlast] at hdlower hdupper
    apply hpower
    have hone : d.low = 1 := by
      apply BitVec.eq_of_toNat_eq
      change _ = 1
      omega
    rw [hone]
    rfl
  have hsr : (1 + 32 + (d.low.clz - n.high.clz)).toNat = 33 + d.low.clz.toNat - n.high.clz.toNat := by
    rw [BitVec.toNat_add, BitVec.toNat_sub]
    change (33 + _) % _ = _
    omega
  have hsmall : n.all.toNat / 2 ^ (1 + 32 + (d.low.clz - n.high.clz)).toNat < d.all.toNat := by
    rw [hsr, hdivisor]
    apply small_of_width _ hdlower
    have hexp : 31 - d.low.clz.toNat + (33 + d.low.clz.toNat - n.high.clz.toNat) = (32 - n.high.clz.toNat) + 32 := by omega
    rw [hexp, pow_add, toNat_all]
    omega
  have hsign : d.all.toNat ≤ 2 ^ 63 := by
    have hlimit := d.low.isLt
    rw [hdivisor]
    omega
  generalize 1 + 32 + (d.low.clz - n.high.clz) = sr at hsr hsmall ⊢
  by_cases hhalf : sr = 32
  · refine ⟨_, if_pos hhalf, rounds_half ?_ hsmall (.inl hsign)⟩
    rw [hhalf]
    rfl
  rw [if_neg hhalf]
  by_cases hless : sr < 32
  · rw [if_pos hless]
    exact rounds_less (by omega) hless hsmall (.inl hsign)
  · have hne : sr.toNat ≠ 32 := fun hsame => hhalf (BitVec.eq_of_toNat_eq hsame)
    have hge : 32 ≤ sr.toNat := Nat.le_of_not_lt hless
    rw [if_neg hless]
    exact rounds_more (by omega) (by omega) hsmall (.inl hsign)

/-- Both of two words. -/
lemma prepare_wide (hn : n.high ≠ 0) (hlow : d.low ≠ 0) (hhigh : d.high ≠ 0) :
    ∃ p, prepare udivsi3 umodsi3 n d = some p ∧ p.Right n d := by
  rw [prepare, if_neg hn, if_neg hlow, if_neg hhigh, clz_eq hn, clz_eq hhigh]
  simp only [Option.bind_eq_bind, Option.bind_some]
  by_cases hlarge : 31 < d.high.clz - n.high.clz
  · refine ⟨_, if_pos hlarge, done_of_lt (all_lt_of_clz_lt hn hhigh ?_)⟩
    obtain ⟨hcn, -, -⟩ := clz_bounds hn
    obtain ⟨hcd, -, -⟩ := clz_bounds hhigh
    rw [BitVec.lt_def, BitVec.toNat_sub] at hlarge
    change 31 < _ at hlarge
    omega
  obtain ⟨hsr, hclz, hsmall, hsign⟩ := ready_high hn hhigh hlarge
  obtain ⟨hcd, -, -⟩ := clz_bounds hhigh
  rw [if_neg hlarge]
  generalize d.high.clz - n.high.clz + 1 = sr at hsr hsmall hsign ⊢
  by_cases hhalf : sr = 32
  · refine ⟨_, if_pos hhalf, rounds_half ?_ hsmall hsign⟩
    rw [hhalf]
    rfl
  · have hne : sr.toNat ≠ 32 := fun hsame => hhalf (BitVec.eq_of_toNat_eq hsame)
    rw [if_neg hhalf]
    exact rounds_less (by omega) (by omega) hsmall hsign

lemma prepare_right (hdivides : Divides udivsi3 umodsi3) (hd : d.all ≠ 0) :
    ∃ p, prepare udivsi3 umodsi3 n d = some p ∧ p.Right n d := by
  by_cases hn : n.high = 0
  · exact prepare_short hdivides hd hn
  by_cases hlow : d.low = 0
  · have hhigh : d.high ≠ 0 := by
      intro hzero
      apply hd
      apply BitVec.eq_of_toNat_eq
      rw [toNat_all, hlow, hzero]
      rfl
    exact prepare_round hdivides hn hlow hhigh
  by_cases hhigh : d.high = 0
  · exact prepare_narrow hn hlow hhigh
  · exact prepare_wide hn hlow hhigh

end Results

/-- Every double word is divided by every other one but zero, without a step that C leaves undefined. -/
theorem udivmoddi4_eq {udivsi3 umodsi3 : SuInt → SuInt → SuInt} (hdivides : Divides udivsi3 umodsi3) (a b : DuInt)
    (hb : b ≠ 0) : udivmoddi4 udivsi3 umodsi3 a b = some (a / b, a % b) := by
  have hd : (Udwords.ofAll b).all ≠ 0 := by
    rw [all_ofAll]
    exact hb
  have hpos : 0 < (Udwords.ofAll b).all.toNat := Nat.pos_of_ne_zero fun hzero => hd (BitVec.eq_of_toNat_eq hzero)
  obtain ⟨p, hp, hright⟩ := prepare_right (n := .ofAll a) hdivides hd
  rw [udivmoddi4, hp, Option.bind_eq_bind, Option.bind_some]
  cases p with
  | done quotient remainder =>
    obtain ⟨hquotient, hremainder⟩ := hright
    rw [all_ofAll, all_ofAll] at hquotient hremainder
    rw [← hquotient, ← hremainder]
    rfl
  | rounds sr q r =>
    have hready : Ready _ _ sr.toNat q.all r.all := hright
    have hstart := Holds.start (w := 64) hready.small
    rw [← hready.r, ← hready.q] at hstart
    have hrounds := rounds_holds (l := ⟨q, r, 0⟩) hstart hready.rounds (BitVec.isLt _) hpos hready.sign
    simp only
    generalize (Division.round (Udwords.ofAll b))^[sr.toNat] ⟨q, r, 0⟩ = l at hrounds ⊢
    have hcarry : (l.carry.setWidth 64).toNat = l.carry.toNat := toNat_widened _
    have hbit : l.carry.toNat ≤ 1 := by
      rw [hrounds.carry]
      omega
    obtain ⟨hremainder, hquotient⟩ := hrounds.finish
    rw [all_ofAll, all_ofAll] at hremainder hquotient
    have hfits : a.toNat / b.toNat < 2 ^ 64 := (Nat.div_le_self _ _).trans_lt a.isLt
    have hall : l.q.all <<< 1 ||| l.carry.setWidth 64 = a / b := by
      apply BitVec.eq_of_toNat_eq
      rw [toNat_shiftIn _ _ (by omega), hcarry, hquotient, BitVec.toNat_udiv, Nat.mod_eq_of_lt hfits]
    rw [hall, BitVec.eq_of_toNat_eq (hremainder.trans (BitVec.toNat_umod ..).symm)]
    rfl

/-- A divisor with its top bit set, which meets the dividend in a single round. -/
theorem udivmoddi4_eq_sample :
    udivmoddi4 (· / ·) (· % ·) 0xFFFFFFFFFFFFFFFF 0x8000000000000001 = some (1, 0x7FFFFFFFFFFFFFFE) :=
  udivmoddi4_eq ⟨fun _ _ _ => rfl, fun _ _ _ => rfl⟩ 0xFFFFFFFFFFFFFFFF 0x8000000000000001 (by decide)

section Multiplication

variable (mulsi3 : SuInt → SuInt → SuInt)

def muldsi3 (a b : SuInt) : Udwords :=
  let a_lo := a &&& 0xFFFF
  let a_hi := a >>> 16
  let b_lo := b &&& 0xFFFF
  let b_hi := b >>> 16
  let p0 := mulsi3 a_lo b_lo
  let p1 := mulsi3 a_lo b_hi
  let p2 := mulsi3 a_hi b_lo
  let p3 := mulsi3 a_hi b_hi
  let mid := p1 + p2
  let mid_carry : SuInt := if mid < p1 then 1 else 0
  let result_lo := p0 + mid <<< 16
  let lo_carry : SuInt := if result_lo < p0 then 1 else 0
  let result_hi := p3 + mid >>> 16 + mid_carry <<< 16 + lo_carry
  ⟨result_lo, result_hi⟩

/-- The high halves are signed, and their sum wraps around as on the target. -/
def muldi3 (a b : DuInt) : DuInt :=
  let x := Udwords.ofAll a
  let y := Udwords.ofAll b
  let r := muldsi3 mulsi3 x.low y.low
  (Udwords.mk r.low (r.high + (mulsi3 x.high y.low + mulsi3 x.low y.high))).all

variable {mulsi3}

/-- Carries taken from the comparison of a sum with one of what was added. -/
lemma toNat_carry (a b : SuInt) : (if a + b < a then (1 : SuInt) else 0).toNat * 2 ^ 32 + (a + b).toNat =
    a.toNat + b.toNat := by
  have ha := a.isLt
  have hb := b.isLt
  simp only [BitVec.lt_def, BitVec.toNat_add]
  split
  · change 1 * 2 ^ 32 + _ = _
    omega
  · change 0 * 2 ^ 32 + _ = _
    omega

lemma sum_of_carries (p3 : ℕ) {p0 p1 p2 mid lo c1 c0 : ℕ} (hmid : c1 * 2 ^ 32 + mid = p1 + p2)
    (hlo : c0 * 2 ^ 32 + lo = p0 + mid * 2 ^ 16 % 2 ^ 32) :
    (p3 + mid / 2 ^ 16 + c1 * 2 ^ 16 + c0) * 2 ^ 32 + lo = p0 + (p1 + p2) * 2 ^ 16 + p3 * 2 ^ 32 := by
  have hshift : mid * 2 ^ 16 % 2 ^ 32 = mid % 2 ^ 16 * 2 ^ 16 := Nat.mul_mod_mul_right (2 ^ 16) mid (2 ^ 16)
  have hsplit := Nat.div_add_mod mid (2 ^ 16)
  rw [hshift] at hlo
  rw [← hmid]
  calc (p3 + mid / 2 ^ 16 + c1 * 2 ^ 16 + c0) * 2 ^ 32 + lo
      = (p3 + mid / 2 ^ 16 + c1 * 2 ^ 16) * 2 ^ 32 + (c0 * 2 ^ 32 + lo) := by ring
    _ = p0 + (c1 * 2 ^ 32 + (2 ^ 16 * (mid / 2 ^ 16) + mid % 2 ^ 16)) * 2 ^ 16 + p3 * 2 ^ 32 := by rw [hlo]; ring
    _ = _ := by rw [hsplit]

lemma toNat_muldsi3 (hmul : ∀ a b, mulsi3 a b = a * b) (a b : SuInt) :
    (muldsi3 mulsi3 a b).all.toNat = a.toNat * b.toNat := by
  have hlow : ∀ x : SuInt, (x &&& 0xFFFF).toNat = x.toNat % 2 ^ 16 := fun x => by
    rw [BitVec.toNat_and]
    exact Nat.and_two_pow_sub_one_eq_mod x.toNat 16
  have hhigh : ∀ x : SuInt, (x >>> 16).toNat = x.toNat / 2 ^ 16 := fun x => by
    rw [BitVec.toNat_ushiftRight, Nat.shiftRight_eq_div_pow]
  have hshort : ∀ x y : SuInt, x.toNat < 2 ^ 16 → y.toNat < 2 ^ 16 → (mulsi3 x y).toNat = x.toNat * y.toNat := by
    intro x y hx hy
    have hproduct : x.toNat * y.toNat < 2 ^ 16 * 2 ^ 16 := Nat.mul_lt_mul'' hx hy
    rw [hmul, BitVec.toNat_mul, Nat.mod_eq_of_lt (by omega)]
  have ha := a.isLt
  have hb := b.isLt
  have halow : (a &&& 0xFFFF).toNat < 2 ^ 16 := by rw [hlow]; omega
  have hblow : (b &&& 0xFFFF).toNat < 2 ^ 16 := by rw [hlow]; omega
  have hahigh : (a >>> 16).toNat < 2 ^ 16 := by rw [hhigh]; omega
  have hbhigh : (b >>> 16).toNat < 2 ^ 16 := by rw [hhigh]; omega
  have h0 := hshort _ _ halow hblow
  have h1 := hshort _ _ halow hbhigh
  have h2 := hshort _ _ hahigh hblow
  have h3 := hshort _ _ hahigh hbhigh
  have hproduct : a.toNat * b.toNat = (mulsi3 (a &&& 0xFFFF) (b &&& 0xFFFF)).toNat +
      ((mulsi3 (a &&& 0xFFFF) (b >>> 16)).toNat + (mulsi3 (a >>> 16) (b &&& 0xFFFF)).toNat) * 2 ^ 16 +
      (mulsi3 (a >>> 16) (b >>> 16)).toNat * 2 ^ 32 := by
    rw [h0, h1, h2, h3, hlow, hlow, hhigh, hhigh]
    conv_lhs => rw [← Nat.div_add_mod a.toNat (2 ^ 16), ← Nat.div_add_mod b.toNat (2 ^ 16)]
    ring
  have hbound : a.toNat * b.toNat < 2 ^ 32 * 2 ^ 32 := Nat.mul_lt_mul'' ha hb
  rw [toNat_all]
  simp only [muldsi3]
  generalize mulsi3 (a &&& 0xFFFF) (b &&& 0xFFFF) = p0 at *
  generalize mulsi3 (a &&& 0xFFFF) (b >>> 16) = p1 at *
  generalize mulsi3 (a >>> 16) (b &&& 0xFFFF) = p2 at *
  generalize mulsi3 (a >>> 16) (b >>> 16) = p3 at *
  have hmid := toNat_carry p1 p2
  have hlo := toNat_carry p0 ((p1 + p2) <<< 16)
  generalize (if p1 + p2 < p1 then (1 : SuInt) else 0) = mid_carry at *
  generalize (if p0 + (p1 + p2) <<< 16 < p0 then (1 : SuInt) else 0) = lo_carry at *
  have hmidHigh := hhigh (p1 + p2)
  have hshift : ∀ x : SuInt, (x <<< 16).toNat = x.toNat * 2 ^ 16 % 2 ^ 32 := fun x => by
    rw [BitVec.toNat_shiftLeft, Nat.shiftLeft_eq]
  rw [hshift] at hlo
  have htotal := sum_of_carries p3.toNat hmid hlo
  rw [← hproduct] at htotal
  rw [BitVec.toNat_add, BitVec.toNat_add, BitVec.toNat_add, hhigh, hshift, ← htotal]
  have hfits : p3.toNat + (p1 + p2).toNat / 2 ^ 16 + mid_carry.toNat * 2 ^ 16 + lo_carry.toNat < 2 ^ 32 := by omega
  rw [Nat.mod_eq_of_lt (a := mid_carry.toNat * 2 ^ 16) (by omega), Nat.mod_eq_of_lt (a := p3.toNat + _) (by omega),
    Nat.mod_eq_of_lt (a := p3.toNat + _ + _) (by omega), Nat.mod_eq_of_lt hfits]

/-- Every product is found modulo `2 ^ 64` with the products of single words. -/
theorem muldi3_eq_product (hmul : ∀ a b, mulsi3 a b = a * b) (a b : DuInt) : muldi3 mulsi3 a b = a * b := by
  apply BitVec.eq_of_toNat_eq
  have hproduct := toNat_muldsi3 hmul (Udwords.ofAll a).low (Udwords.ofAll b).low
  have ha := toNat_all (Udwords.ofAll a)
  have hb := toNat_all (Udwords.ofAll b)
  rw [all_ofAll] at ha hb
  rw [toNat_all] at hproduct
  rw [muldi3]
  simp only [hmul]
  rw [toNat_all, BitVec.toNat_mul, ha, hb]
  generalize muldsi3 mulsi3 (Udwords.ofAll a).low (Udwords.ofAll b).low = r at *
  generalize Udwords.ofAll a = x at *
  generalize Udwords.ofAll b = y at *
  have hhalves : (x.high.toNat * 2 ^ 32 + x.low.toNat) * (y.high.toNat * 2 ^ 32 + y.low.toNat) =
      (r.high.toNat + (x.high.toNat * y.low.toNat + x.low.toNat * y.high.toNat)) * 2 ^ 32 + r.low.toNat +
        x.high.toNat * y.high.toNat * 2 ^ 64 := by
    calc _ = (x.high.toNat * y.low.toNat + x.low.toNat * y.high.toNat) * 2 ^ 32 + x.low.toNat * y.low.toNat +
          x.high.toNat * y.high.toNat * 2 ^ 64 := by ring
      _ = _ := by rw [← hproduct]; ring
  have hr := r.low.isLt
  have hwrapped : ∀ high low : ℕ, low < 2 ^ 32 → (high * 2 ^ 32 + low) % 2 ^ 64 = high % 2 ^ 32 * 2 ^ 32 + low := by
    intro high low hlow
    omega
  rw [hhalves, Nat.add_mul_mod_self_right, hwrapped _ _ hr]
  simp only [BitVec.toNat_add, BitVec.toNat_mul, Nat.add_mod_mod, Nat.mod_add_mod]

theorem muldi3_eq_product_sample : muldi3 (· * ·) 0xFFFFFFFFFFFFFFFF 0xFFFFFFFFFFFFFFFF = 1 :=
  muldi3_eq_product (fun _ _ => rfl) 0xFFFFFFFFFFFFFFFF 0xFFFFFFFFFFFFFFFF

end Multiplication

end Little64.Boot.CompilerRt

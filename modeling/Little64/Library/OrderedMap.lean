import Mathlib

/-! Maps kept as lists of pairs in the order of their keys. -/

namespace OrderedMap

variable {K V : Type*} [LinearOrder K]

/-- Set the value of a key. -/
def insert (k : K) (v : V) : List (K × V) → List (K × V)
  | [] => [(k, v)]
  | (k', v') :: m => if k < k' then (k, v) :: (k', v') :: m else if k = k' then (k, v) :: m else (k', v') :: insert k v m

end OrderedMap

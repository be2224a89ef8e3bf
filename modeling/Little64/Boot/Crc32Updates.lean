import Little64.Library.ReflectedCrc
import Little64.Boot.KernelImage

/-! The checksum of the stage-0 loader, which goes on by nibbles, and that of the image builder. -/

namespace Little64.Boot

open BitFields CheckedAccess LittleEndian

def crc32NibbleTable : List (BitVec 32) :=
  [0x00000000, 0x1DB71064, 0x3B6E20C8, 0x26D930AC, 0x76DC4190, 0x6B6B51F4, 0x4DB26158, 0x5005713C, 0xEDB88320,
    0xF00F9344, 0xD6D6A3E8, 0xCB61B38C, 0x9B64C2B0, 0x86D3D2D4, 0xA00AE278, 0xBDBDF21C]

section Loader

def crc32Initialize : BitVec 32 := 0xFFFFFFFF

def crc32Finalize (crc : BitVec 32) : BitVec 32 := crc ^^^ 0xFFFFFFFF

def crc32UpdateNibble (crc : BitVec 32) : BitVec 32 := crc32NibbleTable.getD (crc &&& 0x0F).toNat 0 ^^^ crc >>> 4

def crc32UpdateBytes : BitVec 32 → Blob → BitVec 32
  | crc, [] => crc
  | crc, byte :: data => crc32UpdateBytes (crc32UpdateNibble (crc32UpdateNibble (crc ^^^ byte.setWidth 32))) data

def crc32UpdateZeros : BitVec 32 → ℕ → BitVec 32
  | crc, 0 => crc
  | crc, size + 1 => crc32UpdateZeros (crc32UpdateNibble (crc32UpdateNibble crc)) size

def crc32UpdatePhysical (memory : BitVec 64 → Byte) : BitVec 32 → BitVec 64 → ℕ → BitVec 32
  | crc, _, 0 => crc
  | crc, source, size + 1 => crc32UpdatePhysical memory
      (crc32UpdateNibble (crc32UpdateNibble (crc ^^^ (memory source).setWidth 32))) (source + 1) size

end Loader

section Builder

/-- The CRC of the standard library, going on from an earlier one. -/
def crc32From (data : Blob) (value : BitVec 32) : BitVec 32 := ~~~ data.foldl crc32Byte (~~~ value)

/-- The chunks of a run of zeros. -/
def crc32Zeros (crc : BitVec 32) (remaining : ℕ) : BitVec 32 :=
  if remaining = 0 then crc
  else
    let current := if remaining > 4096 then 4096 else remaining
    crc32Zeros (crc32From (List.replicate current 0) crc) (remaining - current)
termination_by remaining
decreasing_by split <;> omega

end Builder

variable {crc : BitVec 32}

lemma crc32Shift_eq : crc32Shift = ReflectedCrc.shift 0xEDB88320 := rfl

lemma crc32NibbleTable_getD (i : ℕ) (hi : i < 16) :
    crc32NibbleTable.getD i 0 = (ReflectedCrc.shift 0xEDB88320)^[4] (BitVec.ofNat 32 i) := by
  revert i
  decide

lemma crc32UpdateNibble_eq (crc : BitVec 32) : crc32UpdateNibble crc = crc32Shift^[4] crc := by
  have hmask : crc &&& 0x0F = crc &&& lowMask 32 4 := rfl
  have hlow : (crc &&& lowMask 32 4).toNat < 16 := by
    rw [toNat_and_lowMask]
    exact Nat.mod_lt _ (by decide)
  have htable := crc32NibbleTable_getD _ hlow
  rw [BitVec.ofNat_toNat, BitVec.setWidth_eq] at htable
  rw [crc32UpdateNibble, hmask, htable, crc32Shift_eq]
  exact (ReflectedCrc.iterate_shift_eq 4 crc).symm

lemma crc32UpdateNibble_twice (crc : BitVec 32) (b : Byte) :
    crc32UpdateNibble (crc32UpdateNibble (crc ^^^ b.setWidth 32)) = crc32Byte crc b := by
  rw [crc32UpdateNibble_eq, crc32UpdateNibble_eq]
  exact (Function.iterate_add_apply crc32Shift 4 4 _).symm

lemma crc32UpdateBytes_eq (crc : BitVec 32) (data : Blob) : crc32UpdateBytes crc data = data.foldl crc32Byte crc := by
  induction data generalizing crc with
  | nil => rfl
  | cons b data ih =>
    rw [crc32UpdateBytes, crc32UpdateNibble_twice, List.foldl_cons]
    exact ih _

lemma crc32UpdateZeros_eq (crc : BitVec 32) (size : ℕ) :
    crc32UpdateZeros crc size = crc32UpdateBytes crc (List.replicate size 0) := by
  induction size generalizing crc with
  | zero => rfl
  | succ size ih =>
    have hzero : crc ^^^ (0 : Byte).setWidth 32 = crc := BitVec.xor_zero
    rw [crc32UpdateZeros, List.replicate_succ, crc32UpdateBytes, hzero]
    exact ih _

/-- The bytes of a range of memory. -/
def physicalBytes (memory : BitVec 64 → Byte) (source : BitVec 64) (size : ℕ) : Blob :=
  (List.range size).map fun i => memory (source + BitVec.ofNat 64 i)

lemma physicalBytes_succ (memory : BitVec 64 → Byte) (source : BitVec 64) (size : ℕ) :
    physicalBytes memory source (size + 1) = memory source :: physicalBytes memory (source + 1) size := by
  rw [physicalBytes, List.range_succ_eq_map, List.map_cons, List.map_map]
  congr 1
  · exact congrArg memory (BitVec.add_zero source)
  · apply List.map_congr_left
    intro i _
    change memory (source + BitVec.ofNat 64 (i + 1)) = memory (source + 1 + BitVec.ofNat 64 i)
    rw [Nat.add_comm, BitVec.ofNat_add, ← BitVec.add_assoc]
    rfl

lemma crc32UpdatePhysical_eq (memory : BitVec 64 → Byte) (crc : BitVec 32) (source : BitVec 64) (size : ℕ) :
    crc32UpdatePhysical memory crc source size = crc32UpdateBytes crc (physicalBytes memory source size) := by
  induction size generalizing crc source with
  | zero => rfl
  | succ size ih =>
    rw [crc32UpdatePhysical, physicalBytes_succ, crc32UpdateBytes]
    exact ih _ _

lemma crc32UpdateBytes_append (crc : BitVec 32) (data data' : Blob) :
    crc32UpdateBytes crc (data ++ data') = crc32UpdateBytes (crc32UpdateBytes crc data) data' := by
  rw [crc32UpdateBytes_eq, crc32UpdateBytes_eq, crc32UpdateBytes_eq]
  exact List.foldl_append

lemma crc32From_append (data data' : Blob) (value : BitVec 32) :
    crc32From (data ++ data') value = crc32From data' (crc32From data value) := by
  rw [crc32From, crc32From, crc32From, BitVec.not_not, List.foldl_append]

lemma crc32Zeros_eq (crc : BitVec 32) (size : ℕ) : crc32Zeros crc size = crc32From (List.replicate size 0) crc := by
  induction size using Nat.strong_induction_on generalizing crc with
  | _ size ih =>
    rw [crc32Zeros]
    by_cases hsize : size = 0
    · rw [if_pos hsize, hsize]
      exact BitVec.not_not.symm
    · rw [if_neg hsize]
      obtain ⟨current, hcurrent⟩ : ∃ current, current = if size > 4096 then 4096 else size := ⟨_, rfl⟩
      have hstep : 0 < current ∧ current ≤ size := by
        rw [hcurrent]
        split <;> omega
      simp only [← hcurrent]
      rw [ih _ (by omega), ← crc32From_append, ← List.replicate_add, Nat.add_sub_of_le hstep.2]

section Chunks

/-- What the loader goes on with: bytes of a buffer, a run of zeros, or bytes of the memory. -/
inductive CrcChunk
  | bytes (data : Blob)
  | zeros (size : ℕ)
  | physical (memory : BitVec 64 → Byte) (source : BitVec 64) (size : ℕ)

def CrcChunk.content : CrcChunk → Blob
  | bytes data => data
  | zeros size => List.replicate size 0
  | physical memory source size => physicalBytes memory source size

def CrcChunk.update (crc : BitVec 32) : CrcChunk → BitVec 32
  | bytes data => crc32UpdateBytes crc data
  | zeros size => crc32UpdateZeros crc size
  | physical memory source size => crc32UpdatePhysical memory crc source size

lemma CrcChunk.update_eq (chunk : CrcChunk) : chunk.update crc = crc32UpdateBytes crc chunk.content := by
  cases chunk with
  | bytes data => rfl
  | zeros size => exact crc32UpdateZeros_eq crc size
  | physical memory source size => exact crc32UpdatePhysical_eq memory crc source size

lemma foldl_update (chunks : List CrcChunk) (crc : BitVec 32) :
    chunks.foldl CrcChunk.update crc = crc32UpdateBytes crc (chunks.flatMap CrcChunk.content) := by
  induction chunks generalizing crc with
  | nil => rfl
  | cons chunk chunks ih => rw [List.foldl_cons, List.flatMap_cons, crc32UpdateBytes_append, ih, chunk.update_eq]

/-- However the bytes are handed over, the loader's checksum is that of the builder. -/
theorem crc32_chunks (chunks : List CrcChunk) (crc value : BitVec 32) (data data' : Blob) (size : ℕ) :
    crc32Finalize (chunks.foldl CrcChunk.update crc32Initialize) = crc32 (chunks.flatMap CrcChunk.content) ∧
      crc32UpdateBytes crc (data ++ data') = crc32UpdateBytes (crc32UpdateBytes crc data) data' ∧
      crc32UpdateZeros crc size = crc32UpdateBytes crc (List.replicate size 0) ∧
      crc32From (data ++ data') value = crc32From data' (crc32From data value) ∧
      crc32Zeros value size = crc32From (List.replicate size 0) value := by
  refine ⟨?_, crc32UpdateBytes_append crc data data', crc32UpdateZeros_eq crc size, crc32From_append data data' value,
    crc32Zeros_eq value size⟩
  rw [foldl_update, crc32UpdateBytes_eq, crc32Finalize, crc32, crc32Initialize]
  exact BitVec.xor_allOnes

-- The check value of the polynomial.
example : crc32Finalize (crc32UpdateBytes crc32Initialize [0x31, 0x32, 0x33, 0x34, 0x35, 0x36, 0x37, 0x38, 0x39]) =
    0xCBF43926 := by decide

end Chunks

end Little64.Boot

import Little64.Emulator.Registers

/-! Instruction words and their fields. -/

namespace Little64.Emulator

inductive LsOpcode
  | load
  | store
  | push
  | pop
  | move
  | byteLoad
  | byteStore
  | shortLoad
  | shortStore
  | wordLoad
  | wordStore
  | jumpZ
  | jumpC
  | jumpS
  | jumpGT
  | jumpLT
  deriving DecidableEq, Repr

def LsOpcode.ofBits (bits : BitVec 4) : LsOpcode :=
  match bits with
  | 0 => load
  | 1 => store
  | 2 => push
  | 3 => pop
  | 4 => move
  | 5 => byteLoad
  | 6 => byteStore
  | 7 => shortLoad
  | 8 => shortStore
  | 9 => wordLoad
  | 10 => wordStore
  | 11 => jumpZ
  | 12 => jumpC
  | 13 => jumpS
  | 14 => jumpGT
  | _ => jumpLT

inductive GpOpcode
  | add
  | sub
  | test
  | llr
  | scr
  | and
  | or
  | xor
  | sll
  | srl
  | sra
  | slli
  | srli
  | srai
  | syscall
  | lsr
  | ssr
  | iret
  | stop
  deriving DecidableEq, Repr

def GpOpcode.ofBits (bits : BitVec 5) : Option GpOpcode :=
  match bits with
  | 0 => some add
  | 1 => some sub
  | 2 => some test
  | 3 => some llr
  | 4 => some scr
  | 16 => some and
  | 17 => some or
  | 18 => some xor
  | 20 => some sll
  | 21 => some srl
  | 22 => some sra
  | 23 => some slli
  | 24 => some srli
  | 25 => some srai
  | 27 => some syscall
  | 28 => some lsr
  | 29 => some ssr
  | 30 => some iret
  | 31 => some stop
  | _ => none

structure Instruction where
  format : BitVec 2
  rd : Reg
  opcodeLs : BitVec 4
  offset2 : BitVec 2
  rs1 : Reg
  pcRel : BitVec 16
  shift : BitVec 2
  imm8 : BitVec 8
  isUnconditionalJump : Bool
  opcodeGp : BitVec 5
  deriving DecidableEq, Repr

namespace Instruction

def decode (raw : BitVec 16) : Instruction :=
  let format := (raw >>> 14).setWidth 2
  let rd := raw.setWidth 4
  let opcodeLs := (raw >>> 10).setWidth 4
  let rs1 := (raw >>> 4).setWidth 4
  match format with
  | 0 => ⟨format, rd, opcodeLs, (raw >>> 8).setWidth 2, rs1, 0, 0, 0, false, 0⟩
  | 1 =>
    if 11 ≤ opcodeLs then
      let raw10 := raw &&& 0x3FF
      ⟨format, 15, opcodeLs, 0, 0, if raw10 &&& 0x200 ≠ 0 then raw10 ||| 0xFC00 else raw10, 0, 0, false, 0⟩
    else
      let raw6 : BitVec 8 := ((raw >>> 4) &&& 0x3F).setWidth 8
      ⟨format, rd, opcodeLs, 0, 0,
        if raw6 &&& 0x20 ≠ 0 then (raw6 ||| 0xC0).signExtend 16 else raw6.setWidth 16, 0, 0, false, 0⟩
  | 2 => ⟨format, rd, 0, 0, 0, 0, (raw >>> 12).setWidth 2, (raw >>> 4).setWidth 8, false, 0⟩
  | _ =>
    if (raw >>> 13) &&& 1 ≠ 0 then
      let raw13 := raw &&& 0x1FFF
      ⟨format, 15, 0, 0, 0, if raw13 &&& 0x1000 ≠ 0 then raw13 ||| 0xE000 else raw13, 0, 0, true, 0⟩
    else ⟨format, rd, 0, 0, rs1, 0, 0, 0, false, (raw >>> 8).setWidth 5⟩

end Instruction

end Little64.Emulator

import Mathlib

/-! Vector numbers of traps and interrupts. -/

namespace Little64

abbrev Word := BitVec 64

inductive AccessType
  | read
  | write
  | execute
  deriving DecidableEq, Repr

namespace Emulator.Vectors

def noTrap : Word := 0
def trapExecAlign : Word := 1
def trapPrivilegedInstruction : Word := 2
def trapSyscall : Word := 3
def trapSyscallFromSupervisor : Word := 4
def trapPageFaultNotPresent : Word := 5
def trapPageFaultPermission : Word := 6
def trapPageFaultReserved : Word := 7
def trapPageFaultCanonical : Word := 8
def trapInvalidInstruction : Word := 9

def firstExceptionVector : Word := trapExecAlign
def lastExceptionVector : Word := trapInvalidInstruction
def irqVectorBase : Word := 65
def maxVector : Word := 127
def interruptBankWidth : Word := 64

def isExceptionVector (vector : Word) : Bool :=
  decide (firstExceptionVector ≤ vector) && decide (vector ≤ lastExceptionVector)

def isIrqVector (vector : Word) : Bool := decide (irqVectorBase ≤ vector) && decide (vector ≤ maxVector)

def interruptBankForVector (vector : Word) : Word := vector / interruptBankWidth

def interruptBitForVector (vector : Word) : Word := 1 <<< (vector % interruptBankWidth).toNat

def validIrqMaskForBank (bank : Word) : Word := if bank = 1 then ~~~1 else 0

end Emulator.Vectors

end Little64

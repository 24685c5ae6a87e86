import Enquiry.Host.Program

/-!
# Reading and writing

What most programs do with their descriptors: writing all of some bytes, and reading all that is
there.
-/

namespace Enquiry.Host.Program

variable {ε σ : Type}

/-- Writes bytes until all are written. The first argument bounds the number of calls. -/
def writeFrom (descriptor : Nat) : Nat → Octets → Program ε σ (Option Errno)
  | 0, _ => return some .inputOutput
  | n + 1, data => do
      if data.isEmpty then return none
      match ← call (.write descriptor data) with
      | .error .interrupted => writeFrom descriptor n data
      | .error e => return some e
      | .ok size => writeFrom descriptor n (data.drop size)

/-- Writes bytes; the error when that fails. -/
def writeAll (descriptor : Nat) (data : Octets) : Program ε σ (Option Errno) :=
  writeFrom descriptor (data.length + 16) data

/-- How much is read at once. -/
def readSize : Nat := 65536

/-- How often a program may read. -/
def maxReads : Nat := 1000000

/-- Reads on until the end. -/
def readFrom (descriptor : Nat) : Nat → List Octets → Program ε σ (Except Errno Octets)
  | 0, _ => return .error .inputOutput
  | n + 1, found => do
      match ← call (.read descriptor readSize false) with
      | .error .interrupted => readFrom descriptor n found
      | .error e => return .error e
      | .ok [] => return .ok found.reverse.flatten
      | .ok data => readFrom descriptor n (data :: found)

/-- All that can be read from a descriptor. -/
def readAll (descriptor : Nat) : Program ε σ (Except Errno Octets) :=
  readFrom descriptor maxReads []

/-- The contents of a file. -/
def readPath (path : Octets) : Program ε σ (Except Errno Octets) := do
  match ← call (.opening path .reading 0) with
  | .error e => return .error e
  | .ok descriptor =>
      let data ← readAll descriptor
      let _ ← call (.close descriptor)
      return data

end Enquiry.Host.Program

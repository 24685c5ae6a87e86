import Enquiry.Tool.Script.Written

/-!
# Files of scripts

What is written to a stream is kept until enough has come together. Text is kept in front of the
bytes that it becomes, so that bytes that are written beside it overtake it.
-/

namespace Enquiry.Tool.Script

open Host Text

/-- How much a stream keeps. -/
def streamSize : Nat := 8192

/-- The numbers of the three streams that are always there. -/
def inputStream : Nat := 0

def outputStream : Nat := 1

def diagnosticStream : Nat := 2

/-- The bytes of a text. -/
def encoded (text : List Char) : Octets := octets (String.ofList text)

/-- The text of some bytes. -/
def decoded (data : Octets) : List Char := (Host.textOf data).toList

/-- A stream at a descriptor. -/
def Stream.at (name : List Char) (descriptor : Nat) (reads writes ofBytes byLine : Bool) : Stream :=
  { name, descriptor, inlet := .ofDescriptor descriptor, pending := [], pendingSize := 0,
    waiting := [], size := 0, reads, writes, ofBytes, byLine, closed := false }

namespace Running

def stream (n : Nat) : Running Stream := do
  match ← object n with
  | .stream s => return s
  | _ => raiseText "TypeError" "not a stream"

def setStream (n : Nat) (s : Stream) : Running Unit := setObject n (.stream s)

/-- A stream that is open. -/
def openStream (n : Nat) : Running Stream := do
  let s ← stream n
  if s.closed then raiseText "ValueError" "I/O operation on closed file."
  return s

/-! ### Writing -/

/-- Hands bytes on. -/
def handOn (s : Stream) (data : Octets) : Running Unit := do
  if data.isEmpty then return ()
  match ← Program.writeAll s.descriptor data with
  | none => return ()
  | some e => raiseErrno e none

/-- Hands on the bytes that are kept. -/
def flushBytes (n : Nat) : Running Unit := do
  let s ← stream n
  if s.waiting.isEmpty then return ()
  setStream n { s with waiting := [], size := 0 }
  handOn s s.waiting.reverse.flatten

/-- Writes bytes to a stream. -/
def writeBytes (n : Nat) (data : Octets) : Running Unit := do
  let s ← openStream n
  let size := data.length
  if s.size + size ≤ streamSize then
    setStream n { s with waiting := data :: s.waiting, size := s.size + size }
  else
    flushBytes n
    if streamSize < size then handOn s data
    else
      let s ← stream n
      setStream n { s with waiting := [data], size }

/-- Turns the text that is kept into bytes. -/
def flushText (n : Nat) : Running Unit := do
  let s ← stream n
  if s.pending.isEmpty then return ()
  setStream n { s with pending := [], pendingSize := 0 }
  writeBytes n s.pending.reverse.flatten

/-- Hands on all that is kept. -/
def flushStream (n : Nat) : Running Unit := do
  flushText n
  flushBytes n

/-- Writes text to a stream. -/
def writeText (n : Nat) (text : List Char) : Running Unit := do
  let s ← openStream n
  if !s.writes then raiseText "io.UnsupportedOperation" "not writable"
  let data := encoded text
  let size := data.length
  if streamSize < s.pendingSize + size then flushText n
  let s ← stream n
  let pendingSize := s.pendingSize + size
  setStream n { s with pending := data :: s.pending, pendingSize }
  if streamSize ≤ pendingSize then flushText n
  if s.byLine && text.contains '\n' then flushStream n

/-- Closes a stream. -/
def closeStream (n : Nat) : Running Unit := do
  let s ← stream n
  if s.closed then return ()
  flushStream n
  let s ← stream n
  setStream n { s with closed := true }
  if 2 < s.descriptor then
    let _ ← Program.call (.close s.descriptor)

/-! ### Reading -/

/-- A stream that cannot be read has ended. -/
def unreadable : Trouble := fun _ => return ()

/-- The text of bytes, in which all lines end in the same way. -/
def plainLines : List Char → List Char
  | '\r' :: '\n' :: rest => '\n' :: plainLines rest
  | '\r' :: rest => '\n' :: plainLines rest
  | c :: rest => c :: plainLines rest
  | [] => []

/-- The value of bytes that have been read. -/
def readValue (ofBytes : Bool) (data : Octets) : Value :=
  if ofBytes then .bytes data else .text (plainLines (decoded data))

/-- A stream that can be read. -/
def readable (n : Nat) : Running Stream := do
  let s ← openStream n
  if !s.reads then raiseText "io.UnsupportedOperation" "not readable"
  return s

/-- The next line of a stream; nothing at its end. -/
def readLine? (n : Nat) (ofBytes : Bool) : Running (Option Value) := do
  let s ← readable n
  let (line?, inlet) ← tool (s.inlet.line? '\n' unreadable)
  setStream n { s with inlet }
  return line?.map fun l => readValue ofBytes l.whole

/-- All that is left of a stream, or so much of it. -/
def readMore (n : Nat) (ofBytes : Bool) (limit : Option Nat) : Running Value := do
  let s ← readable n
  let enough (data : Octets) : Bool :=
    match limit with
    | some k => k ≤ data.length
    | none => false
  let i ← tool (s.inlet.filledUntil enough unreadable Program.maxReads)
  let data := match limit with
    | some k => i.rest.take k
    | none => i.rest
  setStream n { s with inlet := { i with rest := i.rest.drop data.length } }
  return readValue ofBytes data

/-- How a file is opened for a row of letters. -/
def openMode? (letters : List Char) : Option OpenMode :=
  let both := letters.contains '+'
  match letters.filter fun c => c != 'b' && c != 't' && c != '+' with
  | ['r'] => some (if both then { OpenMode.reading with writes := true } else .reading)
  | [] => some .reading
  | ['w'] => some { OpenMode.writing with reads := both }
  | ['a'] => some { OpenMode.appending with reads := both }
  | ['x'] => some { OpenMode.making with reads := both }
  | _ => none

/-- Opens a file. -/
def openFile (path letters : List Char) : Running Value := do
  match openMode? letters with
  | none => raise "ValueError" ("invalid mode: ".toList ++ inQuotes false letters)
  | some mode =>
      match ← Program.call (.opening (encoded path) mode 0o666) with
      | .error e => raiseErrno e (some path)
      | .ok descriptor =>
          match ← Program.call (.descriptorStatus descriptor) with
          | .ok status =>
              if status.kind = .directory then
                let _ ← Program.call (.close descriptor)
                raiseErrno .isDirectory (some path)
          | .error _ => pure ()
          make (.stream (.at path descriptor mode.reads mode.writes (letters.contains 'b') false))

end Running

end Enquiry.Tool.Script

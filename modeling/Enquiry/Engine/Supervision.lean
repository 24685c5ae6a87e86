import Enquiry.Engine.Process
import Enquiry.Record.Lines

/-!
# Supervision of a process

The records of a process are read while it writes. As soon as a line shows that there are more
than the cap, the process is not needed any more: how it would have ended does not count. A process
that is still going when its time is over has timed out, and nothing of it is kept; one that ends
badly has failed, and says why on its second output, which is waited for only a little longer than
for the process itself. In all other cases the records are the answer.
-/

namespace Enquiry

open Text

/-- The lines of a process that have been read, and the beginning of the next one, in reverse. -/
structure LineReader where
  collector : Collector
  begun : List UInt8

namespace LineReader

def start (cap : Nat) : LineReader := ⟨.start cap, []⟩

/-- Reads bytes until no more are wanted. -/
def feed (r : LineReader) : List UInt8 → Flow × LineReader
  | [] => (.more, r)
  | b :: bytes =>
      if b = lineFeed then
        match r.collector.push r.begun.reverse with
        | (.more, collector) => feed ⟨collector, []⟩ bytes
        | (.stop, collector) => (.stop, ⟨collector, []⟩)
      else feed { r with begun := b :: r.begun } bytes

/-- The result when nothing follows: what has been begun is a line, unless it is empty. -/
def finish (r : LineReader) : ResultSet :=
  if r.begun.isEmpty then r.collector.finish
  else (r.collector.push r.begun.reverse).2.finish

end LineReader

/-- What a process says about itself, as far as it is kept. -/
structure Diagnostics where
  /-- The latest first. -/
  chunks : List (List UInt8)
  size : Nat
  closed : Bool

namespace Diagnostics

/-- How much is kept. -/
def capacity : Nat := 65536

def empty : Diagnostics := ⟨[], 0, false⟩

def add (d : Diagnostics) (bytes : List UInt8) : Diagnostics :=
  if capacity ≤ d.size then d else { d with chunks := bytes :: d.chunks, size := d.size + bytes.length }

/-- The kept part as text. -/
def text (d : Diagnostics) : String :=
  String.ofList (trim (Utf8.decodeLossy (d.chunks.reverse.flatten.take capacity)))

/-- The failure of a process that did not end well and said this. -/
def failure (said : String) : Failure :=
  .executionFailed (if said.isEmpty then "Unknown error" else said)

end Diagnostics

namespace Process

variable {σ : Type}

/-- What is known of a process while its records are being read. -/
structure Progress where
  elapsed : Nat
  /-- The lines so far, or the records when the output has been closed. -/
  reading : LineReader ⊕ ResultSet
  ending : Option Ending
  diagnostics : Diagnostics
  /-- The time at which there were records and the process had ended. -/
  settled : Option Nat

namespace Progress

def start (cap : Nat) : Progress := ⟨0, .inl (.start cap), none, .empty, none⟩

/-- How long the second output may stay open when everything else is over, in nanoseconds. -/
def grace : Nat := 1000000000

/-- Takes note that there are records of a process that has ended. -/
def settle (p : Progress) : Progress :=
  match p.reading, p.ending, p.settled with
  | .inr _, some _, none => { p with settled := some p.elapsed }
  | _, _, _ => p

/-- The answer of a process that has ended. -/
def answer (result : ResultSet) (ending : Ending) (said : String) : Except Failure ResultSet :=
  if ending.isSuccess then .ok result else .error (Diagnostics.failure said)

/-- The answer, if there is one: the records are more than the cap, or the process has ended and
has said all. -/
def answer? (p : Progress) : Option (Except Failure ResultSet) :=
  match p.reading, p.ending with
  | .inl _, _ => none
  | .inr result, ending =>
      if result.truncated then some (.ok result)
      else ending.bind fun ending =>
        if p.diagnostics.closed then some (answer result ending p.diagnostics.text) else none

/-- The answer at the end of a wait, and after how much of it: the process has had time enough to
say more, or its time is over. -/
def answerWithin? (p : Progress) (limit : Nat) (d : Nat) :
    Option (Nat × Except Failure ResultSet) :=
  let late (t : Nat) := t - p.elapsed
  let settled? := match p.reading, p.ending, p.settled with
    | .inr result, some ending, some t =>
        if t + grace ≤ p.elapsed + d ∧ t + grace ≤ limit then
          some (late (t + grace), answer result ending "")
        else none
    | _, _, _ => none
  settled?.or
    (if limit ≤ p.elapsed + d then some (late limit, .error (.timeout ⟨limit⟩)) else none)

end Progress

/-- How long it takes until a process is stopped that is not needed any more, in nanoseconds. -/
def reaction : Nat := 100000

/-- Reads on in a process. -/
def follow (limit : Nat) : Progress → Process σ → Except Failure ResultSet × σ
  | p, .still left =>
      match p.answerWithin? limit (limit + Progress.grace) with
      | some (delay, answer) => (answer, left delay)
      | none => (.error (.timeout ⟨limit⟩), left 0)
  | p, .next left event rest =>
      let goOn (p : Progress) : Except Failure ResultSet × σ :=
        match p.settle.answer? with
        | some answer => (answer, (rest ()).giveUp 0)
        | none => follow limit p.settle (rest ())
      match event with
      | .wait d =>
          match p.answerWithin? limit d.nanoseconds with
          | some (delay, answer) => (answer, left delay)
          | none => follow limit { p with elapsed := p.elapsed + d.nanoseconds } (rest ())
      | .output bytes =>
          match p.reading with
          | .inl reader =>
              match reader.feed bytes with
              | (.stop, reader) => (.ok reader.collector.finish, (rest ()).giveUp reaction)
              | (.more, reader) => follow limit { p with reading := .inl reader } (rest ())
          | .inr _ => follow limit p (rest ())
      | .diagnostics bytes =>
          follow limit { p with diagnostics := p.diagnostics.add bytes } (rest ())
      | .outputClosed =>
          match p.reading with
          | .inl reader => goOn { p with reading := .inr reader.finish }
          | .inr _ => follow limit p (rest ())
      | .diagnosticsClosed => goOn { p with diagnostics := { p.diagnostics with closed := true } }
      | .ended ending => goOn { p with ending := some ending }

/-- The records of a process, or why there are none, and what is left afterwards. -/
def records (p : Process σ) (limit : Duration) (cap : Nat) : Except Failure ResultSet × σ :=
  if limit.nanoseconds = 0 then (.error (.timeout limit), p.giveUp 0)
  else p.follow limit.nanoseconds (.start cap)

/-- What is known of a process whose output is wanted as a whole. -/
structure Capture where
  elapsed : Nat
  /-- The latest first. -/
  chunks : List (List UInt8)
  closed : Bool
  ending : Option Ending
  diagnostics : Diagnostics

namespace Capture

def start : Capture := ⟨0, [], false, none, .empty⟩

/-- The output as text, or the failure, when all is over. -/
def answer? (c : Capture) : Option (Except Failure String) :=
  c.ending.bind fun ending =>
    if c.closed && c.diagnostics.closed then
      some <|
        if ending.isSuccess then
          .ok (String.ofList (trim (Utf8.decodeLossy c.chunks.reverse.flatten)))
        else .error (Diagnostics.failure c.diagnostics.text)
    else none

/-- What is known after an event that takes no time. -/
def note (c : Capture) : Event → Capture
  | .wait _ => c
  | .output bytes => { c with chunks := bytes :: c.chunks }
  | .diagnostics bytes => { c with diagnostics := c.diagnostics.add bytes }
  | .outputClosed => { c with closed := true }
  | .diagnosticsClosed => { c with diagnostics := { c.diagnostics with closed := true } }
  | .ended ending => { c with ending := some ending }

end Capture

/-- Waits for the output of a process. -/
def followCapture (limit : Nat) : Capture → Process σ → Except Failure String × σ
  | c, .still left => (.error (.timeout ⟨limit⟩), left (limit - c.elapsed))
  | c, .next left event rest =>
      match event with
      | .wait d =>
          if limit ≤ c.elapsed + d.nanoseconds then
            (.error (.timeout ⟨limit⟩), left (limit - c.elapsed))
          else followCapture limit { c with elapsed := c.elapsed + d.nanoseconds } (rest ())
      | event =>
          match (c.note event).answer? with
          | some answer => (answer, (rest ()).giveUp 0)
          | none => followCapture limit (c.note event) (rest ())

/-- All that a process writes as its output, as text, or why there is none, and what is left
afterwards. -/
def capture (p : Process σ) (limit : Duration) : Except Failure String × σ :=
  p.followCapture limit.nanoseconds .start

end Process

end Enquiry

import Enquiry.Proofs.Engine.Reading

/-!
# What supervision makes of a process

A process that closes its outputs at its end is said by what it writes to each of them, cut into
pieces, and by its ending: `Interleaves` holds of the events that bring these in some order.
While they happen, what is known of the process (`Progress.Knows`) agrees with what is still to
come, and when all is over the answer is that of the whole output (`follow_of_interleaves`). A
process that writes more than the cap is answered for as soon as it has written that, whatever it
does afterwards (`follow_of_feed_stop`).
-/

namespace Enquiry

open Text

/-! ### What is kept of the second output -/

/-- The text of a failure: the beginning of what the process has said about itself. -/
def failureText (said : List UInt8) : String :=
  let text := trim (Utf8.decodeLossy (said.take 65536))
  if text = [] then "Unknown error" else String.ofList text

namespace Diagnostics

variable {d : Diagnostics} {said : List UInt8}

/-- All that has been said is kept, or at least as much as is shown. -/
structure Keeps (d : Diagnostics) (said : List UInt8) : Prop where
  size : d.size = d.chunks.reverse.flatten.length
  kept : ∃ lost, said = d.chunks.reverse.flatten ++ lost ∧ (lost = [] ∨ capacity ≤ d.size)

theorem Keeps.empty : Keeps .empty [] := ⟨rfl, [], rfl, .inl rfl⟩

theorem Keeps.add (keeps : d.Keeps said) (bytes : List UInt8) :
    (d.add bytes).Keeps (said ++ bytes) := by
  obtain ⟨size, lost, rfl, enough⟩ := keeps
  unfold Diagnostics.add
  by_cases full : capacity ≤ d.size
  · rw [if_pos full]
    exact ⟨size, lost ++ bytes, List.append_assoc _ lost bytes, .inr full⟩
  · rw [if_neg full]
    obtain rfl : lost = [] := enough.resolve_right full
    refine ⟨?_, [], ?_, .inl rfl⟩
    · simp [size]
    · simp

/-- What is shown is the beginning of what has been said. -/
theorem Keeps.take_eq (keeps : d.Keeps said) :
    d.chunks.reverse.flatten.take capacity = said.take capacity := by
  obtain ⟨size, lost, rfl, rfl | full⟩ := keeps
  · rw [List.append_nil]
  · rw [List.take_append_of_le_length (by omega)]

theorem Keeps.failure_eq (keeps : d.Keeps said) :
    failure d.text = .executionFailed (failureText said) := by
  unfold failure text failureText
  rw [keeps.take_eq]
  simp only [capacity, String.isEmpty_iff, String.ofList_eq_empty_iff]

end Diagnostics

/-! ### The events of a process -/

namespace Process

variable {σ : Type}

/-- All that happens. -/
def events : Process σ → List Event
  | .still _ => []
  | .next _ event rest => event :: (rest ()).events

theorem events_ofEvents (s : σ) (events : List Event) : (ofEvents s events).events = events := by
  induction events with
  | nil => rfl
  | cons event rest ih => rw [ofEvents, Process.events, ih]

theorem exists_eq_next {p : Process σ} {event : Event} {rest : List Event}
    (happens : p.events = event :: rest) :
    ∃ left next, p = .next left event next ∧ (next ()).events = rest := by
  cases p with
  | still left => cases happens
  | next left first next =>
      obtain ⟨rfl, later⟩ := List.cons.inj happens
      exact ⟨left, next, rfl, later⟩

end Process

/-- **The events of a process that closes its outputs at its end**, in any order that its outputs
and its ending allow. They bring the pieces of an output that are still to come, and then close
it, `none` standing for what is over. Time passes only while nothing is over, and it is counted. -/
inductive Interleaves :
    Nat → Option (List (List UInt8)) → Option (List (List UInt8)) → Option Ending →
      List Event → Prop where
  | nothing : Interleaves 0 none none none []
  | wait {time : Nat} {out err : List (List UInt8)} {ending : Ending} {events : List Event}
      (d : Duration) (later : Interleaves time (some out) (some err) (some ending) events) :
      Interleaves (d.nanoseconds + time) (some out) (some err) (some ending) (.wait d :: events)
  | output {time : Nat} {out : List (List UInt8)} {err : Option (List (List UInt8))}
      {ending : Option Ending} {events : List Event} (bytes : List UInt8)
      (later : Interleaves time (some out) err ending events) :
      Interleaves time (some (bytes :: out)) err ending (.output bytes :: events)
  | diagnostics {time : Nat} {out : Option (List (List UInt8))} {err : List (List UInt8)}
      {ending : Option Ending} {events : List Event} (bytes : List UInt8)
      (later : Interleaves time out (some err) ending events) :
      Interleaves time out (some (bytes :: err)) ending (.diagnostics bytes :: events)
  | outputClosed {time : Nat} {err : Option (List (List UInt8))} {ending : Option Ending}
      {events : List Event} (later : Interleaves time none err ending events) :
      Interleaves time (some []) err ending (.outputClosed :: events)
  | diagnosticsClosed {time : Nat} {out : Option (List (List UInt8))} {ending : Option Ending}
      {events : List Event} (later : Interleaves time out none ending events) :
      Interleaves time out (some []) ending (.diagnosticsClosed :: events)
  | ended {time : Nat} {out err : Option (List (List UInt8))} {events : List Event}
      (ending : Ending) (later : Interleaves time out err none events) :
      Interleaves time out err (some ending) (.ended ending :: events)

/-- The output that some events bring. -/
def written : List Event → List UInt8
  | [] => []
  | .output bytes :: events => bytes ++ written events
  | _ :: events => written events

/-- The time that passes in some events, in nanoseconds. -/
def waited : List Event → Nat
  | [] => 0
  | .wait d :: events => d.nanoseconds + waited events
  | _ :: events => waited events

/-! ### What is known of a process -/

namespace Process.Progress

variable {p : Progress} {limit : Nat}

theorem settle_eq (p : Progress) : ∃ settled, p.settle = { p with settled } := by
  unfold settle
  split
  · exact ⟨some p.elapsed, rfl⟩
  · exact ⟨p.settled, rfl⟩

theorem settle_elapsed (p : Progress) : p.settle.elapsed = p.elapsed := by
  obtain ⟨settled, same⟩ := p.settle_eq
  rw [same]

/-- Taking note of the time does not change the answer. -/
theorem answer?_settle (p : Progress) : p.settle.answer? = p.answer? := by
  obtain ⟨settled, same⟩ := p.settle_eq
  rw [same]
  rfl

/-- While the output is read there is no answer. -/
theorem answer?_of_reading {reader : LineReader} (reading : p.reading = .inl reader) :
    p.answer? = none := by
  unfold answer?
  rw [reading]

/-- While the output is read and there is time, a wait gives no answer. -/
theorem answerWithin?_of_reading {reader : LineReader} {d : Nat}
    (reading : p.reading = .inl reader) (inTime : p.elapsed + d < limit) :
    p.answerWithin? limit d = none := by
  have soon : ¬ limit ≤ p.elapsed + d := by omega
  unfold answerWithin?
  simp only [reading, soon, if_false, Option.or_none]

end Process.Progress

/-! ### One event -/

namespace Process

variable {σ : Type} {limit : Nat} {known : Progress} {reader next : LineReader} {left : Nat → σ}
  {rest : Unit → Process σ} {bytes : List UInt8}

attribute [local simp] follow

theorem follow_wait {d : Duration} (reading : known.reading = .inl reader)
    (inTime : known.elapsed + d.nanoseconds < limit) :
    follow limit known (.next left (.wait d) rest) =
      follow limit { known with elapsed := known.elapsed + d.nanoseconds } (rest ()) := by
  simp [known.answerWithin?_of_reading reading inTime]

theorem follow_output_of_more (reading : known.reading = .inl reader)
    (read : reader.feed bytes = (.more, next)) :
    follow limit known (.next left (.output bytes) rest) =
      follow limit { known with reading := .inl next } (rest ()) := by
  simp [reading, read]

theorem follow_output_of_stop (reading : known.reading = .inl reader)
    (read : reader.feed bytes = (.stop, next)) :
    (follow limit known (.next left (.output bytes) rest)).1 = .ok next.collector.finish := by
  simp [reading, read]

theorem follow_diagnostics :
    follow limit known (.next left (.diagnostics bytes) rest) =
      follow limit { known with diagnostics := known.diagnostics.add bytes } (rest ()) := by
  simp

/-- What is known once the output is over. -/
def Progress.closeOutput (known : Progress) (reader : LineReader) : Progress :=
  { known with reading := .inr reader.finish }

/-- What is known once the process has said all. -/
def Progress.closeDiagnostics (known : Progress) : Progress :=
  { known with diagnostics := { known.diagnostics with closed := true } }

/-- What is known once the process has ended. -/
def Progress.end (known : Progress) (ending : Ending) : Progress :=
  { known with ending := some ending }

/-- Reading goes on unless there is an answer. -/
def goOn (limit : Nat) (known : Progress) (p : Process σ) : Except Failure ResultSet × σ :=
  match known.answer? with
  | some answer => (answer, p.giveUp 0)
  | none => follow limit known.settle p

theorem follow_outputClosed (reading : known.reading = .inl reader) :
    follow limit known (.next left .outputClosed rest) =
      goOn limit (known.closeOutput reader) (rest ()) := by
  simp only [follow, reading, Progress.answer?_settle]
  rfl

theorem follow_diagnosticsClosed :
    follow limit known (.next left .diagnosticsClosed rest) =
      goOn limit known.closeDiagnostics (rest ()) := by
  simp only [follow, Progress.answer?_settle]
  rfl

theorem follow_ended {ending : Ending} :
    follow limit known (.next left (.ended ending) rest) =
      goOn limit (known.end ending) (rest ()) := by
  simp only [follow, Progress.answer?_settle]
  rfl

theorem goOn_of_none {p : Process σ} (none : known.answer? = none) :
    goOn limit known p = follow limit known.settle p := by
  unfold goOn
  rw [none]

theorem goOn_of_some {p : Process σ} {answer : Except Failure ResultSet}
    (some : known.answer? = some answer) : (goOn limit known p).1 = answer := by
  unfold goOn
  rw [some]

end Process

/-! ### More output than the cap -/

namespace Process

variable {σ : Type} {limit : Nat} {reader stopped : LineReader}

/-- **A process whose output stops its reader in time** is answered for, whatever it does
afterwards. -/
theorem follow_of_feed_stop {before after : List Event} (p : Process σ) (known : Progress)
    (happens : p.events = before ++ after) (reading : known.reading = .inl reader)
    (unclosed : .outputClosed ∉ before) (inTime : known.elapsed + waited before < limit)
    (stops : reader.feed (written before) = (.stop, stopped)) :
    (p.follow limit known).1 = .ok stopped.collector.finish := by
  induction before generalizing p known reader with
  | nil => cases stops
  | cons event before ih =>
      obtain ⟨left, next, rfl, later⟩ := exists_eq_next happens
      have unclosed' : .outputClosed ∉ before := fun inside =>
        unclosed (List.mem_cons_of_mem event inside)
      cases event with
      | wait d =>
          rw [waited] at inTime
          rw [follow_wait reading (by omega)]
          refine ih (next ()) _ later reading unclosed' ?_ stops
          show known.elapsed + d.nanoseconds + waited before < limit
          omega
      | output bytes =>
          rcases read : reader.feed bytes with ⟨_ | _, fed⟩
          · rw [follow_output_of_more reading read]
            rw [written, LineReader.feed_append_of_more read] at stops
            exact ih (next ()) _ later rfl unclosed' inTime stops
          · rw [follow_output_of_stop reading read]
            rw [written, LineReader.feed_append_of_stop read] at stops
            cases stops
            rfl
      | diagnostics bytes =>
          rw [follow_diagnostics]
          exact ih (next ()) _ later reading unclosed' inTime stops
      | outputClosed => exact absurd List.mem_cons_self unclosed
      | diagnosticsClosed =>
          have none : known.closeDiagnostics.answer? = none := Progress.answer?_of_reading reading
          obtain ⟨settled, same⟩ := known.closeDiagnostics.settle_eq
          rw [follow_diagnosticsClosed, goOn_of_none none, same]
          exact ih (next ()) _ later reading unclosed' inTime stops
      | ended ending =>
          have none : (known.end ending).answer? = none := Progress.answer?_of_reading reading
          obtain ⟨settled, same⟩ := (known.end ending).settle_eq
          rw [follow_ended, goOn_of_none none, same]
          exact ih (next ()) _ later reading unclosed' inTime stops

end Process

/-! ### A process that closes its outputs at its end -/

/-- The answer for a whole output, a whole second output and an ending. -/
def answerOf (out err : List UInt8) (ending : Ending) (cap : Nat) : Except Failure ResultSet :=
  if (ResultSet.ofOutput out cap).truncated then .ok (ResultSet.ofOutput out cap)
  else if ending.isSuccess then .ok (ResultSet.ofOutput out cap)
  else .error (.executionFailed (failureText err))

namespace Process

variable {σ : Type} {cap : Nat} {out err : List UInt8} {ending : Ending}

namespace Progress

/-- What is read of an output, of which some pieces are still to come: what came before them, or
all, and then it is not truncated. -/
def HasRead (out : List UInt8) (cap : Nat) (reading : LineReader ⊕ ResultSet) :
    Option (List (List UInt8)) → Prop
  | some pieces =>
      ∃ reader seen, reading = .inl reader ∧
        (LineReader.start cap).feed seen = (.more, reader) ∧ seen ++ pieces.flatten = out
  | none =>
      reading = .inr (ResultSet.ofOutput out cap) ∧
        (ResultSet.ofOutput out cap).truncated = false

/-- What is kept of a second output, of which some pieces are still to come. -/
def HasHeard (err : List UInt8) (d : Diagnostics) : Option (List (List UInt8)) → Prop
  | some pieces => d.closed = false ∧ ∃ said, d.Keeps said ∧ said ++ pieces.flatten = err
  | none => d.closed = true ∧ d.Keeps err

/-- Whether an ending is known or still to come. -/
def HasSeen (ending : Ending) (seen : Option Ending) : Option Ending → Prop
  | some expected => seen = none ∧ expected = ending
  | none => seen = some ending

/-- **What is known of a process agrees with what is still to come.** -/
structure Knows (known : Progress) (out err : List UInt8) (ending : Ending) (cap : Nat)
    (outLeft errLeft : Option (List (List UInt8))) (endingLeft : Option Ending) : Prop where
  read : HasRead out cap known.reading outLeft
  heard : HasHeard err known.diagnostics errLeft
  seen : HasSeen ending known.ending endingLeft

variable {known : Progress} {outLeft errLeft : Option (List (List UInt8))}
  {endingLeft : Option Ending} {bytes : List UInt8} {pieces : List (List UInt8)}

theorem Knows.start (out err : List (List UInt8)) (ending : Ending) (cap : Nat) :
    (start cap).Knows out.flatten err.flatten ending cap (some out) (some err) (some ending) :=
  ⟨⟨.start cap, [], rfl, rfl, rfl⟩, ⟨rfl, [], .empty, rfl⟩, rfl, rfl⟩

/-- Nothing that is known depends on the note of the time. -/
theorem Knows.settle (knows : known.Knows out err ending cap outLeft errLeft endingLeft) :
    known.settle.Knows out err ending cap outLeft errLeft endingLeft := by
  obtain ⟨settled, same⟩ := known.settle_eq
  rw [same]
  exact ⟨knows.read, knows.heard, knows.seen⟩

/-- A piece of the output shows that there is more than the cap, or it is read. -/
theorem Knows.output
    (knows : known.Knows out err ending cap (some (bytes :: pieces)) errLeft endingLeft) :
    ∃ reader next, known.reading = .inl reader ∧
      (reader.feed bytes = (.more, next) ∧
          { known with reading := .inl next }.Knows out err ending cap (some pieces) errLeft
            endingLeft ∨
        reader.feed bytes = (.stop, next) ∧ (ResultSet.ofOutput out cap).truncated = true ∧
          ResultSet.ofOutput out cap = next.collector.finish) := by
  obtain ⟨⟨reader, seen, reading, read, whole⟩, heard, ended⟩ := knows
  rw [List.flatten_cons, ← List.append_assoc] at whole
  have onwards := LineReader.feed_append_of_more read bytes
  rcases fed : reader.feed bytes with ⟨_ | _, next⟩
  · rw [fed] at onwards
    exact ⟨reader, next, reading,
      .inl ⟨fed, ⟨next, seen ++ bytes, rfl, onwards, whole⟩, heard, ended⟩⟩
  · rw [fed] at onwards
    have stopped := ResultSet.ofOutput_append_of_feed_stop onwards pieces.flatten
    rw [whole] at stopped
    exact ⟨reader, next, reading, .inr ⟨fed, stopped⟩⟩

theorem Knows.diagnostics
    (knows : known.Knows out err ending cap outLeft (some (bytes :: pieces)) endingLeft) :
    { known with diagnostics := known.diagnostics.add bytes }.Knows out err ending cap outLeft
      (some pieces) endingLeft := by
  obtain ⟨read, ⟨closed, said, keeps, whole⟩, ended⟩ := knows
  rw [List.flatten_cons, ← List.append_assoc] at whole
  refine ⟨read, ⟨?_, said ++ bytes, keeps.add bytes, whole⟩, ended⟩
  rw [← closed]
  show (known.diagnostics.add bytes).closed = known.diagnostics.closed
  unfold Diagnostics.add
  split <;> rfl

/-- At the end of the output there are its records, and they are the answer when they are
truncated. -/
theorem Knows.outputClosed
    (knows : known.Knows out err ending cap (some []) errLeft endingLeft) :
    ∃ reader, known.reading = .inl reader ∧
      ((ResultSet.ofOutput out cap).truncated = true ∧
          (known.closeOutput reader).answer? = some (.ok (ResultSet.ofOutput out cap)) ∨
        (known.closeOutput reader).Knows out err ending cap none errLeft endingLeft) := by
  obtain ⟨⟨reader, seen, reading, read, whole⟩, heard, ended⟩ := knows
  rw [List.flatten_nil, List.append_nil] at whole
  subst whole
  have records : reader.finish = ResultSet.ofOutput seen cap :=
    (ResultSet.ofOutput_of_feed read).symm
  refine ⟨reader, reading, ?_⟩
  rcases truncated : (ResultSet.ofOutput seen cap).truncated with _ | _
  · exact .inr ⟨⟨congrArg Sum.inr records, truncated⟩, heard, ended⟩
  · refine .inl ⟨rfl, ?_⟩
    unfold answer? closeOutput
    simp only [records, truncated, if_true]

theorem Knows.diagnosticsClosed
    (knows : known.Knows out err ending cap outLeft (some []) endingLeft) :
    known.closeDiagnostics.Knows out err ending cap outLeft none endingLeft := by
  obtain ⟨read, ⟨-, said, keeps, whole⟩, ended⟩ := knows
  rw [List.flatten_nil, List.append_nil] at whole
  subst whole
  exact ⟨read, ⟨rfl, keeps.size, keeps.kept⟩, ended⟩

theorem Knows.ended {expected : Ending}
    (knows : known.Knows out err ending cap outLeft errLeft (some expected)) :
    (known.end expected).Knows out err ending cap outLeft errLeft none := by
  obtain ⟨read, heard, -, rfl⟩ := knows
  exact ⟨read, heard, rfl⟩

/-- When all is known, the answer is that of the whole outputs. -/
theorem Knows.answer?_eq_some (knows : known.Knows out err ending cap none none none) :
    known.answer? = some (answerOf out err ending cap) := by
  obtain ⟨⟨reading, untruncated⟩, ⟨closed, keeps⟩, (ended : known.ending = some ending)⟩ := knows
  unfold answer? answerOf
  simp only [reading, ended, closed, untruncated, Bool.false_eq_true, if_false, if_true,
    Option.bind_some, answer, keeps.failure_eq]

/-- While something is still to come there is no answer. -/
theorem Knows.answer?_eq_none (knows : known.Knows out err ending cap outLeft errLeft endingLeft)
    (left : outLeft.isSome ∨ errLeft.isSome ∨ endingLeft.isSome) : known.answer? = none := by
  obtain ⟨read, heard, ended⟩ := knows
  rcases outLeft with _ | pieces
  · obtain ⟨reading, untruncated⟩ := read
    unfold answer?
    simp only [reading, untruncated, Bool.false_eq_true, if_false]
    rcases endingLeft with _ | expected
    · rcases errLeft with _ | pieces
      · simp at left
      · have unclosed : known.diagnostics.closed = false := heard.1
        simp [unclosed]
    · rw [ended.1]
      rfl
  · obtain ⟨reader, -, reading, -⟩ := read
    exact answer?_of_reading reading

end Progress

variable {limit time : Nat} {known : Progress} {outLeft errLeft : Option (List (List UInt8))}
  {endingLeft : Option Ending}

/-- Either all is known, or reading goes on. -/
theorem goOn_of_knows {p : Process σ}
    (knows : known.Knows out err ending cap outLeft errLeft endingLeft)
    (later : outLeft.isSome ∨ errLeft.isSome ∨ endingLeft.isSome →
      (p.follow limit known.settle).1 = answerOf out err ending cap) :
    (goOn limit known p).1 = answerOf out err ending cap := by
  by_cases left : outLeft.isSome ∨ errLeft.isSome ∨ endingLeft.isSome
  · rw [goOn_of_none (knows.answer?_eq_none left)]
    exact later left
  · simp only [not_or, Option.not_isSome_iff_eq_none] at left
    obtain ⟨rfl, rfl, rfl⟩ := left
    exact goOn_of_some knows.answer?_eq_some

/-- Records that are truncated are the answer, whatever else is said and however it ends. -/
theorem answerOf_of_truncated (truncated : (ResultSet.ofOutput out cap).truncated = true) :
    answerOf out err ending cap = .ok (ResultSet.ofOutput out cap) := by
  unfold answerOf
  rw [if_pos truncated]

/-- **The answer of a process whose events agree with what is known of it.** The induction is on
the events that are still to come. -/
theorem follow_of_interleaves {events : List Event}
    (happens : Interleaves time outLeft errLeft endingLeft events) (p : Process σ)
    (known : Progress) (same : p.events = events)
    (knows : known.Knows out err ending cap outLeft errLeft endingLeft)
    (inTime : known.elapsed + time < limit)
    (left : outLeft.isSome ∨ errLeft.isSome ∨ endingLeft.isSome) :
    (p.follow limit known).1 = answerOf out err ending cap := by
  induction happens generalizing p known with
  | nothing => simp at left
  | @wait time pieces said expected events d later ih =>
      obtain ⟨_, next, rfl, rest⟩ := exists_eq_next same
      -- time passes only while the output is read, so no grace is running
      obtain ⟨reader, -, reading, -⟩ := knows.read
      rw [follow_wait reading (by omega)]
      refine ih (next ()) _ rest ⟨knows.read, knows.heard, knows.seen⟩ ?_ left
      show known.elapsed + d.nanoseconds + time < limit
      omega
  | output bytes later ih =>
      obtain ⟨_, next, rfl, rest⟩ := exists_eq_next same
      obtain ⟨reader, reader', reading, ⟨fed, knows⟩ | ⟨fed, truncated, records⟩⟩ := knows.output
      · rw [follow_output_of_more reading fed]
        exact ih (next ()) _ rest knows inTime (.inl rfl)
      · rw [follow_output_of_stop reading fed, answerOf_of_truncated truncated, records]
  | diagnostics bytes later ih =>
      obtain ⟨_, next, rfl, rest⟩ := exists_eq_next same
      rw [follow_diagnostics]
      exact ih (next ()) _ rest knows.diagnostics inTime (.inr (.inl rfl))
  | outputClosed later ih =>
      obtain ⟨_, next, rfl, rest⟩ := exists_eq_next same
      obtain ⟨reader, reading, ⟨truncated, answers⟩ | knows⟩ := knows.outputClosed
      · rw [follow_outputClosed reading, answerOf_of_truncated truncated]
        exact goOn_of_some answers
      · rw [follow_outputClosed reading]
        refine goOn_of_knows knows fun left => ih (next ()) _ rest knows.settle ?_ left
        rw [Progress.settle_elapsed]
        exact inTime
  | diagnosticsClosed later ih =>
      obtain ⟨_, next, rfl, rest⟩ := exists_eq_next same
      rw [follow_diagnosticsClosed]
      refine goOn_of_knows knows.diagnosticsClosed fun left =>
        ih (next ()) _ rest knows.diagnosticsClosed.settle ?_ left
      rw [Progress.settle_elapsed]
      exact inTime
  | ended expected later ih =>
      obtain ⟨_, next, rfl, rest⟩ := exists_eq_next same
      rw [follow_ended]
      refine goOn_of_knows knows.ended fun left => ih (next ()) _ rest knows.ended.settle ?_ left
      rw [Progress.settle_elapsed]
      exact inTime

/-! ### The answer -/

/-- A process that has time is followed from the start. -/
theorem records_eq_follow {limit : Duration} (p : Process σ) (cap : Nat)
    (inTime : 0 < limit.nanoseconds) :
    p.records limit cap = p.follow limit.nanoseconds (.start cap) := by
  unfold records
  rw [if_neg (by omega)]

/-- A process that writes more than the cap in time is answered for, whatever it does after the
line that shows it. -/
theorem records_of_truncated {limit : Duration} {before after : List Event} (p : Process σ)
    (happens : p.events = before ++ after) (unclosed : .outputClosed ∉ before)
    (inTime : waited before < limit.nanoseconds) {more : List UInt8}
    (writes : written before = out ++ lineFeed :: more)
    (truncated : (ResultSet.ofOutput out cap).truncated = true) :
    (p.records limit cap).1 = .ok (ResultSet.ofOutput out cap) := by
  obtain ⟨stopped, stops, same⟩ := LineReader.exists_feed_stop truncated more
  rw [records_eq_follow p cap (by omega), ← same]
  refine follow_of_feed_stop p (.start cap) happens rfl unclosed ?_ ?_
  · show 0 + waited before < limit.nanoseconds
    omega
  · rw [writes]
    exact stops

/-- **The answer for a process that closes its outputs at its end**, before the limit, however its
outputs are cut into pieces and in whatever order these arrive. Records that are truncated are the
answer, and they stay so whatever more the process would write: with more output before its end,
or once a line has ended and whatever happens then. Of other records a bad ending makes a failure,
which says what the process has said. -/
theorem records_of_interleaves {limit : Duration} {out err : List (List UInt8)} (p : Process σ)
    (happens : Interleaves time (some out) (some err) (some ending) p.events)
    (inTime : time < limit.nanoseconds) (cap : Nat) :
    (p.records limit cap).1 =
        (if (ResultSet.ofOutput out.flatten cap).truncated then
          .ok (ResultSet.ofOutput out.flatten cap)
        else if ending.isSuccess then .ok (ResultSet.ofOutput out.flatten cap)
        else .error (.executionFailed (failureText err.flatten))) ∧
      ((ResultSet.ofOutput out.flatten cap).truncated = true →
        (∀ more, ResultSet.ofOutput (out.flatten ++ more) cap =
          ResultSet.ofOutput out.flatten cap) ∧
        ∀ (q : Process σ) (before after : List Event) (more : List UInt8),
          q.events = before ++ after → .outputClosed ∉ before →
          waited before < limit.nanoseconds → written before = out.flatten ++ lineFeed :: more →
          (q.records limit cap).1 = .ok (ResultSet.ofOutput out.flatten cap)) := by
  refine ⟨?_, fun truncated => ⟨ResultSet.ofOutput_append_of_truncated truncated, ?_⟩⟩
  · rw [records_eq_follow p cap (by omega)]
    refine follow_of_interleaves happens p (.start cap) rfl
      (Progress.Knows.start out err ending cap) ?_ (.inl rfl)
    show 0 + time < limit.nanoseconds
    omega
  · intro q before after more happens unclosed inTime writes
    exact records_of_truncated q happens unclosed inTime writes truncated

/-- A process that writes `{}` in two pieces, says `n` and ends badly fails under a cap of one.
Under a cap of nothing it does not, nor does one that goes on for longer than the limit. -/
theorem records_of_interleaves_failing :
    let events : List Event :=
      [.output [0x7B], .wait ⟨5⟩, .diagnostics [0x6E], .output [0x7D, 0x0A], .ended (.exited 1),
        .diagnosticsClosed, .outputClosed]
    ((ofEvents () events).records ⟨9⟩ 1).1 = .error (.executionFailed "n") ∧
      ((ofEvents () events).records ⟨9⟩ 0).1 = .ok ⟨[], true, 0⟩ ∧
      ((ofEvents () [.output [0x7B, 0x7D, 0x0A, 0x0A], .wait ⟨10⟩]).records ⟨9⟩ 0).1 =
        .ok ⟨[], true, 0⟩ := by
  intro events
  have happens : Interleaves 5 (some [[0x7B], [0x7D, 0x0A]]) (some [[0x6E]]) (some (.exited 1))
      (ofEvents () events).events :=
    .output _ (.wait ⟨5⟩ (.diagnostics _ (.output _ (.ended _ (.diagnosticsClosed
      (.outputClosed .nothing))))))
  have fits : (ResultSet.ofOutput [0x7B, 0x7D, 0x0A] 1).truncated = false := by
    rw [ResultSet.ofOutput_of_fits ((fits_cons_of_some object?_braces).mpr (.nil 0))]
  have overfull : ResultSet.ofOutput [0x7B, 0x7D, 0x0A] 0 = ⟨[], true, 0⟩ := rfl
  have said : failureText [0x6E] = "n" := by
    have text : Utf8.decodeLossy ([0x6E].take 65536) = ['n'] := by
      simp [Utf8.decodeLossy, Utf8.read_cons, Utf8.next]
    rw [failureText, text]
    rfl
  have underOne := (records_of_interleaves _ happens (by decide : 5 < 9) 1).1
  obtain ⟨underZero, onwards⟩ := records_of_interleaves _ happens (by decide : 5 < 9) 0
  refine ⟨?_, ?_, ?_⟩
  · refine underOne.trans ?_
    show (if (ResultSet.ofOutput [0x7B, 0x7D, 0x0A] 1).truncated = true then _ else _) = _
    rw [if_neg (by simp [fits])]
    exact congrArg (fun text => Except.error (Failure.executionFailed text)) said
  · refine underZero.trans ?_
    show (if (ResultSet.ofOutput [0x7B, 0x7D, 0x0A] 0).truncated = true then _ else _) = _
    rw [overfull]
    rfl
  · refine (onwards (congrArg ResultSet.truncated overfull)).2 _
      [.output [0x7B, 0x7D, 0x0A, 0x0A]] [.wait ⟨10⟩] [] (events_ofEvents () _) ?_ (by decide)
      rfl |>.trans (congrArg Except.ok overfull)
    simp

end Process

end Enquiry

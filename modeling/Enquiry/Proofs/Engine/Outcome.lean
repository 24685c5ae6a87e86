import Enquiry.Engine.Executor
import Enquiry.Proofs.Engine.Supervision

/-!
# Records of any process

A process may do anything: write after its end, go on for ever, or close its output late.  Its
output is what it writes before it closes it (`outputBy`), and whatever else it does, the records
that are answered for it are those of its output (`RecordsOf`): the first of them up to the cap, and
all of them only when the output has been closed.  One event either brings such an answer or leaves
what is read in agreement with what has been written (`Process.follow_next`), and so it is for the
whole process (`Process.recordsOf_of_records`) and for a query
(`Executor.exists_process_of_execute`).
-/

namespace Enquiry

variable {cap : Nat} {past later : List Event} {result : ResultSet}

/-! ### What has been written -/

theorem written_append (past later : List Event) :
    written (past ++ later) = written past ++ written later := by
  induction past with
  | nil => rfl
  | cons event past ih =>
      cases event with
      | output bytes => rw [List.cons_append, written, written, ih, List.append_assoc]
      | wait | diagnostics | outputClosed | diagnosticsClosed | ended => exact ih

/-- The output that some events bring: what is written before it is closed, and all that is written
when it is not closed. -/
def outputBy (events : List Event) : List UInt8 :=
  written (events.takeWhile (· != .outputClosed))

theorem outputBy_append_of_not_mem (unclosed : .outputClosed ∉ past) (later : List Event) :
    outputBy (past ++ later) = written past ++ outputBy later := by
  have still : ∀ event ∈ past, (event != .outputClosed) = true := by
    intro event mem
    rw [bne_iff_ne]
    rintro rfl
    exact unclosed mem
  rw [outputBy, List.takeWhile_append_of_pos still, written_append, outputBy]

theorem outputBy_of_not_mem (unclosed : .outputClosed ∉ past) : outputBy past = written past := by
  have nothing : outputBy [] = [] := rfl
  have whole := outputBy_append_of_not_mem unclosed []
  rwa [nothing, List.append_nil, List.append_nil] at whole

/-- What is written behind the close does not count. -/
theorem outputBy_append_of_mem (closed : .outputClosed ∈ past) (later : List Event) :
    outputBy (past ++ later) = outputBy past := by
  obtain ⟨before, after, rfl, unclosed⟩ := List.eq_append_cons_of_mem closed
  rw [List.append_assoc, outputBy_append_of_not_mem unclosed, outputBy_append_of_not_mem unclosed]
  rfl

/-- The records of an output that some events bring. They are cut, or else the output has been
closed. -/
structure RecordsOf (cap : Nat) (events : List Event) (result : ResultSet) : Prop where
  same : result = ResultSet.ofOutput (outputBy events) cap
  closed : result.truncated = false → .outputClosed ∈ events

/-- Whatever happens then, the records stay those of the output. -/
theorem RecordsOf.append (records : RecordsOf cap past result) (later : List Event) :
    RecordsOf cap (past ++ later) result := by
  obtain ⟨rfl, closed⟩ := records
  refine ⟨?_, fun whole => List.mem_append_left later (closed whole)⟩
  by_cases shut : .outputClosed ∈ past
  · rw [outputBy_append_of_mem shut]
  · -- what is answered for an output that is still open has been cut
    have truncated : (ResultSet.ofOutput (outputBy past) cap).truncated = true := by
      rw [← Bool.not_eq_false]
      exact mt closed shut
    rw [outputBy_append_of_not_mem shut, ← outputBy_of_not_mem shut,
      ResultSet.ofOutput_append_of_truncated truncated]

namespace Process

variable {σ : Type} {limit : Nat} {known : Progress} {reader : LineReader}

namespace Progress

/-- What is read agrees with what has been written: the lines of it while the output is open, or
the records of an output that has been closed. -/
def HasReadFrom (past : List Event) (cap : Nat) : LineReader ⊕ ResultSet → Prop
  | .inl reader =>
      .outputClosed ∉ past ∧ (LineReader.start cap).feed (written past) = (.more, reader)
  | .inr result => RecordsOf cap past result

/-- An event that neither writes nor closes changes nothing that is read. -/
theorem HasReadFrom.append {reading : LineReader ⊕ ResultSet} {event : Event}
    (read : HasReadFrom past cap reading) (quiet : written [event] = [])
    (open' : event ≠ .outputClosed) : HasReadFrom (past ++ [event]) cap reading := by
  cases reading with
  | inl reader =>
      refine ⟨?_, ?_⟩
      · rw [List.mem_append, List.mem_singleton]
        exact fun closed => closed.elim read.1 (Ne.symm open')
      · rw [written_append, quiet, List.append_nil]
        exact read.2
  | inr result => exact RecordsOf.append read [event]

/-! ### Answers are what has been read -/

theorem answer_eq_ok {records : ResultSet} {ending : Ending} {said : String}
    (answered : answer records ending said = .ok result) : records = result := by
  unfold answer at answered
  split at answered
  · exact Except.ok.inj answered
  · cases answered

theorem reading_of_answer? (answered : known.answer? = some (.ok result)) :
    known.reading = .inr result := by
  rcases reading : known.reading with reader | records <;>
    simp only [answer?, reading] at answered
  · cases answered
  · split at answered
    · exact congrArg Sum.inr (Except.ok.inj (Option.some.inj answered))
    · obtain ⟨ending, -, answered⟩ := Option.bind_eq_some_iff.mp answered
      split at answered
      · exact congrArg Sum.inr (answer_eq_ok (Option.some.inj answered))
      · cases answered

theorem reading_of_answerWithin? {d t : Nat}
    (answered : known.answerWithin? limit d = some (t, .ok result)) :
    known.reading = .inr result := by
  rcases reading : known.reading with reader | records <;>
    simp only [answerWithin?, reading, Option.or_eq_some_iff] at answered
  · rcases answered with settled | ⟨-, late⟩
    · cases settled
    · split at late <;> cases late
  · rcases answered with settled | ⟨-, late⟩
    · split at settled
      next shown ending t same _ _ =>
          split at settled
          · rw [same]
            exact congrArg Sum.inr (answer_eq_ok (congrArg Prod.snd (Option.some.inj settled)))
          · cases settled
      next => cases settled
    · split at late <;> cases late

/-- Records that have been read are those of the output. -/
theorem HasReadFrom.records (read : HasReadFrom past cap known.reading)
    (reading : known.reading = .inr result) : RecordsOf cap past result := by
  rw [reading] at read
  exact read

/-- They stay those of the output, whatever happens. -/
theorem HasReadFrom.append_of_eq_inr (read : HasReadFrom past cap known.reading)
    (reading : known.reading = .inr result) (event : Event) :
    HasReadFrom (past ++ [event]) cap known.reading := by
  rw [reading] at read ⊢
  exact RecordsOf.append read [event]

end Progress

open Progress (HasReadFrom reading_of_answer? reading_of_answerWithin?)

/-! ### One event -/

/-- An answer comes now, or later. -/
theorem goOn_eq_ok {p : Process σ} (read : HasReadFrom past cap known.reading)
    (answered : (goOn limit known p).1 = .ok result) :
    RecordsOf cap past result ∨
      ∃ known', HasReadFrom past cap known'.reading ∧ (p.follow limit known').1 = .ok result := by
  rcases now : known.answer? with _ | answer
  · rw [goOn_of_none now] at answered
    obtain ⟨settled, same⟩ := known.settle_eq
    refine .inr ⟨known.settle, ?_, answered⟩
    rw [same]
    exact read
  · rw [goOn_of_some now] at answered
    subst answered
    exact .inl (read.records (reading_of_answer? now))

/-- A piece of output that stops its reader brings the records of the output. -/
theorem recordsOf_of_stop {bytes : List UInt8} {next : LineReader}
    (read : HasReadFrom past cap (.inl reader)) (stops : reader.feed bytes = (.stop, next)) :
    RecordsOf cap (past ++ [.output bytes]) next.collector.finish := by
  obtain ⟨unclosed, read⟩ := read
  have onwards : (LineReader.start cap).feed (written (past ++ [.output bytes])) =
      (.stop, next) := by
    rw [written_append, LineReader.feed_append_of_more read, written, written, List.append_nil,
      stops]
  have unclosed' : .outputClosed ∉ past ++ [.output bytes] := by simp [unclosed]
  obtain ⟨truncated, whole⟩ := ResultSet.ofOutput_append_of_feed_stop onwards []
  rw [List.append_nil, ← outputBy_of_not_mem unclosed'] at truncated whole
  refine ⟨whole.symm, fun uncut => ?_⟩
  rw [← whole, truncated] at uncut
  cases uncut

/-- A close brings the records of what has been written until then. -/
theorem hasReadFrom_closeOutput (read : HasReadFrom past cap (.inl reader)) (known : Progress) :
    HasReadFrom (past ++ [.outputClosed]) cap (known.closeOutput reader).reading := by
  obtain ⟨unclosed, read⟩ := read
  have brought : outputBy (past ++ [.outputClosed]) = written past := by
    rw [outputBy_append_of_not_mem unclosed]
    exact List.append_nil (written past)
  refine ⟨?_, fun _ => by simp⟩
  rw [brought, ResultSet.ofOutput_of_feed read]

/-- **One event** brings an answer with the records of the output, or leaves what is read in
agreement with what has been written. -/
theorem follow_next {left : Nat → σ} {event : Event} {rest : Unit → Process σ}
    (read : HasReadFrom past cap known.reading)
    (answered : (follow limit known (.next left event rest)).1 = .ok result) :
    RecordsOf cap (past ++ [event]) result ∨
      ∃ known', HasReadFrom (past ++ [event]) cap known'.reading ∧
        ((rest ()).follow limit known').1 = .ok result := by
  cases event with
  | wait d =>
      rw [follow] at answered
      rcases now : known.answerWithin? limit d.nanoseconds with _ | ⟨delay, answer⟩ <;>
        simp only [now] at answered
      · have kept : HasReadFrom (past ++ [.wait d]) cap
            { known with elapsed := known.elapsed + d.nanoseconds }.reading :=
          read.append rfl (by simp)
        exact .inr ⟨_, kept, answered⟩
      · subst answered
        exact .inl ((read.records (reading_of_answerWithin? now)).append _)
  | output bytes =>
      rcases reading : known.reading with reader | records
      · rw [reading] at read
        rcases fed : reader.feed bytes with ⟨_ | _, next⟩
        · rw [follow_output_of_more reading fed] at answered
          obtain ⟨unclosed, read⟩ := read
          refine .inr ⟨{ known with reading := .inl next }, ⟨by simp [unclosed], ?_⟩, answered⟩
          rw [written_append, LineReader.feed_append_of_more read, written, written,
            List.append_nil, fed]
        · rw [follow_output_of_stop reading fed] at answered
          rw [← Except.ok.inj answered]
          exact .inl (recordsOf_of_stop read fed)
      · rw [follow] at answered
        simp only [reading] at answered
        exact .inr ⟨known, read.append_of_eq_inr reading _, answered⟩
  | diagnostics bytes =>
      rw [follow_diagnostics] at answered
      have kept : HasReadFrom (past ++ [.diagnostics bytes]) cap
          { known with diagnostics := known.diagnostics.add bytes }.reading :=
        read.append rfl (by simp)
      exact .inr ⟨_, kept, answered⟩
  | outputClosed =>
      rcases reading : known.reading with reader | records
      · rw [reading] at read
        rw [follow_outputClosed reading] at answered
        exact goOn_eq_ok (hasReadFrom_closeOutput read known) answered
      · rw [follow] at answered
        simp only [reading] at answered
        exact .inr ⟨known, read.append_of_eq_inr reading _, answered⟩
  | diagnosticsClosed =>
      have kept : HasReadFrom (past ++ [.diagnosticsClosed]) cap known.closeDiagnostics.reading :=
        read.append rfl (by simp)
      rw [follow_diagnosticsClosed] at answered
      exact goOn_eq_ok kept answered
  | ended ending =>
      have kept : HasReadFrom (past ++ [.ended ending]) cap (known.end ending).reading :=
        read.append rfl (by simp)
      rw [follow_ended] at answered
      exact goOn_eq_ok kept answered

/-! ### All events -/

theorem recordsOf_of_follow (p : Process σ) (known : Progress) (past : List Event)
    (read : HasReadFrom past cap known.reading)
    (answered : (p.follow limit known).1 = .ok result) :
    RecordsOf cap (past ++ p.events) result := by
  induction p generalizing known past with
  | still left =>
      rw [follow] at answered
      rcases now : known.answerWithin? limit (limit + Progress.grace) with _ | ⟨delay, answer⟩ <;>
        simp only [now] at answered
      · cases answered
      · subst answered
        exact (read.records (reading_of_answerWithin? now)).append _
  | next left event rest ih =>
      have split : past ++ (Process.next left event rest).events =
          past ++ [event] ++ (rest ()).events := by
        rw [List.append_assoc]
        rfl
      rw [split]
      rcases follow_next read answered with now | ⟨known', read, later⟩
      · exact now.append _
      · exact ih () known' _ read later

/-- **The records of a process** are those of its output, whatever it does. -/
theorem recordsOf_of_records {p : Process σ} {limit : Duration}
    (answered : (p.records limit cap).1 = .ok result) : RecordsOf cap p.events result := by
  unfold records at answered
  split at answered
  · cases answered
  · exact recordsOf_of_follow p (.start cap) [] ⟨List.not_mem_nil, rfl⟩ answered

end Process

/-- **The records of a query** are those of the output of the process of its run. -/
theorem Executor.exists_process_of_execute {σ : Type} {x : Executor σ} {query locator : String}
    {before after : σ} (ran : x.execute query locator before = (.ok result, after)) :
    ∃ process, x.engine.start (queryArguments query locator) x.queryEnvironment before =
        .ok process ∧ RecordsOf x.maxResults process.events result := by
  unfold execute executeWith at ran
  split at ran
  next => cases congrArg Prod.fst ran
  next process started =>
      exact ⟨process, started, Process.recordsOf_of_records (congrArg Prod.fst ran)⟩

end Enquiry

import Enquiry.Proofs.Engine.Outcome
import Enquiry.Service.Basic

/-!
# Answers to questions

A question whose locator cannot be read is answered without the engine
(`Service.query_of_unreadable`); any other is run, and what comes of the run is the answer
(`Service.query_of_readable`).  **Every question is answered** (`Service.query_answers`): with an
error that repeats it, or with the records of the engine's output, all of them or the first up to
the cap.
-/

namespace Enquiry

namespace Service

variable {σ : Type} {s : Service σ} {r : QueryRequest} {before after : σ}

/-- The query that a question is compiled to. -/
def queryText (s : Service σ) (r : QueryRequest) : String :=
  Query.compile ⟨r.locator, r.limit, s.today⟩ r.question

theorem query_eq (s : Service σ) (r : QueryRequest) (before : σ) :
    s.query r before =
      (.ofExcept ⟨r.question⟩ (s.runQuery r before).1, (s.runQuery r before).2) := rfl

/-- An error repeats the question. -/
theorem input_of_query_eq_error {message : String} {input : QueryInput}
    (answered : (s.query r before).1 = .error message input) : input = ⟨r.question⟩ := by
  rw [query_eq] at answered
  rcases outcome : (s.runQuery r before).1 with failure | payload <;> rw [outcome] at answered
  · cases answered
    rfl
  · cases answered

/-- **A locator that cannot be read runs nothing**: the state of the world is as before. -/
theorem query_of_unreadable (unreadable : Locator.parse? r.locator = none) (before : σ) :
    s.query r before = (.error ("Invalid S3 path: " ++ r.locator) ⟨r.question⟩, before) := by
  have failed : s.runQuery r = pure (.error (.invalidLocator r.locator)) := by
    rw [runQuery, Locator.read, unreadable]
  rw [query_eq, failed]
  rfl

/-- **What comes of a run is the answer.** -/
theorem query_of_readable {l : Locator} {outcome : Except Failure ResultSet}
    (readable : Locator.parse? r.locator = some l)
    (ran : s.executor.execute (s.queryText r) r.locator before = (outcome, after)) :
    s.query r before =
      (.ofExcept ⟨r.question⟩ (outcome.map fun result =>
        ⟨s.queryText r, result.records, result.records.length, result.truncated⟩), after) := by
  have read : Locator.read r.locator = .ok l := by rw [Locator.read, readable]
  have text : Query.compile ⟨r.locator, r.limit, s.today⟩ r.question = s.queryText r := rfl
  have run : s.runQuery r before = (outcome.map fun result =>
      ⟨s.queryText r, result.records, result.records.length, result.truncated⟩, after) := by
    simp only [runQuery, read, bind, StateT.bind, text, ran]
    rfl
  rw [query_eq, run]

/-- **Every question is answered.** A locator that cannot be read runs nothing and is an error with
the locator in its text; a run that fails is an error with the text of its failure; any other
question is a success. Its query is the compiled question, its results are the objects that the
lines of the engine's output hold, in order, and it counts them. They are at most as many as the
executor allows, whatever the request says, and exactly as many when they are truncated; when they
are not, the engine has closed its output, and they are all objects in it. An error repeats the
question as it is. -/
theorem query_answers (s : Service σ) (r : QueryRequest) (before : σ) :
    (Locator.parse? r.locator = none →
      s.query r before = (.error ("Invalid S3 path: " ++ r.locator) ⟨r.question⟩, before)) ∧
    (∀ l failure after, Locator.parse? r.locator = some l →
      s.executor.execute (s.queryText r) r.locator before = (.error failure, after) →
        s.query r before = (.error failure.message ⟨r.question⟩, after)) ∧
    (∀ l result after, Locator.parse? r.locator = some l →
      s.executor.execute (s.queryText r) r.locator before = (.ok result, after) →
        s.query r before =
            (.success ⟨s.queryText r, result.records, result.records.length, result.truncated⟩,
              after) ∧
          result.records.length ≤ s.executor.maxResults ∧
          (result.truncated = true → result.records.length = s.executor.maxResults) ∧
          ∃ process,
            s.executor.engine.start (Executor.queryArguments (s.queryText r) r.locator)
                s.executor.queryEnvironment before = .ok process ∧
              result.records =
                (objects (filledLines (outputBy process.events))).take s.executor.maxResults ∧
              (result.truncated = false →
                .outputClosed ∈ process.events ∧
                  result.records = objects (filledLines (outputBy process.events)))) ∧
    ∀ message input, (s.query r before).1 = .error message input → input = ⟨r.question⟩ := by
  refine ⟨fun unreadable => query_of_unreadable unreadable before,
    fun l failure after readable ran => query_of_readable readable ran,
    fun l result after readable ran => ?_, fun message input => input_of_query_eq_error⟩
  obtain ⟨process, started, rfl, closed⟩ := Executor.exists_process_of_execute ran
  exact ⟨query_of_readable readable ran, ResultSet.size_ofOutput_le _ _,
    ResultSet.size_ofOutput_of_truncated, process, started, ResultSet.records_ofOutput _ _,
    fun whole => ⟨closed whole, ResultSet.records_ofOutput_of_not_truncated whole⟩⟩

/-- A service with room for one record. Its engine counts its runs: it is not there for the first of
them, writes one record in the second, and in all others two. -/
def briefService : Service Nat where
  executor :=
    { engine :=
        { path := "super"
          check := fun _ => .ok ()
          start := fun _ _ n =>
            match n with
            | 0 => .error (.binaryNotFound "super")
            | 1 => .ok (.closing 2 [.output [0x7B, 0x7D, 0x0A]] (.exited 0))
            | n => .ok (.ofEvents (n + 1) [.output [0x7B, 0x7D, 0x0A, 0x7B, 0x7D, 0x0A]]) }
      environment := .empty
      timeout := ⟨1⟩
      maxResults := 1
      defaultRegion := "us-east-1" }
  store := .empty
  today := ⟨2024, 3, 1, by decide⟩

/-- All that its second run writes is read. -/
theorem execute_briefService_one (query locator : String) :
    (briefService.executor.execute query locator 1).1 = .ok ⟨[[]], false, 0⟩ := by
  have fits : Fits 1 [[0x7B, 0x7D]] := (fits_cons_of_some object?_braces).mpr (.nil 0)
  have records : ResultSet.ofOutput [0x7B, 0x7D, 0x0A] 1 = ⟨[[]], false, 0⟩ := by
    rw [ResultSet.ofOutput_of_fits fits]
    show ResultSet.mk (objects [[0x7B, 0x7D]]) false (others [[0x7B, 0x7D]]).length = _
    rw [objects_cons_of_some object?_braces, others_cons_of_some object?_braces]
    rfl
  let p : Process Nat := .closing 2 [.output [0x7B, 0x7D, 0x0A]] (.exited 0)
  have happens : Interleaves 0 (some [[0x7B, 0x7D, 0x0A]]) (some []) (some (.exited 0)) p.events :=
    .output _ (.outputClosed (.diagnosticsClosed (.ended _ .nothing)))
  show (p.records ⟨1⟩ 1).1 = _
  rw [Process.records_eq_follow p 1 Nat.one_pos]
  rw [Process.follow_of_interleaves happens p (.start 1) rfl (.start _ _ _ 1) Nat.one_pos
    (.inl rfl)]
  simp [answerOf, records, Ending.isSuccess]

/-- Of its third run on, the first record is what is read. -/
theorem execute_briefService (query locator : String) (n : Nat) :
    (briefService.executor.execute query locator (n + 2)).1 = .ok ⟨[[]], true, 0⟩ := by
  have first : UpTo 1 [[0x7B, 0x7D]] := UpTo.nil.cons_of_some object?_braces
  have records : ResultSet.ofOutput [0x7B, 0x7D, 0x0A, 0x7B, 0x7D] 1 = ⟨[[]], true, 0⟩ := by
    rw [ResultSet.ofOutput_of_upTo first rfl (List.cons_ne_nil [0x7B, 0x7D] []),
      objects_cons_of_some object?_braces, others_cons_of_some object?_braces]
    rfl
  let event : Event := .output [0x7B, 0x7D, 0x0A, 0x7B, 0x7D, 0x0A]
  have happens : (Process.ofEvents (n + 3) [event]).events = [event] ++ [] :=
    Process.events_ofEvents _ _
  have unclosed : Event.outputClosed ∉ [event] := by simp [event]
  rw [← records]
  exact Process.records_of_truncated (.ofEvents (n + 3) [event]) happens unclosed (by decide) rfl
    (congrArg ResultSet.truncated records)

theorem query_answers_briefly :
    (Locator.parse? "b/k" = none ∧
      briefService.query ⟨"orders", "b/k", 7⟩ 3 =
        (.error "Invalid S3 path: b/k" ⟨"orders"⟩, 3)) ∧
    (Locator.parse? "s3://b/k" = some ⟨"b", "k"⟩ ∧
      briefService.query ⟨"orders", "s3://b/k", 7⟩ 0 =
        (.error "Super binary not found at super" ⟨"orders"⟩, 0)) ∧
    (∃ after, briefService.query ⟨"orders", "s3://b/k", 7⟩ 1 =
        (.success ⟨briefService.queryText ⟨"orders", "s3://b/k", 7⟩, [[]], 1, false⟩, after)) ∧
    ∃ after, briefService.query ⟨"orders", "s3://b/k", 7⟩ 3 =
        (.success ⟨briefService.queryText ⟨"orders", "s3://b/k", 7⟩, [[]], 1, true⟩, after) := by
  have unreadable : Locator.parse? "b/k" = none := rfl
  have readable : Locator.parse? "s3://b/k" = some ⟨"b", "k"⟩ := rfl
  let text := briefService.queryText ⟨"orders", "s3://b/k", 7⟩
  obtain ⟨failed, -⟩ := (query_answers briefService ⟨"orders", "s3://b/k", 7⟩ 0).2
  obtain ⟨-, whole, -⟩ := (query_answers briefService ⟨"orders", "s3://b/k", 7⟩ 1).2
  obtain ⟨-, cut, -⟩ := (query_answers briefService ⟨"orders", "s3://b/k", 7⟩ 3).2
  have second := execute_briefService_one text "s3://b/k"
  have fourth := execute_briefService text "s3://b/k" 1
  exact ⟨⟨unreadable, (query_answers briefService ⟨"orders", "b/k", 7⟩ 3).1 unreadable⟩,
    ⟨readable, failed _ _ _ readable rfl⟩, ⟨_, (whole _ _ _ readable (Prod.ext second rfl)).1⟩,
    _, (cut _ _ _ readable (Prod.ext fourth rfl)).1⟩

end Service

end Enquiry

import Enquiry.Proofs.Record.Survey
import Enquiry.Proofs.Record.Writing
import Enquiry.Proofs.Service.Answer

/-!
# Explorations

A payload shows the first records of a sample and describes the fields of the whole sample, and
the two are cut apart: the preview by `Service.maxPreview`, the analysis by `sampledRecords`.  They
agree because an analysis looks at no record behind its first `sampledRecords`, so the analysis of
a preview that long is the analysis of the sample (`Analysis.ofRecords_take`).

**The description of an exploration is that of its preview**
(`Service.explore_describes_preview`).
-/

namespace Enquiry

open Json

namespace Service

variable {σ : Type} {s : Service σ} {r : ExploreRequest} {before after : σ} {p : ExplorePayload}

/-- What an exploration says of a sample. -/
def payloadOf (locator : String) (sample : ResultSet) : ExplorePayload :=
  ⟨locator, (Analysis.ofRecords sample.records).schema, sample.records.take maxPreview,
    (Analysis.ofRecords sample.records).quality, sample.size⟩

theorem explore_eq (s : Service σ) (r : ExploreRequest) (before : σ) :
    s.explore r before =
      (.ofExcept ⟨r.locator⟩ (s.runExplore r before).1, (s.runExplore r before).2) := rfl

theorem runExplore_of_unreadable (unreadable : Locator.parse? r.locator = none) (before : σ) :
    s.runExplore r before = (.error (.invalidLocator r.locator), before) := by
  rw [runExplore, Locator.read, unreadable]
  rfl

theorem runExplore_of_readable {l : Locator} {outcome : Except Failure ResultSet}
    (readable : Locator.parse? r.locator = some l)
    (ran : s.executor.execute (Query.listing r.locator r.sampleSize) r.locator before =
      (outcome, after)) :
    s.runExplore r before = (outcome.map (payloadOf r.locator), after) := by
  have read : Locator.read r.locator = .ok l := by rw [Locator.read, readable]
  simp only [runExplore, read, bind, StateT.bind, ran]
  rfl

/-- An exploration succeeds with what it says of the sample that the engine gives. -/
theorem explore_eq_success_iff :
    s.explore r before = (.success p, after) ↔
      (Locator.parse? r.locator).isSome = true ∧ ∃ sample,
        s.executor.execute (Query.listing r.locator r.sampleSize) r.locator before =
            (.ok sample, after) ∧
          p = payloadOf r.locator sample := by
  rw [explore_eq]
  cases readable : Locator.parse? r.locator with
  | none =>
      rw [runExplore_of_unreadable readable]
      exact ⟨nofun, fun ⟨found, _⟩ => nomatch found⟩
  | some l =>
      obtain ⟨outcome, left, ran⟩ : ∃ outcome left,
          s.executor.execute (Query.listing r.locator r.sampleSize) r.locator before =
            (outcome, left) := ⟨_, _, rfl⟩
      rw [runExplore_of_readable readable ran, ran]
      cases outcome with
      | error failure => exact ⟨nofun, fun ⟨_, _, same, _⟩ => nomatch same⟩
      | ok sample =>
          constructor
          · rintro ⟨⟩
            exact ⟨rfl, sample, rfl, rfl⟩
          · rintro ⟨-, _, ⟨⟩, rfl⟩
            rfl

/-- The preview of a payload has the analysis of the sample. -/
theorem analysis_preview (locator : String) (sample : ResultSet) :
    Analysis.ofRecords (payloadOf locator sample).sampleRecords =
      ⟨(payloadOf locator sample).schema, (payloadOf locator sample).quality⟩ :=
  Analysis.ofRecords_take (by decide : sampledRecords ≤ maxPreview) sample.records

/-- A preview is no longer than what an analysis looks at. -/
theorem take_sampleRecords (locator : String) (sample : ResultSet) :
    (payloadOf locator sample).sampleRecords.take sampledRecords =
      (payloadOf locator sample).sampleRecords :=
  List.take_take

/-- The fields of a payload are those of its preview. -/
theorem mem_keys_payloadOf (locator : String) (sample : ResultSet) (field : String) :
    field ∈ (payloadOf locator sample).schema.keys ↔
      ∃ record ∈ (payloadOf locator sample).sampleRecords, field ∈ Table.fieldsOf record := by
  have schema := congrArg Analysis.schema (analysis_preview locator sample)
  simp only at schema
  rw [← schema, Analysis.mem_keys_ofRecords, take_sampleRecords]

/-- A payload describes its preview. -/
theorem describes_payloadOf (locator : String) {sample : ResultSet}
    (distinct : ∀ record ∈ sample.records, (record.map Prod.fst).Nodup)
    (some : (payloadOf locator sample).sampleRecords ≠ []) :
    Analysis.Describes ⟨(payloadOf locator sample).schema, (payloadOf locator sample).quality⟩
      (payloadOf locator sample).sampleRecords := by
  have describes := Analysis.describes_ofRecords some fun record mem =>
    distinct record (List.mem_of_mem_take mem)
  rw [analysis_preview] at describes
  exact take_sampleRecords locator sample ▸ describes

/-- A payload is known by its count, its preview, and the analysis of its preview. -/
theorem eq_payloadOf_iff {locator : String} {sample : ResultSet} :
    p = payloadOf locator sample ↔
      p.locator = locator ∧ p.totalSampled = sample.records.length ∧
        p.sampleRecords = sample.records.take (min 10 p.totalSampled) ∧
        Analysis.ofRecords p.sampleRecords = ⟨p.schema, p.quality⟩ := by
  have cut : sample.records.take (min 10 sample.records.length) =
      sample.records.take maxPreview := by
    rw [← List.take_take, List.take_length]
    rfl
  constructor
  · rintro rfl
    exact ⟨rfl, rfl, cut.symm, analysis_preview locator sample⟩
  · rintro ⟨named, counted, shown, described⟩
    rw [counted, cut] at shown
    have whole := (congrArg Analysis.ofRecords shown).symm.trans described
    have analysed := (analysis_preview locator sample).symm.trans whole
    obtain ⟨schema, quality⟩ := Analysis.mk.inj analysed
    obtain ⟨l, s, rs, q, n⟩ := p
    simp only at named counted shown schema quality
    rw [payloadOf, ExplorePayload.mk.injEq]
    exact ⟨named, schema.symm, shown, quality.symm, counted⟩

/-- **The description of an exploration is that of its preview.**  An exploration succeeds exactly
when its locator can be read and the engine gives a sample, and its payload is known by this: it
counts the sample, shows the first ten records of it or all when they are fewer, and its schema and
its quality are the analysis of the records that it shows.  So it has the fields of these records
and no others, and says of each what its values in them are; there are at most as many records in
the sample as the executor allows; and they are the first objects that the lines of the engine's
output hold. -/
theorem explore_describes_preview (s : Service σ) (r : ExploreRequest) (before after : σ)
    (p : ExplorePayload) :
    (s.explore r before = (.success p, after) ↔
      (Locator.parse? r.locator).isSome = true ∧ ∃ sample,
        s.executor.execute (Query.listing r.locator r.sampleSize) r.locator before =
            (.ok sample, after) ∧
          p.locator = r.locator ∧ p.totalSampled = sample.records.length ∧
          p.sampleRecords = sample.records.take (min 10 p.totalSampled) ∧
          Analysis.ofRecords p.sampleRecords = ⟨p.schema, p.quality⟩) ∧
    (s.explore r before = (.success p, after) →
      p.totalSampled ≤ s.executor.maxResults ∧
        (∀ field, field ∈ p.schema.keys ↔
          ∃ record ∈ p.sampleRecords, field ∈ Table.fieldsOf record) ∧
        p.quality.fieldNames = p.schema.keys ∧
        (p.sampleRecords ≠ [] → Analysis.Describes ⟨p.schema, p.quality⟩ p.sampleRecords) ∧
        ∃ process,
          s.executor.engine.start
              (Executor.queryArguments (Query.listing r.locator r.sampleSize) r.locator)
              s.executor.queryEnvironment before = .ok process ∧
            p.totalSampled =
              min s.executor.maxResults (objects (filledLines (outputBy process.events))).length ∧
            p.sampleRecords =
              (objects (filledLines (outputBy process.events))).take (min 10 p.totalSampled)) := by
  refine ⟨?_, fun answered => ?_⟩
  · simp only [← eq_payloadOf_iff]
    exact explore_eq_success_iff
  · obtain ⟨-, sample, ran, rfl⟩ := explore_eq_success_iff.mp answered
    obtain ⟨-, counted, shown, -⟩ := eq_payloadOf_iff.mp (rfl : _ = payloadOf _ sample)
    obtain ⟨process, started, same, -⟩ := Executor.exists_process_of_execute ran
    have capped : sample.records =
        (objects (filledLines (outputBy process.events))).take s.executor.maxResults := by
      rw [same]
      exact ResultSet.records_ofOutput _ _
    have fewer : sample.records.length ≤ s.executor.maxResults := by
      rw [capped]
      exact List.length_take_le _ _
    have distinct : ∀ record ∈ sample.records, (record.map Prod.fst).Nodup := fun record mem =>
      ResultSet.distinct_of_mem_records (same ▸ mem)
    refine ⟨counted ▸ fewer, mem_keys_payloadOf r.locator sample, ?_,
      describes_payloadOf r.locator distinct, process, started, ?_, ?_⟩
    · exact Analysis.fieldNames_quality_ofRecords sample.records
    · rw [counted, capped, List.length_take]
    · rw [shown, capped, List.take_take, counted]
      congr 1
      omega

/-- Eleven records, of which the last is the first with a field `late`. -/
def lateRecords : List Record :=
  List.replicate 10 [("a", .null)] ++ [[("late", .string "\n"), ("a", .bool true)]]

/-- A service with room for eleven records, whose engine writes these and more. -/
def longService : Service Unit where
  executor :=
    { engine :=
        { path := "super"
          check := fun _ => .ok ()
          start := fun _ _ _ =>
            .ok (.ofEvents () [.output (outputOf lateRecords ++ [0x78] ++ lineFeed :: [])]) }
      environment := .empty
      timeout := ⟨1⟩
      maxResults := 11
      defaultRegion := "us-east-1" }
  store := .empty
  today := .epoch

theorem execute_longService (query locator : String) :
    (longService.executor.execute query locator ()).1 = .ok ⟨lateRecords, true, 0⟩ := by
  have plain : ∀ record ∈ lateRecords, (Value.object record).Plain maxLevels := by
    intro record mem
    rcases List.mem_append.mp mem with early | late
    · obtain ⟨-, rfl⟩ := List.mem_replicate.mp early
      refine .object (by decide) ?_
      simp only [List.forall_mem_cons]
      exact ⟨.null _, nofun⟩
    · obtain rfl := List.mem_singleton.mp late
      refine .object (by decide) ?_
      simp only [List.forall_mem_cons]
      exact ⟨.string _ _, .bool _ _, nofun⟩
  have more : filledLines [0x78] ≠ [] := by decide
  have records : ResultSet.ofOutput (outputOf lateRecords ++ [0x78]) 11 = ⟨lateRecords, true, 0⟩ :=
    ResultSet.ofOutput_outputOf_append plain more
  let event : Event := .output (outputOf lateRecords ++ [0x78] ++ lineFeed :: [])
  have happens : (Process.ofEvents () [event]).events = [event] ++ [] :=
    Process.events_ofEvents _ _
  have unclosed : Event.outputClosed ∉ [event] := by simp [event]
  have writes : written [event] = outputOf lateRecords ++ [0x78] ++ lineFeed :: [] := by
    simp [event, written]
  rw [← records]
  exact Process.records_of_truncated (.ofEvents () [event]) happens unclosed (by decide) writes
    (congrArg ResultSet.truncated records)

/-- Of eleven records ten are shown, and the field of the eleventh is not described. -/
theorem explore_describes_preview_late :
    let p := payloadOf "s3://b/k" ⟨lateRecords, true, 0⟩
    longService.explore ⟨"s3://b/k", 40⟩ () = (.success p, ()) ∧
      p.sampleRecords = List.replicate 10 [("a", .null)] ∧ p.totalSampled = 11 ∧
      11 ≤ longService.executor.maxResults ∧ "late" ∉ p.schema.keys := by
  intro p
  have readable : (Locator.parse? "s3://b/k").isSome = true := by decide
  have ran := execute_longService (Query.listing "s3://b/k" 40) "s3://b/k"
  obtain ⟨succeeds, described⟩ := explore_describes_preview longService ⟨"s3://b/k", 40⟩ () () p
  have answered := succeeds.mpr
    ⟨readable, ⟨lateRecords, true, 0⟩, Prod.ext ran rfl, rfl, rfl, rfl, analysis_preview _ _⟩
  obtain ⟨capped, fields, -⟩ := described answered
  have shown : p.sampleRecords = List.replicate 10 [("a", .null)] := rfl
  refine ⟨answered, shown, rfl, capped, fun mem => ?_⟩
  obtain ⟨record, inside, named⟩ := (fields "late").mp mem
  rw [shown] at inside
  obtain rfl := List.eq_of_mem_replicate inside
  simp [Table.fieldsOf] at named

end Service

end Enquiry

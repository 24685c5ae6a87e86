import Enquiry.Proofs.Record.Truncation
import Enquiry.Proofs.SortedMap
import Enquiry.Record.Schema
import Enquiry.Record.Table

/-!
# What an analysis says of its records

A field is known by its values, in the order of the records that have it (`valuesOf`).
`FieldSchema.Describes` says what its schema has to be, and `Analysis.Describes` says it of all
fields together; no two analyses describe the same records (`Analysis.Describes.unique`).

A survey sees the values of one field without regard to the other fields
(`Survey.get?_ofRecords`), so what it has seen of a field is a fold over the values of that field,
and the fold is counted and sampled as the description wants it (`foldl_see`).  **An analysis is
the description of its first ten records** (`Analysis.eq_iff_describes`).  The names of a record
have to differ for that, and they do in all that is read (`Analysis.describes_ofOutput`,
`Analysis.describes_ofBytes?`).

For its fields alone the names of a record need not differ: they are the fields of the records that
it looks at, whatever the records are (`Analysis.mem_keys_ofRecords`).
-/

namespace Enquiry

open Number Json

/-! ### Descriptions -/

/-- The values of a field in the records that have it, in order. -/
def valuesOf (field : String) (records : List Record) : List Value :=
  records.filterMap (·.lookup field)

/-- The values that are not null. -/
def present (values : List Value) : List Value := values.filter (!·.isNull)

/-- What the schema of a field with some values says: the type of the first of them, the first
samples of those that are not null, each once, and the share of these. -/
structure FieldSchema.Describes (schema : FieldSchema) (values : List Value) : Prop where
  type : values.head?.map FieldType.ofValue = some schema.type
  samples : schema.samples = ((present values).map sampleText).eraseDups.take 3
  completeness : Binary64.ofRatio? (present values).length values.length = some schema.completeness
  /-- The share is one of something. -/
  pos : 1 ≤ values.length
  /-- The share is not above one. -/
  le : (present values).length ≤ values.length

/-- The schema has the fields of the records and says of each what its values are, and the quality
repeats the schema. -/
structure Analysis.Describes (analysis : Analysis) (records : List Record) : Prop where
  fields : ∀ field, field ∈ analysis.schema.keys ↔
    ∃ record ∈ records, field ∈ Table.fieldsOf record
  schema : ∀ field schema, analysis.schema.get? field = some schema →
    schema.Describes (valuesOf field records)
  quality : analysis.quality =
    .fields (analysis.schema.mapValues fun schema => ⟨schema.completeness, schema.samples⟩)

theorem FieldSchema.Describes.unique {schema schema' : FieldSchema} {values : List Value}
    (h : schema.Describes values) (h' : schema'.Describes values) : schema = schema' := by
  have type : schema.type = schema'.type := Option.some.inj (h.type.symm.trans h'.type)
  have samples : schema.samples = schema'.samples := h.samples.trans h'.samples.symm
  have completeness : schema.completeness = schema'.completeness :=
    Option.some.inj (h.completeness.symm.trans h'.completeness)
  cases schema
  cases schema'
  simp_all

/-- No two analyses describe the same records. -/
theorem Analysis.Describes.unique {a b : Analysis} {records : List Record}
    (ha : a.Describes records) (hb : b.Describes records) : a = b := by
  have schemas : a.schema = b.schema := by
    refine SortedMap.ext_get? fun field => ?_
    have same : field ∈ a.schema.keys ↔ field ∈ b.schema.keys :=
      (ha.fields field).trans (hb.fields field).symm
    rw [SortedMap.mem_keys_iff, SortedMap.mem_keys_iff] at same
    cases foundA : a.schema.get? field with
    | none =>
        have missing : ¬ (b.schema.get? field).isSome := fun found => by
          simpa [foundA] using same.mpr found
        exact (Option.not_isSome_iff_eq_none.mp missing).symm
    | some schemaA =>
        cases foundB : b.schema.get? field with
        | none => simp [foundA, foundB] at same
        | some schemaB =>
            exact congrArg some ((ha.schema field schemaA foundA).unique
              (hb.schema field schemaB foundB))
  have qualities : a.quality = b.quality := by rw [ha.quality, hb.quality, schemas]
  cases a
  cases b
  simp_all

/-! ### Samples -/

theorem eraseDups_concat (seen : List String) (text : String) :
    (seen ++ [text]).eraseDups =
      if text ∈ seen then seen.eraseDups else seen.eraseDups ++ [text] := by
  rw [List.eraseDups_append]
  split
  next old => simp [List.removeAll, old]
  next new => simp [List.removeAll, new, List.eraseDups_cons]

/-- Another sample is kept when it is among the first that differ. -/
theorem addSample_take (seen : List String) (text : String) :
    FieldStats.addSample (seen.eraseDups.take maxSamples) text =
      (seen ++ [text]).eraseDups.take maxSamples := by
  rw [FieldStats.addSample, eraseDups_concat]
  rcases Nat.lt_or_ge seen.eraseDups.length maxSamples with few | enough
  · have all : seen.eraseDups.take maxSamples = seen.eraseDups :=
      List.take_of_length_le (Nat.le_of_lt few)
    rw [all]
    by_cases old : text ∈ seen
    · rw [if_pos old, if_neg fun added => added.2 (List.mem_eraseDups.mpr old), all]
    · rw [if_neg old, if_pos ⟨few, mt List.mem_eraseDups.mp old⟩, List.take_of_length_le]
      rw [List.length_append]
      exact few
  · have full : ¬ (seen.eraseDups.take maxSamples).length < maxSamples := by
      rw [List.length_take]
      omega
    rw [if_neg fun added => full added.1]
    split
    · rfl
    · rw [List.take_append_of_le_length enough]

theorem foldl_addSample (seen texts : List String) :
    texts.foldl FieldStats.addSample (seen.eraseDups.take maxSamples) =
      (seen ++ texts).eraseDups.take maxSamples := by
  induction texts generalizing seen with
  | nil => rw [List.foldl_nil, List.append_nil]
  | cons text texts ih =>
      rw [List.foldl_cons, addSample_take, ih, List.append_assoc, List.singleton_append]

/-! ### The values of one field -/

/-- Sees one more value of a field. -/
def FieldStats.see (stats? : Option FieldStats) (v : Value) : Option FieldStats :=
  some ((stats?.getD (.start v)).observe v)

theorem FieldStats.foldl_see_some (stats : FieldStats) (values : List Value) :
    values.foldl FieldStats.see (some stats) =
      some ⟨stats.type, ((present values).map sampleText).foldl addSample stats.samples,
        stats.nulls + values.countP Value.isNull, stats.total + values.length⟩ := by
  induction values generalizing stats with
  | nil => rfl
  | cons v values ih =>
      have total : stats.total + 1 + values.length = stats.total + (values.length + 1) := by omega
      have nulls : stats.nulls + 1 + values.countP Value.isNull =
          stats.nulls + (values.countP Value.isNull + 1) := by omega
      rw [List.foldl_cons, see, Option.getD_some, ih, observe]
      cases null : v.isNull <;> simp [present, null, total, nulls]

/-- **All that is seen of a field**: the type of its first value, its first samples, how many of
its values are null, and how many there are. -/
theorem FieldStats.foldl_see (first : Value) (rest : List Value) :
    (first :: rest).foldl FieldStats.see none =
      some ⟨.ofValue first, ((present (first :: rest)).map sampleText).eraseDups.take maxSamples,
        (first :: rest).countP Value.isNull, (first :: rest).length⟩ := by
  have begun : (first :: rest).foldl FieldStats.see none =
      (first :: rest).foldl FieldStats.see (some (start first)) := rfl
  have sampled := foldl_addSample [] ((present (first :: rest)).map sampleText)
  rw [begun, foldl_see_some]
  simp only [start, Nat.zero_add]
  rw [← List.nil_append ((present (first :: rest)).map sampleText), ← sampled]
  rfl

/-- A share of something has an exponent far below the greatest. -/
theorem exponentFor_le {num den : Nat} (h : num ≤ den) :
    Binary64.exponentFor num den ≤ -52 := by
  have logs : num.log2 ≤ den.log2 := by
    rcases Nat.eq_zero_or_pos num with rfl | pos
    · exact Nat.zero_le _
    · have below : 2 ^ num.log2 ≤ num := Nat.log2_self_le (by omega)
      exact (Nat.le_log2 (by omega)).mpr (Nat.le_trans below h)
  unfold Binary64.exponentFor Binary64.minExponent
  simp only
  split <;> omega

/-- A share of something is a number of double precision. -/
theorem exists_ofRatio?_of_le {num den : Nat} (h : num ≤ den) :
    ∃ x, Binary64.ofRatio? num den = some x := by
  have exponent := exponentFor_le h
  have small : ¬ Binary64.maxExponent < Binary64.exponentFor num den ∧
      ¬ Binary64.maxExponent < Binary64.exponentFor num den + 1 := by
    unfold Binary64.maxExponent
    omega
  rw [← Option.isSome_iff_exists]
  unfold Binary64.ofRatio?
  split
  · rfl
  · simp only
    -- the significand is rounded up to the next power of two, or it is not
    split <;> simp only [small.1, small.2, if_false] <;> split <;> rfl

theorem length_present_add_countP (values : List Value) :
    (present values).length + values.countP Value.isNull = values.length := by
  rw [present, ← List.countP_eq_length_filter, Nat.add_comm,
    List.length_eq_countP_add_countP Value.isNull]
  simp

/-- What is seen of a field describes its values. -/
theorem FieldStats.describes_of_foldl_see {values : List Value} {stats : FieldStats}
    (h : values.foldl FieldStats.see none = some stats) : stats.schema.Describes values := by
  cases values with
  | nil => cases h
  | cons first rest =>
      rw [foldl_see] at h
      obtain rfl := Option.some.inj h
      have counted := length_present_add_countP (first :: rest)
      have pos : 1 ≤ (first :: rest).length := by simp
      have share : (first :: rest).length - (first :: rest).countP Value.isNull =
          (present (first :: rest)).length := by omega
      obtain ⟨x, single⟩ := exists_ofRatio?_of_le (Nat.le.intro counted)
      refine ⟨rfl, rfl, ?_, pos, Nat.le.intro counted⟩
      simp only [schema, completeness]
      rw [share, Nat.max_eq_left pos, single]
      rfl

/-! ### Surveys -/

theorem Survey.get?_observe (survey : Survey) (member : String × Value) (field : String) :
    SortedMap.get? (Survey.observe survey member) field =
      if field = member.1 then FieldStats.see (survey.get? field) member.2
      else survey.get? field := by
  rw [Survey.observe, SortedMap.get?_modify]
  split
  next same => rw [same, FieldStats.see]
  next => rfl

/-- A record shows at most one value of a field. -/
theorem Survey.get?_foldl_observe {record : Record} (distinct : (record.map Prod.fst).Nodup)
    (survey : Survey) (field : String) :
    SortedMap.get? (record.foldl Survey.observe survey) field =
      (record.lookup field).elim (survey.get? field) (FieldStats.see (survey.get? field)) := by
  induction record generalizing survey with
  | nil => rfl
  | cons member record ih =>
      obtain ⟨name, v⟩ := member
      obtain ⟨new, distinct⟩ := List.nodup_cons.mp distinct
      rw [List.foldl_cons, ih distinct, get?_observe, lookup_cons_eq_ite]
      by_cases here : field = name
      · subst here
        rw [lookup_eq_none_iff_not_mem.mpr new, if_pos rfl, if_pos rfl]
        rfl
      · rw [if_neg here, if_neg here]

/-- **A survey sees the values of a field** and nothing else of it. -/
theorem Survey.get?_ofRecords {records : List Record}
    (distinct : ∀ record ∈ records, (record.map Prod.fst).Nodup) (field : String) :
    SortedMap.get? (Survey.ofRecords records) field =
      (valuesOf field records).foldl FieldStats.see none := by
  have onward : ∀ survey : Survey,
      SortedMap.get? (records.foldl (fun survey record => record.foldl Survey.observe survey)
        survey) field = (valuesOf field records).foldl FieldStats.see (survey.get? field) := by
    induction records with
    | nil => intro survey; rfl
    | cons record records ih =>
        intro survey
        obtain ⟨here, later⟩ := List.forall_mem_cons.mp distinct
        rw [List.foldl_cons, ih later, get?_foldl_observe here]
        cases found : record.lookup field <;> simp [valuesOf, found]
  exact onward SortedMap.empty

/-- A field has values in some records exactly when it is a field of one of them. -/
theorem valuesOf_ne_nil_iff {field : String} {records : List Record} :
    valuesOf field records ≠ [] ↔ ∃ record ∈ records, field ∈ Table.fieldsOf record := by
  have here : ∀ record : Record, (record.lookup field).isSome ↔ field ∈ Table.fieldsOf record := by
    intro record
    simp only [List.lookup_isSome_iff, beq_iff_eq, Table.fieldsOf, List.mem_map]
    exact ⟨fun ⟨m, mem, same⟩ => ⟨m, mem, same.symm⟩, fun ⟨m, mem, same⟩ => ⟨m, mem, same.symm⟩⟩
  simp only [valuesOf, ne_eq, List.filterMap_eq_nil_iff, ← here, Option.isSome_iff_ne_none]
  simp

/-! ### Analyses -/

theorem Analysis.describes_ofSurvey {records : List Record}
    (distinct : ∀ record ∈ records, (record.map Prod.fst).Nodup) :
    (ofSurvey (Survey.ofRecords records)).Describes records := by
  have seen : ∀ field, SortedMap.get? (ofSurvey (Survey.ofRecords records)).schema field =
      ((valuesOf field records).foldl FieldStats.see none).map FieldStats.schema := fun field => by
    rw [ofSurvey, SortedMap.get?_mapValues, Survey.get?_ofRecords distinct]
  refine ⟨fun field => ?_, fun field schema found => ?_, ?_⟩
  · rw [SortedMap.mem_keys_iff, seen, ← valuesOf_ne_nil_iff]
    cases valuesOf field records with
    | nil => simp
    | cons first rest => simp [FieldStats.foldl_see, -List.foldl_cons]
  · rw [seen] at found
    obtain ⟨stats, folded, rfl⟩ := Option.map_eq_some_iff.mp found
    exact FieldStats.describes_of_foldl_see folded
  · simp only [ofSurvey, SortedMap.mapValues, List.map_map]
    rfl

theorem Analysis.Describes.eq_iff {a b : Analysis} {records : List Record}
    (h : a.Describes records) : a = b ↔ b.Describes records :=
  ⟨fun same => same ▸ h, h.unique⟩

theorem Analysis.ofRecords_of_ne_nil {records : List Record} (h : records ≠ []) :
    ofRecords records = ofSurvey (Survey.ofRecords (records.take 10)) := by
  cases records with
  | nil => exact absurd rfl h
  | cons => rfl

theorem Analysis.ofValue_array_of_ne_nil {items : List Value} (h : items ≠ []) :
    ofValue (.array items) =
      ofSurvey (Survey.ofRecords ((items.take 10).filterMap (·.members?))) := by
  cases items with
  | nil => exact absurd rfl h
  | cons => rfl

theorem mem_of_mem_filterMap_members? {items : List Value} {record : Record}
    (h : record ∈ items.filterMap (·.members?)) : .object record ∈ items := by
  obtain ⟨item, mem, members⟩ := List.mem_filterMap.mp h
  cases item with
  | object => exact Option.some.inj members ▸ mem
  | null | bool | number | string | array => cases members

theorem Analysis.ofValue_array_objects (records : List Record) :
    ofValue (.array (records.map .object)) = ofRecords records := by
  cases records with
  | nil => rfl
  | cons record records =>
      have objects : (((record :: records).map Value.object).take 10).filterMap (·.members?) =
          (record :: records).take 10 := by
        rw [← List.map_take, List.filterMap_map]
        exact List.filterMap_some
      rw [ofValue_array_of_ne_nil (by simp), ofRecords_of_ne_nil (by simp), objects]

theorem Analysis.describes_ofRecords {records : List Record} (some : records ≠ [])
    (distinct : ∀ record ∈ records, (record.map Prod.fst).Nodup) :
    (ofRecords records).Describes (records.take 10) := by
  rw [ofRecords_of_ne_nil some]
  exact describes_ofSurvey fun record mem => distinct record (List.mem_of_mem_take mem)

theorem Analysis.describes_ofValue_array {items : List Value} (some : items ≠ [])
    (distinct : ∀ record, .object record ∈ items → (record.map Prod.fst).Nodup) :
    (ofValue (.array items)).Describes ((items.take 10).filterMap (·.members?)) := by
  rw [ofValue_array_of_ne_nil some]
  refine describes_ofSurvey fun record mem => distinct record ?_
  exact List.mem_of_mem_take (mem_of_mem_filterMap_members? mem)

/-- **An analysis is the description of its first ten records**, and of no records there is none.
Of the elements of an array the objects among the first ten are described, so that an array of
objects has the analysis of its records; any other value has no analysis. -/
theorem Analysis.eq_iff_describes :
    ofRecords [] = ⟨.empty, .unavailable "No valid sample data provided"⟩ ∧
    (∀ records, records ≠ [] → (∀ record ∈ records, (record.map Prod.fst).Nodup) →
      ∀ analysis, ofRecords records = analysis ↔ analysis.Describes (records.take 10)) ∧
    (∀ items, items ≠ [] → (∀ record, .object record ∈ items → (record.map Prod.fst).Nodup) →
      ∀ analysis, ofValue (.array items) = analysis ↔
        analysis.Describes ((items.take 10).filterMap (·.members?))) ∧
    (∀ records, ofValue (.array (records.map .object)) = ofRecords records) ∧
    (∀ value, (∀ item items, value ≠ .array (item :: items)) →
      ofValue value = ⟨.empty, .unavailable "No valid sample data provided"⟩) := by
  refine ⟨rfl, fun records some distinct _ => (describes_ofRecords some distinct).eq_iff,
    fun items some distinct _ => (describes_ofValue_array some distinct).eq_iff,
    ofValue_array_objects, fun value other => ?_⟩
  cases value with
  | array items =>
      cases items with
      | nil => rfl
      | cons item items => exact absurd rfl (other item items)
  | null | bool | number | string | object => rfl

/-- A field that is `null` at first, one that is always there, and one that comes late. -/
def unevenRecords : List Record :=
  [[("a", .null), ("b", .nat 1)], [("b", .nat 1), ("a", .string "x")],
    [("a", .string "x"), ("b", .nat 2), ("c", .bool true)]]

theorem Analysis.eq_iff_describes_uneven :
    (unevenRecords ≠ [] ∧ (∀ record ∈ unevenRecords, (record.map Prod.fst).Nodup) ∧
      (ofRecords unevenRecords).Describes (unevenRecords.take 10)) ∧
    ([Value.null, .object []] ≠ [] ∧
      (∀ record, .object record ∈ [Value.null, .object []] → (record.map Prod.fst).Nodup) ∧
      (ofValue (.array [.null, .object []])).Describes [[]]) ∧
    ((∀ item items, Value.object [] ≠ .array (item :: items)) ∧
      ofValue (.object []) = ⟨.empty, .unavailable "No valid sample data provided"⟩) := by
  have distinct : ∀ record ∈ unevenRecords, (record.map Prod.fst).Nodup := by
    simp [unevenRecords]
  have empty : ∀ record, .object record ∈ [Value.null, .object []] →
      (record.map Prod.fst).Nodup := by
    simp
  have other : ∀ item items, Value.object [] ≠ .array (item :: items) := by simp
  refine ⟨⟨by simp [unevenRecords], distinct, ?_⟩, ⟨by simp, empty, ?_⟩, other, ?_⟩
  · exact (eq_iff_describes.2.1 unevenRecords (by simp [unevenRecords]) distinct _).mp rfl
  · exact (eq_iff_describes.2.2.1 [.null, .object []] (by simp) empty _).mp rfl
  · exact eq_iff_describes.2.2.2.2 (.object []) other

/-- The first value of a field gives its type, also when it is `null`. -/
example : ((Analysis.ofRecords unevenRecords).schema.get? "a").map (fun s => (s.type, s.samples)) =
    some (.null, ["x"]) := by decide +kernel

/-! ### What is read

The names of an object differ once it is read (`Value.WellFormed`), so that nothing has to be
assumed of records that come from an engine, or of a sample that comes as a text.
-/

/-- **The records of an output are described by their analysis**, whatever an engine writes. -/
theorem Analysis.describes_ofOutput {output : List UInt8} {cap : Nat}
    (some : (ResultSet.ofOutput output cap).records ≠ []) :
    (ofRecords (ResultSet.ofOutput output cap).records).Describes
      ((ResultSet.ofOutput output cap).records.take 10) :=
  describes_ofRecords some fun _ mem => ResultSet.distinct_of_mem_records mem

/-- **A sample that is read is described by its analysis**, whatever the text. -/
theorem Analysis.describes_ofBytes? {bytes : List UInt8} {items : List Value}
    (read : Value.ofBytes? bytes = some (.array items)) (some : items ≠ []) :
    (ofValue (.array items)).Describes ((items.take 10).filterMap (·.members?)) :=
  describes_ofValue_array some fun _ mem =>
    ((Value.wellFormed_of_ofBytes? read).of_mem mem).distinct

/-! ### The fields of an analysis -/

theorem Survey.mem_keys_observe (survey : Survey) (member : String × Value) (field : String) :
    field ∈ SortedMap.keys (Survey.observe survey member) ↔
      field = member.1 ∨ field ∈ survey.keys := by
  rw [SortedMap.mem_keys_iff, SortedMap.mem_keys_iff, get?_observe]
  by_cases here : field = member.1
  · simp [here, FieldStats.see]
  · simp [here]

theorem Survey.mem_keys_foldl_observe (survey : Survey) (record : Record) (field : String) :
    field ∈ SortedMap.keys (record.foldl Survey.observe survey) ↔
      field ∈ Table.fieldsOf record ∨ field ∈ survey.keys := by
  induction record generalizing survey with
  | nil => simp [Table.fieldsOf]
  | cons member record ih =>
      rw [List.foldl_cons, ih, mem_keys_observe]
      simp only [Table.fieldsOf, List.map_cons, List.mem_cons]
      exact or_left_comm.trans or_assoc.symm

/-- **The fields of a survey** are those of its records. -/
theorem Survey.mem_keys_ofRecords (records : List Record) (field : String) :
    field ∈ SortedMap.keys (ofRecords records) ↔
      ∃ record ∈ records, field ∈ Table.fieldsOf record := by
  have onward : ∀ survey : Survey,
      field ∈ SortedMap.keys
          (records.foldl (fun survey record => record.foldl Survey.observe survey) survey) ↔
        (∃ record ∈ records, field ∈ Table.fieldsOf record) ∨ field ∈ survey.keys := by
    induction records with
    | nil => intro survey; simp
    | cons record records ih =>
        intro survey
        rw [List.foldl_cons, ih, mem_keys_foldl_observe]
        simp only [List.mem_cons, exists_eq_or_imp]
        exact or_left_comm.trans or_assoc.symm
  have none : field ∉ SortedMap.keys (SortedMap.empty : Survey) := List.not_mem_nil
  exact (onward SortedMap.empty).trans (or_iff_left none)

/-- The fields that a quality is known of. -/
def Quality.fieldNames : Quality → List String
  | .unavailable _ => []
  | .fields qualities => qualities.keys

namespace Analysis

/-- Schema and quality are of the same fields. -/
theorem fieldNames_quality_ofRecords (records : List Record) :
    (ofRecords records).quality.fieldNames = (ofRecords records).schema.keys := by
  cases records with
  | nil => rfl
  | cons record records =>
      rw [ofRecords_of_ne_nil (by simp), ofSurvey, Quality.fieldNames, SortedMap.keys_mapValues,
        SortedMap.keys_mapValues]

/-- **The fields of an analysis** are those of the records that it looks at. -/
theorem mem_keys_ofRecords (records : List Record) (field : String) :
    field ∈ (ofRecords records).schema.keys ↔
      ∃ record ∈ records.take sampledRecords, field ∈ Table.fieldsOf record := by
  cases records with
  | nil => simp [ofRecords, unavailable, SortedMap.keys, SortedMap.empty]
  | cons record records =>
      rw [ofRecords_of_ne_nil (by simp), ofSurvey, SortedMap.keys_mapValues]
      exact Survey.mem_keys_ofRecords _ field

/-- **What is behind the first records does not count.** -/
theorem ofRecords_take {n : Nat} (enough : sampledRecords ≤ n) (records : List Record) :
    ofRecords (records.take n) = ofRecords records := by
  have pos : 0 < n := Nat.lt_of_lt_of_le (by decide) enough
  cases records with
  | nil => rw [List.take_nil]
  | cons record records =>
      have some : (record :: records).take n ≠ [] := by
        rw [ne_eq, List.take_eq_nil_iff]
        simp [Nat.ne_of_gt pos]
      have same : min 10 n = 10 := Nat.min_eq_left enough
      rw [ofRecords_of_ne_nil some, ofRecords_of_ne_nil (by simp), List.take_take, same]

end Analysis

end Enquiry

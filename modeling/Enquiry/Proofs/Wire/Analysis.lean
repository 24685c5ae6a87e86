import Enquiry.Proofs.Record.Survey
import Enquiry.Proofs.Wire.Decoder
import Enquiry.Wire.Record

/-!
# Analyses there and back

A quality is written without a tag, so what it is has to be seen from its form: a reason is an
object with a string under `error`.  A map of fields may have a field of that name, but then an
object is under it, and the map is not taken for a reason (`Quality.unavailableDecoder_fields`).

Everything in an analysis is read as it was written as long as the shares in it are legible
(`Analysis.read?_write`).  They are in the analysis of records, since it looks at no more than ten
of them, so **the analysis of any records is read as it was written**
(`Analysis.read?_write_ofRecords`), that of the records of an output without any condition
(`Analysis.read?_write_ofOutput`).
-/

namespace Enquiry

open Number Json Wire

/-! ### Fields -/

theorem FieldType.ofName?_name (t : FieldType) : ofName? t.name = some t := by
  cases t <;> decide

theorem FieldType.decoder_shape (levels : Nat) (t : FieldType) :
    FieldType.decoder levels (Value.string t.name).shape = some t := by
  have alone : FieldType.decoder levels (Value.string t.name).shape =
      (text levels (Value.string t.name).shape).bind ofName? := by
    cases levels <;> rfl
  rw [alone, text_shape, Option.bind_some, ofName?_name]

theorem FieldSchema.legible {s : FieldSchema} (share : (Numeric.real s.completeness).Legible)
    (levels : Nat) : (Encodes.json s).Legible (levels + 2) := by
  refine .object (by simp) ?_
  simp only [List.forall_mem_cons]
  exact ⟨.string _ _, strings_legible levels _, .number _ share, by simp⟩

theorem FieldSchema.decoder_shape {s : FieldSchema}
    (share : (Numeric.real s.completeness).Legible) (levels : Nat) :
    Decodes.decoder (levels + 2) (Encodes.json s).shape = some s := by
  refine (struct_shape (by simp)).trans ?_
  simp [Fields.required_ofMembers, lookup_cons_eq_ite, FieldType.decoder_shape, double_shape share]

theorem FieldQuality.legible {q : FieldQuality} (share : (Numeric.real q.completeness).Legible)
    (levels : Nat) : (Encodes.json q).Legible (levels + 2) := by
  refine .object (by simp) ?_
  simp only [List.forall_mem_cons]
  exact ⟨.number _ share, strings_legible levels _, by simp⟩

theorem FieldQuality.decoder_shape {q : FieldQuality}
    (share : (Numeric.real q.completeness).Legible) (levels : Nat) :
    Decodes.decoder (levels + 2) (Encodes.json q).shape = some q := by
  refine (struct_shape (by simp)).trans ?_
  simp [Fields.required_ofMembers, lookup_cons_eq_ite, double_shape share]

/-! ### Qualities -/

/-- The shares in a quality are legible. -/
def Quality.SharesLegible : Quality → Prop
  | .unavailable _ => True
  | .fields qualities => ∀ e ∈ qualities.entries, (Numeric.real e.2.completeness).Legible

theorem Quality.legible {q : Quality} (shares : q.SharesLegible) (levels : Nat) :
    (Encodes.json q).Legible (levels + 3) := by
  cases q with
  | unavailable error =>
      refine .object (by simp) ?_
      simp only [List.forall_mem_cons]
      exact ⟨.string _ error, by simp⟩
  | fields qualities => exact mapJson_legible fun e mem => FieldQuality.legible (shares e mem) levels

/-- An object is read as a reason when its member `error` is a string. -/
theorem Quality.unavailableDecoder_object {members : Members}
    (distinct : (members.map Prod.fst).Nodup) (levels : Nat) :
    unavailableDecoder (levels + 1) (Value.object members).shape =
      (members.lookup "error").bind fun v => (text levels v.shape).map unavailable := by
  rw [unavailableDecoder, objectOnly_shape, struct_shape distinct,
    Fields.required_ofMembers List.mem_cons_self, Option.map_bind]
  rfl

/-- **A map of fields is never read as a reason**, not even when one of the fields is called
`error`: its quality is an object and no string. -/
theorem Quality.unavailableDecoder_fields (qualities : SortedMap FieldQuality) (levels : Nat) :
    unavailableDecoder (levels + 1) (Encodes.json (fields qualities)).shape = none := by
  have object : Encodes.json (fields qualities) =
      .object (qualities.mapValues Encodes.json).entries := rfl
  have found := qualities.get?_mapValues Encodes.json "error"
  rw [SortedMap.get?] at found
  rw [object, unavailableDecoder_object (SortedMap.ascending _).nodup, found]
  cases qualities.get? "error" <;> rfl

theorem Quality.decoder_shape {q : Quality} (shares : q.SharesLegible) (levels : Nat) :
    Decodes.decoder (levels + 3) (Encodes.json q).shape = some q := by
  change Quality.decoder (levels + 3) (Encodes.json q).shape = some q
  rw [Quality.decoder, whole_shape (legible shares levels)]
  cases q with
  | unavailable error =>
      have read : unavailableDecoder (levels + 3) (Encodes.json (unavailable error)).shape =
          some (unavailable error) := by
        refine (unavailableDecoder_object (by simp) (levels + 2)).trans ?_
        simp
      rw [read, Option.some_or]
  | fields qualities =>
      have read : map Decodes.decoder (levels + 3) (Encodes.json (fields qualities)).shape =
          some qualities :=
        map_shape fun e mem => FieldQuality.decoder_shape (shares e mem) levels
      rw [unavailableDecoder_fields, Option.none_or, read, Option.map_some]

/-! ### Shares -/

theorem share_table :
    ∀ n < 11, ∀ k < n + 1, ∀ x ∈ Binary64.ofRatio? k n, (Numeric.real x).Legible := by
  decide +kernel

/-- A share of at most ten is read as it was written. -/
theorem share_legible {k n : Nat} (le : k ≤ n) (few : n ≤ 10) {x : Binary64}
    (ratio : Binary64.ofRatio? k n = some x) : (Numeric.real x).Legible :=
  share_table n (Nat.lt_succ_of_le few) k (Nat.lt_succ_of_le le) x ratio

/-! ### Analyses -/

/-- The shares in an analysis are legible. -/
structure Analysis.SharesLegible (a : Analysis) : Prop where
  schema : ∀ e ∈ a.schema.entries, (Numeric.real e.2.completeness).Legible
  quality : a.quality.SharesLegible

theorem Analysis.legible {a : Analysis} (shares : a.SharesLegible) (levels : Nat) :
    (Encodes.json a).Legible (levels + 4) := by
  refine .object (by simp) ?_
  simp only [List.forall_mem_cons]
  exact ⟨mapJson_legible fun e mem => FieldSchema.legible (shares.schema e mem) levels,
    Quality.legible shares.quality levels, by simp⟩

theorem Analysis.decoder_shape {a : Analysis} (shares : a.SharesLegible) (levels : Nat) :
    Decodes.decoder (levels + 4) (Encodes.json a).shape = some a := by
  have schema : map Decodes.decoder (levels + 3) (mapJson Encodes.json a.schema).shape =
      some a.schema :=
    map_shape fun e mem => FieldSchema.decoder_shape (shares.schema e mem) levels
  refine (struct_shape (by simp)).trans ?_
  simp [Fields.required_ofMembers, lookup_cons_eq_ite, schema, Quality.decoder_shape shares.quality]

theorem Analysis.read?_write {a : Analysis} (shares : a.SharesLegible) :
    read? Analysis (write a) = some a :=
  Wire.read?_write (legible shares 0) (decoder_shape shares 123)

/-- The shares of at most ten records are legible. -/
theorem Analysis.Describes.sharesLegible {a : Analysis} {records : List Record}
    (h : a.Describes records) (few : records.length ≤ 10) : a.SharesLegible := by
  have schema : ∀ e ∈ a.schema.entries, (Numeric.real e.2.completeness).Legible := by
    intro e mem
    have described := h.schema e.1 e.2 (SortedMap.get?_of_mem mem)
    have counted : (valuesOf e.1 records).length ≤ 10 :=
      Nat.le_trans (List.length_filterMap_le _ _) few
    exact share_legible described.le counted described.completeness
  refine ⟨schema, ?_⟩
  rw [h.quality]
  intro e mem
  obtain ⟨e, inside, rfl⟩ := List.mem_map.mp mem
  exact schema e inside

theorem Analysis.sharesLegible_ofRecords {records : List Record}
    (distinct : ∀ record ∈ records, (record.map Prod.fst).Nodup) :
    (ofRecords records).SharesLegible := by
  by_cases none : records = []
  · subst none
    exact ⟨fun _ mem => absurd mem List.not_mem_nil, trivial⟩
  · exact (describes_ofRecords none distinct).sharesLegible (List.length_take_le 10 records)

/-- **An analysis of records is read as it was written**, whatever the fields are called and
whatever their samples say. -/
theorem Analysis.read?_write_ofRecords {records : List Record}
    (distinct : ∀ record ∈ records, (record.map Prod.fst).Nodup) :
    read? Analysis (write (ofRecords records)) = some (ofRecords records) :=
  read?_write (sharesLegible_ofRecords distinct)

/-- Records with the names that the JSON form of an analysis has itself. -/
def misleadingRecords : List Record :=
  [[("error", .string "No valid sample data provided"), ("type", .string "\"\u00E9\n"),
      ("completeness", .number (.real .zero))],
    [("error", .null), ("schema", .object [("error", .string "x")])],
    [("error", .null), ("quality", .array [.null])]]

theorem Analysis.read?_write_ofRecords_misleading :
    ((∀ record ∈ misleadingRecords, (record.map Prod.fst).Nodup) ∧
      read? Analysis (write (ofRecords misleadingRecords)) = some (ofRecords misleadingRecords)) ∧
    read? Analysis (write (ofRecords [])) = some (ofRecords []) := by
  have distinct : ∀ record ∈ misleadingRecords, (record.map Prod.fst).Nodup := by
    simp [misleadingRecords]
  exact ⟨⟨distinct, read?_write_ofRecords distinct⟩,
    read?_write_ofRecords fun _ mem => absurd mem List.not_mem_nil⟩

/-- The names of a record of an output always differ, so **the analysis of what an engine
writes is read as it was written**. -/
theorem Analysis.read?_write_ofOutput (output : List UInt8) (cap : Nat) :
    read? Analysis (write (ofRecords (ResultSet.ofOutput output cap).records)) =
      some (ofRecords (ResultSet.ofOutput output cap).records) :=
  read?_write (sharesLegible_ofRecords fun _ mem => ResultSet.distinct_of_mem_records mem)

end Enquiry

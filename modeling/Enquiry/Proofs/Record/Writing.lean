import Enquiry.Proofs.Json.RoundTrip
import Enquiry.Proofs.Record.Truncation
import Enquiry.Proofs.Text.Splitting

/-!
# Records there and back

A plain value is written without control characters (`noControl_compactChars`), so a record is one
line: its own line feeds are escaped.  The line begins and ends with a brace, so trimming leaves it
as it is, and the filled lines of written records are their lines (`filledLines_outputOf`).  Each
line holds its record (`object?_recordLine`).

**Records that are written one on each line are read as they were**, as many as the cap allows
(`ResultSet.ofOutput_outputOf`).
-/

namespace Enquiry.Json

open Text Number

/-- The text is free of the control characters below the space. -/
def NoControl (text : List Char) : Prop := ∀ c ∈ text, 0x20 ≤ c.toNat

namespace NoControl

@[simp] theorem nil : NoControl [] := fun _ inside => nomatch inside

@[simp] theorem cons_iff {c : Char} {text : List Char} :
    NoControl (c :: text) ↔ 0x20 ≤ c.toNat ∧ NoControl text := List.forall_mem_cons

@[simp] theorem append_iff {front back : List Char} :
    NoControl (front ++ back) ↔ NoControl front ∧ NoControl back := List.forall_mem_append

end NoControl

/-- A control character is written by others. -/
theorem noControl_escapeChar (c : Char) : NoControl (escapeChar c) := by
  unfold escapeChar
  split
  next => simp
  next =>
  split
  next => simp
  next =>
  split
  next shown => simpa using shown
  next control =>
      have high : 0x20 ≤ (hexChar (c.toNat / 16)).toNat := le_toNat_hexChar (by omega)
      have low : 0x20 ≤ (hexChar (c.toNat % 16)).toNat := le_toNat_hexChar (by omega)
      -- what stands for a control character is a letter or the digits of its code
      repeat' split
      all_goals simp [unicodeEscape, high, low]

theorem noControl_quote (s : String) : NoControl (quote s) := by
  have inner : NoControl (s.toList.flatMap escapeChar) := fun c inside => by
    obtain ⟨d, -, written⟩ := List.mem_flatMap.mp inside
    exact noControl_escapeChar d c written
  simp [quote, inner]

theorem noControl_integer (n : Int) : NoControl (Numeric.integer n).chars := by
  have inner : NoControl (decimal n.natAbs) := fun c inside => by
    have digit := isAsciiDigit_iff.mp (isAsciiDigit_of_mem_decimal inside)
    omega
  rw [Numeric.chars, withMinus]
  split <;> simp [inner]

theorem noControl_compactItems {items : List Value} (h : ∀ v ∈ items, NoControl v.compactChars) :
    NoControl (compactItems items) := by
  induction items with
  | nil => simp [compactItems]
  | cons v items ih =>
      obtain ⟨here, later⟩ := List.forall_mem_cons.mp h
      cases items with
      | nil => simp [compactItems, here]
      | cons next items => simp [compactItems, here, ih later]

theorem noControl_compactMembers {members : Members}
    (h : ∀ member ∈ members, NoControl member.2.compactChars) :
    NoControl (compactMembers members) := by
  induction members with
  | nil => simp [compactMembers]
  | cons member members ih =>
      obtain ⟨name, v⟩ := member
      obtain ⟨here, later⟩ := List.forall_mem_cons.mp h
      have here : NoControl v.compactChars := here
      cases members with
      | nil => simp [compactMembers, noControl_quote, here]
      | cons next members => simp [compactMembers, noControl_quote, here, ih later]

/-- **A plain value is written without control characters.** -/
theorem noControl_compactChars {levels : Nat} {v : Value} (h : v.Plain levels) :
    NoControl v.compactChars := by
  induction h with
  | null => simp [Value.compactChars]
  | bool _ b => cases b <;> simp [Value.compactChars]
  | integer => exact noControl_integer _
  | string _ s => exact noControl_quote s
  | array _ ih => simp [Value.compactChars, noControl_compactItems ih]
  | object _ _ ih => simp [Value.compactChars, noControl_compactMembers ih]

/-- The members of an object end with its closing brace. -/
theorem exists_compactMembers_eq_append (members : Members) :
    ∃ front, compactMembers members = front ++ ['\x7d'] := by
  induction members with
  | nil => exact ⟨[], rfl⟩
  | cons member members ih =>
      cases members with
      | nil => exact ⟨_, rfl⟩
      | cons next members =>
          obtain ⟨front, ends⟩ := ih
          refine ⟨quote member.1 ++ ':' :: member.2.compactChars ++ ',' :: front, ?_⟩
          rw [compactMembers, ends]
          simp

end Enquiry.Json

namespace Enquiry

open Text Json

variable {record : Record} {records : List Record}

/-! ### Lines of records -/

/-- A record as compact JSON. -/
def recordLine (record : Record) : List UInt8 := Utf8.encode (compactObject record).toList

/-- Records as output, each on a line of its own. -/
def outputOf (records : List Record) : List UInt8 :=
  records.flatMap fun record => recordLine record ++ [lineFeed]

theorem recordLine_eq (record : Record) :
    recordLine record = Utf8.encode (Value.object record).compactChars := by
  rw [recordLine, compactObject, Value.compact, String.toList_ofList]

theorem lineFeed_not_mem_recordLine (plain : (Value.object record).Plain maxLevels) :
    lineFeed ∉ recordLine record := by
  rw [recordLine_eq, Utf8.mem_encode_iff_of_lt (by decide)]
  rintro ⟨c, inside, same⟩
  have shown := noControl_compactChars plain c inside
  rw [← same] at shown
  exact absurd shown (by decide)

/-- A line of a record begins and ends with a brace. -/
theorem exists_recordLine_eq (record : Record) :
    ∃ inner, recordLine record = 0x7B :: inner ++ [0x7D] := by
  obtain ⟨front, ends⟩ := exists_compactMembers_eq_append record
  refine ⟨Utf8.encode front, ?_⟩
  rw [recordLine_eq, Value.compactChars, ends, ← List.cons_append, Utf8.encode_append,
    Utf8.encode_cons]
  rfl

theorem trimWith_recordLine (record : Record) :
    trimWith isAsciiBlank (recordLine record) = recordLine record := by
  obtain ⟨inner, line⟩ := exists_recordLine_eq record
  rw [line]
  exact trimWith_of_ends rfl rfl

theorem recordLine_ne_nil (record : Record) : recordLine record ≠ [] := by
  obtain ⟨inner, line⟩ := exists_recordLine_eq record
  simp [line]

/-- **The line of a record holds the record.** -/
theorem object?_recordLine (plain : (Value.object record).Plain maxLevels) :
    object? (recordLine record) = some record := by
  rw [object?, recordLine_eq, Value.ofBytes?_encode plain]
  rfl

/-! ### Written records -/

/-- Written records are filled lines, whatever follows. -/
theorem filledLines_outputOf_append
    (plain : ∀ record ∈ records, (Value.object record).Plain maxLevels) (rest : List UInt8) :
    filledLines (outputOf records ++ rest) = records.map recordLine ++ filledLines rest := by
  induction records with
  | nil => rfl
  | cons record records ih =>
      obtain ⟨here, later⟩ := List.forall_mem_cons.mp plain
      have output : outputOf (record :: records) ++ rest =
          recordLine record ++ lineFeed :: (outputOf records ++ rest) := by simp [outputOf]
      have filled : trimWith isAsciiBlank (recordLine record) ≠ [] := by
        rw [trimWith_recordLine]
        exact recordLine_ne_nil record
      rw [output, filledLines,
        List.splitOn_append_cons_self_of_not_mem (lineFeed_not_mem_recordLine here),
        filled_cons_of_filled filled, trimWith_recordLine, List.map_cons, List.cons_append,
        ← ih later]
      rfl

/-- The filled lines of written records are the lines of the records. -/
theorem filledLines_outputOf (plain : ∀ record ∈ records, (Value.object record).Plain maxLevels) :
    filledLines (outputOf records) = records.map recordLine := by
  have lines := filledLines_outputOf_append plain []
  rwa [List.append_nil, show filledLines [] = [] from rfl, List.append_nil] at lines

theorem objects_map_recordLine
    (plain : ∀ record ∈ records, (Value.object record).Plain maxLevels) :
    objects (records.map recordLine) = records ∧ others (records.map recordLine) = [] := by
  induction records with
  | nil => exact ⟨rfl, rfl⟩
  | cons record records ih =>
      obtain ⟨here, later⟩ := List.forall_mem_cons.mp plain
      obtain ⟨kept, none⟩ := ih later
      rw [List.map_cons, objects_cons_of_some (object?_recordLine here), kept,
        others_cons_of_some (object?_recordLine here), none]
      exact ⟨rfl, rfl⟩

/-- The last of some written lines is a record. -/
theorem upTo_map_recordLine (plain : ∀ record ∈ records, (Value.object record).Plain maxLevels) :
    UpTo records.length (records.map recordLine) := by
  induction records with
  | nil => exact .nil
  | cons record records ih =>
      obtain ⟨here, later⟩ := List.forall_mem_cons.mp plain
      exact (ih later).cons_of_some (object?_recordLine here)

namespace ResultSet

/-- Written records that reach the cap are all that is read when another line follows. -/
theorem ofOutput_outputOf_append
    (plain : ∀ record ∈ records, (Value.object record).Plain maxLevels) {rest : List UInt8}
    (more : filledLines rest ≠ []) :
    ofOutput (outputOf records ++ rest) records.length = ⟨records, true, 0⟩ := by
  obtain ⟨kept, none⟩ := objects_map_recordLine plain
  rw [ofOutput_of_upTo (upTo_map_recordLine plain) (filledLines_outputOf_append plain rest) more,
    kept, none]
  rfl

/-- **Written records are read as they were.** Of records whose brackets nest at most 127 deep,
whose numbers are integers of 64 bits, and whose objects never have a name twice, the first are
read back, as many as the cap; no line is skipped, and the result is truncated if there are more
records than that. -/
theorem ofOutput_outputOf (plain : ∀ record ∈ records, (Value.object record).Plain 127)
    (cap : Nat) :
    ofOutput (outputOf records) cap = ⟨records.take cap, cap < records.length, 0⟩ := by
  have lines : filledLines (outputOf records) = records.map recordLine := filledLines_outputOf plain
  obtain ⟨kept, none⟩ := objects_map_recordLine plain
  obtain fits | ⟨front, back, split, more, upTo⟩ :=
    fits_or_upTo cap (filledLines (outputOf records))
  · have count := fits.count
    rw [lines, kept] at count
    rw [ofOutput_of_fits fits, lines, kept, none, List.take_of_length_le count]
    simp [count]
  · rw [lines] at split
    have first : objects front = (objects (front ++ back)).take cap := upTo.objects_eq_take
    rw [← split, kept] at first
    have noOther : others front = [] := by
      rw [split, others, List.filter_append] at none
      exact (List.append_eq_nil_iff.mp none).1
    -- the lines up to the cap are as many records, and there is a line behind them
    have beyond : cap < records.length := by
      have counted := length_objects_add_length_others front
      have whole := congrArg List.length split
      have after := List.length_pos_iff.mpr more
      rw [noOther, upTo.count, List.length_nil] at counted
      rw [List.length_map, List.length_append] at whole
      omega
    rw [ofOutput_of_upTo upTo (lines.trans split) more, first, noOther]
    simp [beyond]

/-- Two records, the first with a name and a text that need escapes and the least and the greatest
integer, the second with brackets inside brackets. -/
def sampleRecords : List Record :=
  [[("a\"\\\n", .string "\x01\r\n\"é🙂"), ("z", .number (.integer (-9223372036854775808))),
      ("b", .number (.integer 18446744073709551615))],
    [("b", .array [.null, .object [], .bool true]), ("a", .object [("", .array [])])]]

theorem ofOutput_outputOf_sampleRecords :
    (∀ record ∈ sampleRecords, (Value.object record).Plain 127) ∧
      ofOutput (outputOf sampleRecords) 1 = ⟨sampleRecords.take 1, true, 0⟩ := by
  have plain : ∀ record ∈ sampleRecords, (Value.object record).Plain 127 := by
    simp only [sampleRecords, List.forall_mem_cons]
    refine ⟨.object (by decide) ?_, .object (by decide) ?_, by simp⟩
    · simp only [List.forall_mem_cons]
      exact ⟨.string _ _, .integer _ (by decide), .integer _ (by decide), by simp⟩
    · simp only [List.forall_mem_cons]
      refine ⟨.array ?_, .object (by decide) ?_, by simp⟩
      · simp only [List.forall_mem_cons]
        exact ⟨.null _, .object (by decide) (by simp), .bool _ _, by simp⟩
      · simp only [List.forall_mem_cons]
        exact ⟨.array (by simp), by simp⟩
  exact ⟨plain, ofOutput_outputOf plain 1⟩

end ResultSet

end Enquiry

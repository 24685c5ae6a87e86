import Mathlib.Data.List.Forall2
import Enquiry.Proofs.Record.Table

/-!
# What a table shows

A table is described line by line and cell by cell, from the look-ups in its records and without
regard to how it is written (`Shows`).  Each part of the description is met by one text only
(`isCell_iff`, `isHeader_iff`, `isRow_iff`).

**The table of a result set is the only text that is so described** (`isTable_iff`).  So nothing
else has an effect on it: not the fields that the first record lacks, not the records behind the
twentieth, and not what became of the rest of the output.
-/

namespace Enquiry.Table

open Text Json

variable {α β : Type} {fields : List String} {field : String} {record record' first : Record}
  {records records' others : List Record} {name column line text : List Char}
  {header rule : List Char} {rows overflow : List (List Char)} {result : ResultSet}

/-! ### Cells -/

/-- The text of a value: a string is its own, and any other value has its JSON without blanks. -/
inductive HasText : Value → List Char → Prop
  | string (s : String) : HasText (.string s) s.toList
  | json {value : Value} (other : ∀ s, value ≠ .string s) : HasText value value.compactChars

/-- What stands in a column for a value: blanks for none, its text with blanks behind it when it
fits, and the first characters of the text with dots behind them when it does not. -/
inductive IsCell : Option Value → List Char → Prop
  | blank : IsCell none (List.replicate 15 ' ')
  | whole {value : Value} {text : List Char} (spelled : HasText value text)
      (fits : text.length ≤ 15) :
      IsCell (some value) (text ++ List.replicate (15 - text.length) ' ')
  | cut {value : Value} {text : List Char} (spelled : HasText value text)
      (long : 15 < text.length) : IsCell (some value) (text.take 12 ++ ['.', '.', '.'])

/-- A name at the head of a column: never cut, with blanks behind it up to the width of a column. -/
def IsHeader (name column : List Char) : Prop :=
  ∃ blanks, column = name ++ List.replicate blanks ' ' ∧ column.length = max 15 name.length

theorem pad_clip_of_le (fits : text.length ≤ 15) :
    pad (clip text) = text ++ List.replicate (15 - text.length) ' ' := by
  rw [clip, columnWidth, if_neg (Nat.not_lt.mpr fits), pad, columnWidth]

theorem pad_clip_of_lt (long : 15 < text.length) :
    pad (clip text) = text.take 12 ++ ['.', '.', '.'] := by
  have full : (text.take 12 ++ ['.', '.', '.']).length = 15 := by
    rw [List.length_append, List.length_take]
    simp only [List.length_cons, List.length_nil]
    omega
  have dots : "...".toList = ['.', '.', '.'] := rfl
  rw [clip, columnWidth, if_pos long, clippedWidth, dots, pad, columnWidth, full]
  simp

theorem hasText_iff {value : Value} : HasText value text ↔ cellText value = text := by
  constructor
  · intro spelled
    cases spelled with
    | string => rfl
    | json other =>
        cases value with
        | string s => exact absurd rfl (other s)
        | null | bool | number | array | object => rfl
  · rintro rfl
    cases value with
    | string s => exact .string s
    | null | bool | number | array | object => exact .json nofun

theorem isCell_iff {value : Option Value} :
    IsCell value column ↔ pad (clip (value.elim [] cellText)) = column := by
  constructor
  · intro shown
    cases shown with
    | blank => rfl
    | whole spelled fits =>
        rw [Option.elim_some, hasText_iff.mp spelled]
        exact pad_clip_of_le fits
    | cut spelled long =>
        rw [Option.elim_some, hasText_iff.mp spelled]
        exact pad_clip_of_lt long
  · rintro rfl
    cases value with
    | none => exact .blank
    | some value =>
        have spelled : HasText value (cellText value) := hasText_iff.mpr rfl
        rw [Option.elim_some]
        rcases Nat.lt_or_ge 15 (cellText value).length with long | fits
        · rw [pad_clip_of_lt long]
          exact .cut spelled long
        · rw [pad_clip_of_le fits]
          exact .whole spelled fits

theorem isHeader_iff : IsHeader name column ↔ pad name = column := by
  constructor
  · rintro ⟨blanks, rfl, width⟩
    rw [List.length_append, List.length_replicate] at width
    rw [pad, columnWidth, show 15 - name.length = blanks by omega]
  · rintro rfl
    exact ⟨_, rfl, length_pad_text name⟩

/-! ### Lines -/

/-- A relation with one value for everything relates lists as that value does. -/
theorem forall₂_iff_map_eq {R : α → β → Prop} {f : α → β} (single : ∀ a b, R a b ↔ f a = b)
    {as : List α} {bs : List β} : List.Forall₂ R as bs ↔ as.map f = bs := by
  obtain rfl : R = fun a b => f a = b := by
    funext a b
    exact propext (single a b)
  rw [← List.forall₂_map_left_iff, List.forall₂_eq_eq_eq]

/-- The line of a record: one column for each field, with what is looked up in the record. -/
structure IsRow (fields : List String) (record : Record) (line : List Char) : Prop where
  columns : ∃ cells, line = [' ', '|', ' '].intercalate cells ∧
    List.Forall₂ (fun field cell =>
      IsCell (record.lookup field) cell ∧ cell.length = 15) fields cells
  width : line.length = 18 * fields.length - 3

theorem isRow_iff : IsRow fields record line ↔ row fields record = line := by
  have single : ∀ field column,
      IsCell (record.lookup field) column ∧ column.length = 15 ↔ cell record field = column := by
    intro field column
    rw [isCell_iff, ← cell]
    refine ⟨And.left, fun shown => ⟨shown, ?_⟩⟩
    rw [← shown, length_cell]
  constructor
  · rintro ⟨⟨cells, rfl, shown⟩, -⟩
    rw [row, (forall₂_iff_map_eq single).mp shown]
    rfl
  · rintro rfl
    exact ⟨⟨_, rfl, (forall₂_iff_map_eq single).mpr rfl⟩, length_row fields record⟩

/-- The lines are those of a table with these fields for its columns: the names, a line of dashes
below them, the first twenty records and the number of the others, if there are any. -/
structure Shows (fields : List String) (records : List Record) (header rule : List Char)
    (rows overflow : List (List Char)) : Prop where
  header_columns : ∃ columns, header = [' ', '|', ' '].intercalate columns ∧
    List.Forall₂ (fun field column => IsHeader field.toList column) fields columns
  rule_dashes : rule = List.replicate header.length '-'
  row_lines : List.Forall₂ (IsRow fields) (records.take 20) rows
  overflow_line : overflow = if 20 < records.length then
    ["... and ".toList ++ decimal (records.length - 20) ++ " more rows".toList] else []

/-- The text has the lines of a table, with line feeds between them. -/
def IsTable (fields : List String) (records : List Record) (text : List Char) : Prop :=
  ∃ header rule rows overflow,
    text = ['\n'].intercalate (header :: rule :: (rows ++ overflow)) ∧
    Shows fields records header rule rows overflow

theorem isTable_iff_eq_lines :
    IsTable fields records text ↔ text = ['\n'].intercalate (lines fields records) := by
  have headed : ∀ (field : String) (column : List Char),
      IsHeader field.toList column ↔ pad field.toList = column := fun _ _ => isHeader_iff
  have written : ∀ (record : Record) (line : List Char),
      IsRow fields record line ↔ row fields record = line := fun _ _ => isRow_iff
  constructor
  · rintro ⟨header, rule, rows, overflow, rfl, ⟨columns, rfl, names⟩, rfl, shown, rfl⟩
    rw [← (forall₂_iff_map_eq headed).mp names, ← (forall₂_iff_map_eq written).mp shown]
    rfl
  · rintro rfl
    exact ⟨_, _, _, _, rfl, ⟨_, rfl, (forall₂_iff_map_eq headed).mpr rfl⟩, rfl,
      (forall₂_iff_map_eq written).mpr rfl, rfl⟩

/-! ### Tables -/

/-- The same is looked up in two records for each field of the table. -/
def AgreeOn (fields : List String) (record record' : Record) : Prop :=
  ∀ field ∈ fields, record.lookup field = record'.lookup field

theorem row_congr (same : AgreeOn fields record record') :
    row fields record = row fields record' := by
  rw [row, row]
  refine congrArg _ (List.map_congr_left fun field mem => ?_)
  rw [cell, cell, same field mem]

/-- The records behind the twentieth count for their number only, and of the others the fields of
the table do. -/
theorem lines_congr (count : records.length = records'.length)
    (same : List.Forall₂ (AgreeOn fields) (records.take 20) (records'.take 20)) :
    lines fields records = lines fields records' := by
  have rows : (records.take 20).map (row fields) = (records'.take 20).map (row fields) := by
    rw [← List.forall₂_eq_eq_eq, List.forall₂_map_left_iff, List.forall₂_map_right_iff]
    exact same.imp fun _ _ => row_congr
  rw [lines, lines, maxRows, rows, count]

/-- **What a table shows.**  The table of a result set that has records is the only text that is
described by the fields of its first record, the number of its records, and what is looked up for
these fields in the first twenty; result sets that agree in this have the same table. -/
theorem isTable_iff (held : result.records = first :: others) :
    (∀ text, IsTable (first.map Prod.fst) result.records text ↔ text = chars result) ∧
    ∀ (result' : ResultSet) (first' : Record) (others' : List Record),
      result'.records = first' :: others' → first'.map Prod.fst = first.map Prod.fst →
      result'.records.length = result.records.length →
      List.Forall₂ (AgreeOn (first.map Prod.fst))
        (result'.records.take 20) (result.records.take 20) →
      chars result' = chars result := by
  constructor
  · intro text
    rw [isTable_iff_eq_lines, chars_eq held, fieldsOf]
  · intro result' first' others' held' names count same
    rw [chars_eq held, chars_eq held', fieldsOf, fieldsOf, names, lines_congr count same]

/-- Records with a text that fits and one that does not. -/
def fitting : Record := [("n", .nat 1), ("name", .string "fifteen letters")]

def overlong : Record := [("name", .string "sixteen letters!")]

/-- One record more than a table shows. -/
def tall : ResultSet := ⟨fitting :: overlong :: (List.replicate 18 overlong ++ [fitting]), true, 3⟩

/-- The same but for a field that the first record lacks, and for the last record. -/
def tallOther : ResultSet :=
  ⟨fitting :: (("extra", .nat 2) :: overlong) :: (List.replicate 18 overlong ++ [[]]), false, 0⟩

theorem isTable_tall :
    tall.records = fitting :: overlong :: (List.replicate 18 overlong ++ [fitting]) ∧
    IsTable ["n", "name"] tall.records (chars tall) ∧ chars tallOther = chars tall := by
  have held : tall.records = fitting :: overlong :: (List.replicate 18 overlong ++ [fitting]) :=
    rfl
  have agree : AgreeOn ["n", "name"] (("extra", .nat 2) :: overlong) overlong := by
    intro field mem
    simp only [List.mem_cons, List.not_mem_nil, or_false] at mem
    rcases mem with rfl | rfl <;> rfl
  have same : List.Forall₂ (AgreeOn ["n", "name"]) (tallOther.records.take 20)
      (tall.records.take 20) :=
    .cons (fun _ _ => rfl) (.cons agree (List.forall₂_same.mpr fun _ _ _ _ => rfl))
  exact ⟨held, ((isTable_iff held).1 _).mpr rfl,
    (isTable_iff held).2 tallOther fitting _ rfl rfl rfl same⟩

end Enquiry.Table

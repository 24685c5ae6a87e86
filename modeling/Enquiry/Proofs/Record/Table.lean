import Enquiry.Proofs.Text.Digits
import Enquiry.Proofs.Text.Spaced
import Enquiry.Proofs.Text.Splitting
import Enquiry.Record.Table

/-!
# Tables and their columns

Every cell of a table has the width of a column (`Table.length_cell`), but a header that is longer
than a column keeps its length, and a name or a value may have a line feed.  A joined text counts
what its parts count (`Text.measure_intercalate`): so a row of headers is as long as the rows below it
only if no header is too long, and a text has as many lines as were joined only if none of them has
a line feed.

**The columns of a table are aligned, and each record has a line of its own, exactly when no name
is longer than a column and nothing shown has a line feed** (`Table.hasAlignedLines_iff`).
-/

/-! ### Joined texts -/

namespace Enquiry.Text

variable {parts : List (List Char)} {c : Char}

/-- What is counted of a joined text, when each of its parts counts for at least `least`: it is as
little as it can be exactly when each part is. -/
theorem measure_intercalate (mark : List Char) {f : List Char → Nat}
    (additive : ∀ xs ys, f (xs ++ ys) = f xs + f ys) {least : Nat}
    (atLeast : ∀ part ∈ parts, least ≤ f part) (some : parts ≠ []) :
    parts.length * (least + f mark) ≤ f (List.intercalate mark parts) + f mark ∧
      (f (List.intercalate mark parts) + f mark = parts.length * (least + f mark) ↔
        ∀ part ∈ parts, f part = least) := by
  induction parts with
  | nil => exact absurd rfl some
  | cons part parts ih =>
      obtain ⟨here, later⟩ := List.forall_mem_cons.mp atLeast
      cases parts with
      | nil =>
          have alone : List.intercalate mark [part] = part := by simp
          rw [alone, List.forall_mem_singleton, List.length_singleton]
          omega
      | cons next parts =>
          obtain ⟨bound, exact⟩ := ih later (List.cons_ne_nil next parts)
          rw [List.intercalate_cons_cons, List.append_assoc, additive, additive, List.length_cons,
            Nat.succ_mul, List.forall_mem_cons, ← exact]
          omega

/-- A text has as many lines as were joined exactly when none of them has a line feed. -/
theorem length_splitOn_intercalate_iff (some : parts ≠ []) :
    (List.splitOn c (List.intercalate [c] parts)).length = parts.length ↔
      ∀ part ∈ parts, c ∉ part := by
  have counted := (measure_intercalate [c] (f := List.count c) (fun xs ys => List.count_append)
    (fun _ _ => Nat.zero_le _) some).2
  rw [List.count_singleton_self, Nat.zero_add, Nat.mul_one] at counted
  rw [length_splitOn, counted]
  exact forall₂_congr fun part _ => List.count_eq_zero

end Enquiry.Text

namespace Enquiry.Table

open Text Json

variable {fields : List String} {field : String} {record first : Record}
  {records others : List Record} {columns : List (List Char)} {result : ResultSet}

/-! ### Columns -/

theorem length_pad_text (text : List Char) : (pad text).length = max 15 text.length := by
  rw [pad, List.length_append, List.length_replicate, columnWidth]
  omega

theorem length_clip_le (text : List Char) : (clip text).length ≤ 15 := by
  rw [clip]
  split
  case isTrue long =>
    have dots : "...".toList.length = 3 := rfl
    rw [List.length_append, List.length_take, dots, clippedWidth]
    omega
  case isFalse short => exact Nat.le_of_not_lt short

/-- A cell is as wide as a column. -/
theorem length_cell (record : Record) (field : String) : (cell record field).length = 15 := by
  rw [cell, length_pad_text, Nat.max_eq_left (length_clip_le _)]

theorem mem_pad_iff {text : List Char} {c : Char} (filled : c ≠ ' ') :
    c ∈ pad text ↔ c ∈ text := by
  rw [pad, List.mem_append, List.mem_replicate]
  exact or_iff_left fun padding => filled padding.2

/-- The columns stand in the line, one at every eighteenth place. -/
def InColumns (columns : List (List Char)) (line : List Char) : Prop :=
  ∀ i column, columns[i]? = some column → column <+: line.drop (18 * i)

/-- Columns of the same width are joined to a line in which they stand. -/
theorem inColumns_intercalate (even : ∀ column ∈ columns, column.length = 15) :
    InColumns columns (List.intercalate separator columns) := by
  intro i column here
  induction columns generalizing i with
  | nil => simp at here
  | cons first columns ih =>
      obtain ⟨width, later⟩ := List.forall_mem_cons.mp even
      cases i with
      | zero =>
          obtain rfl : first = column := by simpa using here
          cases columns with
          | nil => simp
          | cons next columns =>
              rw [List.intercalate_cons_cons, List.append_assoc]
              exact List.prefix_append _ _
      | succ i =>
          rw [List.getElem?_cons_succ] at here
          cases columns with
          | nil => simp at here
          | cons next columns =>
              have front : (first ++ separator).length = 18 := by
                rw [List.length_append, width]
                rfl
              have onward : 18 * (i + 1) = (first ++ separator).length + 18 * i := by
                rw [front]
                omega
              rw [List.intercalate_cons_cons, List.append_assoc, ← List.append_assoc, onward,
                List.drop_length_add_append]
              exact ih later i here

/-! ### Lines -/

theorem length_lines (fields : List String) (records : List Record) :
    (lines fields records).length =
      2 + min records.length 20 + if 20 < records.length then 1 else 0 := by
  rw [lines, List.length_cons, List.length_cons, List.length_append, List.length_map,
    List.length_take, maxRows, Nat.min_comm]
  split <;> simp only [List.length_singleton, List.length_nil] <;> omega

theorem lineFeed_not_mem_header (free : ∀ field ∈ fields, '\n' ∉ field.toList) :
    '\n' ∉ headerRow fields := by
  intro inside
  rcases mem_intercalate inside with between | ⟨column, mem, inside⟩
  · exact absurd between (by decide)
  · obtain ⟨field, named, rfl⟩ := List.mem_map.mp mem
    exact free field named ((mem_pad_iff (by decide)).mp inside)

theorem lineFeed_not_mem_row (free : ∀ field ∈ fields, '\n' ∉ cell record field) :
    '\n' ∉ row fields record := by
  intro inside
  rcases mem_intercalate inside with between | ⟨column, mem, inside⟩
  · exact absurd between (by decide)
  · obtain ⟨field, named, rfl⟩ := List.mem_map.mp mem
    exact free field named inside

theorem lineFeed_not_mem_overflowLine (n : Nat) : '\n' ∉ overflowLine n := by
  intro inside
  rcases List.mem_append.mp inside with front | after
  · rcases List.mem_append.mp front with before | number
    · simp at before
    · exact not_mem_decimal (by decide) number
  · simp at after

/-- No line of a table has a line feed exactly when no name and nothing shown has one. -/
theorem forall_lines_iff :
    (∀ line ∈ lines fields records, '\n' ∉ line) ↔
      (∀ field ∈ fields, '\n' ∉ field.toList) ∧
        ∀ record ∈ records.take 20, ∀ field ∈ fields, '\n' ∉ cell record field := by
  rw [lines, List.forall_mem_cons, List.forall_mem_cons, List.forall_mem_append,
    List.forall_mem_map]
  constructor
  · rintro ⟨header, -, rows, -⟩
    refine ⟨fun field named inside => header ?_, fun record shown field named inside => ?_⟩
    · exact mem_intercalate_of_mem (List.mem_map_of_mem named) ((mem_pad_iff (by decide)).mpr inside)
    · exact rows record shown (mem_intercalate_of_mem (List.mem_map_of_mem named) inside)
  · rintro ⟨names, shown⟩
    refine ⟨lineFeed_not_mem_header names, fun inside => ?_, fun record mem => ?_, ?_⟩
    · exact absurd (List.eq_of_mem_replicate inside) (by decide)
    · exact lineFeed_not_mem_row (shown record mem)
    · intro line mem
      split at mem
      · rw [List.mem_singleton.mp mem]
        exact lineFeed_not_mem_overflowLine _
      · cases mem

/-! ### Aligned tables -/

/-- A header, a line below it, rows for the first records and a line for those left out make an
aligned table: they are as many as is wanted, header and rows are of one length, and all columns
begin at the same places. -/
structure IsAligned (fields : List String) (records : List Record) (header rule : List Char)
    (rows overflow : List (List Char)) : Prop where
  count_rows : rows.length = min records.length 20
  count_overflow : overflow.length = if 20 < records.length then 1 else 0
  rule_width : rule.length = header.length
  row_width : ∀ row ∈ rows, row.length = header.length
  header_columns : InColumns (fields.map fun field => pad field.toList) header
  row_columns : ∀ (i : Nat) (row : List Char) (record : Record), rows[i]? = some row →
    records[i]? = some record → InColumns (fields.map (cell record)) row

/-- The lines of the text are those of an aligned table. -/
def HasAlignedLines (fields : List String) (records : List Record) (text : List Char) : Prop :=
  ∃ header rule rows overflow, List.splitOn '\n' text = header :: rule :: (rows ++ overflow) ∧
    IsAligned fields records header rule rows overflow

theorem length_row (fields : List String) (record : Record) :
    (row fields record).length = 18 * fields.length - 3 := by
  cases fields with
  | nil => rfl
  | cons field fields =>
      have even : ∀ column ∈ (field :: fields).map (cell record), column.length = 15 :=
        List.forall_mem_map.mpr fun field _ => length_cell record field
      have counted := (measure_intercalate separator (fun xs ys => List.length_append)
        (fun column mem => (even column mem).ge) (List.cons_ne_nil _ _)).2.mpr even
      have gap : separator.length = 3 := rfl
      rw [List.length_map, gap] at counted
      rw [row]
      omega

/-- A row of headers is as long as the rows below it exactly when no name is longer than a
column. -/
theorem length_headerRow_iff :
    (headerRow fields).length = 18 * fields.length - 3 ↔
      ∀ field ∈ fields, field.toList.length ≤ 15 := by
  cases fields with
  | nil => simp [headerRow]
  | cons field fields =>
      have wide : ∀ column ∈ (field :: fields).map (fun field => pad field.toList),
          15 ≤ column.length :=
        List.forall_mem_map.mpr fun field _ => by
          rw [length_pad_text]
          exact Nat.le_max_left _ _
      have counted := (measure_intercalate separator (fun xs ys => List.length_append)
        wide (List.cons_ne_nil _ _)).2
      have gap : separator.length = 3 := rfl
      have fits : ∀ field : String, (pad field.toList).length = 15 ↔ field.toList.length ≤ 15 :=
        fun field => by rw [length_pad_text]; omega
      rw [List.length_map, gap, List.forall_mem_map] at counted
      simp only [fits] at counted
      rw [← counted, headerRow, List.length_cons]
      omega

/-- The lines of a table are aligned when no name is longer than a column. -/
theorem isAligned_lines (short : ∀ field ∈ fields, field.toList.length ≤ 15) :
    IsAligned fields records (headerRow fields)
      (List.replicate (headerRow fields).length '-') ((records.take maxRows).map (row fields))
      (if maxRows < records.length then [overflowLine (records.length - maxRows)] else []) := by
  refine ⟨?_, ?_, List.length_replicate, fun line mem => ?_, ?_, fun i line record => ?_⟩
  · rw [List.length_map, List.length_take, maxRows, Nat.min_comm]
  · rw [maxRows]
    split <;> rfl
  · obtain ⟨record, -, rfl⟩ := List.mem_map.mp mem
    rw [length_row, length_headerRow_iff.mpr short]
  · refine inColumns_intercalate (List.forall_mem_map.mpr fun field mem => ?_)
    rw [length_pad_text, Nat.max_eq_left (short field mem)]
  · intro here shown
    rw [List.getElem?_map, Option.map_eq_some_iff] at here
    obtain ⟨kept, taken, rfl⟩ := here
    obtain rfl : kept = record := by
      rw [List.getElem?_take] at taken
      split at taken
      case isTrue => exact Option.some.inj (taken.symm.trans shown)
      case isFalse => cases taken
    exact inColumns_intercalate (List.forall_mem_map.mpr fun field _ => length_cell kept field)

/-- An aligned table has no name that is longer than a column, and no line feed in a name or in a
cell that is shown. -/
theorem of_hasAlignedLines (held : records = first :: others)
    (aligned : HasAlignedLines fields records (List.intercalate ['\n'] (lines fields records))) :
    (∀ field ∈ fields, field.toList.length ≤ 15 ∧ '\n' ∉ field.toList) ∧
      ∀ record ∈ records.take 20, ∀ field ∈ fields, '\n' ∉ cell record field := by
  obtain ⟨header, rule, rows, overflow, split, aligned⟩ := aligned
  have some : lines fields records ≠ [] := List.cons_ne_nil _ _
  -- as many lines as were joined, hence these lines
  have count : (List.splitOn '\n' (List.intercalate ['\n'] (lines fields records))).length =
      (lines fields records).length := by
    rw [split, length_lines, List.length_cons, List.length_cons, List.length_append,
      aligned.count_rows, aligned.count_overflow]
    omega
  have free := (length_splitOn_intercalate_iff some).mp count
  obtain ⟨names, shown⟩ := forall_lines_iff.mp free
  rw [List.splitOn_intercalate _ free some, lines] at split
  obtain ⟨top, split⟩ := List.cons.inj split
  obtain ⟨below, -⟩ := List.append_inj (List.cons.inj split).2 (by
    rw [List.length_map, List.length_take, aligned.count_rows, maxRows, Nat.min_comm])
  -- the row of the first record is among them, and as long as the header
  have width := aligned.row_width (row fields first) (by
    rw [← below, held]
    exact List.mem_map_of_mem List.mem_cons_self)
  rw [← top, length_row] at width
  have short := length_headerRow_iff.mp width.symm
  exact ⟨fun field mem => ⟨short field mem, names field mem⟩, shown⟩

theorem chars_eq (held : result.records = first :: others) :
    chars result = List.intercalate ['\n'] (lines (fieldsOf first) result.records) := by
  rw [chars, held]

/-- **When the columns of a table are aligned.** The table of a result set has a line for its
header, one below it, one for each of its first twenty records and one more when there are others,
all but the last of one length and with their columns at the same places, exactly when no name of a
field is longer than a column and neither a name nor a cell that is shown has a line feed. -/
theorem hasAlignedLines_iff (held : result.records = first :: others) :
    HasAlignedLines (fieldsOf first) result.records (chars result) ↔
      (∀ field ∈ fieldsOf first, field.toList.length ≤ 15 ∧ '\n' ∉ field.toList) ∧
        ∀ record ∈ result.records.take 20, ∀ field ∈ fieldsOf first,
          '\n' ∉ cell record field := by
  rw [chars_eq held]
  refine ⟨of_hasAlignedLines held, fun ⟨names, shown⟩ => ?_⟩
  have free : ∀ line ∈ lines (fieldsOf first) result.records, '\n' ∉ line :=
    forall_lines_iff.mpr ⟨fun field mem => (names field mem).2, shown⟩
  exact ⟨_, _, _, _, List.splitOn_intercalate _ free (List.cons_ne_nil _ _),
    isAligned_lines fun field mem => (names field mem).1⟩

/-- Two records, the second without the second field and with a value that is cut. -/
def shortNamed : ResultSet :=
  ⟨[[("city", .string "Rome"), ("river", .string "Tiber")],
    [("city", .string "Llanfairpwllgwyngyll")]], false, 0⟩

theorem hasAlignedLines_shortNamed :
    shortNamed.records = [("city", .string "Rome"), ("river", .string "Tiber")] ::
      [[("city", .string "Llanfairpwllgwyngyll")]] ∧
    HasAlignedLines ["city", "river"] shortNamed.records (chars shortNamed) := by
  have held : shortNamed.records = _ :: _ := rfl
  exact ⟨held, (hasAlignedLines_iff held).mpr ⟨by decide, by decide⟩⟩

/-- A record with a name longer than a column, and one with a value of two lines. -/
def longNamed : Record := [("customer_identifier", .nat 1), ("b", .nat 2)]

def twoLined : Record := [("a", .string "x\ny"), ("b", .nat 2)]

/-- The header of a long name is longer than the rows below it, and a value with a line feed takes
two lines. -/
theorem not_hasAlignedLines :
    ¬ HasAlignedLines (fieldsOf longNamed) [longNamed] (chars ⟨[longNamed], false, 0⟩) ∧
    ¬ HasAlignedLines (fieldsOf twoLined) [twoLined] (chars ⟨[twoLined], false, 0⟩) := by
  constructor
  · intro aligned
    rw [chars_eq rfl] at aligned
    exact absurd ((of_hasAlignedLines rfl aligned).1 "customer_identifier" (.head _)).1 (by decide)
  · intro aligned
    rw [chars_eq rfl] at aligned
    exact absurd (List.mem_append_left _ (.tail _ (.head _)))
      ((of_hasAlignedLines rfl aligned).2 twoLined (.head _) "a" (.head _))

end Enquiry.Table

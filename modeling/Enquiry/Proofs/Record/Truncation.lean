import Enquiry.Proofs.Json.RoundTrip
import Enquiry.Record.Lines

/-!
# The records of an output and its truncation

The lines of an output that matter are its filled ones: what is left of a line once the blanks
around it are gone, unless nothing is left. `Fits cap lines` says of filled lines that a cap of
`cap` records leaves nothing out, `UpTo n lines` that the lines stop at the line of the `n`-th
object. Any filled lines fit, or else they begin with lines up to the object at the cap and go on
(`fits_or_upTo`).

A collector is said by the room that it still has. Lines that fit in it are all taken
(`Collector.pushAll_of_fits`), and of others those up to its last object
(`Collector.pushAll_of_upTo`). What is made of lines that are taken is `Collector.keepAll_eq`.
-/

namespace Enquiry

open Text Json

/-- The lines that are not blank, without the blanks around them. -/
def filled (lines : List (List UInt8)) : List (List UInt8) :=
  (lines.map (trimWith isAsciiBlank)).filter (!·.isEmpty)

/-- The filled lines of an output. -/
def filledLines (output : List UInt8) : List (List UInt8) := filled (List.splitOn lineFeed output)

/-- The object that a line holds. -/
def object? (line : List UInt8) : Option Record := (Value.ofBytes? line).bind Value.members?

/-- The objects that some lines hold, in order. -/
def objects (lines : List (List UInt8)) : List Record := lines.filterMap object?

/-- The lines that hold no object. -/
def others (lines : List (List UInt8)) : List (List UInt8) :=
  lines.filter fun line => (object? line).isNone

/-- The warning of a line that holds no object. -/
def skipWarning (line : List UInt8) : Warning :=
  if (Value.ofBytes? line).isSome then .notAnObject (preview line) else .notJson (preview line)

/-- At most `cap` lines hold an object, and none follows the line of the object at the cap. -/
structure Fits (cap : Nat) (lines : List (List UInt8)) : Prop where
  count : (objects lines).length ≤ cap
  last : ∀ front back, lines = front ++ back → (objects front).length = cap → back = []

/-- The lines stop at the line of the `n`-th object, or are none when `n` is zero. -/
structure UpTo (n : Nat) (lines : List (List UInt8)) : Prop where
  count : (objects lines).length = n
  last : ∀ line, lines.getLast? = some line → (object? line).isSome

variable {n cap : Nat} {line : List UInt8} {lines front back : List (List UInt8)} {record : Record}

/-! ### Objects and other lines -/

/-- The line `{}` holds an object without members. -/
theorem object?_braces : object? [0x7B, 0x7D] = some [] := by
  have text : Utf8.decode? [0x7B, 0x7D] = some ['{', '}'] := by
    simp [Utf8.decode?, Utf8.read_cons, Utf8.next]
  rw [object?, Value.ofBytes?, text]
  rfl

theorem objects_append : objects (front ++ back) = objects front ++ objects back :=
  List.filterMap_append

theorem objects_cons_of_some (held : object? line = some record) :
    objects (line :: lines) = record :: objects lines :=
  List.filterMap_cons_some held

theorem objects_cons_of_none (other : object? line = none) :
    objects (line :: lines) = objects lines :=
  List.filterMap_cons_none other

theorem others_cons_of_some (held : object? line = some record) :
    others (line :: lines) = others lines :=
  List.filter_cons_of_neg (by simp [held])

theorem others_cons_of_none (other : object? line = none) :
    others (line :: lines) = line :: others lines :=
  List.filter_cons_of_pos (by simp [other])

/-- A line holds an object or is one of the others. -/
theorem length_objects_add_length_others (lines : List (List UInt8)) :
    (objects lines).length + (others lines).length = lines.length := by
  induction lines with
  | nil => rfl
  | cons line lines ih =>
      rcases held : object? line with _ | record
      · rw [objects_cons_of_none held, others_cons_of_none held, List.length_cons,
          List.length_cons, ← ih, Nat.add_assoc]
      · rw [objects_cons_of_some held, others_cons_of_some held, List.length_cons,
          List.length_cons, ← ih]
        omega

/-- The names of an object that a line holds differ, also where the line has a name twice. -/
theorem distinct_of_mem_objects (mem : record ∈ objects lines) : (record.map Prod.fst).Nodup := by
  obtain ⟨line, -, held⟩ := List.mem_filterMap.mp mem
  obtain ⟨v, read, members⟩ := Option.bind_eq_some_iff.mp held
  cases v with
  | object =>
      obtain rfl := Option.some.inj members
      exact (Value.wellFormed_of_ofBytes? read).distinct
  | null | bool | number | string | array => cases members

/-! ### Lines that fit, and lines up to an object -/

theorem Fits.nil (cap : Nat) : Fits cap [] :=
  ⟨Nat.zero_le cap, fun _ _ split _ => (List.append_eq_nil_iff.mp split.symm).2⟩

/-- Without room no line fits. -/
theorem Fits.eq_nil (fits : Fits 0 lines) : lines = [] := fits.last [] lines rfl rfl

/-- A line in front takes the room of its object, and it must have some. -/
theorem fits_cons_iff {taken : Nat}
    (counted : ∀ lines, (objects (line :: lines)).length = taken + (objects lines).length)
    (room : 0 < taken + cap) : Fits (taken + cap) (line :: lines) ↔ Fits cap lines := by
  constructor
  · intro fits
    refine ⟨?_, fun front back split count => ?_⟩
    · have bound := fits.count
      rw [counted] at bound
      omega
    · refine fits.last (line :: front) back (by rw [split, List.cons_append]) ?_
      rw [counted, count]
  · intro fits
    refine ⟨?_, fun front back split count => ?_⟩
    · have bound := fits.count
      rw [counted]
      omega
    · rcases front with _ | ⟨first, front⟩
      · have none : 0 = taken + cap := count
        omega
      · obtain ⟨rfl, rest⟩ := List.cons.inj split
        rw [counted] at count
        exact fits.last front back rest (by omega)

theorem fits_cons_of_some (held : object? line = some record) :
    Fits (cap + 1) (line :: lines) ↔ Fits cap lines := by
  rw [Nat.add_comm]
  refine fits_cons_iff (fun lines => ?_) (by omega)
  rw [objects_cons_of_some held, List.length_cons, Nat.add_comm]

theorem fits_cons_of_none (other : object? line = none) :
    Fits (cap + 1) (line :: lines) ↔ Fits (cap + 1) lines := by
  have same : Fits (0 + (cap + 1)) (line :: lines) ↔ Fits (cap + 1) lines :=
    fits_cons_iff (fun lines => by rw [objects_cons_of_none other, Nat.zero_add]) (by omega)
  rwa [Nat.zero_add] at same

theorem UpTo.nil : UpTo 0 [] := ⟨rfl, fun _ last => by cases last⟩

/-- Nothing stands up to no object. -/
theorem UpTo.eq_nil (upTo : UpTo 0 lines) : lines = [] := by
  rcases last : lines.getLast? with _ | line
  · exact List.getLast?_eq_none_iff.mp last
  · obtain ⟨record, held⟩ := Option.isSome_iff_exists.mp (upTo.last line last)
    have kept : record ∈ objects lines :=
      List.mem_filterMap.mpr ⟨line, List.mem_of_getLast? last, held⟩
    rw [List.length_eq_zero_iff.mp upTo.count] at kept
    cases kept

theorem UpTo.ne_nil (upTo : UpTo (n + 1) lines) : lines ≠ [] := by
  rintro rfl
  cases upTo.count

/-- The last line of several is the last of those after the first. -/
theorem UpTo.last_cons (upTo : UpTo n lines) (held : lines = [] → (object? line).isSome) :
    ∀ last, (line :: lines).getLast? = some last → (object? last).isSome := by
  intro last ends
  rcases lines with _ | ⟨next, lines⟩
  · cases ends
    exact held rfl
  · exact upTo.last last (by rwa [List.getLast?_cons_cons] at ends)

theorem UpTo.cons_of_some (held : object? line = some record) (upTo : UpTo n lines) :
    UpTo (n + 1) (line :: lines) :=
  ⟨by rw [objects_cons_of_some held, List.length_cons, upTo.count],
    upTo.last_cons fun _ => by rw [held]; rfl⟩

theorem UpTo.cons_of_none (other : object? line = none) (upTo : UpTo (n + 1) lines) :
    UpTo (n + 1) (line :: lines) :=
  ⟨by rw [objects_cons_of_none other, upTo.count],
    upTo.last_cons fun none => (upTo.ne_nil none).elim⟩

theorem UpTo.of_cons_of_some (held : object? line = some record)
    (upTo : UpTo (n + 1) (line :: lines)) : UpTo n lines := by
  refine ⟨?_, fun last ends => upTo.last last ?_⟩
  · simpa [objects_cons_of_some held] using upTo.count
  · rw [List.getLast?_cons, ends]
    rfl

theorem UpTo.of_cons_of_none (other : object? line = none)
    (upTo : UpTo (n + 1) (line :: lines)) : UpTo (n + 1) lines := by
  refine ⟨?_, fun last ends => upTo.last last ?_⟩
  · simpa [objects_cons_of_none other] using upTo.count
  · rw [List.getLast?_cons, ends]
    rfl

/-- Lines fit, or they go on after the object at the cap. -/
theorem fits_or_upTo (cap : Nat) (lines : List (List UInt8)) :
    Fits cap lines ∨ ∃ front back, lines = front ++ back ∧ back ≠ [] ∧ UpTo cap front := by
  induction lines generalizing cap with
  | nil => exact .inl (.nil cap)
  | cons line lines ih =>
      rcases cap with _ | cap
      · exact .inr ⟨[], line :: lines, rfl, List.cons_ne_nil line lines, .nil⟩
      · rcases held : object? line with _ | record
        · rcases ih (cap + 1) with fits | ⟨front, back, rfl, more, upTo⟩
          · exact .inl ((fits_cons_of_none held).mpr fits)
          · exact .inr ⟨line :: front, back, rfl, more, upTo.cons_of_none held⟩
        · rcases ih cap with fits | ⟨front, back, rfl, more, upTo⟩
          · exact .inl ((fits_cons_of_some held).mpr fits)
          · exact .inr ⟨line :: front, back, rfl, more, upTo.cons_of_some held⟩

/-- The objects up to the `n`-th are the first `n`. -/
theorem UpTo.objects_eq_take (upTo : UpTo n front) :
    objects front = (objects (front ++ back)).take n := by
  rw [objects_append, ← upTo.count, List.take_left]

/-! ### A collector and its room -/

theorem filled_cons_of_blank (blank : trimWith isAsciiBlank line = []) :
    filled (line :: lines) = filled lines := by
  rw [filled, List.map_cons, List.filter_cons_of_neg (by simp [blank])]
  rfl

theorem filled_cons_of_filled (text : trimWith isAsciiBlank line ≠ []) :
    filled (line :: lines) = trimWith isAsciiBlank line :: filled lines := by
  rw [filled, List.map_cons, List.filter_cons_of_pos (by simpa using text)]
  rfl

namespace Collector

variable {c : Collector}

/-- How many more records are wanted. -/
def room (c : Collector) : Nat := c.cap - c.size

/-- The result is truncated, and a warning is given. -/
def cut (c : Collector) : Collector :=
  { c with truncated := true, latestWarnings := .truncated :: c.latestWarnings }

/-- An object is kept. -/
theorem keep_of_some (held : object? line = some record) :
    c.keep line = { c with newest := record :: c.newest, size := c.size + 1 } := by
  unfold object? at held
  unfold keep LineContent.ofBytes
  rcases read : Value.ofBytes? line with _ | value
  · rw [read] at held; cases held
  · cases value <;> rw [read] at held <;> cases held
    rfl

/-- A line that holds no object is counted, and a warning is given. -/
theorem keep_of_none (other : object? line = none) :
    c.keep line =
      { c with
        skippedLines := c.skippedLines + 1
        latestWarnings := skipWarning line :: c.latestWarnings } := by
  unfold object? at other
  unfold keep LineContent.ofBytes skipWarning
  rcases read : Value.ofBytes? line with _ | value
  · rfl
  · cases value with
    | object members => rw [read] at other; cases other
    | null | bool | number | string | array => rfl

/-- Filled lines are taken one after another, with room for all of them. -/
def keepAll (c : Collector) (lines : List (List UInt8)) : Collector := lines.foldl keep c

/-- **What filled lines make of a collector**: their objects are its records, and of the others
each is counted and has a warning. -/
theorem keepAll_eq (c : Collector) (lines : List (List UInt8)) :
    c.keepAll lines =
      { c with
        newest := (objects lines).reverse ++ c.newest
        size := c.size + (objects lines).length
        skippedLines := c.skippedLines + (others lines).length
        latestWarnings := ((others lines).map skipWarning).reverse ++ c.latestWarnings } := by
  induction lines generalizing c with
  | nil => rfl
  | cons line lines ih =>
      refine (ih (c.keep line)).trans ?_
      rcases held : object? line with _ | record
      · rw [keep_of_none held, objects_cons_of_none held, others_cons_of_none held]
        simp [Nat.add_right_comm, ← Nat.add_assoc]
      · rw [keep_of_some held, objects_cons_of_some held, others_cons_of_some held]
        simp [Nat.add_right_comm, ← Nat.add_assoc]

theorem room_keep_of_some (held : object? line = some record) :
    (c.keep line).room = c.room - 1 := by
  rw [keep_of_some held]
  exact Nat.sub_add_eq c.cap c.size 1

theorem room_keep_of_none (other : object? line = none) : (c.keep line).room = c.room := by
  rw [keep_of_none other]
  rfl

/-- Lines that fit have room for the first, and the others fit in what is left of it. -/
theorem fits_keep (fits : Fits c.room (line :: lines)) :
    c.room ≠ 0 ∧ Fits (c.keep line).room lines := by
  rcases wanted : c.room with _ | n <;> rw [wanted] at fits
  · cases fits.eq_nil
  · refine ⟨Nat.succ_ne_zero n, ?_⟩
    rcases held : object? line with _ | record
    · rw [room_keep_of_none held, wanted]
      exact (fits_cons_of_none held).mp fits
    · rw [room_keep_of_some held, wanted]
      exact (fits_cons_of_some held).mp fits

/-- So do lines up to the object at the cap. -/
theorem upTo_keep (upTo : UpTo c.room (line :: lines)) :
    c.room ≠ 0 ∧ UpTo (c.keep line).room lines := by
  rcases wanted : c.room with _ | n <;> rw [wanted] at upTo
  · cases upTo.eq_nil
  · refine ⟨Nat.succ_ne_zero n, ?_⟩
    rcases held : object? line with _ | record
    · rw [room_keep_of_none held, wanted]
      exact upTo.of_cons_of_none held
    · rw [room_keep_of_some held, wanted]
      exact upTo.of_cons_of_some held

theorem push_of_blank (blank : trimWith isAsciiBlank line = []) : c.push line = (.more, c) := by
  simp only [push, blank, List.isEmpty_nil, if_true]

theorem push_of_full (text : trimWith isAsciiBlank line ≠ []) (full : c.room = 0) :
    c.push line = (.stop, c.cut) := by
  have reached : c.cap ≤ c.size := by unfold room at full; omega
  simp only [push, List.isEmpty_iff, text, reached, if_false, if_true]
  rfl

theorem push_of_room (text : trimWith isAsciiBlank line ≠ []) (wanted : c.room ≠ 0) :
    c.push line = (.more, c.keep (trimWith isAsciiBlank line)) := by
  have below : ¬ c.cap ≤ c.size := by unfold room at wanted; omega
  simp only [push, List.isEmpty_iff, text, below, if_false]

/-- **Lines that fit are all taken.** -/
theorem pushAll_of_fits (fits : Fits c.room (filled lines)) :
    c.pushAll lines = c.keepAll (filled lines) := by
  -- the room shrinks with the lines, so that what is left of them fits in what is left of it
  induction lines generalizing c with
  | nil => rfl
  | cons line lines ih =>
      by_cases blank : trimWith isAsciiBlank line = []
      · rw [filled_cons_of_blank blank] at fits ⊢
        rw [pushAll, push_of_blank blank]
        exact ih fits
      · rw [filled_cons_of_filled blank] at fits ⊢
        obtain ⟨wanted, rest⟩ := fits_keep fits
        rw [pushAll, push_of_room blank wanted]
        exact ih rest

/-- **Of lines that go on after the object at the cap those up to it are taken.** -/
theorem pushAll_of_upTo (upTo : UpTo c.room front) (split : filled lines = front ++ back)
    (more : back ≠ []) : c.pushAll lines = (c.keepAll front).cut := by
  induction lines generalizing c front with
  | nil => exact absurd (List.append_eq_nil_iff.mp split.symm).2 more
  | cons line lines ih =>
      by_cases blank : trimWith isAsciiBlank line = []
      · rw [filled_cons_of_blank blank] at split
        rw [pushAll, push_of_blank blank]
        exact ih upTo split
      · rw [filled_cons_of_filled blank] at split
        rcases front with _ | ⟨first, front⟩
        · -- nothing more is wanted, and this line shows that there is more
          rw [pushAll, push_of_full blank upTo.count.symm]
          rfl
        · obtain ⟨rfl, rest⟩ := List.cons.inj split
          obtain ⟨wanted, upTo⟩ := upTo_keep upTo
          rw [pushAll, push_of_room blank wanted]
          exact ih upTo rest

end Collector

/-! ### The records of an output -/

section

variable {output : List UInt8}

theorem collectOutput_of_fits (fits : Fits cap (filledLines output)) :
    collectOutput output cap = (Collector.start cap).keepAll (filledLines output) :=
  Collector.pushAll_of_fits fits

theorem collectOutput_of_upTo (upTo : UpTo cap front) (split : filledLines output = front ++ back)
    (more : back ≠ []) :
    collectOutput output cap = ((Collector.start cap).keepAll front).cut :=
  Collector.pushAll_of_upTo upTo split more

end

namespace ResultSet

variable {output : List UInt8}

theorem ofOutput_of_fits (fits : Fits cap (filledLines output)) :
    ofOutput output cap =
      ⟨objects (filledLines output), false, (others (filledLines output)).length⟩ := by
  rw [ofOutput, collectOutput_of_fits fits, Collector.keepAll_eq]
  simp [Collector.start, Collector.finish, Collector.records]

theorem ofOutput_of_upTo (upTo : UpTo cap front) (split : filledLines output = front ++ back)
    (more : back ≠ []) : ofOutput output cap = ⟨objects front, true, (others front).length⟩ := by
  rw [ofOutput, collectOutput_of_upTo upTo split more, Collector.keepAll_eq]
  simp [Collector.start, Collector.cut, Collector.finish, Collector.records]

/-- The records of an output are the first of its objects, at most as many as the cap. -/
theorem records_ofOutput (output : List UInt8) (cap : Nat) :
    (ofOutput output cap).records = (objects (filledLines output)).take cap := by
  obtain fits | ⟨front, back, split, more, upTo⟩ := fits_or_upTo cap (filledLines output)
  · rw [ofOutput_of_fits fits, List.take_of_length_le fits.count]
  · rw [ofOutput_of_upTo upTo split more, split, upTo.objects_eq_take]

/-- **The names of a record differ.** -/
theorem distinct_of_mem_records (mem : record ∈ (ofOutput output cap).records) :
    (record.map Prod.fst).Nodup := by
  rw [records_ofOutput] at mem
  exact distinct_of_mem_objects (List.mem_of_mem_take mem)

theorem size_ofOutput_le (output : List UInt8) (cap : Nat) : (ofOutput output cap).size ≤ cap := by
  rw [size, records_ofOutput]
  exact List.length_take_le cap _

/-- Records that are not truncated are all objects of the output. -/
theorem records_ofOutput_of_not_truncated (whole : (ofOutput output cap).truncated = false) :
    (ofOutput output cap).records = objects (filledLines output) := by
  obtain fits | ⟨front, back, split, more, upTo⟩ := fits_or_upTo cap (filledLines output)
  · rw [ofOutput_of_fits fits]
  · rw [ofOutput_of_upTo upTo split more] at whole
    cases whole

/-- Truncated records are as many as the cap. -/
theorem size_ofOutput_of_truncated (truncated : (ofOutput output cap).truncated = true) :
    (ofOutput output cap).size = cap := by
  obtain fits | ⟨front, back, split, more, upTo⟩ := fits_or_upTo cap (filledLines output)
  · rw [ofOutput_of_fits fits] at truncated
    cases truncated
  · rw [ofOutput_of_upTo upTo split more]
    exact upTo.count

/-- **The records of an output under a cap.** If the filled lines fit, the records are all their
objects, and every line is a record or was skipped. If not, the result is truncated: the records
are the first objects, as many as the cap, and what was skipped are the other lines up to the last
of these objects. -/
theorem ofOutput_eq_objects_upTo_cap (output : List UInt8) (cap : Nat) :
    (Fits cap (filledLines output) →
      ofOutput output cap =
          ⟨objects (filledLines output), false, (others (filledLines output)).length⟩ ∧
        (ofOutput output cap).size + (ofOutput output cap).skippedLines =
          (filledLines output).length) ∧
    (¬ Fits cap (filledLines output) →
      ∃ front back, filledLines output = front ++ back ∧ back ≠ [] ∧ UpTo cap front ∧
        (cap = 0 → front = []) ∧
        ofOutput output cap =
          ⟨(objects (filledLines output)).take cap, true, (others front).length⟩ ∧
        (ofOutput output cap).size = cap) := by
  constructor
  · intro fits
    rw [ofOutput_of_fits fits]
    exact ⟨rfl, length_objects_add_length_others (filledLines output)⟩
  · intro overfull
    obtain fits | ⟨front, back, split, more, upTo⟩ := fits_or_upTo cap (filledLines output)
    · exact absurd fits overfull
    · refine ⟨front, back, split, more, upTo, ?_, ?_, ?_⟩
      · rintro rfl
        exact upTo.eq_nil
      · rw [ofOutput_of_upTo upTo split more, split, upTo.objects_eq_take]
      · rw [ofOutput_of_upTo upTo split more]
        exact upTo.count

/-- Under a cap of one, the lines `7` and `{}` fit, and `{}` and `7` do not. -/
theorem ofOutput_eq_objects_upTo_cap_one :
    (Fits 1 (filledLines [0x37, 0x0A, 0x7B, 0x7D, 0x0A]) ∧
      ofOutput [0x37, 0x0A, 0x7B, 0x7D, 0x0A] 1 = ⟨[[]], false, 1⟩) ∧
    (¬ Fits 1 (filledLines [0x7B, 0x7D, 0x0A, 0x37]) ∧
      (ofOutput [0x7B, 0x7D, 0x0A, 0x37] 1).truncated = true) := by
  have number : object? [0x37] = none := by
    have text : Utf8.decode? [0x37] = some ['7'] := by
      simp [Utf8.decode?, Utf8.read_cons, Utf8.next]
    rw [object?, Value.ofBytes?, text]
    rfl
  have empty : object? [0x7B, 0x7D] = some [] := object?_braces
  have fits : Fits 1 [[0x37], [0x7B, 0x7D]] :=
    (fits_cons_of_none number).mpr ((fits_cons_of_some empty).mpr (.nil 0))
  have overfull : ¬ Fits 1 [[0x7B, 0x7D], [0x37]] := fun fits =>
    List.cons_ne_nil _ _ ((fits_cons_of_some empty).mp fits).eq_nil
  refine ⟨⟨fits, ?_⟩, overfull, ?_⟩
  · have taken := ((ofOutput_eq_objects_upTo_cap [0x37, 0x0A, 0x7B, 0x7D, 0x0A] 1).1 fits).1
    have lines : filledLines [0x37, 0x0A, 0x7B, 0x7D, 0x0A] = [[0x37], [0x7B, 0x7D]] := rfl
    rw [taken, lines, objects_cons_of_none number, others_cons_of_none number,
      objects_cons_of_some empty, others_cons_of_some empty]
    rfl
  · obtain ⟨_, _, -, -, -, -, taken, -⟩ :=
      (ofOutput_eq_objects_upTo_cap [0x7B, 0x7D, 0x0A, 0x37] 1).2 overfull
    rw [taken]

end ResultSet

end Enquiry

import Mathlib.Data.List.Induction
import Enquiry.Proofs.Json.Numbers

/-!
# Values there and back

`Value.Legible levels` says of a value that brackets nest at most `levels` deep in it, that its
numbers are legible, and that no object has a name twice.  `Value.shape` is the shape of its text.
What such a value is written as is read up to its end, whatever follows, as this shape, and the
shape means the value (`Value.Legible.readsAs`).  The steps of the reader are enough when there are
two for each character of the text: a value is at least one character, and so is each comma or
bracket behind it.

A value is *plain* when its numbers are integers of 64 bits (`Value.Plain`); then it is legible.
**A legible value is read as it was written** (`Value.read?_compactChars`), and **no object that is
read has a name twice**, whatever the text (`Value.wellFormed_of_ofBytes?`).
-/

namespace Enquiry.Json

open Text Number

/-- Brackets nest at most `levels` deep, numbers are legible, and the names of an object differ. -/
inductive Value.Legible : Nat → Value → Prop
  | null (levels : Nat) : Legible levels .null
  | bool (levels : Nat) (b : Bool) : Legible levels (.bool b)
  | number (levels : Nat) {n : Numeric} (legible : n.Legible) : Legible levels (.number n)
  | string (levels : Nat) (s : String) : Legible levels (.string s)
  | array {levels : Nat} {items : List Value} (legible : ∀ v ∈ items, Legible levels v) :
      Legible (levels + 1) (.array items)
  | object {levels : Nat} {members : Members} (distinct : (members.map Prod.fst).Nodup)
      (legible : ∀ member ∈ members, Legible levels member.2) :
      Legible (levels + 1) (.object members)

/-- Brackets nest at most `levels` deep, numbers are integers of 64 bits, and the names of an
object differ. -/
inductive Value.Plain : Nat → Value → Prop
  | null (levels : Nat) : Plain levels .null
  | bool (levels : Nat) (b : Bool) : Plain levels (.bool b)
  | integer (levels : Nat) {n : Int} (fits : FitsWord n) : Plain levels (.number (.integer n))
  | string (levels : Nat) (s : String) : Plain levels (.string s)
  | array {levels : Nat} {items : List Value} (plain : ∀ v ∈ items, Plain levels v) :
      Plain (levels + 1) (.array items)
  | object {levels : Nat} {members : Members} (distinct : (members.map Prod.fst).Nodup)
      (plain : ∀ member ∈ members, Plain levels member.2) : Plain (levels + 1) (.object members)

theorem Value.Plain.legible {levels : Nat} {v : Value} (h : v.Plain levels) :
    v.Legible levels := by
  induction h with
  | null levels => exact .null levels
  | bool levels b => exact .bool levels b
  | integer levels fits => exact .number levels (.integer fits)
  | string levels s => exact .string levels s
  | array _ ih => exact .array ih
  | object distinct _ ih => exact .object distinct ih

/-! ### Shapes -/

/-- The code points of a string. -/
def codePoints (s : String) : List Nat := s.toList.map Char.toNat

mutual

/-- The shape of the text of a value. -/
def Value.shape : Value → Written
  | .null => .null
  | .bool b => .bool b
  | .number n => .number n.numeral
  | .string s => .string (codePoints s)
  | .array items => .array (itemShapes items)
  | .object members => .object (memberShapes members)

def itemShapes : List Value → List Written
  | [] => []
  | v :: items => v.shape :: itemShapes items

def memberShapes : List (String × Value) → List (List Nat × Written)
  | [] => []
  | (name, v) :: members => (codePoints name, v.shape) :: memberShapes members

end

theorem itemShapes_eq_map (items : List Value) : itemShapes items = items.map Value.shape := by
  induction items with
  | nil => rfl
  | cons v items ih => rw [itemShapes, ih, List.map_cons]

theorem memberShapes_eq_map (members : Members) :
    memberShapes members = members.map fun m => (codePoints m.1, m.2.shape) := by
  induction members with
  | nil => rfl
  | cons member members ih => rw [memberShapes, ih, List.map_cons]

/-! ### Members with different names -/

/-- Whatever members are given, the names of those that stay differ. -/
theorem nodup_membersOf (pairs : Members) : ((membersOf pairs).map Prod.fst).Nodup := by
  -- from the last pair on, as it is put into what the others have made
  induction pairs using List.reverseRecOn with
  | nil => exact List.nodup_nil
  | append_singleton pairs pair ih =>
      rw [membersOf, List.foldl_append]
      exact nodup_assign ih

/-- The members that stay are among those that are given. -/
theorem mem_of_mem_membersOf {pairs : Members} {member : String × Value}
    (h : member ∈ membersOf pairs) : member ∈ pairs := by
  induction pairs using List.reverseRecOn with
  | nil => cases h
  | append_singleton pairs pair ih =>
      rw [membersOf, List.foldl_append] at h
      rcases mem_of_mem_assign h with rfl | old
      · exact List.mem_append_right pairs (List.mem_singleton_self pair)
      · exact List.mem_append_left [pair] (ih old)

/-- Members with different names stay as they are when they are put in one after another. -/
theorem membersOf_of_nodup {members : Members} (distinct : (members.map Prod.fst).Nodup) :
    membersOf members = members := by
  induction members using List.reverseRecOn with
  | nil => rfl
  | append_singleton members member ih =>
      rw [List.map_append, List.nodup_append] at distinct
      have new : member.1 ∉ members.map Prod.fst := fun inside =>
        distinct.2.2 member.1 inside member.1 (by simp) rfl
      have last : membersOf (members ++ [member]) =
          assign member.1 member.2 (membersOf members) := List.foldl_append
      rw [last, ih distinct.1, assign_of_not_mem new member.2]

/-! ### What is read

A text may give a name of an object twice, but the value that is read of it never has one twice,
in whatever depth.
-/

/-- No object in a value has a name twice. -/
inductive Value.WellFormed : Value → Prop
  | null : WellFormed .null
  | bool (b : Bool) : WellFormed (.bool b)
  | number (n : Numeric) : WellFormed (.number n)
  | string (s : String) : WellFormed (.string s)
  | array {items : List Value} (wellFormed : ∀ v ∈ items, WellFormed v) :
      WellFormed (.array items)
  | object {members : Members} (distinct : (members.map Prod.fst).Nodup)
      (wellFormed : ∀ member ∈ members, WellFormed member.2) : WellFormed (.object members)

theorem Value.WellFormed.distinct {members : Members} (h : (Value.object members).WellFormed) :
    (members.map Prod.fst).Nodup := by
  cases h with
  | object distinct _ => exact distinct

theorem Value.WellFormed.of_mem {items : List Value} {v : Value}
    (h : (Value.array items).WellFormed) (mem : v ∈ items) : v.WellFormed := by
  cases h with
  | array wellFormed => exact wellFormed v mem

mutual

/-- What a text means is well-formed, also where the text has a name twice. -/
theorem Written.wellFormed_of_value? : ∀ {levels : Nat} {w : Written} {v : Value},
    w.value? levels = some v → v.WellFormed
  | _, .null, _, rfl => .null
  | _, .bool b, _, rfl => .bool b
  | _, .number _, _, h => by
      obtain ⟨n, -, rfl⟩ := Option.map_eq_some_iff.mp h
      exact .number n
  | _, .string _, _, h => by
      obtain ⟨s, -, rfl⟩ := Option.map_eq_some_iff.mp h
      exact .string s
  | levels + 1, .array _, _, h => by
      obtain ⟨items, read, rfl⟩ := Option.map_eq_some_iff.mp h
      exact .array (wellFormed_of_valuesOf? read)
  | levels + 1, .object _, _, h => by
      obtain ⟨pairs, read, rfl⟩ := Option.map_eq_some_iff.mp h
      -- the pairs may have a name twice, what is made of them has not
      exact .object (nodup_membersOf pairs) fun member mem =>
        wellFormed_of_membersOf? read member (mem_of_mem_membersOf mem)

theorem wellFormed_of_valuesOf? : ∀ {levels : Nat} {ws : List Written} {items : List Value},
    valuesOf? levels ws = some items → ∀ v ∈ items, v.WellFormed
  | _, [], _, rfl => nofun
  | levels, w :: ws, items, h => by
      rw [valuesOf?] at h
      split at h
      next => cases h
      next v read =>
          obtain ⟨rest, later, rfl⟩ := Option.map_eq_some_iff.mp h
          exact List.forall_mem_cons.mpr
            ⟨Written.wellFormed_of_value? read, wellFormed_of_valuesOf? later⟩

theorem wellFormed_of_membersOf? :
    ∀ {levels : Nat} {ms : List (List Nat × Written)} {pairs : Members},
      membersOf? levels ms = some pairs → ∀ pair ∈ pairs, pair.2.WellFormed
  | _, [], _, rfl => nofun
  | levels, (name, w) :: ms, pairs, h => by
      rw [membersOf?] at h
      split at h
      next s v _ read =>
          obtain ⟨rest, later, rfl⟩ := Option.map_eq_some_iff.mp h
          exact List.forall_mem_cons.mpr
            ⟨Written.wellFormed_of_value? read, wellFormed_of_membersOf? later⟩
      next => cases h

end

/-- **No object that is read has a name twice.** -/
theorem Value.wellFormed_of_ofBytes? {bytes : List UInt8} {v : Value}
    (h : ofBytes? bytes = some v) : v.WellFormed := by
  obtain ⟨text, -, h⟩ := Option.bind_eq_some_iff.mp h
  obtain ⟨w, -, meant⟩ := Option.bind_eq_some_iff.mp h
  exact Written.wellFormed_of_value? meant

/-! ### Readings -/

/-- The text of a value is read as a shape, whatever follows, and the shape means the value. -/
structure ReadsAs (levels : Nat) (v : Value) (w : Written) : Prop where
  /-- The text begins with a character that is no blank and no closing bracket. -/
  starts : ∃ c cs, v.compactChars = c :: cs ∧ Written.isGap c = false ∧ c ≠ ']'
  read : ∀ steps rest, 2 * v.compactChars.length ≤ steps → Closes rest →
    Written.readValue? steps levels (v.compactChars ++ rest) = some (w, rest)
  value : w.value? levels = some v

/-! ### Steps of the reader -/

namespace Written

variable {steps levels : Nat} {text after rest : List Char} {name : List Nat} {w : Written}

theorem skipGap_cons {c : Char} (h : isGap c = false) (rest : List Char) :
    skipGap (c :: rest) = c :: rest := by
  rw [skipGap, List.dropWhile_cons_of_neg (by simp [h])]

attribute [local simp] readValue? readItems? readMembers? skipGap_cons isGap

/-- The last element of an array. -/
theorem readItems?_of_bracket (value : readValue? steps levels text = some (w, ']' :: rest)) :
    readItems? (steps + 1) levels text = some ([w], rest) := by
  rw [readItems?, value]
  rfl

/-- An element of an array that others follow. -/
theorem readItems?_of_comma {ws : List Written}
    (value : readValue? steps levels text = some (w, ',' :: after))
    (later : readItems? steps levels after = some (ws, rest)) :
    readItems? (steps + 1) levels text = some (w :: ws, rest) := by
  simp [value, later]

/-- A name in quotes is read, and the colon behind it is left. -/
theorem readString?_name (name : String) (rest : List Char) :
    readString? [] (name.toList.flatMap escapeChar ++ '"' :: ':' :: rest) =
      some (name.toList.map Char.toNat, ':' :: rest) :=
  readString?_quote [] name.toList (':' :: rest)

/-- The last member of an object. -/
theorem readMembers?_of_brace (named : readString? [] text = some (name, ':' :: after))
    (value : readValue? steps levels after = some (w, '\x7d' :: rest)) :
    readMembers? (steps + 1) levels ('"' :: text) = some ([(name, w)], rest) := by
  simp [named, value]

/-- A member of an object that others follow. -/
theorem readMembers?_of_comma {next : List Char} {ws : List (List Nat × Written)}
    (named : readString? [] text = some (name, ':' :: after))
    (value : readValue? steps levels after = some (w, ',' :: next))
    (later : readMembers? steps levels next = some (ws, rest)) :
    readMembers? (steps + 1) levels ('"' :: text) = some ((name, w) :: ws, rest) := by
  simp [named, value, later]

end Written

namespace StartsNumber

variable {c : Char}

theorem ne (h : StartsNumber c) {d : Char} (notDigit : isAsciiDigit d = false)
    (notMinus : d ≠ '-') : c ≠ d := by
  rintro rfl
  rcases h with digit | minus
  · rw [notDigit] at digit
    cases digit
  · exact notMinus minus

theorem isGap_eq_false (h : StartsNumber c) : Written.isGap c = false := by
  have space : c ≠ ' ' := h.ne (by decide) (by decide)
  have lineFeed : c ≠ '\n' := h.ne (by decide) (by decide)
  have tab : c ≠ '\t' := h.ne (by decide) (by decide)
  have carriageReturn : c ≠ '\r' := h.ne (by decide) (by decide)
  simp [Written.isGap, space, lineFeed, tab, carriageReturn]

end StartsNumber

/-- A text that begins like a number is read as one. -/
theorem readValue?_of_readNumeral? {c : Char} {cs rest : List Char} {n : Numeral}
    (first : StartsNumber c) (read : Written.readNumeral? (c :: cs) = some (n, rest))
    (steps levels : Nat) :
    Written.readValue? (steps + 1) levels (c :: cs) = some (.number n, rest) := by
  have n : c ≠ 'n' := first.ne (by decide) (by decide)
  have t : c ≠ 't' := first.ne (by decide) (by decide)
  have f : c ≠ 'f' := first.ne (by decide) (by decide)
  have quote : c ≠ '"' := first.ne (by decide) (by decide)
  have bracket : c ≠ '[' := first.ne (by decide) (by decide)
  have brace : c ≠ '\x7b' := first.ne (by decide) (by decide)
  have gap := Written.skipGap_cons first.isGap_eq_false cs
  simp [Written.readValue?, gap, n, t, f, quote, bracket, brace, read]

namespace ReadsAs

open Written (readValue? readItems? readMembers? skipGap_cons readString?_quote readString?_name
  readItems?_of_bracket readItems?_of_comma readMembers?_of_brace readMembers?_of_comma)

variable {levels : Nat}

attribute [local simp] readValue? skipGap_cons Written.isGap Written.value? Value.compactChars

theorem null : ReadsAs levels .null .null := by
  refine ⟨⟨'n', _, rfl, rfl, by decide⟩, fun steps rest enough _ => ?_, rfl⟩
  cases steps with
  | zero => simp at enough
  | succ steps => simp

theorem bool (b : Bool) : ReadsAs levels (.bool b) (.bool b) := by
  refine ⟨?_, fun steps rest enough _ => ?_, rfl⟩
  · cases b
    · exact ⟨'f', _, rfl, rfl, by decide⟩
    · exact ⟨'t', _, rfl, rfl, by decide⟩
  · cases steps with
    | zero => cases b <;> simp at enough
    | succ steps => cases b <;> simp

theorem number {n : Numeric} (legible : n.Legible) :
    ReadsAs levels (.number n) (.number n.numeral) := by
  obtain ⟨c, cs, text, first⟩ := Written.exists_eq_cons_of_readNumeral? legible.read
  refine ⟨⟨c, cs, text, first.isGap_eq_false, first.ne (by decide) (by decide)⟩,
    fun steps rest enough closes => ?_, ?_⟩
  · have read := Written.readNumeral?_append closes legible.read
    rw [Value.compactChars] at enough ⊢
    rw [text, List.cons_append] at read ⊢
    cases steps with
    | zero => simp [text] at enough
    | succ steps => exact readValue?_of_readNumeral? first read steps levels
  · simp [legible.value]

theorem string (s : String) : ReadsAs levels (.string s) (.string (codePoints s)) := by
  refine ⟨⟨'"', _, rfl, rfl, by decide⟩, fun steps rest enough _ => ?_, ?_⟩
  · cases steps with
    | zero => simp [quote] at enough
    | succ steps =>
        have read := readString?_quote [] s.toList rest
        simp [quote, read, codePoints]
  · simp [codePoints, stringOf?_map_toNat]

/-! ### Arrays -/

theorem valuesOf?_itemShapes {items : List Value} (h : ∀ v ∈ items, ReadsAs levels v v.shape) :
    valuesOf? levels (itemShapes items) = some items := by
  induction items with
  | nil => rfl
  | cons v items ih =>
      obtain ⟨here, later⟩ := List.forall_mem_cons.mp h
      simp [itemShapes, valuesOf?, here.value, ih later]

/-- The elements of an array are read up to the closing bracket. -/
theorem readItems?_compactItems {items : List Value} (h : ∀ v ∈ items, ReadsAs levels v v.shape)
    (some : items ≠ []) (steps : Nat) (rest : List Char)
    (enough : 2 * (compactItems items).length ≤ steps) :
    readItems? steps levels (compactItems items ++ rest) = .some (itemShapes items, rest) := by
  induction items generalizing steps with
  | nil => exact absurd rfl some
  | cons v items ih =>
      obtain ⟨here, later⟩ := List.forall_mem_cons.mp h
      -- the character behind the element, a bracket or a comma, pays for this step
      cases items with
      | nil =>
          rw [compactItems, List.length_append, List.length_singleton] at enough
          obtain ⟨steps, rfl⟩ : ∃ left, steps = left + 1 := ⟨steps - 1, by omega⟩
          have value := here.read steps (']' :: rest) (by omega) (closes_cons (by simp))
          rw [compactItems, List.append_assoc]
          exact readItems?_of_bracket value
      | cons next items =>
          rw [compactItems, List.length_append, List.length_cons] at enough
          obtain ⟨steps, rfl⟩ : ∃ left, steps = left + 1 := ⟨steps - 1, by omega⟩
          have value := here.read steps (',' :: (compactItems (next :: items) ++ rest)) (by omega)
            (closes_cons (by simp))
          have others := ih later (by simp) steps (by omega)
          rw [compactItems, List.append_assoc]
          exact readItems?_of_comma value others

/-- The elements of an array begin like the first of them. -/
theorem exists_compactItems_eq_cons {v : Value} {w : Written} (h : ReadsAs levels v w)
    (items : List Value) :
    ∃ c cs, compactItems (v :: items) = c :: cs ∧ Written.isGap c = false ∧ c ≠ ']' := by
  obtain ⟨c, cs, text, gap, bracket⟩ := h.starts
  cases items with
  | nil => exact ⟨c, _, by rw [compactItems, text, List.cons_append], gap, bracket⟩
  | cons => exact ⟨c, _, by rw [compactItems, text, List.cons_append], gap, bracket⟩

theorem array {items : List Value} (h : ∀ v ∈ items, ReadsAs levels v v.shape) :
    ReadsAs (levels + 1) (.array items) (.array (itemShapes items)) := by
  refine ⟨⟨'[', _, rfl, rfl, by decide⟩, fun steps rest enough _ => ?_, ?_⟩
  · rw [Value.compactChars, List.length_cons] at enough
    obtain ⟨steps, rfl⟩ : ∃ left, steps = left + 1 := ⟨steps - 1, by omega⟩
    cases items with
    | nil =>
        simp [compactItems, itemShapes]
    | cons v items =>
        -- the elements do not begin with a bracket, so the array is not taken for an empty one
        obtain ⟨c, cs, text, gap, bracket⟩ :=
          (h v List.mem_cons_self).exists_compactItems_eq_cons items
        have inner := readItems?_compactItems h (by simp) steps rest (by omega)
        rw [text, List.cons_append] at inner
        simp [text, skipGap_cons gap, bracket, inner]
  · simp [valuesOf?_itemShapes h]

/-! ### Objects -/

theorem membersOf?_memberShapes {members : Members}
    (h : ∀ member ∈ members, ReadsAs levels member.2 member.2.shape) :
    membersOf? levels (memberShapes members) = some members := by
  induction members with
  | nil => rfl
  | cons member members ih =>
      obtain ⟨here, later⟩ := List.forall_mem_cons.mp h
      simp [memberShapes, membersOf?, codePoints, stringOf?_map_toNat, here.value, ih later]

/-- The members of an object are read up to the closing brace. -/
theorem readMembers?_compactMembers {members : Members}
    (h : ∀ member ∈ members, ReadsAs levels member.2 member.2.shape) (some : members ≠ [])
    (steps : Nat) (rest : List Char) (enough : 2 * (compactMembers members).length ≤ steps) :
    readMembers? steps levels (compactMembers members ++ rest) =
      .some (memberShapes members, rest) := by
  induction members generalizing steps with
  | nil => exact absurd rfl some
  | cons member members ih =>
      obtain ⟨name, v⟩ := member
      obtain ⟨here, later⟩ := List.forall_mem_cons.mp h
      have here : ReadsAs levels v v.shape := here
      -- the character behind the value, a brace or a comma, pays for this step
      cases members with
      | nil =>
          rw [compactMembers, List.length_append, List.length_append, List.length_cons] at enough
          obtain ⟨steps, rfl⟩ : ∃ left, steps = left + 1 := ⟨steps - 1, by omega⟩
          have value := here.read steps ('\x7d' :: rest) (by omega) (closes_cons (by simp))
          rw [compactMembers, quote]
          simp only [List.append_assoc, List.cons_append, List.nil_append]
          exact readMembers?_of_brace (readString?_name name _) value
      | cons next members =>
          rw [compactMembers, List.length_append, List.length_append, List.length_cons,
            List.length_cons] at enough
          obtain ⟨steps, rfl⟩ : ∃ left, steps = left + 1 := ⟨steps - 1, by omega⟩
          have value := here.read steps (',' :: (compactMembers (next :: members) ++ rest))
            (by omega) (closes_cons (by simp))
          have others := ih later (by simp) steps (by omega)
          rw [compactMembers, quote]
          simp only [List.append_assoc, List.cons_append, List.nil_append]
          exact readMembers?_of_comma (readString?_name name _) value others

theorem object {members : Members} (distinct : (members.map Prod.fst).Nodup)
    (h : ∀ member ∈ members, ReadsAs levels member.2 member.2.shape) :
    ReadsAs (levels + 1) (.object members) (.object (memberShapes members)) := by
  refine ⟨⟨'\x7b', _, rfl, rfl, by decide⟩, fun steps rest enough _ => ?_, ?_⟩
  · rw [Value.compactChars, List.length_cons] at enough
    obtain ⟨steps, rfl⟩ : ∃ left, steps = left + 1 := ⟨steps - 1, by omega⟩
    cases members with
    | nil =>
        simp [compactMembers, memberShapes]
    | cons member members =>
        -- the members begin with the quote of a name
        obtain ⟨cs, text⟩ : ∃ cs, compactMembers (member :: members) = '"' :: cs := by
          cases members <;> exact ⟨_, rfl⟩
        have inner := readMembers?_compactMembers h (by simp) steps rest (by omega)
        rw [text, List.cons_append] at inner
        simp [text, inner]
  · simp [membersOf?_memberShapes h, membersOf_of_nodup distinct]

end ReadsAs

/-! ### Values -/

/-- The text of a legible value is read as its shape, which means the value. -/
theorem Value.Legible.readsAs {levels : Nat} {v : Value} (h : v.Legible levels) :
    ReadsAs levels v v.shape := by
  induction h with
  | null => exact .null
  | bool _ b => exact .bool b
  | number _ legible => exact .number legible
  | string _ s => exact .string s
  | array _ ih => exact .array ih
  | object distinct _ ih => exact .object distinct ih

theorem Value.Legible.read?_compactChars {levels : Nat} {v : Value} (h : v.Legible levels) :
    Written.read? levels v.compactChars = some v.shape := by
  have whole := h.readsAs.read (2 * v.compactChars.length + 2) [] (by omega) closes_nil
  rw [List.append_nil] at whole
  rw [Written.read?, whole]
  rfl

/-- **A legible value is read as it was written.** -/
theorem Value.read?_compactChars {v : Value} (h : v.Legible maxLevels) :
    Value.read? v.compactChars = some v := by
  rw [Value.read?, h.read?_compactChars, Option.bind_some, h.readsAs.value]

theorem Value.ofBytes?_encode {v : Value} (h : v.Plain maxLevels) :
    Value.ofBytes? (Utf8.encode v.compactChars) = some v := by
  rw [Value.ofBytes?, Utf8.decode?_encode, Option.bind_some, Value.read?_compactChars h.legible]

end Enquiry.Json

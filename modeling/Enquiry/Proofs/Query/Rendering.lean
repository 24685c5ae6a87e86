import Enquiry.Proofs.SortedMap
import Enquiry.Proofs.Text.Splitting
import Enquiry.Query.Compile

/-!
# Queries without templates

`outline` says of which texts and holes the template of a category is made, and a template that is
made of texts and holes is filled one by one (`fill_source`).  So the query of an intent is a plain
concatenation (`ofIntent_eq`): the source, and the stages of `stages`, in which each part of the
intent stands where the category wants it.  No value is read again, whatever braces it has.

`Substituted` says what it is to search a text for holes and to put values in their place.  **The
query is the only text that this makes of the template** (`ofIntent_substitutes`).
-/

namespace Enquiry.Query

open Text Question

/-! ### Templates made of texts and holes -/

/-- How a segment is written in a template. -/
def Segment.source : Segment → List Char
  | .literal text => text
  | .hole name => '{' :: (name ++ ['}'])

/-- The text opens no hole, and the hole has a name. -/
def Segment.isProper : Segment → Bool
  | .literal text => !text.contains '{'
  | .hole name => !name.isEmpty && name.all isWord

theorem fill_text {value? : List Char → Option (List Char)} {text : List Char}
    (h : '{' ∉ text) (rest : List Char) :
    fill value? (text ++ rest) = text ++ fill value? rest := by
  induction text with
  | nil => rfl
  | cons c cs ih =>
      obtain ⟨here, later⟩ := not_or.mp (mt List.mem_cons.mpr h)
      rw [List.cons_append, fill, segments, segmentsFrom, if_neg (Ne.symm here),
        List.flatMap_cons]
      exact congrArg (c :: ·) (ih later)

/-- A brace has been opened, and `read` has been read since: the hole ends behind `name`. -/
theorem segmentsFrom_some {read name : List Char} (h : ∀ c ∈ name, isWord c = true)
    (nonempty : read.reverse ++ name ≠ []) (rest : List Char) :
    segmentsFrom (some read) (name ++ '}' :: rest) =
      .hole (read.reverse ++ name) :: segmentsFrom none rest := by
  induction name generalizing read with
  | nil =>
      have closes : isWord '}' = false := by decide
      have some : read ≠ [] := by simpa using nonempty
      simp [segmentsFrom, closes, some]
  | cons c cs ih =>
      obtain ⟨here, later⟩ := List.forall_mem_cons.mp h
      rw [List.cons_append, segmentsFrom, if_pos here, ih later (by simp)]
      simp

theorem fill_hole {value? : List Char → Option (List Char)} {name : List Char}
    (h : ∀ c ∈ name, isWord c = true) (nonempty : name ≠ []) (rest : List Char) :
    fill value? ('{' :: (name ++ '}' :: rest)) =
      (Segment.hole name).fill value? ++ fill value? rest := by
  have closed := @segmentsFrom_some [] name h nonempty rest
  rw [fill, segments, segmentsFrom, if_pos rfl, closed]
  rfl

/-- A template that is made of segments is filled segment by segment. -/
theorem fill_source {value? : List Char → Option (List Char)} {segs : List Segment}
    (h : ∀ s ∈ segs, s.isProper = true) :
    fill value? (segs.flatMap Segment.source) = segs.flatMap (·.fill value?) := by
  induction segs with
  | nil => rfl
  | cons s segs ih =>
      obtain ⟨here, later⟩ := List.forall_mem_cons.mp h
      rw [List.flatMap_cons, List.flatMap_cons, ← ih later]
      cases s with
      | literal text =>
          have opensNone : '{' ∉ text := by simpa [Segment.isProper] using here
          exact fill_text opensNone _
      | hole name =>
          simp only [Segment.isProper, Bool.and_eq_true, Bool.not_eq_true',
            List.isEmpty_eq_false_iff, List.all_eq_true] at here
          rw [Segment.source, List.cons_append, List.append_assoc]
          exact fill_hole here.2 here.1 _

/-! ### The templates of the categories -/

def lit (text : String) : Segment := .literal text.toList

def hole (name : String) : Segment := .hole name.toList

/-- The template of a category, as texts and holes. -/
def outline : Category → List Segment
  | .topN =>
      [lit "FROM '", hole "locator", lit "' | ", lit "SUMMARIZE ", hole "function", lit "(",
        hole "metric", lit ") BY ", hole "dimension", lit " | ORDER BY ", hole "function", lit "(",
        hole "metric", lit ") DESC | HEAD ", hole "n"]
  | .timeSeries =>
      [lit "FROM '", hole "locator", lit "' | ", lit "SUMMARIZE ", hole "function", lit "(",
        hole "metric", lit ") BY date_trunc('", hole "unit", lit "', ", hole "timestamp_field",
        lit ") | ORDER BY date_trunc('", hole "unit", lit "', ", hole "timestamp_field", lit ")"]
  | .filtering =>
      [lit "FROM '", hole "locator", lit "' | ", lit "WHERE ", hole "predicate", lit " | ",
        hole "operation"]
  | .aggregation =>
      [lit "FROM '", hole "locator", lit "' | ", lit "SUMMARIZE ", hole "function", lit "(",
        hole "metric", lit ") BY ", hole "dimension"]
  | .counting =>
      [lit "FROM '", hole "locator", lit "' | ", hole "filter_clause", lit "SUMMARIZE count()",
        hole "group_by"]

theorem toList_template (category : Category) :
    (template category).toList = (outline category).flatMap Segment.source := by
  cases category <;> decide +kernel

theorem outline_isProper (category : Category) :
    ∀ s ∈ outline category, s.isProper = true := by
  cases category <;> decide

/-! ### The query of an intent -/

/-- The stages of the query of an intent, behind its source. -/
def stages (limit : Nat) (today : Date) : Intent → String
  | .topN n dimension metric function =>
      "SUMMARIZE " ++ function.name ++ "(" ++ metric ++ ") BY " ++ dimension ++ " | ORDER BY " ++
        function.name ++ "(" ++ metric ++ ") DESC | HEAD " ++ numberText n
  | .timeSeries metric unit timestampField function =>
      "SUMMARIZE " ++ function.name ++ "(" ++ metric ++ ") BY date_trunc('" ++ unit.name ++ "', " ++
        timestampField ++ ") | ORDER BY date_trunc('" ++ unit.name ++ "', " ++ timestampField ++ ")"
  | .filtering operation _ predicate =>
      "WHERE " ++ predicate ++ " | " ++ operationClause limit operation
  | .aggregation metric dimension function =>
      "SUMMARIZE " ++ function.name ++ "(" ++ metric ++ ") BY " ++ dimension
  | .counting window groupBy =>
      (window.map (windowClause today)).getD "" ++ "SUMMARIZE count()" ++
        (groupBy.map (" BY " ++ ·)).getD ""

theorem ofIntent_eq_outline (setting : Setting) (intent : Intent) :
    (ofIntent setting intent).toList =
      (outline intent.category).flatMap (·.fill (value? setting intent)) := by
  rw [ofIntent, String.toList_ofList, toList_template, fill_source (outline_isProper _)]

theorem fill_lit (value? : List Char → Option (List Char)) (text : String) :
    (lit text).fill value? = text.toList := rfl

/-- A hole becomes the value of its name. -/
theorem fill_hole_eq (setting : Setting) (intent : Intent) (name : String) :
    (hole name).fill (value? setting intent) =
      ((((values setting intent).lookup name).map String.toList).getD
        ('{' :: name.toList ++ ['}'])) := by
  rw [hole, Segment.fill, value?, String.ofList_toList]

/-- **The query of an intent is its source and its stages.** -/
theorem ofIntent_eq (setting : Setting) (intent : Intent) :
    ofIntent setting intent =
      "FROM '" ++ setting.locator ++ "' | " ++ stages setting.limit setting.today intent := by
  rw [← String.toList_inj, ofIntent_eq_outline]
  unfold stages
  cases intent <;>
    simp only [Intent.category, outline, List.flatMap_cons, List.flatMap_nil, fill_lit,
      fill_hole_eq, values, List.lookup_cons, beq_self_eq_true, String.reduceBEq, Option.map_some,
      Option.getD_some, String.toList_append, List.append_assoc, List.append_nil,
      -String.reduceToList, -String.reduceAppend]

/-! ### Holes searched for from left to right -/

variable {values? : List Char → Option (List Char)} {name rest text query other : List Char}
  {segs : List Segment}

/-- The name of a hole: one or more word characters. -/
structure IsHoleName (name : List Char) : Prop where
  nonempty : name ≠ []
  word : ∀ c ∈ name, isWord c = true

/-- A hole stands at the beginning of the text. -/
def OpensHole (text : List Char) : Prop :=
  ∃ name rest, IsHoleName name ∧ text = '{' :: (name ++ '}' :: rest)

/-- The text is searched from left to right, and its holes make room for their values. Where a hole
begins, it is taken whole and the search goes on behind it, in the text and not in the value; every
other character is kept. A hole without a value has no place here. -/
inductive Substituted (values? : List Char → Option (List Char)) : List Char → List Char → Prop
  | nil : Substituted values? [] []
  | hole {name rest value query : List Char} (named : IsHoleName name)
      (valued : values? name = some value) (later : Substituted values? rest query) :
      Substituted values? ('{' :: (name ++ '}' :: rest)) (value ++ query)
  | char {c : Char} {rest query : List Char} (closed : ¬ OpensHole (c :: rest))
      (later : Substituted values? rest query) : Substituted values? (c :: rest) (c :: query)

theorem IsHoleName.brace_not_mem (named : IsHoleName name) : '}' ∉ name := fun inside => by
  have word := named.word '}' inside
  cases word

/-- One text at most comes of the search. -/
theorem Substituted.unique (made : Substituted values? text query)
    (madeToo : Substituted values? text other) : query = other := by
  induction made generalizing other with
  | nil =>
      cases madeToo
      rfl
  | hole named valued later ih =>
      generalize same : '{' :: (_ ++ '}' :: _) = text at madeToo
      cases madeToo with
      | nil => cases same
      | hole namedToo valuedToo laterToo =>
          -- the name of a hole has no brace, so that it ends at the first one
          have parts := congrArg (breakOn '}') (List.cons.inj same).2
          rw [breakOn_append_cons named.brace_not_mem,
            breakOn_append_cons namedToo.brace_not_mem] at parts
          obtain ⟨rfl, rfl⟩ := Prod.mk.inj parts
          rw [Option.some.inj (valued.symm.trans valuedToo), ih laterToo]
      | char closed => exact absurd ⟨_, _, named, same.symm⟩ closed
  | char closed later ih =>
      generalize same : _ :: _ = text at madeToo
      cases madeToo with
      | nil => cases same
      | hole namedToo => exact absurd ⟨_, _, namedToo, same⟩ closed
      | char _ laterToo =>
          obtain ⟨rfl, rfl⟩ := List.cons.inj same
          rw [ih laterToo]

/-- Before a text without braces the search goes on as it is. -/
theorem Substituted.text_append (free : '{' ∉ text) (later : Substituted values? rest query) :
    Substituted values? (text ++ rest) (text ++ query) := by
  induction text with
  | nil => exact later
  | cons c cs ih =>
      obtain ⟨here, free⟩ := not_or.mp (mt List.mem_cons.mpr free)
      refine .char ?_ (ih free)
      rintro ⟨name, behind, -, same⟩
      exact here (List.cons.inj same).1.symm

/-- A template that is made of segments, all of whose holes have values, is filled segment by
segment. -/
theorem substituted_source (proper : ∀ s ∈ segs, s.isProper = true)
    (valued : ∀ name, .hole name ∈ segs → (values? name).isSome) :
    Substituted values? (segs.flatMap Segment.source) (segs.flatMap (·.fill values?)) := by
  induction segs with
  | nil => exact .nil
  | cons s segs ih =>
      obtain ⟨here, proper⟩ := List.forall_mem_cons.mp proper
      have later := ih proper fun name mem => valued name (List.mem_cons_of_mem _ mem)
      rw [List.flatMap_cons, List.flatMap_cons]
      cases s with
      | literal text =>
          have opensNone : '{' ∉ text := by simpa [Segment.isProper] using here
          exact later.text_append opensNone
      | hole name =>
          simp only [Segment.isProper, Bool.and_eq_true, Bool.not_eq_true',
            List.isEmpty_eq_false_iff, List.all_eq_true] at here
          obtain ⟨value, found⟩ := Option.isSome_iff_exists.mp (valued name List.mem_cons_self)
          rw [Segment.source, List.cons_append, List.append_assoc, Segment.fill, found]
          exact .hole ⟨here.1, here.2⟩ found later

theorem hole_eq_hole_iff {s : String} : .hole name = hole s ↔ String.ofList name = s := by
  constructor
  · intro same
    rw [Segment.hole.inj same, String.ofList_toList]
  · rintro rfl
    rw [hole, String.toList_ofList]

/-- Every hole of a template has a value. -/
theorem isSome_value?_of_mem_outline (setting : Setting) (intent : Intent) (name : List Char)
    (mem : .hole name ∈ outline intent.category) : (value? setting intent name).isSome := by
  rw [value?, Option.isSome_map, isSome_lookup_iff]
  cases intent <;>
    simp only [Intent.category, outline, List.mem_cons, List.not_mem_nil, hole_eq_hole_iff, lit,
      reduceCtorEq, false_or, or_false] at mem <;>
    simp only [values, List.map_cons, List.map_nil, List.mem_cons, List.not_mem_nil, or_false] <;>
    grind

/-- **The query of an intent is what the search makes of its template**, and nothing else is: every
hole of the template is found and has a value, and no value is searched. It is its source and its
stages, whatever the parts of the intent and the locator are. -/
theorem ofIntent_substitutes (setting : Setting) (intent : Intent) :
    ofIntent setting intent =
        "FROM '" ++ setting.locator ++ "' | " ++ stages setting.limit setting.today intent ∧
      ∀ query, Substituted (value? setting intent) (template intent.category).toList query ↔
        query = (ofIntent setting intent).toList := by
  have made : Substituted (value? setting intent) (template intent.category).toList
      (ofIntent setting intent).toList := by
    rw [ofIntent_eq_outline, toList_template]
    exact substituted_source (outline_isProper _) (isSome_value?_of_mem_outline setting intent)
  refine ⟨ofIntent_eq setting intent, fun query => ⟨fun madeToo => madeToo.unique made, ?_⟩⟩
  intro same
  rw [same]
  exact made

end Enquiry.Query

import Enquiry.Proofs.Json.RoundTrip
import Enquiry.Proofs.SortedMap
import Enquiry.Wire.Decoder

/-!
# Reading what was written

A decoder sees the shape of a text.  For each decoder there is a lemma about the shape of a value
that was written for it: a list is read when its elements are (`list_shape`), a map when its values
are (`map_shape`), and a structure has the fields that are members with its names
(`struct_shape`), whatever other members there are.

**What is written is read** when its JSON form is legible and the shape of the form is decoded to
it (`read?_write`).
-/

namespace Enquiry.Json.Value

variable {levels : Nat} {v : Value}

/-! ### Enough levels -/

theorem Legible.mono (h : v.Legible levels) {more : Nat} (le : levels ≤ more) :
    v.Legible more := by
  induction h generalizing more with
  | null => exact .null more
  | bool _ b => exact .bool more b
  | number _ legible => exact .number more legible
  | string _ s => exact .string more s
  | array _ ih =>
      obtain ⟨more, rfl⟩ : ∃ inner, more = inner + 1 := ⟨more - 1, by omega⟩
      exact .array fun v mem => ih v mem (by omega)
  | object distinct _ ih =>
      obtain ⟨more, rfl⟩ : ∃ inner, more = inner + 1 := ⟨more - 1, by omega⟩
      exact .object distinct fun member mem => ih member mem (by omega)

theorem length_le_compactItems {items : List Value} (mem : v ∈ items) :
    v.compactChars.length ≤ (compactItems items).length := by
  induction items with
  | nil => cases mem
  | cons first items ih =>
      cases items with
      | nil =>
          obtain rfl := List.mem_singleton.mp mem
          simp [compactItems]
      | cons next items =>
          rcases List.mem_cons.mp mem with rfl | mem
          · simp [compactItems]
          · have later := ih mem
            rw [compactItems, List.length_append, List.length_cons]
            omega

theorem length_le_compactMembers {members : Members} {member : String × Value}
    (mem : member ∈ members) :
    member.2.compactChars.length ≤ (compactMembers members).length := by
  induction members with
  | nil => cases mem
  | cons first members ih =>
      obtain ⟨name, w⟩ := first
      cases members with
      | nil =>
          obtain rfl := List.mem_singleton.mp mem
          simp [compactMembers]
          omega
      | cons next members =>
          rcases List.mem_cons.mp mem with rfl | mem
          · simp [compactMembers]
            omega
          · have later := ih mem
            rw [compactMembers, List.length_append, List.length_append, List.length_cons,
              List.length_cons]
            omega

/-- Brackets nest less deep than a text is long. -/
theorem Legible.of_length (h : v.Legible levels) : v.Legible v.compactChars.length := by
  induction h with
  | null => exact .null _
  | bool _ b => exact .bool _ b
  | number _ legible => exact .number _ legible
  | string _ s => exact .string _ s
  | array _ ih =>
      rw [compactChars, List.length_cons]
      exact .array fun v mem => (ih v mem).mono (length_le_compactItems mem)
  | object distinct _ ih =>
      rw [compactChars, List.length_cons]
      exact .object distinct fun member mem => (ih member mem).mono (length_le_compactMembers mem)

end Enquiry.Json.Value

namespace Enquiry.Wire

open Json Number

variable {α : Type} {levels : Nat} {d : Decoder α}

/-- **What is written is read** when it is legible and its shape is decoded to it. -/
theorem read?_write [Encodes α] [Decodes α] {a : α}
    (legible : (Encodes.json a).Legible levels)
    (decodes : Decodes.decoder maxLevels (Encodes.json a).shape = some a) :
    read? α (write a) = some a := by
  rw [read?, write, Value.compact, String.length_ofList, String.toList_ofList,
    legible.of_length.read?_compactChars, Option.bind_some, decodes]

/-! ### Scalars, lists and maps -/

@[simp]
theorem text_shape (levels : Nat) (s : String) : text levels (Value.string s).shape = some s :=
  stringOf?_map_toNat s

theorem double_shape {x : Binary64} (legible : (Numeric.real x).Legible) :
    double levels (Value.number (.real x)).shape = some x := by
  rw [Value.shape, double, legible.value]

@[simp]
theorem boolean_shape (levels : Nat) (b : Bool) : boolean levels (Value.bool b).shape = some b :=
  rfl

theorem fitsWord_natCast {n : Nat} (fits : n < wordBound) : FitsWord n :=
  ⟨by omega, by exact_mod_cast fits⟩

theorem nat_legible (levels : Nat) {n : Nat} (fits : n < wordBound) :
    (Value.nat n).Legible levels :=
  .number levels (.integer (fitsWord_natCast fits))

theorem natural_shape {n : Nat} (fits : n < wordBound) :
    natural levels (Value.nat n).shape = some n := by
  have bounds : (0 : Int) ≤ n ∧ (n : Int) ≤ maxNatural := by
    rw [maxNatural]
    omega
  rw [Value.nat, Value.shape, natural, (Numeric.Legible.integer (fitsWord_natCast fits)).value]
  exact if_pos bounds

/-- A number that is read fits in 64 bits. -/
theorem lt_of_natural {w : Written} {n : Nat} (h : natural levels w = some n) : n < wordBound := by
  have bound : maxNatural < wordBound := by decide
  unfold natural at h
  split at h
  · split at h
    · obtain ⟨bounds, h⟩ := Option.ite_none_right_eq_some.mp h
      obtain rfl := Option.some.inj h
      omega
    · cases h
  · cases h

@[simp]
theorem word64_shape (levels : Nat) (n : UInt64) :
    word64 levels (Value.nat n.toNat).shape = some n := by
  rw [word64, natural_shape n.toNat_lt, Option.map_some, UInt64.ofNat_toNat]

@[simp]
theorem nullable_text_shape (levels : Nat) (s : Option String) :
    nullable text levels (Value.string? s).shape = some s := by
  cases s with
  | none => rfl
  | some s => exact congrArg (Option.map some) (text_shape levels s)

theorem string?_legible (levels : Nat) (s : Option String) : (Value.string? s).Legible levels := by
  cases s with
  | none => exact .null levels
  | some s => exact .string levels s

theorem mapM_map_of_forall {β : Type} {f : α → β} {g : β → Option α} {as : List α}
    (each : ∀ a ∈ as, g (f a) = some a) : (as.map f).mapM g = some as := by
  induction as with
  | nil => rfl
  | cons a as ih =>
      obtain ⟨here, later⟩ := List.forall_mem_cons.mp each
      simp [List.mapM_cons, here, ih later]

theorem list_shape {f : α → Value} {as : List α}
    (each : ∀ a ∈ as, d levels (f a).shape = some a) :
    list d (levels + 1) (Value.array (as.map f)).shape = some as := by
  rw [Value.shape, itemShapes_eq_map, List.map_map, list]
  exact mapM_map_of_forall each

@[simp]
theorem strings_shape (ss : List String) :
    list text (levels + 1) (Value.strings ss).shape = some ss :=
  list_shape fun s _ => text_shape levels s

theorem map_shape {f : α → Value} {m : SortedMap α}
    (each : ∀ e ∈ m.entries, d levels (f e.2).shape = some e.2) :
    map d (levels + 1) (mapJson f m).shape = some m := by
  have entries : entries? d levels (memberShapes (m.entries.map fun e => (e.1, f e.2))) =
      some m.entries := by
    rw [memberShapes_eq_map, List.map_map, entries?]
    refine mapM_map_of_forall fun e mem => ?_
    simp [codePoints, stringOf?_map_toNat, each e mem]
  rw [mapJson, Value.shape, map]
  exact (congrArg (Option.map SortedMap.ofList) entries).trans
    (congrArg some (SortedMap.ofList_entries m))

theorem mapJson_legible {f : α → Value} {m : SortedMap α}
    (each : ∀ e ∈ m.entries, (f e.2).Legible levels) : (mapJson f m).Legible (levels + 1) := by
  refine .object (m.mapValues f).ascending.nodup fun member mem => ?_
  obtain ⟨e, inside, rfl⟩ := List.mem_map.mp mem
  exact each e inside

theorem strings_legible (levels : Nat) (ss : List String) :
    (Value.strings ss).Legible (levels + 1) := by
  refine .array fun v mem => ?_
  obtain ⟨s, -, rfl⟩ := List.mem_map.mp mem
  exact .string levels s

/-! ### Structures -/

/-- The members with the given names, by their shapes. -/
def knownShapes (names : List String) (members : Members) : List (String × Written) :=
  (members.filter (·.1 ∈ names)).map fun m => (m.1, m.2.shape)

theorem knownShapes_cons_of_mem {name : String} {names : List String} (known : name ∈ names)
    (v : Value) (members : Members) :
    knownShapes names ((name, v) :: members) = (name, v.shape) :: knownShapes names members := by
  simp [knownShapes, known]

theorem knownShapes_cons_of_not_mem {name : String} {names : List String} (unknown : name ∉ names)
    (v : Value) (members : Members) :
    knownShapes names ((name, v) :: members) = knownShapes names members := by
  simp [knownShapes, unknown]

theorem lookup_knownShapes {name : String} {names : List String} (known : name ∈ names)
    (members : Members) :
    (knownShapes names members).lookup name = (members.lookup name).map Value.shape := by
  induction members with
  | nil => rfl
  | cons member members ih =>
      obtain ⟨other, v⟩ := member
      rw [lookup_cons_eq_ite]
      by_cases here : name = other
      · subst here
        rw [knownShapes_cons_of_mem known, lookup_cons_eq_ite, if_pos rfl, if_pos rfl]
        rfl
      · rw [if_neg here, ← ih]
        by_cases wanted : other ∈ names
        · rw [knownShapes_cons_of_mem wanted, lookup_cons_eq_ite, if_neg here]
        · rw [knownShapes_cons_of_not_mem wanted]

/-- Of members with different names none is refused. -/
theorem knownMembers?_memberShapes (names : List String) {members : Members}
    (distinct : (members.map Prod.fst).Nodup) :
    knownMembers? names (memberShapes members) = some (knownShapes names members) := by
  induction members with
  | nil => rfl
  | cons member members ih =>
      obtain ⟨name, v⟩ := member
      obtain ⟨new, distinct⟩ := List.nodup_cons.mp distinct
      simp only [memberShapes, knownMembers?, codePoints, stringOf?_map_toNat, ih distinct]
      by_cases known : name ∈ names
      · have single : (knownShapes names members).lookup name = none := by
          rw [lookup_knownShapes known, lookup_eq_none_iff_not_mem.mpr new, Option.map_none]
        simp [known, single, knownShapes_cons_of_mem]
      · simp [known, knownShapes_cons_of_not_mem]

/-- The fields of a structure that is written as an object. -/
def Fields.ofMembers (levels : Nat) (names : List String) (members : Members) : Fields :=
  ⟨levels, false, knownShapes names members⟩

/-- A structure has the members with its names, whatever other members there are. -/
theorem struct_shape {names : List String} {build : Fields → Option α} {members : Members}
    (distinct : (members.map Prod.fst).Nodup) :
    struct names build (levels + 1) (Value.object members).shape =
      build (.ofMembers levels names members) := by
  rw [Value.shape, struct, knownMembers?_memberShapes names distinct]
  rfl

/-- A field that has to be there is read from the member with its name. -/
theorem Fields.required_ofMembers {name : String} {names : List String} (known : name ∈ names)
    (members : Members) :
    (ofMembers levels names members).required name d =
      (members.lookup name).bind fun v => d levels v.shape := by
  rw [ofMembers, required, lookup_knownShapes known, Option.bind_map]
  rfl

/-- A field with a default is read from the member with its name, if there is one. -/
theorem Fields.defaulted_ofMembers {name : String} {names : List String} (known : name ∈ names)
    (members : Members) (value : α) :
    (ofMembers levels names members).defaulted name d value =
      (members.lookup name).elim (some value) fun v => d levels v.shape := by
  rw [ofMembers, defaulted, lookup_knownShapes known]
  cases members.lookup name <;> rfl

/-- An optional field is read from the member with its name, if there is one. -/
theorem Fields.optional_ofMembers {name : String} {names : List String} (known : name ∈ names)
    (members : Members) :
    (ofMembers levels names members).optional name d =
      (members.lookup name).elim (some none) fun v => nullable d levels v.shape := by
  rw [ofMembers, optional, lookup_knownShapes known]
  cases members.lookup name <;> rfl

/-- A structure that is read is built from some fields. -/
theorem exists_fields_of_struct {names : List String} {build : Fields → Option α} {w : Written}
    {a : α} (h : struct names build levels w = some a) : ∃ f, build f = some a := by
  unfold struct at h
  split at h
  · obtain ⟨entries, -, h⟩ := Option.bind_eq_some_iff.mp h
    exact ⟨_, h⟩
  · split at h
    · exact ⟨_, h⟩
    · cases h
  · cases h

theorem Fields.lt_of_required {f : Fields} {name : String} {n : Nat}
    (h : f.required name natural = some n) : n < wordBound := by
  obtain ⟨w, -, read⟩ := Option.bind_eq_some_iff.mp h
  exact lt_of_natural read

theorem Fields.lt_of_defaulted {f : Fields} {name : String} {value n : Nat}
    (fits : value < wordBound) (h : f.defaulted name natural value = some n) : n < wordBound := by
  unfold Fields.defaulted at h
  split at h
  · exact lt_of_natural h
  · obtain rfl := Option.some.inj h
    exact fits

/-! ### Members that may be left out -/

theorem lookup_ifSome (name other : String) (s : Option String) :
    (ifSome name s).lookup other = if other = name then s.map Value.string else none := by
  cases s with
  | none => simp [ifSome]
  | some s => simp [ifSome, lookup_cons_eq_ite]

/-- A text that is left out when there is none. -/
@[simp]
theorem elim_nullable_text (levels : Nat) (s : Option String) :
    s.elim (some none) ((fun v => nullable text levels v.shape) ∘ Value.string) = some s := by
  cases s with
  | none => rfl
  | some s => exact congrArg (Option.map some) (text_shape levels s)

/-- Leaving members out leaves different names different. -/
theorem sublist_ifSome (name : String) (s : Option String) :
    ((ifSome name s).map Prod.fst).Sublist [name] := by
  cases s <;> simp [ifSome]

theorem ifSome_legible (levels : Nat) {name : String} {s : Option String} :
    ∀ member ∈ ifSome name s, member.2.Legible levels := by
  cases s <;> simp [ifSome, Value.Legible.string]

/-! ### Variants -/

/-- Nothing in a legible value is passed over. -/
theorem whole_shape {v : Value} (legible : v.Legible levels) :
    whole d levels v.shape = d levels v.shape := by
  rw [whole, legible.readsAs.value]
  rfl

/-- A member in front with a name of its own is taken out. -/
theorem takeMember?_memberShapes {name : String} {members : Members}
    (new : name ∉ members.map Prod.fst) (v : Value) :
    takeMember? name (memberShapes ((name, v) :: members)) =
      some (v.shape, memberShapes members) := by
  have others : ∀ m ∈ memberShapes members, (stringOf? m.1 == some name) = false := by
    intro m mem
    rw [memberShapes_eq_map] at mem
    obtain ⟨member, inside, rfl⟩ := List.mem_map.mp mem
    have differ : member.1 ≠ name := fun same =>
      new (List.mem_map.mpr ⟨member, inside, same⟩)
    simp [codePoints, stringOf?_map_toNat, differ]
  have none : (memberShapes members).filter (fun m => stringOf? m.1 == some name) = [] :=
    List.filter_eq_nil_iff.mpr fun m mem => by simp [others m mem]
  have all : (memberShapes members).filter (fun m => !(stringOf? m.1 == some name)) =
      memberShapes members :=
    List.filter_eq_self.mpr fun m mem => by simp [others m mem]
  simp [takeMember?, memberShapes, codePoints, stringOf?_map_toNat, none, all]

theorem distinct_of_legible {members : Members} (legible : (Value.object members).Legible levels) :
    (members.map Prod.fst).Nodup := by
  cases legible
  assumption

/-- **A variant is read by the decoder of its name** from the other members. -/
theorem tagged_shape {tag name : String} {branch : String → Decoder α} {members : Members}
    (legible : (Value.object ((tag, .string name) :: members)).Legible levels) :
    tagged tag branch levels (Value.object ((tag, .string name) :: members)).shape =
      branch name levels (Value.object members).shape := by
  have new : tag ∉ members.map Prod.fst := (List.nodup_cons.mp (distinct_of_legible legible)).1
  have read : text levels (.string (codePoints name)) = some name := text_shape levels name
  rw [tagged, whole_shape legible]
  simp [Value.shape, takeMember?_memberShapes new, read]

/-- A variant that is read is read by the decoder of some name. -/
theorem exists_branch_of_tagged {tag : String} {branch : String → Decoder α} {w : Written} {a : α}
    (h : tagged tag branch levels w = some a) : ∃ name w', branch name levels w' = some a := by
  obtain ⟨-, h⟩ := Option.ite_none_right_eq_some.mp h
  split at h
  · obtain ⟨⟨w, rest⟩, -, h⟩ := Option.bind_eq_some_iff.mp h
    obtain ⟨name, -, h⟩ := Option.bind_eq_some_iff.mp h
    exact ⟨name, _, h⟩
  · obtain ⟨name, -, h⟩ := Option.bind_eq_some_iff.mp h
    exact ⟨name, _, h⟩
  · cases h

@[simp]
theorem objectOnly_shape (d : Decoder α) (levels : Nat) (members : Members) :
    objectOnly d levels (Value.object members).shape = d levels (Value.object members).shape := by
  rw [Value.shape, objectOnly]

end Enquiry.Wire

import Enquiry.Toml.Document

/-!
# The keys of a TOML document

Every rule by which a document grows keeps the keys of a table different: a key is put in the place
of the same key, or it is new.  What a document says is read line by line by these rules, so **the
keys outside of all tables are different** (`nodup_keys_of_settings?`), and each of them has one
value.
-/

namespace Enquiry.Toml

variable {entries entries' : Entries} {key : String}

/-- No two entries of a table have the same key. -/
def Distinct (entries : Entries) : Prop := (entries.map Prod.fst).Nodup

/-- A change that keeps the keys of a table different. -/
def KeepsDistinct (f : Entries → Option Entries) : Prop :=
  ∀ {entries entries'}, Distinct entries → f entries = some entries' → Distinct entries'

/-! ### Changes of a table -/

theorem addNew?_keepsDistinct (key : String) (item : Item) : KeepsDistinct (addNew? key item) := by
  intro entries entries' h added
  obtain ⟨new, added⟩ := Option.ite_none_left_eq_some.mp added
  obtain rfl := Option.some.inj added
  rw [Distinct, ← assign_of_not_mem (mt isSome_lookup_iff.mpr new) item]
  exact nodup_assign h

theorem addValue?_keepsDistinct (v : SettingValue) (key : String) (inside : Bool) (origin : Origin)
    (path : List String) : KeepsDistinct (addValue? v key inside origin path) := by
  intro entries entries' h added
  cases path with
  | nil =>
      obtain ⟨-, added⟩ := Option.ite_none_left_eq_some.mp added
      exact addNew?_keepsDistinct key _ h added
  | cons part path =>
      rw [addValue?] at added
      split at added
      · obtain ⟨_, -, rfl⟩ := Option.map_eq_some_iff.mp added
        exact nodup_assign h
      · cases added
      · cases added
      · obtain ⟨_, -, rfl⟩ := Option.map_eq_some_iff.mp added
        exact nodup_assign h
      · obtain ⟨_, -, rfl⟩ := Option.map_eq_some_iff.mp added
        exact nodup_assign h

theorem addAt?_keepsDistinct (path : List String) (v : SettingValue) :
    KeepsDistinct (addAt? path v) := by
  intro entries entries' h added
  unfold addAt? at added
  split at added
  · cases added
  · exact addValue?_keepsDistinct v _ _ _ _ h added

theorem openTable?_keepsDistinct (key : String) : KeepsDistinct (openTable? key) := by
  intro entries entries' h opened
  unfold openTable? at opened
  split at opened
  · obtain rfl := Option.some.inj opened
    exact nodup_assign h
  · obtain rfl := Option.some.inj opened
    exact nodup_assign h
  · cases opened

theorem openFurther?_keepsDistinct (key : String) : KeepsDistinct (openFurther? key) := by
  intro entries entries' h opened
  unfold openFurther? at opened
  split at opened
  · obtain rfl := Option.some.inj opened
    exact nodup_assign h
  · obtain rfl := Option.some.inj opened
    exact nodup_assign h
  · cases opened

/-- A change inside a table keeps its keys; a change of the table itself is the given one. -/
theorem alter?_keepsDistinct {f : Entries → Option Entries} (keeps : KeepsDistinct f)
    (path : List String) : KeepsDistinct (alter? f path) := by
  intro entries entries' h changed
  -- no induction: below the first part of the path the keys of this table are not touched
  cases path with
  | nil => exact keeps h changed
  | cons part path =>
      rw [alter?] at changed
      split at changed
      · obtain ⟨_, -, rfl⟩ := Option.map_eq_some_iff.mp changed
        exact nodup_assign h
      · cases changed
      · obtain ⟨_, -, rfl⟩ := Option.map_eq_some_iff.mp changed
        exact nodup_assign h
      · obtain ⟨_, -, rfl⟩ := Option.map_eq_some_iff.mp changed
        exact nodup_assign h

/-! ### Lines -/

theorem distinct_of_readHeader? {reading reading' : Reading} {text rest : List Char}
    (h : Distinct reading.entries) (read : readHeader? reading text = some (reading', rest)) :
    Distinct reading'.entries := by
  simp only [readHeader?, Option.bind_eq_bind, Option.bind_eq_some_iff] at read
  obtain ⟨_, -, _, -, _, -, _, -, key, -, entries, changed, same⟩ := read
  obtain ⟨rfl, rfl⟩ := Prod.mk.inj (Option.some.inj same)
  refine alter?_keepsDistinct ?_ _ h changed
  split
  · exact openFurther?_keepsDistinct key
  · exact openTable?_keepsDistinct key

theorem distinct_of_readKeyValue? {reading reading' : Reading} {text rest : List Char}
    (h : Distinct reading.entries) (read : readKeyValue? reading text = some (reading', rest)) :
    Distinct reading'.entries := by
  simp only [readKeyValue?, Option.bind_eq_bind, Option.bind_eq_some_iff] at read
  obtain ⟨_, -, _, -, _, -, _, -, entries, changed, same⟩ := read
  obtain ⟨rfl, rfl⟩ := Prod.mk.inj (Option.some.inj same)
  exact alter?_keepsDistinct (addAt?_keepsDistinct _ _) _ h changed

theorem distinct_of_readLines? {steps : Nat} {reading result : Reading} {text : List Char}
    (h : Distinct reading.entries) (read : readLines? steps reading text = some result) :
    Distinct result.entries := by
  induction steps generalizing reading text with
  | zero => cases read
  | succ steps ih =>
      rw [readLines?] at read
      split at read
      · obtain rfl := Option.some.inj read
        exact h
      · obtain ⟨⟨reading', rest⟩, header, read⟩ := Option.bind_eq_some_iff.mp read
        exact ih (distinct_of_readHeader? h header) read
      · split at read
        · obtain ⟨_, -, read⟩ := Option.bind_eq_some_iff.mp read
          exact ih h read
        · obtain ⟨⟨reading', rest⟩, line, read⟩ := Option.bind_eq_some_iff.mp read
          exact ih (distinct_of_readKeyValue? h line) read

/-- **No two keys outside of all tables are the same.** -/
theorem nodup_keys_of_settings? {text : String} {settings : List (String × SettingValue)}
    (h : settings? text = some settings) : (settings.map Prod.fst).Nodup := by
  obtain ⟨reading, read, rfl⟩ := Option.map_eq_some_iff.mp h
  have none : Distinct [] := List.nodup_nil
  have distinct := distinct_of_readLines? none read
  rwa [List.map_map]

end Enquiry.Toml

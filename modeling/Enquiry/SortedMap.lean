/-!
# Maps with sorted keys

A finite map from strings, as a list of its entries in ascending order of their keys. The order is
that of code points.
-/

namespace Enquiry

/-- Gives a key a value made from the one it has, if any. -/
def upsert (key : String) (f : Option α → α) : List (String × α) → List (String × α)
  | [] => [(key, f none)]
  | (k, v) :: rest =>
      if key < k then (key, f none) :: (k, v) :: rest
      else if key = k then (key, f (some v)) :: rest
      else (k, v) :: upsert key f rest

/-- Every key afterwards is the given one or was there before. -/
theorem mem_upsert {key : String} {f : Option α → α} {entries : List (String × α)}
    {e : String × α} (h : e ∈ upsert key f entries) : e.1 = key ∨ e ∈ entries := by
  induction entries with
  | nil => simp only [upsert, List.mem_singleton] at h; exact .inl (h ▸ rfl)
  | cons entry rest ih =>
      obtain ⟨k, v⟩ := entry
      rw [upsert] at h
      split at h
      · rcases List.mem_cons.mp h with h | h
        · exact .inl (h ▸ rfl)
        · exact .inr h
      · split at h
        · rcases List.mem_cons.mp h with h | h
          · exact .inl (h ▸ rfl)
          · exact .inr (List.mem_cons_of_mem _ h)
        · rcases List.mem_cons.mp h with h | h
          · exact .inr (h ▸ List.mem_cons_self)
          · exact (ih h).imp_right (List.mem_cons_of_mem _)

/-- Entries in ascending order of their keys. -/
abbrev Ascending (entries : List (String × α)) : Prop := entries.Pairwise fun a b => a.1 < b.1

theorem ascending_upsert (key : String) (f : Option α → α) {entries : List (String × α)}
    (h : Ascending entries) : Ascending (upsert key f entries) := by
  induction entries with
  | nil => simp [upsert]
  | cons entry rest ih =>
      obtain ⟨k, v⟩ := entry
      obtain ⟨first, others⟩ := List.pairwise_cons.mp h
      rw [upsert]
      split
      case isTrue hlt =>
        refine List.pairwise_cons.mpr ⟨fun e he => ?_, h⟩
        rcases List.mem_cons.mp he with he | he
        · exact he ▸ hlt
        · exact String.lt_trans hlt (first e he)
      case isFalse hnot =>
        split
        case isTrue heq =>
          subst heq
          exact List.pairwise_cons.mpr ⟨first, others⟩
        case isFalse hne =>
          refine List.pairwise_cons.mpr ⟨fun e he => ?_, ih others⟩
          rcases mem_upsert he with he | he
          · have hle : k ≤ key := String.not_lt.mp hnot
            have hkey : k < key := Classical.byContradiction fun hcon =>
              hne (String.le_antisymm (String.not_lt.mp hcon) hle)
            exact he ▸ hkey
          · exact first e he

/-- A finite map from strings. -/
structure SortedMap (α : Type) where
  entries : List (String × α)
  ascending : Ascending entries

namespace SortedMap

/-- The map without keys. -/
def empty : SortedMap α := ⟨[], .nil⟩

instance : Inhabited (SortedMap α) := ⟨empty⟩

/-- The value of a key. -/
def get? (m : SortedMap α) (key : String) : Option α := m.entries.lookup key

/-- Gives a key a value made from the one it has, if any. -/
def modify (m : SortedMap α) (key : String) (f : Option α → α) : SortedMap α :=
  ⟨upsert key f m.entries, ascending_upsert key f m.ascending⟩

/-- Gives a key a value. -/
def insert (m : SortedMap α) (key : String) (v : α) : SortedMap α := m.modify key fun _ => v

/-- The pairs inserted one after another. -/
def ofList (pairs : List (String × α)) : SortedMap α :=
  pairs.foldl (fun m (key, v) => m.insert key v) empty

/-- The keys in ascending order. -/
def keys (m : SortedMap α) : List String := m.entries.map Prod.fst

/-- The same keys with other values. -/
def mapValues (m : SortedMap α) (f : α → β) : SortedMap β :=
  ⟨m.entries.map fun (k, v) => (k, f v), by
    simpa [Ascending, List.pairwise_map] using m.ascending⟩

end SortedMap

end Enquiry

import Enquiry.Assignment
import Enquiry.SortedMap

/-!
# What a sorted map holds

A map is known by the values of its keys: two maps with the same values are one map
(`SortedMap.ext_get?`), and a map is what its entries make when they are put in one after another
(`SortedMap.ofList_entries`).  Giving a key a value changes the value of that key only
(`SortedMap.get?_modify`).
-/

namespace Enquiry

variable {α β : Type} {key other : String} {entries : List (String × α)}

/-- A key below all others is not there. -/
theorem lookup_eq_none_of_lt (below : ∀ e ∈ entries, key < e.1) : entries.lookup key = none := by
  refine lookup_eq_none_iff_not_mem.mpr fun inside => ?_
  obtain ⟨e, mem, rfl⟩ := List.mem_map.mp inside
  exact String.lt_irrefl e.1 (below e mem)

theorem Ascending.lookup_eq_none {v : α} (h : Ascending ((key, v) :: entries)) :
    entries.lookup key = none :=
  lookup_eq_none_of_lt (List.pairwise_cons.mp h).1

/-- A key below the first is not there. -/
theorem Ascending.lookup_eq_none_of_lt {v : α} (h : Ascending ((key, v) :: entries))
    (below : other < key) : ((key, v) :: entries).lookup other = none := by
  refine Enquiry.lookup_eq_none_of_lt fun e mem => ?_
  rcases List.mem_cons.mp mem with rfl | mem
  · exact below
  · exact String.lt_trans below ((List.pairwise_cons.mp h).1 e mem)

theorem Ascending.le_of_lookup {v w : α} (h : Ascending ((key, v) :: entries))
    (found : ((key, v) :: entries).lookup other = some w) : key ≤ other := by
  refine String.not_lt.mp fun below => ?_
  rw [h.lookup_eq_none_of_lt below] at found
  cases found

/-- Every entry is the one of its key. -/
theorem Ascending.lookup_of_mem {v : α} (h : Ascending entries) (mem : (key, v) ∈ entries) :
    entries.lookup key = some v := by
  induction entries with
  | nil => cases mem
  | cons entry rest ih =>
      obtain ⟨k, w⟩ := entry
      rw [lookup_cons_eq_ite]
      rcases List.mem_cons.mp mem with same | later
      · cases same
        rw [if_pos rfl]
      · have below : k < key := (List.pairwise_cons.mp h).1 _ later
        rw [if_neg (Ne.symm (String.ne_of_lt below)), ih h.of_cons later]

/-- The keys differ. -/
theorem Ascending.nodup (h : Ascending entries) : (entries.map Prod.fst).Nodup := by
  rw [List.Nodup, List.pairwise_map]
  exact h.imp fun below => String.ne_of_lt below

/-- A key above all others comes last. -/
theorem upsert_of_lt {f : Option α → α} (above : ∀ e ∈ entries, e.1 < key) :
    upsert key f entries = entries ++ [(key, f none)] := by
  induction entries with
  | nil => rfl
  | cons entry rest ih =>
      obtain ⟨k, v⟩ := entry
      obtain ⟨here, later⟩ := List.forall_mem_cons.mp above
      have here : k < key := here
      rw [upsert, if_neg (String.lt_asymm here), if_neg (Ne.symm (String.ne_of_lt here)), ih later,
        List.cons_append]

/-- **Giving a key a value** changes the value of that key only. -/
theorem lookup_upsert (key other : String) (f : Option α → α) (h : Ascending entries) :
    (upsert key f entries).lookup other =
      if other = key then some (f (entries.lookup key)) else entries.lookup other := by
  induction entries with
  | nil => exact lookup_cons_eq_ite key other (f none) []
  | cons entry rest ih =>
      obtain ⟨k, v⟩ := entry
      rw [upsert]
      split
      next before =>
          -- the new entry is the first
          rw [lookup_cons_eq_ite, h.lookup_eq_none_of_lt before]
      next =>
          split
          next same =>
              subst same
              rw [lookup_cons_eq_ite, lookup_cons_eq_ite, lookup_cons_eq_ite, if_pos rfl]
              split <;> rfl
          next differ =>
              rw [lookup_cons_eq_ite, lookup_cons_eq_ite, lookup_cons_eq_ite, ih h.of_cons,
                if_neg differ]
              by_cases here : other = k
              · subst here
                rw [if_pos rfl, if_neg (Ne.symm differ), if_pos rfl]
              · rw [if_neg here, if_neg here]

/-- Entries in order are known by the values of their keys. -/
theorem eq_of_lookup_eq {entries' : List (String × α)} (h : Ascending entries)
    (h' : Ascending entries') (same : ∀ key, entries.lookup key = entries'.lookup key) :
    entries = entries' := by
  induction entries generalizing entries' with
  | nil =>
      cases entries' with
      | nil => rfl
      | cons entry rest =>
          have found := same entry.1
          rw [lookup_cons_eq_ite, if_pos rfl] at found
          cases found
  | cons entry rest ih =>
      obtain ⟨k, v⟩ := entry
      have found := same k
      rw [lookup_cons_eq_ite, if_pos rfl] at found
      cases entries' with
      | nil => cases found
      | cons entry' rest' =>
          obtain ⟨k', v'⟩ := entry'
          have found' := same k'
          rw [lookup_cons_eq_ite k' k', if_pos rfl] at found'
          -- each first key is there in the other entries, so neither is below the other
          obtain rfl : k = k' :=
            String.le_antisymm (h.le_of_lookup found') (h'.le_of_lookup found.symm)
          rw [lookup_cons_eq_ite, if_pos rfl] at found
          obtain rfl := Option.some.inj found
          congr 1
          refine ih h.of_cons h'.of_cons fun key => ?_
          have both := same key
          rw [lookup_cons_eq_ite, lookup_cons_eq_ite] at both
          by_cases here : key = k
          · rw [here, h.lookup_eq_none, h'.lookup_eq_none]
          · rwa [if_neg here, if_neg here] at both

namespace SortedMap

variable {m m' : SortedMap α}

theorem get?_modify (m : SortedMap α) (key other : String) (f : Option α → α) :
    (m.modify key f).get? other = if other = key then some (f (m.get? key)) else m.get? other :=
  lookup_upsert key other f m.ascending

theorem get?_mapValues (m : SortedMap α) (f : α → β) (key : String) :
    (m.mapValues f).get? key = (m.get? key).map f := by
  obtain ⟨entries, ascending⟩ := m
  change (entries.map fun e => (e.1, f e.2)).lookup key = (entries.lookup key).map f
  clear ascending
  induction entries with
  | nil => rfl
  | cons entry rest ih =>
      rw [List.map_cons, lookup_cons_eq_ite, lookup_cons_eq_ite, ih]
      split <;> rfl

theorem keys_mapValues (m : SortedMap α) (f : α → β) : (m.mapValues f).keys = m.keys := by
  rw [keys, keys, mapValues, List.map_map]
  rfl

/-- The keys are those that have a value. -/
theorem mem_keys_iff : key ∈ m.keys ↔ (m.get? key).isSome := isSome_lookup_iff.symm

theorem get?_of_mem {v : α} (mem : (key, v) ∈ m.entries) : m.get? key = some v :=
  m.ascending.lookup_of_mem mem

/-- Entries that go on in ascending order are put behind those that are there. -/
theorem entries_foldl_insert (m : SortedMap α) (h : Ascending (m.entries ++ entries)) :
    (entries.foldl (fun m e => m.insert e.1 e.2) m).entries = m.entries ++ entries := by
  induction entries generalizing m with
  | nil => rw [List.foldl_nil, List.append_nil]
  | cons entry rest ih =>
      obtain ⟨k, v⟩ := entry
      have above : ∀ e ∈ m.entries, e.1 < k := fun e mem =>
        (List.pairwise_append.mp h).2.2 e mem (k, v) List.mem_cons_self
      have last : (m.insert k v).entries = m.entries ++ [(k, v)] := upsert_of_lt above
      have joined : (m.insert k v).entries ++ rest = m.entries ++ (k, v) :: rest := by
        rw [last, List.append_assoc, List.singleton_append]
      rw [List.foldl_cons, ih (m.insert k v) (joined ▸ h), joined]

theorem ext_entries (h : m.entries = m'.entries) : m = m' := by
  cases m
  cases m'
  cases h
  rfl

/-- A map is made of its entries. -/
theorem ofList_entries (m : SortedMap α) : ofList m.entries = m :=
  ext_entries (entries_foldl_insert empty m.ascending)

/-- **A map is known by the values of its keys.** -/
theorem ext_get? (h : ∀ key, m.get? key = m'.get? key) : m = m' :=
  ext_entries (eq_of_lookup_eq m.ascending m'.ascending h)

end SortedMap

end Enquiry

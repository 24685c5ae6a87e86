/-!
# Assignments

Values under keys, in the order in which the keys came. A key has one place, and a new value takes
the place of the old one (`assign`). The variables of a process, the members of an object and the
entries of a table are kept so.
-/

namespace Enquiry

variable {κ α : Type _} [DecidableEq κ] {key other : κ} {v : α} {entries : List (κ × α)}

/-- Gives a key a value: in its place if it is there already, else at the end. -/
def assign (key : κ) (v : α) : List (κ × α) → List (κ × α)
  | [] => [(key, v)]
  | (k, w) :: rest => if k = key then (key, v) :: rest else (k, w) :: assign key v rest

/-! ### Looking up -/

theorem lookup_cons_eq_ite (key other : κ) (v : α) (rest : List (κ × α)) :
    ((key, v) :: rest).lookup other = if other = key then some v else rest.lookup other := by
  by_cases same : other = key
  · subst same
    simp
  · simp [List.lookup_cons, beq_false_of_ne same, same]

theorem isSome_lookup_iff : (entries.lookup key).isSome ↔ key ∈ entries.map Prod.fst := by
  rw [List.lookup_isSome_iff, List.mem_map]
  simp only [beq_iff_eq]
  exact ⟨fun ⟨e, mem, same⟩ => ⟨e, mem, same.symm⟩, fun ⟨e, mem, same⟩ => ⟨e, mem, same.symm⟩⟩

theorem lookup_eq_none_iff_not_mem :
    entries.lookup key = none ↔ key ∉ entries.map Prod.fst := by
  rw [← Option.not_isSome_iff_eq_none, isSome_lookup_iff]

/-! ### What an assignment changes -/

/-- A new key comes last. -/
theorem assign_of_not_mem (new : key ∉ entries.map Prod.fst) (v : α) :
    assign key v entries = entries ++ [(key, v)] := by
  induction entries with
  | nil => rfl
  | cons entry rest ih =>
      obtain ⟨differ, new⟩ := not_or.mp (mt List.mem_cons.mpr new)
      rw [assign, if_neg (Ne.symm differ), ih new, List.cons_append]

/-- What is there afterwards is the new entry or was there before. -/
theorem mem_of_mem_assign {e : κ × α} (h : e ∈ assign key v entries) :
    e = (key, v) ∨ e ∈ entries := by
  induction entries with
  | nil => exact .inl (List.mem_singleton.mp h)
  | cons entry rest ih =>
      rw [assign] at h
      split at h
      next =>
          rcases List.mem_cons.mp h with new | old
          · exact .inl new
          · exact .inr (List.mem_cons_of_mem entry old)
      next =>
          rcases List.mem_cons.mp h with same | later
          · exact .inr (same ▸ List.mem_cons_self)
          · exact (ih later).imp_right (List.mem_cons_of_mem entry)

/-- **Different keys stay different.** -/
theorem nodup_assign (distinct : (entries.map Prod.fst).Nodup) :
    ((assign key v entries).map Prod.fst).Nodup := by
  induction entries with
  | nil => simp [assign]
  | cons entry rest ih =>
      obtain ⟨k, w⟩ := entry
      obtain ⟨new, distinct⟩ := List.nodup_cons.mp distinct
      rw [assign]
      split
      next same => exact List.nodup_cons.mpr ⟨same ▸ new, distinct⟩
      next differ =>
          refine List.nodup_cons.mpr ⟨fun inside => ?_, ih distinct⟩
          obtain ⟨e, inside, named⟩ := List.mem_map.mp inside
          rcases mem_of_mem_assign inside with rfl | old
          · exact differ named.symm
          · exact new (named ▸ List.mem_map_of_mem old)

end Enquiry

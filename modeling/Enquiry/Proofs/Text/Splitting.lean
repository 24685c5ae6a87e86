import Enquiry.Text.Blank
import Enquiry.Text.Search
import Mathlib.Data.List.TakeWhile

/-!
# Cutting a list at its marks

The first part of a list ends at its first mark (`splitOn_eq_cons_iff`), and its parts are one more
than its marks (`length_splitOn`). A list is broken at its first mark, if it has one
(`breakOn_eq_iff`). It is trimmed to nothing exactly when all of it is to go
(`trimWith_eq_nil_iff`), and what is to go at its ends does not count (`trimWith_append_append`).
-/

namespace Enquiry.Text

variable {α : Type _} [BEq α] [LawfulBEq α] {mark x : α} {xs ys : List α}

/-- What is no mark belongs to the first part. -/
theorem splitOn_cons_of_ne {part : List α} {parts : List (List α)} (other : x ≠ mark)
    (split : List.splitOn mark xs = part :: parts) :
    List.splitOn mark (x :: xs) = (x :: part) :: parts := by
  rw [List.splitOn_cons_eq_if_modifyHead, beq_false_of_ne other, split]
  rfl

/-- The parts of a list are one more than its marks. -/
theorem length_splitOn (mark : α) (xs : List α) :
    (List.splitOn mark xs).length = xs.count mark + 1 := by
  induction xs with
  | nil => rfl
  | cons x xs ih =>
      rw [List.splitOn_cons_eq_if_modifyHead]
      by_cases same : x = mark
      · subst same
        rw [if_pos (beq_self_eq_true x), List.length_cons, ih, List.count_cons_self]
      · rw [beq_false_of_ne same, List.count_cons_of_ne same, ← ih]
        exact List.length_modifyHead

/-- The first part begins with all that stands before the first mark. -/
theorem splitOn_append {part : List α} {parts : List (List α)} (free : mark ∉ xs)
    (split : List.splitOn mark ys = part :: parts) :
    List.splitOn mark (xs ++ ys) = (xs ++ part) :: parts := by
  induction xs with
  | nil => exact split
  | cons x xs ih =>
      have other : x ≠ mark := fun same => free (by rw [same]; exact List.mem_cons_self)
      exact splitOn_cons_of_ne other (ih fun inside => free (List.mem_cons_of_mem x inside))

/-- The first part ends at the first mark, if there is one. -/
theorem splitOn_eq_cons_iff {part : List α} {parts : List (List α)} :
    List.splitOn mark xs = part :: parts ↔
      (mark ∉ xs ∧ xs = part ∧ parts = []) ∨
        ∃ rest, xs = part ++ mark :: rest ∧ mark ∉ part ∧ List.splitOn mark rest = parts := by
  constructor
  · intro split
    by_cases inside : mark ∈ xs
    · obtain ⟨front, rest, rfl, free⟩ := List.eq_append_cons_of_mem inside
      rw [List.splitOn_append_cons_self_of_not_mem free _] at split
      obtain ⟨rfl, rfl⟩ := List.cons.inj split
      exact .inr ⟨rest, rfl, free, rfl⟩
    · rw [List.splitOn_eq_singleton inside] at split
      obtain ⟨rfl, rfl⟩ := List.cons.inj split
      exact .inl ⟨inside, rfl, rfl⟩
  · rintro (⟨free, rfl, rfl⟩ | ⟨rest, rfl, free, rfl⟩)
    · exact List.splitOn_eq_singleton free
    · exact List.splitOn_append_cons_self_of_not_mem free _

theorem afterStart?_append (xs ys : List α) : afterStart? xs (xs ++ ys) = some ys :=
  afterStart?_eq_some_iff.mpr rfl

/-- A list is broken at its first mark. -/
theorem breakOn_append_cons (free : mark ∉ xs) : breakOn mark (xs ++ mark :: ys) = (xs, ys) := by
  have all : ∀ x ∈ xs, (x != mark) = true := fun x inside => by
    simpa using ne_of_mem_of_not_mem inside free
  rw [breakOn, List.takeWhile_append_of_pos all, List.dropWhile_append_of_pos all]
  simp

theorem breakOn_of_not_mem (free : mark ∉ xs) : breakOn mark xs = (xs, []) := by
  have all : ∀ x ∈ xs, (x != mark) = true := fun x inside => by
    simpa using ne_of_mem_of_not_mem inside free
  rw [breakOn, List.takeWhile_eq_self_iff.mpr all, List.dropWhile_eq_nil_iff.mpr all]
  rfl

/-- A list is broken at its first mark, or is the first part itself when it has none. -/
theorem breakOn_eq_iff {front back : List α} :
    breakOn mark xs = (front, back) ↔
      mark ∉ front ∧ (xs = front ++ mark :: back ∨ xs = front ∧ back = []) := by
  constructor
  · intro broken
    by_cases inside : mark ∈ xs
    · obtain ⟨before, after, rfl, free⟩ := List.eq_append_cons_of_mem inside
      rw [breakOn_append_cons free] at broken
      cases broken
      exact ⟨free, .inl rfl⟩
    · rw [breakOn_of_not_mem inside] at broken
      cases broken
      exact ⟨inside, .inr ⟨rfl, rfl⟩⟩
  · rintro ⟨free, rfl | ⟨rfl, rfl⟩⟩
    · exact breakOn_append_cons free
    · exact breakOn_of_not_mem free

end Enquiry.Text

namespace Enquiry.Text

variable {α : Type _} {p : α → Bool} {xs ys front back : List α}

theorem trimWith_eq_nil_iff : trimWith p xs = [] ↔ ∀ x ∈ xs, p x = true := by
  unfold trimWith trimEndWith
  rw [List.reverse_eq_nil_iff, List.dropWhile_eq_nil_iff]
  constructor
  · intro all
    have none : xs.dropWhile p = [] := by
      rcases left : xs.dropWhile p with _ | ⟨x, rest⟩
      · rfl
      · have kept := List.head_dropWhile_not p (l := xs) (by simp [left])
        have gone := all x (by simp [left])
        simp [left, gone] at kept
    exact List.dropWhile_eq_nil_iff.mp none
  · intro all x inside
    exact all x (List.dropWhile_subset p (List.mem_reverse.mp inside))

theorem dropWhile_of_forall (stay : ∀ x ∈ xs, p x = false) : xs.dropWhile p = xs :=
  List.dropWhile_eq_self_iff.mpr fun some => by simp [stay _ (List.getElem_mem some)]

theorem trimWith_of_forall (stay : ∀ x ∈ xs, p x = false) : trimWith p xs = xs := by
  rw [trimWith, trimEndWith, dropWhile_of_forall stay,
    dropWhile_of_forall fun x inside => stay x (List.mem_reverse.mp inside), List.reverse_reverse]

/-- Nothing is trimmed from a list whose ends are to stay. -/
theorem trimWith_of_ends {x y : α} (first : p x = false) (last : p y = false) :
    trimWith p (x :: xs ++ [y]) = x :: xs ++ [y] := by
  rw [trimWith, List.cons_append, List.dropWhile_cons_of_neg (by simp [first]), trimEndWith,
    ← List.cons_append, List.reverse_append, List.reverse_singleton, List.singleton_append,
    List.dropWhile_cons_of_neg (by simp [last]), List.reverse_cons, List.reverse_reverse]

theorem trimEndWith_append (after : ∀ x ∈ back, p x = true) (xs : List α) :
    trimEndWith p (xs ++ back) = trimEndWith p xs := by
  rw [trimEndWith, List.reverse_append,
    List.dropWhile_append_of_pos fun x mem => after x (List.mem_reverse.mp mem), trimEndWith]

/-- What is to go at the ends does not count. -/
theorem trimWith_append_append (before : ∀ x ∈ front, p x = true) (after : ∀ x ∈ back, p x = true)
    (xs : List α) : trimWith p (front ++ (xs ++ back)) = trimWith p xs := by
  rw [trimWith, List.dropWhile_append_of_pos before, List.dropWhile_append]
  split
  next none =>
    rw [trimWith, List.isEmpty_iff.mp none, List.dropWhile_eq_nil_iff.mpr after]
  next => rw [trimEndWith_append after, trimWith]

theorem trimWith_map {f : α → α} (h : ∀ x, p (f x) = p x) (xs : List α) :
    trimWith p (xs.map f) = (trimWith p xs).map f := by
  have same : p ∘ f = p := funext h
  rw [trimWith, trimWith, trimEndWith, trimEndWith, List.dropWhile_map, same, ← List.map_reverse,
    List.dropWhile_map, same, List.map_reverse]

/-- What is trimmed ends with something that is to stay. -/
theorem not_of_mem_getLast?_trimWith : ∀ x ∈ (trimWith p xs).getLast?, p x = false := by
  intro x last
  rw [trimWith, trimEndWith, List.getLast?_reverse] at last
  have stays := List.head?_dropWhile_not p (xs.dropWhile p).reverse
  rw [Option.mem_def.mp last] at stays
  simpa using stays

/-- What follows does not make a text blank. -/
theorem trimWith_append_ne_nil (text : trimWith p xs ≠ []) : trimWith p (xs ++ ys) ≠ [] := by
  intro blank
  refine text (trimWith_eq_nil_iff.mpr fun x inside => ?_)
  exact trimWith_eq_nil_iff.mp blank x (List.mem_append_left ys inside)

end Enquiry.Text

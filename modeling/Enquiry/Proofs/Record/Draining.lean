import Enquiry.Proofs.Engine.Reading

/-!
# Collectors that are given all lines

A collector asks for no more lines once one has shown that the result is truncated, but whoever
gives it lines may go on (`Collector.drain`).  The step lemma is `Collector.Bounded.push`: whatever
line is given, the records stay at most as many as the cap, and are as many once the result is
truncated.  From then on no line changes the result (`Collector.Bounded.finish_drain_of_truncated`).

So **what is made of all lines is what was made of them up to the first that stopped**
(`Collector.drain_settles`).
-/

namespace Enquiry.Collector

open Text

variable {cap : Nat} {c : Collector} {line : List UInt8} {lines : List (List UInt8)}

/-- The collector after some lines, wanted or not. -/
def drain (c : Collector) (lines : List (List UInt8)) : Collector :=
  lines.foldl (fun c line => (c.push line).2) c

theorem drain_cons (c : Collector) (line : List UInt8) (lines : List (List UInt8)) :
    c.drain (line :: lines) = (c.push line).2.drain lines := rfl

theorem drain_append (c : Collector) (front back : List (List UInt8)) :
    c.drain (front ++ back) = (c.drain front).drain back := List.foldl_append

/-- A collector with at most `cap` records, and with as many once it is truncated. -/
structure Bounded (cap : Nat) (c : Collector) : Prop where
  cap_eq : c.cap = cap
  size_eq : c.size = c.records.length
  bound : c.records.length ≤ cap
  full : c.truncated = true → c.records.length = cap

/-! ### One line -/

theorem Bounded.start (cap : Nat) : Bounded cap (start cap) :=
  ⟨rfl, rfl, Nat.zero_le cap, nofun⟩

theorem Bounded.room_eq (bounded : Bounded cap c) : c.room = cap - c.records.length := by
  rw [room, bounded.cap_eq, bounded.size_eq]

/-- There is no more room when the cap is reached. -/
theorem Bounded.room_eq_zero_iff (bounded : Bounded cap c) :
    c.room = 0 ↔ c.records.length = cap := by
  have bound := bounded.bound
  rw [bounded.room_eq]
  omega

/-- A line that is kept leaves a collector bounded when there is room for it. -/
theorem Bounded.keep (bounded : Bounded cap c) (wanted : c.room ≠ 0) (line : List UInt8) :
    Bounded cap (c.keep line) := by
  have below : c.records.length < cap := by
    rw [bounded.room_eq] at wanted
    omega
  rcases held : object? line with _ | record
  · rw [keep_of_none held]
    exact ⟨bounded.cap_eq, bounded.size_eq, bounded.bound, bounded.full⟩
  · have one : (record :: c.newest).reverse.length = c.records.length + 1 := by
      rw [records, List.length_reverse, List.length_reverse, List.length_cons]
    rw [keep_of_some held]
    refine ⟨bounded.cap_eq, ?_, ?_, fun truncated => ?_⟩
    · exact (congrArg (· + 1) bounded.size_eq).trans one.symm
    · exact one.trans_le below
    · exact absurd (bounded.full truncated) below.ne

/-- **Whatever line is given, a collector stays bounded.** -/
theorem Bounded.push (bounded : Bounded cap c) (line : List UInt8) :
    Bounded cap (c.push line).2 := by
  by_cases blank : trimWith isAsciiBlank line = []
  · rw [push_of_blank blank]
    exact bounded
  · by_cases full : c.room = 0
    · have reached := bounded.room_eq_zero_iff.mp full
      rw [push_of_full blank full]
      exact ⟨bounded.cap_eq, bounded.size_eq, bounded.bound, fun _ => reached⟩
    · rw [push_of_room blank full]
      exact bounded.keep full _

/-- A line stops a collector exactly when it is not blank and the cap is reached. -/
theorem Bounded.push_eq_stop_iff (bounded : Bounded cap c) :
    (c.push line).1 = .stop ↔
      (∃ b ∈ line, isAsciiBlank b = false) ∧ c.records.length = cap := by
  have filled : (∃ b ∈ line, isAsciiBlank b = false) ↔ trimWith isAsciiBlank line ≠ [] := by
    rw [Ne, trimWith_eq_nil_iff]
    simp
  constructor
  · intro stopped
    obtain ⟨text, full, -⟩ := push_eq_stop (Prod.ext stopped rfl)
    exact ⟨filled.mpr text, bounded.room_eq_zero_iff.mp full⟩
  · rintro ⟨text, reached⟩
    rw [push_of_full (filled.mp text) (bounded.room_eq_zero_iff.mpr reached)]

/-- No line changes the result of a truncated collector. -/
theorem Bounded.finish_push_of_truncated (bounded : Bounded cap c) (truncated : c.truncated = true)
    (line : List UInt8) :
    (c.push line).2.truncated = true ∧ (c.push line).2.finish = c.finish := by
  by_cases blank : trimWith isAsciiBlank line = []
  · rw [push_of_blank blank]
    exact ⟨truncated, rfl⟩
  · have noRoom := bounded.room_eq_zero_iff.mpr (bounded.full truncated)
    rw [push_of_full blank noRoom]
    refine ⟨rfl, ?_⟩
    rw [finish, finish, truncated]
    rfl

/-! ### All lines -/

theorem Bounded.drain (bounded : Bounded cap c) (lines : List (List UInt8)) :
    Bounded cap (c.drain lines) := by
  induction lines generalizing c with
  | nil => exact bounded
  | cons line lines ih => exact ih (bounded.push line)

/-- **No lines change the result of a truncated collector.** -/
theorem Bounded.finish_drain_of_truncated (bounded : Bounded cap c)
    (truncated : c.truncated = true) (lines : List (List UInt8)) :
    (c.drain lines).finish = c.finish := by
  induction lines generalizing c with
  | nil => rfl
  | cons line lines ih =>
      obtain ⟨still, same⟩ := bounded.finish_push_of_truncated truncated line
      rw [drain_cons, ih (bounded.push line) still, same]

/-- What is made of all lines is what is made of those that are wanted. -/
theorem Bounded.finish_drain (bounded : Bounded cap c) (lines : List (List UInt8)) :
    (c.drain lines).finish = (c.pushAll lines).finish := by
  induction lines generalizing c with
  | nil => rfl
  | cons line lines ih =>
      have later := bounded.push line
      rw [drain_cons, pushAll]
      rcases pushed : c.push line with ⟨_ | _, d⟩
      · rw [pushed] at later
        exact ih later
      -- the first line that stops: it is given to both, and those behind it to one
      · obtain ⟨-, -, truncated⟩ := push_eq_stop pushed
        rw [pushed] at later
        exact later.finish_drain_of_truncated truncated lines

/-- **A collector that is given all lines.** Whatever lines have been given, the records are at most
as many as the cap, and as many once the result is truncated; the next line stops the collector
exactly when it is not blank and the cap is reached. Behind a line that stopped it no line changes
the result, so the result of all lines is the one that is made by stopping at the first of these. -/
theorem drain_settles (cap : Nat) (lines : List (List UInt8)) :
    ((start cap).drain lines).records.length ≤ cap ∧
    (((start cap).drain lines).truncated = true →
      ((start cap).drain lines).records.length = cap) ∧
    (∀ line, (((start cap).drain lines).push line).1 = .stop ↔
      (∃ b ∈ line, isAsciiBlank b = false) ∧ ((start cap).drain lines).records.length = cap) ∧
    (∀ front line back, lines = front ++ line :: back →
      (((start cap).drain front).push line).1 = .stop →
        ((start cap).drain lines).finish = ((start cap).drain (front ++ [line])).finish) ∧
    ((start cap).drain lines).finish = ((start cap).pushAll lines).finish := by
  have bounded := (Bounded.start cap).drain lines
  refine ⟨bounded.bound, bounded.full, fun line => bounded.push_eq_stop_iff, ?_,
    (Bounded.start cap).finish_drain lines⟩
  rintro front line back rfl stopped
  have settled := ((Bounded.start cap).drain front).push line
  obtain ⟨-, -, truncated⟩ := push_eq_stop (Prod.ext stopped rfl)
  rw [drain_append, drain_append, drain_cons, drain_cons]
  exact settled.finish_drain_of_truncated truncated back

/-- Of `{}`, `7` and `{}` the second stops a collector with a cap of one, and the third changes
nothing. -/
theorem drain_settles_one :
    (((start 1).drain [[0x7B, 0x7D]]).push [0x37]).1 = .stop ∧
      ((start 1).drain [[0x7B, 0x7D], [0x37], [0x7B, 0x7D]]).finish =
        ((start 1).drain [[0x7B, 0x7D], [0x37]]).finish := by
  have first : (start 1).push [0x7B, 0x7D] = (.more, (start 1).keep [0x7B, 0x7D]) :=
    push_of_room (by decide) (by decide)
  have one : ((start 1).drain [[0x7B, 0x7D]]).records.length = 1 := by
    rw [drain_cons, first, keep_of_some object?_braces]
    rfl
  have stopped : (((start 1).drain [[0x7B, 0x7D]]).push [0x37]).1 = .stop :=
    ((drain_settles 1 [[0x7B, 0x7D]]).2.2.1 [0x37]).mpr ⟨⟨0x37, .head _, rfl⟩, one⟩
  exact ⟨stopped, (drain_settles 1 _).2.2.2.1 [[0x7B, 0x7D]] [0x37] [[0x7B, 0x7D]] rfl stopped⟩

end Enquiry.Collector

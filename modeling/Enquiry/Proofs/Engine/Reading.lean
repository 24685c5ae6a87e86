import Enquiry.Engine.Supervision
import Enquiry.Proofs.Record.Truncation
import Enquiry.Proofs.Text.Splitting

/-!
# Reading an output in pieces

A reader of lines carries the line that has begun from one piece of an output to the next, so that
it makes of all pieces what is made of the whole output: `ResultSet.ofOutput_of_feed` when it wants
more to the end, `ResultSet.ofOutput_append_of_feed_stop` when it has stopped. What has been
truncated stays as it is whatever follows (`ResultSet.ofOutput_append_of_truncated`), and the reader
stops at the latest when the last line of it is over (`LineReader.exists_feed_stop`).
-/

namespace Enquiry

open Text

variable {cap : Nat} {line front bytes back begun output : List UInt8}

/-! ### What a line makes of a collector -/

namespace Collector

variable {c d : Collector}

theorem truncated_keep (c : Collector) (line : List UInt8) :
    (c.keep line).truncated = c.truncated := by
  unfold keep
  split <;> rfl

/-- Only a line that is not blank stops a collector, and only when there is no room. -/
theorem push_eq_stop (stopped : c.push line = (.stop, d)) :
    trimWith isAsciiBlank line ≠ [] ∧ c.room = 0 ∧ d.truncated = true := by
  by_cases blank : trimWith isAsciiBlank line = []
  · rw [push_of_blank blank] at stopped
    cases stopped
  · by_cases full : c.room = 0
    · rw [push_of_full blank full] at stopped
      cases stopped
      exact ⟨blank, full, rfl⟩
    · rw [push_of_room blank full] at stopped
      cases stopped

theorem push_eq_more (goesOn : c.push line = (.more, d)) : d.truncated = c.truncated := by
  by_cases blank : trimWith isAsciiBlank line = []
  · rw [push_of_blank blank] at goesOn
    cases goesOn
    rfl
  · by_cases full : c.room = 0
    · rw [push_of_full blank full] at goesOn
      cases goesOn
    · rw [push_of_room blank full] at goesOn
      cases goesOn
      exact truncated_keep c _

/-- A line that stops a collector does the same when it is longer. -/
theorem push_append_of_stop (stopped : c.push line = (.stop, d)) :
    c.push (line ++ back) = (.stop, d) := by
  obtain ⟨text, full, -⟩ := push_eq_stop stopped
  rw [push_of_full (trimWith_append_ne_nil text) full, ← push_of_full text full, stopped]

theorem pushAll_singleton (c : Collector) (line : List UInt8) :
    c.pushAll [line] = (c.push line).2 := by
  rw [pushAll]
  rcases c.push line with ⟨_ | _, d⟩ <;> rfl

theorem pushAll_of_stop {lines : List (List UInt8)} (stopped : c.push line = (.stop, d)) :
    c.pushAll (line :: lines) = d := by
  rw [pushAll, stopped]

end Collector

/-! ### What bytes make of a reader -/

namespace LineReader

variable {r s : LineReader} {c : Collector}

theorem feed_append_of_more (read : r.feed front = (.more, s)) (back : List UInt8) :
    r.feed (front ++ back) = s.feed back := by
  induction front generalizing r with
  | nil => cases read; rfl
  | cons b front ih =>
      rw [List.cons_append, feed]
      rw [feed] at read
      by_cases ends : b = lineFeed
      · rw [if_pos ends] at read ⊢
        rcases pushed : r.collector.push r.begun.reverse with ⟨_ | _, d⟩ <;> rw [pushed] at read
        · exact ih read
        · cases read
      · rw [if_neg ends] at read ⊢
        exact ih read

theorem feed_append_of_stop (read : r.feed front = (.stop, s)) (back : List UInt8) :
    r.feed (front ++ back) = (.stop, s) := by
  induction front generalizing r with
  | nil => cases read
  | cons b front ih =>
      rw [List.cons_append, feed]
      rw [feed] at read
      by_cases ends : b = lineFeed
      · rw [if_pos ends] at read ⊢
        rcases pushed : r.collector.push r.begun.reverse with ⟨_ | _, d⟩ <;> rw [pushed] at read
        · exact ih read
        · exact read
      · rw [if_neg ends] at read ⊢
        exact ih read

/-- **A reader that wants more** has taken the lines that are over, and the line that has begun
goes on with what follows. -/
theorem pushAll_of_feed_more (free : lineFeed ∉ begun)
    (read : feed ⟨c, begun⟩ bytes = (.more, s)) (back : List UInt8) :
    lineFeed ∉ s.begun ∧ s.collector.truncated = c.truncated ∧
      c.pushAll (List.splitOn lineFeed (begun.reverse ++ (bytes ++ back))) =
        s.collector.pushAll (List.splitOn lineFeed (s.begun.reverse ++ back)) := by
  induction bytes generalizing c begun with
  | nil => cases read; exact ⟨free, rfl, rfl⟩
  | cons b bytes ih =>
      rw [feed] at read
      by_cases ends : b = lineFeed
      · subst ends
        rw [if_pos rfl] at read
        rcases pushed : c.push begun.reverse with ⟨_ | _, d⟩ <;> rw [pushed] at read
        · obtain ⟨left, truncated, taken⟩ := ih List.not_mem_nil read
          refine ⟨left, truncated.trans (Collector.push_eq_more pushed), ?_⟩
          rw [List.cons_append, List.splitOn_append_cons_self_of_not_mem (by simpa using free),
            Collector.pushAll, pushed]
          exact taken
        · cases read
      · rw [if_neg ends] at read
        have unfinished : lineFeed ∉ b :: begun := fun inside =>
          (List.mem_cons.mp inside).elim (fun same => ends same.symm) free
        have taken := ih unfinished read
        rwa [List.reverse_cons, List.append_assoc, List.singleton_append] at taken

/-- **A reader that has stopped** has taken all lines that a collector takes, whatever follows. -/
theorem pushAll_of_feed_stop (free : lineFeed ∉ begun)
    (read : feed ⟨c, begun⟩ bytes = (.stop, s)) (back : List UInt8) :
    s.collector.truncated = true ∧
      c.pushAll (List.splitOn lineFeed (begun.reverse ++ (bytes ++ back))) = s.collector := by
  induction bytes generalizing c begun with
  | nil => cases read
  | cons b bytes ih =>
      rw [feed] at read
      by_cases ends : b = lineFeed
      · subst ends
        rw [if_pos rfl] at read
        rw [List.cons_append, List.splitOn_append_cons_self_of_not_mem (by simpa using free)]
        rcases pushed : c.push begun.reverse with ⟨_ | _, d⟩ <;> rw [pushed] at read
        · rw [Collector.pushAll, pushed]
          exact ih List.not_mem_nil read
        · cases read
          exact ⟨(Collector.push_eq_stop pushed).2.2, Collector.pushAll_of_stop pushed⟩
      · rw [if_neg ends] at read
        have unfinished : lineFeed ∉ b :: begun := fun inside =>
          (List.mem_cons.mp inside).elim (fun same => ends same.symm) free
        have taken := ih unfinished read
        rwa [List.reverse_cons, List.append_assoc, List.singleton_append] at taken

/-- What has been begun is a line like the others: an empty one changes nothing. -/
theorem finish_eq (r : LineReader) : r.finish = (r.collector.push r.begun.reverse).2.finish := by
  unfold finish
  by_cases none : r.begun = []
  · rw [none, List.reverse_nil, Collector.push_of_blank (trimWith_nil isAsciiBlank)]
    rfl
  · simp [none]

end LineReader

/-! ### The whole output -/

namespace ResultSet

variable {r : LineReader}

/-- **A reader that wants more to the end of an output gives its records.** -/
theorem ofOutput_of_feed (read : (LineReader.start cap).feed output = (.more, r)) :
    ofOutput output cap = r.finish := by
  obtain ⟨free, -, taken⟩ :=
    LineReader.pushAll_of_feed_more List.not_mem_nil read []
  have last : List.splitOn lineFeed r.begun.reverse = [r.begun.reverse] :=
    List.splitOn_eq_singleton (by simpa using free)
  rw [List.reverse_nil, List.nil_append, List.append_nil, List.append_nil, last,
    Collector.pushAll_singleton] at taken
  rw [LineReader.finish_eq, ← taken]
  rfl

/-- **A reader that has stopped gives the records of its output**, whatever follows. -/
theorem ofOutput_append_of_feed_stop (read : (LineReader.start cap).feed output = (.stop, r))
    (back : List UInt8) :
    (ofOutput (output ++ back) cap).truncated = true ∧
      ofOutput (output ++ back) cap = r.collector.finish := by
  obtain ⟨truncated, taken⟩ :=
    LineReader.pushAll_of_feed_stop List.not_mem_nil read back
  have same : ofOutput (output ++ back) cap = r.collector.finish :=
    congrArg Collector.finish taken
  exact ⟨by rw [same]; exact truncated, same⟩

/-- Records that are truncated although the reader wants more: it stops at the end of the line that
has begun. -/
theorem exists_push_stop (read : (LineReader.start cap).feed output = (.more, r))
    (truncated : (ofOutput output cap).truncated = true) :
    ∃ c, r.collector.push r.begun.reverse = (.stop, c) ∧ c.finish = ofOutput output cap := by
  rw [ofOutput_of_feed read, LineReader.finish_eq] at truncated ⊢
  obtain ⟨-, before, -⟩ := LineReader.pushAll_of_feed_more List.not_mem_nil read []
  rcases pushed : r.collector.push r.begun.reverse with ⟨_ | _, c⟩
  · rw [pushed] at truncated
    have kept : c.truncated = false := (Collector.push_eq_more pushed).trans before
    exact absurd (truncated.symm.trans kept) (by decide)
  · exact ⟨c, rfl, rfl⟩

/-- **What has been truncated stays as it is**, whatever follows. -/
theorem ofOutput_append_of_truncated (truncated : (ofOutput output cap).truncated = true)
    (back : List UInt8) : ofOutput (output ++ back) cap = ofOutput output cap := by
  rcases read : (LineReader.start cap).feed output with ⟨_ | _, r⟩
  · obtain ⟨c, stopped, same⟩ := exists_push_stop read truncated
    obtain ⟨free, -, taken⟩ :=
      LineReader.pushAll_of_feed_more List.not_mem_nil read back
    obtain ⟨part, parts, split⟩ := List.exists_cons_of_ne_nil (List.splitOn_ne_nil lineFeed back)
    rw [splitOn_append (by simpa using free) split,
      Collector.pushAll_of_stop (Collector.push_append_of_stop stopped)] at taken
    rw [← same]
    exact congrArg Collector.finish taken
  · have whole := (ofOutput_append_of_feed_stop read []).2
    rw [List.append_nil] at whole
    rw [(ofOutput_append_of_feed_stop read back).2, whole]

end ResultSet

/-- A reader stops at the latest when the last line of a truncated output is over. -/
theorem LineReader.exists_feed_stop
    (truncated : (ResultSet.ofOutput output cap).truncated = true) (back : List UInt8) :
    ∃ r, (LineReader.start cap).feed (output ++ lineFeed :: back) = (.stop, r) ∧
      r.collector.finish = ResultSet.ofOutput output cap := by
  rcases read : (LineReader.start cap).feed output with ⟨_ | _, r⟩
  · obtain ⟨c, stopped, same⟩ := ResultSet.exists_push_stop read truncated
    refine ⟨⟨c, []⟩, ?_, same⟩
    rw [feed_append_of_more read, feed, if_pos rfl, stopped]
  · refine ⟨r, feed_append_of_stop read (lineFeed :: back), ?_⟩
    have whole := (ResultSet.ofOutput_append_of_feed_stop read []).2
    rw [List.append_nil] at whole
    exact whole.symm

end Enquiry

/-!
# Searching a text

`occursIn w text` holds when `w` stands somewhere in the text, without regard to word boundaries.
`breakOn` cuts a text at the first place where a mark stands.
-/

namespace Enquiry.Text

/-- `w` is a contiguous part of the text. -/
def occursIn [BEq α] (w : List α) : List α → Bool
  | [] => w.isEmpty
  | c :: cs => w.isPrefixOf (c :: cs) || occursIn w cs

/-- What stands after `w` when the text begins with it. -/
def afterStart? [BEq α] : List α → List α → Option (List α)
  | [], text => some text
  | _ :: _, [] => none
  | w :: ws, c :: cs => if w == c then afterStart? ws cs else none

/-- The text before and after the first `mark`; the whole text and nothing when there is none. -/
def breakOn [BEq α] (mark : α) (text : List α) : List α × List α :=
  (text.takeWhile (· != mark), (text.dropWhile (· != mark)).drop 1)

theorem afterStart?_eq_some_iff [BEq α] [LawfulBEq α] {w text rest : List α} :
    afterStart? w text = some rest ↔ text = w ++ rest := by
  induction w generalizing text with
  | nil => simp [afterStart?, eq_comm]
  | cons x xs ih =>
      cases text with
      | nil => simp [afterStart?]
      | cons c cs =>
          by_cases h : x = c
          · subst h; simp [afterStart?, ih]
          · have hb : (x == c) = false := by simpa using h
            simp [afterStart?, hb, eq_comm, h]

theorem occursIn_iff [BEq α] [LawfulBEq α] {w text : List α} :
    occursIn w text = true ↔ w <:+: text := by
  induction text with
  | nil => simp [occursIn]
  | cons c cs ih => simp [occursIn, ih, List.infix_cons_iff]

end Enquiry.Text

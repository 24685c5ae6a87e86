import Enquiry.Text.Blank
import Enquiry.Text.Case
import Enquiry.Text.Word

/-!
# Field names

A phrase becomes the name of a field by dropping its stop words, writing its blanks as `_` and
keeping only lowercase ASCII letters, ASCII digits and `_`. A pass may bring a stop word to light
(`t.he` becomes `the`), so passes follow until one changes nothing.
-/

namespace Enquiry.Question

open Text

/-- Words that carry no part of a name. -/
def stopWords : List (List Char) :=
  ["the", "a", "an", "of", "by", "for", "from", "with"].map String.toList

/-- A character that may stand in a field name. -/
def isFieldChar (c : Char) : Bool := ('a' ≤ c && c ≤ 'z') || isAsciiDigit c || c == '_'

/-- The text without the words that are stop words. What stands around them stays. -/
def dropStopWords (text : List Char) : List Char :=
  ((spans text).filter fun (isWordRun, run) => !(isWordRun && stopWords.contains run)).flatMap
    Prod.snd

/-- A blank in front of a text whose runs of blanks are joined already. -/
def joinBlank (c : Char) (joined : List Char × Bool) : List Char × Bool :=
  if isBlank c then (if joined.2 then joined.1 else '_' :: joined.1, true)
  else (c :: joined.1, false)

/-- The text with one `_` for each run of blanks. -/
def joinBlanks (text : List Char) : List Char := (text.foldr joinBlank ([], false)).1

/-- One pass over a phrase. -/
def cleanOnce (text : List Char) : List Char :=
  (joinBlanks (trim (dropStopWords (lowercase text)))).filter isFieldChar

/-- Passes over a phrase until one changes nothing, at most as many as are allowed. -/
def cleanUntilStable : Nat → List Char → List Char
  | 0, text => text
  | passes + 1, text =>
      let cleaned := cleanOnce text
      if cleaned = text then text else cleanUntilStable passes cleaned

/-- The name of the field that a phrase means; empty when nothing of the phrase may stand in a
name. -/
def fieldChars (phrase : List Char) : List Char :=
  let cleaned := cleanOnce phrase
  cleanUntilStable (cleaned.length + 1) cleaned

/-- `fieldChars` on strings. -/
def fieldName (phrase : String) : String := String.ofList (fieldChars phrase.toList)

end Enquiry.Question

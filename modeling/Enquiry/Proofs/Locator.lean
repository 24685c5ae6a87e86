import Enquiry.Locator
import Enquiry.Proofs.Text.Splitting
import Mathlib.Data.List.DropRight

/-!
# Locators and their texts

The text of a locator whose bucket is not empty and has no slash is read as the locator
(`Locator.parse?_text`), whatever its key is.  When the key is empty, so is the text without the
slash at its end, and no other texts are read as the locator (`Locator.parse?_eq_some_iff`).

A key is what the keys of its objects begin with, and stars behind it (`Locator.exists_key_eq`); the
beginning does not end in a star itself (`Locator.getLast?_keyStart`).

**Reading and writing locators undo each other** (`Locator.read_and_text`), but for that one slash.
-/

namespace Enquiry.Locator

open Text

variable {l : Locator} {input : String}

/-! ### Texts that are read -/

/-- The bucket can stand in the text of a locator: it is not empty and has no slash. -/
structure HasBucket (l : Locator) : Prop where
  filled : l.bucket ≠ ""
  noSlash : '/' ∉ l.bucket.toList

/-- The text begins with the scheme and with a character of a bucket. -/
def NamesBucket (input : String) : Prop :=
  ∃ c rest, input.toList = scheme.toList ++ c :: rest ∧ c ≠ '/'

theorem toList_text (l : Locator) :
    l.text.toList = scheme.toList ++ (l.bucket.toList ++ '/' :: l.key.toList) := by
  simp [text]

/-- Bucket and key are what the first slash behind the scheme parts. -/
theorem parse?_eq_some_iff_breakOn :
    parse? input = some l ↔ ∃ rest, input.toList = scheme.toList ++ rest ∧ l.bucket ≠ "" ∧
      breakOn '/' rest = (l.bucket.toList, l.key.toList) := by
  rw [parse?, Option.bind_eq_some_iff]
  refine exists_congr fun rest => and_congr afterStart?_eq_some_iff ?_
  rcases breakOn '/' rest with ⟨bucket, key⟩
  obtain ⟨b, k⟩ := l
  simp only [Option.ite_none_left_eq_some, Option.some.injEq, Locator.mk.injEq, Prod.mk.injEq,
    List.isEmpty_iff]
  constructor
  · rintro ⟨filled, rfl, rfl⟩
    simpa using filled
  · rintro ⟨filled, rfl, rfl⟩
    simpa using filled

/-- **The texts that are read as a locator** are its own and, when its key is empty, that without
the slash at the end. -/
theorem parse?_eq_some_iff :
    parse? input = some l ↔
      l.HasBucket ∧ (input = l.text ∨ input = scheme ++ l.bucket ∧ l.key = "") := by
  simp only [parse?_eq_some_iff_breakOn, breakOn_eq_iff, ← @String.toList_inj input,
    toList_text, String.toList_append, String.toList_eq_nil_iff]
  constructor
  · rintro ⟨rest, start, filled, noSlash, rfl | ⟨rfl, empty⟩⟩
    · exact ⟨⟨filled, noSlash⟩, .inl start⟩
    · exact ⟨⟨filled, noSlash⟩, .inr ⟨start, empty⟩⟩
  · rintro ⟨⟨filled, noSlash⟩, start | ⟨start, empty⟩⟩
    · exact ⟨_, start, filled, noSlash, .inl rfl⟩
    · exact ⟨_, start, filled, noSlash, .inr ⟨rfl, empty⟩⟩

/-- **The text of a locator is read as the locator.** -/
theorem parse?_text (named : l.HasBucket) : parse? l.text = some l :=
  parse?_eq_some_iff.mpr ⟨named, .inl rfl⟩

theorem read_eq_ok_iff : read input = .ok l ↔ parse? input = some l := by
  unfold read
  cases parse? input <;> simp

theorem read_text (named : l.HasBucket) : read l.text = .ok l :=
  read_eq_ok_iff.mpr (parse?_text named)

/-- A text is read exactly when it names a bucket. -/
theorem exists_parse?_iff : (∃ l, parse? input = some l) ↔ NamesBucket input := by
  constructor
  · rintro ⟨l, read⟩
    obtain ⟨⟨filled, noSlash⟩, texts⟩ := parse?_eq_some_iff.mp read
    obtain ⟨c, cs, bucket⟩ :=
      List.exists_cons_of_ne_nil fun none => filled (String.toList_eq_nil_iff.mp none)
    have other : c ≠ '/' := fun slash => noSlash (by simp [bucket, slash])
    rcases texts with rfl | ⟨rfl, -⟩
    · exact ⟨c, _, by rw [toList_text, bucket]; rfl, other⟩
    · exact ⟨c, cs, by rw [String.toList_append, bucket], other⟩
  · rintro ⟨c, rest, start, other⟩
    rcases broken : breakOn '/' (c :: rest) with ⟨bucket, key⟩
    refine ⟨⟨String.ofList bucket, String.ofList key⟩, parse?_eq_some_iff_breakOn.mpr
      ⟨c :: rest, start, ?_, by simpa using broken⟩⟩
    rw [breakOn, List.takeWhile_cons_of_pos (by simpa using other)] at broken
    simp [← (Prod.mk.inj broken).1]

/-! ### Beginnings of keys -/

theorem toList_keyStart (l : Locator) :
    l.keyStart.toList = l.key.toList.rdropWhile (· == '*') := by
  rw [keyStart, String.toList_ofList]
  rfl

/-- **A key is the beginning of the keys of its objects, and stars.** -/
theorem exists_key_eq (l : Locator) :
    ∃ n, l.key.toList = l.keyStart.toList ++ List.replicate n '*' := by
  have stars : ∀ c ∈ l.key.toList.rtakeWhile (· == '*'), c = '*' := fun c inside => by
    simpa using List.mem_rtakeWhile_imp inside
  refine ⟨(l.key.toList.rtakeWhile (· == '*')).length, ?_⟩
  rw [toList_keyStart, ← List.eq_replicate_of_mem stars, List.rdropWhile_append_rtakeWhile]

/-- All the stars at its end are gone. -/
theorem getLast?_keyStart (l : Locator) : l.keyStart.toList.getLast? ≠ some '*' := by
  rw [toList_keyStart]
  intro last
  have some := List.ne_nil_of_mem (List.mem_of_getLast? last)
  refine List.rdropWhile_last_not _ _ some ?_
  rw [List.getLast?_eq_some_getLast some, Option.some.injEq] at last
  simp [last]

/-- **What a key names.** A key that is empty, has a star or ends in a slash stands for a
collection. -/
theorem isCollection_iff :
    l.isCollection = true ↔ l.key = "" ∨ '*' ∈ l.key.toList ∨ l.key.toList.getLast? = some '/' := by
  simp [isCollection, or_comm]

/-! ### Reading and writing -/

/-- What a text that is read says: its locator has a bucket and the same text, with a slash behind
it when nothing but the bucket stands there. That text is read as the same locator. The key is its
beginning and all stars at its end. -/
structure ReadFrom (input : String) (l : Locator) : Prop where
  named : l.HasBucket
  text_eq : l.text =
    if '/' ∈ input.toList.drop (scheme ++ l.bucket).toList.length then input else input ++ "/"
  again : read l.text = .ok l
  stars : ∃ n, l.key.toList = l.keyStart.toList ++ List.replicate n '*'
  bare : l.keyStart.toList.getLast? ≠ some '*'

theorem readFrom_of_read (read : read input = .ok l) : ReadFrom input l := by
  obtain ⟨named, texts⟩ := parse?_eq_some_iff.mp (read_eq_ok_iff.mp read)
  refine ⟨named, ?_, read_text named, l.exists_key_eq, l.getLast?_keyStart⟩
  rcases texts with rfl | ⟨rfl, empty⟩
  · have behind : l.text.toList.drop (scheme ++ l.bucket).toList.length =
        '/' :: l.key.toList := by
      rw [toList_text, ← List.append_assoc, String.toList_append, List.drop_left]
    rw [behind, if_pos List.mem_cons_self]
  · rw [List.drop_length, if_neg List.not_mem_nil, text, empty, String.append_empty]

/-- **Reading and writing locators undo each other.** A text is read exactly when it names a bucket,
and any other text is the failure that carries it. The text of what has been read is the input, with
a slash behind a bucket that stands alone. And every locator with a bucket is read from its own
text. -/
theorem read_and_text :
    (∀ input, (∃ l, read input = .ok l) ↔ NamesBucket input) ∧
    (∀ input, ¬ NamesBucket input → read input = .error (.invalidLocator input)) ∧
    (∀ input l, read input = .ok l → ReadFrom input l) ∧
    (∀ l : Locator, l.HasBucket → read l.text = .ok l) := by
  refine ⟨fun input => ?_, fun input unnamed => ?_, fun input l => readFrom_of_read,
    fun l => read_text⟩
  · simp only [read_eq_ok_iff, exists_parse?_iff]
  · rw [← exists_parse?_iff, not_exists, ← Option.eq_none_iff_forall_ne_some] at unnamed
    rw [read, unnamed]

/-- A bucket alone is read and written with a slash; slashes and stars of a key stay; and behind the
scheme a bucket has to stand. -/
theorem read_and_text_bare :
    (read "s3://b" = .ok ⟨"b", ""⟩ ∧ (Locator.mk "b" "").text = "s3://b/") ∧
    ((Locator.mk "b" "/*a**").HasBucket ∧ read "s3://b//*a**" = .ok ⟨"b", "/*a**"⟩) ∧
    (¬ NamesBucket "s3:///a" ∧ read "s3:///a" = .error (.invalidLocator "s3:///a")) := by
  have read : Locator.read "s3://b" = .ok ⟨"b", ""⟩ := by decide
  have named : (Locator.mk "b" "/*a**").HasBucket := ⟨by decide, by decide⟩
  have unnamed : ¬ NamesBucket "s3:///a" := by
    rintro ⟨c, rest, start, other⟩
    have bare : "s3:///a".toList = scheme.toList ++ ['/', 'a'] := by decide
    rw [bare] at start
    exact other (List.cons.inj (List.append_cancel_left start)).1.symm
  exact ⟨⟨read, (read_and_text.2.2.1 _ _ read).text_eq⟩,
    ⟨named, read_and_text.2.2.2 _ named⟩, unnamed, read_and_text.2.1 _ unnamed⟩

end Enquiry.Locator

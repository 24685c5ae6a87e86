import Enquiry.Proofs.Locator
import Enquiry.Proofs.SortedMap
import Enquiry.Store.Basic

/-!
# Listings, wildcards and what they name

A listing shows the objects of a bucket whose keys begin alike: their keys are
`ObjectStore.exists_list_eq`, and each of them is `ObjectStore.exists_of_mem_list`.  A locator of a
bucket stands for the object that has its key, or, when it is a collection, for the objects of a
listing, of which the first five keys are shown (`ObjectStore.status_of_isCollection`).

**What a listing names can be located** (`ObjectStore.status_url_of_mem_list`): the text of an
object in it is read as its bucket and its key, and stands for the object or for a collection.

A star in a key makes it a wildcard, wherever it stands, but only the stars at its end are dropped
before objects are looked for.  So the keys that a wildcard addresses (`Matches`) need not begin
like it.  They do, and are found, **exactly when all stars stand at the end**
(`ObjectStore.wildcard_located_iff`); a wildcard with a star inside is reported as one without
objects although there is one that it addresses (`ObjectStore.inner_star_not_located`).
-/

namespace Enquiry

open Text

namespace ObjectStore

variable {store : ObjectStore} {name start : String} {objects : Bucket} {object : StoredObject}
  {infos : List ObjectInfo} {info : ObjectInfo} {l : Locator}

theorem startsWith_iff {start key : String} :
    startsWith start key = true ↔ start.toList <+: key.toList := List.isPrefixOf_iff_prefix

/-- A key begins with what it is the beginning of. -/
theorem startsWith_keyStart (l : Locator) : startsWith l.keyStart l.key = true := by
  obtain ⟨n, key⟩ := l.exists_key_eq
  exact startsWith_iff.mpr ⟨_, key.symm⟩

/-! ### Listings -/

/-- The keys of a listing are those of the bucket that begin alike. -/
theorem exists_list_eq (held : store.bucket name = .ok objects) (start : String) :
    ∃ infos, store.list name start = .ok infos ∧
      infos.map (·.key) = objects.keys.filter (startsWith start) := by
  refine ⟨_, by rw [list, held]; rfl, ?_⟩
  rw [List.map_map, SortedMap.keys, List.filter_map]
  rfl

/-- What a listing shows is an object of the bucket. -/
theorem exists_of_mem_list (listed : store.list name start = .ok infos) (mem : info ∈ infos) :
    ∃ objects object, store.bucket name = .ok objects ∧ objects.get? info.key = some object ∧
      info = ObjectStore.info name info.key object := by
  rw [list] at listed
  rcases held : store.bucket name with failure | objects
  · rw [held] at listed
    cases listed
  · rw [held] at listed
    cases listed
    obtain ⟨⟨key, object⟩, found, rfl⟩ := List.mem_map.mp mem
    exact ⟨objects, object, rfl, SortedMap.get?_of_mem (List.mem_filter.mp found).1, rfl⟩

/-! ### What a locator stands for -/

theorem resolve_text (named : l.HasBucket) (held : store.bucket l.bucket = .ok objects) :
    store.resolve l.text = locate objects l l.text := by
  rw [resolve, Locator.read_text named]
  show (store.bucket l.bucket >>= fun objects => locate objects l l.text) = _
  rw [held]
  rfl

/-- The first keys that are shown of a collection. -/
theorem status_of_isCollection (named : l.HasBucket) (held : store.bucket l.bucket = .ok objects)
    (whole : l.isCollection = true) {key : String} (mem : key ∈ objects.keys)
    (begins : startsWith l.keyStart key = true) :
    ∃ samples, store.status l.text = .collection l.bucket l.keyStart samples ∧
      samples = (objects.keys.filter (startsWith l.keyStart)).take 5 ∧ samples ≠ [] := by
  have inside : key ∈ objects.keys.filter (startsWith l.keyStart) :=
    List.mem_filter.mpr ⟨mem, begins⟩
  rcases shown : (objects.keys.filter (startsWith l.keyStart)).take maxSampleKeys with
    _ | ⟨first, others⟩
  · simp [maxSampleKeys, List.ne_nil_of_mem inside] at shown
  · refine ⟨first :: others, ?_, shown.symm, List.cons_ne_nil first others⟩
    rw [status, resolve_text named held, locate, if_pos whole, shown]

/-- A collection without objects is reported as invalid. -/
theorem status_of_isCollection_of_none (named : l.HasBucket)
    (held : store.bucket l.bucket = .ok objects) (whole : l.isCollection = true)
    (none : ∀ key ∈ objects.keys, startsWith l.keyStart key = false) :
    store.status l.text = .invalid ("Not found: No objects found with prefix: " ++ l.keyStart) := by
  have empty : objects.keys.filter (startsWith l.keyStart) = [] :=
    List.filter_eq_nil_iff.mpr fun key mem => by simp [none key mem]
  rw [status, resolve_text named held, locate, if_pos whole, empty]
  rfl

theorem status_of_get? (named : l.HasBucket) (held : store.bucket l.bucket = .ok objects)
    (single : l.isCollection = false) (found : objects.get? l.key = some object) :
    store.status l.text = .object l.bucket l.key object.size object.contentType := by
  rw [status, resolve_text named held, locate, if_neg (by simp [single]), found]

/-- **What a listing names can be located.** The text of an object in it is read as its bucket and
its key. A key that is not empty, has no star and does not end in a slash stands for the object;
any other stands for a collection, whose samples are the first five keys of its own listing. -/
theorem status_url_of_mem_list (filled : name ≠ "") (noSlash : '/' ∉ name.toList)
    (listed : store.list name start = .ok infos) (mem : info ∈ infos) :
    Locator.parse? info.url = some ⟨name, info.key⟩ ∧
      (info.key ≠ "" ∧ '*' ∉ info.key.toList ∧ info.key.toList.getLast? ≠ some '/' →
        ∃ contentType, store.status info.url = .object name info.key info.size contentType) ∧
      (¬ (info.key ≠ "" ∧ '*' ∉ info.key.toList ∧ info.key.toList.getLast? ≠ some '/') →
        ∃ keyStart samples others,
          store.status info.url = .collection name keyStart samples ∧
            store.list name keyStart = .ok others ∧
            samples = (others.map (·.key)).take 5 ∧ samples ≠ []) := by
  obtain ⟨objects, object, held, found, shown⟩ := exists_of_mem_list listed mem
  have url : info.url = (Locator.mk name info.key).text := congrArg ObjectInfo.url shown
  have size : info.size = object.size := congrArg ObjectInfo.size shown
  have named : (Locator.mk name info.key).HasBucket := ⟨filled, noSlash⟩
  rw [url, size]
  refine ⟨Locator.parse?_text named, fun single => ?_, fun several => ?_⟩
  · have single : (Locator.mk name info.key).isCollection = false := by
      simpa [← Bool.not_eq_true, Locator.isCollection_iff] using single
    exact ⟨object.contentType, status_of_get? named held single found⟩
  · have whole : (Locator.mk name info.key).isCollection = true := by
      refine Locator.isCollection_iff.mpr ?_
      by_contra other
      exact several (by simpa using other)
    have inside : info.key ∈ objects.keys := SortedMap.mem_keys_iff.mpr (by simp [found])
    obtain ⟨samples, status, first, some⟩ :=
      status_of_isCollection named held whole inside (startsWith_keyStart ⟨name, info.key⟩)
    obtain ⟨others, listing, keys⟩ := exists_list_eq held (Locator.mk name info.key).keyStart
    exact ⟨_, samples, others, status, listing, by rw [first, keys], some⟩

/-- A bucket with two objects, one of which has a wildcard for a key. -/
def starredStore : ObjectStore :=
  (empty.put "b" "a*" ⟨2, "text/plain", "later", "COLD"⟩).put "b" "a" ⟨1, "text/csv", "now", "WARM"⟩

/-- What a listing shows of the two objects. -/
def starredInfos : List ObjectInfo :=
  [⟨"a", 1, "now", "\"1\"", "WARM", "s3://b/a"⟩, ⟨"a*", 2, "later", "\"2\"", "COLD", "s3://b/a*"⟩]

theorem status_url_of_mem_list_starred :
    ("b" ≠ "" ∧ '/' ∉ "b".toList ∧ starredStore.list "b" "a" = .ok starredInfos) ∧
      (∃ contentType, starredStore.status "s3://b/a" = .object "b" "a" 1 contentType) ∧
      Locator.parse? "s3://b/a*" = some ⟨"b", "a*"⟩ ∧
      ∃ keyStart samples others,
        starredStore.status "s3://b/a*" = .collection "b" keyStart samples ∧
          starredStore.list "b" keyStart = .ok others ∧
          samples = (others.map (·.key)).take 5 ∧ samples ≠ [] := by
  have listed : starredStore.list "b" "a" = .ok starredInfos := by decide +kernel
  have single := status_url_of_mem_list (by decide) (by decide) listed (.head _)
  have several := status_url_of_mem_list (by decide) (by decide) listed (.tail _ (.head _))
  exact ⟨⟨by decide, by decide, listed⟩, single.2.1 (by decide), several.1,
    several.2.2 (by decide)⟩

end ObjectStore

/-! ### Wildcards -/

/-- The keys that a wildcard addresses: a star stands for any characters, and every other character
for itself. -/
inductive Matches : List Char → List Char → Prop
  | nil : Matches [] []
  | star (run : List Char) {pattern key : List Char} (later : Matches pattern key) :
      Matches ('*' :: pattern) (run ++ key)
  | char {c : Char} (plain : c ≠ '*') {pattern key : List Char} (later : Matches pattern key) :
      Matches (c :: pattern) (c :: key)

/-- Up to its first star a wildcard is the beginning of what it addresses. -/
theorem Matches.isPrefix {front back key : List Char} (free : '*' ∉ front)
    (h : Matches (front ++ back) key) : front <+: key := by
  induction front generalizing key with
  | nil => exact List.nil_prefix
  | cons c front ih =>
      obtain ⟨here, free⟩ := not_or.mp (mt List.mem_cons.mpr free)
      cases h with
      | star => exact absurd rfl here
      | char _ later => exact List.cons_prefix_cons.mpr ⟨rfl, ih free later⟩

/-- A wildcard addresses what is left of it without its stars. -/
theorem matches_filter (pattern : List Char) : Matches pattern (pattern.filter (· ≠ '*')) := by
  induction pattern with
  | nil => exact .nil
  | cons c pattern ih =>
      by_cases star : c = '*'
      · subst star
        exact .star [] ih
      · rw [List.filter_cons_of_pos (by simpa using star)]
        exact .char star ih

namespace ObjectStore

variable {l : Locator}

theorem bucket_put_empty (name key : String) (object : StoredObject) :
    (empty.put name key object).bucket name = .ok (SortedMap.empty.insert key object) := by
  have held : (empty.put name key object).buckets.get? name =
      some (SortedMap.empty.insert key object) := by
    rw [put, alterBucket, SortedMap.get?_modify, if_pos rfl]
    rfl
  rw [bucket, held]
  rfl

/-- **A wildcard is located by what it addresses** exactly when all its stars stand at its end:
then every stored key that it addresses begins like it, and it is never reported as having no
objects. -/
theorem wildcard_located_iff (named : l.HasBucket) (wild : '*' ∈ l.key.toList) :
    (∀ (store : ObjectStore) (objects : Bucket) (key : String),
      store.bucket l.bucket = .ok objects → key ∈ objects.keys →
        Matches l.key.toList key.toList →
          startsWith l.keyStart key = true ∧
            ∃ samples, store.status l.text = .collection l.bucket l.keyStart samples) ↔
      '*' ∉ l.keyStart.toList := by
  have whole : l.isCollection = true := Locator.isCollection_iff.mpr (.inr (.inl wild))
  constructor
  · -- the key without its stars is addressed, but does not begin like the wildcard
    intro located inner
    let key := String.ofList (l.key.toList.filter (· ≠ '*'))
    let object : StoredObject := ⟨0, "", "", ""⟩
    have free : '*' ∉ key.toList := by simp [key]
    have held := bucket_put_empty l.bucket key object
    have matched : Matches l.key.toList key.toList := by
      simpa [key] using matches_filter l.key.toList
    have begins := (located _ _ key held (.head _) matched).1
    exact free ((startsWith_iff.mp begins).subset inner)
  · intro free store objects key held mem matched
    obtain ⟨n, split⟩ := l.exists_key_eq
    rw [split] at matched
    have begins : startsWith l.keyStart key = true := startsWith_iff.mpr (matched.isPrefix free)
    obtain ⟨samples, status, -, -⟩ := status_of_isCollection named held whole mem begins
    exact ⟨begins, samples, status⟩

/-- A bucket with one object. -/
def lonelyStore : ObjectStore := empty.put "b" "aXc" ⟨1, "text/plain", "now", "WARM"⟩

theorem wildcard_located_iff_trailing :
    ((Locator.mk "b" "a**").HasBucket ∧ '*' ∈ (Locator.mk "b" "a**").key.toList ∧
      '*' ∉ (Locator.mk "b" "a**").keyStart.toList ∧ Matches "a**".toList "aXc".toList) ∧
      startsWith (Locator.mk "b" "a**").keyStart "aXc" = true ∧
      ∃ samples, lonelyStore.status (Locator.mk "b" "a**").text =
        .collection "b" (Locator.mk "b" "a**").keyStart samples := by
  have named : (Locator.mk "b" "a**").HasBucket := ⟨by decide, by decide⟩
  have wild : '*' ∈ (Locator.mk "b" "a**").key.toList := by decide
  have trailing : '*' ∉ (Locator.mk "b" "a**").keyStart.toList := by decide
  have matched : Matches "a**".toList "aXc".toList :=
    .char (by decide) (.star ['X', 'c'] (.star [] .nil))
  exact ⟨⟨named, wild, trailing, matched⟩, (wildcard_located_iff named wild).mpr trailing
    lonelyStore _ "aXc" (bucket_put_empty "b" "aXc" _) (.head _) matched⟩

/-- The wildcard `a*c` addresses the object `aXc` of a bucket, but that key does not begin with
`a*c`, and the wildcard is reported as one without objects. -/
theorem inner_star_not_located :
    ((Locator.mk "b" "a*c").HasBucket ∧ '*' ∈ (Locator.mk "b" "a*c").key.toList ∧
      (∃ objects, lonelyStore.bucket "b" = .ok objects ∧ "aXc" ∈ objects.keys) ∧
      Matches "a*c".toList "aXc".toList) ∧
      startsWith (Locator.mk "b" "a*c").keyStart "aXc" = false ∧
      lonelyStore.status "s3://b/a*c" =
        .invalid "Not found: No objects found with prefix: a*c" := by
  have named : (Locator.mk "b" "a*c").HasBucket := ⟨by decide, by decide⟩
  have matched : Matches "a*c".toList "aXc".toList :=
    .char (by decide) (.star ['X'] (.char (by decide) .nil))
  have held : lonelyStore.bucket "b" = .ok _ := bucket_put_empty "b" "aXc" _
  refine ⟨⟨named, by decide, ⟨_, held, .head _⟩, matched⟩, rfl, ?_⟩
  refine status_of_isCollection_of_none named held rfl fun key mem => ?_
  obtain rfl := List.mem_singleton.mp mem
  rfl

end ObjectStore

end Enquiry

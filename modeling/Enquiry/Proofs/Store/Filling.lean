import Enquiry.Proofs.Store.Listing

/-!
# Stores and the calls that fill them

A store is filled by calls, one after another.  What it holds is read off the calls
(`ObjectStore.Holds`): a bucket is denied if a call denies it, it is there if a call makes it or
puts an object into it, and the object of a key is the last that was given for it.  One more call
keeps that (`ObjectStore.Holds.concat`), so it is true of every store that is filled
(`ObjectStore.holds_filledBy`).

So **a listing is known from the calls alone** (`ObjectStore.list_filledBy`): each entry of it shows
the object that was given last for its key (`ObjectInfo.Shows`).  The order of calls that do not
give an object for the same key has no effect on any answer.
-/

namespace Enquiry

open ObjectStore

/-- A call that fills a store. -/
inductive Filling where
  /-- Makes a bucket, unless it is there. -/
  | add (name : String)
  /-- Gives an object for a key of a bucket, which is made unless it is there. -/
  | put (name key : String) (object : StoredObject)
  /-- Refuses access to a bucket, whether or not it is there. -/
  | deny (name : String)
  /-- Sets the credentials of the caller. -/
  | identify (credentials : CredentialStatus)
  deriving DecidableEq, Repr

namespace Filling

/-- The store after the call. -/
def apply (store : ObjectStore) : Filling → ObjectStore
  | .add name => store.addBucket name
  | .put name key object => store.put name key object
  | .deny name => store.deny name
  | .identify credentials => store.withCredentials credentials

/-- The bucket is there after the call, whatever was there before. -/
def Makes (name : String) : Filling → Prop
  | .add made => made = name
  | .put made _ _ => made = name
  | _ => False

/-- The object that the call gives for a key. -/
def object? (name key : String) : Filling → Option StoredObject
  | .put made given object => if made = name ∧ given = key then some object else none
  | _ => none

/-- The credentials that the call sets. -/
def credentials? : Filling → Option CredentialStatus
  | .identify credentials => some credentials
  | _ => none

end Filling

variable {calls others : List Filling} {call : Filling} {name key : String} {store : ObjectStore}

/-- The objects that some calls give for a key, in order. -/
def objectsGiven (name key : String) (calls : List Filling) : List StoredObject :=
  calls.filterMap (Filling.object? name key)

/-- The credentials that some calls set, in order. -/
def credentialsGiven (calls : List Filling) : List CredentialStatus :=
  calls.filterMap Filling.credentials?

/-- The entry shows an object of a bucket under its key: its size, its date and its class, a tag
that is its size in hexadecimal digits, and where it is. -/
structure ObjectInfo.Shows (info : ObjectInfo) (name : String) (object : StoredObject) : Prop where
  size : info.size = object.size
  lastModified : info.lastModified = object.lastModified
  storageClass : info.storageClass = object.storageClass
  etag : info.etag = "\"" ++ String.ofList (Nat.toDigits 16 object.size.toNat) ++ "\""
  url : info.url = "s3://" ++ name ++ "/" ++ info.key

/-- The same calls in another order, but for those that give an object for the same key of the
same bucket, which keep theirs. -/
structure Reorders (calls others : List Filling) : Prop where
  perm : calls.Perm others
  objects : ∀ name key, objectsGiven name key calls = objectsGiven name key others

theorem mem_objectsGiven {object : StoredObject} :
    object ∈ objectsGiven name key calls ↔ .put name key object ∈ calls := by
  rw [objectsGiven, List.mem_filterMap]
  constructor
  · rintro ⟨call, mem, gives⟩
    cases call with
    | put made given stored =>
        rw [Filling.object?] at gives
        split at gives
        case isTrue same =>
          obtain ⟨rfl, rfl⟩ := same
          cases gives
          exact mem
        case isFalse => cases gives
    | add | deny | identify => cases gives
  · intro mem
    exact ⟨_, mem, by rw [Filling.object?, if_pos ⟨rfl, rfl⟩]⟩

/-- A key has a last object when some call gives one. -/
theorem isSome_getLast?_objectsGiven :
    (objectsGiven name key calls).getLast?.isSome ↔ ∃ object, .put name key object ∈ calls := by
  rw [List.getLast?_isSome]
  constructor
  · intro some
    obtain ⟨object, given⟩ := List.exists_mem_of_ne_nil _ some
    exact ⟨object, mem_objectsGiven.mp given⟩
  · rintro ⟨object, given⟩
    exact List.ne_nil_of_mem (mem_objectsGiven.mpr given)

namespace ObjectStore

theorem info_shows (name key : String) (object : StoredObject) :
    (info name key object).Shows name object := by
  refine ⟨rfl, rfl, rfl, ?_, rfl⟩
  rw [info, etag, ← String.toList_inj]
  simp

/-- The store that some calls fill. -/
def filledBy (calls : List Filling) : ObjectStore := calls.foldl Filling.apply empty

/-- The object of a key, if its bucket is there. -/
def objectAt? (store : ObjectStore) (name key : String) : Option StoredObject :=
  (store.buckets.get? name).bind (·.get? key)

/-- The store holds what the calls gave. -/
structure Holds (store : ObjectStore) (calls : List Filling) : Prop where
  denied : ∀ name, name ∈ store.denied ↔ .deny name ∈ calls
  there : ∀ name, (store.buckets.get? name).isSome ↔ ∃ call ∈ calls, call.Makes name
  object : ∀ name key, store.objectAt? name key = (objectsGiven name key calls).getLast?
  credentials : store.credentials = (credentialsGiven calls).getLast?.getD localCredentials

/-! ### One call -/

theorem get?_alterBucket (store : ObjectStore) (made name : String) (f : Bucket → Bucket) :
    (store.alterBucket made f).buckets.get? name =
      if name = made then some (f ((store.buckets.get? made).getD .empty))
      else store.buckets.get? name :=
  SortedMap.get?_modify store.buckets made name _

theorem get?_getD (store : ObjectStore) (name key : String) :
    ((store.buckets.get? name).getD .empty).get? key = store.objectAt? name key := by
  unfold objectAt?
  rcases store.buckets.get? name with _ | objects
  · rfl
  · rfl

theorem mem_denied_apply (store : ObjectStore) (call : Filling) (name : String) :
    name ∈ (call.apply store).denied ↔ name ∈ store.denied ∨ call = .deny name := by
  cases call with
  | deny denied =>
      simp only [Filling.apply, deny, List.mem_cons, Filling.deny.injEq]
      exact ⟨fun h => h.symm.imp_right Eq.symm, fun h => h.symm.imp_left Eq.symm⟩
  | add made => simp [Filling.apply, addBucket, alterBucket]
  | put made given object => simp [Filling.apply, put, alterBucket]
  | identify credentials => simp [Filling.apply, withCredentials]

theorem isSome_get?_apply (store : ObjectStore) (call : Filling) (name : String) :
    ((call.apply store).buckets.get? name).isSome ↔
      (store.buckets.get? name).isSome ∨ call.Makes name := by
  cases call with
  | add made =>
      rw [Filling.apply, addBucket, get?_alterBucket, Filling.Makes]
      by_cases same : name = made
      · simp [same]
      · simp [same, Ne.symm same]
  | put made given object =>
      rw [Filling.apply, put, get?_alterBucket, Filling.Makes]
      by_cases same : name = made
      · simp [same]
      · simp [same, Ne.symm same]
  | deny denied => simp [Filling.apply, deny, Filling.Makes]
  | identify credentials => simp [Filling.apply, withCredentials, Filling.Makes]

/-- A call changes an object only by giving one for its key. -/
theorem objectAt?_apply (store : ObjectStore) (call : Filling) (name key : String) :
    (call.apply store).objectAt? name key =
      (call.object? name key).or (store.objectAt? name key) := by
  cases call with
  | add made =>
      rw [Filling.apply, addBucket, objectAt?, get?_alterBucket]
      split
      case isTrue same => subst same; exact get?_getD store name key
      case isFalse => rfl
  | put made given object =>
      rw [Filling.apply, put, objectAt?, get?_alterBucket, Filling.object?]
      by_cases bucket : made = name
      · subst bucket
        rw [if_pos rfl, Option.bind_some, SortedMap.insert, SortedMap.get?_modify, get?_getD]
        by_cases same : given = key
        · simp [same]
        · simp [same, Ne.symm same]
      · rw [if_neg (Ne.symm bucket), if_neg fun both => bucket both.1]
        rfl
  | deny denied => rfl
  | identify credentials => rfl

theorem credentials_apply (store : ObjectStore) (call : Filling) :
    (call.apply store).credentials = call.credentials?.getD store.credentials := by
  cases call <;> rfl

/-! ### All calls -/

theorem Holds.empty : Holds empty [] := by
  refine ⟨fun name => ?_, fun name => ?_, fun name key => rfl, rfl⟩
  · simp [ObjectStore.empty]
  · simp [ObjectStore.empty, SortedMap.empty, SortedMap.get?]

/-- **One more call keeps what is held.** -/
theorem Holds.concat (held : store.Holds calls) (call : Filling) :
    (call.apply store).Holds (calls ++ [call]) := by
  refine ⟨fun name => ?_, fun name => ?_, fun name key => ?_, ?_⟩
  · rw [mem_denied_apply, held.denied, List.mem_append, List.mem_singleton, eq_comm (a := call)]
  · rw [isSome_get?_apply, held.there]
    simp [or_and_right, exists_or]
  · rw [objectAt?_apply, held.object, objectsGiven, objectsGiven, List.filterMap_append,
      List.getLast?_append]
    rcases given : call.object? name key with _ | object
    · simp [given]
    · simp [given]
  · rw [credentials_apply, held.credentials, credentialsGiven, credentialsGiven,
      List.filterMap_append, List.getLast?_append]
    rcases given : call.credentials? with _ | credentials
    · simp [given]
    · simp [given]

/-- **What a store holds is what the calls gave.** -/
theorem holds_filledBy (calls : List Filling) : (filledBy calls).Holds calls := by
  -- from the last call on, since the last object of a key is the one that is held
  induction calls using List.reverseRecOn with
  | nil => exact .empty
  | append_singleton calls call held =>
      rw [filledBy, List.foldl_append]
      exact held.concat call

/-! ### Answers -/

theorem bucket_of_denied (held : store.Holds calls) (denied : .deny name ∈ calls) :
    store.bucket name = .error (.accessDenied ("bucket " ++ name)) := by
  rw [bucket, if_pos ((held.denied name).mpr denied)]

theorem bucket_of_unmade (held : store.Holds calls) (allowed : .deny name ∉ calls)
    (unmade : ∀ call ∈ calls, ¬ call.Makes name) :
    store.bucket name = .error (.notFound ("bucket " ++ name)) := by
  have absent : store.buckets.get? name = none := by
    rcases found : store.buckets.get? name with _ | objects
    · rfl
    · obtain ⟨call, mem, makes⟩ := (held.there name).mp (by rw [found]; rfl)
      exact absurd makes (unmade call mem)
  rw [bucket, if_neg (mt (held.denied name).mp allowed), absent]

theorem exists_bucket_of_made (held : store.Holds calls) (allowed : .deny name ∉ calls)
    (made : ∃ call ∈ calls, call.Makes name) :
    ∃ objects, store.bucket name = .ok objects ∧
      ∀ key, objects.get? key = (objectsGiven name key calls).getLast? := by
  obtain ⟨objects, found⟩ := Option.isSome_iff_exists.mp ((held.there name).mpr made)
  refine ⟨objects, ?_, fun key => ?_⟩
  · rw [bucket, if_neg (mt (held.denied name).mp allowed), found]
  · rw [← held.object, objectAt?, found, Option.bind_some]

/-- Stores that hold the same answer the same. -/
theorem Holds.bucket_eq {other : ObjectStore} (held : store.Holds calls)
    (heldToo : other.Holds others) (same : Reorders calls others) (name : String) :
    store.bucket name = other.bucket name := by
  have deniedIff : Filling.deny name ∈ calls ↔ .deny name ∈ others := same.perm.mem_iff
  have madeIff : (∃ call ∈ calls, call.Makes name) ↔ ∃ call ∈ others, call.Makes name :=
    exists_congr fun call => and_congr_left fun _ => same.perm.mem_iff
  by_cases denied : .deny name ∈ calls
  · rw [bucket_of_denied held denied, bucket_of_denied heldToo (deniedIff.mp denied)]
  by_cases made : ∃ call ∈ calls, call.Makes name
  · obtain ⟨objects, found, given⟩ := exists_bucket_of_made held denied made
    obtain ⟨objects', found', given'⟩ :=
      exists_bucket_of_made heldToo (mt deniedIff.mpr denied) (madeIff.mp made)
    have agree : objects = objects' := SortedMap.ext_get? fun key => by
      rw [given, given', same.objects]
    rw [found, found', agree]
  · have unmade : ∀ call ∈ calls, ¬ call.Makes name := fun call mem makes =>
      made ⟨call, mem, makes⟩
    have unmade' : ∀ call ∈ others, ¬ call.Makes name := fun call mem makes =>
      made (madeIff.mpr ⟨call, mem, makes⟩)
    rw [bucket_of_unmade held denied unmade,
      bucket_of_unmade heldToo (mt deniedIff.mpr denied) unmade']

/-- A listing has the keys of the bucket that begin alike, in ascending order, each with its
object. -/
theorem exists_list_of_bucket {objects : Bucket} (found : store.bucket name = .ok objects)
    (start : String) :
    ∃ infos, store.list name start = .ok infos ∧
      infos.Pairwise (fun a b => a.key < b.key) ∧
      (∀ key, key ∈ infos.map (·.key) ↔
        (objects.get? key).isSome ∧ startsWith start key = true) ∧
      ∀ info ∈ infos, ∃ object, objects.get? info.key = some object ∧
        info = ObjectStore.info name info.key object := by
  obtain ⟨infos, listed, keys⟩ := exists_list_eq found start
  refine ⟨infos, listed, ?_, fun key => ?_, fun info mem => ?_⟩
  · have ascending : objects.keys.Pairwise (· < ·) := List.pairwise_map.mpr objects.ascending
    have kept := ascending.filter (startsWith start)
    rw [← keys] at kept
    exact List.pairwise_map.mp kept
  · rw [keys, List.mem_filter, SortedMap.mem_keys_iff]
  · obtain ⟨objects', object, found', held, shown⟩ := exists_of_mem_list listed mem
    obtain rfl : objects = objects' := Except.ok.inj (found.symm.trans found')
    exact ⟨object, held, shown⟩

/-- The store is asked for a listing or a locator only through its buckets. -/
theorem answers_eq_of_bucket_eq {other : ObjectStore}
    (same : ∀ name, store.bucket name = other.bucket name) :
    (∀ name start, store.list name start = other.list name start) ∧
      ∀ input, store.status input = other.status input := by
  refine ⟨fun name start => by rw [list, list, same], fun input => ?_⟩
  have resolved : store.resolve input = other.resolve input := by
    simp only [resolve, same]
  rw [status, status, resolved]

/-- **A listing is known from the calls that filled the store.** A bucket that some call denies is
refused, and one that no call made is not found. Of any other bucket the listing has, in ascending
order, the keys that begin as is asked and for which an object was given, each with the last object
that was given for it. The same calls in another order give the same answers, as long as those for
the same key keep theirs. -/
theorem list_filledBy (calls : List Filling) (name : String) (start : Option String) :
    (.deny name ∈ calls →
      (filledBy calls).list name (start.getD "") = .error (.accessDenied ("bucket " ++ name))) ∧
    (.deny name ∉ calls → (∀ call ∈ calls, ¬ call.Makes name) →
      (filledBy calls).list name (start.getD "") = .error (.notFound ("bucket " ++ name))) ∧
    (.deny name ∉ calls → (∃ call ∈ calls, call.Makes name) →
      ∃ infos, (filledBy calls).list name (start.getD "") = .ok infos ∧
        infos.Pairwise (fun a b => a.key < b.key) ∧
        (∀ key, key ∈ infos.map (·.key) ↔
          (∃ object, .put name key object ∈ calls) ∧ (start.getD "").toList <+: key.toList) ∧
        ∀ info ∈ infos, ∃ object, (objectsGiven name info.key calls).getLast? = some object ∧
          info.Shows name object) ∧
    (∀ others, Reorders calls others →
      (filledBy others).list name (start.getD "") = (filledBy calls).list name (start.getD "") ∧
      (∀ input, (filledBy others).status input = (filledBy calls).status input) ∧
      (credentialsGiven others = credentialsGiven calls →
        (filledBy others).credentials = (filledBy calls).credentials)) := by
  have held := holds_filledBy calls
  refine ⟨fun denied => ?_, fun allowed unmade => ?_, fun allowed made => ?_,
    fun others same => ?_⟩
  · rw [list, bucket_of_denied held denied]
    rfl
  · rw [list, bucket_of_unmade held allowed unmade]
    rfl
  · obtain ⟨objects, found, given⟩ := exists_bucket_of_made held allowed made
    obtain ⟨infos, listed, ascending, keys, shown⟩ :=
      exists_list_of_bucket found (start.getD "")
    refine ⟨infos, listed, ascending, fun key => ?_, fun info mem => ?_⟩
    · rw [keys, given, isSome_getLast?_objectsGiven, startsWith_iff]
    · obtain ⟨object, last, shown⟩ := shown info mem
      refine ⟨object, by rw [← given, last], ?_⟩
      rw [shown]
      exact info_shows name info.key object
  · have heldToo := holds_filledBy others
    obtain ⟨lists, statuses⟩ := answers_eq_of_bucket_eq fun name => held.bucket_eq heldToo same name
    refine ⟨(lists name _).symm, fun input => (statuses input).symm, fun callers => ?_⟩
    rw [heldToo.credentials, held.credentials, callers]

/-- Objects in two buckets, one of which is denied before it is there. The other is made once more
behind its first object, which is replaced later. -/
def mixedCalls : List Filling :=
  [.put "b" "x" ⟨1, "text/csv", "then", "WARM"⟩, .deny "d", .add "b",
    .put "b" "x" ⟨2, "text/plain", "now", "COLD"⟩, .put "b" "w" ⟨3, "text/csv", "now", "WARM"⟩,
    .put "d" "x" ⟨4, "text/csv", "now", "WARM"⟩]

/-- The same calls; the two for one key are in order. -/
def sortedCalls : List Filling :=
  [.add "b", .put "b" "w" ⟨3, "text/csv", "now", "WARM"⟩,
    .put "b" "x" ⟨1, "text/csv", "then", "WARM"⟩, .put "b" "x" ⟨2, "text/plain", "now", "COLD"⟩,
    .put "d" "x" ⟨4, "text/csv", "now", "WARM"⟩, .deny "d"]

theorem reorders_mixedCalls : Reorders mixedCalls sortedCalls := by
  refine ⟨by decide, fun name key => ?_⟩
  by_cases bucket : "b" = name
  · by_cases first : "w" = key
    · subst bucket first
      rfl
    · simp [objectsGiven, mixedCalls, sortedCalls, Filling.object?, List.filterMap_cons, ← bucket,
        first]
  · simp [objectsGiven, mixedCalls, sortedCalls, Filling.object?, List.filterMap_cons, bucket]

theorem list_filledBy_mixed :
    (.deny "d" ∈ mixedCalls ∧
      (filledBy mixedCalls).list "d" "" = .error (.accessDenied "bucket d")) ∧
    ((.deny "e" ∉ mixedCalls ∧ ∀ call ∈ mixedCalls, ¬ call.Makes "e") ∧
      (filledBy mixedCalls).list "e" "" = .error (.notFound "bucket e")) ∧
    ((.deny "b" ∉ mixedCalls ∧ ∃ call ∈ mixedCalls, call.Makes "b") ∧
      ∃ infos, (filledBy mixedCalls).list "b" "x" = .ok infos ∧ "w" ∉ infos.map (·.key) ∧
        ∃ info ∈ infos, info.key = "x" ∧ info.Shows "b" ⟨2, "text/plain", "now", "COLD"⟩) ∧
    (Reorders mixedCalls sortedCalls ∧
      (filledBy sortedCalls).list "b" "" = (filledBy mixedCalls).list "b" "") := by
  have denied : .deny "d" ∈ mixedCalls := by decide
  have absent : .deny "e" ∉ mixedCalls := by decide
  have unmade : ∀ call ∈ mixedCalls, ¬ call.Makes "e" := by simp [mixedCalls, Filling.Makes]
  have allowed : .deny "b" ∉ mixedCalls := by decide
  have made : ∃ call ∈ mixedCalls, call.Makes "b" := ⟨.add "b", by decide, rfl⟩
  refine ⟨⟨denied, (list_filledBy mixedCalls "d" none).1 denied⟩,
    ⟨⟨absent, unmade⟩, (list_filledBy mixedCalls "e" none).2.1 absent unmade⟩,
    ⟨⟨allowed, made⟩, ?_⟩, reorders_mixedCalls, ?_⟩
  · obtain ⟨infos, listed, -, keys, shown⟩ :=
      (list_filledBy mixedCalls "b" (some "x")).2.2.1 allowed made
    have absent : "w" ∉ infos.map (·.key) := fun inside =>
      absurd ((keys "w").mp inside).2 (by decide)
    obtain ⟨info, mem, named⟩ := List.mem_map.mp ((keys "x").mpr ⟨⟨_, .head _⟩, by decide⟩)
    obtain ⟨object, last, shows⟩ := shown info mem
    rw [named] at last
    obtain rfl := Option.some.inj last
    exact ⟨infos, listed, absent, info, mem, named, shows⟩
  · exact ((list_filledBy mixedCalls "b" none).2.2.2 sortedCalls reorders_mixedCalls).1

end ObjectStore

end Enquiry

import Enquiry.Failure
import Enquiry.Locator
import Enquiry.SortedMap
import Enquiry.Text.Digit

/-!
# Object stores

A store has buckets, and a bucket has objects by key. A bucket to which access is denied answers
nothing else, whatever it holds. Listings are in ascending order of keys.
-/

namespace Enquiry

open Text

/-! ### What a store reports

The answers of an object store: the objects of a listing, what a locator stands for, and whether
the caller has credentials.
-/

/-- One object of a listing. -/
structure ObjectInfo where
  key : String
  size : UInt64
  lastModified : String
  etag : String
  storageClass : String
  url : String
  deriving DecidableEq, Repr

/-- What a locator stands for. -/
inductive LocatorStatus where
  | object (bucket key : String) (size : UInt64) (contentType : String)
  /-- All objects whose keys begin alike, with the first few of their keys. -/
  | collection (bucket keyStart : String) (samples : List String)
  | invalid (error : String)
  deriving DecidableEq, Repr

/-- The locator stands for something. -/
def LocatorStatus.isValid : LocatorStatus → Bool
  | .object _ _ _ _ => true
  | .collection _ _ _ => true
  | .invalid _ => false

/-- Whether the caller is known to the store, and as whom. -/
structure CredentialStatus where
  configured : Bool
  accountId : Option String
  userArn : Option String
  error : Option String
  deriving DecidableEq, Repr

/-! ### What a store holds -/

/-- An object without its contents. -/
structure StoredObject where
  size : UInt64
  contentType : String
  lastModified : String
  storageClass : String
  deriving DecidableEq, Repr

/-- The objects of a bucket, by key. -/
abbrev Bucket := SortedMap StoredObject

structure ObjectStore where
  buckets : SortedMap Bucket
  denied : List String
  credentials : CredentialStatus

namespace ObjectStore

/-- The caller of a store to which no credentials have been given. -/
def localCredentials : CredentialStatus :=
  ⟨true, some "000000000000", some "arn:aws:iam::000000000000:user/local", none⟩

/-- The store without buckets. -/
def empty : ObjectStore := ⟨.empty, [], localCredentials⟩

/-! ### Filling a store -/

/-- Changes the objects of a bucket, which is there afterwards. -/
def alterBucket (store : ObjectStore) (name : String) (f : Bucket → Bucket) : ObjectStore :=
  { store with buckets := store.buckets.modify name fun bucket? => f (bucket?.getD .empty) }

/-- The store with a bucket. -/
def addBucket (store : ObjectStore) (name : String) : ObjectStore := store.alterBucket name id

/-- The store with an object in place of the one that had the key. -/
def put (store : ObjectStore) (name key : String) (object : StoredObject) : ObjectStore :=
  store.alterBucket name (·.insert key object)

/-- The store without access to a bucket. -/
def deny (store : ObjectStore) (name : String) : ObjectStore :=
  { store with denied := name :: store.denied }

/-- The store as another caller sees it. -/
def withCredentials (store : ObjectStore) (credentials : CredentialStatus) : ObjectStore :=
  { store with credentials }

/-! ### Asking a store -/

/-- The objects of a bucket, if there is access to it and it is there. -/
def bucket (store : ObjectStore) (name : String) : Except Failure Bucket :=
  if name ∈ store.denied then .error (.accessDenied ("bucket " ++ name))
  else match store.buckets.get? name with
    | some objects => .ok objects
    | none => .error (.notFound ("bucket " ++ name))

/-- The key begins with `start`. -/
def startsWith (start key : String) : Bool := start.toList.isPrefixOf key.toList

/-- The tag of an object: its size in hexadecimal digits, in quotes. -/
def etag (object : StoredObject) : String :=
  String.ofList ('"' :: Nat.toDigits 16 object.size.toNat ++ ['"'])

/-- The object as a listing shows it. -/
def info (bucket key : String) (object : StoredObject) : ObjectInfo :=
  ⟨key, object.size, object.lastModified, etag object, object.storageClass,
    (Locator.mk bucket key).text⟩

/-- The objects of a bucket whose keys begin with `start`. -/
def list (store : ObjectStore) (name start : String) : Except Failure (List ObjectInfo) :=
  (store.bucket name).map fun objects =>
    (objects.entries.filter fun (key, _) => startsWith start key).map fun (key, object) =>
      info name key object

/-- How many keys are shown of a collection. -/
def maxSampleKeys : Nat := 5

/-- What a locator stands for in a bucket. -/
def locate (objects : Bucket) (l : Locator) (input : String) : Except Failure LocatorStatus :=
  if l.isCollection then
    match (objects.keys.filter (startsWith l.keyStart)).take maxSampleKeys with
    | [] => .error (.notFound ("No objects found with prefix: " ++ l.keyStart))
    | samples => .ok (.collection l.bucket l.keyStart samples)
  else match objects.get? l.key with
    | some object => .ok (.object l.bucket l.key object.size object.contentType)
    | none => .error (.notFound ("Object not found: " ++ input))

/-- What a text stands for as a locator, or why it stands for nothing. -/
def resolve (store : ObjectStore) (input : String) : Except Failure LocatorStatus := do
  let l ← Locator.read input
  let objects ← store.bucket l.bucket
  locate objects l input

/-- What a text stands for as a locator. -/
def status (store : ObjectStore) (input : String) : LocatorStatus :=
  match store.resolve input with
  | .ok status => status
  | .error failure => .invalid failure.message

end ObjectStore

end Enquiry

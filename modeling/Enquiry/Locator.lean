import Enquiry.Failure
import Enquiry.Text.Search

/-!
# Locators

A locator names objects in a bucket: `s3://bucket/key`. A key that is empty, ends in `/` or has a
`*` in it stands for all objects whose keys begin with it, less the stars at its end.
-/

namespace Enquiry

open Text

/-- A bucket and a key in it. -/
structure Locator where
  bucket : String
  key : String
  deriving DecidableEq, Repr

namespace Locator

def scheme : String := "s3://"

/-- The locator that a text writes. The bucket goes up to the first slash and is not empty. -/
def parse? (input : String) : Option Locator :=
  (afterStart? scheme.toList input.toList).bind fun rest =>
    let (bucket, key) := breakOn '/' rest
    if bucket.isEmpty then none else some ⟨String.ofList bucket, String.ofList key⟩

/-- The locator that a text writes, or the failure of a text that writes none. -/
def read (input : String) : Except Failure Locator :=
  match parse? input with
  | some l => .ok l
  | none => .error (.invalidLocator input)

/-- The locator stands for a set of objects. -/
def isCollection (l : Locator) : Bool :=
  l.key.toList.contains '*' || l.key.toList.getLast? == some '/' || l.key.isEmpty

/-- What the keys of the objects begin with. -/
def keyStart (l : Locator) : String :=
  String.ofList (l.key.toList.reverse.dropWhile (· == '*')).reverse

/-- The locator as text. -/
def text (l : Locator) : String := scheme ++ l.bucket ++ "/" ++ l.key

end Locator

end Enquiry

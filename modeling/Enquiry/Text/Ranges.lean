/-!
# Ranges and kinds of characters

A property of characters is written as a list of closed ranges of code points. `covers` looks a
character up in such a list. The kinds of characters of ASCII have names, and a set may be made of
ranges and of kinds.
-/

namespace Enquiry.Text

/-- Some range of the list holds the character. -/
def covers (ranges : List (Nat × Nat)) (c : Char) : Bool :=
  ranges.any fun (first, last) => first ≤ c.toNat && c.toNat ≤ last

theorem covers_iff {ranges : List (Nat × Nat)} {c : Char} :
    covers ranges c = true ↔ ∃ r ∈ ranges, r.1 ≤ c.toNat ∧ c.toNat ≤ r.2 := by
  simp [covers]

/-! ### Kinds -/

/-- The kinds of characters by name. -/
def kinds : List (String × (Char → Bool)) :=
  let graph (c : Char) := 0x21 ≤ c.toNat && c.toNat ≤ 0x7E
  [("alpha", fun c => c.isAlpha), ("digit", fun c => c.isDigit), ("alnum", fun c => c.isAlphanum),
    ("upper", fun c => c.isUpper), ("lower", fun c => c.isLower),
    ("space", fun c => c == ' ' || (9 ≤ c.toNat && c.toNat ≤ 13)),
    ("blank", fun c => c == ' ' || c == '\t'),
    ("punct", fun c => graph c && !c.isAlphanum), ("graph", graph),
    ("print", fun c => graph c || c == ' '),
    ("cntrl", fun c => c.toNat < 0x20 || c.toNat == 0x7F),
    ("xdigit", fun c => c.isDigit || ('a' ≤ c && c ≤ 'f') || ('A' ≤ c && c ≤ 'F'))]

/-- What one character of a set may be. -/
inductive Member where
  | range (first last : Char)
  | kind (name : String)
  deriving DecidableEq, Repr

def Member.holds (c : Char) : Member → Bool
  | .range first last => first ≤ c && c ≤ last
  | .kind name => ((kinds.lookup name).map (· c)).getD false

end Enquiry.Text

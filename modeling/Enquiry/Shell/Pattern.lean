import Enquiry.Host.Octets
import Enquiry.Text.Ranges

/-!
# Patterns

A pattern stands for the texts that it matches as a whole: `*` for any text, `?` for any
character, a set in brackets for one of its characters, and everything else for itself. All
prefixes of a text that a pattern matches are found in one pass over the text.
-/

namespace Enquiry.Shell

open Host Text

inductive Item where
  | one (c : Char)
  | any
  | many
  | set (negated : Bool) (members : List Member)
  deriving DecidableEq, Repr

abbrev Pattern := List Item

/-- A character with a mark whether it stands for itself. -/
abbrev Marked := Char × Bool

def Item.holds (c : Char) : Item → Bool
  | .one d => c == d
  | .any => true
  | .many => true
  | .set negated members => members.any (·.holds c) != negated

/-! ### Reading -/

/-- A kind of characters behind its first bracket, and what follows it. -/
def kind? (text : List Marked) : Option (String × List Marked) :=
  match text with
  | (':', false) :: rest =>
      let name := rest.takeWhile fun (c, q) => c.isAlpha && !q
      match rest.drop name.length with
      | (':', false) :: (']', false) :: rest =>
          let name := String.ofList (name.map Prod.fst)
          if (kinds.lookup name).isSome then some (name, rest) else none
      | _ => none
  | _ => none

/-- The character at the front of a set, and what follows it. -/
def setChar? : List Marked → Option (Char × List Marked)
  | [] => none
  | [('\\', false)] => none
  | ('\\', false) :: (c, _) :: rest => some (c, rest)
  | (c, _) :: rest => some (c, rest)

/-- The members of a set and what follows its closing bracket. The first argument bounds the
number of members, and the second one says that a bracket may be the first member. -/
def readSet? : Nat → Bool → List Member → List Marked → Option (List Member × List Marked)
  | 0, _, _, _ => none
  | n + 1, isFirst, found, text =>
      match text with
      | [] => none
      | (c, quoted) :: rest =>
          if c = ']' ∧ !quoted ∧ !isFirst then some (found.reverse, rest)
          else match (if c = '[' ∧ !quoted then kind? rest else none) with
            | some (name, rest) => readSet? n false (.kind name :: found) rest
            | none =>
                match setChar? text with
                | none => none
                | some (first, ('-', false) :: after) =>
                    match after with
                    | (']', false) :: _ =>
                        readSet? n false (.range first first :: found) (('-', false) :: after)
                    | _ =>
                        match setChar? after with
                        | none => none
                        | some (last, rest) => readSet? n false (.range first last :: found) rest
                | some (first, rest) => readSet? n false (.range first first :: found) rest

/-- The pattern that marked characters write. A set is negated by an exclamation mark, or with
`caret` also by a caret. The first argument bounds the number of items. -/
def Pattern.read (caret : Bool) : Nat → List Marked → Pattern
  | 0, _ => []
  | _, [] => []
  | n + 1, (c, true) :: rest => .one c :: Pattern.read caret n rest
  | n + 1, ('*', false) :: rest => .many :: Pattern.read caret n rest
  | n + 1, ('?', false) :: rest => .any :: Pattern.read caret n rest
  | n + 1, ('\\', false) :: (c, _) :: rest => .one c :: Pattern.read caret n rest
  | n + 1, ('[', false) :: rest =>
      let (negated, inside) := match rest with
        | ('!', false) :: inside => (true, inside)
        | ('^', false) :: inside => if caret then (true, inside) else (false, rest)
        | _ => (false, rest)
      match readSet? (inside.length + 1) true [] inside with
      | some (members, rest) => .set negated members :: Pattern.read caret n rest
      | none => .one '[' :: Pattern.read caret n rest
  | n + 1, (c, false) :: rest => .one c :: Pattern.read caret n rest

/-- The pattern that marked characters write. -/
def Pattern.ofMarked (caret : Bool) (text : List Marked) : Pattern :=
  Pattern.read caret text.length text

/-- Some character is not quoted and means more than itself. -/
def hasMeta (text : List Marked) : Bool :=
  text.any fun (c, quoted) => !quoted && (c == '*' || c == '?' || c == '[')

namespace Pattern

/-! ### Matching -/

/-- The places in a pattern that can be reached without a character from some places. -/
def close : Pattern → List Bool → List Bool
  | _, [] => []
  | [], places => places
  | item :: items, here :: places =>
      let places := match item, here, places with
        | .many, true, _ :: rest => true :: rest
        | _, _, places => places
      here :: close items places

/-- The places behind those from which a character leads on. `carried` says that the first place
is reached from the one in front of it. -/
def stepFrom (c : Char) (carried : Bool) : Pattern → List Bool → List Bool
  | item :: items, here :: places =>
      let stays := match item with
        | .many => here
        | _ => false
      let leads := match item with
        | .many => false
        | item => here && item.holds c
      (carried || stays) :: stepFrom c leads items places
  | [], _ => [carried]
  | _, [] => [carried]

/-- The places that are reached before the first character. -/
def start (p : Pattern) : List Bool := p.close (true :: p.map fun _ => false)

/-- The lengths of the prefixes that the pattern matches, the longest first, behind a prefix of
some length at which some places are reached. -/
def lengthsFrom (p : Pattern) : Nat → List Bool → List Nat → Octets → List Nat
  | n, places, found, text =>
      let found := if places.getLast? = some true then n :: found else found
      match text with
      | [] => found
      | c :: rest =>
          let places := p.close (p.stepFrom c false places)
          if places.any id then lengthsFrom p (n + 1) places found rest else found
termination_by _ _ _ text => text.length

/-- The lengths of the prefixes of a text that the pattern matches, the longest first. -/
def lengths (p : Pattern) (text : Octets) : List Nat := p.lengthsFrom 0 p.start [] text

/-- The pattern matches the text. -/
def holds (p : Pattern) (text : Octets) : Bool := (p.lengths text).head? == some text.length

/-- How much of a text the pattern matches at its front. -/
def front? (p : Pattern) (longest : Bool) (text : Octets) : Option Nat :=
  if longest then (p.lengths text).head? else (p.lengths text).getLast?

/-- How much of a text the pattern matches at its end. -/
def end? (p : Pattern) (longest : Bool) (text : Octets) : Option Nat :=
  Pattern.front? p.reverse longest text.reverse

end Pattern

end Enquiry.Shell

import Enquiry.Tool.Script.Library

/-!
# Functions of scripts

Which names belong to a function, and how the arguments of a call become the values of parameters.
A name belongs to the function in which it is given a value, unless the function says otherwise.
-/

namespace Enquiry.Tool.Script

open Host Text

/-! ### Names -/

/-- The names in a place that values are put in. The first argument bounds the depth. -/
def targetNames : Nat → Expr → List String
  | 0, _ => []
  | n + 1, e =>
      match e.form with
      | .name x => [x]
      | .tuple items => items.flatMap (targetNames n)
      | .list items => items.flatMap (targetNames n)
      | .spread e => targetNames n e
      | _ => []

/-- How deep statements may nest. -/
def maxBlocks : Nat := 200

/-- The part of a name with dots that is given a value. -/
def firstPart (name : String) : String := String.ofList (name.toList.takeWhile (· != '.'))

/-- The names that a statement gives values to. The first argument bounds the depth. -/
def givenNames : Nat → Statement → List String
  | 0, _ => []
  | n + 1, s =>
      let all (body : List Statement) : List String := body.flatMap (givenNames n)
      match s.deed with
      | .assign targets _ => targets.flatMap (targetNames maxBlocks)
      | .augment target _ _ => targetNames maxBlocks target
      | .delete targets => targets.flatMap (targetNames maxBlocks)
      | .load items => items.map fun (m, other) => other.getD (firstPart m)
      | .loadFrom _ items => items.map fun (m, other) => other.getD m
      | .choose branches otherwise => branches.flatMap (fun (_, b) => all b) ++ all otherwise
      | .loop _ body otherwise => all body ++ all otherwise
      | .each target _ body otherwise => targetNames maxBlocks target ++ all body ++ all otherwise
      | .attempt body handlers otherwise atLast =>
          all body ++ handlers.flatMap (fun
            | .mk _ name body => name.toList ++ all body) ++ all otherwise ++ all atLast
      | .within items body =>
          items.flatMap (fun (_, t) => (t.map (targetNames maxBlocks)).getD []) ++ all body
      | .define name _ _ _ _ => [name]
      | .group name _ _ _ => [name]
      | _ => []

/-- The names that statements take from the script, and those that they take from the functions
around. The first argument bounds the depth. -/
def takenNames : Nat → List Statement → List String × List String
  | 0, _ => ([], [])
  | n + 1, body =>
      let join (found : List (List String × List String)) : List String × List String :=
        (found.flatMap Prod.fst, found.flatMap Prod.snd)
      join (body.map fun s =>
        match s.deed with
        | .shared names => (names, [])
        | .outer names => ([], names)
        | .choose branches otherwise =>
            join (takenNames n otherwise :: branches.map fun (_, b) => takenNames n b)
        | .loop _ body otherwise => join [takenNames n body, takenNames n otherwise]
        | .each _ _ body otherwise => join [takenNames n body, takenNames n otherwise]
        | .attempt body handlers otherwise atLast =>
            join (takenNames n body :: takenNames n otherwise :: takenNames n atLast ::
              handlers.map fun
                | .mk _ _ body => takenNames n body)
        | .within _ body => takenNames n body
        | _ => ([], []))

/-- A function with the names that belong to it. -/
def Function.of (title name : String) (parameters : List (String × Taking × Option Value))
    (body : List Statement) (result : Option Expr) (scope : Nat) (nature : Nature) : Function :=
  let (shared, outer) := takenNames maxBlocks body
  let given := body.flatMap (givenNames maxBlocks) ++ nature.named
  { name, title := title ++ name, parameters, body, result, scope
    own := (parameters.map Prod.fst) ++
      given.filter fun x => !shared.contains x && !outer.contains x
    shared, outer, generates := nature.generates }

/-! ### Arguments -/

/-- Names as they are listed. -/
def namesListed (names : List String) : List Char :=
  let quoted := names.map fun n => '\'' :: n.toList ++ ['\'']
  match quoted.reverse with
  | [] => []
  | [one] => one
  | [last, first] => first ++ " and ".toList ++ last
  | last :: others => listed others.reverse ++ ", and ".toList ++ last

namespace Running

/-- The values of the parameters of a function for some arguments. -/
def bindings (f : Function) (args : List Value) (named : List (String × Value)) :
    Running (List (String × Value)) := do
  let wrong {α : Type} (what : List Char) : Running α :=
    raise "TypeError" (f.title.toList ++ "() ".toList ++ what)
  let places := f.parameters.filter fun (_, t, _) => t == .plain
  let direct := (places.map Prod.fst).zip args
  let rest := args.drop places.length
  let takesRest := f.parameters.any fun (_, t, _) => t == .rest
  let takesNamed := f.parameters.any fun (_, t, _) => t == .namedRest
  let byName := f.parameters.filterMap fun (x, t, _) =>
    if t = .plain ∨ t = .named then some x else none
  for (x, _) in named do
    if (direct.lookup x).isSome then
      wrong ("got multiple values for argument '".toList ++ x.toList ++ ['\''])
    if !byName.contains x && !takesNamed then
      wrong ("got an unexpected keyword argument '".toList ++ x.toList ++ ['\''])
  let plainRest := f.parameters.any fun (x, t, _) => t == .rest && !x.isEmpty
  if !rest.isEmpty && !(takesRest && plainRest) then
    let usual := (places.filter fun (_, _, v) => v.isSome).length
    let count := places.length
    let were := args.length
    let takes :=
      if usual = 0 then decimal count else "from ".toList ++ decimal (count - usual) ++ " to ".toList ++
        decimal count
    wrong ("takes ".toList ++ takes ++ " positional argument".toList ++
      (if count = 1 ∧ usual = 0 then [] else ['s']) ++ " but ".toList ++ decimal were ++
      (if were = 1 then " was given" else " were given").toList)
  let value? (x : String) (usual : Option Value) : Option Value :=
    (direct.lookup x <|> named.lookup x) <|> usual
  let missing (t : Taking) : List String := f.parameters.filterMap fun (x, u, usual) =>
    if u = t ∧ (value? x usual).isNone then some x else none
  let complain (names : List String) (what : String) : Running Unit := do
    if !names.isEmpty then
      wrong ("missing ".toList ++ decimal names.length ++ " required ".toList ++ what.toList ++
        " argument".toList ++ (if names.length = 1 then [] else ['s']) ++ ": ".toList ++
        namesListed names)
  complain (missing .plain) "positional"
  complain (missing .named) "keyword-only"
  f.parameters.filterMapM fun (x, t, usual) => do
    match t with
    | .rest => if x.isEmpty then return none else return some (x, .tuple rest)
    | .namedRest =>
        let others := named.filter fun (y, _) => !byName.contains y
        return some (x, ← makeDict (others.map fun (k, v) => (.text k.toList, v)))
    | _ => return (value? x usual).map fun v => (x, v)

end Running

end Enquiry.Tool.Script

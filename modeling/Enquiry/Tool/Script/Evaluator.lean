import Enquiry.Tool.Script.Calling

/-!
# Running scripts

Expressions are evaluated and statements are done in the machine. What leaves a loop or a function,
and what goes wrong, breaks off.
-/

namespace Enquiry.Tool.Script

open Host Text

namespace Running

/-! ### Frames -/

/-- How deep functions may call each other. -/
def maxCalls : Nat := 999

/-- Begins a function. -/
def enter (function : String) (scope : Nat) (span : Span) : Running (List Frame) := do
  let frames := (← get).frames
  let depth := (frames.head?.map Frame.depth).getD 0 + 1
  if maxCalls < depth then raiseText "RecursionError" "maximum recursion depth exceeded"
  modify fun m => { m with frames := ⟨function, scope, span, depth⟩ :: frames }
  return frames

/-- Goes back to where some functions were under way. -/
def backTo (frames : List Frame) : Running Unit := modify fun m => { m with frames }

/-- Does something in a function of its own. -/
def inside {α : Type} (function : String) (scope : Nat) (span : Span) (x : Running α) :
    Running α := do
  let frames ← enter function scope span
  let a ← x
  backTo frames
  return a

/-! ### What goes wrong -/

/-- Breaks off with a value that tells what has gone wrong. -/
def raiseValue {α : Type} (v : Value) (cause : Option (Option Nat)) : Running α := do
  match v with
  | .object n =>
      match ← object n with
      | .fault f =>
          let m ← get
          let depth := (m.frames.head?.map Frame.depth).getD 0
          let older := f.trace.takeWhile fun g => depth ≤ g.depth
          let context := if m.handling = some n then f.context else m.handling
          setObject n (.fault
            { f with trace := older ++ m.frames, context, cause := cause <|> f.cause })
          throw (.raised n)
      | _ => raiseText "TypeError" "exceptions must derive from BaseException"
  | _ => raiseText "TypeError" "exceptions must derive from BaseException"

/-! ### Scopes and modules -/

/-- What stands in front of the names of functions that are made here. -/
def titleHere : Running String := do return (← scope (← innermost)).title


/-- A module that is asked for. -/
def moduleNamed (name : String) : Running Value := do
  if modules.contains name then return .module name
  raiseOf (.builtin "ModuleNotFoundError") [.text ("No module named '" ++ name ++ "'").toList]
    [("name", .text name.toList)]

/-- Takes something from a module. -/
def takeFrom (module name : String) : Running Value := do
  match ← moduleFeature? module name with
  | some v => return v
  | none =>
      raiseText "ImportError" ("cannot import name '" ++ name ++ "' from '" ++ module ++
        "' (unknown location)")

/-! ### Loops -/

/-- Does the body of a loop; the answer says whether the loop goes on. -/
def inLoop (body : Running Unit) : Running Bool := do
  step
  match ← Program.attempt body with
  | .ok _ => return true
  | .error .goOn => return true
  | .error .leave => return false
  | .error c => throw c

/-- Does something for all values of a cursor; the answer says whether the loop came to its end. The
first argument bounds the number of rounds. -/
def eachOf (next : Cursor → Running (Option (Value × Cursor))) (body : Value → Running Unit) :
    Nat → Cursor → Running Bool
  | 0, _ => return true
  | n + 1, c => do
      match ← next c with
      | none => return true
      | some (v, c) => if ← inLoop (body v) then eachOf next body n c else return false

/-- Does something as long as a test holds; the answer says whether the loop came to its end. The
first argument bounds the number of rounds. -/
def whileHolds (test : Running Bool) (body : Running Unit) : Nat → Running Bool
  | 0 => return true
  | n + 1 => do
      if !(← test) then return true
      if ← inLoop body then whileHolds test body n else return false

/-! ### Constants and comparisons -/

def constantValue : Constant → Value
  | .none => .none
  | .bool b => .bool b
  | .whole n => .whole n
  | .real x => .real x
  | .text t => .text t
  | .bytes b => .bytes b
  | .ellipsis => .ellipsis

/-- Two values compare in some way. -/
def compares (apply : Apply) (c : Comparison) (a b : Value) : Running Bool := do
  match c with
  | .same => same apply a b
  | .different => return !(← same apply a b)
  | .less => beforeFrom apply "<" false maxDepth a b
  | .atMost => beforeFrom apply "<=" true maxDepth a b
  | .more => beforeFrom apply ">" false maxDepth b a
  | .atLeast => beforeFrom apply ">=" true maxDepth b a
  | .within => contains apply a b
  | .without => return !(← contains apply a b)
  | .identical => return identical a b
  | .distinct => return !identical a b

/-- The name of the function that a collection is. -/
def collectionName : Collection → String
  | .list => "<listcomp>"
  | .set => "<setcomp>"
  | .dict => "<dictcomp>"
  | .generator => "<genexpr>"

/-! ### Expressions and statements -/

mutual

/-- The value of an expression. The first argument bounds the number of steps. -/
def eval : Nat → Expr → Running Value
  | 0, _ => throw (.failed 1)
  | n + 1, .mk span form => do
      let here : Running Unit := mark span
      match form with
      | .constant c => return constantValue c
      | .name x =>
          here
          valueOf x
      | .template pieces => return .text (← template n pieces)
      | .tuple items => return .tuple (← evalAll n items)
      | .list items => makeList (← evalAll n items)
      | .set items => makeSet (← evalAll n items)
      | .dict entries => makeDict (← evalEntries n entries)
      | .positive e =>
          let v ← eval n e
          here
          positive v
      | .negative e =>
          let v ← eval n e
          here
          negative v
      | .inverted e =>
          let v ← eval n e
          here
          inverted v
      | .opposite e =>
          let v ← eval n e
          return .bool !(← truth n v)
      | .operate op a b =>
          let v ← eval n a
          let w ← eval n b
          here
          operate (call n) op v w
      | .both a b =>
          let v ← eval n a
          if ← truth n v then eval n b else return v
      | .either a b =>
          let v ← eval n a
          if ← truth n v then return v else eval n b
      | .compare first others =>
          let v ← eval n first
          comparisons n span v others
      | .choice test yes no =>
          let v ← eval n test
          if ← truth n v then eval n yes else eval n no
      | .call f args =>
          let g ← eval n f
          let (found, named) ← evalArguments n args
          here
          call n g found named
      | .feature e name =>
          let v ← eval n e
          here
          match ← feature v name with
          | .method (.tuple [f, self]) "property" => call n f [self] []
          | w => return w
      | .item e key =>
          let v ← eval n e
          let k ← eval n key
          here
          item (call n) v k
      | .slice a b c =>
          let part (e : Option Expr) : Running Value :=
            match e with
            | some e => eval n e
            | none => return .none
          let x ← part a
          let y ← part b
          let z ← part c
          return .slice x y z
      | .function parameters body =>
          let values ← evalParameters n parameters
          makeFunction (.of (← titleHere) "<lambda>" values [] (some body) (← innermost) ⟨false, []⟩)
      | .collect kind key value clauses => collect n span kind key value clauses
      | .spread e => eval n e
      | .naming name e =>
          let v ← eval n e
          setName name v
          return v
      | .handOut e =>
          let found ← match e with
            | none => pure [Value.none]
            | some (.mk _ (.spread e)) => do itemsOf (call n) (← eval n e)
            | some e => do pure [← eval n e]
          modify fun m =>
            match m.handedOut with
            | top :: rest => { m with handedOut := (found.reverse ++ top) :: rest }
            | [] => m
          return .none

/-- A new function. -/
def makeFunction (f : Function) : Running Value := do
  modify fun m => { m with functions := m.functions + 1 }
  make (.function f)

/-- A value counts as true. -/
def truth : Nat → Value → Running Bool
  | 0, v => holds v
  | n + 1, v => do
      match v with
      | .object _ =>
          match ← ownMethod? v "__bool__", ← ownMethod? v "__len__" with
          | some f, _ => holds (← call n f [] [])
          | none, some f => holds (← call n f [] [])
          | none, none => holds v
      | v => holds v

/-- The values of expressions, of which those with a star stand for many. -/
def evalAll : Nat → List Expr → Running (List Value)
  | 0, _ => throw (.failed 1)
  | n + 1, es => do
      match es with
      | [] => return []
      | .mk span (.spread e) :: rest =>
          let v ← eval n e
          mark span
          let items ← itemsOf (call n) v
          return items ++ (← evalAll n rest)
      | e :: rest =>
          let v ← eval n e
          return v :: (← evalAll n rest)

def evalEntries : Nat → List (Option Expr × Expr) → Running (List (Value × Value))
  | 0, _ => throw (.failed 1)
  | n + 1, entries => do
      match entries with
      | [] => return []
      | (some k, e) :: rest =>
          let key ← eval n k
          let v ← eval n e
          return (key, v) :: (← evalEntries n rest)
      | (none, e) :: rest =>
          let pairs ← pairsOf (call n) (← eval n e)
          return pairs ++ (← evalEntries n rest)

/-- The arguments of a call. -/
def evalArguments : Nat → List Argument → Running (List Value × List (String × Value))
  | 0, _ => throw (.failed 1)
  | n + 1, args => do
      match args with
      | [] => return ([], [])
      | .plain e :: rest =>
          let v ← eval n e
          let (found, named) ← evalArguments n rest
          return (v :: found, named)
      | .named name e :: rest =>
          let v ← eval n e
          let (found, named) ← evalArguments n rest
          return (found, (name, v) :: named)
      | .spread e :: rest =>
          let items ← itemsOf (call n) (← eval n e)
          let (found, named) ← evalArguments n rest
          return (items ++ found, named)
      | .namedSpread e :: rest =>
          let pairs ← pairsOf (call n) (← eval n e)
          let more ← pairs.mapM fun (k, v) => do
            return (String.ofList (← wanted k), v)
          let (found, named) ← evalArguments n rest
          return (found, more ++ named)

/-- The parameters of a function with their usual values. -/
def evalParameters : Nat → List Parameter → Running (List (String × Taking × Option Value))
  | 0, _ => throw (.failed 1)
  | n + 1, parameters => do
      match parameters with
      | [] => return []
      | .mk name taking usual :: rest =>
          let v ← match usual with
            | some e => some <$> eval n e
            | none => pure none
          return (name, taking, v) :: (← evalParameters n rest)

/-- A text with its places filled. -/
def template : Nat → List Piece → Running (List Char)
  | 0, _ => throw (.failed 1)
  | n + 1, pieces => do
      match pieces with
      | [] => return []
      | .text t :: rest => return t ++ (← template n rest)
      | .value e conversion format :: rest =>
          let v ← eval n e
          let spec ← template n format
          let t ← laidOut (call n) (← converted (call n) v conversion) spec
          return t ++ (← template n rest)

/-- Comparisons one after another, as long as they hold. -/
def comparisons : Nat → Span → Value → List (Comparison × Expr) → Running Value
  | 0, _, _, _ => throw (.failed 1)
  | n + 1, span, v, others => do
      match others with
      | [] => return .bool true
      | (c, e) :: rest =>
          let w ← eval n e
          mark span
          let found ← compares (call n) c v w
          if !found || rest.isEmpty then return .bool found
          comparisons n span w rest

/-- Collects values. -/
def collect : Nat → Span → Collection → Option Expr → Expr → List Clause → Running Value
  | 0, _, _, _, _, _ => throw (.failed 1)
  | n + 1, span, kind, key, value, clauses => do
      match clauses with
      | .each target source :: rest =>
          let v ← eval n source
          mark span
          let c ← cursorOf (call n) v
          let own := (clauses.map fun
            | .each t _ => targetNames maxBlocks t
            | .given _ => []).flatten
          let title := (← titleHere) ++ collectionName kind ++ ".<locals>."
          let s ← makeScope ⟨∅, some (← innermost), own, [], [], false, title⟩
          let found ← inside (collectionName kind) s span
            (gather n key value (.each target source :: rest) (some c) [])
          match kind with
          | .list => makeList (found.reverse.map Prod.snd)
          | .set => makeSet (found.reverse.map Prod.snd)
          | .dict => makeDict found.reverse
          | .generator => make (.cursor (.values (found.reverse.map Prod.snd)))
      | _ => return .none

/-- Collects values behind those that have been found, the latest first. The cursor is that of the
first clause, if it has been made already. -/
def gather : Nat → Option Expr → Expr → List Clause → Option Cursor → List (Value × Value) →
    Running (List (Value × Value))
  | 0, _, _, _, _, _ => throw (.failed 1)
  | n + 1, key, value, clauses, cursor, found => do
      match clauses with
      | [] =>
          let k ← match key with
            | some e => eval n e
            | none => pure .none
          let v ← eval n value
          return (k, v) :: found
      | .given test :: rest =>
          if ← truth n (← eval n test) then gather n key value rest none found else return found
      | .each target source :: rest =>
          let c ← match cursor with
            | some c => pure c
            | none => do
                let v ← eval n source
                mark source.span
                cursorOf (call n) v
          gatherEach n key value target rest c found

def gatherEach : Nat → Option Expr → Expr → Expr → List Clause → Cursor → List (Value × Value) →
    Running (List (Value × Value))
  | 0, _, _, _, _, _, _ => throw (.failed 1)
  | n + 1, key, value, target, rest, c, found => do
      step
      match ← advance (call n) c with
      | none => return found
      | some (v, c) =>
          put n target v
          let found ← gather n key value rest none found
          gatherEach n key value target rest c found

/-- Puts a value in a place. -/
def put : Nat → Expr → Value → Running Unit
  | 0, _, _ => throw (.failed 1)
  | n + 1, .mk span form, v => do
      match form with
      | .name x => setName x v
      | .feature e name =>
          let w ← eval n e
          mark span
          setFeature w name v
      | .item e key =>
          let w ← eval n e
          let k ← eval n key
          mark span
          setItem (call n) w k v
      | .tuple targets => putAll n span targets v
      | .list targets => putAll n span targets v
      | .spread e => put n e v
      | _ => return ()

/-- Puts the values of a row in as many places. -/
def putAll : Nat → Span → List Expr → Value → Running Unit
  | 0, _, _, _ => throw (.failed 1)
  | n + 1, span, targets, v => do
      mark span
      let items ← match ← Program.attempt (cursorOf (call n) v) with
        | .ok _ => itemsOf (call n) v
        | .error (.raised _) =>
            raise "TypeError" ("cannot unpack non-iterable ".toList ++ (← kindNameOf v) ++
              " object".toList)
        | .error c => throw c
      let count := targets.length
      match targets.findIdx? fun t => t.form matches .spread _ with
      | some i =>
          if items.length + 1 < count then
            raise "ValueError" ("not enough values to unpack (expected at least ".toList ++
              decimal (count - 1) ++ ", got ".toList ++ decimal items.length ++ [')'])
          let behind := count - i - 1
          let middle := (items.drop i).take (items.length - i - behind)
          let row ← makeList middle
          putEach n targets (items.take i ++ row :: items.drop (items.length - behind))
      | none =>
          if items.length < count then
            raise "ValueError" ("not enough values to unpack (expected ".toList ++ decimal count ++
              ", got ".toList ++ decimal items.length ++ [')'])
          if count < items.length then
            raise "ValueError" ("too many values to unpack (expected ".toList ++ decimal count ++ [')'])
          putEach n targets items

def putEach : Nat → List Expr → List Value → Running Unit
  | 0, _, _ => throw (.failed 1)
  | n + 1, targets, values => do
      match targets, values with
      | t :: targets, v :: values =>
          put n t v
          putEach n targets values
      | _, _ => return ()

/-- Calls a value. -/
def call : Nat → Value → List Value → List (String × Value) → Running Value
  | 0, _, _, _ => throw (.failed 1)
  | n + 1, v, args, named => do
      match v with
      | .builtin "bool" => return .bool (← truth n (args.headD .none))
      | .builtin name => callBuiltin (call n) name ⟨args, named⟩
      | .method self name =>
          match ← method? (call n) feature self name ⟨args, named⟩ with
          | some w => return w
          | none =>
              if name = "__init__" then
                callBuiltin (call n) "fault.__init__" ⟨self :: args, named⟩
              else raiseText "AttributeError" ("object has no attribute '" ++ name ++ "'")
      | .bound f self =>
          match ← object f with
          | .function g => callFunction n g (self :: args) named
          | _ => return .none
      | .object k =>
          match ← object k with
          | .function f => callFunction n f args named
          | .kind _ => makeIndividual (call n) k ⟨args, named⟩
          | _ =>
              match ← ownMethod? v "__call__" with
              | some f => call n f args named
              | none =>
                  raise "TypeError" ('\'' :: (← kindNameOf v) ++ "' object is not callable".toList)
      | v => raise "TypeError" ('\'' :: (← kindNameOf v) ++ "' object is not callable".toList)

/-- Calls a function of the script. -/
def callFunction : Nat → Function → List Value → List (String × Value) → Running Value
  | 0, _, _, _ => throw (.failed 1)
  | n + 1, f, args, named => do
      step
      let values ← bindings f args named
      let s ← makeScope
        ⟨Std.HashMap.ofList values, some f.scope, f.own, f.shared, f.outer, false, f.title ++ ".<locals>."⟩
      let functions := (← get).functions
      let start := (f.body.head?.map Statement.span).getD default
      let frames ← enter f.name s start
      if f.generates then modify fun m => { m with handedOut := [] :: m.handedOut }
      let ended ← Program.attempt (match f.result with
        | some e => eval n e
        | none => do
            execAll n f.body
            return Value.none)
      let result ← match ended with
        | .ok v => pure v
        | .error (.giveBack v) => pure v
        | .error c => throw c
      backTo frames
      modify fun m =>
        if m.functions = functions ∧ m.scopes.size = s + 1 then { m with scopes := m.scopes.pop }
        else m
      if f.generates then
        let m ← get
        set { m with handedOut := m.handedOut.drop 1 }
        make (.cursor (.values (m.handedOut.headD []).reverse))
      else return result

def execAll : Nat → List Statement → Running Unit
  | 0, _ => throw (.failed 1)
  | n + 1, body => do
      match body with
      | [] => return ()
      | [s] => exec n s
      | s :: rest =>
          exec n s
          execAll n rest

/-- Does a statement. -/
def exec : Nat → Statement → Running Unit
  | 0, _ => throw (.failed 1)
  | n + 1, .mk span deed => do
      attend (call n)
      match deed with
      | .evaluate e =>
          let _ ← eval n e
      | .assign targets e =>
          let v ← eval n e
          putSame n targets v
      | .augment target op e => change n span target op e
      | .giveBack none => throw (.giveBack .none)
      | .giveBack (some e) =>
          let v ← eval n e
          throw (.giveBack v)
      | .raise e cause => raising n span e cause
      | .insist test message =>
          if !(← truth n (← eval n test)) then
            match message with
            | some e =>
                let v ← eval n e
                mark test.span
                raiseWith "AssertionError" [v]
            | none =>
                mark test.span
                raiseWith "AssertionError" []
      | .delete targets => drop n targets
      | .pass => return ()
      | .leave => throw .leave
      | .goOn => throw .goOn
      | .shared _ => return ()
      | .outer _ => return ()
      | .load items =>
          mark span
          for (name, other) in items do
            let m ← moduleNamed name
            match other with
            | some other => setName other m
            | none => setName (firstPart name) (.module (firstPart name))
      | .loadFrom module items =>
          mark span
          let _ ← moduleNamed module
          for (name, other) in items do
            if name = "*" then
              for f in (moduleFunctions.lookup module).getD [] do
                setName f (← takeFrom module f)
            else setName (other.getD name) (← takeFrom module name)
      | .choose branches otherwise => choose n branches otherwise
      | .loop test body otherwise =>
          let test : Running Bool := do truth n (← eval n test)
          if ← whileHolds test (execAll n body) maxRounds then execAll n otherwise
      | .each target source body otherwise =>
          let v ← eval n source
          mark span
          let c ← cursorOf (call n) v
          let next (c : Cursor) : Running (Option (Value × Cursor)) := do
            mark span
            advance (call n) c
          let round (v : Value) : Running Unit := do
            put n target v
            execAll n body
          if ← eachOf next round maxRounds c then execAll n otherwise
      | .attempt body handlers otherwise atLast =>
          let frames := (← get).frames
          let handedOut := (← get).handedOut
          let ended ← match ← Program.attempt (execAll n body) with
            | .ok _ => Program.attempt (execAll n otherwise)
            | .error (.raised fault) => do
                backTo frames
                modify fun m => { m with handedOut := m.handedOut.drop (m.handedOut.length - handedOut.length) }
                Program.attempt (handle n fault handlers)
            | .error c => pure (.error c)
          backTo frames
          execAll n atLast
          match ended with
          | .ok _ => return ()
          | .error c => throw c
      | .within items body => accompany n span items body
      | .define name parameters body decorators nature =>
          let values ← evalParameters n parameters
          let f ← makeFunction (.of (← titleHere) name values body none (← innermost) nature)
          setName name (← decorate n decorators f)
      | .group name bases body decorators =>
          let above ← evalAll n bases
          let title := (← titleHere) ++ name ++ "."
          let s ← makeScope ⟨∅, some (← innermost), [], [], [], true, title⟩
          modify fun m => { m with functions := m.functions + 1 }
          mark span
          inside name s span (execAll n body)
          let attributes := (← scope s).names.toList
          let base := above.head?.filter fun
            | .builtin "object" => false
            | _ => true
          let k ← make (.kind ⟨name, base, attributes⟩)
          setIn s "__class__" k
          setName name (← decorate n decorators k)

/-- A function or a class as its decorators change it, of which the last comes first. -/
def decorate : Nat → List Expr → Value → Running Value
  | 0, _, _ => throw (.failed 1)
  | n + 1, decorators, v => do
      match decorators with
      | [] => return v
      | e :: rest =>
          let f ← eval n e
          let w ← decorate n rest v
          call n f [w] []

/-- Puts one value in many places. -/
def putSame : Nat → List Expr → Value → Running Unit
  | 0, _, _ => throw (.failed 1)
  | n + 1, targets, v => do
      match targets with
      | [] => return ()
      | t :: rest =>
          put n t v
          putSame n rest v

/-- Changes what is in a place. -/
def change : Nat → Span → Expr → Operation → Expr → Running Unit
  | 0, _, _, _, _ => throw (.failed 1)
  | n + 1, span, .mk inner form, op, e => do
      let combined (old : Value) : Running Value := do
        let w ← eval n e
        mark span
        augment (call n) op old w (itemsOf (call n))
      match form with
      | .feature o name =>
          let v ← eval n o
          mark inner
          let old ← feature v name
          let w ← combined old
          setFeature v name w
      | .item o key =>
          let v ← eval n o
          let k ← eval n key
          mark inner
          let old ← item (call n) v k
          let w ← combined old
          setItem (call n) v k w
      | form =>
          let old ← eval n (.mk inner form)
          let w ← combined old
          put n (.mk inner form) w

/-- Takes away what is in some places. -/
def drop : Nat → List Expr → Running Unit
  | 0, _ => throw (.failed 1)
  | n + 1, targets => do
      match targets with
      | [] => return ()
      | .mk span form :: rest =>
          match form with
          | .name x =>
              mark span
              dropName x
          | .feature e name =>
              let v ← eval n e
              mark span
              dropFeature v name
          | .item e key =>
              let v ← eval n e
              let k ← eval n key
              mark span
              dropItem v k
          | _ => pure ()
          drop n rest

/-- Breaks off as a statement says. -/
def raising : Nat → Span → Option Expr → Option Expr → Running Unit
  | 0, _, _, _ => throw (.failed 1)
  | n + 1, span, e, cause => do
      match e with
      | none =>
          mark span
          match (← get).handling with
          | some fault => throw (.raised fault)
          | none => raiseText "RuntimeError" "No active exception to reraise"
      | some e =>
          let v ← eval n e
          let cause ← match cause with
            | none => pure none
            | some c =>
                match ← eval n c with
                | .object k => pure (some (some k))
                | _ => pure (some none)
          mark span
          let isKind ← match v with
            | .builtin k => pure (isFaultKind k)
            | .object k => do pure ((← object k) matches .kind _)
            | _ => pure false
          let v ← if isKind then call n v [] [] else pure v
          raiseValue v cause

def choose : Nat → List (Expr × List Statement) → List Statement → Running Unit
  | 0, _, _ => throw (.failed 1)
  | n + 1, branches, otherwise => do
      match branches with
      | [] => execAll n otherwise
      | (test, body) :: rest =>
          if ← truth n (← eval n test) then execAll n body else choose n rest otherwise

/-- Deals with what has gone wrong. -/
def handle : Nat → Nat → List Handler → Running Unit
  | 0, _, _ => throw (.failed 1)
  | n + 1, fault, handlers => do
      match handlers with
      | [] => throw (.raised fault)
      | .mk kind name body :: rest =>
          let fits ← match kind with
            | none => pure true
            | some e => do
                let above ← eval n e
                isOf 10 (← kindOf (.object fault)) above
          if !fits then handle n fault rest
          else
            let before := (← get).handling
            modify fun m => { m with handling := some fault }
            match name with
            | some x => setName x (.object fault)
            | none => pure ()
            let ended ← Program.attempt (execAll n body)
            modify fun m => { m with handling := before }
            match ended with
            | .ok _ =>
                match name with
                | some x =>
                    let _ ← Program.attempt (dropName x)
                | none => pure ()
            | .error c => throw c

/-- Does a block with companions, which are left in the end. -/
def accompany : Nat → Span → List (Expr × Option Expr) → List Statement → Running Unit
  | 0, _, _, _ => throw (.failed 1)
  | n + 1, span, items, body => do
      match items with
      | [] => execAll n body
      | (e, target) :: rest =>
          let v ← eval n e
          let frames := (← get).frames
          mark span
          let (start, stop) ← match ← feature? v "__enter__", ← feature? v "__exit__" with
            | some start, some stop => pure (start, stop)
            | _, _ =>
                raise "TypeError" ('\'' :: (← kindNameOf v) ++
                  "' object does not support the context manager protocol".toList)
          let w ← call n start [] []
          match target with
          | some t => put n t w
          | none => pure ()
          match ← Program.attempt (accompany n span rest body) with
          | .ok _ =>
              let _ ← call n stop [.none, .none, .none] []
          | .error (.raised fault) =>
              backTo frames
              let kind ← kindOf (.object fault)
              let answer ← call n stop [kind, .object fault, .none] []
              if !(← holds answer) then throw (.raised fault)
          | .error c =>
              backTo frames
              let _ ← call n stop [.none, .none, .none] []
              throw c

end

end Running

end Enquiry.Tool.Script

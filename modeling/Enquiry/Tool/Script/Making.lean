import Enquiry.Tool.Script.Feature

/-!
# Making values

The functions that are always there, first of all those that make a value of some kind out of
others.
-/

namespace Enquiry.Tool.Script

open Host Text Number

namespace Running

/-! ### Numbers -/

/-- The whole number that a text means in some base; base zero stands for the one that the text
shows. -/
def wholeOfText? (base : Nat) (t : List Char) : Option Int :=
  let t := trimWith isSpace t
  let (negative, t) := match t with
    | '-' :: rest => (true, rest)
    | '+' :: rest => (false, rest)
    | t => (false, t)
  let shown : Nat := match (t.take 2).map Char.toLower with
    | ['0', 'x'] => 16
    | ['0', 'o'] => 8
    | ['0', 'b'] => 2
    | _ => 0
  let (base, t) :=
    if base = 0 then (if shown = 0 then 10 else shown, if shown = 0 then t else t.drop 2)
    else (base, if shown = base then t.drop 2 else t)
  let digits := t.filter (· != '_')
  let fits := !digits.isEmpty && digits.all (isDigitOf base) && t.head? != some '_' &&
    t.getLast? != some '_'
  if fits then some (if negative then -(digitsValue base digits : Int) else digitsValue base digits)
  else none

/-- The whole number of a value. -/
def makeWhole (g : Given) : Running Value := do
  match g.args.head? with
  | none => return .whole 0
  | some v =>
      let base? ← match g.get? 1 "base" with
        | some b => some <$> wantedWhole b
        | none => pure none
      let ofText (t : List Char) (what : List Char) : Running Value := do
        match wholeOfText? (base?.getD 10).toNat t with
        | some n => return .whole n
        | none =>
            raise "ValueError" ("invalid literal for int() with base ".toList ++
              Host.signed (base?.getD 10) ++ ": ".toList ++ what)
      match v with
      | .text t => ofText t (inQuotes false t)
      | .bytes t => ofText t ('b' :: inQuotes true t)
      | .whole n => return .whole n
      | .bool b => return .whole (if b then 1 else 0)
      | .real x =>
          match truncated? x with
          | some n => return .whole n
          | none =>
              if x.isNaN then raiseText "ValueError" "cannot convert float NaN to integer"
              raiseText "OverflowError" "cannot convert float infinity to integer"
      | v =>
          raise "TypeError" ("int() argument must be a string, a bytes-like object or a real number, not '".toList ++
            (← kindNameOf v) ++ ['\''])

/-- The number of double precision of a value. -/
def makeReal (g : Given) : Running Value := do
  match g.args.head? with
  | none => return .real 0
  | some v =>
      match v with
      | .text t =>
          let short := (trimWith isSpace t).filter (· != '_')
          let isHex := (short.take 3).any fun c => c == 'x' || c == 'X'
          match (if isHex then none else Extended.read? short) with
          | some (x, []) => return .real x.toFloat
          | _ =>
              raise "ValueError" ("could not convert string to float: ".toList ++ inQuotes false t)
      | v =>
          match quantity? v with
          | some q => return .real q.toReal
          | none =>
              raise "TypeError" ("float() argument must be a string or a real number, not '".toList ++
                (← kindNameOf v) ++ ['\''])

/-- The nearest whole number; a tie goes to the even one. -/
def roundedWhole? (x : Float) : Option Int :=
  match Extended.ofFloat x with
  | .finite y =>
      let (num, den) := y.ratio
      let n : Int := roundQuotient num den
      some (if y.negative then -n else n)
  | _ => none

/-- A number with so many places behind the point. -/
def rounded (v : Value) (places : Option Value) : Running Value := do
  match v, places with
  | .whole n, none | .whole n, some .none => return .whole n
  | .whole n, some k =>
      let k ← wantedWhole k
      if 0 ≤ k then return .whole n
      let unit := Nat.pow 10 k.natAbs
      let m : Int := roundQuotient n.natAbs unit * unit
      return .whole (if n < 0 then -m else m)
  | .bool b, _ => return .whole (if b then 1 else 0)
  | .real x, none | .real x, some .none =>
      match roundedWhole? x with
      | some n => return .whole n
      | none => raiseText "ValueError" "cannot convert float NaN to integer"
  | .real x, some k =>
      let k ← wantedWhole k
      match Extended.ofFloat x with
      | .finite y =>
          let (num, den) := y.ratio
          let digits := Extended.fixedDigits false k.toNat num den
          let found := ((Extended.read? digits).map fun (z, _) => z.toFloat).getD x
          return .real (if y.negative then -found else found)
      | _ => return .real x
  | v, _ =>
      raise "TypeError" ("type ".toList ++ (← kindNameOf v) ++
        " doesn't define __round__ method".toList)

/-- A number in some base behind a mark. -/
def basedText (mark : Char) (base : Nat) (v : Value) : Running Value := do
  let n ← wantedWhole v
  return .text ((if n < 0 then ['-'] else []) ++ '0' :: mark :: Nat.toDigits base n.natAbs)

section

variable (apply : Apply)

/-! ### Kinds -/

/-- A value is of a kind, or of one of some kinds. The first argument bounds the depth. -/
def isOf : Nat → Value → Value → Running Bool
  | 0, _, _ => return false
  | n + 1, kind, above => do
      match above with
      | .tuple items => items.anyM (isOf n kind)
      | above => belongs maxKinds kind above

/-- A new value of a kind that a script has made. -/
def makeIndividual (kind : Nat) (g : Given) : Running Value := do
  let isFault ← belongs maxKinds (.object kind) (.builtin "BaseException")
  let v ← if isFault then
      make (.fault ⟨.object kind, g.args, [], [], none, none⟩)
    else make (.individual kind [])
  match ← ownMethod? v "__init__" with
  | some f =>
      let _ ← apply f g.args g.named
  | none =>
      if !isFault && !(g.args.isEmpty && g.named.isEmpty) then
        raise "TypeError" ((← kindName (.object kind)) ++ "() takes no arguments".toList)
  return v

/-- A range of whole numbers. -/
def makeRange (args : List Value) : Running Value := do
  match args with
  | [a] => return .range 0 (← wantedWhole a) 1
  | [a, b] => return .range (← wantedWhole a) (← wantedWhole b) 1
  | [a, b, c] =>
      let step ← wantedWhole c
      if step = 0 then raiseText "ValueError" "range() arg 3 must not be zero"
      return .range (← wantedWhole a) (← wantedWhole b) step
  | _ => raiseText "TypeError" "range expected at least 1 argument, got 0"

/-- The bytes of a value. -/
def makeBytes (g : Given) : Running Value := do
  match g.args.head? with
  | none => return .bytes []
  | some (.text t) =>
      if g.args.length < 2 && g.named.isEmpty then
        raiseText "TypeError" "string argument without an encoding"
      return .bytes (encoded t)
  | some (.bytes t) => return .bytes t
  | some (.whole n) => return .bytes (List.replicate n.toNat '\x00')
  | some v =>
      let items ← itemsOf apply v
      return .bytes ((← items.mapM wantedWhole).map fun n => Char.ofNat n.toNat)

/-- The kind of faults that a number of an error stands for. -/
def kindOfNumber (n : Int) : String :=
  let known : List Errno := [.noEntry, .alreadyThere, .accessDenied, .notPermitted, .isDirectory,
    .notDirectory, .brokenPipe, .noProcess, .noChild, .interrupted]
  match known.find? fun e => n == e.number with
  | some e => errnoKind e
  | none => if n = 110 then "TimeoutError" else "OSError"

/-- A value of a kind that is always there. -/
def makeOf? (kind : String) (g : Given) : Running (Option Value) := do
  match kind with
  | "object" => return some (← make (.individual 0 []))
  | "type" => return some (← kindOf g.first)
  | "bool" => return some (.bool (← holds g.first))
  | "int" => return some (← makeWhole g)
  | "float" => return some (← makeReal g)
  | "str" =>
      match g.args with
      | [] => return some (.text [])
      | [v] =>
          match g.named, v with
          | _ :: _, .bytes t => return some (.text (decoded t))
          | _, v => return some (.text (← textOf apply v))
      | .bytes t :: _ => return some (.text (decoded t))
      | v :: _ => return some (.text (← textOf apply v))
  | "bytes" => return some (← makeBytes apply g)
  | "tuple" =>
      match g.args with
      | [] => return some (.tuple [])
      | v :: _ => return some (.tuple (← itemsOf apply v))
  | "list" =>
      match g.args with
      | [] => return some (← makeList [])
      | v :: _ => return some (← makeList (← itemsOf apply v))
  | "dict" =>
      let pairs ← match g.args with
        | v :: _ => pairsOf apply v
        | [] => pure []
      return some (← makeDict (pairs ++ g.named.map fun (k, v) => (.text k.toList, v)))
  | "set" | "frozenset" =>
      match g.args with
      | [] => return some (← makeSet [])
      | v :: _ => return some (← makeSet (← itemsOf apply v))
  | "range" => return some (← makeRange g.args)
  | "slice" =>
      match g.args with
      | [b] => return some (.slice .none b .none)
      | [a, b] => return some (.slice a b .none)
      | [a, b, c] => return some (.slice a b c)
      | _ => return none
  | "enumerate" =>
      let start ← match g.get? 1 "start" with
        | some v => wantedWhole v
        | none => pure 0
      return some (← make (.cursor (.numbered start (← cursorOf apply g.first))))
  | "zip" => return some (← make (.cursor (.zipped (← g.args.mapM (cursorOf apply)))))
  | "property" | "staticmethod" | "classmethod" => return some (← make (.held kind g.first))
  | kind =>
      if isFaultKind kind then
        let kind := match kind, g.args with
          | "OSError", .whole n :: _ :: _ => kindOfNumber n
          | kind, _ => kind
        let attributes := match g.args with
          | [n, what, path] =>
              if faultBelongs "OSError" 20 kind then
                [("errno", n), ("strerror", what), ("filename", path)]
              else []
          | _ => []
        let args := if attributes.isEmpty then g.args else g.args.take 2
        return some (← make (.fault ⟨.builtin kind, args, attributes, [], none, none⟩))
      return none

/-! ### Functions -/

/-- The largest or the smallest of some values. -/
def extreme (name : String) (larger : Bool) (g : Given) : Running Value := do
  let items ← match g.args with
    | [v] => itemsOf apply v
    | items => pure items
  let key := g.named.lookup "key"
  let keyOf' (v : Value) : Running Value := do
    match key with
    | none | some .none => return v
    | some f => apply f [v] []
  match items with
  | [] =>
      match g.named.lookup "default" with
      | some v => return v
      | none => raiseText "ValueError" (name ++ "() arg is an empty sequence")
  | first :: rest =>
      let mut best := first
      let mut bestKey ← keyOf' first
      for v in rest do
        let k ← keyOf' v
        let better ← if larger then behind apply k bestKey else before apply k bestKey
        if better then
          best := v
          bestKey := k
      return best

/-- Writes some values on a line. -/
def printValues (g : Given) : Running Value := do
  let usual (name : String) (t : String) : Running (List Char) := do
    match g.named.lookup name with
    | none | some .none => return t.toList
    | some v => wanted v
  let between ← usual "sep" " "
  let ending ← usual "end" "\n"
  let goal := match g.named.lookup "file" with
    | none | some .none => none
    | some v => some v
  let shelf := (← get).shelf
  let goal := goal.getD ((shelf.lookup ("sys", "stdout")).getD (.object outputStream))
  let stream? ← match goal with
    | .object n =>
        match ← object n with
        | .stream _ => pure (some n)
        | _ => pure none
    | _ => pure none
  let write (t : List Char) : Running Unit := do
    match stream? with
    | some n => writeText n t
    | none =>
        let f ← feature goal "write"
        let _ ← apply f [.text t] []
  for (v, i) in g.args.zipIdx do
    if i ≠ 0 then write between
    write (← textOf apply v)
  write ending
  if ← holds ((g.named.lookup "flush").getD .none) then
    match stream? with
    | some n => flushStream n
    | none => pure ()
  return .none

/-- The sum of some values. -/
def total (g : Given) : Running Value := do
  let mut sum := (g.get? 1 "start").getD (.whole 0)
  for v in ← itemsOf apply g.first do
    sum ← operate apply .add sum v
  return sum

/-- The next value of a cursor. -/
def nextOf (g : Given) : Running Value := do
  match g.first with
  | .object n =>
      match ← object n with
      | .cursor _ | .individual _ _ =>
          match ← advance apply (.asked g.first) with
          | some (v, _) => return v
          | none =>
              match g.second? with
              | some v => return v
              | none => raiseWith "StopIteration" []
      | .stream s =>
          match ← readLine? n s.ofBytes with
          | some v => return v
          | none => raiseWith "StopIteration" []
      | _ => raise "TypeError" ('\'' :: (← kindNameOf g.first) ++ "' object is not an iterator".toList)
  | v => raise "TypeError" ('\'' :: (← kindNameOf v) ++ "' object is not an iterator".toList)

/-- A feature of a value by its name. -/
def featureNamed (g : Given) : Running Value := do
  let name := String.ofList (← wanted (g.second?.getD .none))
  match ← feature? g.first name, g.args[2]? with
  | some v, _ => return v
  | none, some v => return v
  | none, none => feature g.first name

/-- A line of the input. -/
def inputLine (g : Given) : Running Value := do
  match g.args.head? with
  | some v => writeText outputStream (← textOf apply v)
  | none => pure ()
  flushStream outputStream
  match ← readLine? inputStream false with
  | some (.text t) => return .text (if t.getLast? = some '\n' then t.dropLast else t)
  | _ => raiseText "EOFError" "EOF when reading a line"

/-- The value as one of the kind above the one in which its function stands. -/
def aboveHere (g : Given) : Running Value := do
  match g.args with
  | [.object k, self] =>
      match ← object k with
      | .kind k => return .above (k.base.getD (.builtin "object")) self
      | _ => raiseText "TypeError" "super() argument 1 must be a type"
  | _ =>
      let here ← scope (← innermost)
      let kind? ← match here.parent with
        | some n => do pure ((← scope n).names["__class__"]?)
        | none => pure none
      match kind?, here.own.head? with
      | some (.object k), some self =>
          match ← object k, here.names[self]? with
          | .kind k, some self => return .above (k.base.getD (.builtin "object")) self
          | _, _ => raiseText "RuntimeError" "super(): no arguments"
      | _, _ => raiseText "RuntimeError" "super(): no arguments"

/-- A function that is always there. -/
def function? (name : String) (g : Given) : Running (Option Value) := do
  match name with
  | "print" => return some (← printValues apply g)
  | "len" =>
      match ← ownMethod? g.first "__len__" with
      | some f => return some (← apply f [] [])
      | none =>
          match ← sizeOf? g.first with
          | some n => return some (.whole n)
          | none =>
              raise "TypeError" ("object of type '".toList ++ (← kindNameOf g.first) ++
                "' has no len()".toList)
  | "map" =>
      match g.args with
      | [f, v] => return some (← make (.cursor (.mapped f (.values ((← itemsOf apply v).map fun v => .tuple [v])))))
      | f :: rows => return some (← make (.cursor (.mapped f (.zipped (← rows.mapM (cursorOf apply))))))
      | [] => raiseText "TypeError" "map() must have at least two arguments."
  | "filter" =>
      let items ← itemsOf apply (g.second?.getD (.tuple []))
      let found ← items.filterM fun v => do
        match g.first with
        | .none => holds v
        | f => holds (← apply f [v] [])
      return some (← make (.cursor (.values found)))
  | "sorted" =>
      let backwards ← holds ((g.named.lookup "reverse").getD .none)
      let items ← itemsOf apply g.first
      return some (← makeList (← sortedBy apply items (g.named.lookup "key") backwards))
  | "reversed" =>
      return some (← make (.cursor (.values (← itemsOf apply g.first).reverse)))
  | "sum" => return some (← total apply g)
  | "min" => return some (← extreme apply "min" false g)
  | "max" => return some (← extreme apply "max" true g)
  | "abs" =>
      match g.first with
      | .real x => return some (.real x.abs)
      | .whole n => return some (.whole n.natAbs)
      | .bool b => return some (.whole (if b then 1 else 0))
      | v => raise "TypeError" ("bad operand type for abs(): '".toList ++ (← kindNameOf v) ++ ['\''])
  | "round" => return some (← rounded g.first (g.get? 1 "ndigits"))
  | "divmod" =>
      let b := g.second?.getD .none
      return some (.tuple [← operate apply .quotient g.first b, ← operate apply .remainder g.first b])
  | "pow" =>
      let p ← operate apply .power g.first (g.second?.getD .none)
      match g.args[2]? with
      | some m => return some (← operate apply .remainder p m)
      | none => return some p
  | "repr" => return some (.text (← shown apply g.first))
  | "ascii" => return some (← converted apply g.first (some 'a'))
  | "format" =>
      let spec ← match g.second? with
        | some v => wanted v
        | none => pure []
      return some (.text (← laidOut apply g.first spec))
  | "chr" =>
      let n ← wantedWhole g.first
      if n < 0 ∨ 1114111 < n then raiseText "ValueError" "chr() arg not in range(0x110000)"
      return some (.text [Char.ofNat n.toNat])
  | "ord" =>
      match g.first with
      | .text [c] | .bytes [c] => return some (.whole c.toNat)
      | .text t =>
          raise "TypeError" ("ord() expected a character, but string of length ".toList ++
            decimal t.length ++ " found".toList)
      | v =>
          raise "TypeError" ("ord() expected string of length 1, but ".toList ++ (← kindNameOf v) ++
            " found".toList)
  | "hex" => return some (← basedText 'x' 16 g.first)
  | "oct" => return some (← basedText 'o' 8 g.first)
  | "bin" => return some (← basedText 'b' 2 g.first)
  | "any" =>
      let items ← itemsOf apply g.first
      return some (.bool (← items.anyM holds))
  | "all" =>
      let items ← itemsOf apply g.first
      return some (.bool (← items.allM holds))
  | "isinstance" =>
      return some (.bool (← isOf 10 (← kindOf g.first) (g.second?.getD .none)))
  | "issubclass" => return some (.bool (← isOf 10 g.first (g.second?.getD .none)))
  | "callable" =>
      match g.first with
      | .builtin _ | .method _ _ | .bound _ _ => return some (.bool true)
      | .object n =>
          match ← object n with
          | .function _ | .kind _ => return some (.bool true)
          | _ => return some (.bool (← ownMethod? g.first "__call__").isSome)
      | _ => return some (.bool false)
  | "getattr" => return some (← featureNamed g)
  | "hasattr" =>
      let name := String.ofList (← wanted (g.second?.getD .none))
      return some (.bool (← feature? g.first name).isSome)
  | "setattr" =>
      let name := String.ofList (← wanted (g.second?.getD .none))
      setFeature g.first name ((g.args[2]?).getD .none)
      return some .none
  | "delattr" =>
      dropFeature g.first (String.ofList (← wanted (g.second?.getD .none)))
      return some .none
  | "open" =>
      let mode ← match g.get? 1 "mode" with
        | some v => wanted v
        | none => pure ['r']
      match g.get? 0 "file" with
      | some (.whole n) =>
          let writes := mode.any fun c => c == 'w' || c == 'a' || c == '+'
          return some (← make (.stream (.at (decimal n.toNat) n.toNat (mode.contains 'r') writes
            (mode.contains 'b') false)))
      | some v => return some (← openFile (← wanted v) mode)
      | none => raiseText "TypeError" "open() missing required argument 'file' (pos 1)"
  | "input" => return some (← inputLine apply g)
  | "iter" =>
      match ← cursorOf apply g.first with
      | .asked v => return some v
      | c => return some (← make (.cursor c))
  | "next" => return some (← nextOf apply g)
  | "id" =>
      match g.first with
      | .object n => return some (.whole (140000000000000 + 16 * n))
      | _ => return some (.whole 140000000000000)
  | "hash" =>
      let k ← keyOf g.first
      match g.first with
      | .whole n => return some (.whole n)
      | _ => return some (.whole (hash k).toNat)
  | "exit" | "quit" => raiseWith "SystemExit" g.args
  | "super" => return some (← aboveHere g)
  | "globals" | "locals" | "vars" =>
      match g.args with
      | v :: _ => return some (← feature v "__dict__")
      | [] =>
          let here ← innermost
          let s ← scope (if name = "globals" then scriptScope else here)
          return some (← makeDict (s.names.toList.map fun (k, v) => (.text k.toList, v)))
  | "dict.fromkeys" =>
      let items ← itemsOf apply g.first
      return some (← makeDict (items.map fun v => (v, g.second?.getD .none)))
  | "fault.__init__" =>
      match g.args with
      | .object n :: args =>
          changeObject n fun
            | .fault f => .fault { f with args }
            | o => o
          return some .none
      | _ => return some .none
  | _ => return none

end

end Running

end Enquiry.Tool.Script

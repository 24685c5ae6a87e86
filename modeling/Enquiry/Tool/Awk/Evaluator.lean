import Enquiry.Tool.Awk.Stream

/-!
# Running programs of the record processor

Expressions are evaluated and statements are done in the machine. What leaves a loop, a function or
the program breaks off.
-/

namespace Enquiry.Tool.Awk

open Host Number Text

namespace Running

/-- Where a value is put. -/
inductive Spot where
  | variable (p : Place)
  | element (array : Nat) (key : Key)
  | field (n : Nat)

/-! ### Single operations -/

def operate (op : Operation) (x y : Float) : Float :=
  match op with
  | .add => x + y
  | .subtract => x - y
  | .multiply => x * y
  | .divide => x / y
  | .remainder => remainder x y
  | .power => powerOf x y

/-- The key that a value is. -/
def keyOf (v : Value) : Running Key := do
  match v with
  | .number x =>
      match exactly? x with
      | some n => return .number n
      | none => return .text (← textOf v)
  | v => return .text (← textOf v)

/-- The key that some values are. -/
def keyOfAll (values : List Value) : Running Key := do
  match values with
  | [v] => keyOf v
  | values =>
      let texts ← values.mapM textOf
      return .text (List.intercalate (← specialText .keySeparator) texts)

def load (s : Spot) : Running Value := do
  match s with
  | .variable p => variableValue p
  | .field n => field n
  | .element a key =>
      modifyTable a (·.touch key true)
      return (← table a).get key

def store (s : Spot) (v : Value) : Running Unit := do
  match s with
  | .variable p => setVariable p v
  | .field n => setField n v
  | .element a key => modifyTable a fun t => (t.touch key true).set key v

/-- The number of a field. -/
def fieldNumber (v : Value) : Running Nat := do
  let n := (whole? v.toNumber).getD 0
  if n < 0 then fault ("negative field index $".toList ++ Host.signed n)
  return n.toNat

/-- The part of a text from a place on, which is counted from one, of some length. -/
def portion (text : Octets) (start : Float) (length : Option Float) : Octets :=
  let first := (whole? start).getD 0
  match length with
  | none => text.drop (first - 1).toNat
  | some x =>
      let size := match whole? x with
        | some n => n
        | none => if 0 < x then text.length + first.natAbs else 0
      let stop := first + size
      (text.drop (first - 1).toNat).take (stop - max first 1).toNat

/-- The place of a text in another one, counted from one; zero when it is not there. -/
def indexFrom (word : Octets) : Nat → Octets → Nat
  | n, [] => if word.isEmpty then n else 0
  | n, c :: rest =>
      if word.isPrefixOf (c :: rest) then n else indexFrom word (n + 1) rest

/-- What is put in the place of something that has been found: an ampersand stands for it unless a
backslash is in front. The number is that of the backslashes in front of the text. -/
def expanded (found : Octets) : Nat → Octets → Octets
  | k, [] => List.replicate k '\\'
  | k, c :: rest =>
      if c = '\\' then expanded found (k + 1) rest
      else if c = '&' then
        List.replicate (k / 2) '\\' ++ (if k % 2 = 1 then ['&'] else found) ++
          expanded found 0 rest
      else List.replicate k '\\' ++ c :: expanded found 0 rest

/-- Puts something in for what an expression stands for, once or everywhere: how often, and the
result. -/
def substitute (r : Regex) (everywhere : Bool) (put text : Octets) : Nat × Octets :=
  let found := if everywhere then r.all text else (r.search? text).toList
  let rec go (position : Nat) (text : Octets) : List Regex.Match → Octets
    | [] => text
    | m :: rest =>
        text.take (m.start - position) ++
          expanded (Regex.slice text (m.start - position) (m.stop - position)) 0 put ++
          go m.stop (text.drop (m.stop - position)) rest
  (found.length, go 0 text found)

/-- The text of some values as a format says. -/
def format (name : String) (values : List Value) : Running (Except Octets Octets) := do
  match values with
  | [] => return .ok []
  | f :: values =>
      let f ← textOf f
      match formatted (← conversion) (piecesOf (f.length + 1) f) values [] with
      | (true, t) => return .ok t
      | (false, t) =>
          if name = "printf" then tool (print t)
          return .error ("not enough arguments passed to ".toList ++ name.toList ++ "(\"".toList ++
            f ++ "\")".toList)

/-- A value that a function of one number gives. -/
def onNumber (f : Float → Float) (values : List Value) : Value :=
  .number (f ((values.head?.getD .unset).toNumber))

/-- The number without what stands behind the point. -/
def wholePart (x : Float) : Float :=
  match whole? x with
  | some n => ofInt n
  | none => x

/-- The next number of a row that looks like chance. -/
def nextRandom (x : UInt64) : UInt64 :=
  let x := x ^^^ (x <<< 13)
  let x := x ^^^ (x >>> 7)
  x ^^^ (x <<< 17)

/-- Runs a command and waits for its end. -/
def runCommand (command : Octets) : Running Value := do
  flushAll
  let status ← tool do
    let child ← start (runShell shell command)
    endOf child
  return .number (Float.ofNat status)

/-- The functions that need only values. -/
def plainBuiltin (b : Builtin) (values : List Value) : Running Value := do
  let arg (n : Nat) : Value := (values[n]?).getD .unset
  let text (n : Nat) : Running Octets := textOf (arg n)
  match b with
  | .length =>
      let t ← if values.isEmpty then recordText else text 0
      return .number (Float.ofNat t.length)
  | .substr =>
      let t ← text 0
      return .text (portion t (arg 1).toNumber ((values[2]?).map Value.toNumber))
  | .index => return .number (Float.ofNat (indexFrom (← text 1) 1 (← text 0)))
  | .sprintf =>
      match ← format "sprintf" values with
      | .ok t => return .text t
      | .error what => fault what
  | .sin => return onNumber Float.sin values
  | .cos => return onNumber Float.cos values
  | .atan2 => return .number (Float.atan2 (arg 0).toNumber (arg 1).toNumber)
  | .exp => return onNumber Float.exp values
  | .log => return onNumber Float.log values
  | .sqrt => return onNumber Float.sqrt values
  | .int => return onNumber wholePart values
  | .rand =>
      let x := nextRandom (← get).random
      modify fun m => { m with random := x }
      return .number (Float.ofNat (x.toNat / 4096) / Float.ofNat 4503599627370496)
  | .srand =>
      let old := (← get).seed
      let now ← Program.call .now
      let seed := (values.head?).getD (.number (Float.ofNat (now / 1000000000)))
      let mixed := (whole? seed.toNumber).getD 0
      modify fun m =>
        { m with seed, random := UInt64.ofInt mixed * 6364136223846793005 + 1442695040888963407 }
      return old
  | .lower => return .text ((← text 0).map Char.toLower)
  | .upper => return .text ((← text 0).map Char.toUpper)
  | .system => runCommand (← text 0)
  | .close => return .number (ofInt (← close (← text 0)))
  | .flush =>
      if values.isEmpty then
        flushAll
        return .number 0
      return .number (ofInt (← flushNamed (← text 0)))
  | .find | .split | .sub | .gsub => return .unset

/-- The time that a step of a loop takes, in nanoseconds. -/
def stepCost : Nat := 1000

/-- After so many steps the time is let pass that they have taken. -/
def stepsAtOnce : Nat := 128

/-- Makes a step of a loop, or of a function. -/
def step : Running Unit := do
  let steps := (← get).steps + 1
  modify fun m => { m with steps }
  if steps % stepsAtOnce = 0 then
    let _ ← Program.call (.tick (stepsAtOnce * stepCost))

/-- Does the body of a loop; the answer says whether the loop goes on. -/
def inLoop (body : Running Unit) : Running Bool := do
  step
  match ← Program.attempt body with
  | .ok _ => return true
  | .error .goOn => return true
  | .error .leave => return false
  | .error c => throw c

/-! ### Expressions and statements -/

mutual

/-- The value of an expression. The first argument bounds the number of steps. -/
def eval : Nat → Expr → Running Value
  | 0, _ => throw (.failed 2)
  | n + 1, e => do
      match e with
      | .number x => return .number x
      | .text t => return .text t
      | .pattern t => return .ofBool ((← regexOf t).occurs (← recordText))
      | .name p => variableValue p
      | .element _ _ => load (← spot n e)
      | .field (.number x) => field (← fieldNumber (.number x))
      | .field k => field (← fieldNumber (← eval n k))
      | .assign target value =>
          let s ← spot n target
          let v ← eval n value
          store s v
          return v
      | .update op target value =>
          let s ← spot n target
          let y ← eval n value
          let x ← load s
          let v := Value.number (operate op x.toNumber y.toNumber)
          store s v
          return v
      | .count op isBefore target =>
          let s ← spot n target
          let x := (← load s).toNumber
          let y := operate op x 1
          store s (.number y)
          return .number (if isBefore then y else x)
      | .choice test yes no =>
          let v ← eval n test
          if v.holds then eval n yes else eval n no
      | .either a b =>
          let v ← eval n a
          if v.holds then return .number 1
          let w ← eval n b
          return .ofBool w.holds
      | .both a b =>
          let v ← eval n a
          if !v.holds then return .number 0
          let w ← eval n b
          return .ofBool w.holds
      | .within keys array =>
          let key ← keyOfAll (← evalAll n keys)
          let a ← arrayOf array
          modifyTable a (·.touch key false)
          return .ofBool ((← table a).contains key)
      | .matching negated e r =>
          let t ← textOf (← eval n e)
          let r ← regexOf (← regexText n r)
          return .ofBool (r.occurs t != negated)
      | .compare c a b =>
          let x ← eval n a
          let y ← eval n b
          match x, y with
          | .number x, .number y =>
              return .ofBool (Value.compare [] c (.number x) (.number y))
          | x, y => return .ofBool (Value.compare (← conversion) c x y)
      | .join a b =>
          let x ← textOf (← eval n a)
          let y ← textOf (← eval n b)
          return .text (x ++ y)
      | .operate op a b =>
          let x ← eval n a
          let y ← eval n b
          return .number (operate op x.toNumber y.toNumber)
      | .opposite e => return .ofBool !(← eval n e).holds
      | .negative e => return .number (-(← eval n e).toNumber)
      | .positive e => return .number (← eval n e).toNumber
      | .builtin b args => builtin n b args
      | .call f args => callFunction n f args
      | .take target =>
          match ← nextRecord? maxInputs with
          | none => return .number 0
          | some text =>
              keep n target text
              return .number 1
      | .takeFrom isCommand source target =>
          let name ← textOf (← eval n source)
          match ← takeFrom isCommand name with
          | .error k => return .number (ofInt k)
          | .ok text =>
              keep n target text
              return .number 1

/-- Puts a record that has been read into a place; the record of the machine without one. -/
def keep : Nat → Option Expr → Octets → Running Unit
  | 0, _, _ => throw (.failed 2)
  | n + 1, target, text => do
      match target with
      | none => setRecord text
      | some e => store (← spot n e) (.input text)

def evalAll : Nat → List Expr → Running (List Value)
  | 0, _ => throw (.failed 2)
  | n + 1, es => do
      match es with
      | [] => return []
      | e :: rest =>
          let v ← eval n e
          return v :: (← evalAll n rest)

/-- Where the value of an expression is put. -/
def spot : Nat → Expr → Running Spot
  | 0, _ => throw (.failed 2)
  | n + 1, e => do
      match e with
      | .name p => return .variable p
      | .element array keys =>
          let key ← keyOfAll (← evalAll n keys)
          return .element (← arrayOf array) key
      | .field k => return .field (← fieldNumber (← eval n k))
      | _ => fault "assignment to a value".toList

/-- The text of a regular expression. -/
def regexText : Nat → Expr → Running Octets
  | 0, _ => throw (.failed 2)
  | n + 1, e => do
      match e with
      | .pattern t => return t
      | e => textOf (← eval n e)

/-- The functions that every program has. -/
def builtin : Nat → Builtin → List Expr → Running Value
  | 0, _, _ => throw (.failed 2)
  | n + 1, b, args => do
      match b, args with
      | .length, [.name p] =>
          match ← slot p with
          | .array a => return .number (Float.ofNat (← table a).size)
          | .pending a => return .number (Float.ofNat (← table a).size)
          | _ => plainBuiltin .length [← eval n (.name p)]
      | .find, [e, r] =>
          let t ← textOf (← eval n e)
          let r ← regexOf (← regexText n r)
          let (start, size) : Nat × Int := match r.search? t with
            | some m => (m.start + 1, (m.stop : Int) - m.start)
            | none => (0, -1)
          setSpecial .matchStart (.number (Float.ofNat start))
          setSpecial .matchLength (.number (ofInt size))
          return .number (Float.ofNat start)
      | .split, e :: .name p :: rest =>
          let t ← textOf (← eval n e)
          let separator ← match rest with
            | [] => specialText .fieldSeparator
            | r :: _ => regexText n r
          let found ← match rest with
            | .pattern r :: _ =>
                if t.isEmpty then pure [] else do pure (betweenMatches (← regexOf r) t)
            | _ => parts separator t
          let a ← arrayOf p
          modifyTable a fun _ => .ofRow (found.map Value.input)
          return .number (Float.ofNat found.length)
      | .sub, r :: put :: rest => replace n false r put rest.head?
      | .gsub, r :: put :: rest => replace n true r put rest.head?
      | b, args => plainBuiltin b (← evalAll n args)

/-- Puts something in for what an expression stands for, in a place or in the record. -/
def replace : Nat → Bool → Expr → Expr → Option Expr → Running Value
  | 0, _, _, _, _ => throw (.failed 2)
  | n + 1, everywhere, r, put, target => do
      let r ← regexOf (← regexText n r)
      let put ← textOf (← eval n put)
      let target := target.getD (.field (.number 0))
      let (place, old) ← match target with
        | .name _ | .element _ _ | .field _ => do
            let s ← spot n target
            pure (some s, ← load s)
        | e => do pure (none, ← eval n e)
      let (count, text) := substitute r everywhere put (← textOf old)
      match count, place with
      | 0, _ => return .number 0
      | _, none => return .number (Float.ofNat count)
      | _, some s =>
          store s (.text text)
          return .number (Float.ofNat count)

/-- What a function is given. -/
def passed : Nat → Nat → List Expr → Running (List Slot)
  | 0, _, _ => throw (.failed 2)
  | _, 0, _ => return []
  | n + 1, size + 1, args => do
      match args with
      | [] => return List.replicate (size + 1) .unset
      | e :: rest =>
          let s ← match e with
            | .name p => do
                if p = .shared Special.fieldCount.number then pure (Slot.scalar (← eval n e))
                else match ← slot p with
                  | .unset => do
                      let a ← newArray
                      setSlot p (.pending a)
                      pure (.pending a)
                  | s => pure s
            | e => do pure (Slot.scalar (← eval n e))
          return s :: (← passed n size rest)

def callFunction : Nat → Nat → List Expr → Running Value
  | 0, _, _ => throw (.failed 2)
  | n + 1, f, args => do
      match (← get).script.functions[f]? with
      | none => return .unset
      | some function =>
          let given ← passed n function.size args
          let own := (← get).own
          modify fun m => { m with own := given.toArray }
          step
          let result ← Program.attempt (exec n function.body)
          modify fun m => { m with own }
          match result with
          | .ok _ => return .unset
          | .error (.giveBack v) => return v
          | .error c => throw c

/-- Does a statement. -/
def exec : Nat → Statement → Running Unit
  | 0, _ => throw (.failed 2)
  | n + 1, s => do
      match s with
      | .block body => execAll n body
      | .expr e =>
          let _ ← eval n e
      | .print args target =>
          let separator ← specialText .outputFieldSeparator
          let ending ← specialText .outputRecordSeparator
          let texts ← match args with
            | [] => do pure [← recordText]
            | args => do
                let format ← specialText .outputFormat
                let values ← evalAll n args
                pure (values.map (·.toText format))
          write n target (List.intercalate separator texts ++ ending)
      | .printf args target =>
          match ← format "printf" (← evalAll n args) with
          | .ok t => write n target t
          | .error what => fault what
      | .choose test yes no =>
          let v ← eval n test
          if v.holds then exec n yes
          else match no with
            | some s => exec n s
            | none => return ()
      | .loop test step body => loop n test step body
      | .loopOnce body test =>
          let goesOn ← inLoop (exec n body)
          if goesOn then loop n (some test) none body
      | .each target array body =>
          let a ← arrayOf array
          let (keys, t) := (← table a).keys
          modifyTable a fun _ => t
          eachKey n target body keys
      | .leave => throw .leave
      | .goOn => throw .goOn
      | .next => throw .next
      | .nextFile => throw .nextFile
      | .exit e =>
          match e with
          | some e =>
              let k := (whole? (← eval n e).toNumber).getD 0
              modify fun m => { m with status := (k % 256).toNat }
          | none => pure ()
          throw .exit
      | .giveBack e =>
          match e with
          | some e => throw (.giveBack (← eval n e))
          | none => throw (.giveBack .unset)
      | .delete array keys =>
          let a ← arrayOf array
          match keys with
          | none => modifyTable a fun _ => .empty
          | some keys =>
              let key ← keyOfAll (← evalAll n keys)
              modifyTable a (·.erase key)

/-- Writes a text to a place. -/
def write : Nat → Option (Direction × Expr) → Octets → Running Unit
  | 0, _, _ => throw (.failed 2)
  | n + 1, target, text => do
      match target with
      | none => tool (print text)
      | some (d, e) => writeTo d (← textOf (← eval n e)) text

def execAll : Nat → List Statement → Running Unit
  | 0, _ => throw (.failed 2)
  | n + 1, body => do
      match body with
      | [] => return ()
      | [s] => exec n s
      | s :: rest =>
          exec n s
          execAll n rest

/-- Does something as long as a test holds. -/
def loop : Nat → Option Expr → Option Statement → Statement → Running Unit
  | 0, _, _, _ => throw (.failed 2)
  | n + 1, test, step, body => do
      let holds ← match test with
        | some e => do pure (← eval n e).holds
        | none => pure true
      if holds then
        let goesOn ← inLoop (exec n body)
        if goesOn then
          match step with
          | some s => exec n s
          | none => pure ()
          loop n test step body

/-- Does something for each key. -/
def eachKey : Nat → Place → Statement → List Octets → Running Unit
  | 0, _, _, _ => throw (.failed 2)
  | n + 1, target, body, keys => do
      match keys with
      | [] => return ()
      | key :: rest =>
          setVariable target (.text key)
          let goesOn ← inLoop (exec n body)
          if goesOn then eachKey n target body rest

end

/-- How many steps a program takes at most. -/
def maxSteps : Nat := 1000000000

end Running

end Enquiry.Tool.Awk

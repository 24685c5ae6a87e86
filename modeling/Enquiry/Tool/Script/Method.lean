import Enquiry.Tool.Script.Row
import Enquiry.Tool.Script.Wording

/-!
# Methods

What values can do by themselves, each by its name.
-/

namespace Enquiry.Tool.Script

open Host Text

/-- What a function is given. -/
structure Given where
  args : List Value
  named : List (String × Value)

namespace Given

/-- An argument by its place or its name. -/
def get? (g : Given) (i : Nat) (name : String) : Option Value :=
  match g.args[i]? with
  | some v => some v
  | none => g.named.lookup name

/-- The first argument. -/
def first (g : Given) : Value := g.args.headD .none

def second? (g : Given) : Option Value := g.args[1]?

end Given

namespace Running

/-- A text that is asked for. -/
def wanted (v : Value) : Running (List Char) := do
  match v with
  | .text t => return t
  | .bytes t => return t
  | v => raise "TypeError" ("must be str, not ".toList ++ (← kindNameOf v))

/-- A number that is asked for. -/
def wantedWhole (v : Value) : Running Int := do
  match v with
  | .whole n => return n
  | .bool b => return if b then 1 else 0
  | v =>
      raise "TypeError" ('\'' :: (← kindNameOf v) ++ "' object cannot be interpreted as an integer".toList)

/-- A limit that may be given: a negative one is none. -/
def limitOf (v : Option Value) : Running (Option Nat) := do
  match v with
  | none => return none
  | some v =>
      let n ← wantedWhole v
      return if n < 0 then none else some n.toNat

section

variable (apply : Apply)

/-! ### Texts -/

/-- A value that a place of a format names: a number or a name, and attributes and items behind
it. The first argument bounds the number of steps. -/
def reached (look : Value → String → Running Value) :
    Nat → Value → List Char → Running Value
  | 0, v, _ => return v
  | n + 1, v, path => do
      match path with
      | [] => return v
      | '.' :: rest =>
          let name := rest.takeWhile fun c => c != '.' && c != '['
          let w ← look v (String.ofList name)
          reached look n w (rest.drop name.length)
      | '[' :: rest =>
          let name := rest.takeWhile (· != ']')
          let key := match number? name with
            | some k => Value.whole k
            | none => .text name
          reached look n (← item apply v key) (rest.drop (name.length + 1))
      | _ => raiseText "ValueError" "Only '.' or '[' may follow ']' in format field specifier"

/-- The inside of a place, and what follows it. The second argument is the number of braces that
are open. -/
def insidePlace : Nat → List Char → List Char → List Char × List Char
  | _, done, [] => (done.reverse, [])
  | depth, done, c :: rest =>
      if c = '\x7b' then insidePlace (depth + 1) (c :: done) rest
      else if c = '\x7d' then
        if depth = 0 then (done.reverse, rest) else insidePlace (depth - 1) (c :: done) rest
      else insidePlace depth (c :: done) rest

/-- A format with its places filled. The first argument bounds the number of characters; `next` is
the number of the next value without a name. -/
def formatted (look : Value → String → Running Value) (g : Given) :
    Nat → Nat → List (List Char) → List Char → Running (List Char × Nat)
  | 0, next, done, _ => return (done.reverse.flatten, next)
  | n + 1, next, done, text => do
      match text with
      | [] => return (done.reverse.flatten, next)
      | '\x7b' :: '\x7b' :: rest => formatted look g n next (['\x7b'] :: done) rest
      | '\x7d' :: '\x7d' :: rest => formatted look g n next (['\x7d'] :: done) rest
      | '\x7d' :: _ => raiseText "ValueError" "Single '\x7d' encountered in format string"
      | '\x7b' :: rest =>
          if !rest.contains '\x7d' then
            raiseText "ValueError" (if rest.isEmpty then "Single '\x7b' encountered in format string"
              else "expected '\x7d' before end of string")
          let (inside, rest) := insidePlace 0 [] rest
          let front := inside.takeWhile fun c => c != ':' && c != '!'
          let behind := inside.drop front.length
          let (conversion, behind) := match behind with
            | '!' :: c :: behind => (some c, behind)
            | behind => (none, behind)
          let spec := behind.drop 1
          let name := front.takeWhile fun c => c != '.' && c != '['
          let (v, next) ← if name.isEmpty then do
              match g.args[next]? with
              | some v => pure (v, next + 1)
              | none =>
                  raise "IndexError" ("Replacement index ".toList ++ decimal next ++
                    " out of range for positional args tuple".toList)
            else match number? name with
              | some i => do
                  match g.args[i]? with
                  | some v => pure (v, next)
                  | none =>
                      raise "IndexError" ("Replacement index ".toList ++ decimal i ++
                        " out of range for positional args tuple".toList)
              | none => do
                  match g.named.lookup (String.ofList name) with
                  | some v => pure (v, next)
                  | none => raiseWith "KeyError" [.text name]
          let v ← reached apply look (front.length + 1) v (front.drop name.length)
          let v ← converted apply v conversion
          let (spec, next) ← formatted look g n next [] spec
          formatted look g n next ((← laidOut apply v spec) :: done) rest
      | text =>
          let plain := text.takeWhile fun c => c != '\x7b' && c != '\x7d'
          formatted look g n next (plain :: done) (text.drop plain.length)

/-- The part of a text that arguments name by its ends: the text, and how much is left out in
front. -/
def between (t : List Char) (start stop : Option Value) : Running (Option (List Char × Nat)) := do
  let s ← stretchOf t.length (start.getD .none) (stop.getD .none) .none
  if s.stop < s.start then return none
  let from_ := match start with
    | some (.whole n) => n
    | _ => 0
  if (t.length : Int) < from_ then return none
  return some ((t.drop s.start.toNat).take (s.stop - s.start).toNat, s.start.toNat)

/-- A text begins or ends with one of some others. -/
def hasEnd (atStart : Bool) (t : List Char) (v : Value) : Running Bool := do
  let one (w : List Char) : Bool :=
    if atStart then w.isPrefixOf t else w.reverse.isPrefixOf t.reverse
  match v with
  | .tuple items => return (← items.mapM wanted).any one
  | v => return one (← wanted v)

/-- What texts and bytes can do. A text that comes out is made a value by `wrap`. -/
def textMethod? (look : Value → String → Running Value) (wrap : List Char → Value)
    (t : List Char) (name : String) (g : Given) : Running (Option Value) := do
  let blank := fun c => isSpace c
  let trimmed (left right : Bool) : Running (Option Value) := do
    let drop ← match g.args.head? with
      | none => pure blank
      | some .none => pure blank
      | some v => do
          let set ← wanted v
          pure fun c => set.contains c
    let t := if left then t.dropWhile drop else t
    return some (wrap (if right then (t.reverse.dropWhile drop).reverse else t))
  let some' (cs : List Char) : Running (Option Value) := return some (wrap cs)
  let isAll (p : Char → Bool) : Running (Option Value) :=
    return some (.bool (!t.isEmpty && t.all p))
  let width : Running Nat := do return (← wantedWhole g.first).toNat
  let fill : Running Char := do
    match g.second? with
    | some v => return (← wanted v).headD ' '
    | none => return ' '
  let place (last fails : Bool) : Running (Option Value) := do
    let w ← wanted g.first
    let found := match ← between t g.second? (g.args[2]?) with
      | none => none
      | some (part, off) =>
          ((if last then lastPlaceOf? w part else placeOf? w part)).map (· + off)
    match found with
    | some i => return some (.whole i)
    | none =>
        if fails then raiseText "ValueError" "substring not found"
        return some (.whole (-1))
  match name with
  | "upper" => some' (uppercase t)
  | "lower" => some' (lowercase t)
  | "casefold" => some' (lowercase t)
  | "swapcase" => some' (t.flatMap fun c => if isUpperChar c then lowercaseChar c else upperChar c)
  | "title" => some' (titled false t)
  | "capitalize" => some' (uppercase (t.take 1) ++ lowercase (t.drop 1))
  | "strip" => trimmed true true
  | "lstrip" => trimmed true false
  | "rstrip" => trimmed false true
  | "split" =>
      let limit ← limitOf (g.get? 1 "maxsplit")
      match g.get? 0 "sep" with
      | none | some .none =>
          return some (← makeList ((wordParts blank (t.length + 1) limit t).map wrap))
      | some v =>
          let mark ← wanted v
          if mark.isEmpty then raiseText "ValueError" "empty separator"
          return some (← makeList ((markParts mark (t.length + 1) limit t).map wrap))
  | "rsplit" =>
      let limit ← limitOf (g.get? 1 "maxsplit")
      let back (parts : List (List Char)) : Running (Option Value) := do
        return some (← makeList ((parts.map fun p => wrap p.reverse).reverse))
      match g.get? 0 "sep" with
      | none | some .none => back (wordParts blank (t.length + 1) limit t.reverse)
      | some v =>
          let mark ← wanted v
          if mark.isEmpty then raiseText "ValueError" "empty separator"
          back (markParts mark.reverse (t.length + 1) limit t.reverse)
  | "splitlines" =>
      let keep ← match g.get? 0 "keepends" with
        | some v => holds v
        | none => pure false
      return some (← makeList ((lineParts keep [] t).map wrap))
  | "join" =>
      let items ← itemsOf apply g.first
      let parts ← items.zipIdx.mapM fun (v, i) => do
        match v with
        | .text t => return t
        | .bytes t => return t
        | v =>
            raise "TypeError" ("sequence item ".toList ++ decimal i ++
              ": expected str instance, ".toList ++ (← kindNameOf v) ++ " found".toList)
      some' (List.intercalate t parts)
  | "replace" =>
      let mark ← wanted g.first
      let put ← wanted (g.second?.getD (.text []))
      some' (replaced mark put (t.length + 2) (← limitOf (g.args[2]?)) t)
  | "startswith" =>
      match ← between t g.second? (g.args[2]?) with
      | some (part, _) => return some (.bool (← hasEnd true part g.first))
      | none => return some (.bool false)
  | "endswith" =>
      match ← between t g.second? (g.args[2]?) with
      | some (part, _) => return some (.bool (← hasEnd false part g.first))
      | none => return some (.bool false)
  | "find" => place false false
  | "rfind" => place true false
  | "index" => place false true
  | "rindex" => place true true
  | "count" => return some (.whole (occurrences (← wanted g.first) t))
  | "partition" =>
      let mark ← wanted g.first
      match cutAt? mark [] t with
      | some (a, b) => return some (.tuple [wrap a, wrap mark, wrap b])
      | none => return some (.tuple [wrap t, wrap [], wrap []])
  | "rpartition" =>
      let mark ← wanted g.first
      match cutAtLast? mark t with
      | some (a, b) => return some (.tuple [wrap a, wrap mark, wrap b])
      | none => return some (.tuple [wrap [], wrap [], wrap t])
  | "removeprefix" => some' ((afterStart? (← wanted g.first) t).getD t)
  | "removesuffix" =>
      let w ← wanted g.first
      some' (((afterStart? w.reverse t.reverse).map List.reverse).getD t)
  | "ljust" => some' (fieldOf '<' (← fill) (← width) t)
  | "rjust" => some' (fieldOf '>' (← fill) (← width) t)
  | "center" => some' (fieldOf '^' (← fill) (← width) t)
  | "zfill" => some' (zeroFilled (← width) t)
  | "isdigit" => isAll fun c => isDigit c
  | "isdecimal" => isAll fun c => isDigit c
  | "isnumeric" => isAll fun c => isDigit c
  | "isalpha" => isAll isLetter
  | "isalnum" => isAll fun c => isLetter c || isDigit c
  | "isspace" => isAll blank
  | "isascii" => return some (.bool (t.all fun c => c.toNat < 0x80))
  | "isprintable" => return some (.bool (t.all isShown))
  | "isupper" => return some (.bool (t.any isUpperChar && !t.any isLowerChar))
  | "islower" => return some (.bool (t.any isLowerChar && !t.any isUpperChar))
  | "isidentifier" =>
      return some (.bool (match t with
        | c :: rest => (isLetter c || c == '_') && rest.all fun c => isLetter c || isDigit c || c == '_'
        | [] => false))
  | "expandtabs" => some' (t.flatMap fun c => if c = '\t' then List.replicate 8 ' ' else [c])
  | "format" =>
      let (text, _) ← formatted apply look g (2 * t.length + 2) 0 [] t
      some' text
  | "encode" => return some (.bytes (encoded t))
  | "decode" => return some (.text (decoded t))
  | "hex" =>
      return some (.text (t.flatMap fun c => hexFilled 2 c.toNat))
  | _ => return none

/-! ### Lists -/

/-- Sorts some values: by the results of a function, and from the last to the first. -/
def sortedBy (items : List Value) (key : Option Value) (backwards : Bool) :
    Running (List Value) := do
  let keyed ← items.mapM fun v => do
    match key with
    | none | some .none => return (v, v)
    | some f => return (← apply f [v] [], v)
  let keyed := if backwards then keyed.reverse else keyed
  let found := (← inOrder apply 64 keyed).map Prod.snd
  return if backwards then found.reverse else found

/-- The place of a value in a row. -/
def placeOfValue? (v : Value) : Nat → List Value → Running (Option Nat)
  | _, [] => return none
  | i, w :: rest => do
      if ← same apply v w then return some i
      placeOfValue? v (i + 1) rest

/-- How often a value stands in a row. -/
def countOfValue (v : Value) (items : List Value) : Running Value := do
  let found ← items.filterM fun w => same apply v w
  return .whole found.length

/-- What lists can do. -/
def listMethod? (n : Nat) (items : Array Value) (name : String) (g : Given) :
    Running (Option Value) := do
  let change (f : Array Value → Array Value) : Running (Option Value) := do
    changeObject n fun
      | .list x => .list (f x)
      | o => o
    return some .none
  match name with
  | "append" =>
      let v := g.first
      change (·.push v)
  | "extend" =>
      let more ← itemsOf apply g.first
      change (· ++ more.toArray)
  | "insert" =>
      let i ← wantedWhole g.first
      let size : Int := items.size
      let i := if i < 0 then max 0 (i + size) else min i size
      change fun x => x.insertIdxIfInBounds i.toNat (g.second?.getD .none)
  | "pop" =>
      let i ← match g.args.head? with
        | some v => wantedWhole v
        | none => pure (-1)
      if items.isEmpty then raiseText "IndexError" "pop from empty list"
      match placeIn? items.size i with
      | none => raiseText "IndexError" "pop index out of range"
      | some i =>
          let v := (items[i]?).getD .none
          let _ ← change fun x => if i + 1 = x.size then x.pop else x.eraseIdxIfInBounds i
          return some v
  | "remove" =>
      match ← placeOfValue? apply g.first 0 items.toList with
      | some i => change (·.eraseIdxIfInBounds i)
      | none => raiseText "ValueError" "list.remove(x): x not in list"
  | "clear" => change fun _ => #[]
  | "index" =>
      match ← placeOfValue? apply g.first 0 items.toList with
      | some i => return some (.whole i)
      | none =>
          raise "ValueError" ((← shown apply g.first) ++ " is not in list".toList)
  | "count" => return some (← countOfValue apply g.first items.toList)
  | "sort" =>
      let backwards ← holds ((g.named.lookup "reverse").getD .none)
      let found ← sortedBy apply items.toList (g.named.lookup "key") backwards
      change fun _ => found.toArray
  | "reverse" => change Array.reverse
  | "copy" => return some (← make (.list items))
  | _ => return none

/-! ### Dictionaries and sets -/

/-- What dictionaries can do. -/
def dictMethod? (n : Nat) (d : Dict) (name : String) (g : Given) : Running (Option Value) := do
  match name with
  | "get" =>
      let k ← keyOf g.first
      return some ((d.get? k).getD (g.second?.getD .none))
  | "keys" => return some (← makeList d.keys)
  | "values" => return some (← makeList d.values)
  | "items" => return some (← makeList (d.pairs.map fun (k, v) => .tuple [k, v]))
  | "pop" =>
      let k ← keyOf g.first
      match d.get? k, g.second? with
      | some v, _ =>
          setObject n (.dict (d.erase k))
          return some v
      | none, some v => return some v
      | none, none => raiseWith "KeyError" [g.first]
  | "popitem" =>
      match d.pairs.getLast? with
      | none => raiseText "KeyError" "popitem(): dictionary is empty"
      | some (k, v) =>
          setObject n (.dict (d.erase (← keyOf k)))
          return some (.tuple [k, v])
  | "setdefault" =>
      let k ← keyOf g.first
      match d.get? k with
      | some v => return some v
      | none =>
          let v := g.second?.getD .none
          setObject n (.dict (d.set k g.first v))
          return some v
  | "update" =>
      let pairs ← match g.args with
        | v :: _ => pairsOf apply v
        | [] => pure []
      let more := pairs ++ g.named.map fun (k, v) => (.text k.toList, v)
      let mut d := d
      for (k, v) in more do
        d := d.set (← keyOf k) k v
      setObject n (.dict d)
      return some .none
  | "clear" =>
      setObject n (.dict .empty)
      return some .none
  | "copy" => return some (← make (.dict d))
  | _ => return none

/-- What sets can do. -/
def setMethod? (n : Nat) (d : Dict) (name : String) (g : Given) : Running (Option Value) := do
  let others : Running (List Value) := do
    return (← g.args.mapM (itemsOf apply)).flatten
  let otherSet : Running Dict := do dictOf ((← others).map fun v => (v, .none))
  match name with
  | "add" =>
      let k ← keyOf g.first
      setObject n (.set (if d.contains k then d else d.set k g.first .none))
      return some .none
  | "remove" =>
      let k ← keyOf g.first
      if !d.contains k then raiseWith "KeyError" [g.first]
      setObject n (.set (d.erase k))
      return some .none
  | "discard" =>
      setObject n (.set (d.erase (← keyOf g.first)))
      return some .none
  | "pop" =>
      match d.keys with
      | [] => raiseWith "KeyError" [.text "pop from an empty set".toList]
      | v :: _ =>
          setObject n (.set (d.erase (← keyOf v)))
          return some v
  | "clear" =>
      setObject n (.set .empty)
      return some .none
  | "copy" => return some (← make (.set d))
  | "update" =>
      let more ← dictOf ((d.keys ++ (← others)).map fun v => (v, .none))
      setObject n (.set more)
      return some .none
  | "union" => return some (← makeSet (d.keys ++ (← others)))
  | "intersection" =>
      let e ← otherSet
      return some (← makeSet (← d.keys.filterM fun k => do return e.contains (← keyOf k)))
  | "difference" =>
      let e ← otherSet
      return some (← makeSet (← d.keys.filterM fun k => do return !e.contains (← keyOf k)))
  | "issubset" =>
      let e ← otherSet
      return some (.bool (d.places.toList.all fun (k, _) => e.contains k))
  | "issuperset" =>
      let e ← otherSet
      return some (.bool (e.places.toList.all fun (k, _) => d.contains k))
  | "isdisjoint" =>
      let e ← otherSet
      return some (.bool (!(d.places.toList.any fun (k, _) => e.contains k)))
  | _ => return none

/-! ### Streams -/

/-- What streams can do; the second argument says whether with bytes. -/
def streamMethod? (n : Nat) (ofBytes : Bool) (name : String) (g : Given) :
    Running (Option Value) := do
  let write (v : Value) : Running Nat := do
    match v, ofBytes with
    | .text t, false =>
        writeText n t
        return t.length
    | .bytes t, true =>
        writeBytes n t
        return t.length
    | v, true =>
        raise "TypeError" ("a bytes-like object is required, not '".toList ++ (← kindNameOf v) ++ ['\''])
    | v, false =>
        raise "TypeError" ("write() argument must be str, not ".toList ++ (← kindNameOf v))
  match name with
  | "write" => return some (.whole (← write g.first))
  | "writelines" =>
      for v in ← itemsOf apply g.first do
        let _ ← write v
      return some .none
  | "flush" =>
      let _ ← openStream n
      if ofBytes then flushBytes n else flushStream n
      return some .none
  | "read" => return some (← readMore n ofBytes (← limitOf (g.args.head?.filter fun v => !(v matches .none))))
  | "readline" =>
      return some ((← readLine? n ofBytes).getD (if ofBytes then .bytes [] else .text []))
  | "readlines" => return some (← makeList (← itemsOf apply (if ofBytes then .raw n else .object n)))
  | "close" =>
      closeStream n
      return some .none
  | "fileno" => return some (.whole (← stream n).descriptor)
  | "isatty" => return some (.bool false)
  | "readable" => return some (.bool (← stream n).reads)
  | "writable" => return some (.bool (← stream n).writes)
  | "reconfigure" =>
      let s ← stream n
      match g.named.lookup "line_buffering" with
      | some v => setStream n { s with byLine := (← holds v) }
      | none => pure ()
      return some .none
  | "__enter__" => return some (if ofBytes then .raw n else .object n)
  | "__exit__" =>
      closeStream n
      return some .none
  | _ => return none

/-! ### All methods -/

/-- What a value can do. -/
def method? (look : Value → String → Running Value) (self : Value) (name : String) (g : Given) :
    Running (Option Value) := do
  match self with
  | .text t => textMethod? apply look Value.text t name g
  | .bytes t => textMethod? apply look Value.bytes t name g
  | .raw n => streamMethod? apply n true name g
  | .tuple items =>
      match name with
      | "index" =>
          match ← placeOfValue? apply g.first 0 items with
          | some i => return some (.whole i)
          | none => raiseText "ValueError" "tuple.index(x): x not in tuple"
      | "count" => return some (← countOfValue apply g.first items)
      | _ => return none
  | .whole n =>
      match name with
      | "bit_length" => return some (.whole (if n = 0 then 0 else n.natAbs.log2 + 1))
      | "conjugate" => return some self
      | _ => return none
  | .real x =>
      match name with
      | "is_integer" => return some (.bool (wholeOf? x).isSome)
      | _ => return none
  | .object n =>
      match ← object n with
      | .list items => listMethod? apply n items name g
      | .dict d => dictMethod? apply n d name g
      | .set d => setMethod? apply n d name g
      | .stream s => streamMethod? apply n s.ofBytes name g
      | .fault f =>
          match name with
          | "with_traceback" => return some self
          | "__str__" => return some (.text (← faultText apply f (textOf apply)))
          | _ => return none
      | _ => return none
  | _ => return none

end

/-- The names of what kinds of values can do. -/
def methodNames : List (String × List String) :=
  let texts := ["upper", "lower", "casefold", "swapcase", "title", "capitalize", "strip", "lstrip",
    "rstrip", "split", "rsplit", "splitlines", "join", "replace", "startswith", "endswith", "find",
    "rfind", "index", "rindex", "count", "partition", "rpartition", "removeprefix", "removesuffix",
    "ljust", "rjust", "center", "zfill", "isdigit", "isalpha", "isalnum", "isspace", "isascii",
    "isupper", "islower", "expandtabs"]
  let streams := ["write", "writelines", "flush", "read", "readline", "readlines", "close", "fileno",
    "isatty", "readable", "writable", "reconfigure", "__enter__", "__exit__"]
  [("str", "encode" :: "format" :: "isdecimal" :: "isnumeric" :: "isprintable" :: "isidentifier" ::
      texts),
    ("bytes", "decode" :: "hex" :: texts),
    ("list", ["append", "extend", "insert", "pop", "remove", "clear", "index", "count", "sort",
      "reverse", "copy"]),
    ("dict", ["get", "keys", "values", "items", "pop", "popitem", "setdefault", "update", "clear",
      "copy"]),
    ("set", ["add", "remove", "discard", "pop", "clear", "copy", "update", "union", "intersection",
      "difference", "issubset", "issuperset", "isdisjoint"]),
    ("tuple", ["index", "count"]), ("int", ["bit_length", "conjugate"]), ("float", ["is_integer"]),
    ("_io.TextIOWrapper", streams), ("_io.BufferedWriter", streams)]

end Running

end Enquiry.Tool.Script

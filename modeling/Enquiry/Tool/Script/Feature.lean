import Enquiry.Tool.Script.Exchange

/-!
# Features of values

What stands behind a dot: what a script has given to a value or its kind, what values of a kind
always have, and what modules hold.
-/

namespace Enquiry.Tool.Script

open Host Text

namespace Running

/-! ### Modules -/

/-- The functions of modules. -/
def moduleFunctions : List (String × List String) :=
  [("sys", ["exit", "exc_info", "getdefaultencoding", "getrecursionlimit", "setrecursionlimit",
      "intern", "getsizeof"]),
    ("json", ["dumps", "loads", "dump", "load"]),
    ("os", ["getpid", "getppid", "kill", "getcwd", "chdir", "listdir", "mkdir", "makedirs", "remove",
      "unlink", "rmdir", "rename", "replace", "getenv", "_exit", "write", "read", "close", "system",
      "abort", "fork", "wait", "waitpid", "execv", "execvp", "setsid", "setpgrp", "access", "chmod",
      "umask", "symlink", "cpu_count", "fspath", "putenv"]),
    ("os.path", ["exists", "isfile", "isdir", "join", "basename", "dirname", "abspath", "splitext",
      "getsize", "isabs", "realpath", "expanduser", "split"]),
    ("time", ["sleep", "time", "monotonic", "perf_counter", "time_ns", "monotonic_ns"]),
    ("signal", ["signal", "pause", "raise_signal", "getsignal"]),
    ("math", ["floor", "ceil", "sqrt", "log", "log2", "log10", "exp", "sin", "cos", "tan", "fabs",
      "trunc", "isnan", "isinf", "isfinite", "gcd", "factorial", "pow"])]

/-- The modules that there are. -/
def modules : List String := "__future__" :: moduleFunctions.map Prod.fst

/-- The version of the language, as a text and in numbers. -/
def version : List Nat := [3, 11, 2]

def versionText : List Char := List.intercalate ['.'] (version.map decimal)

/-- What modules hold besides functions. -/
def moduleConstant? (module name : String) : Option Value :=
  match module, name with
  | "sys", "stdin" => some (.object inputStream)
  | "sys", "stdout" => some (.object outputStream)
  | "sys", "stderr" => some (.object diagnosticStream)
  | "sys", "__stdin__" => some (.object inputStream)
  | "sys", "__stdout__" => some (.object outputStream)
  | "sys", "__stderr__" => some (.object diagnosticStream)
  | "sys", "platform" => some (.text "linux".toList)
  | "sys", "byteorder" => some (.text "little".toList)
  | "sys", "maxsize" => some (.whole 9223372036854775807)
  | "sys", "version" => some (.text (versionText ++ " (main)".toList))
  | "sys", "version_info" =>
      some (.tuple (version.map (fun (n : Nat) => Value.whole n) ++ [.text "final".toList, .whole 0]))
  | "sys", "executable" => some (.text "/usr/bin/python3".toList)
  | "os", "path" => some (.module "os.path")
  | "os", "sep" => some (.text ['/'])
  | "os", "linesep" => some (.text ['\n'])
  | "os", "name" => some (.text "posix".toList)
  | "os", "devnull" => some (.text "/dev/null".toList)
  | "os", "pathsep" => some (.text [':'])
  | "os", "F_OK" => some (.whole 0)
  | "os", "X_OK" => some (.whole 1)
  | "os", "W_OK" => some (.whole 2)
  | "os", "R_OK" => some (.whole 4)
  | "os", "error" => some (.builtin "OSError")
  | "os.path", "sep" => some (.text ['/'])
  | "json", "JSONDecodeError" => some (.builtin "json.decoder.JSONDecodeError")
  | "signal", "SIG_DFL" => some (.whole 0)
  | "signal", "SIG_IGN" => some (.whole 1)
  | "signal", name =>
      match afterStart? "SIG".toList name.toList with
      | some rest => (Signal.ofName? (String.ofList rest)).map fun s => .whole s
      | none => none
  | "math", "pi" => some (.real 3.141592653589793)
  | "math", "e" => some (.real 2.718281828459045)
  | "math", "inf" => some (.real (1.0 / 0.0))
  | "math", "nan" => some (.real (0.0 / 0.0))
  | "__future__", _ => some .none
  | _, _ => none

/-- What a module holds. -/
def moduleFeature? (module name : String) : Running (Option Value) := do
  match (← get).shelf.lookup (module, name), moduleConstant? module name with
  | some v, _ => return some v
  | none, some v => return some v
  | none, none =>
      if ((moduleFunctions.lookup module).getD []).contains name then
        return some (.builtin (module ++ "." ++ name))
      return none

/-! ### All features -/

/-- What a kind gives to one of its values: a function is bound to it. -/
def given (self found : Value) : Running Value := do
  match found with
  | .object f =>
      match ← object f with
      | .function _ => return .bound f self
      | .held "staticmethod" g => return g
      | .held "classmethod" (.object g) => return .bound g (← kindOf self)
      | .held "property" g => return .method (.tuple [g, self]) "property"
      | _ => return found
  | v => return v

/-- What a kind gives when it is asked itself. -/
def givenByKind (kind found : Value) : Running Value := do
  match found with
  | .object f =>
      match ← object f with
      | .held "staticmethod" g => return g
      | .held "classmethod" (.object g) => return .bound g kind
      | _ => return found
  | v => return v

/-- What values of a kind can do by themselves. -/
def methodsOf (kind : String) : List String := (methodNames.lookup kind).getD []

/-- What stands behind a dot, if there is such a thing. -/
def feature? (v : Value) (name : String) : Running (Option Value) := do
  let kind ← kindOf v
  let own (kind : String) : Option Value :=
    if (methodsOf kind).contains name then some (.method v name) else none
  let usual : Option Value := match kind with
    | .builtin k => own k
    | _ => none
  if name = "__class__" then return some kind
  match v with
  | .module m => moduleFeature? m name
  | .builtin k =>
      if name = "__name__" ∨ name = "__qualname__" then return some (.text (shortName k))
      if (methodsOf k).contains name || (k == "dict" && name == "fromkeys") then
        return some (.builtin (k ++ "." ++ name))
      if isFaultKind k && name == "__init__" then return some (.builtin "fault.__init__")
      return none
  | .raw n => return if name = "raw" ∨ name = "buffer" then some (.raw n) else usual
  | .range a b c => return [("start", Value.whole a), ("stop", .whole b), ("step", .whole c)].lookup name
  | .whole n =>
      return [("real", Value.whole n), ("imag", .whole 0), ("numerator", .whole n),
        ("denominator", .whole 1)].lookup name <|> usual
  | .bound f _ =>
      match ← object f with
      | .function f => return if name = "__name__" then some (.text f.name.toList) else none
      | _ => return none
  | .above above self =>
      match ← kindAttribute? name maxKinds above with
      | some found => return some (← given self found)
      | none =>
          if name = "__init__" then return some (.method self "__init__")
          return none
  | .object n =>
      match ← object n with
      | .individual k attributes =>
          match attributes.lookup name with
          | some found => return some found
          | none =>
              if name = "__dict__" then
                return some (← makeDict (attributes.map fun (k, v) => (.text k.toList, v)))
              match ← kindAttribute? name maxKinds (.object k) with
              | some found => return some (← given v found)
              | none => return none
      | .kind k =>
          if name = "__name__" ∨ name = "__qualname__" then return some (.text k.name.toList)
          match ← kindAttribute? name maxKinds v with
          | some found => return some (← givenByKind v found)
          | none =>
              if name = "__init__" then return some (.builtin "fault.__init__")
              return none
      | .fault f =>
          match f.attributes.lookup name with
          | some found => return some found
          | none =>
              match name with
              | "args" => return some (.tuple f.args)
              | "code" => return some (f.args.headD .none)
              | "value" => return some (f.args.headD .none)
              | "msg" => return some (f.args.headD .none)
              | "errno" => return some (if f.args.length = 2 then f.args.headD .none else .none)
              | "strerror" => return some (if f.args.length = 2 then (f.args[1]?).getD .none else .none)
              | "filename" => return some .none
              | "with_traceback" => return some (.method v name)
              | "__str__" => return some (.method v name)
              | "__traceback__" => return some .none
              | "__cause__" => return some ((f.cause.join.map Value.object).getD .none)
              | "__context__" => return some ((f.context.map Value.object).getD .none)
              | name =>
                  match ← kindAttribute? name maxKinds f.kind with
                  | some found => return some (← given v found)
                  | none => return none
      | .function f =>
          if name = "__name__" then return some (.text f.name.toList)
          if name = "__qualname__" then return some (.text f.title.toList)
          if name = "__doc__" then return some .none
          return none
      | .stream s =>
          match name with
          | "buffer" => return some (.raw n)
          | "name" => return some (.text s.name)
          | "closed" => return some (.bool s.closed)
          | "encoding" => return some (.text "utf-8".toList)
          | "mode" => return some (.text (if s.writes then ['w'] else ['r']))
          | _ => return usual
      | _ => return usual
  | _ => return usual

/-- What stands behind a dot. -/
def feature (v : Value) (name : String) : Running Value := do
  match ← feature? v name with
  | some found => return found
  | none =>
      match v with
      | .module m =>
          raiseText "AttributeError" ("module '" ++ m ++ "' has no attribute '" ++ name ++ "'")
      | v =>
          let isKind ← match v with
            | .builtin k => pure (if valueKinds.contains k || isFaultKind k then some (shortName k) else none)
            | .object n =>
                match ← object n with
                | .kind k => pure (some k.name.toList)
                | _ => pure none
            | _ => pure none
          match isKind with
          | some k =>
              raise "AttributeError" ("type object '".toList ++ k ++ "' has no attribute '".toList ++
                name.toList ++ ['\''])
          | none =>
              raise "AttributeError" ('\'' :: (← kindNameOf v) ++ "' object has no attribute '".toList ++
                name.toList ++ ['\''])

/-- Attributes with one that has a value. -/
def withAttribute (name : String) (w : Value) (attributes : List (String × Value)) :
    List (String × Value) :=
  if attributes.any fun (n, _) => n == name then
    attributes.map fun (n, old) => if n == name then (n, w) else (n, old)
  else attributes ++ [(name, w)]

/-- Puts a value behind a dot. -/
def setFeature (v : Value) (name : String) (w : Value) : Running Unit := do
  let refused : Running Unit := do
    raise "AttributeError" ('\'' :: (← kindNameOf v) ++ "' object has no attribute '".toList ++
      name.toList ++ ['\''])
  match v with
  | .module m => modify fun s => { s with shelf := ((m, name), w) :: s.shelf }
  | .object n =>
      match ← object n with
      | .individual k attributes => setObject n (.individual k (withAttribute name w attributes))
      | .kind k => setObject n (.kind { k with attributes := withAttribute name w k.attributes })
      | .fault f => setObject n (.fault { f with attributes := withAttribute name w f.attributes })
      | .function _ => return ()
      | _ => refused
  | _ => refused

/-- Takes away what stands behind a dot. -/
def dropFeature (v : Value) (name : String) : Running Unit := do
  let _ ← feature v name
  match v with
  | .object n =>
      match ← object n with
      | .individual k attributes =>
          setObject n (.individual k (attributes.filter fun (m, _) => m != name))
      | .kind k =>
          setObject n (.kind { k with attributes := k.attributes.filter fun (m, _) => m != name })
      | _ => return ()
  | _ => return ()

end Running

end Enquiry.Tool.Script

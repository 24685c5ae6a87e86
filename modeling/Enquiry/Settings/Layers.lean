import Enquiry.Environment
import Enquiry.Settings.Basic
import Enquiry.Settings.Value
import Enquiry.Text.Name
import Enquiry.Text.Search
import Enquiry.Toml.Document

/-!
# Where settings come from

Settings are looked for in layers: the variables whose names begin with `APP_`, the variables
without such a beginning, the file of the profile, `config.toml`, and the defaults. Each setting
has the value of the highest layer that gives it one, whatever the layers below say; so a value of
the wrong kind is an error even where a lower layer has a good one. Names of variables are compared
without regard to the case of ASCII letters.
-/

namespace Enquiry

open Text

/-! ### Paths with variables

A path may hold variables, as `$NAME`, `$` with the name in braces, or the same with a default
behind `:-`, and `$$` for a dollar sign. Values and defaults are not looked at again. When a
variable without a default is not set, nothing of the path is expanded. After that a `~` in front,
alone or before a slash, becomes the home directory.
-/

/-- What stands between the braces of a variable: its name, and the default behind the first `:-`
that has a name in front of it. -/
def splitDefault (name : List Char) : List Char → List Char × Option (List Char)
  | [] => (name.reverse, none)
  | ':' :: '-' :: rest =>
      if name.isEmpty then (name.reverse ++ ':' :: '-' :: rest, none)
      else (name.reverse, some rest)
  | c :: rest => splitDefault (c :: name) rest

/-- Expands the variables of a text that stands behind the text `done`, which is in reverse. The
first argument bounds the number of steps. -/
def expandOnto (value? : List Char → Option (List Char)) :
    Nat → List Char → List Char → Option (List Char)
  | 0, done, text => some (done.reverse ++ text)
  | _, done, [] => some done.reverse
  | steps + 1, done, '$' :: '$' :: rest => expandOnto value? steps ('$' :: done) rest
  | steps + 1, done, '$' :: '\x7b' :: rest =>
      if rest.contains '\x7d' then
        let (inside, rest) := breakOn '\x7d' rest
        let (name, fallback) := splitDefault [] inside
        match (value? name).or fallback with
        | some value => expandOnto value? steps (value.reverse ++ done) rest
        | none => none
      else expandOnto value? steps ('\x7b' :: '$' :: done) rest
  | steps + 1, done, '$' :: rest =>
      let name := rest.takeWhile isNameChar
      if name.isEmpty then expandOnto value? steps ('$' :: done) rest
      else
        match value? name with
        | some value =>
            expandOnto value? steps (value.reverse ++ done) (rest.dropWhile isNameChar)
        | none => none
  | steps + 1, done, c :: rest => expandOnto value? steps (c :: done) rest

/-- The text with its variables expanded, if all of them have a value. -/
def expandVariables? (env : Environment) (text : List Char) : Option (List Char) :=
  expandOnto (fun name => (env.get? (String.ofList name)).map String.toList) text.length [] text

/-- The text with the home directory in place of a `~` in front. -/
def expandHome (home : String) : List Char → List Char
  | '~' :: rest =>
      if rest.isEmpty || rest.head? == some '/' then home.toList ++ rest else '~' :: rest
  | text => text

/-- The path that a text means in an environment. -/
def expandPath (env : Environment) (path : String) : String :=
  let text := (expandVariables? env path.toList).getD path.toList
  String.ofList (expandHome env.home text)

/-! ### Layers -/

/-- What one source says. Of several values under one name the last counts. -/
structure Layer where
  entries : List (String × SettingValue)

namespace Layer

/-- The value under a name. -/
def get? (layer : Layer) (name : String) : Option SettingValue := layer.entries.reverse.lookup name

/-- The layer of the defaults. -/
def defaults : Layer :=
  ⟨[("super_binary_path", .text Settings.default.binaryPath),
    ("query_timeout", .integer Settings.default.queryTimeout),
    ("max_results", .integer Settings.default.maxResults),
    ("default_region", .text Settings.default.defaultRegion)]⟩

/-! ### Variables -/

def toLowerAscii (name : List Char) : List Char := name.map Char.toLower

/-- The variables that are read without a prefix, and the settings they give. -/
def plainVariables : List (String × String) :=
  [("SUPER_BINARY_PATH", "super_binary_path"), ("QUERY_TIMEOUT", "query_timeout"),
    ("MAX_RESULTS", "max_results"), ("DEFAULT_AWS_REGION", "default_region")]

/-- The setting that a variable gives without a prefix. -/
def plainSetting? (name : String) : Option String :=
  (plainVariables.find? fun (spelling, _) =>
    toLowerAscii spelling.toList == toLowerAscii name.toList).map Prod.snd

/-- The layer of the variables without a prefix. -/
def ofPlain (env : Environment) : Layer :=
  ⟨env.entries.filterMap fun (name, value) =>
    (plainSetting? name).map (·, SettingValue.ofVariable value)⟩

/-- What the names of the other variables begin with. -/
def variablePrefix : String := "app_"

/-- The entry of a prefixed variable. A dot in the name makes its first part a table. -/
def prefixedEntry? (name value : String) : Option (String × SettingValue) :=
  (afterStart? variablePrefix.toList (toLowerAscii name.toList)).bind fun rest =>
    match List.splitOn '.' (trim rest) with
    | [] => none
    | part :: parts =>
        if (part :: parts).any List.isEmpty then none
        else
          some (String.ofList part,
            if parts.isEmpty then SettingValue.ofVariable value else .other)

/-- The layer of the variables with a prefix. -/
def ofPrefixed (env : Environment) : Layer :=
  ⟨env.entries.filterMap fun (name, value) => prefixedEntry? name value⟩

/-! ### Files -/

/-- The contents of the files at hand, by name. -/
abbrev Files := String → Option String

/-- The layer of a file. A file that is not there says nothing; one that is not well formed has
no layer. -/
def ofFile? (files : Files) (name : String) : Option Layer :=
  match files name with
  | none => some ⟨[]⟩
  | some contents => (Toml.settings? contents).map Layer.mk

def baseFile : String := "config.toml"

/-- The file of a profile. -/
def profileFile? (profile : String) : Option String :=
  if profile = "dev" ∨ profile = "development" then some "config.dev.toml"
  else if profile = "prod" ∨ profile = "production" then some "config.prod.toml"
  else if profile = "test" ∨ profile = "testing" then some "config.test.toml"
  else none

def ofProfile? (files : Files) (profile : String) : Option Layer :=
  match profileFile? profile with
  | none => some ⟨[]⟩
  | some name => ofFile? files name

/-- All layers, the highest first. -/
def all? (env : Environment) (files : Files) (profile : String) : Option (List Layer) := do
  let base ← ofFile? files baseFile
  let profile ← ofProfile? files profile
  some [ofPrefixed env, ofPlain env, profile, base, defaults]

/-- The value of the highest layer that gives one. -/
def find? (layers : List Layer) (name : String) : Option SettingValue :=
  layers.findSome? (·.get? name)

end Layer

/-- Why no settings can be loaded. -/
inductive LoadFault where
  /-- A file is not well formed, or a value has the wrong kind. -/
  | unreadable
  | refused (fault : SettingsFault)
  deriving DecidableEq, Repr

/-- The failure of a load. -/
def LoadFault.failure : LoadFault → Failure
  | .unreadable => .invalidConfig "a file or a value cannot be read"
  | .refused fault => fault.failure

namespace Settings

/-- The settings that some layers give, if each has a value of its kind. -/
def ofLayers? (layers : List Layer) : Option Settings := do
  let path ← (← Layer.find? layers "super_binary_path").text?
  let timeout ← (← Layer.find? layers "query_timeout").natural?
  let results ← (← Layer.find? layers "max_results").natural?
  let region ← (← Layer.find? layers "default_region").text?
  some ⟨path, timeout, results, region⟩

/-- The settings of a profile. The path of the engine is expanded before they are checked. -/
def load (env : Environment) (files : Layer.Files) (profile : String) :
    Except LoadFault Settings :=
  match (Layer.all? env files profile).bind ofLayers? with
  | none => .error .unreadable
  | some s =>
      match { s with binaryPath := expandPath env s.binaryPath }.validate with
      | .ok s => .ok s
      | .error fault => .error (.refused fault)

/-- The profile that an environment names. -/
def profile (env : Environment) : String := (env.get? "RUST_ENV").getD "dev"

end Settings

end Enquiry

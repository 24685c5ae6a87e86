import Enquiry.Proofs.Text.Splitting
import Enquiry.Proofs.Toml.Document
import Enquiry.Settings.Layers

/-!
# Where each setting comes from

A setting may be said in five places (`Source`), and `Source.Gives` tells what a place says of it:
the last variable that speaks of it, the entry of a file, the value that is built in.  The value
that counts is the one of the highest place that says anything (`Chosen`).  There is exactly one
(`existsUnique_chosen`), and neither other settings nor the places below have a part in it.  Where
names of variables differ, the last variable that speaks of a setting is the one with its name
(`Environment.lastTells_plain_iff`, `Environment.lastTells_prefixed_iff`).

**Settings are loaded from the chosen values** (`Settings.load_eq_ok_iff_chosen`): they are, when
the files are well formed, exactly if each chosen value has the kind of its setting and the
settings are not refused.
-/

namespace Enquiry

open Text Number

/-! ### What may be said -/

inductive SettingKey where
  | binaryPath | queryTimeout | maxResults | defaultRegion
  deriving DecidableEq

namespace SettingKey

/-- The name in files, and behind the prefix of variables. -/
def name : SettingKey → String
  | .binaryPath => "super_binary_path"
  | .queryTimeout => "query_timeout"
  | .maxResults => "max_results"
  | .defaultRegion => "default_region"

/-- The name of the variable without a prefix. -/
def plainName : SettingKey → String
  | .binaryPath => "SUPER_BINARY_PATH"
  | .queryTimeout => "QUERY_TIMEOUT"
  | .maxResults => "MAX_RESULTS"
  | .defaultRegion => "DEFAULT_AWS_REGION"

/-- The value when nothing is said. -/
def builtIn : SettingKey → SettingValue
  | .binaryPath => .text "/usr/local/bin/super"
  | .queryTimeout => .integer 300
  | .maxResults => .integer 10000
  | .defaultRegion => .text "us-east-1"

/-- What a variable without a prefix says: its name is that of the setting, up to the case of
letters. -/
def PlainTells (key : SettingKey) (name text : String) (v : SettingValue) : Prop :=
  Layer.toLowerAscii name.toList = Layer.toLowerAscii key.plainName.toList ∧ v = .ofVariable text

/-- What a variable with the prefix says: the rest of its name is that of the setting.  With a dot
and more behind it the variable makes a table of the setting. -/
def PrefixedTells (key : SettingKey) (name text : String) (v : SettingValue) : Prop :=
  ∃ rest, Layer.toLowerAscii name.toList = "app_".toList ++ rest ∧
    ((trim rest = key.name.toList ∧ v = .ofVariable text) ∨
      ∃ path, trim rest = key.name.toList ++ '.' :: path ∧ [] ∉ List.splitOn '.' path ∧ v = .other)

end SettingKey

/-- The last variable that says anything says this. -/
def Environment.LastTells (env : Environment) (tells : String → String → SettingValue → Prop)
    (v : SettingValue) : Prop :=
  ∃ before name text after, env.entries = before ++ (name, text) :: after ∧ tells name text v ∧
    ∀ other ∈ after, ∀ w, ¬ tells other.1 other.2 w

/-- A file is there, is well formed and has the setting outside of all tables. -/
def FileTells (files : Layer.Files) (file : String) (key : SettingKey) (v : SettingValue) : Prop :=
  ∃ contents entries, files file = some contents ∧ Toml.settings? contents = some entries ∧
    (key.name, v) ∈ entries

/-- The places where a setting may be said. -/
inductive Source where
  | prefixedVariable | plainVariable | profileFile | baseFile | builtIn
  deriving DecidableEq

/-- The places, the highest first. -/
def Source.all : List Source :=
  [.prefixedVariable, .plainVariable, .profileFile, .baseFile, .builtIn]

/-- What a place says of a setting. -/
def Source.Gives (env : Environment) (files : Layer.Files) (profile : String) (key : SettingKey) :
    Source → SettingValue → Prop
  | .prefixedVariable, v => env.LastTells key.PrefixedTells v
  | .plainVariable, v => env.LastTells key.PlainTells v
  | .profileFile, v => ∃ file, Layer.profileFile? profile = some file ∧ FileTells files file key v
  | .baseFile, v => FileTells files "config.toml" key v
  | .builtIn, v => v = key.builtIn

/-- The value that counts: a place says it, and no higher place says anything. -/
def Chosen (env : Environment) (files : Layer.Files) (profile : String) (key : SettingKey)
    (v : SettingValue) : Prop :=
  ∃ higher source lower, Source.all = higher ++ source :: lower ∧
    source.Gives env files profile key v ∧
    ∀ other ∈ higher, ∀ w, ¬ other.Gives env files profile key w

/-- The files that are read for a profile are well formed, as far as they are there. -/
def FilesWellFormed (files : Layer.Files) (profile : String) : Prop :=
  ∀ file, file = "config.toml" ∨ Layer.profileFile? profile = some file →
    ∀ contents, files file = some contents → (Toml.settings? contents).isSome

/-! ### Values under a name -/

section

variable {α β : Type} {name : String} {v : β}

theorem findSome?_filterMap {γ : Type} (f : α → Option β) (g : β → Option γ) (as : List α) :
    (as.filterMap f).findSome? g = as.findSome? fun a => (f a).bind g := by
  induction as with
  | nil => rfl
  | cons a as ih => cases made : f a <;> simp [made, ih, List.findSome?_cons]

/-- Of the entries made from the elements of a list the last under a name counts. -/
theorem lookup_reverse_filterMap_eq_some_iff {f : α → Option (String × β)} {as : List α} :
    (as.filterMap f).reverse.lookup name = some v ↔
      ∃ before a after, as = before ++ a :: after ∧ f a = some (name, v) ∧
        ∀ b ∈ after, ∀ w, f b ≠ some (name, w) := by
  have here : ∀ a w, ((f a).bind fun p => if (name == p.1) = true then some p.2 else none) = some w ↔
      f a = some (name, w) := fun a w => by
    cases f a with
    | none => simp
    | some p =>
        obtain ⟨other, w'⟩ := p
        simp [eq_comm (a := name)]
  have nowhere : ∀ a, ((f a).bind fun p => if (name == p.1) = true then some p.2 else none) = none ↔
      ∀ w, f a ≠ some (name, w) := fun a => by
    simp only [Option.eq_none_iff_forall_ne_some, ne_eq, here]
  rw [← List.filterMap_reverse, List.lookup_eq_findSome?, findSome?_filterMap,
    List.findSome?_eq_some_iff]
  simp only [here, nowhere]
  constructor
  · rintro ⟨after, a, before, split, told, silent⟩
    refine ⟨before.reverse, a, after.reverse, ?_, told, fun b mem => silent b (by simpa using mem)⟩
    simpa using congrArg List.reverse split
  · rintro ⟨before, a, after, rfl, told, silent⟩
    exact ⟨after.reverse, a, before.reverse, by simp, told, fun b mem =>
      silent b (by simpa using mem)⟩

/-- When names differ, the last entry under a name is the only one. -/
theorem lookup_reverse_eq_some_iff_mem {entries : List (String × β)}
    (distinct : (entries.map Prod.fst).Nodup) :
    entries.reverse.lookup name = some v ↔ (name, v) ∈ entries := by
  rw [List.lookup_eq_some_iff]
  constructor
  · rintro ⟨before, after, split, -⟩
    rw [← List.mem_reverse, split]
    simp
  · intro mem
    obtain ⟨before, after, rfl⟩ := List.append_of_mem mem
    refine ⟨after.reverse, before.reverse, by simp, fun p inside => ?_⟩
    rw [List.map_append, List.map_cons, List.nodup_append, List.nodup_cons] at distinct
    have differ : name ≠ p.1 := fun same =>
      distinct.2.1.1 (List.mem_map.mpr ⟨p, List.mem_reverse.mp inside, same.symm⟩)
    simpa using differ

end

/-! ### What the variables say -/

namespace SettingKey

variable {key : SettingKey} {name text : String} {v : SettingValue}

theorem plainSetting?_eq_some_iff :
    Layer.plainSetting? name = some key.name ↔
      Layer.toLowerAscii name.toList = Layer.toLowerAscii key.plainName.toList := by
  constructor
  · intro found
    obtain ⟨p, found, same⟩ := Option.map_eq_some_iff.mp found
    have spelled : ∀ p ∈ Layer.plainVariables, p.2 = key.name → p.1 = key.plainName := by
      cases key <;> decide
    have lower : Layer.toLowerAscii p.1.toList = Layer.toLowerAscii name.toList := by
      simpa using List.find?_some found
    rw [← lower, spelled p (List.mem_of_find?_eq_some found) same]
  · intro same
    have own : Layer.plainSetting? key.plainName = some key.name := by cases key <;> decide
    rw [← own, Layer.plainSetting?, Layer.plainSetting?, same]

theorem plainEntry_iff :
    (Layer.plainSetting? name).map (·, SettingValue.ofVariable text) = some (key.name, v) ↔
      key.PlainTells name text v := by
  rw [PlainTells, ← plainSetting?_eq_some_iff, Option.map_eq_some_iff]
  constructor
  · rintro ⟨_, found, same⟩
    obtain ⟨rfl, rfl⟩ := Prod.mk.inj same
    exact ⟨found, rfl⟩
  · rintro ⟨found, rfl⟩
    exact ⟨_, found, rfl⟩

theorem dot_not_mem_name (key : SettingKey) : '.' ∉ key.name.toList := by cases key <;> decide

theorem name_ne_nil (key : SettingKey) : key.name.toList ≠ [] := by cases key <;> decide

/-- The entry of a variable with the prefix, from the parts of its name. -/
theorem prefixedEntry?_eq_some_iff :
    Layer.prefixedEntry? name text = some (key.name, v) ↔ key.PrefixedTells name text v := by
  constructor
  · intro made
    obtain ⟨rest, begins, made⟩ := Option.bind_eq_some_iff.mp made
    refine ⟨rest, afterStart?_eq_some_iff.mp begins, ?_⟩
    split at made
    next => cases made
    next part parts split =>
        obtain ⟨filled, made⟩ := Option.ite_none_left_eq_some.mp made
        obtain ⟨named, rfl⟩ := Prod.mk.inj (Option.some.inj made)
        have same : part = key.name.toList := by rw [← named, String.toList_ofList]
        -- the first part is all there is, or a dot stands behind it
        rcases splitOn_eq_cons_iff.mp split with ⟨-, whole, rfl⟩ | ⟨path, whole, -, rfl⟩
        · exact .inl ⟨whole.trans same, rfl⟩
        · obtain ⟨next, others, more⟩ := List.exists_cons_of_ne_nil (List.splitOn_ne_nil '.' path)
          refine .inr ⟨path, by rw [whole, same], fun empty => filled ?_, by simp [more]⟩
          exact List.any_eq_true.mpr ⟨[], List.mem_cons_of_mem part empty, rfl⟩
  · rintro ⟨rest, begins, told⟩
    have behind := afterStart?_eq_some_iff.mpr begins
    rw [Layer.prefixedEntry?, Layer.variablePrefix, behind, Option.bind_some]
    rcases told with ⟨whole, rfl⟩ | ⟨path, whole, filled, rfl⟩
    · rw [whole, List.splitOn_eq_singleton key.dot_not_mem_name]
      simp [key.name_ne_nil]
    · obtain ⟨next, others, more⟩ := List.exists_cons_of_ne_nil (List.splitOn_ne_nil '.' path)
      rw [whole, List.splitOn_append_cons_self_of_not_mem key.dot_not_mem_name, more]
      rw [more] at filled
      have all : ¬ (key.name.toList :: next :: others).any List.isEmpty = true := by
        intro empty
        obtain ⟨part, mem, blank⟩ := List.any_eq_true.mp empty
        obtain rfl := List.isEmpty_iff.mp blank
        rcases List.mem_cons.mp mem with same | mem
        · exact key.name_ne_nil same.symm
        · exact filled mem
      simp only [if_neg all, String.ofList_toList]
      rfl

end SettingKey

/-! ### What the layers say -/

section

variable {env : Environment} {files : Layer.Files} {profile : String} {key : SettingKey}
  {v : SettingValue}

theorem get?_ofPrefixed :
    (Layer.ofPrefixed env).get? key.name = some v ↔ env.LastTells key.PrefixedTells v := by
  rw [Layer.get?, Layer.ofPrefixed, lookup_reverse_filterMap_eq_some_iff]
  simp only [SettingKey.prefixedEntry?_eq_some_iff, ne_eq, Prod.exists]
  rfl

theorem get?_ofPlain :
    (Layer.ofPlain env).get? key.name = some v ↔ env.LastTells key.PlainTells v := by
  rw [Layer.get?, Layer.ofPlain, lookup_reverse_filterMap_eq_some_iff]
  simp only [SettingKey.plainEntry_iff, ne_eq, Prod.exists]
  rfl

theorem get?_ofFile {file : String} {layer : Layer} (read : Layer.ofFile? files file = some layer) :
    layer.get? key.name = some v ↔ FileTells files file key v := by
  unfold Layer.ofFile? at read
  split at read
  next missing =>
      obtain rfl := Option.some.inj read
      simp [Layer.get?, FileTells, missing]
  next contents there =>
      obtain ⟨entries, parsed, rfl⟩ := Option.map_eq_some_iff.mp read
      rw [Layer.get?, lookup_reverse_eq_some_iff_mem (Toml.nodup_keys_of_settings? parsed)]
      constructor
      · intro mem
        exact ⟨contents, entries, there, parsed, mem⟩
      · rintro ⟨contents', entries', there', parsed', mem⟩
        obtain rfl := Option.some.inj (there.symm.trans there')
        obtain rfl := Option.some.inj (parsed.symm.trans parsed')
        exact mem

theorem get?_ofProfile {layer : Layer} (read : Layer.ofProfile? files profile = some layer) :
    layer.get? key.name = some v ↔
      ∃ file, Layer.profileFile? profile = some file ∧ FileTells files file key v := by
  unfold Layer.ofProfile? at read
  split at read
  next none =>
      obtain rfl := Option.some.inj read
      simp [Layer.get?, none]
  next file named =>
      rw [get?_ofFile read, named]
      simp

theorem get?_defaults : Layer.defaults.get? key.name = some v ↔ v = key.builtIn := by
  have value : Layer.defaults.get? key.name = some key.builtIn := by cases key <;> decide
  rw [value, Option.some.injEq, eq_comm]

/-- The layer of a place, when the files have been read. -/
def Source.layer (env : Environment) (profileLayer baseLayer : Layer) : Source → Layer
  | .prefixedVariable => .ofPrefixed env
  | .plainVariable => .ofPlain env
  | .profileFile => profileLayer
  | .baseFile => baseLayer
  | .builtIn => .defaults

/-- **The value that the layers give a setting is the chosen one.** -/
theorem find?_layers_eq_some_iff {profileLayer baseLayer : Layer}
    (base : Layer.ofFile? files Layer.baseFile = some baseLayer)
    (ofProfile : Layer.ofProfile? files profile = some profileLayer) :
    Layer.find? (Source.all.map (Source.layer env profileLayer baseLayer)) key.name = some v ↔
      Chosen env files profile key v := by
  have gives : ∀ source v, (Source.layer env profileLayer baseLayer source).get? key.name = some v ↔
      source.Gives env files profile key v := by
    intro source v
    cases source with
    | prefixedVariable => exact get?_ofPrefixed
    | plainVariable => exact get?_ofPlain
    | profileFile => exact get?_ofProfile ofProfile
    | baseFile => exact get?_ofFile base
    | builtIn => exact get?_defaults
  have silent : ∀ source, (Source.layer env profileLayer baseLayer source).get? key.name = none ↔
      ∀ w, ¬ source.Gives env files profile key w := by
    intro source
    simp only [Option.eq_none_iff_forall_ne_some, ne_eq, gives]
  rw [Layer.find?, List.findSome?_map, List.findSome?_eq_some_iff]
  simp only [Function.comp_apply, gives, silent]
  rfl

/-- When the files that are read are well formed, every place has its layer. -/
theorem exists_layers (env : Environment) (wellFormed : FilesWellFormed files profile) :
    ∃ profileLayer baseLayer, Layer.ofFile? files Layer.baseFile = some baseLayer ∧
      Layer.ofProfile? files profile = some profileLayer ∧
      Layer.all? env files profile = some (Source.all.map (Source.layer env profileLayer baseLayer)) := by
  have read : ∀ file, file = "config.toml" ∨ Layer.profileFile? profile = some file →
      ∃ layer, Layer.ofFile? files file = some layer := by
    intro file isRead
    unfold Layer.ofFile?
    split
    next => exact ⟨_, rfl⟩
    next contents there =>
        obtain ⟨entries, parsed⟩ := Option.isSome_iff_exists.mp (wellFormed file isRead contents there)
        exact ⟨_, by rw [parsed]; rfl⟩
  have ofProfile : ∃ layer, Layer.ofProfile? files profile = some layer := by
    unfold Layer.ofProfile?
    split
    next => exact ⟨_, rfl⟩
    next file named => exact read file (.inr named)
  obtain ⟨baseLayer, base⟩ := read "config.toml" (.inl rfl)
  obtain ⟨profileLayer, ofProfile⟩ := ofProfile
  exact ⟨profileLayer, baseLayer, base, ofProfile, by
    rw [Layer.all?, Layer.baseFile, base, ofProfile]; rfl⟩

/-- **A setting has exactly one chosen value.** -/
theorem existsUnique_chosen (wellFormed : FilesWellFormed files profile) (key : SettingKey) :
    ∃! v, Chosen env files profile key v := by
  obtain ⟨profileLayer, baseLayer, base, ofProfile, -⟩ := exists_layers env wellFormed
  have chosen : ∀ v, _ ↔ Chosen env files profile key v := fun v =>
    find?_layers_eq_some_iff base ofProfile
  have found : (Layer.find? (Source.all.map (Source.layer env profileLayer baseLayer))
      key.name).isSome := by
    rw [Layer.find?, List.findSome?_isSome_iff]
    refine ⟨.defaults, List.mem_map.mpr ⟨.builtIn, by decide, rfl⟩, ?_⟩
    rw [get?_defaults.mpr rfl]
    rfl
  obtain ⟨v, found⟩ := Option.isSome_iff_exists.mp found
  refine ⟨v, (chosen v).mp found, fun w other => ?_⟩
  exact Option.some.inj (((chosen w).mpr other).symm.trans found)

end

/-! ### Environments in which names differ -/

section

variable {env : Environment} {key : SettingKey} {v : SettingValue}

/-- No two variables have the same name up to the case of letters. -/
def Environment.NamesDiffer (env : Environment) : Prop :=
  env.entries.Pairwise fun a b =>
    Layer.toLowerAscii a.1.toList ≠ Layer.toLowerAscii b.1.toList

/-- When at most one variable tells anything, the last is any. -/
theorem Environment.lastTells_iff {tells : String → String → SettingValue → Prop}
    (alone : env.entries.Pairwise fun a b => ∀ v w, tells a.1 a.2 v → ¬ tells b.1 b.2 w) :
    env.LastTells tells v ↔ ∃ name text, (name, text) ∈ env.entries ∧ tells name text v := by
  constructor
  · rintro ⟨before, name, text, after, split, told, -⟩
    exact ⟨name, text, by rw [split]; simp, told⟩
  · rintro ⟨name, text, mem, told⟩
    obtain ⟨before, after, split⟩ := List.append_of_mem mem
    rw [split, List.pairwise_append, List.pairwise_cons] at alone
    exact ⟨before, name, text, after, split, told, fun other inside w =>
      alone.2.1.1 other inside v w told⟩

/-- **The variable without a prefix** gives a setting what it holds. -/
theorem Environment.lastTells_plain_iff (differ : env.NamesDiffer) :
    env.LastTells key.PlainTells v ↔
      ∃ name text, (name, text) ∈ env.entries ∧
        Layer.toLowerAscii name.toList = Layer.toLowerAscii key.plainName.toList ∧
        v = .ofVariable text :=
  lastTells_iff (differ.imp fun other _ _ told told' => other (told.1.trans told'.1.symm))

theorem SettingKey.prefixedTells_iff {name text : String}
    (ordinary : ∀ c ∈ Layer.toLowerAscii name.toList, isBlank c = false ∧ c ≠ '.') :
    key.PrefixedTells name text v ↔
      Layer.toLowerAscii name.toList = "app_".toList ++ key.name.toList ∧ v = .ofVariable text := by
  constructor
  · rintro ⟨rest, begins, told⟩
    rw [begins] at ordinary ⊢
    have trimmed : trim rest = rest :=
      trimWith_of_forall fun c mem => (ordinary c (List.mem_append_right _ mem)).1
    rw [trimmed] at told
    rcases told with ⟨rfl, rfl⟩ | ⟨path, rfl, -⟩
    · exact ⟨rfl, rfl⟩
    · exact absurd rfl (ordinary '.' (by simp)).2
  · rintro ⟨begins, rfl⟩
    rw [begins] at ordinary
    refine ⟨key.name.toList, begins, .inl ⟨?_, rfl⟩⟩
    exact trimWith_of_forall fun c mem => (ordinary c (List.mem_append_right _ mem)).1

/-- **The variable with the prefix** gives a setting what it holds, as long as there are no blanks
and no dots in names. -/
theorem Environment.lastTells_prefixed_iff (differ : env.NamesDiffer)
    (ordinary : ∀ e ∈ env.entries, ∀ c ∈ Layer.toLowerAscii e.1.toList,
      isBlank c = false ∧ c ≠ '.') :
    env.LastTells key.PrefixedTells v ↔
      ∃ name text, (name, text) ∈ env.entries ∧
        Layer.toLowerAscii name.toList = "app_".toList ++ key.name.toList ∧
        v = .ofVariable text := by
  have tells : ∀ e ∈ env.entries, ∀ w, key.PrefixedTells e.1 e.2 w ↔
      Layer.toLowerAscii e.1.toList = "app_".toList ++ key.name.toList ∧ w = .ofVariable e.2 :=
    fun e mem w => SettingKey.prefixedTells_iff (ordinary e mem)
  have alone : env.entries.Pairwise fun a b =>
      ∀ v w, key.PrefixedTells a.1 a.2 v → ¬ key.PrefixedTells b.1 b.2 w := by
    refine List.Pairwise.imp_of_mem (fun {a b} ma mb other v w told told' => ?_) differ
    exact other (((tells a ma v).mp told).1.trans ((tells b mb w).mp told').1.symm)
  rw [lastTells_iff alone]
  constructor
  · rintro ⟨name, text, mem, told⟩
    exact ⟨name, text, mem, (tells _ mem v).mp told⟩
  · rintro ⟨name, text, mem, told⟩
    exact ⟨name, text, mem, (tells _ mem v).mpr told⟩

end

/-! ### Loading -/

theorem SettingValue.text?_eq_some_iff {v : SettingValue} {s : String} :
    v.text? = some s ↔ v = .text s := by
  cases v <;> simp [text?]

theorem SettingValue.natural?_eq_some_iff {v : SettingValue} {n : Nat} :
    v.natural? = some n ↔ v = .integer n ∧ n < wordBound := by
  cases v with
  | text s => simp [natural?]
  | other => simp [natural?]
  | integer i =>
      rw [natural?, Option.ite_none_right_eq_some, Option.some.injEq, SettingValue.integer.injEq]
      omega

namespace Settings

variable {env : Environment} {files : Layer.Files} {profile : String}

theorem ofLayers?_eq_some_iff {layers : List Layer} {s : Settings} :
    ofLayers? layers = some s ↔
      Layer.find? layers SettingKey.binaryPath.name = some (.text s.binaryPath) ∧
      (Layer.find? layers SettingKey.queryTimeout.name = some (.integer s.queryTimeout) ∧
        s.queryTimeout < wordBound) ∧
      (Layer.find? layers SettingKey.maxResults.name = some (.integer s.maxResults) ∧
        s.maxResults < wordBound) ∧
      Layer.find? layers SettingKey.defaultRegion.name = some (.text s.defaultRegion) := by
  simp only [ofLayers?, Option.bind_eq_bind, Option.bind_eq_some_iff,
    SettingValue.text?_eq_some_iff, SettingValue.natural?_eq_some_iff, SettingKey.name]
  constructor
  · rintro ⟨_, path, _, rfl, _, timeout, _, ⟨rfl, small⟩, _, results, _, ⟨rfl, few⟩, _, region, _,
      rfl, same⟩
    obtain rfl := Option.some.inj same
    exact ⟨path, ⟨timeout, small⟩, ⟨results, few⟩, region⟩
  · rintro ⟨path, ⟨timeout, small⟩, ⟨results, few⟩, region⟩
    exact ⟨_, path, _, rfl, _, timeout, _, ⟨rfl, small⟩, _, results, _, ⟨rfl, few⟩, _, region, _,
      rfl, rfl⟩

/-- Settings are not refused when time and results are allowed and the region is not blank. -/
theorem validate_eq_ok_iff {s s' : Settings} :
    s.validate = .ok s' ↔ s' = s ∧ 0 < s.queryTimeout ∧ 0 < s.maxResults ∧
      ∃ c ∈ s.defaultRegion.toList, isBlank c = false := by
  have blank : (trim s.defaultRegion.toList).isEmpty = true ↔
      ∀ c ∈ s.defaultRegion.toList, isBlank c = true := by
    rw [List.isEmpty_iff]
    exact trimWith_eq_nil_iff
  have fine : s.fault? = none ↔ 0 < s.queryTimeout ∧ 0 < s.maxResults ∧
      ∃ c ∈ s.defaultRegion.toList, isBlank c = false := by
    unfold fault?
    split
    next none => simp [none]
    next time =>
        split
        next none => simp [none]
        next results =>
            rw [ite_eq_right_iff, blank]
            simp [Nat.pos_of_ne_zero time, Nat.pos_of_ne_zero results]
  unfold validate
  split
  next fault found =>
      rw [found] at fine
      simp [← fine]
  next found =>
      rw [← fine]
      simp [found, eq_comm]

/-- The settings that a load gives. -/
theorem load_eq_ok_iff {s : Settings} :
    load env files profile = .ok s ↔
      ∃ raw, (Layer.all? env files profile).bind ofLayers? = some raw ∧
        { raw with binaryPath := expandPath env raw.binaryPath }.validate = .ok s := by
  unfold load
  constructor
  · intro loaded
    split at loaded
    next => cases loaded
    next raw read =>
        refine ⟨raw, read, ?_⟩
        split at loaded
        next valid => rw [valid, Except.ok.inj loaded]
        next => cases loaded
  · rintro ⟨raw, read, valid⟩
    simp only [read, valid]

/-- **Settings are loaded from the chosen values.**  When the files that are read are well formed,
each setting has exactly one chosen value, and settings are loaded exactly when each of these has
the kind of its setting and the settings, with the path of the engine expanded, are not refused.
What is loaded allows some time and some results, and has a region. -/
theorem load_eq_ok_iff_chosen (wellFormed : FilesWellFormed files profile) :
    (∀ key, ∃! v, Chosen env files profile key v) ∧
    (∀ s, load env files profile = .ok s ↔
      ∃ path timeout results region,
        Chosen env files profile .binaryPath (.text path) ∧
        (Chosen env files profile .queryTimeout (.integer (timeout : Nat)) ∧ timeout < wordBound) ∧
        (Chosen env files profile .maxResults (.integer (results : Nat)) ∧ results < wordBound) ∧
        Chosen env files profile .defaultRegion (.text region) ∧
        s = ⟨expandPath env path, timeout, results, region⟩ ∧ s.validate = .ok s) ∧
    (∀ s, load env files profile = .ok s →
      0 < s.queryTimeout ∧ 0 < s.maxResults ∧ ∃ c ∈ s.defaultRegion.toList, isBlank c = false) := by
  obtain ⟨profileLayer, baseLayer, base, ofProfile, all⟩ := exists_layers env wellFormed
  refine ⟨existsUnique_chosen wellFormed, fun s => ?_, fun s loaded => ?_⟩
  · rw [load_eq_ok_iff, all, Option.bind_some]
    simp only [ofLayers?_eq_some_iff, find?_layers_eq_some_iff base ofProfile]
    constructor
    · rintro ⟨raw, ⟨path, timeout, results, region⟩, valid⟩
      obtain ⟨rfl, -⟩ := validate_eq_ok_iff.mp valid
      exact ⟨_, _, _, _, path, timeout, results, region, rfl, valid⟩
    · rintro ⟨path, timeout, results, region, hp, ht, hr, hg, rfl, valid⟩
      exact ⟨⟨path, timeout, results, region⟩, ⟨hp, ht, hr, hg⟩, valid⟩
  · obtain ⟨raw, -, valid⟩ := load_eq_ok_iff.mp loaded
    obtain ⟨rfl, allowed⟩ := validate_eq_ok_iff.mp valid
    exact allowed

/-- A file that gives a time of the wrong kind, and one that is not well formed but not read. -/
def misleadingFiles : Layer.Files := fun name =>
  if name = "config.toml" then
    some "max_results = 42\nquery_timeout = [1]\n[table]\nmax_results = 'x'\n"
  else if name = "config.prod.toml" then some "= 1"
  else none

/-- Two variables for the time, of which the lower is no number. -/
def misleadingVariables : Environment :=
  ⟨[("App_Query_Timeout", " 15 "), ("QUERY_TIMEOUT", "never"),
    ("DEFAULT_AWS_REGION", "eu-west-1")]⟩

theorem load_eq_ok_iff_chosen_misleading :
    FilesWellFormed misleadingFiles "testing" ∧
    load misleadingVariables misleadingFiles "testing" =
      .ok ⟨"/usr/local/bin/super", 15, 42, "eu-west-1"⟩ ∧
    Chosen misleadingVariables misleadingFiles "testing" .queryTimeout (.integer 15) := by
  have wellFormed : FilesWellFormed misleadingFiles "testing" := by
    rintro file (rfl | named) contents there
    · obtain rfl := Option.some.inj there
      decide +kernel
    · -- the file of the profile is not there
      have test : Layer.profileFile? "testing" = some "config.test.toml" := by decide
      obtain rfl := Option.some.inj (test.symm.trans named)
      cases there
  have loaded : load misleadingVariables misleadingFiles "testing" =
      .ok ⟨"/usr/local/bin/super", 15, 42, "eu-west-1"⟩ := by
    decide +kernel
  obtain ⟨path, timeout, results, region, -, ⟨chosen, -⟩, -, -, same, -⟩ :=
    ((load_eq_ok_iff_chosen wellFormed).2.1 _).mp loaded
  obtain ⟨-, rfl, -, -⟩ := Settings.mk.inj same
  exact ⟨wellFormed, loaded, chosen⟩

end Settings

end Enquiry

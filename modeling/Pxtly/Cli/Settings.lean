/-
This file gives the settings of the command line and the order of the places that they come from.
-/

import Pxtly.Foundation.JsonTexts
import Pxtly.Foundation.Lines

namespace Pxtly.Cli

open Foundation

section Fields

inductive Setting where
  | apiUrl
  | sseUrl
  | keycloakUrl
  | keycloakRealm
  | keycloakClientId
  | keycloakClientSecret
  | environment
  | httpTimeout
  | httpVerifySsl
  | caBundlePath
  | sseReconnectDelay
  | maxSseEvents
  deriving DecidableEq, Repr

def Setting.all : List Setting :=
  [.apiUrl, .sseUrl, .keycloakUrl, .keycloakRealm, .keycloakClientId, .keycloakClientSecret, .environment, .httpTimeout,
    .httpVerifySsl, .caBundlePath, .sseReconnectDelay, .maxSseEvents]

theorem Setting.mem_all (setting : Setting) : setting ∈ Setting.all := by cases setting <;> decide

def Setting.name : Setting → String
  | .apiUrl => "api_url"
  | .sseUrl => "sse_url"
  | .keycloakUrl => "keycloak_url"
  | .keycloakRealm => "keycloak_realm"
  | .keycloakClientId => "keycloak_client_id"
  | .keycloakClientSecret => "keycloak_client_secret"
  | .environment => "environment"
  | .httpTimeout => "http_timeout"
  | .httpVerifySsl => "http_verify_ssl"
  | .caBundlePath => "ca_bundle_path"
  | .sseReconnectDelay => "sse_reconnect_delay"
  | .maxSseEvents => "max_sse_events"

theorem Setting.name_injective : Function.Injective Setting.name := by
  intro first second same
  cases first <;> cases second <;> first | rfl | exact absurd same (by decide)

/-- The file has no other keys, so no secret is in it. -/
def persistableKeys : List String :=
  ["api_url", "sse_url", "keycloak_url", "keycloak_realm", "keycloak_client_id", "environment", "http_timeout",
    "http_verify_ssl", "ca_bundle_path", "sse_reconnect_delay", "max_sse_events"]

inductive Environment where
  | production
  | staging
  | development
  deriving DecidableEq, Repr

def Environment.text : Environment → String
  | .production => "production"
  | .staging => "staging"
  | .development => "development"

/-- A bound is broken by a value beyond it, so the float that is no number breaks none. -/
def BoundedFloat (low high : Float) : Type := {value : Float // ¬ value < low ∧ ¬ high < value}

def BoundedInt (low high : Int) : Type := {value : Int // low ≤ value ∧ value ≤ high}

def Setting.Value : Setting → Type
  | .apiUrl => String
  | .sseUrl => String
  | .keycloakUrl => String
  | .keycloakRealm => String
  | .keycloakClientId => String
  | .keycloakClientSecret => Option String
  | .environment => Environment
  | .httpTimeout => BoundedFloat 1 300
  | .httpVerifySsl => Bool
  | .caBundlePath => Option String
  | .sseReconnectDelay => BoundedFloat 1 60
  | .maxSseEvents => BoundedInt 10 2000

def Setting.default : (setting : Setting) → setting.Value
  | .apiUrl => "http://10.10.10.150:8000/api/v1"
  | .sseUrl => "http://10.10.10.150:8000/api/v1/events/stream"
  | .keycloakUrl => "https://10.10.10.150:8443"
  | .keycloakRealm => "pxtly"
  | .keycloakClientId => "pxtly-api"
  | .keycloakClientSecret => none
  | .environment => .production
  | .httpTimeout => ⟨30, by decide⟩
  | .httpVerifySsl => true
  | .caBundlePath => none
  | .sseReconnectDelay => ⟨5, by decide⟩
  | .maxSseEvents => ⟨200, by decide⟩

/-- Every setting has a value of its type. -/
def SettingValues : Type := (setting : Setting) → setting.Value

def dumpOptional (value : Option String) : Json := (value.map Json.string).getD .null

/-- This is the value of the setting in `model_dump`. -/
def Setting.dump : (setting : Setting) → setting.Value → Json
  | .apiUrl, value => .string value
  | .sseUrl, value => .string value
  | .keycloakUrl, value => .string value
  | .keycloakRealm, value => .string value
  | .keycloakClientId, value => .string value
  | .keycloakClientSecret, value => dumpOptional value
  | .environment, value => .string value.text
  | .httpTimeout, value => .number value.val
  | .httpVerifySsl, value => .bool value
  | .caBundlePath, value => dumpOptional value
  | .sseReconnectDelay, value => .number value.val
  | .maxSseEvents, value => .integer value.val

end Fields

section Validation

/-- These are the conversions of pydantic, which leave a value of the type itself as it is, and the paths of the system. -/
structure Host where
  lower : String → String
  float : Json → Option Float
  int : Json → Option Int
  bool : Json → Option Bool
  expanduser : String → Option String
  pathExists : String → Option Bool
  resolve : String → String
  float_number : ∀ value, float (.number value) = some value
  int_integer : ∀ value, int (.integer value) = some value
  bool_bool : ∀ value, bool (.bool value) = some value
  expanded : ∀ {text path}, expanduser text = some path → path ≠ "" ∧ expanduser path = some path
  resolved : ∀ {path}, pathExists path = some true → resolve path ≠ "" ∧
    expanduser (resolve path) = some (resolve path) ∧ pathExists (resolve path) = some true ∧
    resolve (resolve path) = resolve path

variable (host : Host)

def checkString : Json → Option String
  | .string text => some text
  | _ => none

def checkOptional : Json → Option (Option String)
  | .null => some none
  | .string text => some (some text)
  | _ => none

/-- A literal matches as it is written. -/
def checkEnvironment : Json → Option Environment
  | .string text => [Environment.production, .staging, .development].find? fun value => value.text = text
  | _ => none

def checkFloat (low high value : Float) : Option (BoundedFloat low high) :=
  if bounded : ¬ value < low ∧ ¬ high < value then some ⟨value, bounded⟩ else none

def checkInt (low high value : Int) : Option (BoundedInt low high) :=
  if bounded : low ≤ value ∧ value ≤ high then some ⟨value, bounded⟩ else none

/-- A path that does not exist is kept, so that only its first use fails. -/
def resolveCaBundle : Option String → Option (Option String)
  | none => some none
  | some text =>
      if text = "" then some none
      else (host.expanduser text).bind fun path =>
        (host.pathExists path).map fun there => some (if there then host.resolve path else path)

/-- Every text but four stands for true. -/
def parseBool : Json → Json
  | .string text => .bool (host.lower (String.ofList (strip text.toList)) ∉ ["false", "0", "no", "off"])
  | raw => raw

def validate : (setting : Setting) → Json → Option setting.Value
  | .apiUrl, raw => checkString raw
  | .sseUrl, raw => checkString raw
  | .keycloakUrl, raw => checkString raw
  | .keycloakRealm, raw => checkString raw
  | .keycloakClientId, raw => checkString raw
  | .keycloakClientSecret, raw => checkOptional raw
  | .environment, raw => checkEnvironment raw
  | .httpTimeout, raw => (host.float raw).bind (checkFloat 1 300)
  | .httpVerifySsl, raw => host.bool (parseBool host raw)
  | .caBundlePath, raw => (checkOptional raw).bind (resolveCaBundle host)
  | .sseReconnectDelay, raw => (host.float raw).bind (checkFloat 1 60)
  | .maxSseEvents, raw => (host.int raw).bind (checkInt 10 2000)

end Validation

section Loading

variable (host : Host) (floats : FloatTexts)

/-- A file that is missing or no JSON has no keys, and a file that is no dictionary is an error. -/
def loadJsonFile : Option (List Char) → Option (List (String × Json))
  | none => some []
  | some content =>
      let text := universalNewlines content
      match loads floats.read text with
      | none => if refusesDigits floats.read {} text then none else some []
      | some (.object raw) => some (raw.filter fun member => member.1 ∈ persistableKeys)
      | some _ => none

/-- Variables match in any case, and of two that match the later one counts. -/
def envText (environ : List (String × String)) (setting : Setting) : Option String :=
  (environ.reverse.find? fun entry => host.lower entry.1 = "pxtly_" ++ setting.name).map Prod.snd

/-- An argument of the constructor comes before a variable, and the default comes last. -/
def source (environ : List (String × String)) (arguments : List (String × Json)) (setting : Setting) : Json :=
  ((dictGet arguments setting.name).or ((envText host environ setting).map .string)).getD (setting.dump setting.default)

def construct (environ : List (String × String)) (arguments : List (String × Json)) : Option SettingValues :=
  if valid : ∀ setting ∈ Setting.all, (validate host setting (source host environ arguments setting)).isSome = true then
    some fun setting => (validate host setting (source host environ arguments setting)).get (valid setting setting.mem_all)
  else none

/-- The file gives the arguments of the constructor. -/
def load (environ : List (String × String)) (file : Option (List Char)) : Option SettingValues :=
  (loadJsonFile floats file).bind (construct host environ)

/-- A value that is missing is not written. -/
def persistedValue (settings : SettingValues) (setting : Setting) : Option Json :=
  if setting.name ∈ persistableKeys then
    match setting.dump (settings setting) with
    | .null => none
    | value => some value
  else none

def persistedMembers (settings : SettingValues) : List (String × Json) :=
  Setting.all.filterMap fun setting => (persistedValue settings setting).map fun value => (setting.name, value)

def persist (settings : SettingValues) : List Char := (dumpsIndented floats (persistedMembers settings)).toList

end Loading

section Documentation

variable (host : Host) (floats : FloatTexts)

/-- A key of the file counts only where it may be in it. -/
def fileValue (file : Option (List Char)) (setting : Setting) : Option Json :=
  match file.bind fun content => loads floats.read (universalNewlines content) with
  | some (.object raw) => if setting.name ∈ persistableKeys then dictGet raw setting.name else none
  | _ => none

/-- This is the order of the documentation: the variable, then the file, then the default. -/
def documentedValue (environ : List (String × String)) (file : Option (List Char)) (setting : Setting) :
    Option setting.Value :=
  match envText host environ setting, fileValue floats file setting with
  | some text, _ => validate host setting (.string text)
  | none, some raw => validate host setting raw
  | none, none => some setting.default

/-- The settings follow the documented order, and they are the same after they are written and loaded again. -/
def AsDocumented (environ : List (String × String)) (file : Option (List Char)) (settings : SettingValues) : Prop :=
  (∀ setting, documentedValue host floats environ file setting = some (settings setting)) ∧
    ∃ again, load host floats environ (some (persist floats settings)) = some again ∧
      ∀ setting : Setting, setting.name ∈ persistableKeys → again setting = settings setting

/-- Wherever both a variable and the file give a setting, they give the same value. -/
def SourcesAgree (environ : List (String × String)) (file : Option (List Char)) : Prop :=
  ∀ setting text raw, envText host environ setting = some text → fileValue floats file setting = some raw →
    validate host setting (.string text) = validate host setting raw

end Documentation

section Sources

variable {host : Host} {floats : FloatTexts} {environ : List (String × String)} {file : Option (List Char)}
variable {settings : SettingValues}

theorem dictGet_filter (keep : String → Bool) (name : String) (members : List (String × Json)) :
    dictGet (members.filter fun member => keep member.1) name = if keep name then dictGet members name else none := by
  induction members with
  | nil => simp [dictGet]
  | cons member rest inductionHypothesis =>
      obtain ⟨key, value⟩ := member
      rw [List.filter_cons]
      by_cases same : key = name
      · subst same
        cases kept : keep key <;> simp [dictGet, inductionHypothesis, kept]
      · cases keep key <;> simp [dictGet, inductionHypothesis, same]

theorem dictGet_loadJsonFile {arguments : List (String × Json)} (loaded : loadJsonFile floats file = some arguments)
    (setting : Setting) : dictGet arguments setting.name = fileValue floats file setting := by
  cases file with
  | none =>
      obtain rfl := Option.some.inj loaded
      rfl
  | some content =>
      simp only [loadJsonFile] at loaded
      simp only [fileValue, Option.bind_some]
      split at loaded
      · next unread =>
          split at loaded
          · cases loaded
          · obtain rfl := Option.some.inj loaded
            rw [unread]
            rfl
      · next raw read =>
          obtain rfl := Option.some.inj loaded
          rw [read]
          simpa using dictGet_filter (fun key => decide (key ∈ persistableKeys)) setting.name raw
      · cases loaded

theorem construct_eq_some {arguments : List (String × Json)} : construct host environ arguments = some settings ↔
    ∀ setting, validate host setting (source host environ arguments setting) = some (settings setting) := by
  unfold construct
  constructor
  · intro constructed setting
    split at constructed
    · next valid =>
        rw [← Option.some.inj constructed]
        exact (Option.some_get _).symm
    · cases constructed
  · intro each
    have valid : ∀ setting ∈ Setting.all, (validate host setting (source host environ arguments setting)).isSome = true :=
      fun setting _ => by rw [each setting]; rfl
    rw [dif_pos valid]
    refine congrArg some (funext fun setting => ?_)
    exact Option.some.inj ((Option.some_get _).trans (each setting))

theorem load_eq_some : load host floats environ file = some settings ↔
    ∃ arguments, loadJsonFile floats file = some arguments ∧
      ∀ setting, validate host setting (source host environ arguments setting) = some (settings setting) := by
  simp only [load, Option.bind_eq_some_iff, construct_eq_some]

end Sources

section Values

variable {host : Host}

theorem checkFloat_eq_some {low high value : Float} {bounded : BoundedFloat low high} :
    checkFloat low high value = some bounded ↔ value = bounded.val := by
  unfold checkFloat
  constructor
  · intro checked
    split at checked
    · rw [← Option.some.inj checked]
    · cases checked
  · rintro rfl
    exact dif_pos bounded.property

theorem checkInt_eq_some {low high value : Int} {bounded : BoundedInt low high} :
    checkInt low high value = some bounded ↔ value = bounded.val := by
  unfold checkInt
  constructor
  · intro checked
    split at checked
    · rw [← Option.some.inj checked]
    · cases checked
  · rintro rfl
    exact dif_pos bounded.property

/-- A path is found at the same place again. -/
theorem resolveCaBundle_again {given value : Option String} (resolved : resolveCaBundle host given = some value) :
    resolveCaBundle host value = some value := by
  cases given with
  | none =>
      obtain rfl := Option.some.inj resolved
      rfl
  | some text =>
      rw [resolveCaBundle] at resolved
      split at resolved
      · obtain rfl := Option.some.inj resolved
        rfl
      · obtain ⟨path, expanded, found⟩ := Option.bind_eq_some_iff.mp resolved
        obtain ⟨there, exists_, rfl⟩ := Option.map_eq_some_iff.mp found
        cases there with
        | false =>
            obtain ⟨nonempty, again⟩ := host.expanded expanded
            simp [resolveCaBundle, nonempty, again, exists_]
        | true =>
            obtain ⟨nonempty, again, still, same⟩ := host.resolved exists_
            simp [resolveCaBundle, nonempty, again, still, same]

theorem checkOptional_dump (value : Option String) : checkOptional (dumpOptional value) = some value := by
  cases value <;> rfl

theorem convert_float {low high : Float} (value : BoundedFloat low high) :
    (host.float (.number value.val)).bind (checkFloat low high) = some value := by
  rw [host.float_number, Option.bind_some, checkFloat_eq_some]

theorem convert_int {low high : Int} (value : BoundedInt low high) :
    (host.int (.integer value.val)).bind (checkInt low high) = some value := by
  rw [host.int_integer, Option.bind_some, checkInt_eq_some]

theorem checkEnvironment_text (stage : Environment) : checkEnvironment (.string stage.text) = some stage := by
  cases stage <;> decide

/-- Only the check of a path changes what it is given. -/
def Settled (host : Host) : (setting : Setting) → setting.Value → Prop
  | .caBundlePath, value => resolveCaBundle host value = some value
  | _, _ => True

theorem validate_dump {setting : Setting} {value : setting.Value} (settled : Settled host setting value) :
    validate host setting (setting.dump value) = some value := by
  cases setting with
  | apiUrl => rfl
  | sseUrl => rfl
  | keycloakUrl => rfl
  | keycloakRealm => rfl
  | keycloakClientId => rfl
  | keycloakClientSecret => exact checkOptional_dump value
  | environment => exact checkEnvironment_text value
  | httpTimeout => exact convert_float value
  | httpVerifySsl => exact host.bool_bool value
  | caBundlePath =>
      have checked : validate host .caBundlePath (dumpOptional value) = (some value).bind (resolveCaBundle host) :=
        congrArg (Option.bind · (resolveCaBundle host)) (checkOptional_dump value)
      exact checked.trans settled
  | sseReconnectDelay => exact convert_float value
  | maxSseEvents => exact convert_int value

theorem validate_default (setting : Setting) : validate host setting (setting.dump setting.default) = some setting.default := by
  apply validate_dump
  cases setting <;> trivial

/-- A value that passed the check of its setting passes it again. -/
theorem validate_again {setting : Setting} {raw : Json} {value : setting.Value}
    (validated : validate host setting raw = some value) : validate host setting (setting.dump value) = some value := by
  apply validate_dump
  cases setting with
  | caBundlePath =>
      obtain ⟨given, _, resolved⟩ := Option.bind_eq_some_iff.mp validated
      exact resolveCaBundle_again resolved
  | _ => trivial

end Values

section Files

variable {floats : FloatTexts} {settings : SettingValues}

theorem written_bounded (value : BoundedInt 10 2000) : (Json.integer value.val).written = true := by
  obtain ⟨value, low, high⟩ := value
  obtain ⟨value, rfl⟩ := Int.eq_ofNat_of_zero_le (show 0 ≤ value by omega)
  have small : value < 10 ^ 4 := by omega
  exact written_integer (by decide) (by decide) small

theorem written_optional (value : Option String) : (dumpOptional value).every Json.written = true := by
  cases value <;> rfl

/-- Only the floats may be no numbers. -/
theorem dump_written_or_number {setting : Setting} (value : setting.Value) :
    (setting.dump value).every Json.written = true ∨ ∃ number, setting.dump value = .number number := by
  cases setting with
  | keycloakClientSecret => exact .inl (written_optional value)
  | httpTimeout => exact .inr ⟨value.val, rfl⟩
  | caBundlePath => exact .inl (written_optional value)
  | sseReconnectDelay => exact .inr ⟨value.val, rfl⟩
  | maxSseEvents => exact .inl (written_bounded value)
  | _ => exact .inl rfl

theorem readsAs_dump (total : floats.Total) {setting : Setting} (value : setting.Value) :
    ReadsAs floats (dumpsSpaced floats (setting.dump value)) (setting.dump value) := by
  rcases dump_written_or_number value with written | ⟨number, dumped⟩
  · exact readsAs_dumpsSpaced _ written
  · rw [dumped]
    exact total.readsAs number

theorem plain_dump (total : floats.Total) {setting : Setting} (value : setting.Value) :
    PrintableText (dumpsSpaced floats (setting.dump value)) := by
  rcases dump_written_or_number value with written | ⟨number, dumped⟩
  · exact plain_dumpsSpaced _ written
  · rw [dumped]
    exact plain_of_word (total.word number)

theorem persistedValue_eq_some {setting : Setting} {raw : Json} (persisted : persistedValue settings setting = some raw) :
    setting.name ∈ persistableKeys ∧ setting.dump (settings setting) = raw := by
  unfold persistedValue at persisted
  split at persisted
  · next persistable =>
      split at persisted
      · cases persisted
      · exact ⟨persistable, Option.some.inj persisted⟩
  · cases persisted

theorem persistedValue_eq_none {setting : Setting} (persistable : setting.name ∈ persistableKeys)
    (missing : persistedValue settings setting = none) : setting.dump (settings setting) = .null := by
  rw [persistedValue, if_pos persistable] at missing
  split at missing
  · assumption
  · cases missing

theorem mem_persistedMembers {member : String × Json} (inside : member ∈ persistedMembers settings) :
    member.1 ∈ persistableKeys ∧ ∃ setting : Setting, member.2 = setting.dump (settings setting) := by
  obtain ⟨setting, _, built⟩ := List.mem_filterMap.mp inside
  obtain ⟨raw, persisted, rfl⟩ := Option.map_eq_some_iff.mp built
  obtain ⟨persistable, dumped⟩ := persistedValue_eq_some persisted
  exact ⟨persistable, setting, dumped.symm⟩

/-- No two settings have the same key. -/
theorem dictGet_persistedMembers (setting : Setting) :
    dictGet (persistedMembers settings) setting.name = persistedValue settings setting := by
  have each (rest : List Setting) : dictGet (rest.filterMap fun setting =>
      (persistedValue settings setting).map fun value => (setting.name, value)) setting.name =
        if setting ∈ rest then persistedValue settings setting else none := by
    induction rest with
    | nil => rfl
    | cons other rest inductionHypothesis =>
        by_cases same : setting = other
        · subst same
          cases persisted : persistedValue settings setting with
          | none => simp [persisted, inductionHypothesis]
          | some value =>
              simp only [List.filterMap_cons, persisted, Option.map_some, dictGet, inductionHypothesis]
              split <;> simp
        · have names : other.name ≠ setting.name := fun equal => same (Setting.name_injective equal).symm
          cases persisted : persistedValue settings other <;>
            simp [persisted, dictGet, inductionHypothesis, same, names]
  exact (each Setting.all).trans (if_pos setting.mem_all)

/-- What is written is loaded as it is. -/
theorem loadJsonFile_persist (total : floats.Total) :
    loadJsonFile floats (some (persist floats settings)) = some (persistedMembers settings) := by
  have reads : ∀ member ∈ persistedMembers settings, ReadsAs floats (dumpsSpaced floats member.2) member.2 := by
    intro member inside
    obtain ⟨_, setting, dumped⟩ := mem_persistedMembers inside
    rw [dumped]
    exact readsAs_dump total _
  have plain : ∀ member ∈ persistedMembers settings, PrintableText (dumpsSpaced floats member.2) := by
    intro member inside
    obtain ⟨_, setting, dumped⟩ := mem_persistedMembers inside
    rw [dumped]
    exact plain_dump total _
  have kept : (persistedMembers settings).filter (fun member => member.1 ∈ persistableKeys) = persistedMembers settings :=
    List.filter_eq_self.mpr fun member inside => decide_eq_true (mem_persistedMembers inside).1
  simp only [loadJsonFile, persist, universalNewlines_of_notMem (return_notMem_dumpsIndented plain),
    loads_dumpsIndented reads, kept]

end Files

section Precedence

variable {host : Host} {floats : FloatTexts} {environ : List (String × String)} {file : Option (List Char)}
variable {settings : SettingValues}

/-- The file comes before the variables, and these come before the default. -/
theorem validate_source (loaded : load host floats environ file = some settings) (setting : Setting) :
    validate host setting (((fileValue floats file setting).or ((envText host environ setting).map .string)).getD
      (setting.dump setting.default)) = some (settings setting) := by
  obtain ⟨arguments, read, each⟩ := load_eq_some.mp loaded
  rw [← dictGet_loadJsonFile read setting]
  exact each setting

theorem validate_fileValue (loaded : load host floats environ file = some settings) {setting : Setting} {raw : Json}
    (given : fileValue floats file setting = some raw) : validate host setting raw = some (settings setting) := by
  simpa [given] using validate_source loaded setting

theorem validate_envText (loaded : load host floats environ file = some settings) {setting : Setting} {text : String}
    (absent : fileValue floats file setting = none) (variable_ : envText host environ setting = some text) :
    validate host setting (.string text) = some (settings setting) := by
  simpa [absent, variable_] using validate_source loaded setting

theorem default_of_absent (loaded : load host floats environ file = some settings) {setting : Setting}
    (absent : fileValue floats file setting = none) (unset : envText host environ setting = none) :
    setting.default = settings setting := by
  have validated := validate_source loaded setting
  simp only [absent, unset, Option.map_none, Option.or_none, Option.getD_none, validate_default] at validated
  exact Option.some.inj validated

theorem fileValue_eq_none {setting : Setting} (secret : setting.name ∉ persistableKeys) :
    fileValue floats file setting = none := by
  unfold fileValue
  split
  · exact if_neg secret
  · rfl

/-- A variable gives a setting its documented value where the file does not disagree with it. -/
theorem documentedValue_iff (loaded : load host floats environ file = some settings) (setting : Setting) :
    documentedValue host floats environ file setting = some (settings setting) ↔
      ∀ text raw, envText host environ setting = some text → fileValue floats file setting = some raw →
        validate host setting (.string text) = validate host setting raw := by
  unfold documentedValue
  cases given : fileValue floats file setting with
  | none =>
      cases set : envText host environ setting with
      | none => simp [default_of_absent loaded given set]
      | some text => simp [validate_envText loaded given set]
  | some raw =>
      have validated := validate_fileValue loaded given
      cases set : envText host environ setting with
      | none => simp [validated]
      | some text => simp [validated]

/-- Only the default of its setting is a value that is missing. -/
theorem default_of_null {setting : Setting} {value : setting.Value} (null : setting.dump value = .null) :
    setting.default = value := by
  have optional {value : Option String} (null : dumpOptional value = .null) : none = value := by
    cases value with
    | none => rfl
    | some text => cases null
  cases setting with
  | keycloakClientSecret => exact optional null
  | caBundlePath => exact optional null
  | _ => cases null

/-- A setting that is not written comes from the same variable or default again. -/
theorem validate_unwritten (loaded : load host floats environ file = some settings)
    (agree : SourcesAgree host floats environ file) {setting : Setting}
    (unwritten : persistedValue settings setting = none) :
    validate host setting (((envText host environ setting).map .string).getD (setting.dump setting.default)) =
      some (settings setting) := by
  cases set : envText host environ setting with
  | some text =>
      have documented := (documentedValue_iff loaded setting).mpr (agree setting)
      simpa [documentedValue, set] using documented
  | none =>
      refine (validate_default setting).trans (congrArg some ?_)
      by_cases persistable : setting.name ∈ persistableKeys
      · exact default_of_null (persistedValue_eq_none persistable unwritten)
      · exact default_of_absent loaded (fileValue_eq_none persistable) set

/-- The settings that are written are loaded again under the same variables. -/
theorem load_persist (total : floats.Total) (loaded : load host floats environ file = some settings)
    (agree : SourcesAgree host floats environ file) :
    load host floats environ (some (persist floats settings)) = some settings := by
  refine load_eq_some.mpr ⟨persistedMembers settings, loadJsonFile_persist total, fun setting => ?_⟩
  rw [source, dictGet_persistedMembers]
  cases persisted : persistedValue settings setting with
  | none =>
      rw [Option.none_or]
      exact validate_unwritten loaded agree persisted
  | some raw =>
      obtain ⟨_, rfl⟩ := persistedValue_eq_some persisted
      exact validate_again (validate_source loaded setting)

/-- The settings are those of the documentation exactly where no variable disagrees with the file. -/
theorem settings_precedence_iff (total : floats.Total) (loaded : load host floats environ file = some settings) :
    AsDocumented host floats environ file settings ↔ SourcesAgree host floats environ file := by
  constructor
  · rintro ⟨documented, _⟩ setting
    exact (documentedValue_iff loaded setting).mp (documented setting)
  · intro agree
    exact ⟨fun setting => (documentedValue_iff loaded setting).mpr (agree setting),
      settings, load_persist total loaded agree, fun _ _ => rfl⟩

end Precedence

section Example

/-- No path of this host begins with a tilde, and none of its files exist. -/
def plainHost : Host where
  lower text := String.ofList (text.toList.map Char.toLower)
  float
    | .number value => some value
    | .integer value => some (Float.ofInt value)
    | _ => none
  int
    | .integer value => some value
    | _ => none
  bool
    | .bool value => some value
    | _ => none
  expanduser text := some (if text = "" then "." else text)
  pathExists _ := some false
  resolve path := path
  float_number _ := rfl
  int_integer _ := rfl
  bool_bool _ := rfl
  expanded := by
    intro text path expanded
    obtain rfl := Option.some.inj expanded
    split
    · exact ⟨by decide, rfl⟩
    · next nonempty => exact ⟨nonempty, rfl⟩
  resolved := nofun

def proxiedEnviron : List (String × String) := [("PXTLY_API_URL", "https://proxy.example")]

def writtenConfig : List (String × Json) :=
  [("api_url", .string "https://backend.example"), ("http_timeout", .number 1), ("sse_reconnect_delay", .number 1)]

def configFile : List Char := (dumpsIndented bitTexts writtenConfig).toList

def writtenSettings : SettingValues
  | .apiUrl => "https://backend.example"
  | .httpTimeout => ⟨1, by decide⟩
  | .sseReconnectDelay => ⟨1, by decide⟩
  | setting => setting.default

theorem loadJsonFile_configFile : loadJsonFile bitTexts (some configFile) = some writtenConfig := by
  have reads : ∀ member ∈ writtenConfig, ReadsAs bitTexts (dumpsSpaced bitTexts member.2) member.2 := by
    simp only [writtenConfig, List.forall_mem_cons]
    exact ⟨readsAs_dumpsSpaced _ rfl, total_bitTexts.readsAs 1, total_bitTexts.readsAs 1, nofun⟩
  have plain : ∀ member ∈ writtenConfig, PrintableText (dumpsSpaced bitTexts member.2) := by
    simp only [writtenConfig, List.forall_mem_cons]
    exact ⟨plain_dumpsText _, plain_of_word (total_bitTexts.word 1), plain_of_word (total_bitTexts.word 1), nofun⟩
  have kept : writtenConfig.filter (fun member => member.1 ∈ persistableKeys) = writtenConfig := by
    simp [writtenConfig, persistableKeys]
  simp only [loadJsonFile, configFile, universalNewlines_of_notMem (return_notMem_dumpsIndented plain),
    loads_dumpsIndented reads, kept]

theorem load_configFile : load plainHost bitTexts proxiedEnviron (some configFile) = some writtenSettings := by
  refine load_eq_some.mpr ⟨writtenConfig, loadJsonFile_configFile, fun setting => ?_⟩
  have given : source plainHost proxiedEnviron writtenConfig setting = setting.dump (writtenSettings setting) := by
    cases setting <;> rfl
  rw [given]
  apply validate_dump
  cases setting <;> trivial

theorem precedence_of_configFile : AsDocumented plainHost bitTexts proxiedEnviron (some configFile) writtenSettings ↔
    SourcesAgree plainHost bitTexts proxiedEnviron (some configFile) :=
  settings_precedence_iff total_bitTexts load_configFile

/-- The variable names the proxy, and the file wins. -/
theorem file_overrides_variable : ∃ settings,
    load plainHost bitTexts proxiedEnviron (some configFile) = some settings ∧
      ¬ AsDocumented plainHost bitTexts proxiedEnviron (some configFile) settings := by
  refine ⟨writtenSettings, load_configFile, fun documented => ?_⟩
  have proxied : documentedValue plainHost bitTexts proxiedEnviron (some configFile) .apiUrl =
      some "https://proxy.example" := rfl
  have values : "https://proxy.example" = "https://backend.example" :=
    Option.some.inj (proxied.symm.trans (documented.1 .apiUrl))
  exact absurd values (by decide)

end Example

end Pxtly.Cli

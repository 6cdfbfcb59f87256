import PromptPress.Environment
import PromptPress.FileTree
import PromptPress.Text.Decoding
import PromptPress.Yaml.Document

/-!
# Settings

The settings of a pipeline come in three layers: what is built in, a configuration file that a variable
names, and variables of their own.  Later layers win.  Each setting is listed once in `Settings.entries`
with its key in files, its variable and how it is written; a layer is a list of raw values, and `overlay`
writes one layer over the settings so far.
-/

namespace PromptPress

open Text

/-- The settings of a pipeline.  A text that a file sets to null is none. -/
structure Settings where
  reportCron : Option String := some "0 9 * * MON"
  retryCron : Option String := some "*/15 * * * *"
  timezone : Option String := some "Asia/Shanghai"
  staleMinutes : Int := 30
  retryBatchSize : Int := 20
  cacheRefreshEnabled : Bool := true
  cacheRefreshRetryLimit : Int := 3
  alertWebhookUrl : Option String := none
  alertWebhookTimeout : Binary64 := .ofInt 5
  logLevel : Option String := some "INFO"
  templateBucket : Option String := some "templates"
deriving Inhabited

/-- Why settings cannot be loaded. -/
inductive SettingsError where
  | fileMissing (path : String)
  | fileIsFolder
  | fileNameTooLong
  | fileUndecodable
  /-- The text of the file is not in the format. -/
  | fileMalformed (path : String)
  /-- A number in the file cannot be read. -/
  | fileNumber (cause : Yaml.ReadError)
  /-- The file is nested too deep to be read. -/
  | fileTooDeep
  | notMapping (path : String)
  | invalidInteger (name : String) (raw : Yaml)
  | invalidNumber (name : String) (raw : Yaml)
  /-- An infinite number where a whole one is wanted. -/
  | infiniteInteger
  /-- An integer that is beyond all floating point numbers. -/
  | integerTooLarge
  /-- An integer that has too many digits to be shown. -/
  | integerTooLong
  | outOfBounds
deriving Inhabited

/-- The message of an error. -/
def SettingsError.message : SettingsError → String
  | fileMissing path => s!"Config file not found at {path}"
  | fileIsFolder => "Config file is a directory"
  | fileNameTooLong => "Config file has too long a name"
  | fileUndecodable => "Config file is not UTF-8"
  | fileMalformed path => s!"Failed to read config file {path}"
  | fileNumber cause => cause.message
  | fileTooDeep => "maximum recursion depth exceeded"
  | notMapping path => s!"Config file {path} must contain a mapping"
  | invalidInteger name raw => s!"Invalid integer for {name}: {raw.quotedText}"
  | invalidNumber name raw => s!"Invalid number for {name}: {raw.quotedText}"
  | infiniteInteger => "cannot convert float infinity to integer"
  | integerTooLarge => "int too large to convert to float"
  | integerTooLong =>
    "Exceeds the limit (4300 digits) for integer string conversion; " ++
      "use sys.set_int_max_str_digits() to increase the limit"
  | outOfBounds =>
    "stale_minutes and cache_refresh_retry_limit must be >= 0, retry_batch_size > 0"

/-- Whether an error says that there is something wrong with the settings.  The others are left over from
whatever loading them broke off at. -/
def SettingsError.isComplaint : SettingsError → Bool
  | fileMissing _ | fileMalformed _ | notMapping _ => true
  | invalidInteger .. | invalidNumber .. | outOfBounds => true
  | fileIsFolder | fileNameTooLong | fileUndecodable | fileNumber _ | fileTooDeep => false
  | infiniteInteger | integerTooLarge | integerTooLong => false

namespace Settings

/-! ### Raw values -/

/-- The text that a raw value stands for. -/
def shownText (raw : Yaml) : Except SettingsError String :=
  if raw.isShowable then .ok raw.plainText else .error .integerTooLong

/-- Refuses a raw value with an error that shows it. -/
def refuse {α : Type} (raw : Yaml) (e : SettingsError) : Except SettingsError α :=
  .error (if raw.isShowable then e else .integerTooLong)

/-- A raw value as a switch. -/
def switchOf : Yaml → Except SettingsError Bool
  | .bool b => .ok b
  | raw => (shownText raw).map isOn

/-- A raw value as an integer; numbers lose their fraction. -/
def integerOf (name : String) (raw : Yaml) : Except SettingsError Int :=
  match raw with
  | .bool b => .ok (if b then 1 else 0)
  | .int n => .ok n
  | .float x =>
    match x.truncate?, x with
    | some n, _ => .ok n
    | none, .undefined => refuse raw (.invalidInteger name raw)
    | none, _ => .error .infiniteInteger
  | .str s => (Number.readInt? s.toList).elim (refuse raw (.invalidInteger name raw)) .ok
  | .null | .seq _ | .map _ => refuse raw (.invalidInteger name raw)

/-- The floating point number next to an integer. -/
def nearest (n : Int) : Except SettingsError Binary64 :=
  let x := Binary64.ofInt n
  if x.isFinite then .ok x else .error .integerTooLarge

/-- A raw value as a floating point number. -/
def numberOf (name : String) (raw : Yaml) : Except SettingsError Binary64 :=
  match raw with
  | .bool b => .ok (.ofInt (if b then 1 else 0))
  | .int n => nearest n
  | .float x => .ok x
  | .str s => (Number.readFloat? s.toList).elim (refuse raw (.invalidNumber name raw)) .ok
  | .null | .seq _ | .map _ => refuse raw (.invalidNumber name raw)

/-- A raw value as a text. -/
def textOf : Yaml → Except SettingsError (Option String)
  | .null => .ok none
  | raw => (shownText raw).map some

/-! ### The single settings -/

/-- How a setting is written. -/
inductive Slot where
  | text (write : Option String → Settings → Settings)
  | integer (write : Int → Settings → Settings)
  | number (write : Binary64 → Settings → Settings)
  | switch (write : Bool → Settings → Settings)

/-- A setting: its key in files, its variable, and how it is written. -/
structure Entry where
  key : String
  variableName : String
  slot : Slot

/-- All settings. -/
def entries : List Entry :=
  [⟨"report_cron", "PIPELINE_REPORT_CRON", .text fun v s => { s with reportCron := v }⟩,
   ⟨"retry_cron", "PIPELINE_RETRY_CRON", .text fun v s => { s with retryCron := v }⟩,
   ⟨"timezone", "PIPELINE_TIMEZONE", .text fun v s => { s with timezone := v }⟩,
   ⟨"stale_minutes", "PIPELINE_STALE_MINUTES", .integer fun v s => { s with staleMinutes := v }⟩,
   ⟨"retry_batch_size", "PIPELINE_RETRY_BATCH_SIZE",
    .integer fun v s => { s with retryBatchSize := v }⟩,
   ⟨"cache_refresh_enabled", "CACHE_REFRESH_ENABLED",
    .switch fun v s => { s with cacheRefreshEnabled := v }⟩,
   ⟨"cache_refresh_retry_limit", "CACHE_REFRESH_RETRY_LIMIT",
    .integer fun v s => { s with cacheRefreshRetryLimit := v }⟩,
   ⟨"alert_webhook_url", "ALERT_WEBHOOK_URL", .text fun v s => { s with alertWebhookUrl := v }⟩,
   ⟨"alert_webhook_timeout_seconds", "ALERT_WEBHOOK_TIMEOUT_SECONDS",
    .number fun v s => { s with alertWebhookTimeout := v }⟩,
   ⟨"log_level", "LOG_LEVEL", .text fun v s => { s with logLevel := v }⟩,
   ⟨"template_bucket", "TEMPLATE_BUCKET", .text fun v s => { s with templateBucket := v }⟩]

/-- Writes a raw value, which was given under a name. -/
def Slot.write (slot : Slot) (name : String) (raw : Yaml) (s : Settings) :
    Except SettingsError Settings :=
  match slot with
  | text put => (textOf raw).map (put · s)
  | integer put => (integerOf name raw).map (put · s)
  | number put => (numberOf name raw).map (put · s)
  | switch put => (switchOf raw).map (put · s)

/-! ### Layers -/

/-- A raw value for a setting, and the name under which it was given. -/
structure RawValue where
  slot : Slot
  name : String
  raw : Yaml

/-- Writes a layer over settings, up to the first value that does not fit. -/
def overlay (base : Settings) (layer : List RawValue) : Except SettingsError Settings :=
  layer.foldlM (fun s value => value.slot.write value.name value.raw s) base

/-- The layer of a file: what stands under the keys of settings, in the order of the file. -/
def fileLayer (mapping : List (Yaml × Yaml)) : List RawValue :=
  mapping.filterMap fun
    | (.str key, raw) => (entries.find? (·.key == key)).map fun entry => ⟨entry.slot, key, raw⟩
    | _ => none

/-- The layer of the variables that are there and not empty, in the order of the settings. -/
def variableLayer (env : Environment) : List RawValue :=
  entries.filterMap fun entry =>
    (env.filled? entry.variableName).map fun text => ⟨entry.slot, entry.variableName, .str text⟩

/-- The bounds that settings have to keep. -/
def isInBounds (s : Settings) : Bool :=
  0 ≤ s.staleMinutes && 0 < s.retryBatchSize && 0 ≤ s.cacheRefreshRetryLimit

/-- Settings of a file, below variables. -/
def ofLayers (mapping : List (Yaml × Yaml)) (env : Environment) : Except SettingsError Settings := do
  let s ← overlay {} (fileLayer mapping)
  let s ← overlay s (variableLayer env)
  if s.isInBounds then return s else throw .outOfBounds

/-! ### The configuration file -/

/-- The variable that names the configuration file. -/
def pathVariable : String := "PIPELINE_CONFIG_PATH"

/-- Why the bytes of a configuration file cannot be read. -/
inductive FormatFault where
  /-- They are not in the format. -/
  | malformed
  /-- They are no text, up to where they are read. -/
  | undecodable
  | number (cause : Yaml.ReadError)
  | tooDeep
deriving DecidableEq, Inhabited

/-- How the bytes of a configuration file are read. -/
abbrev FormatReader := List UInt8 → Except FormatFault Yaml

/-- The fault of a text that cannot be read. -/
def FormatFault.ofText : Yaml.ReadError → FormatFault
  | .malformed => malformed
  | cause => number cause

/-- A reader that decodes all bytes before it reads their text. -/
def FormatReader.ofText (parse : List Char → Except Yaml.ReadError Yaml) : FormatReader := fun bytes =>
  match ofUtf8? bytes with
  | none => .error .undecodable
  | some text => (parse (unifyBreaks text.toList)).mapError .ofText

/-- The error of a file at a path that cannot be read. -/
def FormatFault.toError (path : String) : FormatFault → SettingsError
  | malformed => .fileMalformed path
  | undecodable => .fileUndecodable
  | number cause => .fileNumber cause
  | tooDeep => .fileTooDeep

/-- The mapping that the bytes of a file hold.  An empty value stands for an empty mapping. -/
def mappingOf (parse : FormatReader) (path : String) (bytes : List UInt8) :
    Except SettingsError (List (Yaml × Yaml)) :=
  match parse bytes with
  | .error fault => .error (fault.toError path)
  | .ok (.map mapping) => .ok mapping
  | .ok value => if value.isFilled then .error (.notMapping path) else .ok []

/-- Reads the mapping of a configuration file. -/
def readFile (parse : FormatReader) (read : FileReader) (path : String) :
    Except SettingsError (List (Yaml × Yaml)) :=
  match read path with
  | .error .missing | .error .notFolder => .error (.fileMissing (FileTree.shownPath path))
  | .error .isFolder => .error .fileIsFolder
  | .error .nameTooLong => .error .fileNameTooLong
  | .ok bytes => mappingOf parse (FileTree.shownPath path) bytes

/-- Loads the settings, from a file that is read in some way. -/
def loadWith (parse : FormatReader) (read : FileReader) (env : Environment) :
    Except SettingsError Settings := do
  let mapping ← ((env.filled? pathVariable).map (readFile parse read)).getD (.ok [])
  ofLayers mapping env

/-- Loads the settings. -/
def load : FileReader → Environment → Except SettingsError Settings :=
  loadWith (.ofText Yaml.parse)

theorem isInBounds_iff {s : Settings} :
    s.isInBounds ↔ 0 ≤ s.staleMinutes ∧ 0 < s.retryBatchSize ∧ 0 ≤ s.cacheRefreshRetryLimit := by
  simp [isInBounds, and_assoc]

/-- Settings that load keep their bounds. -/
theorem isInBounds_of_ofLayers {mapping : List (Yaml × Yaml)} {env : Environment} {s : Settings}
    (h : ofLayers mapping env = .ok s) : s.isInBounds = true := by
  simp only [ofLayers, bind, Except.bind] at h
  split at h
  · cases h
  · split at h
    · cases h
    · split at h
      · rename_i hs
        cases h
        exact hs
      · cases h

end Settings

end PromptPress

import CodeMetrics.Decimal.Shortest
import CodeMetrics.Files.IgnoreRule
import CodeMetrics.Files.Volume
import CodeMetrics.Scan.Visitor
import CodeMetrics.Toml.Document

/-! Settings of a project: how to scan it, and which of its files. -/

namespace CodeMetrics

def settingsFileName : String := "codeweave.toml"

structure ScanSettings where
  failFast : Bool := false
  groupByDirectory : Bool := true
  progressSeconds : Nat := 10
  deriving Repr

structure ExcludeSettings where
  paths : List String := []
  /-- Whether only the given paths are left out. -/
  skipDefaults : Bool := false
  deriving Repr

structure Settings where
  scan : ScanSettings := {}
  /-- From which probability on a line of a comment is code. -/
  threshold : Float := defaultThreshold
  exclude : ExcludeSettings := {}
  deriving Repr

inductive SettingsError where
  | unreadable (error : ReadError)
  | malformed
  | thresholdOutOfRange (threshold : Float)
  | noInterval
  deriving Repr

def SettingsError.message? : SettingsError → Option String
  | .unreadable error => some s!"failed to read config: {error.message}"
  | .malformed => none
  | .thresholdOutOfRange threshold =>
    some s!"recognizer.threshold must be within [0, 1], got {Decimal.plain threshold}"
  | .noInterval => some "scan.progress_interval_secs must be at least 1"

def isProbability (x : Float) : Bool :=
  0.0 ≤ x && x ≤ 1.0

def ScanSettings.interval (settings : ScanSettings) : Nat :=
  max settings.progressSeconds 1

namespace ExcludeSettings

def defaults : List String :=
  ["**/vendor/**", "**/node_modules/**", "**/third_party/**", "**/third-party/**",
    "**/bower_components/**", "**/dist/**", "**/target/**", "**/*.min.js", "**/*.bundle.js"]

def patterns (settings : ExcludeSettings) : List String :=
  settings.paths.foldl (fun found path => if found.contains path then found else found ++ [path])
    (if settings.skipDefaults then [] else defaults)

def rules (settings : ExcludeSettings) : Except GlobError (List IgnoreRule) := do
  let rules ← settings.patterns.mapM excludeRule
  return rules.filterMap id

end ExcludeSettings

namespace Settings

open Toml (Item Entries)

/-- How a section gives its fields, by their name or their position. A section that is missing gives
none; one that is an array gives them in order. -/
def section? : Option Item → Option (String → Nat → Option Item)
  | none | some .moment => some fun _ _ => none
  | some (.table _ entries) => some fun name _ => entries.lookup name
  | some (.array items) => some fun _ position => items[position]?
  | some (.tables elements) => some fun _ position => elements[position]?.map (.table .header)
  | some _ => none

def fieldOr (read : Item → Option α) (missing : α) : Option Item → Option α
  | none => some missing
  | some item => read item

def boolean? : Item → Option Bool
  | .boolean value => some value
  | _ => none

def natural? : Item → Option Nat
  | .integer value => if 0 ≤ value then some value.toNat else none
  | _ => none

def number? : Item → Option Float
  | .real value => some value
  | .integer value => some (Float.ofInt value)
  | _ => none

def text? : Item → Option String
  | .text value => some value
  | _ => none

def texts? : Item → Option (List String)
  | .array items => items.mapM text?
  | _ => none

def ofEntries? (entries : Entries) : Option Settings := do
  let fields ← section? (entries.lookup "scan")
  let failFast ← fieldOr boolean? false (fields "fail_fast" 0)
  let groupByDirectory ← fieldOr boolean? true (fields "group_by_directory" 1)
  let progressSeconds ← fieldOr natural? 10 (fields "progress_interval_secs" 2)
  let fields ← section? (entries.lookup "recognizer")
  let threshold ← fieldOr number? defaultThreshold (fields "threshold" 0)
  let fields ← section? (entries.lookup "exclude")
  let paths ← fieldOr texts? [] (fields "paths" 0)
  let skipDefaults ← fieldOr boolean? false (fields "skip_defaults" 1)
  let scan := { failFast, groupByDirectory, progressSeconds }
  return { scan, threshold, exclude := { paths, skipDefaults } }

def validate (settings : Settings) : Except SettingsError Settings :=
  if !isProbability settings.threshold then .error (.thresholdOutOfRange settings.threshold)
  else if settings.scan.progressSeconds = 0 then .error .noInterval
  else .ok settings

def ofText (text : List Char) : Except SettingsError Settings :=
  match (Toml.read? text).bind ofEntries? with
  | some settings => settings.validate
  | none => .error .malformed

def load (volume : Volume) (directory : List String) : Except SettingsError Settings :=
  match volume.readText directory ⟨settingsFileName⟩ with
  | .ok text => ofText text
  | .error error => .error (.unreadable error)

def loadOrDefault (volume : Volume) (directory : List String) : Settings :=
  match load volume directory with
  | .ok settings => settings
  | .error _ => {}

end Settings

end CodeMetrics

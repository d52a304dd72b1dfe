import Throttle.Admission
import Throttle.Yaml.Record

/-!
# Settings

What a service is told when it starts. Every section and every setting may be left out, and unknown ones are passed over.
-/

namespace Throttle

/-- How requests are decided that no bucket decides, and which are not decided at all. -/
structure EngineSettings where
  unmatched : FailMode := .opened
  storeFailure : FailMode := .opened
  closedRetryAfter : UInt64 := 60
  skipPaths : List String := Admission.defaultSkipPaths
  deriving DecidableEq, Repr

structure StoreSettings where
  /-- How many buckets may be kept, if there is a bound. -/
  maxEntries : Option UInt64 := none
  deriving DecidableEq, Repr

structure PolicySettings where
  path : Option String := none
  /-- The seconds after which the policies are read again, or zero if they are not. -/
  reloadInterval : UInt64 := 60
  deriving DecidableEq, Repr

inductive LogFormat where
  | text
  | json
  deriving DecidableEq, Repr

structure LogSettings where
  level : String := "info"
  format : LogFormat := .text
  deriving DecidableEq, Repr

structure Settings where
  engine : EngineSettings := {}
  store : StoreSettings := {}
  policies : PolicySettings := {}
  logging : LogSettings := {}
  deriving DecidableEq, Repr

/-! ## Reading -/

variable {ν : Type} [Source ν]

def EngineSettings.read (v : ν) : Option EngineSettings := do
  let fs ← Source.fields ["unmatched", "store_failure", "closed_retry_after_secs", "skip_paths"] false v
  return {
    unmatched := ← (fs.slot "unmatched").orElse .opened FailMode.read
    storeFailure := ← (fs.slot "store_failure").orElse .opened FailMode.read
    closedRetryAfter := ← (fs.slot "closed_retry_after_secs").orElse 60 Source.uint64
    skipPaths := ← (fs.slot "skip_paths").orElse Admission.defaultSkipPaths (Source.list Source.text) }

def StoreSettings.read (v : ν) : Option StoreSettings := do
  let fs ← Source.fields ["max_entries"] false v
  return { maxEntries := ← (fs.slot "max_entries").orElse none (Source.orNothing Source.uint64) }

def PolicySettings.read (v : ν) : Option PolicySettings := do
  let fs ← Source.fields ["path", "reload_interval_secs"] false v
  return {
    path := ← (fs.slot "path").orElse none (Source.orNothing Source.text)
    reloadInterval := ← (fs.slot "reload_interval_secs").orElse 60 Source.uint64 }

namespace LogFormat

/-- Every format with its written name. -/
def named : List (String × LogFormat) := [("text", text), ("json", json)]

def name : LogFormat → String
  | text => "text"
  | json => "json"

end LogFormat

def LogSettings.read (v : ν) : Option LogSettings := do
  let fs ← Source.fields ["level", "format"] false v
  return {
    level := ← (fs.slot "level").orElse "info" Source.text
    format := ← (fs.slot "format").orElse .text (Source.oneOf LogFormat.named) }

namespace Settings

def read (v : ν) : Option Settings := do
  let fs ← Source.fields ["engine", "store", "policies", "logging"] false v
  return {
    engine := ← (fs.slot "engine").orElse {} EngineSettings.read
    store := ← (fs.slot "store").orElse {} StoreSettings.read
    policies := ← (fs.slot "policies").orElse {} PolicySettings.read
    logging := ← (fs.slot "logging").orElse {} LogSettings.read }

def ofYaml (text : String) : Result Settings :=
  .ofOption (.misconfigured .unreadableSettings) ((Yaml.Document.read? text).bind read)

def toJson (s : Settings) : Json :=
  let whole (n : UInt64) : Json := .whole n.toNat
  .object [
    ("engine", .object [("unmatched", s.engine.unmatched.toJson), ("store_failure", s.engine.storeFailure.toJson),
      ("closed_retry_after_secs", whole s.engine.closedRetryAfter),
      ("skip_paths", .array (s.engine.skipPaths.map .text))]),
    ("store", .object [("max_entries", .ofOption whole s.store.maxEntries)]),
    ("policies", .object [("path", .ofOption .text s.policies.path),
      ("reload_interval_secs", whole s.policies.reloadInterval)]),
    ("logging", .object [("level", .text s.logging.level), ("format", .text s.logging.format.name)])]

end Settings

end Throttle

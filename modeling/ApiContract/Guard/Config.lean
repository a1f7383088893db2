import ApiContract.Guard.Selector
import ApiContract.Node.Yaml
import ApiContract.Store.Basic

/-!
# Configuration of a guard

A configuration is YAML text.  It tells which contracts are loaded, how one is selected,
and the limits of the store and of request bodies.
-/

namespace ApiContract

/-- A contract to load, from a file or from a text. -/
structure ApiSource where
  name : String
  specFile : Option String := none
  specText : Option String := none
  deriving DecidableEq

/-- The bytes of a body that are read where nothing else is configured. -/
def defaultBodyLimit : Nat := 2097152

/-- The configuration of a guard. -/
structure GuardConfig where
  apis : List ApiSource := []
  selector : Selector
  limits : StoreLimits := {}
  bodyLimit : Nat := defaultBodyLimit
  deriving DecidableEq

/-- A way in which configuring a guard fails. -/
inductive ConfigFailure where
  | malformed
  | noSource (api : String)
  | unreadableFile (path : String)
  | notLoaded (api : String) (cause : Failure)
  deriving DecidableEq, Repr

namespace ConfigFailure

/-- The text that reports a failure. -/
def message : ConfigFailure → String
  | .malformed => "failed to parse guard config"
  | .noSource api => "API '" ++ api ++ "' must have either spec_file or spec_text"
  | .unreadableFile path => "failed to read config file: " ++ path
  | .notLoaded api _ => "failed to load API '" ++ api ++ "'"

/-- The failure behind a failure. -/
def cause? : ConfigFailure → Option Failure
  | .notLoaded _ cause => some cause
  | _ => none

end ConfigFailure

/-- Reads the limits of a store. -/
def StoreLimits.ofNode? (limit : Nat) (node : Node) : Option StoreLimits :=
  match limit with
  | 0 => none
  | _ + 1 => do
      let r ← node.record? ["max_apis", "api_expiry_secs", "cleanup_interval_secs"]
      let standard : StoreLimits := {}
      let maxApis ← r.defaulted? "max_apis" standard.maxApis Node.toCount?
      let expirySeconds ←
        r.defaulted? "api_expiry_secs" standard.expirySeconds Node.toCount?
      let cleanupSeconds ←
        r.defaulted? "cleanup_interval_secs" standard.cleanupSeconds Node.toCount?
      return { maxApis, expirySeconds, cleanupSeconds }

/-- The limits of a store as JSON. -/
def StoreLimits.toJson (limits : StoreLimits) : Json :=
  .object [
    ("max_apis", .ofCount limits.maxApis),
    ("api_expiry_secs", .ofCount limits.expirySeconds),
    ("cleanup_interval_secs", .ofCount limits.cleanupSeconds)]

/-- Reads a contract to load. -/
def ApiSource.ofNode? (limit : Nat) (node : Node) : Option ApiSource :=
  match limit with
  | 0 => none
  | _ + 1 => do
      let r ← node.record? ["name", "spec_file", "spec_text"]
      let name ← r.required? "name" Node.text?
      let specFile ← r.optional? "spec_file" Node.text?
      let specText ← r.optional? "spec_text" Node.text?
      return { name, specFile, specText }

/-- A contract to load as JSON. -/
def ApiSource.toJson (source : ApiSource) : Json :=
  .object [
    ("name", .string source.name),
    ("spec_file", .ofText? source.specFile),
    ("spec_text", .ofText? source.specText)]

namespace GuardConfig

/-- Reads a configuration. -/
def ofNode? (limit : Nat) (node : Node) : Option GuardConfig :=
  match limit with
  | 0 => none
  | limit + 1 => do
      let r ← node.record? ["apis", "selector", "cache", "max_body_bytes"]
      let apis ← r.defaulted? "apis" [] (Node.list? ApiSource.ofNode? limit)
      let selector ← r.required? "selector" (Selector.ofNode? limit)
      let limits ← r.defaulted? "cache" {} (StoreLimits.ofNode? limit)
      let bodyLimit ← r.defaulted? "max_body_bytes" defaultBodyLimit Node.toCount?
      return { apis, selector, limits, bodyLimit }

/-- Refuses a contract to load that has neither file nor text. -/
def check (config : GuardConfig) : Except ConfigFailure GuardConfig :=
  match config.apis.find? fun api => api.specFile.isNone && api.specText.isNone with
  | some api => .error (.noSource api.name)
  | none => .ok config

/-- Reads a configuration from a text. -/
def ofYaml (text : List Char) : Except ConfigFailure GuardConfig :=
  match (Node.ofYaml? text).bind (ofNode? Node.yamlDepthLimit) with
  | none => .error .malformed
  | some config => config.check

/-- Reads a configuration from a file, of which `content` is what could be read. -/
def ofFile (path : String) (content : Option (List UInt8)) :
    Except ConfigFailure GuardConfig :=
  match content.bind Utf8.decode? with
  | none => .error (.unreadableFile path)
  | some text => ofYaml text

/-- A configuration as JSON. -/
def toJson (config : GuardConfig) : Json :=
  .object [
    ("apis", .ofList ApiSource.toJson config.apis),
    ("selector", config.selector.toJson),
    ("cache", config.limits.toJson),
    ("max_body_bytes", .ofCount config.bodyLimit)]

end GuardConfig
end ApiContract

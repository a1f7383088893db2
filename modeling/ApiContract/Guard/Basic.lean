import ApiContract.Guard.Config

/-!
# Guards

A guard selects the contract for a request, takes it from its store and judges the
request by it.  Each judgement gives a report, which is written as one line of a log.
-/

namespace ApiContract

/-- What is reported of the judgement of a request. -/
structure Report where
  /-- The name of the contract, if one was selected. -/
  api : Option String
  method : String
  path : String
  verdict : Except Failure Unit

namespace Report

/-- A name and a value between quotes. -/
def quoted (name value : String) : String :=
  " " ++ name ++ "=\"" ++ value ++ "\""

/-- The line of the log.  The duration and the time are given as texts, and `reason` is
why the body could not be read. -/
def logLine (report : Report) (reason duration timestamp : String) : String :=
  let subject := "openapi_validation" ++ quoted "api" (report.api.getD "-") ++
    quoted "method" report.method ++ quoted "path" report.path
  match report.verdict with
  | .ok _ =>
      "INFO " ++ subject ++ " success=true duration_ms=" ++ duration ++ " timestamp=" ++
        timestamp
  | .error failure =>
      "WARN " ++ subject ++ " success=false status=" ++ toString failure.status ++
        " duration_ms=" ++ duration ++ quoted "error" (failure.messageWith reason) ++
        " timestamp=" ++ timestamp

end Report

/-- A store of contracts with the rule that selects among them. -/
structure Guard where
  store : Store
  selector : Selector
  /-- The bytes of a body that are read at most. -/
  bodyLimit : Nat := defaultBodyLimit

namespace Guard

/-- Loads the contract of a source.  A file comes before a text. -/
def loadSource (readFile : String → Option (List UInt8)) (store : Store) (source : ApiSource)
    (now : Instant) : Except ConfigFailure Store :=
  let (result, store) := match source.specFile, source.specText with
    | some path, _ => store.loadFile source.name path (readFile path) now
    | none, some text => store.load source.name (Utf8.encode text.toList) now
    | none, none => (.ok false, store)
  match result with
  | .ok _ => .ok store
  | .error failure => .error (.notLoaded source.name failure)

/-- Loads the contracts of sources, each one at a later instant than the one before: the
instants of the loads ascend strictly, so no two names are equally recent. -/
def loadSources (readFile : String → Option (List UInt8)) (store : Store) (now : Instant) :
    List ApiSource → Except ConfigFailure Store
  | [] => .ok store
  | source :: rest => do
      loadSources readFile (← loadSource readFile store source (now + 1)) (now + 1) rest

/-- The guard of a configuration, with all contracts loaded. -/
def ofConfig (readFile : String → Option (List UInt8)) (config : GuardConfig)
    (now : Instant) : Except ConfigFailure Guard := do
  let config ← config.check
  let store ← loadSources readFile (.empty config.limits now) now config.apis
  return { store, selector := config.selector, bodyLimit := config.bodyLimit }

/-- Judges a request by the contract with a name. -/
def judgeBy (store : Store) (api : String) (request : Request) (hint : Option String)
    (now : Instant) : Except Failure Unit × Store :=
  match store.get api now with
  | (.error failure, store) => (.error failure, store)
  | (.ok handle, store) =>
      (store.visit? handle fun i => i.judge request hint).getD
        (.error (.contractNotFound api), store)

/-- Judges a request, with a route that was chosen before if there is one.  The store is
cleaned up first if it is time to. -/
def judge (guard : Guard) (request : Request) (hint : Option String) (now : Instant) :
    Report × Guard :=
  let store := (guard.store.maybeCleanup now).2
  let api := guard.selector.select request
  let (verdict, store) := match api with
    | none => (.error .noApiSelected, store)
    | some api => judgeBy store api request hint now
  ({ api, method := request.method, path := request.path, verdict }, { guard with store })

end Guard
end ApiContract

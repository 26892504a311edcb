import SyndicateClaw.Inference.MergedEntries

/-! `run_models_dev_catalog_sync`: fetch, parse and merge. -/

namespace SyndicateClaw.Inference

open Orchestrator

/-! ### The fetch -/

/-- An exception of the fetch: `SSRFBlockedError`, `ModelsDevFetchError` or another one. -/
inductive FetchError where
  | ssrfBlocked (message : String)
  | fetchFailed (message : String)
  | other (message : String)

def FetchError.message : FetchError → String
  | .ssrfBlocked message | .fetchFailed message | .other message => message

/-- A response, whose body comes in chunks and may break off with an exception. -/
structure HttpReply where
  status : Int
  location : Option String
  chunks : List (List UInt8)
  breaks : Option String

structure Network where
  resolveSafeUrl : Nat → (url : String) → (allowedHostSuffixes : List String) →
    Except FetchError String
  stream : Nat → (url : String) → Except String HttpReply
  urljoin : String → String → String

/-- `_REDIRECT_STATUS`. -/
def redirectStatus : List Int := [301, 302, 303, 307, 308]

def readBody (maxBytes : Int) (breaks : Option String) :
    Nat → List (List UInt8) → Except FetchError (List UInt8)
  | _, [] =>
      match breaks with
      | none => .ok []
      | some message => .error (.other message)
  | total, chunk :: rest =>
      if maxBytes < total + chunk.length then .error (.fetchFailed "response_exceeds_max_bytes")
      else do return chunk ++ (← readBody maxBytes breaks (total + chunk.length) rest)

/-- `fetch_https_bytes_bounded`, with some redirects left. -/
def fetchHttpsBytesBounded (network : Network) (allowedHostSuffixes : List String) (maxBytes : Int) :
    (left hop : Nat) → (url : String) → Except FetchError (List UInt8)
  | left, hop, current =>
      match network.resolveSafeUrl hop current allowedHostSuffixes with
      | .error (.ssrfBlocked message) => .error (.ssrfBlocked message)
      | .error error => .error (.fetchFailed error.message)
      | .ok scheme =>
          if scheme ≠ "https" then .error (.fetchFailed "only_https_allowed")
          else
            match network.stream hop current with
            | .error message => .error (.other message)
            | .ok reply =>
                if reply.status ∈ redirectStatus then
                  match left with
                  | 0 => .error (.fetchFailed "too_many_redirects")
                  | left + 1 =>
                      match reply.location.filter fun location => location ≠ "" with
                      | none => .error (.fetchFailed "redirect_missing_location")
                      | some location =>
                          fetchHttpsBytesBounded network allowedHostSuffixes maxBytes left (hop + 1)
                            (network.urljoin current location)
                else if reply.status < 200 ∨ 300 ≤ reply.status then
                  .error (.fetchFailed ("http_" ++ toString reply.status))
                else readBody maxBytes reply.breaks 0 reply.chunks

/-! ### Parsing -/

/-- An exception while reading: a `ValueError` or another one, such as a `RecursionError`. -/
inductive ReadError where
  | valueError (message : String)
  | other (message : String)

structure FeedReader where
  decode : List UInt8 → Except String String
  loads : String → Except ReadError Value
  validation : FeedValidation

/-- `[x for x in items if isinstance(x, dict)]`. -/
def dictItems (items : List Value) : List State :=
  items.filterMap fun item =>
    match item with
    | .dict entries => some entries
    | _ => none

/-- `parse_models_dev_json`, of a document. -/
def recordsOf : Value → Except ReadError (List State)
  | .list items => .ok (dictItems items)
  | .dict entries =>
      match Dict.get? entries "models" with
      | some (.list items) => .ok (dictItems items)
      | _ => .error (.valueError "models.dev JSON: expected list or \x7bmodels: [...]\x7d")
  | _ => .error (.valueError "models.dev JSON: expected list or \x7bmodels: [...]\x7d")

/-- `raw.decode("utf-8")`, then `parse_models_dev_json`. -/
def FeedReader.records (reader : FeedReader) (raw : List UInt8) : Except ReadError (List State) :=
  match reader.decode raw with
  | .error message => .error (.valueError message)
  | .ok text =>
      match reader.loads text with
      | .error error => .error error
      | .ok document => recordsOf document

/-! ### The runner -/

inductive SyncEventType where
  | catalogSyncStarted
  | catalogSyncFailed
  | catalogSyncAnomalyAborted
  | catalogSyncCompleted
  deriving DecidableEq

structure SyncEvent where
  eventType : SyncEventType
  actor : String
  resourceType : String := "catalog"
  resourceId : String := "models_dev"
  action : String := "sync"
  traceId : String
  details : State
  deriving DecidableEq

structure SyncWorld where
  network : Network
  reader : FeedReader
  emit : SyncEvent → Except String Unit
  newTraceId : String
  newSnapshot : String

structure SyncArguments (F : Type) where
  feedUrl : String
  allowedHostSuffixes : List String
  maxBytes : Int
  maxRedirects : Int
  system : ProviderSystemConfig F
  actor : String
  traceId : Option String := none

/-- `text[:length]`. -/
def clip (length : Nat) (text : String) : String := String.ofList (text.toList.take length)

section

variable {F : Type}

namespace SyncArguments

variable (args : SyncArguments F) (world : SyncWorld)

/-- `ModelsDevCatalogSync(...)`, as the runner makes it. -/
def syncer : ModelsDevCatalogSync F where
  baseSystem := args.system
  allowed := args.system.providers.map ProviderConfig.id
  yamlRows := args.system.staticCatalog
  yamlWins := args.system.yamlWinsOnKeyCollision

def event (eventType : SyncEventType) (details : State) : SyncEvent where
  eventType
  actor := args.actor
  traceId := (args.traceId.filter fun given => given ≠ "").getD world.newTraceId
  details

def started : SyncEvent :=
  args.event world .catalogSyncStarted [("feed_url", .str (clip 512 args.feedUrl))]

/-- The event of `_emit_failed`. -/
def failed (reason detail : String) : SyncEvent :=
  args.event world .catalogSyncFailed
    [("reason", .str reason), ("detail", .str (clip 2000 detail))]

def anomalous (skipped : Nat) (snapshotVersion : String) : SyncEvent :=
  args.event world .catalogSyncAnomalyAborted
    [("aborted_reason", .str "systemic_anomaly_drop"), ("records_skipped", .int skipped),
     ("snapshot_version", .str snapshotVersion)]

def completed (snapshotVersion : String) (accepted skipped : Nat) : SyncEvent :=
  args.event world .catalogSyncCompleted
    [("snapshot_version", .str snapshotVersion), ("records_accepted", .int accepted),
     ("records_skipped", .int skipped)]

def fetched : Except FetchError (List UInt8) :=
  fetchHttpsBytesBounded world.network args.allowedHostSuffixes args.maxBytes
    args.maxRedirects.toNat 0 args.feedUrl

end SyncArguments

def FetchError.reason : FetchError → String
  | .ssrfBlocked _ => "ssrf_blocked"
  | .fetchFailed _ | .other _ => "fetch_failed"

/-- `_emit_failed`, and the result of a sync that was given up. -/
def giveUp (args : SyncArguments F) (world : SyncWorld) (catalog : ModelCatalog F)
    (reason detail : String) : Except String ModelsDevSyncResult × ModelCatalog F :=
  match world.emit (args.failed world reason detail) with
  | .error message => (.error message, catalog)
  | .ok () =>
      (.ok
        { applied := false, snapshotVersion := catalog.snapshotVersion, recordsAccepted := 0
          recordsSkipped := 0, abortedReason := some reason }, catalog)

variable [Zero F] [DecidableEq F]

def mergeRecords (args : SyncArguments F) (world : SyncWorld) (catalog : ModelCatalog F)
    (records : List State) : Except String ModelsDevSyncResult × ModelCatalog F :=
  let (outcome, _, left) := syncFromParsedRecords world.reader.validation args.syncer catalog
    records world.newSnapshot (some catalog.entryCount)
  match outcome with
  | .error message => (.error message, left)
  | .ok result =>
      if result.applied = false ∧ result.abortedReason = some "systemic_anomaly_drop" then
        match world.emit (args.anomalous world result.recordsSkipped left.snapshotVersion) with
        | .error message => (.error message, left)
        | .ok () => (.ok result, left)
      else if result.applied = true then
        match world.emit (args.completed world result.snapshotVersion result.recordsAccepted
            result.recordsSkipped) with
        | .error message => (.error message, left)
        | .ok () => (.ok result, left)
      else (.ok result, left)

/-- `run_models_dev_catalog_sync`: what it returns or raises, and the catalog that is left. -/
def runModelsDevCatalogSync (args : SyncArguments F) (world : SyncWorld) (catalog : ModelCatalog F) :
    Except String ModelsDevSyncResult × ModelCatalog F :=
  match world.emit (args.started world) with
  | .error message => (.error message, catalog)
  | .ok () =>
      match args.fetched world with
      | .error error => giveUp args world catalog error.reason error.message
      | .ok raw =>
          match world.reader.records raw with
          | .error (.valueError message) => giveUp args world catalog "parse_failed" message
          | .error (.other message) => (.error message, catalog)
          | .ok records => mergeRecords args world catalog records

end

end SyndicateClaw.Inference

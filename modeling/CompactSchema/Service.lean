import CompactSchema.Failure
import CompactSchema.Registry
import CompactSchema.Schema.Json
import CompactSchema.Service.Notice

/-!
Contract: the schema registry of one member of a cluster.

A service registers schemas, alone or in bulk, and answers which ones it has. It
also remembers which ids it has brought to the cluster. A service whose registry
was interrupted in the middle of a call refuses every later call on the
registry.

Owns: the state of a service and the calls on it that need no other member.

Does not own: bringing a schema to the cluster and asking the cluster for one,
see `Service.Publication` and `Service.Resolution`.
-/

set_option autoImplicit false

namespace CompactSchema

structure Service where
  config : Config
  usable : config.fault? = none
  registry : Registry := .empty
  /-- The ids that were brought to the cluster. -/
  replicated : List Int64 := []
  /-- The registry can not be used any more. -/
  interrupted : Bool := false

/-- What a call on a service comes to: its result, the service after it, and
what it reports. -/
structure Effect (α : Type) where
  result : α
  service : Service
  notices : List Notice := []

namespace Service

/-- A service with the given settings, if it can run with them. -/
def create (config : Config) : Except Failure Service :=
  match usable : config.fault? with
  | some fault => .error (.configuration fault)
  | none => .ok { config, usable }

/-- A service with the default settings. -/
def standard : Service := { config := {}, usable := rfl }

/-! ## Looking up -/

/-- The registry, unless it was interrupted. -/
def openRegistry (service : Service) : Except SchemaError Registry :=
  if service.interrupted then .error .registryLocked else .ok service.registry

/-- The schema under an id in the registry of this service. -/
def find (service : Service) (schemaId : Int64) : Except SchemaError (Option Schema) :=
  service.openRegistry.map fun registry => registry.find? schemaId

def ids (service : Service) : Except SchemaError (List Int64) :=
  service.openRegistry.map Registry.ids

def size (service : Service) : Except SchemaError Nat :=
  service.openRegistry.map Registry.size

def isEmpty (service : Service) : Except SchemaError Bool :=
  service.size.map (· == 0)

/-- Whether this service has brought an id to the cluster. -/
def isReplicated (service : Service) (schemaId : Int64) : Bool :=
  service.replicated.contains schemaId

/-- The JSON text of all registered schemas, in ascending order of their ids. -/
def snapshot (service : Service) : Except Failure String :=
  match service.openRegistry with
  | .error error => .error (.schema error)
  | .ok registry => .ok (Json.array (registry.schemas.map Schema.toJson)).text

/-! ## Registering -/

/-- The error for a schema whose id another one has. -/
def conflict (existing incoming : Schema) : SchemaError :=
  .schemaConflict incoming.id existing.text incoming.text

/-- Register a schema with this service alone. -/
def register (schema : Schema) (service : Service) : Effect (Except SchemaError Schema) :=
  match service.openRegistry with
  | .error error => { result := .error error, service }
  | .ok registry =>
    match registry.verdict schema with
    | .fresh =>
      { result := .ok schema
        service := { service with registry := registry.insert schema }
        notices := [.registered schema] }
    | .known existing =>
      { result := .ok existing, service, notices := [.alreadyRegistered existing] }
    | .taken existing =>
      { result := .error (conflict existing schema), service,
        notices := [.idTaken existing schema] }

/-- Register a schema that another member hands over. -/
def accept (schema : Schema) (service : Service) : Effect (Except SchemaError Unit) :=
  let registration := register schema service
  { registration with result := registration.result.map fun _ => () }

/-- Register schemas in turn, up to the first error. -/
def registerAll : List Schema → Service → Effect (Except SchemaError Unit)
  | [], service => { result := .ok (), service }
  | schema :: rest, service =>
    let first := register schema service
    match first.result with
    | .error error => { result := .error error, service := first.service, notices := first.notices }
    | .ok _ =>
      let others := registerAll rest first.service
      { others with notices := first.notices ++ others.notices }

/-- Register the schemas of a JSON list and count them. -/
def registerText (content : String) (service : Service) : Effect (Except Failure Nat) :=
  match Schema.listOfJsonText content with
  | .error error => { result := .error (.serialization error), service }
  | .ok schemas =>
    let all := registerAll schemas service
    { result := (all.result.mapError Failure.schema).map fun _ => schemas.length
      service := all.service
      notices := all.notices }

/-- Register the schemas of a file, given by its path and, if it could be read,
its content. -/
def registerFile (path : String) (content? : Option String) (service : Service) :
    Effect (Except Failure Nat) :=
  match content? with
  | none => { result := .error (.file "file can not be read"), service }
  | some content =>
    let loaded := registerText content service
    match loaded.result with
    | .error _ => loaded
    | .ok count => { loaded with notices := loaded.notices ++ [.loaded count path] }

/-- Remember that an id was brought to the cluster. -/
def markReplicated (schemaId : Int64) (service : Service) : Service :=
  if service.isReplicated schemaId then service
  else { service with replicated := schemaId :: service.replicated }

/-- A registration that is interrupted while it holds the registry; the answer
is whether it came to hold it. -/
def interrupt (service : Service) : Effect Bool :=
  { result := !service.interrupted, service := { service with interrupted := true } }

end Service

end CompactSchema

/-
This file holds sessions on the sample database. Methods are called on implementations that are
constructed directly or found by the session's resolver.
-/

import DataAccess.Sample.Service

namespace DataAccess.Sample

structure Session where
  database : Database
  resolver : Resolver InterfacePath Database Service

/-- What becomes of a request for a method. A request can be meaningless, and an interface can be
without an implementation. -/
inductive Reply where
  | answered (answer : Answer)
  | unresolved (error : ResolutionError InterfacePath)
  | meaningless

namespace Session

/-- A session on a fresh database that has discovered nothing. -/
def start : Session := ⟨.empty, .ofManifests []⟩

/-- The interfaces that can be asked for, by the names that tell them apart. -/
def interfaces : List (String × InterfacePath) :=
  [("EchoDao", .ofBatch "echo_db" "EchoDao"), ("CastDao", .ofBatch "echo_db" "CastDao"),
    ("KvDao", .ofBatch "kv_db" "KvDao"), ("english_db::Hello", .ofBatch "english_db" "Hello"),
    ("french_db::Hello", .ofBatch "french_db" "Hello"), ("Bye", .ofBatch "french_db" "Bye"),
    ("Unregistered", ⟨["Unregistered"]⟩)]

/-- Switches to a fresh database. -/
def reopen (session : Session) : Session :=
  { session with database := .empty }

/-- Replaces the resolver by one over the named batches. -/
def gather (session : Session) (batches : List String) : Session :=
  { session with resolver := .ofManifests (batches.filterMap ServiceManifest.named?) }

/-- Replaces the resolver by one over all batches that are declared. -/
def discover (session : Session) : Session :=
  { session with resolver := .ofManifests ServiceManifest.discovered }

def register? (session : Session) (batch : String) : Option Session :=
  (ServiceManifest.named? batch).map fun manifest =>
    { session with resolver := session.resolver.register manifest }

/-- Calls a method; the arguments are chosen for the types of its parameters. -/
def call (session : Session) (service : Service) (method : String)
    (arguments? : List ValueType → Option (List Bindable)) : Reply × Session :=
  let called := do
    let arguments ← arguments? (← service.parameters? method)
    service.call? method arguments
  match called with
  | some (answer, database) => (.answered answer, { session with database := database })
  | none => (.meaningless, session)

/-- Calls a method of a generated implementation that is constructed without a resolver. -/
def direct (session : Session) (interface method : String)
    (arguments? : List ValueType → Option (List Bindable)) : Reply × Session :=
  let constructed := (interfaces.lookup interface).bind fun path =>
    ServiceManifest.discovered.findSome? fun manifest => manifest.provided? path session.database
  match constructed with
  | some service => session.call service method arguments?
  | none => (.meaningless, session)

/-- Resolves an interface for the session's database and calls a method of what is found. -/
def resolved (session : Session) (interface method : String)
    (arguments? : List ValueType → Option (List Bindable)) : Reply × Session :=
  match interfaces.lookup interface with
  | none => (.meaningless, session)
  | some path =>
      match session.resolver.resolve path session.database with
      | .ok service => session.call service method arguments?
      | .error error => (.unresolved error, session)

end Session

end DataAccess.Sample

import PlanImport.Engine.Explain
import PlanImport.Engine.OfRaw
import PlanImport.Engine.ToJson
import PlanImport.Json.Printer
import PlanImport.Plan.Formats
import PlanImport.Service.Config
import PlanImport.Lowering.Root

/-!
# Requests to the service

The service keeps a catalog, to which tables can be added, and lowers plans in either format
against it. Each plan is lowered on its own, so scans are numbered from zero. How a body that cannot
be decoded is faulted depends on the body and on decoders, which the service is given.
-/

namespace PlanImport.Service

open Engine

/-- The state between requests. -/
structure State where
  catalog : Catalog
  config : Config

/-- The state before the first request. -/
def State.initial (config : Config) : State := ⟨.empty, config⟩

structure Response where
  status : Nat
  body : String
  deriving DecidableEq, Repr

namespace Response

/-- The answer that a request succeeded. -/
def ok (body : Json) : Response := ⟨200, body.render⟩

/-- The answer that a request is wrong. -/
def badRequest (message : String) : Response := ⟨400, message⟩

end Response

/-- A request to add a table. -/
structure Registration where
  schema : Option String
  name : String
  columns : List Column

/-- A request to add a table, from its text. -/
def Registration.ofText? (text : String) : Option Registration :=
  Json.Raw.read? text fun depth v => do
    let [schema, some name, some columns] ← v.fields? ["schema", "name", "columns"] depth | none
    return {
      schema := ← Json.Raw.optional? Json.Raw.text? schema
      name := ← name.text?
      columns := ← (← columns.items? (depth - 1)).mapM (Column.ofRaw? (depth - 2)) }

/-- What the decoders of bodies say of those that they refuse. For the wrong shape of a JSON text
the cause is known, and only its place is left to them. -/
structure Decoders where
  /-- What is wrong with bytes that hold no plan. -/
  bytesFault (body : List UInt8) : String
  /-- What is wrong with a text that is no JSON. -/
  syntaxFault (body : String) : String
  /-- Where a JSON text has the wrong shape. -/
  shapePlace (body : String) : String
  /-- The answer to a text that is no request to add a table. -/
  registrationRefusal (body : String) : Response

/-- What is wrong with a text that holds no plan. -/
def Decoders.textFault (d : Decoders) (body : String) : JsonFault → String
  | .malformed => d.syntaxFault body
  | .shape message => message ++ d.shapePlace body

inductive Request
  /-- Whether the service is there. -/
  | health
  /-- Lower a plan in the binary format. -/
  | planBytes (bytes : List UInt8)
  /-- Lower a plan in JSON. -/
  | planText (text : String)
  /-- Add a table. -/
  | register (registration : Registration)

namespace State

/-- The answer to a plan. -/
def answerPlan (s : State) (p : Plan) : Response :=
  let c := LoweringContext.ofPlan p s.catalog s.config.acquireLock defaultSchema
  match (c.lowerPlan p).run.run 0 with
  | (.ok r, _) =>
    .ok (.object [("relation", r.toJson), ("explain", .string r.explain)])
  | (.error e, _) => .badRequest ("Failed to translate plan: " ++ e.message)

def register (s : State) (r : Registration) : State × Response :=
  if r.name.isEmpty then (s, .badRequest "Table name must not be empty")
  else
    let table : TableInfo := ⟨r.schema.getD defaultSchema, r.name, r.columns⟩
    let catalog := s.catalog.insertTable table
    ({ s with catalog },
      .ok (.object [("table", .string table.text), ("tables", jsonInt catalog.tables.size)]))

/-- Answer a request. -/
def handle (d : Decoders) (s : State) : Request → State × Response
  | .health => (s, .ok (.object [("status", .string "ok")]))
  | .planBytes bytes =>
    match Plan.ofBytes? bytes with
    | some p => (s, s.answerPlan p)
    | none => (s, .badRequest ("Invalid protobuf: " ++ d.bytesFault bytes))
  | .planText text =>
    match Message.ofText .plan text with
    | .ok m => (s, s.answerPlan (.ofMessage m))
    | .error fault => (s, .badRequest ("Invalid plan JSON: " ++ d.textFault text fault))
  | .register r => s.register r

end State

end PlanImport.Service

import PlanImport.Message.Basic
import PlanImport.Plan.Basic

/-!
# Plans from messages

The plan that a message stands for. Members of a oneof are told apart by their number. A message
whose slots are not those of its kind, which no reader produces, counts as one of which nothing is
given.
-/

namespace PlanImport

open Schema

/-- The name of the member of the given number in the first oneof of a message. -/
def Schema.MessageType.memberName (t : MessageType) (number : Nat) : String :=
  let members := t.entries.findSome? fun
    | .oneof members => some members
    | .field _ => none
  ((members.bind fun ms => ms.find? (·.number = number)).map (·.name)).getD ""

namespace Plan

/-! ### Types and literals -/

def DataType.ofMessage : Message → DataType
  | ⟨[.chosenMessage number body]⟩ =>
    match number with
    | 1 => bool
    | 2 => i8
    | 3 => i16
    | 5 => i32
    | 7 => i64
    | 10 => fp32
    | 11 => fp64
    | 12 => string
    | 16 => date
    | 22 => varchar
    | 24 =>
      match body with
      | ⟨[.scalar (.int32 scale), .scalar (.int32 precision)]⟩ => decimal scale precision
      | _ => unset
    | number => other (MessageType.dataType.memberName number)
  | _ => unset

def DaySecond.ofMessage : Message → Option DaySecond
  | ⟨[.scalar (.int32 days), .scalar (.int32 seconds), .scalar (.int64 microseconds), mode,
      .scalar (.int64 subseconds)]⟩ =>
    let precision := match mode with
      | .chosenScalar _ (.int32 p) => some p
      | _ => none
    some { days, seconds, microseconds, precision, subseconds }
  | _ => none

/-- The kind and value of the literal in a slot. -/
def LiteralKind.ofSlot : Slot → LiteralKind
  | .chosenScalar number value =>
    match number, value with
    | 1, .bool b => boolean b
    | 2, .int32 n => i8 n
    | 3, .int32 n => i16 n
    | 5, .int32 n => i32 n
    | 7, .int64 n => i64 n
    | 10, .float bits => fp32 bits
    | 11, .double bits => fp64 bits
    | 12, .string s => string s
    | 16, .int32 days => date days
    | 17, .int64 micros => time micros
    | number, _ => other (MessageType.literal.memberName number)
  | .chosenMessage number body =>
    match number, body with
    | 19, ⟨[.scalar (.int32 years), .scalar (.int32 months)]⟩ => yearMonth years months
    | 20, body => ((DaySecond.ofMessage body).map daySecond).getD unset
    | 24, ⟨[.scalar (.bytes bytes), .scalar (.int32 precision), .scalar (.int32 scale)]⟩ =>
      decimal { bytes, precision, scale }
    | 29, _ => null
    | number, _ => other (MessageType.literal.memberName number)
  | _ => unset

def Literal.ofMessage : Message → Literal
  | ⟨[slot, .scalar (.bool nullable)]⟩ => ⟨.ofSlot slot, nullable⟩
  | _ => ⟨.unset, false⟩

def FieldReference.ofMessage : Message → FieldReference
  | ⟨[.chosenMessage 1 ⟨[.chosenMessage number segment]⟩]⟩ =>
    match number, segment with
    | 1, _ => mapKey
    | 2, ⟨[.scalar (.int32 field), .message child]⟩ => structField field child.isSome
    | 3, _ => listElement
    | _, _ => missingSegment
  | ⟨[.chosenMessage 1 _]⟩ => missingSegment
  | ⟨[.chosenMessage 2 _]⟩ => masked
  | _ => missing

/-! ### Expressions -/

mutual

def Expression.ofMessage : Message → Expression
  | ⟨[.chosenMessage number body]⟩ =>
    match number with
    | 1 => .literal (.ofMessage body)
    | 2 => .selection (.ofMessage body)
    | 3 => callOfMessage body
    | 6 => ifThenOfMessage body
    | 8 => inListOfMessage body
    | 11 => castOfMessage body
    | 13 => nestedOfMessage body
    | number => .other (MessageType.expression.memberName number)
  | _ => .unset

def callOfMessage : Message → Expression
  | ⟨[.scalar (.uint32 anchor), .messages arguments]⟩ =>
    .call anchor (argumentsOfMessages arguments)
  | _ => .unset

def ifThenOfMessage : Message → Expression
  | ⟨[.messages clauses, .message otherwise]⟩ =>
    .ifThen (clausesOfMessages clauses) (expressionOfMessage? otherwise)
  | _ => .unset

def inListOfMessage : Message → Expression
  | ⟨[.message value, .messages options]⟩ =>
    .inList (expressionOfMessage? value) (expressionsOfMessages options)
  | _ => .unset

def castOfMessage : Message → Expression
  | ⟨[.message target, .message input]⟩ =>
    .cast (target.map DataType.ofMessage) (expressionOfMessage? input)
  | _ => .unset

def nestedOfMessage : Message → Expression
  | ⟨[.chosenMessage 3 ⟨[.messages fields]⟩]⟩ => .nestedStruct (expressionsOfMessages fields)
  | ⟨[.chosenMessage 4 ⟨[.messages items]⟩]⟩ => .nestedList (expressionsOfMessages items)
  | ⟨[.chosenMessage 5 ⟨[.messages entries]⟩]⟩ => .nestedMap (entriesOfMessages entries)
  | _ => .nestedUnset

def expressionOfMessage? : Option Message → Option Expression
  | some m => some (.ofMessage m)
  | none => none

def expressionsOfMessages : List Message → List Expression
  | [] => []
  | m :: rest => .ofMessage m :: expressionsOfMessages rest

def Argument.ofMessage : Message → Argument
  | ⟨[.chosenScalar _ (.string name)]⟩ => .option name
  | ⟨[.chosenMessage 2 _]⟩ => .type
  | ⟨[.chosenMessage 3 e]⟩ => .value (.ofMessage e)
  | _ => .unset

def argumentsOfMessages : List Message → List Argument
  | [] => []
  | m :: rest => .ofMessage m :: argumentsOfMessages rest

def Clause.ofMessage : Message → Clause
  | ⟨[.message condition, .message result]⟩ =>
    .mk (expressionOfMessage? condition) (expressionOfMessage? result)
  | _ => .mk none none

def clausesOfMessages : List Message → List Clause
  | [] => []
  | m :: rest => .ofMessage m :: clausesOfMessages rest

def MapEntry.ofMessage : Message → MapEntry
  | ⟨[.message key, .message value]⟩ =>
    .mk (expressionOfMessage? key) (expressionOfMessage? value)
  | _ => .mk none none

def entriesOfMessages : List Message → List MapEntry
  | [] => []
  | m :: rest => .ofMessage m :: entriesOfMessages rest

end

/-! ### Relations -/

/-- The rows of messages with one list of messages each. -/
def rowsOfMessages (read : Message → α) (rows : List Message) : List (List α) :=
  rows.map fun
    | ⟨[.messages fields]⟩ => fields.map read
    | _ => []

def FileItem.ofMessage : Message → FileItem
  | ⟨[path, format]⟩ =>
    { path := match path with
        | .chosenScalar 1 (.string path) => .uriPath path
        | .chosenScalar 3 (.string path) => .uriFile path
        | _ => .other
      isParquet := match format with
        | .chosenMessage 9 _ => true
        | _ => false }
  | _ => ⟨.other, false⟩

/-- The metadata file of the table that a message stands for. -/
def MetadataFile.ofTable : Message → Option MetadataFile
  | ⟨[.chosenMessage _ ⟨[.scalar (.string uri), snapshot]⟩]⟩ =>
    some
      { uri
        snapshot := match snapshot with
          | .chosenScalar 2 (.string text) => some (.id text)
          | .chosenScalar 3 (.int64 micros) => some (.timestamp micros)
          | _ => none }
  | _ => none

/-- What the read in a slot reads. -/
def ReadKind.ofSlot : Slot → ReadKind
  | .chosenMessage 5 ⟨[.messages values, .messages expressions]⟩ =>
    virtualTable (rowsOfMessages Literal.ofMessage values)
      (rowsOfMessages Expression.ofMessage expressions)
  | .chosenMessage 6 ⟨[.messages items]⟩ => localFiles (items.map FileItem.ofMessage)
  | .chosenMessage 7 ⟨[.strings names]⟩ => namedTable names
  | .chosenMessage 8 _ => extensionTable
  | .chosenMessage 9 table => icebergTable (MetadataFile.ofTable table)
  | _ => unset

/-- The columns that a mask keeps. -/
def columnsOfMask : Option Message → List Int32
  | some ⟨[.message (some ⟨[.messages items]⟩), _]⟩ =>
    items.map fun
      | ⟨[.scalar (.int32 field)]⟩ => field
      | _ => 0
  | _ => []

def Read.ofMessage : Message → Read
  | ⟨[.message filter, .message projection, kind]⟩ =>
    { kind := .ofSlot kind
      filter := expressionOfMessage? filter
      projection := columnsOfMask projection }
  | _ => ⟨.unset, none, []⟩

def AggregateFunction.ofMeasure : Message → Option AggregateFunction
  | ⟨[.message (some ⟨[.scalar (.uint32 anchor), .scalar (.enumeration invocation),
      .messages arguments]⟩)]⟩ =>
    some { anchor, invocation, arguments := argumentsOfMessages arguments }
  | _ => none

def SortField.ofMessage : Message → SortField
  | ⟨[.message expr, kind]⟩ =>
    { expr := expressionOfMessage? expr
      kind := match kind with
        | .chosenScalar 2 (.enumeration number) => .direction number
        | .chosenScalar 3 (.uint32 anchor) => .comparisonFunction anchor
        | _ => .unset }
  | _ => ⟨none, .unset⟩

/-- The target of the write in a slot. -/
def WriteTarget.ofSlot : Slot → WriteTarget
  | .chosenMessage 1 ⟨[.strings names]⟩ => namedTable names
  | .chosenMessage 2 _ => extensionTable
  | _ => unset

mutual

def Rel.ofMessage : Message → Rel
  | ⟨[.chosenMessage number body]⟩ =>
    match number with
    | 1 => .read (.ofMessage body)
    | 2 => filterOfMessage body
    | 3 => fetchOfMessage body
    | 4 => aggregateOfMessage body
    | 5 => sortOfMessage body
    | 6 => joinOfMessage body
    | 7 => projectOfMessage body
    | 8 => setOfMessage body
    | 12 => crossOfMessage body
    | 19 => writeOfMessage body
    | number => .other (MessageType.rel.memberName number)
  | _ => .unset

def filterOfMessage : Message → Rel
  | ⟨[.message input, .message condition]⟩ =>
    .filter (relOfMessage? input) (expressionOfMessage? condition)
  | _ => .unset

def fetchOfMessage : Message → Rel
  | ⟨[.message input, .scalar (.int64 offset), .scalar (.int64 count)]⟩ =>
    .fetch (relOfMessage? input) offset count
  | _ => .unset

def aggregateOfMessage : Message → Rel
  | ⟨[.message input, .messages groupings, .messages measures]⟩ =>
    .aggregate (relOfMessage? input) (rowsOfMessages Expression.ofMessage groupings)
      (measures.map AggregateFunction.ofMeasure)
  | _ => .unset

def sortOfMessage : Message → Rel
  | ⟨[.message input, .messages sorts]⟩ =>
    .sort (relOfMessage? input) (sorts.map SortField.ofMessage)
  | _ => .unset

def joinOfMessage : Message → Rel
  | ⟨[.message left, .message right, .message condition, .scalar (.enumeration type)]⟩ =>
    .join (relOfMessage? left) (relOfMessage? right) (expressionOfMessage? condition) type
  | _ => .unset

def projectOfMessage : Message → Rel
  | ⟨[.message input, .messages expressions]⟩ =>
    .project (relOfMessage? input) (expressionsOfMessages expressions)
  | _ => .unset

def setOfMessage : Message → Rel
  | ⟨[.messages inputs, .scalar (.enumeration op)]⟩ => .set (relsOfMessages inputs) op
  | _ => .unset

def crossOfMessage : Message → Rel
  | ⟨[.message left, .message right]⟩ => .cross (relOfMessage? left) (relOfMessage? right)
  | _ => .unset

def writeOfMessage : Message → Rel
  | ⟨[target, .scalar (.enumeration op), .message input]⟩ =>
    .write (.ofSlot target) op (relOfMessage? input)
  | _ => .unset

def relOfMessage? : Option Message → Option Rel
  | some m => some (.ofMessage m)
  | none => none

def relsOfMessages : List Message → List Rel
  | [] => []
  | m :: rest => .ofMessage m :: relsOfMessages rest

end

/-! ### Plans -/

def Root.ofMessage : Message → Root
  | ⟨[.message input, .strings names]⟩ => ⟨relOfMessage? input, names⟩
  | _ => ⟨none, []⟩

def PlanRel.ofMessage : Message → PlanRel
  | ⟨[.chosenMessage 1 m]⟩ => .rel (.ofMessage m)
  | ⟨[.chosenMessage 2 m]⟩ => .root (.ofMessage m)
  | _ => .unset

def Declaration.ofMessage : Message → Declaration
  | ⟨[.chosenMessage 3 ⟨[.scalar (.uint32 uriReference), .scalar (.uint32 anchor),
      .scalar (.string name)]⟩]⟩ => .function uriReference anchor name
  | _ => .other

def ExtensionUri.ofMessage : Message → ExtensionUri
  | ⟨[.scalar (.uint32 anchor), .scalar (.string uri)]⟩ => ⟨anchor, uri⟩
  | _ => ⟨0, ""⟩

def Version.ofMessage : Message → Version
  | ⟨[.scalar (.uint32 major), .scalar (.uint32 minor), .scalar (.uint32 patch),
      .scalar (.string gitHash), .scalar (.string producer)]⟩ =>
    { major, minor, patch, gitHash, producer }
  | _ => ⟨0, 0, 0, "", ""⟩

end Plan

def Plan.ofMessage : Message → Plan
  | ⟨[.messages uris, .messages extensions, .messages relations, .message version]⟩ =>
    { extensionUris := uris.map ExtensionUri.ofMessage
      extensions := extensions.map Declaration.ofMessage
      relations := relations.map PlanRel.ofMessage
      version := version.map Version.ofMessage }
  | _ => ⟨[], [], [], none⟩

end PlanImport

import PlanImport.Keyed
import PlanImport.Lowering.Refusal
import PlanImport.Plan.Basic

/-!
# Declared functions

A plan calls a function by the anchor under which it declares the function's name. A declared
name may go on with a colon and the types of the arguments; what stands in front of the colon names
the function, and some functions have another name in the engine.
-/

namespace PlanImport

/-- The declared names by anchor. -/
abbrev FunctionTable := Keyed UInt32 String

namespace FunctionTable

/-- The functions that are declared, in their order. -/
def ofDeclarations (declarations : List Plan.Declaration) : FunctionTable :=
  declarations.foldl (fun t d =>
    match d with
    | .function _ anchor name => t.insert anchor name
    | .other => t) .empty

def ofPlan (p : Plan) : FunctionTable := ofDeclarations p.extensions

def find (t : FunctionTable) (anchor : UInt32) : Except Refusal String :=
  match t.get? anchor with
  | some name => .ok name
  | none => .error (.undeclared anchor)

end FunctionTable

/-- The part of a declared name in front of the first colon. -/
def plainName (name : String) : String := .ofList (name.toList.takeWhile (· ≠ ':'))

/-- The functions that have another name in the engine. -/
def engineNames : List (String × String) := [
  ("modulus", "mod"), ("std_dev", "stddev"), ("starts_with", "prefix"), ("ends_with", "suffix"),
  ("substring", "substr"), ("char_length", "length"), ("is_nan", "isnan"),
  ("is_finite", "isfinite"), ("is_infinite", "isinf"), ("like", "~~"), ("extract", "date_part"),
  ("bitwise_and", "&"), ("bitwise_or", "|"), ("bitwise_xor", "xor"), ("octet_length", "strlen")]

/-- The name of a declared function in the engine. -/
def engineName (name : String) : String :=
  let plain := plainName name
  (engineNames.lookup plain).getD plain

end PlanImport

import PlanImport.Text.Blank

/-!
# The configuration of the service

Two settings, each with a default for when it is not given or makes no sense.
-/

namespace PlanImport.Service

structure Config where
  /-- The address that requests come to. -/
  bindAddress : String
  /-- Whether the execution of lowered plans takes the lock of the client context. -/
  acquireLock : Bool
  deriving DecidableEq, Repr

/-- The settings when nothing is given. -/
def Config.default : Config := ⟨"0.0.0.0:3000", true⟩

/-- A switch: a word for on or for off in either case of letters, blanks around it aside. -/
def readFlag (text : String) : Option Bool :=
  let word := String.ofList ((Text.trim text.toList).map Char.toLower)
  if word ∈ ["1", "true", "yes", "on"] then some true
  else if word ∈ ["0", "false", "no", "off"] then some false
  else none

/-- The settings that the given texts stand for. -/
def Config.ofTexts (bindAddress acquireLock : Option String) : Config where
  bindAddress := bindAddress.getD default.bindAddress
  acquireLock := (acquireLock.bind readFlag).getD default.acquireLock

end PlanImport.Service

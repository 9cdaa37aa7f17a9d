import ServiceDiscovery.Log.Record
import ServiceDiscovery.Text.Quoted

/-!
Choosing how to log. The level comes from an explicit choice if there is one, then from the wish for
more detail, and last from the configuration. Below the informative level the network library is
held back to that level, because it logs every malformed packet.
-/

namespace ServiceDiscovery.Log

structure Wishes where
  configured : Text.Points
  configuredJson : Bool
  verbose : Bool := false
  explicit : Option String := none
  json : Bool := false

structure Setup where
  level : Level
  networkLevel : Level
  json : Bool
  deriving DecidableEq, Repr

/-- The level that the network library logs at unless it is held back. -/
def networkDefault : Level := Level.warning

/-- The name of the level that is asked for. -/
def Wishes.levelName (wishes : Wishes) : Text.Points :=
  match wishes.explicit.filter (· ≠ "") with
  | some name => .ofString name
  | none => if wishes.verbose then .ofString "debug" else wishes.configured

/-- The message about a level that has no such name. -/
def unknownLevel (name : Text.Points) : String :=
  "Unknown log level: " ++ Text.Quoted.points name

/-- How to log, or the message about a level that does not exist. -/
def Wishes.setup (wishes : Wishes) : Except String Setup :=
  match wishes.levelName.string?.bind Level.ofName? with
  | none => .error (unknownLevel wishes.levelName)
  | some level => .ok {
      level
      networkLevel := if level < Level.info then Level.info else networkDefault
      json := wishes.json || wishes.configuredJson }

end ServiceDiscovery.Log

import ServiceDiscovery.Fault
import ServiceDiscovery.Text.Case
import ServiceDiscovery.Text.Decimal

/-!
Log records: a level, the component that speaks, its message, and the fault that gave rise to it if
there was one. Levels are numbers; the usual ones have names, some of them two.
-/

namespace ServiceDiscovery.Log

abbrev Level := Int

namespace Level

def critical : Level := 50
def error : Level := 40
def warning : Level := 30
def info : Level := 20
def debug : Level := 10
def all : Level := 0

/-- The names under which levels can be asked for. -/
def names : List (String × Level) :=
  [("CRITICAL", critical), ("FATAL", critical), ("ERROR", error), ("WARNING", warning),
    ("WARN", warning), ("INFO", info), ("DEBUG", debug), ("NOTSET", all)]

/-- The level with a name, which may be written in any case. -/
def ofName? (name : String) : Option Level :=
  names.lookup (String.ofList (name.toList.map Text.upperToAscii))

/-- The name of a level that has one. Of two names the first one counts. -/
def title? (level : Level) : Option String :=
  (names.find? fun entry => entry.2 == level).map (·.1)

/-- The name of a level. A level without one is called by its number. -/
def name (level : Level) : String :=
  (title? level).getD ("Level " ++ Text.ofInt level)

end Level

structure Record where
  level : Level
  component : String
  message : Text.Points
  fault : Option Fault
  deriving DecidableEq, Repr

end ServiceDiscovery.Log

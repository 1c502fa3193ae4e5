import ChannelMux.Json.Record

/-!
Log lines, and what a log is tuned by.
-/
namespace ChannelMux

inductive LogLevel where
  | trace
  | debug
  | info
  | warn
  | error
deriving DecidableEq, Repr

namespace LogLevel

def name : LogLevel → String
  | trace => "trace"
  | debug => "debug"
  | info => "info"
  | warn => "warn"
  | error => "error"

def all : List LogLevel := [trace, debug, info, warn, error]

def ofName? (text : String) : Option LogLevel := all.find? (fun level => level.name = text)

/-- The place of a level among all, from the least severe. -/
def severity : LogLevel → Nat
  | trace => 0
  | debug => 1
  | info => 2
  | warn => 3
  | error => 4

end LogLevel

structure LogOptions where
  /-- The least severe level that is written. -/
  level : String
  /-- Where files are kept, if anywhere. -/
  directory : Option String
  /-- What the names of those files begin with. -/
  fileName : String
  /-- One JSON object a line instead of text. -/
  json : Bool
deriving DecidableEq, Repr

namespace LogOptions

def standard : LogOptions := ⟨"info", none, "wsmux", false⟩

/-- A level that is not known counts as the standard one. -/
def admits (options : LogOptions) (level : LogLevel) : Bool :=
  ((LogLevel.ofName? options.level).getD .info).severity ≤ level.severity

end LogOptions

structure LogLine where
  level : LogLevel
  message : String
deriving DecidableEq, Repr

def LogLine.write (line : LogLine) (json : Bool) : String :=
  if json then
    (Json.Value.ofMembers
      [("level", .string line.level.name), ("message", .string line.message)]).write
  else line.level.name ++ " " ++ line.message

end ChannelMux

import ChannelMux.Config.Reading
import ChannelMux.Feed.Plan
import ChannelMux.Logging

/-!
The command that checks a configuration: it plans the feed of each connection and tells what every
feed would subscribe, or why there can be none.
-/
namespace ChannelMux

structure Command where
  /-- The file to be checked. -/
  config : String
  logLevel : String
  /-- Overrides what the configuration says. -/
  logDirectory : Option String
  logJson : Bool
deriving DecidableEq, Repr

namespace Command

def usage : String :=
  "Usage: channel-mux <CONFIG> [-l|--log-level <LEVEL>] [--log-dir <DIR>] [--log-json]"

/-- What was understood of the arguments so far. -/
structure Arguments where
  config : Option String
  logLevel : Option String
  logDirectory : Option String
  logJson : Bool
deriving DecidableEq, Repr

def readArguments (read : Arguments) : List String → Option Arguments
  | [] => some read
  | "--log-json" :: rest => readArguments { read with logJson := true } rest
  | "--log-level" :: level :: rest | "-l" :: level :: rest =>
    readArguments { read with logLevel := some level } rest
  | "--log-dir" :: directory :: rest =>
    readArguments { read with logDirectory := some directory } rest
  | argument :: rest =>
    if argument.startsWith "-" ∨ read.config.isSome then none
    else readArguments { read with config := some argument } rest

/-- Exactly one file has to be named. -/
def ofArguments? (arguments : List String) : Option Command := do
  let read ← readArguments ⟨none, none, none, false⟩ arguments
  some {
    config := ← read.config
    logLevel := read.logLevel.getD LogOptions.standard.level
    logDirectory := read.logDirectory
    logJson := read.logJson }

/-- What the log of a checked configuration is tuned by. -/
def logOptions (command : Command) (config : Config) : LogOptions where
  level := command.logLevel
  directory := command.logDirectory <|> config.logPath
  fileName := config.moduleName.getD "channel-mux"
  json := command.logJson

/-- What is found out about one connection. -/
def reportConnection (index : Nat) (connection : ConnectionConfig) : List LogLine :=
  let name := "connection[" ++ toString index ++ "]: "
  match Feed.Plan.ofConfig connection with
  | .error cause =>
    [⟨.error, name ++ "no feed for '" ++ connection.exchange ++ "': " ++ cause.message⟩]
  | .ok plan =>
    ⟨.info, name ++ "feed '" ++ plan.name ++ "' (exchange=" ++ connection.exchange ++ ") at "
        ++ plan.endpoint.url⟩ ::
      plan.channels.map (fun channel => ⟨.debug, name ++ "channel " ++ channel.key.text⟩)

def report (command : Command) (config : Config) : List LogLine :=
  ⟨.info, "config=" ++ command.config ++ ", " ++ toString config.connections.length
      ++ " connection(s)"⟩ ::
    (config.connections.mapIdx reportConnection).flatten

/-- The lines of a report that the log lets through, as they are written. -/
def lines (command : Command) (config : Config) : List String :=
  ((command.report config).filter (fun line =>
    (command.logOptions config).admits line.level)).map (LogLine.write · command.logJson)

end Command

end ChannelMux

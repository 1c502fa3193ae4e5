import ChannelMux.Command

namespace ChannelMux.Command

/-- Writes the lines to standard output, and to a file as well if the log has a directory. -/
def writeLog (options : LogOptions) (lines : List String) : IO Unit := do
  for line in lines do IO.println line
  if let some directory := options.directory then
    IO.FS.createDirAll directory
    let file ← IO.FS.Handle.mk (directory ++ "/" ++ options.fileName) .append
    for line in lines do file.putStrLn line

def run (command : Command) : IO UInt32 := do
  let content ← (some <$> IO.FS.readBinFile command.config) <|> pure none
  match Config.load command.config content with
  | .error cause =>
    IO.eprintln ("Error: " ++ cause.message)
    return 1
  | .ok config =>
    writeLog (command.logOptions config) (command.lines config)
    return 0

end ChannelMux.Command

def main (arguments : List String) : IO UInt32 := do
  match ChannelMux.Command.ofArguments? arguments with
  | none =>
    IO.eprintln ChannelMux.Command.usage
    return 2
  | some command => command.run

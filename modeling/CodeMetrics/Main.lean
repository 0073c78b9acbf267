import CodeMetrics.Command.Run

/-!
The command line. A scan looks at the files whose paths it is given on the standard input, one on
each line, so that a list of a directory tree, ignore files included, makes up the volume; a
classification reads one file, or the text on the standard input.
-/

namespace CodeMetrics

partial def readToEnd (stream : IO.FS.Stream) (recent : ByteArray) : IO ByteArray := do
  let bytes ← stream.read 65536
  if bytes.isEmpty then return recent else readToEnd stream (recent ++ bytes)

def putFile (current : List String) (volume : Volume) (path : String) : IO Volume := do
  try
    let contents ← IO.FS.readBinFile path
    return volume.put (Volume.placeOf current ⟨path⟩) (.file contents)
  catch _ => return volume

def pathsFor (command : Command) (input : ByteArray) : List String :=
  match command with
  | .scan _ =>
    (Text.lines (((String.fromUTF8? input).getD "").toList)).map String.ofList
  | .classify options => options.file?.toList

def usage : List String :=
  ["usage: codemetrics [--log-level LEVEL] scan [PATH] [-f text|json] [--fail-fast]",
    "         [--threshold NUMBER] [--no-progress] [--top COUNT]",
    "       codemetrics [--log-level LEVEL] classify [FILE] [-l EXTENSION]",
    "         [--threshold NUMBER] [--code-only]"]

def execute (command : Command) : IO UInt32 := do
  let current := Volume.placeOf [] ⟨(← IO.getEnv "PWD").getD "/"⟩
  let needsInput := match command with
    | .scan _ => true
    | .classify options => options.file?.isNone
  let input ← if needsInput then readToEnd (← IO.getStdin) .empty else pure .empty
  let volume ← (pathsFor command input).foldlM (putFile current) (Volume.put {} current .directory)
  let start ← IO.monoNanosNow
  let result ← IO.lazyPure fun _ => command.run volume current input
  let code := result.exitCode
  let stop ← IO.monoNanosNow
  for line in result.printed.display ⟨stop - start⟩ do
    IO.println line
  for line in result.failureLines do
    IO.eprintln line
  return code.toUInt32

end CodeMetrics

def main (arguments : List String) : IO UInt32 := do
  match CodeMetrics.Command.ofArguments? arguments with
  | some command => CodeMetrics.execute command
  | none =>
    for line in CodeMetrics.usage do
      IO.eprintln line
    return 2

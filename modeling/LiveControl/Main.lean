import LiveControl.CommandLine.Run

namespace LiveControl.CommandLine

/-- The content of a file, or why there is none. -/
def readEntry (path : String) : IO (Except FileFault ByteArray) := do
  try
    return .ok (← IO.FS.readBinFile path)
  catch
    | .noFileOrDirectory .. => return .error .notFound
    | .inappropriateType _ code _ => return .error (if code = 21 then .isDirectory else .notDirectory)
    | .invalidArgument .. => return .error .nameTooLong
    | _ => return .error .notFound

/-- The files that may be asked for: those named by a word or behind an equals sign. -/
def namedFiles (words : List String) : IO Files := do
  let paths := words.flatMap fun word => word :: (splitEquals word).2.toList
  let entries ← paths.mapM fun path => return (path, ← readEntry path)
  return ⟨fun path => ((entries.find? fun e => e.1 == path).map Prod.snd).getD (.error .notFound)⟩

/-- The environment variables that options look at. -/
def namedVariables : IO (List (String × Option String)) :=
  (sharedSettings.filterMap Setting.envName).mapM fun name => return (name, ← IO.getEnv name)

end LiveControl.CommandLine

open LiveControl.CommandLine in
def main (args : List String) : IO UInt32 := do
  let found ← namedVariables
  let env (name : String) : Option String := (found.find? fun v => v.1 == name).bind Prod.snd
  let files ← namedFiles (args ++ found.filterMap Prod.snd)
  let outcome := run files env args
  IO.print outcome.stdout
  IO.eprint outcome.stderr
  return UInt32.ofNat outcome.exit

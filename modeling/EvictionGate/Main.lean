import EvictionGate.Startup.Process

/-!
# The command

Reads the environment and the files that it names, and runs the process. Lines of the
log go to standard output, the report of a failure to standard error. A process that
serves is stopped by the name of a signal on a line of standard input.
-/

namespace EvictionGate.Main

open EvictionGate.Startup

/-- The bytes of a file, if it can be read. -/
def readFile (path : String) : IO (Option (List UInt8)) := do
  try
    let bytes ← IO.FS.readBinFile path
    pure (some bytes.toList)
  catch _ => pure none

/-- The variables that are set, of those that are looked at. -/
def readEnvironment : IO Environment := do
  let found ← variableNames.filterMapM fun name => do
    pure ((← IO.getEnv name).map fun value => (name, value))
  pure fun name => found.lookup name

/-- The bytes of some files. -/
def readFiles (paths : List String) : IO (List (String × Option (List UInt8))) :=
  paths.mapM fun path => do pure (path, ← readFile path)

/-- What the process finds. The files that it reads first name others. -/
def readSurroundings : IO Surroundings := do
  let env ← readEnvironment
  let first ← readFiles (firstFiles env)
  let found : Surroundings := ⟨env, fun path => (first.lookup path).join⟩
  let more ← readFiles (connectionFiles found)
  pure ⟨env, fun path => ((first ++ more).lookup path).join⟩

/-- Shows the lines of a log. -/
def printLog (env : Environment) (entries : List Entry) : IO Unit := do
  for line in shown env entries do
    IO.println line.shown

end EvictionGate.Main

open EvictionGate.Main EvictionGate.Startup in
/-- Runs the process. -/
def main : IO UInt32 := do
  let surroundings ← readSurroundings
  let progress := start surroundings
  printLog surroundings.env progress.log
  match progress.outcome with
  | .error fault =>
    for line in fault.report do
      IO.eprintln line
    pure 1
  | .ok _ =>
    let line ← (← IO.getStdin).getLine
    printLog surroundings.env (stopLog [EvictionGate.Text.trim line])
    pure 0

import MolangAssist.CommandLine.Run

/-!
# The command

Gathers what a call may look at, runs it and prints what comes of it.  Everything is decided in
`MolangAssist.CommandLine.run`; here files are read and lines are printed.
-/
namespace MolangAssist.CommandLine

open Files

/-- Copies what stands at a path into a tree. -/
def fetch (cwd : Place) (path : String) (tree : Tree) : IO Tree := do
  let file := (← IO.currentDir) / path
  let place := (Path.ofString path).resolve cwd
  if ← file.isDir then return tree.addDirectory place
  if ← file.pathExists then return tree.addFile place (← IO.FS.readBinFile file)
  return tree

/-- The values of the variables that a settings file refers to. -/
def fetchVariables (tree : Tree) (file : Place) : IO (Table String) := do
  match tree.readText [] file.toString with
  | .error _ => return []
  | .ok text =>
    let mut found : Table String := []
    for fragment in Settings.fragments text do
      if let .variable name := fragment then
        if let some value ← IO.getEnv name then found := found.put name value
    return found

/-- What a call with the given arguments may look at. -/
def survey (arguments : List String) : IO Surroundings := do
  let cwd := (Path.ofString (← IO.currentDir).toString).resolve []
  let mut tree := ({} : Tree).addDirectory cwd
  for n in List.range (cwd.length + 1) do
    tree ← fetch cwd (Place.toString (cwd.take n ++ [settingsFile])) tree
  let root := workspaceRoot tree cwd
  let environment ← fetchVariables tree (root ++ [settingsFile])
  if let .ok report := Settings.load .usual tree cwd environment root.path then
    if let some path := report.settings.schemaPath then
      tree ← fetch cwd path.toString tree
  if let .ok options := Options.ofArguments arguments then
    if let some path := Text.present? options.schema then
      tree ← fetch cwd path tree
  return ⟨.usual, tree, cwd, environment⟩

/-- Runs a call and prints what comes of it. -/
def perform (arguments : List String) : IO UInt32 := do
  match run (← survey arguments) arguments with
  | .error cause =>
    IO.eprintln ("molang-ls: " ++ cause.message)
    return 1
  | .ok outcome =>
    IO.print outcome.stdout
    IO.eprint outcome.stderr
    for transport in outcome.started do
      match transport with
      | .stdio => IO.eprintln "molang-ls: no editor is connected"
      | .tcp host port =>
        let address := host.value?.getD "" ++ ":" ++ (port.value?.map toString).getD ""
        IO.eprintln ("molang-ls: no editor is connected at " ++ address)
    return (outcome.exit.getD 0).toUInt32

end MolangAssist.CommandLine

def main (arguments : List String) : IO UInt32 := MolangAssist.CommandLine.perform arguments

import RoleGraph.Command.Run

/-!
# The command line program

The outer layer of a run: it reads the part of the machine that the run looks at, and afterwards
prints its texts and writes the files that it changed. Everything in between is `Command.run`.
-/

namespace RoleGraph

namespace Machine

/-- Directories nested deeper than this are not read. -/
def depthLimit : Nat := 64

/-- The bytes of a text. -/
def bytesOf (t : Text) : ByteArray := ⟨t.toArray⟩

/-- Read what stands at an absolute path; what cannot be read counts as absent. -/
def readTree : Nat → Text → IO (Option Tree)
  | 0, _ => return none
  | fuel + 1, path => do
    let file := (← IO.currentDir) / Text.toString path
    try
      if ← file.isDir then
        let entries ← file.readDir
        let children ← entries.toList.filterMapM fun entry => do
          let name := Text.ofString entry.fileName
          let child ← readTree fuel (Location.join path name)
          return child.map (name, ·)
        return some (.directory children)
      else if (← file.metadata).type == .file then
        return some (.file (← IO.FS.readBinFile file).toList)
      else return none
    catch _ => return none

/-- Add what stands at a place of the machine to a tree. -/
def addPlace (t : Tree) (place : List Text) : IO Tree := do
  match ← readTree depthLimit (Site.pathAt place) with
  | some found => return t.put place found
  | none => return t

/-- The places that the arguments may name, also as the value of a flag. -/
def namedPlaces (cwd : Text) (args : List Text) : List (List Text) :=
  let paths := args.flatMap fun a =>
    match Text.cut? 0x3D a with
    | some (_, value) => [a, value]
    | none => [a]
  paths.map fun p => Location.segments (Location.absolute cwd (Location.path p))

/-- The places above another that tell where a project starts. -/
def markerPlaces (place : List Text) : List (List Text) :=
  (Project.ancestors place).flatMap fun p =>
    [p ++ [Text.ofString "ansible.cfg"], p ++ [Project.rolesName], p ++ Project.gitConfig]

/-- The pairs of names and values in an environment. -/
def environmentOf (content : Text) : List (Text × Text) :=
  (Text.splitAt 0 content).filterMap (Text.cut? 0x3D)

/-- The environment of the process. -/
def environment : IO (List (Text × Text)) := do
  try return environmentOf (← IO.FS.readBinFile "/proc/self/environ").toList
  catch _ =>
    match ← IO.getEnv (Text.toString Settings.levelVariable) with
    | some level => return [(Settings.levelVariable, Text.ofString level)]
    | none => return []

/-- The part of the machine that a run with given arguments looks at. -/
def siteFor (args : List Text) : IO Site := do
  let cwd := Text.ofString (← IO.currentDir).toString
  let here := Location.segments cwd
  let named := here :: namedPlaces cwd args
  let tree ← (named ++ named.flatMap markerPlaces).foldlM addPlace Tree.empty
  let site : Site := { tree := tree, cwd := cwd, env := ← environment }
  match Command.parse args with
  | .options o =>
    match Settings.load site ((Settings.locate site o.config).getD []) with
    | .ok loaded =>
      let settings := o.overlay loaded
      let tree ← (namedPlaces cwd [settings.rolesDir, settings.outputPath]).foldlM addPlace tree
      return { site with tree := tree }
    | .error _ => return site
  | _ => return site

/-- Write the files that differ between two trees. -/
def writeChanges (old new : Tree) : IO Unit := do
  let before := old.files
  for (place, content) in new.files do
    if before.lookup place != some content then
      IO.FS.createDirAll (Text.toString (Site.pathAt place.dropLast))
      IO.FS.writeBinFile (Text.toString (Site.pathAt place)) (bytesOf content)

/-- Print a text on the standard output; when that fails, the result is an output that takes nothing. -/
def printed (t : Text) : IO (Output Text) := do
  try
    let stdout ← IO.getStdout
    stdout.write (bytesOf t)
    stdout.flush
    return .unlimited
  catch e => return .closed (Text.ofString e.toString)

/-- Run the program: the log and the failure go to the standard error, and the result is the exit
code. -/
def run (args : List Text) : IO UInt32 := do
  let site ← siteFor args
  let outcome := Command.run site args
  writeChanges site.tree outcome.site.tree
  let stderr ← IO.getStderr
  for line in outcome.logs do
    stderr.write (bytesOf (line ++ [0x0A]))
  -- The files and the log are the same on every output, so the run is only judged again.
  let judged := Command.runOn (← printed outcome.stdout) site args
  match judged.failure with
  | some f => stderr.write (bytesOf (f.message id ++ [0x0A]))
  | none => pure ()
  return judged.code.toUInt32

end Machine

end RoleGraph

/-- Run the program with the arguments of the command line. -/
def main (args : List String) : IO UInt32 := RoleGraph.Machine.run (args.map RoleGraph.Text.ofString)

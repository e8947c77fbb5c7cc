import ClassSpacing.Command.Run
import ClassSpacing.Grammar.Reading

/-!
# The program

The part of the file system that a command line speaks of is read into a workspace, the command is
run on it, and the files that it has changed are written back.
-/

namespace ClassSpacing.Main

open Command

/-- The absolute path of a location. -/
def pathOf (loc : Location) : String :=
  "/" ++ "/".intercalate (loc.map (·.shown))

/-- The workspace with one more directory. -/
def withDirectory (ws : Workspace) (loc : Location) : Workspace :=
  { ws with directories := loc :: ws.directories }

/-- Reads a file into a workspace, once. Of files that are neither sources nor configurations, only
    their existence matters. -/
def addFile (ws : Workspace) (loc : Location) (isConfig : Bool) : IO Workspace := do
  if (ws.content? loc).isSome then
    return ws
  else if isConfig || (Dialect.ofPath? ⟨pathOf loc⟩).isSome then
    return ws.put loc (← IO.FS.readBinFile (pathOf loc)).toList
  else
    return ws.put loc []

/-- The place of a location in the file system. -/
def placeOf (loc : Location) := do
  return (← IO.currentDir).join ⟨pathOf loc⟩

/-- Reads a file, or a directory with what is below it, into a workspace. -/
partial def addTree (ws : Workspace) (loc : Location) : IO Workspace := do
  let place ← placeOf loc
  match (← place.metadata).type with
  | .file => addFile ws loc false
  | .dir =>
    let mut ws := withDirectory ws loc
    for entry in ← place.readDir do
      unless Workspace.isSkippedName entry.fileName && (← entry.path.isDir) do
        let name : RawText := entry.fileName
        ws ← addTree ws (loc ++ [name])
    return ws
  | _ => return ws

/-- Reads what a path leads to into a workspace, and the directories on the way. -/
def addPath (ws : Workspace) (path : Path) (isConfig : Bool) : IO Workspace := do
  let mut ws := ws
  let mut loc := ws.startOf path
  for word in Workspace.wordsOf path do
    loc := Workspace.move loc word
    if ← (← placeOf loc).isDir then
      ws := withDirectory ws loc
  let place ← placeOf loc
  if ← place.isDir then
    if isConfig then return ws else addTree ws loc
  else if ← place.pathExists then
    addFile ws loc isConfig
  else
    return ws

/-- The paths where a configuration may be found from a directory upwards. -/
def configCandidates (start : Path) : List Path :=
  start.ancestors.flatMap fun directory =>
    Workspace.configNames.map fun name => directory.join ⟨name⟩

/-- Reads the part of the file system that a selection speaks of. -/
def load (current : Location) (s : Selection) : IO Workspace := do
  let mut ws : Workspace := { current, directories := [current] }
  for path in s.config?.toList ++ configCandidates ws.currentPath do
    ws ← addPath ws path true
  for path in s.paths do
    ws ← addPath ws path false
  return ws

/-- Whether reports are painted: as the environment says, or else if they go to a terminal. -/
def palette : IO Report.Palette := do
  let force := (← IO.getEnv "CLICOLOR_FORCE").any (· != "0")
  let never := (← IO.getEnv "NO_COLOR").isSome || (← IO.getEnv "CLICOLOR") == some "0"
  if force || (!never && (← (← IO.getStdout).isTty)) then return .ansi else return .plain

/-- Says what a run has said. -/
def say (messages : List Message) : IO Unit := do
  for message in messages do
    match message with
    | .result text => IO.print text
    | .failure text => IO.eprint text
    | .log _ => pure ()

/-- Writes the files of a workspace that differ from those of another. -/
def writeBack (before after : Workspace) : IO Unit := do
  for (loc, bytes) in after.files do
    if before.content? loc != some bytes then
      IO.FS.writeBinFile (pathOf loc) ⟨bytes.toArray⟩

end ClassSpacing.Main

open ClassSpacing ClassSpacing.Main in
/-- Runs the program. -/
def main (arguments : List String) : IO UInt32 := do
  let directory ← IO.currentDir
  let current := ((directory.toString.splitOn "/").filter (· != "")).map RawText.ofString
  let ws ← match Command.readArguments arguments with
    | .ok invocation => load current invocation.selection
    | .error _ => pure { current }
  let ending := Command.run (← palette) Grammar.read arguments ws
  writeBack ws ending.workspace
  say ending.messages
  return UInt32.ofNat ending.code

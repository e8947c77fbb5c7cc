import ClassSpacing.Dialect
import ClassSpacing.Workspace.Basic

/-!
# Files to look at

Paths are expanded to the source files at or below them. Directories of installed packages and
hidden directories below a path are left out; one that is named itself is not. The result is in the
order of the paths' components, and of paths with the same components the first one is kept. There
is none if a path leads nowhere, or to a directory that cannot be walked through.
-/

namespace ClassSpacing

namespace Workspace

/-- Whether a directory is left out. One whose name is not UTF-8 never is. -/
def isSkippedName (name : RawText) : Bool :=
  name.text?.any fun s => s == "node_modules" || s.toList.head? == some '.'

/-- Those of some locations that are below another one, each by the names that lead to it from
    there. -/
def namesBelow (loc : Location) (locations : List Location) : List Location :=
  locations.filterMap fun l =>
    if loc.isPrefixOf l && loc != l then some (l.drop loc.length) else none

/-- The path that some names lead to from another. -/
def descend (p : Path) (names : List RawText) : Path :=
  names.foldl (fun p name => p.join ⟨name⟩) p

/-- The source files below the directory that a path leads to. -/
def sourcesBelow (ws : Workspace) (p : Path) : List Path :=
  match ws.locate p with
  | .error _ => []
  | .ok loc =>
    let files := namesBelow loc (ws.files.map (·.1))
    let kept := files.filter fun names => !names.dropLast.any isSkippedName
    (kept.map (descend p)).filter fun file => (Dialect.ofPath? file).isSome

/-- The source files that one path stands for. -/
def expand (ws : Workspace) (p : Path) : List Path :=
  if ws.isFile p then
    if (Dialect.ofPath? p).isSome then [p] else []
  else
    ws.sourcesBelow p

/-- Whether a path leads to a file that is not a source file. -/
def isForeign (ws : Workspace) (p : Path) : Bool :=
  ws.isFile p && (Dialect.ofPath? p).isNone

/-! ## What cannot be collected -/

/-- Why the source files that a path stands for cannot be collected. -/
inductive CollectFault where
  /-- The path leads nowhere. -/
  | missing (p : Path)
  /-- A directory below the path cannot be listed, because the path of that is too long. -/
  | unlisted (p directory : Path)
deriving Repr, DecidableEq

/-- The words for a failure. -/
def CollectFault.message : CollectFault → String
  | missing p => s!"No such file or directory: {p.text}"
  | unlisted p _ => s!"failed to walk {p.text}"

/-- The words for what is behind a failure, from the nearest cause on. -/
def CollectFault.causes : CollectFault → List String
  | missing _ => []
  | unlisted _ directory =>
    let cause := "File name too long (os error 36)"
    [s!"IO error for operation on {directory.text}: {cause}", cause]

/-- The directories that are there on their own or on the way to another entry. -/
def directoryLocations (ws : Workspace) : List Location :=
  (ws.directories ++ (ws.files.map (·.1)).map List.dropLast).flatMap fun l =>
    (List.range (l.length + 1)).map l.take

/-- A directory that cannot be listed on the way through the one that a path leads to. Where there
    are several, the order in which the system lists entries decides which one it is. -/
def unlisted? (ws : Workspace) (p : Path) : Option Path :=
  match ws.locate p with
  | .error _ => none
  | .ok loc =>
    let directories := namesBelow loc ws.directoryLocations
    let walked := directories.filter fun names => !names.any isSkippedName
    (walked.map (descend p)).find? fun directory => decide (Path.limit ≤ directory.bytes.length)

/-- Why the source files that a path stands for cannot be collected, if that is so. -/
def collectFault? (ws : Workspace) (p : Path) : Option CollectFault :=
  if !ws.pathExists p then some (.missing p)
  else if ws.isFile p then none
  else (ws.unlisted? p).map (.unlisted p)

/-! ## Collecting -/

/-- Drops each path that has the same components as the one before it, where `last` comes before. -/
def dropRepeatedAfter (last : Path) : List Path → List Path
  | [] => []
  | p :: rest =>
    if last.compare p = .eq then dropRepeatedAfter last rest else p :: dropRepeatedAfter p rest

/-- Drops each path that has the same components as the one before it. -/
def dropRepeated : List Path → List Path
  | [] => []
  | p :: rest => p :: dropRepeatedAfter p rest

/-- The source files that some paths stand for, or what is wrong with the first path for which they
    cannot be collected. -/
def collect (ws : Workspace) (paths : List Path) : Except CollectFault (List Path) :=
  match paths.findSome? ws.collectFault? with
  | some fault => .error fault
  | none =>
    .ok (dropRepeated ((paths.flatMap ws.expand).mergeSort fun p q => p.compare q != .gt))

end Workspace

end ClassSpacing

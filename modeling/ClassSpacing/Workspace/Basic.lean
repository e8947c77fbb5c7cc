import ClassSpacing.Path
import ClassSpacing.Text.Utf8
import ClassSpacing.Workspace.Fault

/-!
# Workspaces

A `Workspace` is a tree of directories with files in them, and the directory that relative paths
start from. The tree is kept flat: each file has a `Location`, the names of the directories on the
way to it and its own, and every directory on the way exists because the file does. Directories may
also exist on their own. A path leads to a location step by step; it fails where a step has no
directory to start from. Names are bytes, and nothing makes them texts.
-/

namespace ClassSpacing

/-- The names from the root of the tree down to a file or a directory. -/
abbrev Location := List RawText

/-- What stands at a location. -/
inductive EntryKind where
  | file
  | directory
deriving Repr, DecidableEq

/-- A tree of directories with files. -/
structure Workspace where
  files : List (Location × Bytes) := []
  /-- Directories that exist even if no file is in them. -/
  directories : List Location := []
  /-- The directory that relative paths start from. -/
  current : Location := []
deriving Repr, DecidableEq, Inhabited

namespace Workspace

/-! ## Locations -/

/-- The content of the file at a location. -/
def content? (ws : Workspace) (loc : Location) : Option Bytes :=
  ws.files.lookup loc

/-- Whether a directory stands at a location: the root, one on its own, or one on the way to another
    entry. -/
def hasDirectory (ws : Workspace) (loc : Location) : Bool :=
  loc.isEmpty || ws.directories.any (loc.isPrefixOf ·) ||
    ws.files.any fun (file, _) => loc.isPrefixOf file && loc != file

/-- What stands at a location. -/
def kindAt? (ws : Workspace) (loc : Location) : Option EntryKind :=
  if (ws.content? loc).isSome then some .file
  else if ws.hasDirectory loc then some .directory
  else none

/-- Where a path starts. -/
def startOf (ws : Workspace) (p : Path) : Location :=
  if p.isAbsolute then [] else ws.current

/-- Where a word of a path leads, whatever stands there. -/
def move (loc : Location) (word : RawText) : Location :=
  if word = "" || word = "." then loc
  else if word = ".." then loc.dropLast
  else loc ++ [word]

/-- Where a word of a path leads. It can only lead on from a directory. -/
def step (ws : Workspace) (loc : Location) (word : RawText) : Except FileFault Location :=
  match ws.kindAt? loc with
  | none => .error .notFound
  | some .file => .error .notDirectory
  | some .directory => .ok (move loc word)

/-- The words between the slashes of a path. -/
def wordsOf (p : Path) : List RawText :=
  (Path.words 0 [] p.bytes).map (·.1)

/-- The location that a path leads to, which may be empty. The empty path leads nowhere. Every path
    is taken to be short enough to be followed; only `pathExists` asks for its length. -/
def locate (ws : Workspace) (p : Path) : Except FileFault Location :=
  if p.bytes.isEmpty then .error .notFound else (wordsOf p).foldlM ws.step (ws.startOf p)

/-- What a path leads to. -/
def kind? (ws : Workspace) (p : Path) : Option EntryKind :=
  match ws.locate p with
  | .ok loc => ws.kindAt? loc
  | .error _ => none

/-- Whether a path leads to anything. The system does not look for what a path leads to if that is
    too long. -/
def pathExists (ws : Workspace) (p : Path) : Bool :=
  p.bytes.length < Path.limit && (ws.kind? p).isSome

/-- Whether a path leads to a file. -/
def isFile (ws : Workspace) (p : Path) : Bool :=
  ws.kind? p == some .file

/-- The path of the current directory. -/
def currentPath (ws : Workspace) : Path :=
  ⟨⟨Path.slash :: [Path.slash].intercalate (ws.current.map (·.bytes))⟩⟩

/-! ## Reading -/

/-- The location of the file that a path leads to, and its content. -/
def openFile (ws : Workspace) (p : Path) : Except FileFault (Location × Bytes) := do
  let loc ← ws.locate p
  match ws.content? loc with
  | some bytes => return (loc, bytes)
  | none => throw (if ws.hasDirectory loc then .isDirectory else .notFound)

/-- The content of a file. -/
def read (ws : Workspace) (p : Path) : Except FileFault Bytes :=
  return (← ws.openFile p).2

/-- The content of a file, as text. -/
def readText (ws : Workspace) (p : Path) : Except FileFault Text := do
  match Utf8.decode (← ws.read p) with
  | .ok text => return text
  | .error _ => throw .notText

/-! ## Writing -/

/-- The files with the given content at a location, in place of what was there. -/
def putContent (loc : Location) (bytes : Bytes) :
    List (Location × Bytes) → List (Location × Bytes)
  | [] => [(loc, bytes)]
  | (l, b) :: rest =>
    if l = loc then (loc, bytes) :: rest else (l, b) :: putContent loc bytes rest

/-- The workspace with the given content at a location. -/
def put (ws : Workspace) (loc : Location) (bytes : Bytes) : Workspace :=
  { ws with files := putContent loc bytes ws.files }

/-- Writes a file, in a directory that exists. -/
def write (ws : Workspace) (p : Path) (bytes : Bytes) : Except FileFault Workspace := do
  let loc ← ws.locate p
  if ws.hasDirectory loc then throw .isDirectory else return ws.put loc bytes

/-- Makes a directory, and those on the way to it. -/
def makeDirectory (ws : Workspace) (p : Path) : Except FileFault Workspace :=
  let loc := (wordsOf p).foldl move (ws.startOf p)
  if ws.files.any fun (file, _) => file.isPrefixOf loc then
    .error .notDirectory
  else
    .ok { ws with directories := loc :: ws.directories }

/-- Takes a file or a directory away. The directory that it was in stays. -/
def remove (ws : Workspace) (p : Path) : Except FileFault Workspace := do
  let loc ← ws.locate p
  match ws.kindAt? loc with
  | none => throw .notFound
  | some _ => return { ws with
      files := ws.files.filter fun (file, _) => !loc.isPrefixOf file
      directories := loc.dropLast :: ws.directories.filter (!loc.isPrefixOf ·) }

/-! ## What writing does -/

theorem lookup_cons_eq_ite (loc loc' : Location) (bytes : Bytes) (rest : List (Location × Bytes)) :
    List.lookup loc ((loc', bytes) :: rest) =
      if loc = loc' then some bytes else rest.lookup loc := by
  by_cases h : loc = loc'
  · simp [h]
  · have hb : (loc == loc') = false := by simpa using h
    simp only [List.lookup_cons, hb, if_neg h]

theorem lookup_putContent (loc loc' : Location) (bytes : Bytes) (files : List (Location × Bytes)) :
    (putContent loc bytes files).lookup loc' =
      if loc' = loc then some bytes else files.lookup loc' := by
  induction files with
  | nil => simp only [putContent, lookup_cons_eq_ite]
  | cons entry rest ih =>
    obtain ⟨l, b⟩ := entry
    by_cases hl : l = loc
    · subst hl
      by_cases h : loc' = l <;> simp [putContent, lookup_cons_eq_ite, h]
    · by_cases h : loc' = l
      · subst h; simp [putContent, hl]
      · simp [putContent, lookup_cons_eq_ite, hl, h, ih]

/-- A written file holds what was written, and all other files stay as they were. -/
theorem content?_put (ws : Workspace) (loc loc' : Location) (bytes : Bytes) :
    (ws.put loc bytes).content? loc' = if loc' = loc then some bytes else ws.content? loc' :=
  lookup_putContent loc loc' bytes ws.files

end Workspace

end ClassSpacing

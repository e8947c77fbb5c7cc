import ClassSpacing.RawText

/-!
# Paths

A `Path` keeps the bytes it was written with, and is looked at as a list of components: repeated
slashes count once, and a dot counts only at the very beginning of a relative path. Two paths are
equal, and are ordered, by their components.
-/

namespace ClassSpacing

/-- A file name with slashes between its parts, as it was written. -/
structure Path where
  raw : RawText
deriving Repr, DecidableEq, Inhabited

namespace Path

/-- The bytes of a path. -/
def bytes (p : Path) : Bytes :=
  p.raw.bytes

@[simp] theorem bytes_mk (r : RawText) : bytes ⟨r⟩ = r.bytes := rfl

/-- The path as it is shown. -/
def text (p : Path) : String :=
  p.raw.shown

/-- The byte between the parts of a path. -/
def slash : UInt8 := 0x2F

/-- The byte before an extension. -/
def dot : UInt8 := 0x2E

/-- The number of bytes from which on the system takes a path to lead nowhere, because it is too
    long. -/
def limit : Nat := 4096

/-- A part of a path. -/
inductive Component where
  /-- The slash at the beginning of an absolute path. -/
  | root
  /-- The dot at the beginning of a relative path. -/
  | current
  /-- Two dots. -/
  | parent
  | name (name : RawText)
deriving Repr, DecidableEq, Inhabited

/-! ## Components -/

/-- The stretches of bytes between slashes, each with the number of bytes up to its end. `count`
    bytes come before, of which the last ones, newest first, are `word`. -/
def words (count : Nat) (word : Bytes) : Bytes → List (RawText × Nat)
  | [] => [(⟨word.reverse⟩, count)]
  | b :: rest =>
    if b = slash then
      (⟨word.reverse⟩, count) :: words (count + 1) [] rest
    else
      words (count + 1) (b :: word) rest

/-- The component that a stretch between slashes is, if it counts. -/
def Component.ofWord? (word : RawText) : Option Component :=
  if word = "" || word = "." then none
  else if word = ".." then some .parent
  else some (.name word)

/-- The components of a path, each with the number of bytes up to its end. -/
def placedComponents (p : Path) : List (Component × Nat) :=
  let body := (words 0 [] p.bytes).filterMap fun (word, stop) =>
    (Component.ofWord? word).map (·, stop)
  match p.bytes with
  | 0x2F :: _ => (.root, 1) :: body
  | [0x2E] => [(.current, 1)]
  | 0x2E :: 0x2F :: _ => (.current, 1) :: body
  | _ => body

/-- The components of a path. -/
def components (p : Path) : List Component :=
  p.placedComponents.map (·.1)

/-- Whether a path starts at the root. -/
def isAbsolute (p : Path) : Bool :=
  p.bytes.head? == some slash

/-- The last component, if it is a name. -/
def fileName? (p : Path) : Option RawText :=
  match p.components.getLast? with
  | some (.name name) => some name
  | _ => none

/-- What follows the last dot of the file name, unless the dot is its first character. -/
def extension? (p : Path) : Option RawText := do
  let name ← p.fileName?
  let reversed := name.bytes.reverse
  let ext := reversed.takeWhile (· != dot)
  match reversed.dropWhile (· != dot) with
  | _ :: _ :: _ => some ⟨ext.reverse⟩
  | _ => none

/-! ## Building paths -/

/-- The path `q`, seen from `p`. An absolute path is the same from everywhere. -/
def join (p q : Path) : Path :=
  if q.isAbsolute || p.bytes.isEmpty then q
  else if p.bytes.getLast? == some slash then ⟨⟨p.bytes ++ q.bytes⟩⟩
  else ⟨⟨p.bytes ++ slash :: q.bytes⟩⟩

/-- The path without its last component; the root and the empty path have none. -/
def parent? (p : Path) : Option Path :=
  match p.placedComponents.reverse with
  | [] => none
  | (.root, _) :: _ => none
  | _ :: [] => some ⟨""⟩
  | _ :: (_, stop) :: _ => some ⟨⟨p.bytes.take stop⟩⟩

/-- The path and what is left of it as components are taken away, at most `count` of them. -/
def ancestorsWithin : Nat → Path → List Path
  | 0, p => [p]
  | count + 1, p =>
    match p.parent? with
    | some q => p :: ancestorsWithin count q
    | none => [p]

/-- The path, its parent, the parent of that, and so on to the root or the empty path. -/
def ancestors (p : Path) : List Path :=
  ancestorsWithin p.components.length p

/-! ## Order -/

/-- The order of components: the root, a dot, two dots, then names by their bytes. -/
def Component.compare : Component → Component → Ordering
  | .root, .root => .eq
  | .root, _ => .lt
  | _, .root => .gt
  | .current, .current => .eq
  | .current, _ => .lt
  | _, .current => .gt
  | .parent, .parent => .eq
  | .parent, _ => .lt
  | _, .parent => .gt
  | .name a, .name b => Ord.compare a.bytes b.bytes

/-- Lists of components in dictionary order. -/
def compareComponents : List Component → List Component → Ordering
  | [], [] => .eq
  | [], _ :: _ => .lt
  | _ :: _, [] => .gt
  | a :: as, b :: bs => (a.compare b).then (compareComponents as bs)

/-- Paths in the dictionary order of their components. -/
def compare (p q : Path) : Ordering :=
  compareComponents p.components q.components

end Path

end ClassSpacing

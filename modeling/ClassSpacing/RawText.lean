import ClassSpacing.Text.Utf8

/-!
# Raw texts

Paths, and the names of files and directories, are bytes. As a rule the bytes are the UTF-8 form of
a text, but nothing enforces this: a raw text need not be a text. Where one is shown, a mark stands
for what is not UTF-8.
-/

namespace ClassSpacing

/-- Bytes that are a text as a rule. -/
@[ext]
structure RawText where
  bytes : Bytes
deriving Repr, DecidableEq, Inhabited

namespace RawText

/-- A text as its bytes. -/
def ofString (s : String) : RawText :=
  ⟨Utf8.encode s.toList⟩

instance : Coe String RawText :=
  ⟨ofString⟩

/-- The text that the bytes are the UTF-8 form of, if there is one. -/
def text? (r : RawText) : Option String :=
  match Utf8.decode r.bytes with
  | .ok t => some (String.ofList t)
  | .error _ => none

/-! ## Showing raw texts -/

/-- Bytes cut into well-formed stretches, each with the bytes to blame for its end, in at most
    `count` steps. -/
def stretches : Nat → Bytes → List (Text × Bytes)
  | 0, _ => []
  | count + 1, bytes =>
    match Utf8.decode bytes with
    | .ok t => [(t, [])]
    | .error fault =>
      let rest := bytes.drop fault.validUpTo
      let length := fault.length?.getD rest.length
      let before := match Utf8.decode (bytes.take fault.validUpTo) with
        | .ok t => t
        | .error _ => []
      (before, rest.take length) :: stretches count (rest.drop length)

/-- The stretches of a raw text. Each but the last one ends with a byte to blame. -/
def allStretches (r : RawText) : List (Text × Bytes) :=
  stretches (r.bytes.length + 1) r.bytes

/-- The text to show, with one mark for each stretch that ends with bytes to blame. -/
def shown (r : RawText) : String :=
  String.ofList (r.allStretches.flatMap fun (t, blamed) =>
    if blamed.isEmpty then t else t ++ ['\uFFFD'])

end RawText

end ClassSpacing

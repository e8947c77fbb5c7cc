/-!
# Failures of the file store
-/

namespace ClassSpacing

/-- Why a file could not be read or written. -/
inductive FileFault where
  | notFound
  | notDirectory
  | isDirectory
  /-- A text was asked for, and the file is not UTF-8. -/
  | notText
deriving Repr, DecidableEq, Inhabited

/-- The words for a failure. -/
def FileFault.message : FileFault → String
  | notFound => "No such file or directory (os error 2)"
  | notDirectory => "Not a directory (os error 20)"
  | isDirectory => "Is a directory (os error 21)"
  | notText => "stream did not contain valid UTF-8"

end ClassSpacing

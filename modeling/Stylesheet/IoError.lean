set_option autoImplicit false

/-! # Failed accesses to files

`IoErrorKind` says why a file could not be accessed, and `IoError` adds what is told about it.
-/

namespace Stylesheet

inductive IoErrorKind
  | notFound
  | permissionDenied
  | notADirectory
  | isADirectory
  | filesystemLoop
  | invalidFilename
  | invalidInput
  | invalidData
deriving DecidableEq, Repr

namespace IoErrorKind

def word : IoErrorKind → String
  | notFound => "NotFound"
  | permissionDenied => "PermissionDenied"
  | notADirectory => "NotADirectory"
  | isADirectory => "IsADirectory"
  | filesystemLoop => "FilesystemLoop"
  | invalidFilename => "InvalidFilename"
  | invalidInput => "InvalidInput"
  | invalidData => "InvalidData"

/-- What a disk tells about a failed access. -/
def message : IoErrorKind → String
  | notFound => "No such file or directory (os error 2)"
  | permissionDenied => "Permission denied (os error 13)"
  | notADirectory => "Not a directory (os error 20)"
  | isADirectory => "Is a directory (os error 21)"
  | filesystemLoop => "Too many levels of symbolic links (os error 40)"
  | invalidFilename => "File name too long (os error 36)"
  | invalidInput => "file name contained an unexpected NUL byte"
  | invalidData => "stream did not contain valid UTF-8"

end IoErrorKind

structure IoError where
  kind : IoErrorKind
  message : String
deriving DecidableEq, Repr

def IoErrorKind.error (k : IoErrorKind) : IoError := ⟨k, k.message⟩

end Stylesheet

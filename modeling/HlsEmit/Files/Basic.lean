/-! # Files

What a run may do with files, and why it can fail. Runs are written against any
monad that offers these operations, so they can be carried out as well as
reasoned about.
-/

namespace HlsEmit

/-- Why a file cannot be read or written. -/
inductive FileError where
  /-- The file, or a directory on the way to it, does not exist. -/
  | notFound
  /-- A directory on the way is a file. -/
  | notDirectory
  /-- The path leads to a directory. -/
  | isDirectory
  /-- A name on the way has more bytes than a file system takes. -/
  | nameTooLong
  /-- The contents are no text in UTF-8. -/
  | notText
  /-- Any other reason, in the words of the system. -/
  | other (text : String)
  deriving DecidableEq, Repr

/-- The reason in words. -/
def FileError.message : FileError → String
  | notFound => "No such file or directory (os error 2)"
  | notDirectory => "Not a directory (os error 20)"
  | isDirectory => "Is a directory (os error 21)"
  | nameTooLong => "File name too long (os error 36)"
  | notText => "stream did not contain valid UTF-8"
  | other text => text

/-- Reading and writing whole files. -/
structure FileAccess (m : Type → Type) where
  read : String → m (Except FileError String)
  write : String → String → m (Except FileError Unit)

end HlsEmit

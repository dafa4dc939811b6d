import HlsEmit.Files.Basic

/-! # Directories in memory

A working directory as a value. A run in it starts with some files and leaves
some files. Nothing outside the directory can be seen.
-/

namespace HlsEmit

/-- The files below a working directory. -/
structure Directory where
  /-- The names on the way to each file, and its contents. -/
  files : List (List String × ByteArray) := []

namespace Directory

/-- The names between the slashes of a path. -/
def pathNames (path : String) : List String := path.splitOn "/"

/-- The contents of the file reached by these names. -/
def contents? (directory : Directory) (names : List String) : Option ByteArray :=
  directory.files.lookup names

/-- Whether the names lead to a directory. -/
def isDirectory (directory : Directory) (names : List String) : Bool :=
  names.isEmpty || directory.files.any fun file => names.isPrefixOf file.1 && names ≠ file.1

/-- The longest name of a file, in bytes. -/
def maxNameSize : Nat := 255

/-- The longest path, in bytes. -/
def maxPathSize : Nat := 4095

/-- Where names lead, starting at `here`. None stands for every place outside the
    directory. -/
def follow (directory : Directory) :
    Option (List String) → List String → Except FileError (Option (List String))
  | here, [] => .ok here
  | here, name :: rest =>
      match here with
      | none =>
          if name = "" ∨ name = "." ∨ name = ".." then directory.follow none rest
          else .error .notFound
      | some names =>
          if ¬directory.isDirectory names then
            .error (if (directory.contents? names).isSome then .notDirectory else .notFound)
          else if name = "" ∨ name = "." then directory.follow here rest
          else if name = ".." then
            directory.follow (if names.isEmpty then none else some names.dropLast) rest
          else if maxNameSize < name.utf8ByteSize then .error .nameTooLong
          else directory.follow (some (names ++ [name])) rest

/-- Where the search for a path starts. -/
def start (path : String) : Option (List String) :=
  if path.startsWith "/" then none else some []

/-- Where a path leads. -/
def resolve (directory : Directory) (path : String) : Except FileError (Option (List String)) :=
  if path = "" then .error .notFound
  else if maxPathSize < path.utf8ByteSize then .error .nameTooLong
  else directory.follow (start path) (pathNames path)

/-- The text of the file at a path. -/
def read (directory : Directory) (path : String) : Except FileError String := do
  match ← directory.resolve path with
  | none => .error .isDirectory
  | some names =>
      if directory.isDirectory names then .error .isDirectory
      else
        match directory.contents? names with
        | none => .error .notFound
        | some bytes =>
            match String.fromUTF8? bytes with
            | none => .error .notText
            | some text => .ok text

/-- Make the contents those of the file reached by these names. -/
def put (directory : Directory) (names : List String) (contents : ByteArray) : Directory where
  files := (names, contents) :: directory.files.filter (·.1 ≠ names)

/-- The directory after a text has been written to the file at a path. The
    directory that is to hold the file must exist, and a path with a slash at its
    end can only be a directory. -/
def write (directory : Directory) (path text : String) : Except FileError Directory := do
  if path.endsWith "/" then
    let parents := ((pathNames path).reverse.dropWhile (· = "")).tail.reverse
    let _ ← directory.follow (start path) parents
    .error .isDirectory
  else
    match ← directory.resolve path with
    | none => .error .isDirectory
    | some names =>
        if directory.isDirectory names then .error .isDirectory
        else .ok (directory.put names text.toUTF8)

/-- The operations of a run in a directory in memory. -/
def access : FileAccess (StateM Directory) where
  read path := return (← get).read path
  write path text := do
    match (← get).write path text with
    | .ok directory => set directory; return .ok ()
    | .error reason => return .error reason

end Directory

end HlsEmit

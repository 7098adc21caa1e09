/-! # Trees of files

A tree holds files below one directory, the one that relative paths start from. A path is followed
part by part. What lies above the directory is unknown: it consists of directories, and nothing can
be found there by name. -/

namespace ClassVM.Files

/-- Why a file could not be read. -/
inductive FileError where
  | notFound
  | isDirectory
  | notDirectory
  /-- A part of the path, or the path as a whole, exceeds its length. -/
  | nameTooLong
  /-- The path holds the character zero. -/
  | zeroCharacter
  /-- A failure with a wording of its own. -/
  | other (text : String)
  deriving DecidableEq

/-- The wording of an error. -/
def FileError.message : FileError → String
  | .notFound => "No such file or directory (os error 2)"
  | .isDirectory => "Is a directory (os error 21)"
  | .notDirectory => "Not a directory (os error 20)"
  | .nameTooLong => "File name too long (os error 36)"
  | .zeroCharacter => "file name contained an unexpected NUL byte"
  | .other text => text

/-- The parts of a path, between its separators. -/
def pathParts (path : String) : List String :=
  (path.toList.splitOn '/').map String.ofList

/-- The most bytes that a part of a path may have. -/
def maxPartSize : Nat := 255

/-- The most bytes that a path may have. -/
def maxPathSize : Nat := 4095

/-- What rules a path out before it is followed. -/
def pathError? (path : String) : Option FileError :=
  if path.toList.contains '\x00' then some .zeroCharacter
  else if maxPathSize < path.utf8ByteSize then some .nameTooLong
  else none

/-- Files by the parts of their paths; directories exist as far as files need them. -/
structure FileTree where
  files : List (List String × List UInt8)
  deriving DecidableEq

/-- Where a path has led to. -/
inductive Place where
  | above
  | directory (path : List String)
  | file (contents : List UInt8)
  deriving DecidableEq

namespace FileTree

variable (tree : FileTree)

/-- A tree from the paths of its files. -/
def ofPaths (files : List (String × List UInt8)) : FileTree :=
  ⟨files.map fun (path, contents) =>
    ((pathParts path).filter fun part => part ≠ "" && part ≠ ".", contents)⟩

/-- What the parts of a path name below the starting directory. -/
def place (path : List String) : Except FileError Place :=
  match tree.files.lookup path with
  | some contents => .ok (.file contents)
  | none =>
      if tree.files.any fun (file, _) => path.isPrefixOf file then .ok (.directory path)
      else .error .notFound

/-- Follows one part of a path. Only a directory can be followed further. -/
def follow (part : String) : Place → Except FileError Place
  | .file _ => .error .notDirectory
  | .above =>
      if part = "" || part = "." || part = ".." then .ok .above
      else if maxPartSize < part.utf8ByteSize then .error .nameTooLong
      else .error .notFound
  | .directory path =>
      if maxPartSize < part.utf8ByteSize then .error .nameTooLong
      else if part = "" || part = "." then .ok (.directory path)
      else if part = ".." then
        if path.isEmpty then .ok .above else .ok (.directory path.dropLast)
      else tree.place (path ++ [part])

/-- Follows the parts of a path in order. -/
def followAll : List String → Place → Except FileError Place
  | [], place => .ok place
  | part :: rest, place => do followAll rest (← tree.follow part place)

/-- The contents of the file that a path leads to. -/
def read (path : String) : Except FileError (List UInt8) := do
  if let some e := pathError? path then throw e
  let start := if path.toList.head? = some '/' then Place.above else .directory []
  match ← tree.followAll (pathParts path) start with
  | .file contents => .ok contents
  | .above | .directory _ => .error .isDirectory

end FileTree

end ClassVM.Files

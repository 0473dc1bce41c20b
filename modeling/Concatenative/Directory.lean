/-!
# Directories

A program finds its script among the files of the directory in which it was started. A path is
walked part by part; `..` leads back to the directory around the present one, while empty parts and
`.` do not count. A path that starts with `/` is walked from the root of all directories. Nothing is
known about the directories around the starting one, except that they are directories: no name is
found in them.

Names and paths have a greatest length, in bytes of UTF-8. That of a path is checked before the walk
begins, that of a name only when the walk comes to it.
-/

namespace Concatenative

/-- What is found under a path. -/
inductive Lookup where
  /-- Nothing. -/
  | missing
  /-- A directory. -/
  | directory
  /-- Nothing, since the path goes on beyond a file. -/
  | beyondFile
  /-- Nothing, since the path or one of its names is too long. -/
  | tooLong
  /-- Nothing, since no name can hold the character zero, and the path does. -/
  | zeroInPath
  /-- A file with these bytes. -/
  | file (bytes : ByteArray)

/-- A directory: its files by their paths. -/
structure Directory where
  /-- The files. -/
  files : List (String × ByteArray)

namespace Directory

/-- The greatest length of a name. -/
def nameLimit : Nat := 255

/-- The greatest length of a path. -/
def pathLimit : Nat := 4095

/-- The part of a path that leads back. -/
def back : List Char := ['.', '.']

/-- The parts of a path. Empty parts and `.` do not count. -/
def parts (path : String) : List (List Char) :=
  (path.toList.splitOn '/').filter fun part => part ≠ [] ∧ part ≠ ['.']

/-- The path starts at the root of all directories. -/
def isAbsolute (path : String) : Bool := path.toList.head? = some '/'

/-- The length of a name in bytes. -/
def nameSize (part : List Char) : Nat := (String.ofList part).utf8ByteSize

/-- The length of a path in bytes, with one `/` between two parts and none at its end. -/
def pathSize (path : String) : Nat :=
  let names := (parts path).map nameSize
  names.foldl (· + ·) 0 + (names.length - 1) + if isAbsolute path then 1 else 0

/-- Where a walk has come to. -/
inductive Place where
  /-- The starting directory or one beneath it, by the parts of its path. -/
  | inside (path : List (List Char))
  /-- A directory around the starting one. -/
  | around

/-- The directory around a place. -/
def Place.up : Place → Place
  | .inside [] => .around
  | .inside path => .inside path.dropLast
  | .around => .around

/-- Walks on from a place along the parts of a path. -/
def walk (d : Directory) : Place → List (List Char) → Lookup
  | _, [] => .directory
  | place, part :: rest =>
    if part = back then d.walk place.up rest
    else if nameLimit < nameSize part then .tooLong
    else
      match place with
      | .around => .missing
      | .inside path =>
        let next := path ++ [part]
        match d.files.find? fun f => parts f.1 = next with
        | some f => if rest.isEmpty then .file f.2 else .beyondFile
        | none =>
          if d.files.any fun f => next.isPrefixOf (parts f.1) then d.walk (.inside next) rest
          else .missing

/-- Looks a path up. -/
def find (d : Directory) (path : String) : Lookup :=
  if path.toList.contains '\x00' then .zeroInPath
  else if pathLimit < pathSize path then .tooLong
  else d.walk (if isAbsolute path then .around else .inside []) (parts path)

end Directory

end Concatenative

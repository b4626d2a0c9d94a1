/-
This file holds trees of files with texts in them, and writes, reads and lists them by path. A path
is a sequence of names with slashes between, from the root of the tree; a name of one point stays
where it is and one of two points leads out of a directory. Every name but the last one, and every
one before a slash, has to be that of a directory, also where the next name leads out of it again.

A place is what a path comes to: names that lead down from the root, or from a directory above it.
Writing creates the directories that its path passes through.
-/

import DynamicSql.Text.Split

namespace DynamicSql

/-- What stands at a place: a file with its text, or a directory. -/
inductive FileEntry where
  | file (text : String)
  | directory
  deriving DecidableEq

/-- The files and directories around a root, each under the names that lead there. -/
structure FileTree where
  entries : List (List String × FileEntry)

/-- Why a path cannot be used. -/
inductive PathFault where
  | missing
  | notDirectory
  | isDirectory
  deriving DecidableEq

/-- The message for a fault, as the operating system words it. -/
def PathFault.message : PathFault → String
  | .missing => "No such file or directory (os error 2)"
  | .notDirectory => "Not a directory (os error 20)"
  | .isDirectory => "Is a directory (os error 21)"

namespace FileTree

/-- A root with nothing below. -/
def empty : FileTree := ⟨[]⟩

/-! ### Places -/

/-- The root and the directories above it, which are always there. -/
def isRootOrAbove (place : List String) : Bool :=
  place.all (· == "..")

/-- What stands at a place. -/
def entry? (tree : FileTree) (place : List String) : Option FileEntry :=
  if isRootOrAbove place then some .directory else tree.entries.lookup place

/-- The directory that a place is in. -/
def outer (place : List String) : List String :=
  if isRootOrAbove place then place ++ [".."] else place.dropLast

/-- The place that a name leads to from a directory. -/
def inner (place : List String) (name : String) : List String :=
  if name = "" ∨ name = "." then place
  else if name = ".." then outer place
  else place ++ [name]

/-! ### Paths -/

/-- The names of a path. -/
def namesOf (path : String) : List String :=
  (Text.splitOn '/' path.toList).map String.ofList

/-- The place that names lead to from a place. -/
def walk (tree : FileTree) (place : List String) : List String → Except PathFault (List String)
  | [] => .ok place
  | name :: rest =>
    match tree.entry? place with
    | some .directory => walk tree (inner place name) rest
    | some (.file _) => .error .notDirectory
    | none => .error .missing

/-- What a path leads to, and where that is. -/
def locate (tree : FileTree) (path : String) : Except PathFault (List String × FileEntry) :=
  if path.isEmpty then .error .missing
  else
    match tree.walk [] (namesOf path) with
    | .error fault => .error fault
    | .ok place =>
      match tree.entry? place with
      | some entry => .ok (place, entry)
      | none => .error .missing

/-! ### Changing -/

/-- The tree with an entry at a place, in that of the entry before it if there is one. -/
def set (tree : FileTree) (place : List String) (entry : FileEntry) : FileTree :=
  ⟨(tree.entries.filter fun other => other.1 != place) ++ [(place, entry)]⟩

/-- The tree with directories at all places that names pass through from a place, up to the first
that is a file. -/
def makeDirectories (tree : FileTree) (place : List String) : List String → FileTree
  | [] => tree
  | name :: rest =>
    let next := inner place name
    match tree.entry? next with
    | some .directory => makeDirectories tree next rest
    | some (.file _) => tree
    | none => makeDirectories (tree.set next .directory) next rest

/-- The names of a path without those that stay where they are. -/
def stepsOf (path : String) : List String :=
  (namesOf path).filter fun name => name ≠ "" ∧ name ≠ "."

/-- The tree with a directory, and the directories that its path passes through. -/
def addDirectory (tree : FileTree) (path : String) : FileTree :=
  tree.makeDirectories [] (stepsOf path)

/-- The tree with a file, and the directories that its path passes through. There is no file where
a directory stands or where the path does not lead. -/
def write (tree : FileTree) (path text : String) : FileTree :=
  let made := tree.makeDirectories [] (stepsOf path).dropLast
  match made.walk [] (namesOf path) with
  | .error _ => made
  | .ok place => if made.entry? place = some .directory then made else made.set place (.file text)

/-! ### Reading -/

/-- The text of a file. -/
def read (tree : FileTree) (path : String) : Except PathFault String :=
  match tree.locate path with
  | .error fault => .error fault
  | .ok (_, .directory) => .error .isDirectory
  | .ok (_, .file text) => .ok text

/-- The name of a file directly inside a directory. -/
def fileNameIn? (place : List String) : List String × FileEntry → Option String
  | (inner, .file _) => if inner.dropLast = place then inner.getLast? else none
  | (_, .directory) => none

/-- The names of the files directly inside a directory. -/
def fileNames (tree : FileTree) (path : String) : Except PathFault (List String) :=
  match tree.locate path with
  | .error fault => .error fault
  | .ok (_, .file _) => .error .notDirectory
  | .ok (place, .directory) => .ok (tree.entries.filterMap (fileNameIn? place))

/-- The path of a name inside a directory. -/
def join (directory name : String) : String :=
  if directory.toList.getLast? = some '/' then directory ++ name else directory ++ "/" ++ name

end FileTree

end DynamicSql

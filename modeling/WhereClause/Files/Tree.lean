import WhereClause.Files.Path
import WhereClause.Error

/-! Files in memory.

A tree holds its files by absolute location and has a current directory. Every location
on the way to a file or to the current directory is a directory.
-/

set_option autoImplicit false

namespace WhereClause

abbrev Location := List String

structure FileTree where
  current : Location
  files : List (Location × String)

namespace FileTree

inductive Node where
  | file (content : String)
  | directory

def lookup (tree : FileTree) (location : Location) : Option Node :=
  match tree.files.lookup location with
  | some content => some (.file content)
  | none =>
    if location.isPrefixOf tree.current || tree.files.any fun file => location.isPrefixOf file.1 then
      some .directory
    else none

/-- The bytes that a name and that a whole path may have at most. -/
def nameLimit : Nat := 255

def pathLimit : Nat := 4095

def walk (tree : FileTree) : (start : Location) → List String → Except FileIssue Location
  | location, [] => .ok location
  | location, segment :: rest =>
    match tree.lookup location with
    | none => .error .missing
    | some (.file _) => .error .notDirectory
    | some .directory =>
      if segment.isEmpty || segment == "." then tree.walk location rest
      else if segment == ".." then tree.walk location.dropLast rest
      else if nameLimit < segment.utf8ByteSize then .error .nameTooLong
      else tree.walk (location ++ [segment]) rest

def locate (tree : FileTree) (path : String) : Except FileIssue Location :=
  if path.contains '\x00' then .error .nulInName
  else if pathLimit < path.utf8ByteSize then .error .nameTooLong
  else if path.isEmpty then .error .missing
  else tree.walk (if Path.isAbsolute path then [] else tree.current) (Path.segments path)

def read (tree : FileTree) (path : String) : Except FileIssue String := do
  match tree.lookup (← tree.locate path) with
  | some (.file content) => return content
  | some .directory => throw .isDirectory
  | none => throw .missing

def isFile (tree : FileTree) (path : String) : Bool :=
  match tree.read path with
  | .ok _ => true
  | .error _ => false

def ofList (current : Location) (files : List (String × String)) : FileTree where
  current
  files := files.map fun (path, content) => (current ++ Path.segments path, content)

end FileTree

end WhereClause

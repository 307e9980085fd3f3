import DataLayer.Files.Store

/-!
# A file system as a value

A file system is a list of places with what is there.  A place is the list of the names on the way
from the root.  Paths are followed name by name: each name must stand in a folder that is there, a
double dot leads back, and a slash at the end asks for a folder.
-/

namespace DataLayer

/-- What is at a place. -/
inductive FileEntry where
  /-- A folder. -/
  | folder
  /-- A file that holds a text. -/
  | text (content : String)
  /-- A file that holds bytes which are no text. -/
  | bytes
  deriving Repr, DecidableEq

/-- The names on the way from the root. -/
abbrev Location := List String

/-- A file system with a current folder. -/
structure FileTree where
  /-- All places but the root, with what is there. -/
  entries : List (Location × FileEntry)
  /-- The current folder. -/
  home : Location
  deriving Repr, DecidableEq

namespace FileTree

/-- What is at a place; the root is always a folder. -/
def get? (tree : FileTree) (place : Location) : Option FileEntry :=
  if place = [] then some .folder else tree.entries.lookup place

/-- Put something at a place, instead of what is there. -/
def setEntry (place : Location) (entry : FileEntry) :
    List (Location × FileEntry) → List (Location × FileEntry)
  | [] => [(place, entry)]
  | other :: rest =>
    if other.1 = place then (place, entry) :: rest else other :: setEntry place entry rest

/-- Put something at a place, instead of what is there. -/
def set (tree : FileTree) (place : Location) (entry : FileEntry) : FileTree :=
  { tree with entries := setEntry place entry tree.entries }

/-- Remove a place and everything below it. -/
def remove (tree : FileTree) (place : Location) : FileTree :=
  { tree with entries := tree.entries.filter fun entry => !place.isPrefixOf entry.1 }

/-- Follow one segment of a path from a place, which must be a folder. -/
def step (tree : FileTree) (place : Location) (segment : String) : Except FileError Location :=
  match tree.get? place with
  | none => .error .notFound
  | some .folder =>
    if segment = "" ∨ segment = "." then .ok place
    else if segment = ".." then .ok place.dropLast
    else if 255 < segment.utf8ByteSize then .error .nameTooLong
    else .ok (place ++ [segment])
  | some _ => .error .notAFolder

/-- Where a path starts: at the root if it is absolute, else in the current folder. -/
def start (tree : FileTree) (path : String) : Location :=
  if path.startsWith "/" then [] else tree.home

/-- A path that no file system follows. -/
def pathFault? (path : String) : Option FileError :=
  if path.toList.contains '\x00' then some .nullInName
  else if path = "" then some .notFound
  else if 4095 < path.utf8ByteSize then some .nameTooLong
  else none

/-- The place that a path leads to.  Something need not be there. -/
def locate (tree : FileTree) (path : String) : Except FileError Location :=
  match pathFault? path with
  | some fault => .error fault
  | none => (Path.segments path).foldlM tree.step (tree.start path)

/-- What is at the end of a path, and where. -/
def follow (tree : FileTree) (path : String) : Except FileError (Location × FileEntry) := do
  let place ← tree.locate path
  match tree.get? place with
  | some entry => return (place, entry)
  | none => .error .notFound

/-- The folder in which the last segment of a path stands, and that segment. -/
def locateLast (tree : FileTree) (path : String) : Except FileError (Location × String) :=
  match pathFault? path with
  | some fault => .error fault
  | none => do
    let reversed := (Path.segments path).reverse
    let named := reversed.dropWhile (· = "")
    let folder ← (named.drop 1).reverse.foldlM tree.step (tree.start path)
    match tree.get? folder with
    | none => .error .notFound
    | some .folder => return (folder, named.head?.getD "")
    | some _ => .error .notAFolder

/-- The segment is no name of its own. -/
def isMarker (segment : String) : Bool :=
  segment = "" || segment = "." || segment = ".."

/-- Read the text of a file. -/
def readText (tree : FileTree) (path : String) : Except FileError String := do
  match ← tree.follow path with
  | (_, .folder) => .error .isAFolder
  | (_, .text content) => return content
  | (_, .bytes) => .error .notText

/-- Write a file, in place of what it held. -/
def write (tree : FileTree) (path : String) (entry : FileEntry) : Except FileError FileTree := do
  let (folder, name) ← tree.locateLast path
  if isMarker name ∨ path.endsWith "/" then .error .isAFolder
  else if 255 < name.utf8ByteSize then .error .nameTooLong
  else
    match tree.get? (folder ++ [name]) with
    | some .folder => .error .isAFolder
    | _ => return tree.set (folder ++ [name]) entry

/-- Make a folder in a folder that is there. -/
def makeFolder (tree : FileTree) (path : String) : Except FileError FileTree := do
  let (folder, name) ← tree.locateLast path
  if isMarker name then .error .alreadyExists
  else if 255 < name.utf8ByteSize then .error .nameTooLong
  else
    match tree.get? (folder ++ [name]) with
    | some _ => .error .alreadyExists
    | none => return tree.set (folder ++ [name]) .folder

/-- Is anything at the path? -/
def isPresent (tree : FileTree) (path : String) : Bool :=
  match tree.follow path with
  | .ok _ => true
  | .error _ => false

/-- Is a folder at the path? -/
def isFolder (tree : FileTree) (path : String) : Bool :=
  match tree.follow path with
  | .ok (_, .folder) => true
  | _ => false

/-- The place as a path from a place above it; a folder ends in a slash. -/
def pathBelow (base : Location) (entry : Location × FileEntry) : String :=
  "/".intercalate (entry.1.drop base.length) ++ (if entry.2 = .folder then "/" else "")

/-- The paths of everything below a place. -/
def listing (tree : FileTree) (base : Location) : List String :=
  (tree.entries.filter fun entry =>
    base.isPrefixOf entry.1 && base.length < entry.1.length).map (pathBelow base)

/-- Carry out a change, which may fail and then changes nothing. -/
def change (step : FileTree → Except FileError FileTree) :
    StateM FileTree (Except FileError Unit) :=
  fun tree =>
    match step tree with
    | .ok changed => (.ok (), changed)
    | .error cause => (.error cause, tree)

instance : FileStore (StateM FileTree) where
  readText path := fun tree => (tree.readText path, tree)
  writeText path content := change fun tree => tree.write path (.text content)
  makeFolder path := change fun tree => tree.makeFolder path
  isPresent path := fun tree => (tree.isPresent path, tree)
  isFolder path := fun tree => (tree.isFolder path, tree)

end FileTree
end DataLayer

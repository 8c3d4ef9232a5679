import RpcTransport.Files
import RpcTransport.Text.Split

/-! # File trees

A file system as a finite tree with a working directory. A path is followed part by part:
empty parts and `.` stay, `..` goes up, and every part but the last has to lead through a
directory.
-/

namespace RpcTransport

inductive FileNode where
  | directory
  | file (bytes : ByteArray)
  deriving Inhabited

/-- Directories and files by their locations, which are the names from the root on. -/
structure FileTree where
  nodes : List (List String × FileNode) := []
  workingDirectory : List String := []

namespace FileTree

def node? (tree : FileTree) (location : List String) : Option FileNode :=
  if location = [] then some .directory else tree.nodes.lookup location

def maxNameBytes : Nat := 255

def maxPathBytes : Nat := 4095

def follow (tree : FileTree) (location : List String) : List String → Except FileError (List String)
  | [] => .ok location
  | part :: parts =>
    match tree.node? location with
    | none => .error .missing
    | some (.file _) => .error .notDirectory
    | some .directory =>
      if part = "" ∨ part = "." then tree.follow location parts
      else if part = ".." then tree.follow location.dropLast parts
      else if maxNameBytes < part.utf8ByteSize then .error .nameTooLong
      else tree.follow (location ++ [part]) parts

def split (tree : FileTree) (path : String) : List String × List String :=
  let parts := (splitAll '/' path.toList).map String.ofList
  if path.startsWith "/" then (parts, []) else (parts, tree.workingDirectory)

def find (tree : FileTree) (path : String) : Except FileError FileNode :=
  if path = "" then .error .missing
  else if path.toList.contains '\x00' then .error .malformedPath
  else if maxPathBytes < path.utf8ByteSize then .error .nameTooLong
  else
    let (parts, start) := tree.split path
    match tree.follow start parts with
    | .error e => .error e
    | .ok location =>
      match tree.node? location with
      | some node => .ok node
      | none => .error .missing

def files (tree : FileTree) : Files where
  bytes path :=
    match tree.find path with
    | .ok (.file bytes) => .ok bytes
    | .ok .directory => .error .isDirectory
    | .error e => .error e
  isPresent path := (tree.find path).isOk

def add (tree : FileTree) (location : List String) (node : FileNode) : FileTree :=
  if (tree.node? location).isSome then tree
  else { tree with nodes := tree.nodes ++ [(location, node)] }

def makeDirectories (tree : FileTree) (location : List String) :
    List String → FileTree × List String
  | [] => (tree, location)
  | part :: parts =>
    if part = "" ∨ part = "." then tree.makeDirectories location parts
    else if part = ".." then tree.makeDirectories location.dropLast parts
    else (tree.add (location ++ [part]) .directory).makeDirectories (location ++ [part]) parts

def addDirectory (tree : FileTree) (path : String) : FileTree :=
  let (parts, start) := tree.split path
  (tree.makeDirectories start parts).1

def addFile (tree : FileTree) (path : String) (bytes : ByteArray) : FileTree :=
  let (parts, start) := tree.split path
  let (tree, location) := tree.makeDirectories start parts.dropLast
  tree.add (location ++ [parts.getLastD ""]) (.file bytes)

end FileTree

end RpcTransport

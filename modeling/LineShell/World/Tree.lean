import LineShell.Path
import LineShell.Text.Utf8
import LineShell.World.Fault

/-! A file tree without links. A place in the tree is the list of names that leads to it. -/

namespace LineShell

inductive FileEntry where
  | content (bytes : Text.Octets)
  | fails (f : SystemFault)
  deriving DecidableEq, Repr

inductive TreeNode where
  | directory
  | file (e : FileEntry)
  deriving DecidableEq, Repr

structure Tree where
  files : List (List Text × FileEntry) := []
  dirs : List (List Text) := []
  deriving DecidableEq, Repr

namespace Tree

def placeOf (path : Text) : List Text :=
  (Path.pieces path).filter (· ≠ [])

def ofPaths (files : List (Text × FileEntry)) (dirs : List Text) : Tree where
  files := files.map fun f => (placeOf f.1, f.2)
  dirs := dirs.map placeOf

def node? (t : Tree) (place : List Text) : Option TreeNode :=
  match t.files.lookup place with
  | some e => some (.file e)
  | none =>
    if place.isEmpty || t.dirs.any place.isPrefixOf || t.files.any (fun f => place.isPrefixOf f.1)
    then some .directory
    else none

def nameLimit : Nat := 255

def pathLimit : Nat := 4096

/-- Walks on from a place, piece by piece. Nothing can be looked up in a file, not even the file
itself. -/
def walk (t : Tree) : (place : List Text) → (pieces : List Text) → Except SystemFault (List Text)
  | place, [] => .ok place
  | place, piece :: rest =>
    match t.node? place with
    | none => .error .noEntry
    | some (.file _) => .error .notDirectory
    | some .directory =>
      if piece = [] || piece = ['.'] then walk t place rest
      else if piece = ['.', '.'] then walk t place.dropLast rest
      else if nameLimit < Text.octetCount piece then .error .nameTooLong
      else if (t.node? (place ++ [piece])).isNone then .error .noEntry
      else walk t (place ++ [piece]) rest

def locate (t : Tree) (path : Text) : Except LookupFault (List Text) :=
  if path.contains '\x00' then .error .nullByte
  else if pathLimit ≤ Text.octetCount path then .error (.system .nameTooLong)
  else (t.walk [] (Path.pieces path).tail).mapError .system

def lookup (t : Tree) (path : Text) : Except LookupFault TreeNode := do
  let place ← t.locate path
  match t.node? place with
  | some n => return n
  | none => throw (.system .noEntry)

def pathExists (t : Tree) (path : Text) : Bool :=
  (t.lookup path).toBool

def isDirectory (t : Tree) (path : Text) : Bool :=
  match t.lookup path with
  | .ok .directory => true
  | _ => false

def read (t : Tree) (path : Text) : Except LookupFault Text.Octets := do
  match ← t.lookup path with
  | .directory => throw (.system .isDirectory)
  | .file (.fails f) => throw (.system f)
  | .file (.content bytes) => return bytes

end Tree

end LineShell

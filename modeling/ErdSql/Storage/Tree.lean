import ErdSql.Storage.Fault
import ErdSql.Storage.Path

/-!
# Directory trees

The files and directories that a program sees, and what a file system does when it is asked to
make a directory or to read or write a file.  A path is followed step by step: each step must
start from a directory, and a step back leads to the directory above.
-/

namespace ErdSql
namespace Storage

/-- A place in the tree: the names that lead there from the directory in which the program was
started.  Places above that directory begin with steps back, places below the root with its
name. -/
abbrev Place : Type := List String

namespace Place

def rootName : String := "/"

def back : String := ".."

def ofStart : PathStart → Place
  | .here => []
  | _ => [rootName]

/-- The directory above a place; nothing is above the root. -/
def above (place : Place) : Place :=
  match place.getLast? with
  | none => [back]
  | some last =>
      if last = back then place ++ [back]
      else if place = [rootName] then place
      else place.dropLast

def follow (place : Place) (step : String) : Place :=
  if step = back then place.above else place ++ [step]

/-- Whether the place is above the directory in which the program was started, or is that
directory or the root; such directories are always there. -/
def isGiven (place : Place) : Bool :=
  place = [rootName] || place.all (· == back)

end Place

/-- What is at a place. -/
inductive Entry where
  | directory
  | file (contents : List UInt8)
deriving DecidableEq, Repr

/-- The files and directories that are there. -/
structure Tree where
  entries : List (Place × Entry) := []
deriving Repr

namespace Tree

/-- The longest name that a directory takes, in bytes. -/
def maxName : Nat := 255

/-- The length that the written form of a path stays below, in bytes. -/
def maxPath : Nat := 4096

/-- What is at a place, if anything is. -/
def get? (tree : Tree) (place : Place) : Option Entry :=
  if place.isGiven then some .directory
  else (tree.entries.find? fun e => e.1 == place).map (·.2)

def set (tree : Tree) (place : Place) (entry : Entry) : Tree :=
  ⟨(tree.entries.filter fun e => e.1 != place) ++ [(place, entry)]⟩

/-- Where the steps lead from a place.  What is at the end of the way is not looked at. -/
def followSteps (tree : Tree) (place : Place) : List String → Except Refusal Place
  | [] => .ok place
  | step :: steps =>
      match tree.get? place with
      | none => .error .missing
      | some (.file _) => .error .notDirectory
      | some .directory =>
          if maxName < step.utf8ByteSize then .error .nameTooLong
          else tree.followSteps (place.follow step) steps

/-- Where a path leads. -/
def resolve (tree : Tree) (path : Path) : Except Refusal Place :=
  if maxPath ≤ path.text.utf8ByteSize then .error .nameTooLong
  else tree.followSteps (Place.ofStart path.start) path.steps

def isDirectory (tree : Tree) (path : Path) : Bool :=
  match tree.resolve path with
  | .error _ => false
  | .ok place => tree.get? place = some .directory

def makeDirectory (tree : Tree) (path : Path) : Except Refusal Tree :=
  match tree.resolve path with
  | .error refusal => .error refusal
  | .ok place =>
      match tree.get? place with
      | some _ => .error .alreadyExists
      | none => .ok (tree.set place .directory)

/-- A tree, and why what was asked for could not be done in full. -/
abbrev Attempt : Type := Tree × Option Fault

/-- The outcome of making a directory that may be there already. -/
def settle (tree : Tree) (path : Path) (refusal : Refusal) : Attempt :=
  if tree.isDirectory path then (tree, none) else (tree, some (.refused refusal path.text))

/-- Makes a directory and all that are missing on the way to it.  The steps are given from the
last one backwards. -/
def makeDirectories (tree : Tree) (start : PathStart) : List String → Attempt
  | [] => (tree, none)
  | last :: before =>
      let path : Path := ⟨start, (last :: before).reverse⟩
      match tree.makeDirectory path with
      | .ok made => (made, none)
      | .error .missing =>
          match tree.makeDirectories start before with
          | (prepared, some fault) => (prepared, some fault)
          | (prepared, none) =>
              match prepared.makeDirectory path with
              | .ok made => (made, none)
              | .error refusal => prepared.settle path refusal
      | .error refusal => tree.settle path refusal

/-- Writes a file in a directory that is there, in place of an older one. -/
def replace (tree : Tree) (path : Path) (contents : List UInt8) : Except Refusal Tree :=
  match tree.resolve path with
  | .error refusal => .error refusal
  | .ok place =>
      match tree.get? place with
      | some .directory => .error .isDirectory
      | _ => .ok (tree.set place (.file contents))

def contentsAt (tree : Tree) (path : Path) : Except Fault (List UInt8) :=
  if path.hasNull then
    .error .nullCharacter
  else
    match tree.resolve path with
    | .error refusal => .error (.refused refusal path.text)
    | .ok place =>
        match tree.get? place with
        | none => .error (.refused .missing path.text)
        | some .directory => .error (.refused .isDirectory path.text)
        | some (.file contents) => .ok contents

/-- Writes a file, after making the directories that are missing on the way to it. -/
def store (tree : Tree) (path : Path) (contents : List UInt8) : Attempt :=
  if path.parent.hasNull then
    (tree, some .nullCharacter)
  else
    match tree.makeDirectories path.start path.parent.steps.reverse with
    | (prepared, some fault) => (prepared, some fault)
    | (prepared, none) =>
        if path.hasNull then
          (prepared, some .nullCharacter)
        else
          match prepared.replace path contents with
          | .error refusal => (prepared, some (.refused refusal path.text))
          | .ok written => (written, none)

/-- The files below the directory in which the program was started, each with its path from
there, in the order of the paths. -/
def files (tree : Tree) : List (String × List UInt8) :=
  let found := tree.entries.filterMap fun (place, entry) =>
    match place.head?, entry with
    | some first, .file contents =>
        if first = Place.back || first = Place.rootName then none
        else some (String.intercalate "/" place, contents)
    | _, _ => none
  found.mergeSort fun a b => a.1 ≤ b.1

end Tree
end Storage
end ErdSql

import ErdSql.Storage.Tree

/-!
# Sinks

Where generated files go: into memory, or below a directory.  A write that fails may leave
traces, so a write always gives the sink as it is afterwards.
-/

namespace ErdSql
namespace Storage

/-- A destination for files. -/
class Sink (σ : Type) where
  /-- The destination in words. -/
  location : σ → String
  /-- Writes a text to a path; the sink afterwards, and the fault if the write fails. -/
  write : σ → String → String → σ × Option Fault
  /-- What the log says of a text written to a path. -/
  noted : σ → String → String → String

/-- How much of a file has been written, for the log. -/
def charCount (text : String) : String :=
  " (" ++ toString text.length ++ " chars)"

/-- Files in memory, in the order in which they were first written. -/
structure Memory where
  location : String := "<memory>"
  files : List (String × String) := []
deriving DecidableEq, Repr

namespace Memory

def setFile (path text : String) : List (String × String) → List (String × String)
  | [] => [(path, text)]
  | file :: files =>
      if file.1 = path then (path, text) :: files else file :: setFile path text files

/-- With a file written, in place of an older one. -/
def write (memory : Memory) (path text : String) : Memory :=
  { memory with files := setFile path text memory.files }

end Memory

instance : Sink Memory where
  location := Memory.location
  write memory path text := (memory.write path text, none)
  noted _ path text := "Captured " ++ path ++ charCount text

/-- Files below a directory. -/
structure Local where
  base : Path
  tree : Tree := {}
  /-- What was written, the last file last; a file written twice is there twice. -/
  written : List (Path × String) := []
deriving Repr

namespace Local

def target (sink : Local) (path : String) : Path :=
  sink.base.join (.ofString path)

def write (sink : Local) (path text : String) : Local × Option Fault :=
  match sink.tree.store (sink.target path) text.toUTF8.toList with
  | (tree, some fault) => ({ sink with tree := tree }, some fault)
  | (tree, none) =>
      ({ sink with tree := tree, written := sink.written ++ [(sink.target path, text)] }, none)

end Local

instance : Sink Local where
  location sink := sink.base.text
  write := Local.write
  noted sink path text := "Wrote " ++ (sink.target path).text ++ charCount text

/-- A sink one of whose writes fails without leaving traces, and that works otherwise. -/
structure Faulty (σ : Type) where
  sink : σ
  /-- The number of the write that fails; the first write has the number one. -/
  failing : Nat
  fault : Fault
  /-- How many writes have been tried. -/
  attempts : Nat := 0

namespace Faulty

variable {σ : Type} [Sink σ]

def write (faulty : Faulty σ) (path text : String) : Faulty σ × Option Fault :=
  let next := { faulty with attempts := faulty.attempts + 1 }
  if next.attempts = next.failing then
    (next, some next.fault)
  else
    match Sink.write next.sink path text with
    | (sink, fault) => ({ next with sink := sink }, fault)

end Faulty

instance {σ : Type} [Sink σ] : Sink (Faulty σ) where
  location faulty := Sink.location faulty.sink
  write := Faulty.write
  noted faulty := Sink.noted faulty.sink

end Storage
end ErdSql

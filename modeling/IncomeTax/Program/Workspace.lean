import IncomeTax.Program.FileTree

/-!
# Workspaces in memory

A workspace is a tree of files together with what has been printed on the stream for errors. In a
workspace no time passes, so a run leaves the same behind each time.

## Main definitions

* `Workspace` — files and printed errors
* `Workspace.surroundings` — what a run deals with in a workspace
-/

namespace IncomeTax

/-- A tree of files, and what has been printed on the stream for errors. -/
structure Workspace where
  tree : FileTree
  errors : String

namespace Workspace

/-- What a run deals with in the workspace that is the state of a computation. -/
def surroundings : Surroundings (StateM Workspace) where
  read path := return (← get).tree.read path
  isDirectory path := return (← get).tree.isDirectory path
  isPresent path := return (← get).tree.isPresent path
  openForAppending path := do
    match (← get).tree.openForAppending path with
    | some tree => modify ({ · with tree }); return true
    | none => return false
  append path text := modify fun w => { w with tree := w.tree.append path text }
  time := return "1970-01-01T00:00:00.000+00:00"
  printError text := modify fun w => { w with errors := w.errors ++ text }

end Workspace

end IncomeTax

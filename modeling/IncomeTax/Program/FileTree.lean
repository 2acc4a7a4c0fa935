import IncomeTax.Program.Files

/-!
# Trees of files in memory

A tree of files maps paths to contents. Every proper beginning of the path of a file is a directory,
and so is the empty path, where the tree is rooted. Paths are resolved part by part from the root of
the tree: empty parts and single dots stay where they are, double dots go up, and every part but the
last must be a directory. The length of a path and of each of its parts is limited.

A path can also lead out of the tree, upwards or because it starts with a slash. All that is known
there are the directories that contain the tree, the ones that every system has, and the devices
that are always empty.

## Main definitions

* `FileTree` — contents by path
* `FileTree.resolve` — what is at a path
* `FileTree.access` — the operations on a tree that is the state of a computation
-/

namespace IncomeTax

/-- Contents of files, by the parts of their paths. -/
structure FileTree where
  files : List (List String × List UInt8)

namespace FileTree

/-- The parts of a path. -/
def parts (path : String) : List String :=
  go [] path.toList
where
  go (part : List Char) : List Char → List String
    | [] => [String.ofList part.reverse]
    | c :: cs =>
      if c == '/' then String.ofList part.reverse :: go [] cs else go (c :: part) cs

/-- The parts of a path that name something. -/
def namedParts (path : String) : List String := (parts path).filter fun p => p != "" && p != "."

/-- The tree of a list of paths and contents. -/
def ofList (files : List (String × List UInt8)) : FileTree :=
  ⟨files.map fun (path, contents) => (namedParts path, contents)⟩

/-- What is at a path: a directory or a file, with its own path from the root of the tree, a
directory outside, with its path if that is known, or a device. -/
inductive Node where
  | directory (path : List String)
  | file (path : List String) (contents : List UInt8)
  | outside (path : Option (List String))
  | device

/-- What is at a path of named parts. -/
def node? (tree : FileTree) (path : List String) : Option Node :=
  match tree.files.find? (·.1 == path) with
  | some (_, contents) => some (.file path contents)
  | none =>
    if tree.files.any fun (other, _) => path.isPrefixOf other then some (.directory path) else none

/-- The greatest number of bytes in a path. -/
def maxPathSize : Nat := 4095

/-- The greatest number of bytes in a part of a path. -/
def maxPartSize : Nat := 255

/-- Whether a part of a path is too long to name anything. -/
def isTooLong (part : String) : Bool := maxPartSize < part.utf8ByteSize

/-- Directories in which everyone may make files. -/
def sharedDirectories : List (List String) := [["tmp"], ["var", "tmp"], ["dev", "shm"]]

/-- Directories that every system has. -/
def systemDirectories : List (List String) :=
  sharedDirectories ++ [["bin"], ["boot"], ["dev"], ["etc"], ["home"], ["lib"], ["media"], ["mnt"],
    ["opt"], ["proc"], ["root"], ["run"], ["sbin"], ["srv"], ["sys"], ["usr"], ["usr", "bin"],
    ["usr", "lib"], ["usr", "local"], ["usr", "sbin"], ["usr", "share"], ["var"], ["var", "log"]]

/-- Devices that are empty, whatever is added to them. -/
def emptyDevices : List (List String) :=
  [["dev", "null"], ["dev", "stdin"], ["dev", "stdout"], ["dev", "stderr"]]

/-- Follows the parts of a path from a directory outside the tree. -/
def walkOutside (here : Option (List String)) : List String → Except FileFailure Node
  | [] => .ok (.outside here)
  | part :: rest =>
    if part == "" || part == "." then walkOutside here rest
    else if part == ".." then walkOutside (here.map List.dropLast) rest
    else if isTooLong part then .error .nameTooLong
    else
      match here.map (· ++ [part]) with
      | none => .error .notFound
      | some path =>
        if systemDirectories.contains path then walkOutside (some path) rest
        else if emptyDevices.contains path then
          if rest.isEmpty then .ok .device else .error .notDirectory
        else .error .notFound

/-- Follows the parts of a path from a directory. -/
def walk (tree : FileTree) (here : List String) : List String → Except FileFailure Node
  | [] => .ok (.directory here)
  | part :: rest =>
    if part == "" || part == "." then tree.walk here rest
    else if part == ".." then
      if here.isEmpty then walkOutside none rest else tree.walk here.dropLast rest
    else if isTooLong part then .error .nameTooLong
    else
      match tree.node? (here ++ [part]) with
      | none => .error .notFound
      -- A file ends its path, even before a slash.
      | some (.file path contents) =>
        if rest.isEmpty then .ok (.file path contents) else .error .notDirectory
      | some _ => tree.walk (here ++ [part]) rest

/-- What the parts of a path lead to, which start with an empty one if the path is absolute. -/
def follow (tree : FileTree) : List String → Except FileFailure Node
  | "" :: rest => walkOutside (some []) rest
  | path => tree.walk [] path

/-- What is at a path. -/
def resolve (tree : FileTree) (path : String) : Except FileFailure Node :=
  if path.toList.contains '\x00' then .error .zeroInName
  else if path.isEmpty then .error .notFound
  else if maxPathSize < path.utf8ByteSize then .error .nameTooLong
  else tree.follow (parts path)

/-- The contents of the file at a path. -/
def read (tree : FileTree) (path : String) : Except FileFailure (List UInt8) :=
  match tree.resolve path with
  | .ok (.file _ contents) => .ok contents
  | .ok .device => .ok []
  | .ok _ => .error .isDirectory
  | .error e => .error e

/-- Whether there is a directory at a path. -/
def isDirectory (tree : FileTree) (path : String) : Bool :=
  match tree.resolve path with
  | .ok (.directory _) | .ok (.outside _) => true
  | _ => false

/-- Whether there is anything at a path. -/
def isPresent (tree : FileTree) (path : String) : Bool := (tree.resolve path).toOption.isSome

/-- The tree with a new file in a directory, if one may be made there. A file outside leaves the
tree as it is. -/
def withNew (tree : FileTree) (directory : Node) (name : String) : Option FileTree :=
  if name == "" || name == "." || name == ".." then none
  else
    match directory with
    | .directory here => some ⟨tree.files ++ [(here ++ [name], [])]⟩
    | .outside here => if here.all sharedDirectories.contains then some tree else none
    | _ => none

/-- The tree after a file has been opened for adding to it, if that is possible. -/
def openForAppending (tree : FileTree) (path : String) : Option FileTree :=
  match tree.resolve path with
  | .ok (.file ..) | .ok .device => some tree
  | .ok _ => none
  | .error .notFound =>
    let all := parts path
    match tree.follow all.dropLast, all.getLast? with
    | .ok directory, some name => tree.withNew directory name
    | _, _ => none
  | .error _ => none

/-- The tree with a text added to the file at a path. -/
def append (tree : FileTree) (path text : String) : FileTree :=
  match tree.resolve path with
  | .ok (.file found _) =>
    ⟨tree.files.map fun (other, contents) =>
      (other, if other == found then contents ++ text.toUTF8.toList else contents)⟩
  | _ => tree

/-- The operations on the tree that is the state of a computation. -/
def access : FileAccess (StateM FileTree) where
  read path := return (← get).read path
  isDirectory path := return (← get).isDirectory path
  isPresent path := return (← get).isPresent path
  openForAppending path := do
    match (← get).openForAppending path with
    | some tree => set tree; return true
    | none => return false
  append path text := modify (·.append path text)

end FileTree

end IncomeTax

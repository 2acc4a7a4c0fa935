import IncomeTax.OrderedMap
import IncomeTax.Text.Utf8

/-!
# Access to files

A program gets at files through five operations, which can be those of a computer or those of a tree
of files held in memory. Paths are texts whose parts are separated by slashes. A run of a program
also needs the time and a place for errors.

## Main definitions

* `FileFailure` — why a file cannot be read, with its wording
* `FileAccess` — the operations on files
* `Surroundings` — all that a run deals with
* `joinPath` — the path of a file in a directory
-/

namespace IncomeTax

/-- Why a file cannot be read. -/
inductive FileFailure where
  | notFound
  | notDirectory
  | isDirectory
  | nameTooLong
  | zeroInName
  | notText
  | other (message : String)
  deriving DecidableEq

/-- The wording of the failure. -/
def FileFailure.message : FileFailure → String
  | .notFound => "No such file or directory (os error 2)"
  | .notDirectory => "Not a directory (os error 20)"
  | .isDirectory => "Is a directory (os error 21)"
  | .nameTooLong => "File name too long (os error 36)"
  | .zeroInName => "file name contained an unexpected NUL byte"
  | .notText => "stream did not contain valid UTF-8"
  | .other message => message

/-- The ways in which a program gets at files: reading one, telling a directory, telling whether
there is anything at a path, opening a file for adding to it, which makes the file if it is not
there, and adding a text to such a file. -/
structure FileAccess (m : Type → Type) where
  read : String → m (Except FileFailure (List UInt8))
  isDirectory : String → m Bool
  isPresent : String → m Bool
  openForAppending : String → m Bool
  append : String → String → m Unit

/-- What a run deals with: files, the time, as it is written in a log, and the stream for errors. -/
structure Surroundings (m : Type → Type) extends FileAccess m where
  time : m String
  printError : String → m Unit

/-- The text of a file. -/
def FileAccess.readText {m : Type → Type} [Monad m] (files : FileAccess m) (path : String) :
    m (Except FileFailure String) := do
  match ← files.read path with
  | .error e => return .error e
  | .ok bytes =>
    match Text.ofUtf8 bytes with
    | .ok s => return .ok s
    | .error _ => return .error .notText

/-- The path of a file in a directory. -/
def joinPath (directory file : String) : String :=
  if directory.isEmpty || directory.toList.getLast? == some '/' then directory ++ file
  else directory ++ "/" ++ file

end IncomeTax

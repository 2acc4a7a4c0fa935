import IncomeTax.Program.CommandLine
import Std.Time.Format

/-!
# The program

Runs the command line on the files of the computer. A run reads files, logs on standard error and in
its log file, prints its outcome on standard output and the error that ended it on standard error.
-/

namespace IncomeTax

/-- Whether a path can be opened for reading. -/
def opens (path : String) : IO Bool := do
  try
    let _ ← IO.FS.Handle.mk path .read
    return true
  catch _ => return false

/-- Whether there is a directory at a path; the empty path leads nowhere. -/
def opensDirectory (path : String) : IO Bool :=
  if path.isEmpty then return false else opens (path ++ "/.")

/-- The contents of a file. -/
def readBytes (path : String) : IO (Except FileFailure (List UInt8)) := do
  try
    return .ok (← IO.FS.readBinFile path).toList
  catch
    | .noFileOrDirectory .. => return .error .notFound
    | e => return .error (if ← opensDirectory path then .isDirectory else .other (toString e))

/-- Opens a file for adding to it; tells whether that went well. -/
def opensForAppending (path : String) : IO Bool := do
  try
    let _ ← IO.FS.Handle.mk path .append
    return true
  catch _ => return false

/-- Adds a text to a file; a log that cannot be written stops nothing. -/
def appendText (path text : String) : IO Unit := do
  try
    let file ← IO.FS.Handle.mk path .append
    file.putStr text
  catch _ => return

/-- The local time to the millisecond, with its distance from universal time. -/
def localTime : IO String := do
  return (← Std.Time.DateTime.now).format "uuuu-MM-dd'T'HH:mm:ss.SSSxxx"

/-- What a run deals with on a computer. -/
def computer : Surroundings IO where
  read := readBytes
  isDirectory := opensDirectory
  isPresent := opens
  openForAppending := opensForAppending
  append := appendText
  time := localTime
  printError text := do (← IO.getStderr).putStr text

end IncomeTax

open IncomeTax in
/-- Runs the program with its arguments. -/
def main (args : List String) : IO UInt32 := do
  let environment ← IO.getEnv "RUST_LOG"
  let result ← CommandLine.run computer environment args
  (← IO.getStdout).putStr result.output
  if let some message := result.error then
    (← IO.getStderr).putStrLn ("Error: " ++ message)
  return UInt32.ofNat result.code

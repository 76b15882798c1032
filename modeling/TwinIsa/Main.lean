import TwinIsa.Command.Assemble
import TwinIsa.Command.Disassemble

/-!
The commands on the disk. The first argument names the command, the others are its own.
-/

namespace TwinIsa

open Command

def systemError : IO.Error → SystemError
  | .noFileOrDirectory _ _ _ => .noSuchFile
  | .alreadyExists _ _ _ => .alreadyExists
  | .inappropriateType _ 20 _ => .notADirectory
  | .inappropriateType _ 21 _ => .isADirectory
  | .invalidArgument _ 36 _ => .nameTooLong
  | error => .other (toString error)

def guarded {α : Type} (action : IO α) : IO (Except SystemError α) := do
  match ← action.toBaseIO with
  | .ok value => return .ok value
  | .error error => return .error (systemError error)

/-- Open a path and read what is there; reading is what a directory refuses. -/
def openOnDisk (path : String) : IO Opened := do
  let handle ← IO.FS.Handle.mk path .read
  match ← guarded handle.readBinToEnd with
  | .ok contents => return .bytes contents
  | .error _ => return .directory

def diskFiles : Files IO where
  openPath path := guarded (openOnDisk path)
  isDirectory path := do
    match ← guarded (openOnDisk path) with
    | .ok .directory => return true
    | _ => return false
  makeDirectory path := guarded (IO.FS.createDir path)
  writeText path text := guarded (IO.FS.writeFile path text)

def conclude (outcome : Outcome) : IO UInt32 := do
  (← IO.getStdout).putStr outcome.output
  (← IO.getStderr).putStr outcome.errors
  return UInt32.ofNat outcome.status

end TwinIsa

open TwinIsa in
def main (arguments : List String) : IO UInt32 := do
  match arguments with
  | command :: arguments =>
      if command == Command.Assemble.name then
        conclude (← Command.Assemble.command diskFiles arguments)
      else if command == Command.Disassemble.name then
        conclude (← Command.Disassemble.command diskFiles arguments)
      else
        conclude (.misused (.unexpected command))
  | [] => conclude (.misused (.missingOperand "COMMAND"))

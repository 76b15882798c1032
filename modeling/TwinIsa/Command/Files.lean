import TwinIsa.Assembly
import TwinIsa.Text.Blank

/-!
What commands do with files. A command is written against `Files m`, the few operations that it
needs in a monad `m`; run in `IO` they act on the disk, run in a state monad on a `FileTree`.
-/

namespace TwinIsa.Command

inductive SystemError where
  | noSuchFile
  | alreadyExists
  | notADirectory
  | isADirectory
  | nameTooLong
  | other (text : String)
  deriving DecidableEq, Repr

namespace SystemError

def message : SystemError → String
  | noSuchFile => "No such file or directory (os error 2)"
  | alreadyExists => "File exists (os error 17)"
  | notADirectory => "Not a directory (os error 20)"
  | isADirectory => "Is a directory (os error 21)"
  | nameTooLong => "File name too long (os error 36)"
  | other text => text

end SystemError

/-- What opening a path gives. A directory can be opened, but not read. -/
inductive Opened where
  | bytes (contents : ByteArray)
  | directory

structure Files (m : Type → Type) where
  openPath : String → m (Except SystemError Opened)
  isDirectory : String → m Bool
  makeDirectory : String → m (Except SystemError Unit)
  writeText : String → String → m (Except SystemError Unit)

/-! ## Paths -/

/-- Whether a segment of a path, other than the first, leads nowhere else. -/
def isIdleSegment (segment : List Char) : Bool :=
  segment.isEmpty || segment == ['.']

/-- The path with these segments, last first. A first segment that is empty stands for the root. -/
def pathOfSegments : List (List Char) → String
  | [[]] => "/"
  | segments => String.ofList (['/'].intercalate segments.reverse)

def pathsThrough : List (List Char) → List String
  | [] => []
  | segment :: outer =>
      if isIdleSegment segment && !outer.isEmpty then pathsThrough outer
      else pathOfSegments (segment :: outer) :: pathsThrough outer

/-- The directories around a path, innermost first, as far as the path names them. -/
def parents (path : String) : List String :=
  (pathsThrough (Text.pieces (· == '/') path.toList).reverse).tail

example : parents "p//q/o.hex" = ["p//q", "p"] ∧ parents "o.hex" = [] ∧ parents "/o" = ["/"] := by
  decide

namespace Files

variable {m : Type → Type} [Monad m]

def readText (files : Files m) (path : String) : m (Except InputError String) := do
  match ← files.openPath path with
  | .error error => return .error (.unavailable error.message)
  | .ok .directory => return .error (.unavailable SystemError.isADirectory.message)
  | .ok (.bytes contents) =>
      match String.fromUTF8? contents with
      | some text => return .ok text
      | none => return .error .notText

def makeDirectories (files : Files m) : List String → m (Except SystemError Unit)
  | [] => return .ok ()
  | path :: outer => do
      match ← files.makeDirectory path with
      | .ok () => return .ok ()
      | .error .noSuchFile =>
          match ← makeDirectories files outer with
          | .error error => return .error error
          | .ok () => makeUnlessThere path
      | .error error => unlessThere path error
where
  /-- An error that does not matter if the path is a directory. -/
  unlessThere (path : String) (error : SystemError) : m (Except SystemError Unit) := do
    if ← files.isDirectory path then return .ok () else return .error error
  makeUnlessThere (path : String) : m (Except SystemError Unit) := do
    match ← files.makeDirectory path with
    | .ok () => return .ok ()
    | .error error => unlessThere path error

end Files

end TwinIsa.Command

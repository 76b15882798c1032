import TwinIsa.Command.Files

/-!
The files under a working directory as a value. Operations follow paths segment by segment, so a
path may pass only through directories; they change nothing when they fail.
-/

namespace TwinIsa.Command

/-- The names that lead from the working directory to a file or directory. -/
abbrev Location := List String

inductive Entry where
  | file (contents : ByteArray)
  | directory

/-- The files and directories below the working directory, which itself is always there. -/
structure FileTree where
  entries : List (Location × Entry)

inductive Place where
  | occupied (location : Location) (entry : Entry)
  | vacant (location : Location)

namespace FileTree

def empty : FileTree := ⟨[]⟩

def entry? (tree : FileTree) (location : Location) : Option Entry :=
  if location.isEmpty then some .directory else tree.entries.lookup location

def put (tree : FileTree) (location : Location) (entry : Entry) : FileTree :=
  ⟨(location, entry) :: tree.entries.filter (·.1 != location)⟩

def longestName : Nat := 255

def longestPath : Nat := 4095

def isUpwardSegment (segment : List Char) : Bool :=
  isIdleSegment segment || segment == ['.', '.']

/-- A path that leaves the tree. Nothing is known of what is outside but that the directories around
the tree are there. -/
def outside (rest : List (List Char)) : Except SystemError Place :=
  if rest.all isUpwardSegment then .ok (.occupied [] .directory) else .error .noSuchFile

def follow (tree : FileTree) (location : Location) : List (List Char) → Except SystemError Place
  | [] =>
      match tree.entry? location with
      | some entry => .ok (.occupied location entry)
      | none => .ok (.vacant location)
  | segment :: rest =>
      match tree.entry? location with
      | none => .error .noSuchFile
      | some (.file _) => .error .notADirectory
      | some .directory =>
          if isIdleSegment segment then tree.follow location rest
          else if segment = ['.', '.'] then
            if location.isEmpty then outside rest
            else tree.follow location.dropLast rest
          else if longestName < (String.ofList segment).utf8ByteSize then .error .nameTooLong
          else tree.follow (location ++ [String.ofList segment]) rest

def locate (tree : FileTree) (path : String) : Except SystemError Place :=
  if longestPath < path.utf8ByteSize then .error .nameTooLong
  else if path.isEmpty then .error .noSuchFile
  else
    match Text.pieces (· == '/') path.toList with
    | [] :: rest => outside rest
    | segments => tree.follow [] segments

def openPath (tree : FileTree) (path : String) : Except SystemError Opened :=
  match tree.locate path with
  | .error error => .error error
  | .ok (.vacant _) => .error .noSuchFile
  | .ok (.occupied _ .directory) => .ok .directory
  | .ok (.occupied _ (.file contents)) => .ok (.bytes contents)

def isDirectory (tree : FileTree) (path : String) : Bool :=
  match tree.locate path with
  | .ok (.occupied _ .directory) => true
  | _ => false

def withoutSlashes (path : String) : String :=
  String.ofList (path.toList.reverse.dropWhile (· == '/')).reverse

def makeDirectory (tree : FileTree) (path : String) : Except SystemError FileTree :=
  match tree.locate (if (withoutSlashes path).isEmpty then path else withoutSlashes path) with
  | .error error => .error error
  | .ok (.occupied _ _) => .error .alreadyExists
  | .ok (.vacant location) => .ok (tree.put location .directory)

def writeText (tree : FileTree) (path text : String) : Except SystemError FileTree :=
  match tree.locate (if (withoutSlashes path).isEmpty then path else withoutSlashes path) with
  | .error error => .error error
  | .ok (.occupied _ .directory) => .error .isADirectory
  | .ok (.occupied location (.file _)) => store location
  | .ok (.vacant location) => store location
where
  store (location : Location) : Except SystemError FileTree :=
    if path.toList.getLast? = some '/' then .error .isADirectory
    else .ok (tree.put location (.file text.toUTF8))

def attempt (change : FileTree → Except SystemError FileTree) :
    StateM FileTree (Except SystemError Unit) := fun tree =>
  match change tree with
  | .ok changed => (.ok (), changed)
  | .error error => (.error error, tree)

def files : Files (StateM FileTree) where
  openPath path := fun tree => (tree.openPath path, tree)
  isDirectory path := fun tree => (tree.isDirectory path, tree)
  makeDirectory path := attempt (·.makeDirectory path)
  writeText path text := attempt (·.writeText path text)

end FileTree

end TwinIsa.Command

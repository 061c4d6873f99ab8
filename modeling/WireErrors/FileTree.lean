import WireErrors.ModelFile

/-!
# File trees

The files and directories of a system and the directory that a program works in, and what reading and
writing paths does. A path leads from the top of the tree if it starts with `/`, and from the working
directory if not.
-/

namespace WireErrors

/-- Files and directories, by the components of their paths from the top. -/
structure FileTree where
  /-- The working directory; it is there, and so are the directories that it is in. -/
  work : List String := []
  files : List (List String × ByteArray) := []
  /-- Directories, which may be empty; those that a file is in need not be among them. -/
  directories : List (List String) := []

namespace FileTree

/-- The components of a path; blank ones and `.` stand for the directory that they are in. -/
def components (path : String) : List String := (Text.splitAt '/' path.toList).map String.ofList

def hasFile (tree : FileTree) (place : List String) : Bool := tree.files.any (·.1 == place)

/-- Whether a place is a directory: one that the working directory is in, one of its own or one with
a file somewhere below it. -/
def hasDirectory (tree : FileTree) (place : List String) : Bool :=
  place.isPrefixOf tree.work || tree.directories.contains place ||
    tree.files.any fun (file, _) => place.length < file.length && place.isPrefixOf file

/-- Where a path leads. -/
inductive Place where
  | file (place : List String)
  | directory
  /-- Nothing is there, but the directory that would hold it is. -/
  | vacant (place : List String)
deriving DecidableEq

/-- Follows components from a directory on; the top of the tree is above itself. -/
def follow (tree : FileTree) (here : List String) : List String → Except FileFailure Place
  | [] => .ok .directory
  | component :: rest =>
    if component.isEmpty || component == "." then follow tree here rest
    else if component == ".." then follow tree here.dropLast rest
    else if 255 < component.utf8ByteSize then .error .nameTooLong
    else
      let place := here ++ [component]
      if tree.hasFile place then
        if rest.isEmpty then .ok (.file place) else .error .notDirectory
      else if tree.hasDirectory place then follow tree place rest
      else if rest.all String.isEmpty then .ok (.vacant place)
      else .error .notFound

/-- Refuses what the system takes for no path. -/
def checkPath (path : String) : Except FileFailure Unit :=
  if path.toList.contains '\x00' then .error .invalidPath
  else if path.isEmpty then .error .notFound
  else if 4095 < path.utf8ByteSize then .error .nameTooLong
  else .ok ()

/-- The directory that the components of a path lead from: the top of the tree if the first one is
blank. -/
def start (tree : FileTree) (components : List String) : List String :=
  if components.head? = some "" then [] else tree.work

/-- Where the components of a path lead. -/
def find (tree : FileTree) (components : List String) : Except FileFailure Place :=
  tree.follow (tree.start components) components

/-- The bytes of the file at a place. -/
def bytes? (tree : FileTree) (place : List String) : Option ByteArray := tree.files.lookup place

/-- The text of the file that a path leads to. -/
def read (tree : FileTree) (path : String) : Except FileFailure String := do
  checkPath path
  match ← tree.find (components path) with
  | .file place =>
    match (tree.bytes? place).bind String.fromUTF8? with
    | some text => .ok text
    | none => .error .notText
  | .directory => .error .isDirectory
  | .vacant _ => .error .notFound

/-- The tree with the given bytes as the file at a place. -/
def put (tree : FileTree) (place : List String) (bytes : ByteArray) : FileTree :=
  { tree with files := (place, bytes) :: tree.files.filter (·.1 != place) }

/-- The components of a path without the last one that is not blank. -/
def above (components : List String) : List String :=
  ((components.reverse.dropWhile String.isEmpty).drop 1).reverse

/-- The tree after a text is written to a path. A path that ends with `/` is that of a directory,
which holds no text, once the directory above it is found; whether it is there is of no account. -/
def write (tree : FileTree) (path text : String) : Except FileFailure FileTree := do
  checkPath path
  if path.endsWith "/" then
    match ← tree.find (above (components path)) with
    | .directory => .error .isDirectory
    | .file _ => .error .notDirectory
    | .vacant _ => .error .notFound
  else
    match ← tree.find (components path) with
    | .file place | .vacant place => .ok (tree.put place text.toUTF8)
    | .directory => .error .isDirectory

/-- Adds a file by the components of its path, from a directory on, with the directories on the way
to it. -/
def add (tree : FileTree) (bytes : ByteArray) (here : List String) : List String → FileTree
  | [] => tree
  | component :: rest =>
    if component.isEmpty || component == "." then add tree bytes here rest
    else if component == ".." then add tree bytes here.dropLast rest
    else
      let place := here ++ [component]
      if rest.isEmpty then tree.put place bytes
      else add { tree with directories := place :: tree.directories } bytes place rest

/-- The tree with the given files, of which a later one replaces an earlier one in its place. -/
def ofList (files : List (String × ByteArray)) (work : List String := ["tmp", "work"]) : FileTree :=
  files.foldl (fun tree (path, bytes) =>
    tree.add bytes (tree.start (components path)) (components path)) { work }

end FileTree

end WireErrors

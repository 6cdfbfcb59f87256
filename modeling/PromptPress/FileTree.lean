import PromptPress.Path.Relative

/-!
# File trees

The files and folders below a root directory, each under the segments of its path.  A file is written
together with the folders above it; writing it again replaces its content.  `entries` lists the files
as they stand in an archive: in each folder the files before the folders, both in the order of their
names.
-/

namespace PromptPress

/-- The segments of a path below the root. -/
abbrev FilePath := List String

/-- Why a file cannot be written. -/
inductive WriteError where
  /-- The folder that the file belongs in is a file. -/
  | folderIsFile
  /-- A folder further up is a file. -/
  | ancestorIsFile
  /-- There is a folder in the place of the file. -/
  | isFolder
  | nameTooLong
deriving DecidableEq, Inhabited

/-- Why a file cannot be read. -/
inductive ReadFault where
  | missing
  /-- A file stands in the place of a folder on the way. -/
  | notFolder
  /-- The path names a folder. -/
  | isFolder
  | nameTooLong
deriving DecidableEq, Inhabited

/-- What is said about a path that cannot be read. -/
def ReadFault.message (fault : ReadFault) (path : String) : String :=
  let cause := match fault with
    | missing => "[Errno 2] No such file or directory"
    | notFolder => "[Errno 20] Not a directory"
    | isFolder => "[Errno 21] Is a directory"
    | nameTooLong => "[Errno 36] File name too long"
  s!"{cause}: {Text.quotedString path}"

/-- How files are read: the content of the file at a path, or why there is none. -/
abbrev FileReader := String → Except ReadFault (List UInt8)

/-- The files and folders below a root directory. -/
structure FileTree where
  files : List (FilePath × List UInt8) := []
  /-- Folders that exist even if they hold no file. -/
  folders : List FilePath := []

namespace FileTree

/-- The most bytes that a name may have. -/
def maxNameBytes : Nat := 255

/-- The most bytes that a path may have. -/
def maxPathBytes : Nat := 4095

/-- The content of the file at a path. -/
def file? (tree : FileTree) (path : FilePath) : Option (List UInt8) :=
  (tree.files.find? (·.1 == path)).map (·.2)

/-- Whether there is a folder at a path. -/
def isFolder (tree : FileTree) (path : FilePath) : Bool :=
  path.isEmpty || tree.folders.any (path.isPrefixOf ·) ||
    tree.files.any fun file => path.isPrefixOf file.1 && path.length < file.1.length

/-- Walks down the folders above a file: `above` holds the segments passed, and the list those that
are to come, the name of the file last. -/
def checkFolders (tree : FileTree) (above : FilePath) : FilePath → Except WriteError Unit
  | [] | [_] => .ok ()
  | segment :: next :: rest =>
    let here := above ++ [segment]
    if maxNameBytes < segment.utf8ByteSize then .error .nameTooLong
    else if (tree.file? here).isSome then
      .error (if rest.isEmpty then .folderIsFile else .ancestorIsFile)
    else tree.checkFolders here (next :: rest)

/-- Replaces the content of a file, or adds the file at the end. -/
def put (path : FilePath) (content : List UInt8) :
    List (FilePath × List UInt8) → List (FilePath × List UInt8)
  | [] => [(path, content)]
  | (other, old) :: rest =>
    if other = path then (path, content) :: rest else (other, old) :: put path content rest

/-- Whether the name of a file is too long. -/
def hasLongName (path : FilePath) : Bool :=
  (path.getLast?.map fun name => decide (maxNameBytes < name.utf8ByteSize)).getD false

/-- Writes a file and the folders above it. -/
def write (tree : FileTree) (path : FilePath) (content : List UInt8) : Except WriteError FileTree :=
  match tree.checkFolders [] path with
  | .error e => .error e
  | .ok () =>
    if hasLongName path then .error .nameTooLong
    else if tree.isFolder path then .error .isFolder
    else .ok { tree with files := put path content tree.files }

/-- Adds a folder. -/
def addFolder (tree : FileTree) (path : FilePath) : FileTree :=
  { tree with folders := tree.folders ++ [path] }

/-- Walks from a folder along the segments of a path to the content of a file. -/
def readFrom (tree : FileTree) (here : FilePath) : List String → Except ReadFault (List UInt8)
  | [] => if tree.isFolder here then .error .isFolder else (tree.file? here).elim (.error .missing) .ok
  | segment :: rest =>
    if (tree.file? here).isSome then .error .notFolder
    else if !tree.isFolder here then .error .missing
    else if segment = ".." then
      if here.isEmpty then .error .missing else tree.readFrom here.dropLast rest
    else if maxNameBytes < segment.utf8ByteSize then .error .nameTooLong
    else tree.readFrom (here ++ [segment]) rest

/-- The segments of a path that count on the way to a file. -/
def pathSegments (path : String) : List String :=
  ((Path.segments path.toList).map String.ofList).filter fun s => s != "" && s != "."

/-- The tree of some files and folders; a folder comes without a content. -/
def ofFiles (files : List (String × Option (List UInt8))) : FileTree :=
  files.foldl (fun tree (name, content) =>
    match content with
    | none => tree.addFolder (pathSegments name)
    | some content => { tree with files := put (pathSegments name) content tree.files }) {}

/-- The path of a file as messages show it, without segments that do not count. -/
def shownPath (path : String) : String :=
  let inside := "/".intercalate (pathSegments path)
  if path.toList.head? == some '/' then "/" ++ inside
  else if inside == "" then "." else inside

/-- Reads the file at a path; there is nothing outside the tree. -/
def read (tree : FileTree) : FileReader := fun path =>
  if maxPathBytes < (shownPath path).utf8ByteSize then .error .nameTooLong
  else
    let tree := if path.toList.head? == some '/' then {} else tree
    tree.readFrom [] (pathSegments path)

/-- Whether a file can be written at a path, given that folders are not made for it. -/
def acceptsFile (tree : FileTree) (path : String) : Bool :=
  let segments := pathSegments path
  match segments.getLast? with
  | none => false
  | some name =>
    path.toList.head? != some '/' && name != ".." && name.utf8ByteSize ≤ maxNameBytes &&
      (match tree.readFrom [] segments.dropLast with
        | .error .isFolder => true
        | _ => false) &&
      (match tree.readFrom [] segments with
        | .ok _ => true
        | .error fault => fault == .missing)

/-- Whether the first of two paths does not stand behind the second in an archive. -/
def inOrder : FilePath → FilePath → Bool
  | [], _ => true
  | _ :: _, [] => false
  | [a], [b] => a ≤ b
  | [_], _ :: _ :: _ => true
  | _ :: _ :: _, [_] => false
  | a :: a' :: as, b :: b' :: bs => if a = b then inOrder (a' :: as) (b' :: bs) else a < b

/-- The path of a file with slashes between its segments. -/
def showPath (path : FilePath) : String :=
  "/".intercalate path

/-- The names and contents of the files in the order of an archive. -/
def entries (tree : FileTree) : List (String × List UInt8) :=
  (tree.files.mergeSort fun a b => inOrder a.1 b.1).map fun (path, content) => (showPath path, content)

theorem file?_put (files : List (FilePath × List UInt8)) (path other : FilePath)
    (content : List UInt8) :
    ((put path content files).find? (·.1 == other)).map (·.2) =
      if path = other then some content else (files.find? (·.1 == other)).map (·.2) := by
  induction files with
  | nil => by_cases h : path = other <;> simp [put, h]
  | cons entry rest ih =>
    obtain ⟨key, old⟩ := entry
    by_cases h : key = path
    · subst h
      by_cases h' : key = other <;> simp [put, h']
    · by_cases h' : key = other
      · subst h'
        simp [put, h, Ne.symm h]
      · simp [put, h, h', ih]

end FileTree

end PromptPress

/-! A tree of files below a working directory, and what goes wrong with files. -/

namespace EdgeTiling

abbrev Path := String

namespace Path

/-- The names between the slashes; empty names and `.` go nowhere and are left out. -/
def names (p : Path) : List String := (p.splitOn "/").filter fun n => n != "" && n != "."

inductive Ending
  | bare
  | slash
  | dot
  deriving DecidableEq, Repr

/-- How the path ends. A slash or a dot says that the last name is a directory. -/
def ending (p : Path) : Ending :=
  match (p.splitOn "/").reverse with
  | "" :: rest => if (rest.dropWhile (· == "")).head? = some "." then .dot else .slash
  | "." :: _ => .dot
  | _ => .bare

def isAbsolute (p : Path) : Bool := p.startsWith "/"

/-- The text after the last dot of the last name; a name that starts with its only dot has
none. -/
def extension? (p : Path) : Option String := do
  let name ← p.names.getLast?
  if name = ".." then none
  else
    let stem := name.toList.reverse.dropWhile (· != '.')
    if stem.length ≤ 1 then none
    else some (String.ofList (name.toList.drop stem.length))

/-- The extension with ASCII letters in small. -/
def kind? (p : Path) : Option String := p.extension?.map fun e => e.map Char.toLower

end Path

inductive FileError
  | notFound
  | isDirectory
  | notDirectory
  | nameTooLong
  /-- A path with a zero in it. -/
  | zeroInName
  | noSpace
  | notText
  | refused (text : String)
  deriving DecidableEq, Repr

def FileError.message : FileError → String
  | .notFound => "No such file or directory (os error 2)"
  | .isDirectory => "Is a directory (os error 21)"
  | .notDirectory => "Not a directory (os error 20)"
  | .nameTooLong => "File name too long (os error 36)"
  | .zeroInName => "file name contained an unexpected NUL byte"
  | .noSpace => "No space left on device (os error 28)"
  | .notText => "stream did not contain valid UTF-8"
  | .refused text => text

/-- What a name stands for. A file without text holds something else than UTF-8. -/
inductive Node
  | file (text : Option String)
  | directory
  /-- Takes everything and holds nothing. -/
  | sink
  /-- Takes nothing. -/
  | full
  deriving DecidableEq, Repr

/-- A directory: below the working directory, anywhere above it, or named from the root on. -/
inductive Folder
  | below (names : List String)
  | above
  | rooted (names : List String)
  deriving DecidableEq, Repr

namespace Folder

/-- What `..` leads to. The root is above itself. -/
def parent : Folder → Folder
  | .below [] => .above
  | .below names => .below names.dropLast
  | .above => .above
  | .rooted names => .rooted names.dropLast

def child (f : Folder) (name : String) : Folder :=
  match f with
  | .below names => .below (names ++ [name])
  | .above => .above
  | .rooted names => .rooted (names ++ [name])

end Folder

def standardEntries : List ((Folder × String) × Node) :=
  [((.rooted [], "dev"), .directory), ((.rooted ["dev"], "null"), .sink),
    ((.rooted ["dev"], "full"), .full), ((.rooted [], "etc"), .directory),
    ((.rooted [], "tmp"), .directory), ((.rooted [], "usr"), .directory),
    ((.rooted [], "var"), .directory)]

/-- Files and directories by the names that lead to them from the working directory, and what is
known of the rest by the directory that it is in. -/
structure Files where
  nodes : List (List String × Node) := []
  outside : List ((Folder × String) × Node) := standardEntries
  deriving Repr

namespace Files

def node? (f : Files) (names : List String) : Option Node :=
  if names = [] then some .directory else (f.nodes.find? fun n => n.1 == names).map (·.2)

def put (f : Files) (names : List String) (n : Node) : Files :=
  if f.nodes.any fun m => m.1 == names then
    { f with nodes := f.nodes.map fun m => if m.1 == names then (names, n) else m }
  else { f with nodes := f.nodes ++ [(names, n)] }

def entry? (f : Files) (folder : Folder) (name : String) : Option Node :=
  match folder with
  | .below names => f.node? (names ++ [name])
  | _ => f.outside.lookup (folder, name)

def putEntry (f : Files) (folder : Folder) (name : String) (n : Node) : Files :=
  match folder with
  | .below names => f.put (names ++ [name]) n
  | _ => { f with outside := ((folder, name), n) :: f.outside }

def nameLimit : Nat := 255

/-- A path has to have fewer bytes than this. -/
def pathLimit : Nat := 4096

/-- What a name in a directory stands for, unless it is too long for a name. -/
def lookUp (f : Files) (folder : Folder) (name : String) : Except FileError (Option Node) :=
  if nameLimit < name.utf8ByteSize then .error .nameTooLong else .ok (f.entry? folder name)

def enter (f : Files) (folder : Folder) : List String → Except FileError Folder
  | [] => .ok folder
  | ".." :: rest => f.enter folder.parent rest
  | name :: rest => do
    match ← f.lookUp folder name with
    | some .directory => f.enter (folder.child name) rest
    | some _ => .error .notDirectory
    | none => .error .notFound

inductive Place
  | folder
  | entry (folder : Folder) (name : String)
  deriving DecidableEq, Repr

/-- The place of the last name. What stands in front of it has to be directories, and so has the
name itself if a dot follows. -/
def locate (f : Files) (p : Path) : Except FileError Place := do
  if p.toList.contains (Char.ofNat 0) then .error .zeroInName
  if pathLimit ≤ p.utf8ByteSize then .error .nameTooLong
  if p = "" then .error .notFound
  let start := if p.isAbsolute then Folder.rooted [] else .below []
  let names := p.names
  match names.getLast? with
  | none => return .folder
  | some name =>
    if name = ".." ∨ p.ending = .dot then do
      discard (f.enter start names)
      return .folder
    else return .entry (← f.enter start names.dropLast) name

def find (f : Files) (p : Path) : Except FileError Node := do
  match ← f.locate p with
  | .folder => return .directory
  | .entry folder name =>
    match ← f.lookUp folder name with
    | none => .error .notFound
    | some .directory => return .directory
    | some node => if p.ending = .slash then .error .notDirectory else return node

def exists? (f : Files) (p : Path) : Bool := (f.find p).isOk

def isFile? (f : Files) (p : Path) : Bool :=
  match f.find p with
  | .ok (.file _) => true
  | _ => false

def read (f : Files) (p : Path) : Except FileError String := do
  match ← f.find p with
  | .directory => .error .isDirectory
  | .file (some text) => return text
  | .sink => return ""
  | .file none | .full => .error .notText

/-- Puts `text` into a file, which is made if it does not exist. -/
def write (f : Files) (p : Path) (text : String) : Except FileError Files := do
  match ← f.locate p with
  | .folder => .error .isDirectory
  | .entry folder name =>
    if p.ending = .slash then .error .isDirectory
    else match ← f.lookUp folder name with
      | some .directory => .error .isDirectory
      | some .sink => return f
      | some .full => if text = "" then return f else .error .noSpace
      | _ => return f.putEntry folder name (.file (some text))

end Files

end EdgeTiling

import DashboardRefresh.Board.Settings
import DashboardRefresh.Config.Dashboard
import DashboardRefresh.Time.Clock
import DashboardRefresh.Time.Timestamp

/-!
# File trees

The files and directories that a run finds, and the log file that it adds to them. A path is
followed name by name from the root or from the working directory, and every name but the last one
has to lead to a directory.
-/

namespace DashboardRefresh

/-- Where the names of a place are counted from: the root, or the working directory or one that is
some levels above it. -/
inductive Anchor where
  | root
  | working (above : Nat)
  deriving DecidableEq

/-- A place in a tree, by the names that lead to it, the last one first. -/
structure Place where
  anchor : Anchor
  names : List String
  deriving DecidableEq

namespace Place

/-- The place of a name in a directory. -/
def child (p : Place) (name : String) : Place := { p with names := name :: p.names }

/-- The place above. Above the root there is none but the root. -/
def parent (p : Place) : Place :=
  match p.names, p.anchor with
  | _ :: names, _ => { p with names := names }
  | [], .root => p
  | [], .working above => ⟨.working (above + 1), []⟩

/-- The places above, up to the anchor. -/
def enclosing (anchor : Anchor) : List String → List Place
  | [] => []
  | _ :: names => ⟨anchor, names⟩ :: enclosing anchor names

end Place

/-! ## Trees -/

/-- What stands at a place. -/
inductive FileNode where
  | directory
  | file (content : ByteArray)

/-- Files with what they hold, and directories. The anchors are directories in every tree. -/
structure FileTree where
  files : List (Place × ByteArray)
  directories : List Place

namespace FileTree

/-- The names on a path. A path that ends with a slash leads on to the directory itself. -/
def pathNames (path : String) : List String :=
  (path.splitOn "/").filter (!·.isEmpty) ++ if path.endsWith "/" then ["."] else []

/-- Where a path begins. -/
def pathStart (path : String) : Place :=
  ⟨if path.startsWith "/" then .root else .working 0, []⟩

/-- What every system has below its root. -/
def system : FileTree where
  files := [(⟨.root, ["null", "dev"]⟩, .empty)]
  directories :=
    ["bin", "boot", "dev", "etc", "home", "lib", "media", "mnt", "opt", "proc", "root", "run",
      "sbin", "srv", "sys", "tmp", "usr", "var"].map fun name => ⟨.root, [name]⟩

/-- The tree of a working directory that holds some files and nothing else. -/
def ofFiles (files : List (String × ByteArray)) : FileTree :=
  let placed := files.map fun f =>
    (Place.mk (.working 0) ((pathNames f.1).filter (· != ".")).reverse, f.2)
  ⟨placed ++ system.files,
    placed.flatMap (fun f => Place.enclosing f.1.anchor f.1.names) ++ system.directories⟩

/-- What stands at a place, if anything does. -/
def node? (t : FileTree) (p : Place) : Option FileNode :=
  if p.names.isEmpty then some .directory
  else match t.files.find? (·.1 = p) with
    | some file => some (.file file.2)
    | none => if t.directories.contains p then some .directory else none

/-! ## Paths -/

/-- How many bytes a name can have. -/
def nameLimit : Nat := 255

/-- How many bytes a path can have. -/
def pathLimit : Nat := 4095

/-- Where a name leads from a place: a place that may still be empty. -/
def step (t : FileTree) (p : Place) (name : String) : Except FileFault Place :=
  match t.node? p with
  | none => .error .missing
  | some (.file _) => .error .notDirectory
  | some .directory =>
    if name = "." then .ok p
    else if name = ".." then .ok p.parent
    else if nameLimit < name.utf8ByteSize then .error .nameTooLong
    else .ok (p.child name)

/-- Where a path leads. -/
def resolve (t : FileTree) (path : String) : Except FileFault Place :=
  if path.isEmpty then .error .missing
  else if pathLimit < path.utf8ByteSize then .error .nameTooLong
  else (pathNames path).foldlM t.step (pathStart path)

/-- What the file at a path holds. -/
def read (t : FileTree) (path : String) : Except FileFault ByteArray := do
  match t.node? (← t.resolve path) with
  | some (.file content) => return content
  | some .directory => .error .directory
  | none => .error .missing

/-! ## Logs -/

/-- A tree with a directory at a place, if nothing stands there. -/
def withDirectory (t : FileTree) (p : Place) : FileTree :=
  if (t.node? p).isSome then t else { t with directories := p :: t.directories }

/-- Follow a path, and make the directories that are missing on it. -/
def makeDirectories (t : FileTree) (path : String) : Except FileFault (FileTree × Place) :=
  if pathLimit < path.utf8ByteSize then .error .nameTooLong
  else (pathNames path).foldlM (fun (t, p) name => do
    let next ← t.step p name
    return (t.withDirectory next, next)) (t, pathStart path)

/-- What the names of log files begin with. -/
def logStart : String := "feedboard.log."

/-- The name of the log file of the day that a clock shows. -/
def logName (c : Clock) : String := logStart ++ Timestamp.dateText (c.nanos / 1000000000)

/-- Open a log file in a directory, which is made if it is missing. -/
def openLog (t : FileTree) (directory name : String) : Except FileFault FileTree := do
  let (t, p) ← t.makeDirectories directory
  let path := directory ++ (if directory.endsWith "/" then name else "/" ++ name)
  if pathLimit < path.utf8ByteSize then .error .nameTooLong
  else
    let file ← t.step p name
    return if (t.node? file).isSome then t else { t with files := (file, .empty) :: t.files }

/-- The tree that a run goes on with: with a log file, if its settings ask for one. -/
def withLog (t : FileTree) (s : Settings) (c : Clock) : Except FileFault FileTree :=
  match s.logDir with
  | none => .ok t
  | some directory => t.openLog directory (logName c)

/-- How many log files there are in a directory. -/
def logCount (t : FileTree) (directory : String) : Nat :=
  match t.resolve directory with
  | .error _ => 0
  | .ok p => t.files.countP fun file =>
    file.1.parent = p && (file.1.names.head?.any (·.startsWith logStart))

end FileTree

end DashboardRefresh

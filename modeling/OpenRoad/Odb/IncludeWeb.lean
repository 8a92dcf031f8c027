import OpenRoad.Lib.Effects
import OpenRoad.Lib.PosixPath

/-! How 3DBlox files include one another. -/

namespace OpenRoad.Odb

open OpenRoad.Lib OpenRoad.Lib.Effect OpenRoad.Lib.PosixPath

abbrev FilePlace := List Path

abbrev Message := Nat × Path

inductive IncludeFault where
  | error (message : Message)
  /-- An exception of `std::filesystem`. -/
  | filesystem
  /-- No call was left; not an outcome of the code. -/
  | tooDeep
  deriving DecidableEq

inductive IncludeReader where
  | dbv
  | dbx
  deriving DecidableEq

/-- What a run has done: the keys of `read_files_`, the files that were opened and those whose chips
were created, last first. -/
structure FilesRead where
  read_files : List Path
  parsed : List Path
  created : List Path
  deriving DecidableEq

def FilesRead.start : FilesRead := ⟨[], [], []⟩

/-- The file system without links, what the parsers make of its files, and what the database says to
them. -/
structure IncludeWeb where
  current_path : Path
  isCurrent : Directory current_path
  isDirectory : FilePlace → Bool
  /-- What a stream can open. -/
  files : List FilePlace
  /-- The regular files of a directory in the order of its iterator. -/
  listing : FilePlace → List Path
  listed : ∀ place, ∀ name ∈ listing place, isAbsolute name = false
  /-- The error when a file is no YAML, the includes of its header, and the error in what follows the
  header. -/
  load : IncludeReader → FilePlace → Option Message
  header : FilePlace → Except Message (List Path)
  body : IncludeReader → FilePlace → Option Message
  /-- What the database says to the precision of a file and to its chips, by what was done before. -/
  precision : FilesRead → Path → Option Message
  chips : FilesRead → IncludeReader → Path → Option Message

abbrev IncludeM (α : Type) := Effect FilesRead IncludeFault α

namespace IncludeWeb

variable (web : IncludeWeb)

/-- `std::filesystem::absolute`. -/
def absolute (path : Path) : Path := append web.current_path path

def place (path : Path) : Option FilePlace := locate web.isDirectory (web.absolute path)

def opened (path : Path) : Option FilePlace := (web.place path).filter (· ∈ web.files)

def resolvePath (current_file_path path : Path) : Path :=
  if isAbsolute path then path else append (parentPath current_file_path) path

/-- The `*` of the pattern; without one both parts are the whole pattern. -/
def matchesPattern (filename pattern : Path) : Bool :=
  let pre := pattern.takeWhile (· ≠ '*')
  let post := if '*' ∈ pattern then (pattern.dropWhile (· ≠ '*')).tail else pattern
  pre.length + post.length ≤ filename.length && pre.isPrefixOf filename && post.isSuffixOf filename

def globbed (directory : Path) : Option FilePlace :=
  if directory = [] then none else (web.place directory).filter web.isDirectory

def resolvePaths (current_file_path path : Path) : Except Message (List Path) :=
  let resolved_path := resolvePath current_file_path path
  if '*' ∈ resolved_path then
    let directory := parentPath resolved_path
    match web.globbed directory with
    | none => .error (521, "Parser Error: Directory does not exist: ".toList ++ directory)
    | some place =>
      .ok (((web.listing place).filter (matchesPattern · (filename resolved_path))).map
        (append directory))
  else .ok [resolved_path]

def resolveAll (current_file_path : Path) : List Path → Except Message (List Path)
  | [] => .ok []
  | path :: rest => do
    let paths ← web.resolvePaths current_file_path path
    return paths ++ (← resolveAll current_file_path rest)

def parseHeader (current_file_path : Path) (place : FilePlace) : Except Message (List Path) := do
  let includes ← web.header place
  web.resolveAll current_file_path includes

def raise {α : Type} (fault : IncludeFault) : IncludeM α := throw fault

def raiseIf (message : Option Message) : IncludeM Unit :=
  match message with
  | none => pure ()
  | some message => raise (.error message)

def parserName : IncludeReader → Path
  | .dbv => "3DBV".toList
  | .dbx => "DBX".toList

/-- A message inside `parseYamlContent` is caught and becomes another one. -/
def caught (reader : IncludeReader) : IncludeFault :=
  .error (521, "Parser Error: ".toList ++ parserName reader ++
    " Error parsing YAML content: ODB-0521".toList)

def parseFile (reader : IncludeReader) (path : Path) : IncludeM (List Path) :=
  match web.opened path with
  | none => raise (.error (521, "Parser Error: ".toList ++ parserName reader ++
    " Parser Error: Cannot open file: ".toList ++ path))
  | some place => do
    modify fun s => { s with parsed := path :: s.parsed }
    raiseIf (web.load reader place)
    match web.parseHeader path place with
    | .error _ => raise (caught reader)
    | .ok includes => do
      raiseIf (web.body reader place)
      pure includes

/-- Insert a key into `read_files_`; whether it was new. -/
def insertKey (path : Path) : IncludeM Bool :=
  if path = [] then raise .filesystem
  else do
    let s ← get
    set { s with read_files := web.absolute path :: s.read_files }
    pure (web.absolute path ∉ s.read_files)

def readerOf (path : Path) : Option IncludeReader :=
  if ".3dbv".toList <:+: path then some .dbv
  else if ".3dbx".toList <:+: path then some .dbx
  else none

def readInclude (read : IncludeReader → Path → IncludeM Unit) (path : Path) (inserted : Bool) :
    IncludeM Unit :=
  match inserted, readerOf path with
  | true, some reader => read reader path
  | _, _ => pure ()

def readHeaderIncludes (read : IncludeReader → Path → IncludeM Unit) : List Path → IncludeM Unit
  | [] => pure ()
  | path :: rest => do
    let inserted ← web.insertKey path
    readInclude read path inserted
    readHeaderIncludes read rest

/-- The precision is looked at by `readDbv` only. -/
def checkPrecision (reader : IncludeReader) (path : Path) : IncludeM Unit := do
  let s ← get
  match reader with
  | .dbv => raiseIf (web.precision s path)
  | .dbx => pure ()

def createChips (reader : IncludeReader) (path : Path) : IncludeM Unit := do
  let s ← get
  raiseIf (web.chips s reader path)
  set { s with created := path :: s.created }

/-- `readDbv` and `readDbx`, with a bound on how deep they call themselves. -/
def readFile : Nat → IncludeReader → Path → IncludeM Unit
  | 0, _, _ => raise .tooDeep
  | depth + 1, reader, path => do
    let _ ← web.insertKey path
    let includes ← web.parseFile reader path
    web.checkPrecision reader path
    web.readHeaderIncludes (readFile depth) includes
    web.createChips reader path

def readDbx (depth : Nat) (dbx_file : Path) : IncludeM Unit := web.readFile depth .dbx dbx_file

end IncludeWeb

end OpenRoad.Odb

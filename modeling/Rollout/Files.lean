import Rollout.Text.Utf8

/-!
# Files

The files that a run can see: a tree of directories below the working directory, held as the paths
of its directories and the contents of its files. A path is resolved name by name, so that a file is
never taken for a directory.
-/

namespace Rollout

/-- What a file holds: a text, or bytes that are none. -/
inductive Content
  | text (s : String)
  | bytes (bs : List UInt8)
  deriving DecidableEq, Repr

/-- The text of a file, if it is one. -/
def Content.text? : Content → Option String
  | text s => some s
  | bytes bs => Text.Utf8.decode? bs

/-- The bytes of a file. -/
def Content.toBytes : Content → List UInt8
  | text s => Text.Utf8.encode s
  | bytes bs => bs

/-- Directories and files by the names on the way to them. -/
structure Files where
  dirs : List (List String)
  files : List (List String × Content)
  deriving Repr

namespace Files

/-- What a path leads to. -/
inductive Place
  | dir (names : List String)
  | file (names : List String)
  /-- A directory that holds the working directory. -/
  | above (levels : Nat)
  deriving DecidableEq, Repr

/-- No files at all. -/
def empty : Files := ⟨[], []⟩

/-- The content of the file at the end of some names. -/
def content? (fs : Files) (names : List String) : Option Content := fs.files.lookup names

/-- The directories that lie on the way to some names. -/
def onTheWay (names : List String) : List (List String) :=
  (List.range names.length).map fun n => names.take n

/-- Whether there is a directory at the end of some names. -/
def isDir (fs : Files) (names : List String) : Bool :=
  names.isEmpty || fs.dirs.contains names ||
    (fs.dirs.flatMap onTheWay).contains names ||
    (fs.files.flatMap fun (file, _) => onTheWay file).contains names

/-- One step of a path. -/
def step? (fs : Files) (place : Place) (name : String) : Option Place :=
  match place with
  | .file _ => none
  | .above levels =>
    if name = "" ∨ name = "." then some place
    else if name = ".." then some (.above (levels + 1))
    else none
  | .dir names =>
    if name = "" ∨ name = "." then some place
    else if name = ".." then
      if names.isEmpty then some (.above 1) else some (.dir names.dropLast)
    else
      let names := names ++ [name]
      if (fs.content? names).isSome then some (.file names)
      else if fs.isDir names then some (.dir names)
      else none

/-- The characters between the slashes of a path, of which there may be none. -/
def cutAtSlashes : List Char → List (List Char)
  | [] => [[]]
  | c :: rest =>
    if c = '/' then [] :: cutAtSlashes rest else (cutAtSlashes rest).modifyHead (c :: ·)

/-- Cuts a path at its slashes. -/
def names (path : String) : List String := (cutAtSlashes path.toList).map String.ofList

/-- Whether a path holds the character that no file name may hold. -/
def hasZero (path : String) : Bool := path.toList.contains '\x00'

/-- Whether a path begins at the root of all files. -/
def isAbsolute (path : String) : Bool := path.toList.head? = some '/'

/-- The files at some paths below the working directory. -/
def ofPaths (dirs : List String) (files : List (String × Content)) : Files :=
  let below (path : String) : List String := (names path).filter fun n => n ≠ "" ∧ n ≠ "."
  ⟨dirs.map below, files.map fun (path, content) => (below path, content)⟩

/-- What a path leads to, if it leads anywhere. The empty path leads nowhere. -/
def resolve? (fs : Files) (path : String) : Option Place :=
  if path.isEmpty ∨ hasZero path then none
  else
    let start := if isAbsolute path then Place.above 1 else .dir []
    (names path).foldlM fs.step? start

/-- Whether a path leads anywhere. -/
def exists? (fs : Files) (path : String) : Bool := (fs.resolve? path).isSome

/-- The text of the file at the end of a path. -/
def read? (fs : Files) (path : String) : Option String :=
  match fs.resolve? path with
  | some (.file names) => (fs.content? names).bind Content.text?
  | _ => none

/-- The bytes of the file at the end of a path. -/
def readBytes? (fs : Files) (path : String) : Option (List UInt8) :=
  match fs.resolve? path with
  | some (.file names) => (fs.content? names).map Content.toBytes
  | _ => none

/-- Puts a content into the file at the end of some names. -/
def put (fs : Files) (names : List String) (c : Content) : Files :=
  { fs with files := (names, c) :: fs.files.filter (·.1 ≠ names) }

@[simp] theorem content?_put_self (fs : Files) (names : List String) (c : Content) :
    (fs.put names c).content? names = some c := List.lookup_cons_self

theorem content?_put_of_ne {names other : List String} (h : other ≠ names) (fs : Files)
    (c : Content) : (fs.put names c).content? other = fs.content? other := by
  have hskip : (fs.put names c).content? other =
      (fs.files.filter fun file => file.1 ≠ names).lookup other := by
    rw [content?, put, List.lookup_cons, beq_false_of_ne h]
  rw [hskip, content?]
  induction fs.files with
  | nil => rfl
  | cons file rest ih =>
    obtain ⟨place, content⟩ := file
    by_cases hplace : place = names
    · -- what was at those names is dropped, and nobody else looks for it
      rw [List.filter_cons_of_neg (by simpa using hplace), ih, List.lookup_cons, hplace,
        beq_false_of_ne h]
    · rw [List.filter_cons_of_pos (by simpa using hplace), List.lookup_cons, List.lookup_cons, ih]

/-- Where a path can be written: at a file, or at nothing in a directory that is there. -/
def target? (fs : Files) (path : String) : Option (List String) :=
  match fs.resolve? path with
  | some (.file names) => some names
  | some _ => none
  | none =>
    let parts := names path
    let last := parts.getLastD ""
    if last.isEmpty ∨ last = "." ∨ last = ".." ∨ hasZero path then none
    else
      let parent := "/".intercalate (parts.dropLast ++ [""])
      match if parts.length = 1 then some (Place.dir []) else fs.resolve? parent with
      | some (.dir names) => some (names ++ [last])
      | _ => none

/-- Writes a text to the end of a path, whose directory has to be there. -/
def write? (fs : Files) (path s : String) : Option Files :=
  (fs.target? path).map fun names => fs.put names (.text s)

/-- Writes bytes behind those at the end of a path, or behind nothing if `afresh`. -/
def writeBytes? (fs : Files) (path : String) (afresh : Bool) (bytes : List UInt8) : Option Files :=
  (fs.target? path).map fun names =>
    let before := if afresh then [] else ((fs.content? names).map Content.toBytes).getD []
    fs.put names (.bytes (before ++ bytes))

end Files

end Rollout

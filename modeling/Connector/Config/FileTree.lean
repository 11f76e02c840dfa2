import Connector.Table

/-!
# Files

Files stand under paths from the root; a path that does not begin with a slash starts at the
working directory.  A directory is there if it is named, or if something is below it.  Statements:

* `textAt?_put` — a text that is put under a path is found there;
* `read_write` — what was written is read back.
-/

namespace Connector.Config

/-- Why a file was not read or written. -/
inductive FileFault where
  | missing
  | isDirectory
  | notDirectory
  deriving DecidableEq, Repr, Inhabited

/-- The system's text for a fault. -/
def FileFault.message : FileFault → String
  | missing => "No such file or directory (os error 2)"
  | isDirectory => "Is a directory (os error 21)"
  | notDirectory => "Not a directory (os error 20)"

/-- The steps of a path from the root. -/
abbrev Steps := List String

/-- The steps of the text of a path, taken from some place. -/
def Steps.walk : Steps → List String → Steps
  | place, [] => place
  | place, "" :: rest => walk place rest
  | place, "." :: rest => walk place rest
  | place, ".." :: rest => walk place.dropLast rest
  | place, name :: rest => walk (place ++ [name]) rest

/-- Files and where relative paths start. -/
structure FileTree where
  workingDirectory : Steps
  directories : List Steps
  /-- The text under each path that holds a file. -/
  files : List (Steps × String)
  deriving Repr, Inhabited

namespace FileTree

/-- The steps of a path. -/
def locate (t : FileTree) (path : String) : Steps :=
  Steps.walk (if path.startsWith "/" then [] else t.workingDirectory) (path.splitOn "/")

/-- The text of the file at some steps. -/
def textAt? (t : FileTree) (steps : Steps) : Option String :=
  (t.files.find? fun f => f.1 == steps).map (·.2)

/-- Whether a directory is at some steps. -/
def isDirectoryAt (t : FileTree) (steps : Steps) : Bool :=
  (t.workingDirectory :: t.directories).any steps.isPrefixOf
    || t.files.any fun f => steps.isPrefixOf f.1 && f.1 != steps

/-- What is wrong with a place where no file is. -/
def faultAt (t : FileTree) (steps : Steps) : FileFault :=
  if t.isDirectoryAt steps then .isDirectory
  else if t.files.any fun f => f.1.isPrefixOf steps then .notDirectory
  else .missing

/-- Whether something is at a path. -/
def holds (t : FileTree) (path : String) : Bool :=
  path != "" && ((t.textAt? (t.locate path)).isSome || t.isDirectoryAt (t.locate path))

/-- The text of the file at a path. -/
def read (t : FileTree) (path : String) : Except FileFault String :=
  if path == "" then .error .missing
  else
    match t.textAt? (t.locate path) with
    | some text => .ok text
    | none => .error (t.faultAt (t.locate path))

/-- Why a file cannot be written at some steps. -/
def obstacleAt? (t : FileTree) (steps : Steps) : Option FileFault :=
  if t.isDirectoryAt steps then some .isDirectory
  else if t.isDirectoryAt steps.dropLast then none
  else some (t.faultAt steps.dropLast)

/-- The tree with a text in the file at some steps. -/
def put (t : FileTree) (steps : Steps) (text : String) : FileTree :=
  { t with files := (steps, text) :: t.files.filter fun f => f.1 != steps }

/-- Writes a file at a path. -/
def write (t : FileTree) (path text : String) : Except FileFault FileTree :=
  if path == "" then .error .missing
  else
    match t.obstacleAt? (t.locate path) with
    | some e => .error e
    | none => .ok (t.put (t.locate path) text)

theorem textAt?_put (t : FileTree) (steps : Steps) (text : String) :
    (t.put steps text).textAt? steps = some text := by
  simp [put, textAt?]

theorem read_write {t t' : FileTree} {path text : String} (h : t.write path text = .ok t') :
    t'.read path = .ok text := by
  unfold write at h
  by_cases hp : (path == "") = true
  · simp [hp] at h
  · simp only [hp, Bool.false_eq_true, ↓reduceIte] at h
    cases ho : t.obstacleAt? (t.locate path) with
    | some e => simp [ho] at h
    | none =>
        simp only [ho, Except.ok.injEq] at h
        subst h
        have hl : (t.put (t.locate path) text).locate path = t.locate path := rfl
        simp [read, hp, hl, textAt?_put]

end FileTree
end Connector.Config

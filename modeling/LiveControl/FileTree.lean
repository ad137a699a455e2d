import LiveControl.Fault
import LiveControl.Path
import LiveControl.Table

namespace LiveControl

/-- What can be read under the paths of a file system. -/
structure Files where
  read : String → Except FileFault ByteArray

namespace Files

/-- Whether there is anything under a path. -/
def hasEntry (files : Files) (path : String) : Bool :=
  match files.read path with
  | .error fault => !fault.isAbsence
  | .ok _ => true

/-- The text of a file. -/
def readText (files : Files) (path : String) : Except FileFault String :=
  match files.read path with
  | .error fault => .error fault
  | .ok bytes =>
    match String.fromUTF8? bytes with
    | some text => .ok text
    | none => .error .notText

end Files

/-- The files below the current directory, each under the steps that lead to it. Every directory on
the way to a file exists, and nothing else. Of the directories outside only what is customary is known. -/
structure FileTree where
  files : List (List String × ByteArray)

namespace FileTree

/-- The tree of files with their paths. -/
def ofList (files : List (String × ByteArray)) : FileTree :=
  ⟨files.map fun f => (Path.steps f.1, f.2)⟩

inductive Entry where
  | directory
  | file (content : ByteArray)

/-- What lies under given steps from the current directory. -/
def entry? (t : FileTree) (steps : List String) : Option Entry :=
  match t.files.find? fun f => f.1 == steps with
  | some f => some (.file f.2)
  | none => if steps.isEmpty || t.files.any fun f => steps.isPrefixOf f.1 then some .directory else none

/-- The directories that the root of every system holds. -/
def customaryDirectories : List String := [
  "bin", "dev", "etc", "home", "lib", "media", "mnt", "opt", "proc", "root", "run", "sbin", "srv", "sys",
  "tmp", "usr", "var"]

/-- What is known under given steps from the root; the null device is a file without content. -/
def customaryEntry? : List String → Option Entry
  | [] => some .directory
  | [name] => if customaryDirectories.contains name then some .directory else none
  | steps => if steps = ["dev", "null"] then some (.file .empty) else none

/-- Where a walk stands: below the current directory, below the root, or in a directory above the
current one, of which no entry is known. -/
inductive Position where
  | inside (steps : List String)
  | fromRoot (steps : List String)
  | above

/-- One step of a walk out of a directory, unless nothing is known where it leads. -/
def Position.step? : Position → String → Option Position
  | .inside [], ".." | .above, ".." => some .above
  | .inside steps, ".." => some (.inside steps.dropLast)
  | .inside steps, name => some (.inside (steps ++ [name]))
  | .fromRoot steps, ".." => some (.fromRoot steps.dropLast)
  | .fromRoot steps, name => some (.fromRoot (steps ++ [name]))
  | .above, _ => none

/-- What lies where a walk stands. -/
def entryAt? (t : FileTree) : Position → Option Entry
  | .inside steps => t.entry? steps
  | .fromRoot steps => customaryEntry? steps
  | .above => some .directory

/-- Walks along steps; every entry on the way but the last has to be a directory, and a directory is asked
for short names only. -/
def walk (t : FileTree) (position : Position) (steps : List String) : Except FileFault Entry :=
  match t.entryAt? position, steps with
  | none, _ => .error .notFound
  | some entry, [] => .ok entry
  | some (.file _), _ :: _ => .error .notDirectory
  | some .directory, step :: rest =>
    if Path.isLongName step then .error .nameTooLong
    else match position.step? step with
      | none => .error .notFound
      | some next => walk t next rest

/-- The bytes under a path from the current directory. -/
def read (t : FileTree) (path : String) : Except FileFault ByteArray :=
  if path.isEmpty then .error .notFound
  else if path.toList.contains '\x00' then .error .nameWithZero
  else if Path.isLong path then .error .nameTooLong
  else
    let start := if path.toList.head? = some '/' then Position.fromRoot [] else .inside []
    match t.walk start (Path.steps path) with
    | .error fault => .error fault
    | .ok .directory => .error .isDirectory
    | .ok (.file content) => if Path.asksDirectory path then .error .notDirectory else .ok content

def toFiles (t : FileTree) : Files := ⟨t.read⟩

end FileTree
end LiveControl

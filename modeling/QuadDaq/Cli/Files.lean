import QuadDaq.Text.Whole

/-!
# Files

What a command can read. A command is given its files as a function of their paths,
so that nothing but the content of the files it names can influence it.
-/

namespace QuadDaq.Cli

/-- Why a file cannot be read. -/
inductive ReadFailure
  | notFound
  | notDirectory
  | isDirectory
  | nameTooLong
  | notText
  | other (text : String)
  deriving Repr, DecidableEq

/-- The wording of the system. -/
def ReadFailure.message : ReadFailure → String
  | notFound => "No such file or directory (os error 2)"
  | notDirectory => "Not a directory (os error 20)"
  | isDirectory => "Is a directory (os error 21)"
  | nameTooLong => "File name too long (os error 36)"
  | notText => "stream did not contain valid UTF-8"
  | other text => text

/-- How many bytes the name of a file may have. -/
def nameLimit : Nat := 255

/-- How many bytes a path may have. -/
def pathLimit : Nat := 4095

/-- Files by their paths. -/
abbrev Files := String → Except ReadFailure (List UInt8)

namespace Files

/-- The content of a text file. -/
def readText (files : Files) (path : String) : Except ReadFailure String := do
  match String.fromUTF8? (ByteArray.mk (← files path).toArray) with
  | some text => return text
  | none => .error .notText

/-- A file can be written under this path: there is one, or one can be created,
together with the directories on the way. -/
def writable (files : Files) (path : String) : Bool :=
  match files path with
  | .ok _ => true
  | .error .notFound => (path.splitOn "/").all fun part => part.utf8ByteSize ≤ nameLimit
  | .error _ => false

end Files

/-- A tree of files and directories, all of them by the names on the way from the root. -/
structure FileTree where
  files : List (List String × List UInt8)
  directories : List (List String)

namespace FileTree

/-- There is a directory here: it is one of those given, or something is below it. -/
def isDirectory (t : FileTree) (here : List String) : Bool :=
  t.directories.any here.isPrefixOf || t.files.any fun f => here.isPrefixOf f.1

/-- Follows a path from a directory. A step up from the root stays there. -/
def lookUp (t : FileTree) (here : List String) : List String → Except ReadFailure (List UInt8)
  | [] => .error .isDirectory
  | part :: rest =>
    if part = "" || part = "." then t.lookUp here rest
    else if part = ".." then t.lookUp here.dropLast rest
    else if nameLimit < part.utf8ByteSize then .error .nameTooLong
    else
      let there := here ++ [part]
      match t.files.find? fun f => f.1 = there with
      | some f => if rest.isEmpty then .ok f.2 else .error .notDirectory
      | none => if t.isDirectory there then t.lookUp there rest else .error .notFound

/-- The files of a tree by their paths, which start in this directory unless they start
with a slash. -/
def seenFrom (t : FileTree) (here : List String) : Files := fun path =>
  if pathLimit < path.utf8ByteSize then .error .nameTooLong
  else if path = "" then .error .notFound
  else t.lookUp (if path.startsWith "/" then [] else here) (path.splitOn "/")

/-- What every system has: its usual directories at the root, and a file that is
always empty. -/
def ofSystem : FileTree where
  files := [(["dev", "null"], [])]
  directories :=
    ["bin", "boot", "dev", "etc", "home", "lib", "media", "mnt", "opt", "proc", "root", "run",
      "sbin", "srv", "sys", "tmp", "usr", "var"].map ([·])

/-- A tree with more files, given by their paths from this directory. -/
def withFiles (t : FileTree) (here : List String) (content : List (String × List UInt8)) :
    FileTree where
  files := t.files ++ content.map fun f => (here ++ f.1.splitOn "/", f.2)
  directories := here :: t.directories

end FileTree

/-- What is seen from a working directory that holds these files. Of the rest of the
system only the usual directories are known. -/
def Files.ofWorkingDirectory (content : List (String × List UInt8)) : Files :=
  let here := ["tmp", "work"]
  (FileTree.ofSystem.withFiles here content).seenFrom here

end QuadDaq.Cli

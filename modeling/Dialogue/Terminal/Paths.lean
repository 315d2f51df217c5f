import Dialogue.Config.Load

/-!
# Paths for rehearsals

What is found at a path on a system that has its usual folders, and in them the empty
file and some that are no configuration. A path that is not from the root begins in a
folder of which nothing is known but that it has no such file.
-/

namespace Dialogue.Terminal.Paths

/-! ## Reasons -/

/-- There is nothing at the path. -/
def missing : String := "No such file or directory (os error 2)"

/-- The path goes on after a file. -/
def noFolder : String := "Not a directory (os error 20)"

/-- There is a folder at the path. -/
def folder : String := "Is a directory (os error 21)"

/-- The path, or a name in it, is too long. -/
def tooLong : String := "File name too long (os error 36)"

/-! ## The system -/

/-- The usual folders, with what is in them. -/
def folders : List (String × List String) :=
  [("", ["bin", "boot", "dev", "etc", "home", "lib", "lib64", "media", "mnt", "opt", "proc",
      "root", "run", "sbin", "srv", "sys", "tmp", "usr", "var"]),
    ("dev", ["fd", "pts", "shm"]), ("etc", ["apt", "default", "init.d", "opt", "ssl"]),
    ("proc", ["self", "sys"]), ("run", ["lock"]),
    ("usr", ["bin", "games", "include", "lib", "libexec", "local", "sbin", "share", "src"]),
    ("var", ["backups", "cache", "lib", "local", "lock", "log", "mail", "opt", "run", "spool",
      "tmp"])]

/-- The empty file. -/
def emptyFile : List String := ["dev", "null"]

/-- Files that are no configuration. -/
def otherFiles : List (List String) :=
  [["etc", "group"], ["etc", "hostname"], ["etc", "hosts"], ["etc", "os-release"],
    ["etc", "passwd"]]

/-- Whether names from the root on lead to a folder. -/
def isFolder : List String → Bool
  | [] => true
  | [name] => ((folders.lookup "").getD []).contains name
  | [first, second] => ((folders.lookup first).getD []).contains second
  | _ => false

/-- The longest name, and the longest path, in octets. -/
def longestName : Nat := 255
def longestPath : Nat := 4095

/-- What is read after going by names from a folder, or why nothing is; of an unknown
    folder no names are known. -/
def find (here : Option (List String)) : List String → Except String (List UInt8)
  | [] => .error folder
  | name :: rest =>
    if name.isEmpty || name == "." then find here rest
    else if name = ".." then find (here.map (·.dropLast)) rest
    else if longestName < name.utf8ByteSize then .error tooLong
    else
      match here.map (· ++ [name]) with
      | none => .error missing
      | some there =>
        if isFolder there then find (some there) rest
        else if there ≠ emptyFile ∧ !otherFiles.contains there then .error missing
        else if !rest.isEmpty then .error noFolder
        else if there = emptyFile then .ok []
        else .ok [0x3F]

/-- What is found at a path. -/
def source (path : String) : Config.Source :=
  let names := path.splitOn "/"
  let start := if names.head? = some "" then some [] else none
  if longestPath < path.utf8ByteSize then .unreadable path tooLong
  else
    match find start names with
    | .error reason => .unreadable path reason
    | .ok octets => .file path octets

end Dialogue.Terminal.Paths

import CannedReply.Machine.Failure

/-!
A tree of files, and what reading the file at a path gives.
-/

namespace CannedReply

/-- What stands at a path. -/
inductive FileEntry where
  | file (content : ByteArray)
  | directory

/-- Files and directories by the names on the way from the root. The way of a relative path
starts with the empty name, which stands for the working directory. -/
structure FileTree where
  entries : List (List String × FileEntry)

namespace FileTree

/-- What stands at the end of a way. The root and the working directory are always there. -/
def entry? (tree : FileTree) (way : List String) : Option FileEntry :=
  if way = [] ∨ way = [""] then some .directory
  else (tree.entries.find? fun e => e.1 = way).map (·.2)

def follow (tree : FileTree) (way : List String) : List String → Except Failure FileEntry
  | [] =>
    match tree.entry? way with
    | some e => .ok e
    | none => .error .noSuchFile
  | name :: rest =>
    match tree.entry? way with
    | none => .error .noSuchFile
    | some (.file _) => .error .notADirectory
    | some .directory =>
      if name = "" ∨ name = "." then tree.follow way rest
      else if name = ".." then tree.follow way.dropLast rest
      else if 255 < name.utf8ByteSize then .error .nameTooLong
      else tree.follow (way ++ [name]) rest

def read (tree : FileTree) (path : String) : Except Failure ByteArray := do
  if path.toList.contains '\x00' then throw .nulInName
  if path.isEmpty then throw .noSuchFile
  if 4096 ≤ path.utf8ByteSize then throw .nameTooLong
  let start := if path.startsWith "/" then [] else [""]
  match ← tree.follow start (path.splitOn "/") with
  | .file content => return content
  | .directory => throw .isADirectory

end FileTree

end CannedReply

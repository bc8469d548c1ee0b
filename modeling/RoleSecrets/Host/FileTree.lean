import RoleSecrets.Host.Path

/-! # Files and directories

A tree of files and directories with names. A path is looked up piece by piece from the root, where
every piece but the last must lead to a directory; two dots lead back to the directory around.
-/

namespace RoleSecrets

inductive FileError
  | missing
  /-- Something on the way is a file. -/
  | notDirectory
  | isDirectory
  /-- Anything else, in words. -/
  | other (text : String)
deriving DecidableEq, Repr

def FileError.message : FileError → String
  | .missing => "No such file or directory (os error 2)"
  | .notDirectory => "Not a directory (os error 20)"
  | .isDirectory => "Is a directory (os error 21)"
  | .other text => text

/-- A file or a directory. -/
inductive FileTree
  | file (content : ByteArray)
  | directory (entries : List (String × FileTree))
deriving Inhabited

namespace FileTree

/-- What a directory has under a name. -/
def child? (name : String) : FileTree → Option FileTree
  | file _ => none
  | directory entries => entries.lookup name

/-- What is found by names, one below the other. -/
def at? (tree : FileTree) : (names : List String) → Option FileTree
  | [] => some tree
  | name :: names => (tree.child? name).bind fun child => child.at? names

/-- A tree with something new under names, one below the other; directories on the way are made. -/
def put (tree : FileTree) : (names : List String) → (new : FileTree) → FileTree
  | [], new => new
  | name :: names, new =>
      let entries := match tree with
        | directory entries => entries
        | file _ => []
      let below := ((entries.lookup name).getD (directory [])).put names new
      directory ((name, below) :: entries.filter (·.1 ≠ name))

/-- One piece of a path further from the names of a directory. -/
def advance (root : FileTree) (names : List String) (piece : List Char) :
    Except FileError (List String) :=
  match root.at? names with
  | none => .error .missing
  | some (file _) => .error .notDirectory
  | some (directory entries) =>
      if Path.isIdle piece then .ok names
      else if piece = ['.', '.'] then .ok names.dropLast
      else
        let name := String.ofList piece
        if (entries.lookup name).isSome then .ok (names ++ [name]) else .error .missing

/-- The names that an absolute path leads to. -/
def locate (root : FileTree) (path : String) : Except FileError (List String) :=
  (Path.pieces path.toList).foldlM root.advance []

/-- What is at an absolute path. -/
def find (root : FileTree) (path : String) : Except FileError FileTree := do
  match root.at? (← root.locate path) with
  | some tree => .ok tree
  | none => .error .missing

def content : FileTree → Except FileError ByteArray
  | file bytes => .ok bytes
  | directory _ => .error .isDirectory

/-- Makes sure that there is a file to write to, by adding an empty one where only the last piece
of the path leads nowhere. -/
def provide (root : FileTree) (path : String) : Except FileError FileTree :=
  match root.find path with
  | .ok (file _) => .ok root
  | .ok (directory _) => .error .isDirectory
  | .error .missing => do
      let reversed := (Path.pieces path.toList).reverse
      let name := reversed.headD []
      let names ← (reversed.drop 1).reverse.foldlM root.advance []
      if Path.isIdle name || name = ['.', '.'] then .error .missing
      else .ok (root.put (names ++ [String.ofList name]) (file ByteArray.empty))
  | .error e => .error e

end FileTree

end RoleSecrets

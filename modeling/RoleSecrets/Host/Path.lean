import RoleSecrets.Text.Basic

/-! # Paths

A path is absolute where it starts with a slash. Any other path is taken to start in the working
directory, or in the home directory where its first component is a tilde. `Places.resolve` makes a
path absolute and changes nothing else about it, except that it tidies the ends of what follows a
tilde.
-/

namespace RoleSecrets

/-- Where paths that are not absolute start. -/
structure Places where
  home : String
  /-- The working directory. -/
  cwd : String
  /-- Where programs keep their configuration. -/
  configHome : String := home ++ "/.config"
deriving DecidableEq, Repr

namespace Path

/-- The pieces between the slashes of a path. -/
def pieces (path : List Char) : List (List Char) := Text.splitOn '/' path

/-- Whether a piece leads nowhere: it is empty or a dot. -/
def isIdle (piece : List Char) : Bool := piece = [] || piece = ['.']

/-- A path without the idle pieces at its ends. -/
def tidy (path : List Char) : List Char :=
  let kept := ((pieces path).dropWhile isIdle).reverse.dropWhile isIdle
  Text.join ['/'] kept.reverse

def below (directory : String) (path : List Char) : String :=
  if directory.endsWith "/" then directory ++ String.ofList path
  else directory ++ "/" ++ String.ofList path

def isAbsolute (path : String) : Bool := path.startsWith "/"

end Path

/-- The absolute form of a path. -/
def Places.resolve (places : Places) (path : String) : String :=
  if Path.isAbsolute path then path
  else
    match Path.pieces path.toList with
    | ['~'] :: rest =>
        let rest := Path.tidy (Text.join ['/'] rest)
        if rest = [] then places.home else Path.below places.home rest
    | _ => Path.below places.cwd path.toList

end RoleSecrets

/-!
Places in the file tree, named by absolute paths in their shortest form.
-/

namespace Coffer

/-- An absolute path: whether it starts with two slashes instead of one, which some systems take for
another root, and the names from the root on, none of them blank or made of dots. -/
structure Path where
  doubled : Bool := false
  names : List String
deriving DecidableEq, Repr

/-- Where relative paths, and paths that start with a tilde, are looked up. -/
structure Base where
  current : Path
  home : Path
deriving DecidableEq, Repr

namespace Path

def text (p : Path) : String :=
  (if p.doubled then "//" else "/") ++ String.intercalate "/" p.names

def root (p : Path) : Path :=
  { p with names := [] }

def child (p : Path) (name : String) : Path :=
  { p with names := p.names ++ [name] }

/-- The folder that a path lies in; the root lies in itself. -/
def parent (p : Path) : Path :=
  { p with names := p.names.dropLast }

def base (p : Path) : String :=
  p.names.getLastD ""

/-- The place one name further. Blank names and single dots stay, two dots go up. -/
def step (p : Path) (name : String) : Path :=
  if name = "" ∨ name = "." then p else if name = ".." then p.parent else p.child name

/-- The names in a path as it is written, blank ones included. -/
def parts (s : String) : List String :=
  (s.toList.splitOn '/').map String.ofList

def isRooted (s : String) : Bool :=
  s.toList.head? == some '/'

/-- The place that a path means. A tilde that is a name of its own, at the start, stands for the
home folder. Two slashes in front are kept, more than two count as one. -/
def absolute (b : Base) (s : String) : Path :=
  match parts s with
  | "~" :: rest => rest.foldl step b.home
  | names =>
    if isRooted s then
      let doubled := (s.toList.takeWhile (· == '/')).length == 2
      names.foldl step ⟨doubled, []⟩
    else names.foldl step b.current

end Path

end Coffer

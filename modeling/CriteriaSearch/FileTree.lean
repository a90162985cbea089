import CriteriaSearch.Text.Pieces

/-!
# Files

A program that reads files asks of a path whether anything is there and, if so, for its text.
`Files` is the answer to that question for every path.  `FileTree` gives such answers from a list
of files below one directory.
-/

namespace CriteriaSearch

/-- What stands at a path. -/
inductive Found where
  | text (content : String)
  /-- Something is there and cannot be read as a text. -/
  | unreadable (reason : String)
  deriving DecidableEq

/-- What stands at the path of a directory. -/
def Found.directory : Found :=
  .unreadable "Is a directory (os error 21)"

/-- What stands at each path, if anything does. -/
abbrev Files := String → Option Found

/-- The path of what has a name below a directory. -/
def pathBelow (directory name : String) : String :=
  if directory.isEmpty || directory.endsWith "/" then directory ++ name
  else directory ++ "/" ++ name

/-- A file below a directory: the names on the way to it and its content.  Without content it is a
directory itself. -/
structure FileTree.Leaf where
  names : List String
  content : Option String

/-- Files below one directory. -/
structure FileTree where
  leaves : List FileTree.Leaf

namespace FileTree

/-- The names in a path, empty ones included. -/
def namesOf (path : String) : List String :=
  (Text.pieces '/' path.toList).map String.ofList

/-- The tree that holds files at the given paths. -/
def ofPaths (files : List (String × Option String)) : FileTree where
  leaves := files.map fun (path, content) =>
    ⟨(namesOf path).filter (fun name => name ≠ "" && name ≠ "."), content⟩

/-- Whether a list of names leads to a directory. -/
def isDirectory (tree : FileTree) (names : List String) : Bool :=
  names.isEmpty || tree.leaves.any fun leaf =>
    names.isPrefixOf leaf.names && (leaf.content.isNone || names ≠ leaf.names)

/-- Where a path leads. -/
inductive Place where
  /-- Below the directory, by the names on the way. -/
  | within (names : List String)
  /-- To one of the directories around it. -/
  | around
  deriving DecidableEq

/-- Goes on from a place by one name.  Whatever is left behind has to be a directory.  Nothing is
known of what else is in the directories around. -/
def step (tree : FileTree) (place : Place) (next : String) : Option Place :=
  match place with
  | .around => if ["", ".", ".."].contains next then some .around else none
  | .within names =>
    if !tree.isDirectory names then none
    else if next = "" || next = "." then some place
    else if next = ".." then
      some (if names.isEmpty then .around else .within names.dropLast)
    else some (.within (names ++ [next]))

/-- What stands at a path. -/
def files (tree : FileTree) : Files := fun path =>
  if path.isEmpty then none
  else do
    let start : Place := if path.startsWith "/" then .around else .within []
    match ← (namesOf path).foldlM tree.step start with
    | .around => some .directory
    | .within names =>
      if tree.isDirectory names then some .directory
      else
        let leaf ← tree.leaves.find? (·.names = names)
        leaf.content.map .text

end FileTree

end CriteriaSearch

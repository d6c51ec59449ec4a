import Fiction.Text.Search

/-!
# Fiction.CommandLine.Shelf

The files that a command line can name.

* `Shelf` finds the text of a file and the files under a path.
* `Shelf.ofFiles` is the shelf of a directory that holds given files and no others.
-/

namespace Fiction.CommandLine

/-- The files at hand. -/
structure Shelf where
  /-- The text of a file. -/
  read? : String → Option String
  /-- The files under a path, in the order of their names, written with the path in front of them. A
  file is under itself. -/
  under : String → List String

/-- The parts of a path. -/
def parts (path : String) : List String :=
  (Text.split ['/'] path.toList).map String.ofList

/-- The name of a file without the directories in front of it. -/
def fileName? (path : String) : Option String :=
  match ((parts path).filter fun p => p != "" && p != ".").getLast? with
  | some ".." => none
  | name => name

/-- The extension of a file: what follows the last dot of its name, unless only that dot is in front
of it. -/
def extension? (path : String) : Option String := do
  let name ← fileName? path
  let ending := (name.toList.reverse.takeWhile (· != '.')).reverse
  let stem := name.toList.take (name.length - ending.length - 1)
  if ending.length == name.length || stem.isEmpty then none else some (String.ofList ending)

/-! ## A directory of given files -/

/-- Files with the parts of their paths. -/
abbrev Files := List (List String × String)

namespace Files

/-- Files with their paths. Of two with one path the later counts. -/
def ofPairs (files : List (String × String)) : Files :=
  files.foldl (fun all (path, content) =>
    let path := (parts path).filter fun p => p != "" && p != "."
    all.filter (fun f => f.1 != path) ++ [(path, content)]) []

/-- The files inside a directory, with their paths in it. -/
def inside (files : Files) (directory : List String) : Files :=
  files.filterMap fun (path, content) =>
    if directory.length < path.length && path.take directory.length == directory then
      some (path.drop directory.length, content)
    else none

/-- Whether a path leads to a directory. -/
def isDirectory (files : Files) (path : List String) : Bool :=
  path.isEmpty || !(files.inside path).isEmpty

/-- Goes from a directory along the parts of a path; `..` leads back. -/
def walk (files : Files) (place : List String) : List String → Option (List String)
  | [] => some place
  | part :: rest =>
      if !files.isDirectory place then none
      else if part == "" || part == "." then files.walk place rest
      else if part == ".." then if place.isEmpty then none else files.walk place.dropLast rest
      else files.walk (place ++ [part]) rest

/-- Where a path leads. A path from the root of all files leads nowhere here. -/
def find? (files : Files) (path : String) : Option (List String) :=
  match path.toList with
  | [] | '/' :: _ => none
  | _ => files.walk [] (parts path)

end Files

/-- Whether one path stands before another: by the first part in which they differ. -/
def precedes : List String → List String → Bool
  | [], _ => true
  | _ :: _, [] => false
  | a :: as, b :: bs => if a == b then precedes as bs else decide (a < b)

/-- The shelf of a directory with given files. -/
def Shelf.ofFiles (pairs : List (String × String)) : Shelf :=
  let files := Files.ofPairs pairs
  { read? := fun path => do files.lookup (← files.find? path)
    under := fun path =>
      match files.find? path with
      | none => []
      | some place =>
          if (files.lookup place).isSome then [path]
          else
            let start := if path.endsWith "/" then path else path ++ "/"
            let names := (files.inside place).map Prod.fst
            (names.mergeSort precedes).map fun name => start ++ String.intercalate "/" name }

end Fiction.CommandLine

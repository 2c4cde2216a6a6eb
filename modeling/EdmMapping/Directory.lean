/-!
# Directories

A directory tree that is held in memory, for loading models and running commands without a disk.

* `Directory.ofList` — the directory with files at given paths;
* `Directory.resolve?` — where a path leads: names go down, `..` goes up, `.` and doubled slashes
  stay; every step needs a directory to start from;
* `Directory.read?` — the content of the file at a path.
-/

set_option autoImplicit false

namespace EdmMapping

/-- Files by their relative paths; the directories are those that the paths pass through. -/
structure Directory where
  files : List (List String × ByteArray)

namespace Directory

/-- The names that a path passes through, without the steps that stay in place. -/
def names (path : String) : List String :=
  (path.splitOn "/").filter fun step => step ≠ "" && step ≠ "."

/-- The directory with the given files; a later file replaces an earlier one at the same place. -/
def ofList (files : List (String × ByteArray)) : Directory :=
  ⟨(files.map fun (path, content) => (names path, content)).reverse⟩

def hasDirectory (d : Directory) (place : List String) : Bool :=
  place.isEmpty ||
    d.files.any fun (path, _) => place.isPrefixOf path && place.length < path.length

/-- The place that is reached from a place by the steps of a path. -/
def walk? (d : Directory) (place : List String) : List String → Option (List String)
  | [] => some place
  | step :: steps =>
    if !d.hasDirectory place then none
    else if step = "" || step = "." then d.walk? place steps
    else if step = ".." then
      if place.isEmpty then none else d.walk? place.dropLast steps
    else d.walk? (place ++ [step]) steps

/-- The place that a path leads to.  Empty and absolute paths lead nowhere. -/
def resolve? (d : Directory) (path : String) : Option (List String) :=
  match path.splitOn "/" with
  | "" :: _ => none
  | steps => d.walk? [] steps

def read? (d : Directory) (path : String) : Option ByteArray :=
  (d.resolve? path).bind fun place => d.files.lookup place

end Directory

end EdmMapping

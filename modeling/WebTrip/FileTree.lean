import WebTrip.Text.Utf8

/-!
# Files

What a path leads to, and what reading it gives. The program does not reach into a file system on
its own: it is handed a function from paths to what is there.

* `Located` is what a path leads to, `Files` the function.
* `Located.text` is the content of a file as text.
* `FileTree.find` is the function of a tree of files that is given as a list.
-/

namespace WebTrip

open WebTrip.Text

/-! ## §1 What a path leads to -/

/-- What a path leads to. -/
inductive Located where
  | absent
  /-- The path goes on below a file. -/
  | belowFile
  | directory
  | file (bytes : List Nat)
  /-- There is something, but it cannot be read, for the given reason. -/
  | unreadable (reason : String)
  deriving DecidableEq

/-- What the paths of a file system lead to. -/
abbrev Files := String → Located

/-- Whether there is something at the end of a path. -/
def Located.isPresent : Located → Bool
  | .absent | .belowFile => false
  | .directory | .file _ | .unreadable _ => true

/-- The text of bytes, or the reason why they are none. -/
def textOfBytes (bytes : List Nat) : Except String String :=
  match decodeUtf8 bytes with
  | .ok text => .ok text
  | .error _ => .error "stream did not contain valid UTF-8"

/-- The content of a file as text, or the reason why it cannot be read. -/
def Located.text : Located → Except String String
  | .absent => .error "No such file or directory (os error 2)"
  | .belowFile => .error "Not a directory (os error 20)"
  | .directory => .error "Is a directory (os error 21)"
  | .file bytes => textOfBytes bytes
  | .unreadable reason => .error reason

/-! ## §2 Trees of files -/

/-- An entry of a tree: a file with its bytes, or a directory. -/
inductive Entry where
  | directory
  | file (bytes : List Nat)

/-- A tree of files below a working directory: relative paths and what is there. The directories on
the way to an entry exist too. -/
structure FileTree where
  entries : List (String × Entry)

namespace FileTree

/-- The names in a path, empty ones included. -/
def names (path : String) : List String :=
  path.splitOn "/"

/-- The names in a path that lead further: neither empty nor a dot. -/
def properNames (path : String) : List String :=
  (names path).filter fun name => name != "" && name != "."

/-- What the names from the working directory lead to. -/
def lookUp (tree : FileTree) (way : List String) : Located :=
  match tree.entries.find? fun entry => properNames entry.1 == way with
  | some (_, .file bytes) => .file bytes
  | some (_, .directory) => .directory
  | none =>
    if way.isEmpty || tree.entries.any fun entry => way.isPrefixOf (properNames entry.1) then
      .directory
    else .absent

/-- What names lead to from a place outside the working directory: there are directories further up,
and of anything else outside nothing is known. -/
def outside (names : List String) : Located :=
  if names.all fun name => name == "" || name == "." || name == ".." then .directory else .absent

/-- Follows names from a place below the working directory. Only directories can be passed through,
even by an empty name or a dot. -/
def follow (tree : FileTree) (way : List String) : List String → Located
  | [] => tree.lookUp way
  | name :: rest =>
    match tree.lookUp way with
    | .directory =>
      if name = "" ∨ name = "." then tree.follow way rest
      else if name = ".." then
        if way.isEmpty then outside rest else tree.follow way.dropLast rest
      else tree.follow (way ++ [name]) rest
    | .absent => .absent
    | _ => .belowFile

/-- What a path leads to: the empty path to nothing, one with a slash at its front away from the
working directory. -/
def find (tree : FileTree) : Files := fun path =>
  if path.isEmpty then .absent
  else if path.startsWith "/" then outside (names path)
  else tree.follow [] (names path)

end FileTree

end WebTrip

import KMeansSeeding.Fault

/-!
# Files

A command sees its files through `Files`, a function from paths to texts. `Folder.files` is that
function for a working directory given as a value: a path is followed part by part, and each part
but the last must lead to a directory. Nothing is known about what lies outside of the working
directory.
-/

namespace KMeansSeeding.CommandLine

/-- The text of a file, or why there is none. -/
abbrev Files : Type :=
  (path : String) → Except FileFault String

namespace Files

/-- The text of a file. -/
def read (files : Files) (path : String) : Except Fault String :=
  match files path with
  | .ok text => .ok text
  | .error fault => .error (.file fault)

end Files

/-- What a name in a directory stands for. -/
inductive Item where
  | file (content : ByteArray)
  | directory

/-- A working directory: its items by the paths that lead to them. -/
structure Folder where
  items : List (String × Item)

/-- Where a path has led so far. -/
inductive Place where
  | file (content : ByteArray)
  /-- A directory in the working directory, by the names that lead to it, the last one first. -/
  | inside (names : List String)
  /-- A directory that is not in the working directory. -/
  | outside

namespace Place

/-- The directory that holds a directory. -/
def parent : Place → Place
  | .inside (_ :: names) => .inside names
  | _ => .outside

end Place

namespace Folder

/-- The place that a name leads to from a place. -/
def child (folder : Folder) (name : String) : Place → Except FileFault Place
  | .file _ => .error .notDirectory
  | .outside => .error .missing
  | .inside names =>
    match folder.items.lookup ("/".intercalate (name :: names).reverse) with
    | some (.file content) => .ok (.file content)
    | some .directory => .ok (.inside (name :: names))
    | none => .error .missing

/-- The place that a part of a path leads to. A name has at most 255 bytes. -/
def enter (folder : Folder) (place : Place) (part : String) : Except FileFault Place :=
  match place with
  | .file _ => .error .notDirectory
  | _ =>
    if part = "" || part = "." then .ok place
    else if part = ".." then .ok place.parent
    else if 255 < part.utf8ByteSize then .error .nameTooLong
    else folder.child part place

/-- The place that a path leads to. A path has at most 4095 bytes. -/
def follow (folder : Folder) (path : String) : Except FileFault Place :=
  if path.contains '\x00' then .error .zeroInName
  else if path.isEmpty then .error .missing
  else if 4095 < path.utf8ByteSize then .error .nameTooLong
  else
    let start := if path.startsWith "/" then Place.outside else Place.inside []
    (path.splitOn "/").foldlM folder.enter start

/-- The texts of the files in a working directory. -/
def files (folder : Folder) : Files := fun path =>
  match folder.follow path with
  | .error fault => .error fault
  | .ok (.file content) =>
    match String.fromUTF8? content with
    | some text => .ok text
    | none => .error .notText
  | .ok _ => .error .directory

end Folder

end KMeansSeeding.CommandLine

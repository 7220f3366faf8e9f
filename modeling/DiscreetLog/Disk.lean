import DiscreetLog.Failure
import DiscreetLog.Text.Search

/-!
# Files

Lines can be appended to files. A name is resolved against the working directory unless it begins
at the top, and what it stands for is the list of the directories on the way down from the top and
the file in the last of them.

A file may have no room for more text, since the disk is full or since it stands for a device that
takes none. Such a file can be opened and closed like any other, as long as nothing is to be written
to it.
-/

namespace DiscreetLog

/-- **A resolved name**: the parts of the way down from the top. -/
abbrev FilePath := List String

namespace FilePath

/-- The parts of a way from the top, behind those that are done, the last of them first. Steps that
stay are left out, steps back go back, and a step back from the top stays there. -/
def resolve : List String → List String → FilePath
  | done, [] => done.reverse
  | done, part :: rest =>
    if part = "" || part = "." then resolve done rest
    else if part = ".." then resolve done.tail rest
    else resolve (part :: done) rest

/-- The path that a name from the top stands for. -/
def ofText (name : String) : FilePath := resolve [] (Text.splitAt '/' name)

/-- **The path that a name stands for** in a working directory. -/
def ofName (directory name : String) : FilePath :=
  if name.toList.head? = some '/' then ofText name
  else resolve (ofText directory).reverse (Text.splitAt '/' name)

/-- The way from a directory on to a path below it. -/
def below? : FilePath → FilePath → Option FilePath
  | [], path => some path
  | _ :: _, [] => none
  | part :: directory, name :: path => if part = name then below? directory path else none

/-- **A path written out.** What lies in a working directory, other than the top, begins with the
name that the directory goes by. -/
def text (directory : String) (path : FilePath) : String :=
  match ofText directory, below? (ofText directory) path with
  | _ :: _, some rest => "/".intercalate (directory :: rest)
  | _, _ => "/" ++ "/".intercalate path

/-- The name of a path as it is listed: from the working directory on. -/
def listed (directory : String) (path : FilePath) : String :=
  match below? (ofText directory) path with
  | some rest => "/".intercalate rest
  | none => path.text directory

end FilePath

/-- **What lies on the disk**: directories, and files with their text. -/
structure Disk where
  directories : List FilePath
  files : List (FilePath × String)
  /-- Where there is no room for more text. -/
  full : FilePath → Bool

namespace Disk

/-- Nothing but the top. -/
def empty : Disk := ⟨[[]], [], fun _ => false⟩

/-- The text of a file, as it was written. -/
def read? (d : Disk) (path : FilePath) : Option String := d.files.lookup path

/-- Lines with one way of ending: a carriage return ends a line too, and takes a newline behind it
with it. -/
def plainLines : List Char → List Char
  | '\r' :: '\n' :: s => '\n' :: plainLines s
  | '\r' :: s => '\n' :: plainLines s
  | c :: s => c :: plainLines s
  | [] => []

/-- **The text of a file as a reader gets it**, all lines ending alike. -/
def text? (d : Disk) (path : FilePath) : Option String :=
  (d.read? path).map fun text => String.ofList (plainLines text.toList)

/-- **Why a file cannot be opened for writing**, if it cannot: the directories on the way are
looked up one after the other, and then the file. -/
def openFault? (d : Disk) (done : FilePath) : List String → Option OpenFault
  | [] => some .directory
  | [name] =>
    if 255 < name.utf8ByteSize then some .nameTooLong
    else if d.directories.contains (done ++ [name]) then some .directory
    else none
  | name :: rest =>
    let way := done ++ [name]
    if 255 < name.utf8ByteSize then some .nameTooLong
    else if d.directories.contains way then openFault? d way rest
    else if (d.read? way).isSome then some .notDirectory
    else some .missing

/-- The fault of opening a path for writing. -/
def faultOf? (d : Disk) (path : FilePath) : Option OpenFault := d.openFault? [] path

/-- **A file gets a text**, in place of the one it had. -/
def write (d : Disk) (path : FilePath) (text : String) : Disk :=
  { d with files := d.files.filter (·.1 ≠ path) ++ [(path, text)] }

/-- **A text is appended** to a file. -/
def append (d : Disk) (path : FilePath) (text : String) : Disk :=
  d.write path ((d.read? path).getD "" ++ text)

/-- A path at which there is a file from then on, if there was none. -/
def touch (d : Disk) (path : FilePath) : Disk :=
  if (d.read? path).isSome then d else d.write path ""

/-- A directory is made, and those on the way to it. -/
def makeDirectory (d : Disk) (path : FilePath) : Disk :=
  let ways := (List.range path.length).map fun i => path.take (i + 1)
  { d with directories := d.directories ++ ways.filter (!d.directories.contains ·) }

end Disk

end DiscreetLog

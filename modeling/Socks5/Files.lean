import Socks5.Fault
import Socks5.Text.Fields

/-!
# Files

The files and folders below the folder in which a program runs. Every operation says what becomes of
them, or why it failed; a failed operation changes nothing.
-/

namespace Socks5

/-- The names that lead from the working folder to a file or folder. -/
abbrev Path := List Text

/-- A file. -/
structure File where
  content : Bytes
  /-- The second in which it was last changed, if that was taken from the clock of the program. -/
  changed : Option Int := none

/-- The files and folders below the working folder. -/
structure Files where
  folders : List Path := []
  files : List (Path × File) := []

namespace Path

/-- The path that a text spells out. Empty names and single dots mean nothing; two dots go up. -/
def ofText (text : Text) : Path :=
  (Text.fields (.char '/') text).foldl (fun path name =>
    if name = [] ∨ name = "." then path
    else if name = ".." then path.dropLast
    else path ++ [name]) []

def text (path : Path) : Text := Text.join "/" path

/-- The path of a file next to another one, whose name goes on with more characters. -/
def extend (path : Path) (more : Text) : Path :=
  path.dropLast ++ [path.getLast?.getD [] ++ more]

/-- Checks a text that is to spell out a path: no NUL is in it, and every surrogate stands for an
octet. -/
def check (text : Text) : Except Fault Unit :=
  match text.findError? CodePoint.isForeign with
  | some e => .error (.ofEncoding e)
  | none =>
    if .char (Char.ofNat 0) ∈ text then .error ⟨.value, "embedded null byte"⟩ else .ok ()

end Path

namespace Files

/-- Whether a path leads to a folder. -/
def isFolder (fs : Files) (path : Path) : Bool := path.isEmpty ∨ path ∈ fs.folders

def find? (fs : Files) (path : Path) : Option File := fs.files.lookup path

/-- Checks that the folder in which something lies is there. -/
def checkParent (fs : Files) (path : Path) : Except Fault Unit :=
  match (List.range path.length).find? fun n => !fs.isFolder (path.take n) with
  | none => .ok ()
  | some n =>
    if (fs.find? (path.take n)).isSome then .error ⟨.notDirectory, ""⟩
    else .error ⟨.fileMissing, ""⟩

/-- The path of a file that a text spells out, which must not be a folder. -/
def locate (fs : Files) (text : Text) : Except Fault Path := do
  let path := Path.ofText text
  Path.check text
  if text.isEmpty ∨ (text.head? = some (.char '/') ∧ !path.isEmpty) then
    .error ⟨.fileMissing, ""⟩
  else do
    fs.checkParent path
    if fs.isFolder path then .error ⟨.isDirectory, ""⟩ else .ok path

def read (fs : Files) (text : Text) : Except Fault Bytes := do
  match fs.find? (← fs.locate text) with
  | some file => .ok file.content
  | none => .error ⟨.fileMissing, ""⟩

/-- Puts a file at a path, in place of the one that was there. -/
def put (fs : Files) (path : Path) (file : File) : Files :=
  { fs with files := (path, file) :: fs.files.filter (·.1 ≠ path) }

/-- Takes the file at a path away. -/
def remove (fs : Files) (path : Path) : Files :=
  { fs with files := fs.files.filter (·.1 ≠ path) }

/-- Moves a file, if there is one, in place of the one that was at the new path. -/
def move (fs : Files) (path newPath : Path) : Files :=
  match fs.find? path with
  | some file => (fs.remove path).put newPath file
  | none => fs

/-- Makes a file to which lines are added, unless it is there. -/
def touch (fs : Files) (path : Path) : Files :=
  if (fs.find? path).isSome then fs else fs.put path { content := [] }

/-- Adds to the end of a file. -/
def append (fs : Files) (path : Path) (more : Bytes) : Files :=
  fs.put path { content := ((fs.find? path).map (·.content)).getD [] ++ more }

def write (fs : Files) (text : Text) (content : Bytes) : Except Fault Files := do
  return fs.put (← fs.locate text) { content }

/-- Makes the folders on the way to a path and the one there, as far as they are missing. -/
def makeFolders (fs : Files) (path : Path) : Except Fault Files := do
  if (fs.find? path).isSome then .error ⟨.fileExists, ""⟩
  else if (List.range path.length).any fun n => (fs.find? (path.take n)).isSome then
    .error ⟨.notDirectory, ""⟩
  else
    let missing := ((List.range (path.length + 1)).map path.take).filter (!fs.isFolder ·)
    .ok { fs with folders := fs.folders ++ missing }

/-- The files with given paths and contents, last changed in a given second, in folders of their
own. -/
def ofList (changed : Int) (l : List (Text × Bytes)) : Files :=
  l.foldl (fun fs (text, content) =>
    let path := Path.ofText text
    let fs := (fs.makeFolders path.dropLast).toOption.getD fs
    fs.put path { content, changed := some changed }) {}

end Files

end Socks5

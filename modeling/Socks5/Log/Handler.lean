import Socks5.Files
import Socks5.Log.Formatter
import Socks5.Log.Context
import Socks5.Text.Order

/-!
# Handlers

A handler writes the lines of records to the terminal or to a file. A file that has grown too large,
or that is from another day, is put aside under another name first. A record of which no line can be
made is left out.
-/

namespace Socks5.Log

/-! ### Where lines go -/

/-- When a file is put aside. -/
inductive Rotation where
  | never
  /-- Before it would reach a size; a number of files is kept. -/
  | bySize (maxBytes backups : Int)
  /-- From a second on, if it is known, and then at midnight; a number of files is kept, or all of
  them. -/
  | byDate (backups : Int) (next : Option Int)

/-- Where the lines of a handler go. -/
inductive Sink where
  | console
  | file (path : Path) (rotation : Rotation)

/-- What writes the lines of records. -/
structure Handler where
  sink : Sink
  level : Int
  formatter : Formatter
  hasContext : Bool := false

/-! ### Putting files aside -/

namespace Rotation

/-- The path of a file that was put aside, by its number. -/
def numbered (path : Path) (n : Nat) : Path :=
  path.extend (.ofChars ('.' :: Nat.toDigits 10 n))

/-- Puts a file aside under the number one, and those before it under the next number each. -/
def shift (path : Path) (backups : Int) (fs : Files) : Files :=
  if backups ≤ 0 then fs
  else
    let numbers := ((List.range (backups.toNat - 1)).map (· + 1)).reverse
    let fs := numbers.foldl (fun fs n => fs.move (numbered path n) (numbered path (n + 1))) fs
    fs.move path (numbered path 1)

/-- Whether a text is a date in digits. -/
def isDate : Text → Bool
  | [a, b, c, d, '-', e, f, '-', g, h] =>
    [a, b, c, d, e, f, g, h].all (CodePoint.satisfies Text.isDigit)
  | _ => false

/-- The name of a file without what stands behind its last dot; dots in front do not count. -/
def stem (name : Text) : Text :=
  match Text.splitLast? (.char '.') name with
  | some (front, _) => if front.all (· = .char '.') then name else front
  | none => name

/-- Whether a file with the second name counts as put aside from one with the first name: the second
name goes on from the first, and what stands behind the stem has a date between its dots. -/
def isAside (name other : Text) : Bool :=
  let front := stem name ++ "."
  name.isPrefixOf other ∧ front.isPrefixOf other ∧
    (Text.fields (.char '.') (other.drop front.length)).any isDate

/-- The files that were put aside, the oldest first. -/
def dated (path : Path) (fs : Files) : List Path :=
  let isDated (p : Path) : Bool :=
    p.dropLast = path.dropLast ∧
      isAside (path.getLast?.getD []) (p.getLast?.getD [])
  ((fs.files.map (·.1)).filter isDated).mergeSort fun p q => Text.notAfter p.text q.text

/-- Puts a file aside at a second, under the date of the day before, and takes the oldest files away
if there are too many. -/
def stow (path : Path) (backups next : Int) (fs : Files) : Files :=
  let date := Calendar.write (next - secondsPerDay) "%Y-%m-%d".toList
  let fs := fs.move path (path.extend (.ofChars ('.' :: date)))
  if backups ≤ 0 then fs
  else
    let old := dated path fs
    (old.take (old.length - backups.toNat)).foldl Files.remove fs

end Rotation

/-! ### Opening -/

/-- The path of the log file, whose folder is made. -/
def logPath (s : LogSettings) (fs : Files) : Files × Except Fault Path :=
  match s.folder.text? with
  | none => (fs, .error ⟨.type, "no path"⟩)
  | some folder => match Path.check folder with
    | .error f => (fs, .error f)
    | .ok () => match fs.makeFolders (Path.ofText folder) with
      | .error f => (fs, .error f)
      | .ok fs => match s.file.text? with
        | none => (fs, .error ⟨.type, "no path"⟩)
        | some file => (fs, fs.locate (if file.head? = some (.char '/') then file
            else (if folder.isEmpty then ("." : Text) else folder) ++ "/" ++ file))

/-- How the log file is put aside; it is known when only if the clock of the program dates the
file. -/
def rotationOf (s : LogSettings) (fs : Files) (path : Path) : Rotation :=
  if s.rotation.text? = some ("size" : Text) then .bySize s.maxBytes s.backupCount
  else if s.rotation.text? = some ("date" : Text) then
    .byDate s.backupCount (((fs.find? path).bind (·.changed)).map nextMidnight)
  else .never

/-! ### Writing -/

/-- Writes a line to a file, which is put aside first if it is time. A line that cannot be encoded
is left out. -/
def writeFile (path : Path) (rotation : Rotation) (second : Int)
    (line : Except Fault Text) (fs : Files) : Files × Rotation :=
  let add (fs : Files) : Files := match line.toOption.bind (·.encodable.toOption) with
    | some s => fs.append path (Bytes.ofText (s ++ "\n"))
    | none => fs
  match rotation with
  | .never => (add fs, rotation)
  | .bySize maxBytes backups => match line with
    | .error _ => (fs, rotation)
    | .ok t =>
      let size := ((fs.find? path).map (·.content.length)).getD 0 + t.length + 1
      let isFull : Bool := 0 < maxBytes ∧ maxBytes ≤ size
      (add (if isFull then (Rotation.shift path backups fs).touch path else fs), rotation)
  | .byDate backups next =>
    match next.filter (· ≤ second) with
    | some next =>
      (add ((Rotation.stow path backups next fs).touch path),
        .byDate backups (some (nextMidnight second)))
    | none => (add fs, rotation)

end Socks5.Log

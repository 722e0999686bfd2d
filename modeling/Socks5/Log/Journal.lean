import Socks5.Log.Handler

/-!
# Journals

A journal is a log at work: its handlers, its context, the clock, and the files and the terminal
that it writes to. Configuring a journal replaces all its handlers; if that fails, it is left as far
as it came.
-/

namespace Socks5.Log

/-- A log at work. -/
structure Journal where
  level : Int := warningLevel
  /-- The handlers, of which there are none before the journal is configured. -/
  handlers : List Handler := []
  context : Option Context := none
  isTerminal : Bool := false
  clock : Int
  files : Files := {}
  printed : Text := []

namespace Journal

/-! ### Configuring -/

/-- Adds a handler that writes to the terminal. -/
def addConsole (s : LogSettings) (level : Int) (j : Journal) : Journal × Except Fault Unit :=
  match Formatter.make s.format Formatter.logDates j.isTerminal with
  | .error f => (j, .error f)
  | .ok formatter =>
    let h : Handler := { sink := .console, level, formatter }
    ({ j with handlers := j.handlers ++ [h] }, .ok ())

/-- Adds a handler that writes to the log file. -/
def addFile (s : LogSettings) (level : Int) (j : Journal) : Journal × Except Fault Unit :=
  match logPath s j.files with
  | (files, .error f) => ({ j with files }, .error f)
  | (files, .ok path) =>
    let rotation := rotationOf s files path
    let j := { j with files := files.touch path }
    match Formatter.make s.format Formatter.logDates false with
    | .error f => (j, .error f)
    | .ok formatter =>
      let h : Handler := { sink := .file path rotation, level, formatter }
      ({ j with handlers := j.handlers ++ [h] }, .ok ())

def replaceHandlers (s : LogSettings) (j : Journal) : Journal × Except Fault Unit :=
  match levelOf s.level with
  | .error f => (j, .error f)
  | .ok level =>
    -- From here on a failure leaves the journal without the handlers it had.
    let j := { j with level, handlers := [] }
    let console : Journal × Except Fault Unit :=
      if s.toConsole then j.addConsole s level else (j, .ok ())
    match console with
    | (j, .error f) => (j, .error f)
    | (j, .ok ()) => if s.toFile then j.addFile s level else (j, .ok ())

def configure (s : LogSettings) (j : Journal) : Journal × Except Fault Unit :=
  match j.replaceHandlers s with
  | (j, .error f) => (j, .error f)
  | (j, .ok ()) =>
    ({ j with
        context := some { fields := s.fields }
        handlers := j.handlers.map ({ · with hasContext := true }) }, .ok ())

/-! ### The context -/

/-- Gives values to fields of the context. -/
def addContext (values : List (Text × Value)) (j : Journal) : Journal :=
  { j with context := j.context.map (·.add values) }

/-- Takes the values of all fields back. -/
def clearContext (j : Journal) : Journal := { j with context := j.context.map Context.clear }

/-! ### Writing -/

def print (t : Text) (j : Journal) : Journal := { j with printed := j.printed ++ t }

/-- The record as a handler gets to see it. -/
def contextual (j : Journal) (h : Handler) (r : Record) : Except Fault Record :=
  match j.context with
  | some c => if h.hasContext then do return { r with context := some (← c.text) } else .ok r
  | none => .ok r

/-- Writes a line where a handler sends it; what could not be made is not printed. -/
def writeLine (h : Handler) (line : Except Fault Text) (j : Journal) : Journal × Handler :=
  match h.sink with
  | .console => match line with
    | .ok t => (j.print (t ++ "\n"), h)
    | .error _ => (j, h)
  | .file path rotation =>
    let (files, rotation) := writeFile path rotation j.clock line j.files
    ({ j with files }, { h with sink := .file path rotation })

/-- Writes a line of a record, which goes on to the next handler as it is left behind. -/
def emit (h : Handler) (r : Record) (j : Journal) : Journal × Handler × Record :=
  let (r, line) := h.formatter.format r
  let (j, h) := j.writeLine h line
  (j, h, r)

/-- Hands a record to handlers one after the other; a context without names stops that. -/
def emitAll (r : Record) : List Handler → Journal → Journal × List Handler × Except Fault Unit
  | [], j => (j, [], .ok ())
  | h :: rest, j =>
    if r.level < h.level then
      let (j, rest, outcome) := emitAll r rest j
      (j, h :: rest, outcome)
    else match j.contextual h r with
      | .error f => (j, h :: rest, .error f)
      | .ok r =>
        let (j, h, r) := j.emit h r
        let (j, rest, outcome) := emitAll r rest j
        (j, h :: rest, outcome)

/-- The record of what is told now on a channel. -/
def recordOf (channel : Text) (level : Int) (message : Text) (j : Journal) : Record :=
  { channel := if channel.isEmpty then rootChannel else channel, level, message
    second := j.clock }

/-- Tells the log something. Without handlers, warnings and what is worse go to the terminal as they
are. -/
def write (channel : Text) (level : Int) (message : Text) (j : Journal) :
    Journal × Except Fault Unit :=
  if level ≤ 0 ∨ level < j.level then (j, .ok ())
  else if j.handlers.isEmpty then
    (if level < warningLevel then j else j.print (message ++ "\n"), .ok ())
  else
    let (j, handlers, outcome) := emitAll (j.recordOf channel level message) j.handlers j
    ({ j with handlers }, outcome)

end Journal

end Socks5.Log

import Socks5.Value.Text

/-!
# Faults

A fault is what the system or the other side reports when an operation fails: its kind and the text
that it is shown with. The faults of the operating system are told apart from all others, because
only they are expected where input and output happens.
-/

namespace Socks5

namespace Fault

/-- The kinds of fault. -/
inductive Kind where
  /-- A fault of the operating system with no kind of its own. -/
  | system
  | timedOut
  /-- A connection failed in a way with no kind of its own. -/
  | connection
  | brokenPipe
  | aborted
  | refused
  | reset
  | lookup
  | blocking
  | child
  | fileExists
  | fileMissing
  | interrupted
  | isDirectory
  | notDirectory
  | permission
  | process
  | value
  | state
  | keyboard
  | type
  | attribute
  | overflow
  | key
  | index
  | decoding
  | encoding
  | memory
  | other (name : String)
  deriving DecidableEq, Repr

namespace Kind

/-- Whether a fault comes from the operating system. -/
def isSystem : Kind → Bool
  | system | timedOut | connection | brokenPipe | aborted | refused | reset | lookup | blocking
  | child | fileExists | fileMissing | interrupted | isDirectory | notDirectory | permission
  | process => true
  | _ => false

/-- The kind of a system fault with an error number. -/
def ofNumber (n : Int) : Kind :=
  if n = 11 ∨ n = 114 ∨ n = 115 then blocking
  else if n = 32 ∨ n = 108 then brokenPipe
  else if n = 10 then child
  else if n = 103 then aborted
  else if n = 111 then refused
  else if n = 104 then reset
  else if n = 17 then fileExists
  else if n = 2 then fileMissing
  else if n = 4 then interrupted
  else if n = 21 then isDirectory
  else if n = 20 then notDirectory
  else if n = 13 ∨ n = 1 then permission
  else if n = 3 then process
  else if n = 110 then timedOut
  else system

end Kind

end Fault

/-- A failed operation as the system or the other side reports it. -/
structure Fault where
  kind : Fault.Kind
  text : Text
  deriving DecidableEq, Repr

namespace Fault

/-- Whether the fault comes from the operating system. -/
def isSystem (f : Fault) : Bool := f.kind.isSystem

/-- The fault of a text that cannot be encoded. -/
def ofEncoding (e : EncodingError) : Fault := ⟨.encoding, e.message⟩

def timeout : Fault := ⟨.timedOut, ""⟩

/-- The reason as it stands at the end of a message; a timeout has no words of its own. -/
def reason (f : Fault) : Text := if f.kind = .timedOut then "timed out" else f.text

/--
The fault of a kind with arguments: a system fault with two arguments has a number and a text, and
the number settles the kind of a system fault that has none of its own.
-/
def ofArguments (kind : Kind) (arguments : List Value) : Fault :=
  match arguments with
  | [] => ⟨kind, ""⟩
  | [v] => ⟨kind, v.plain⟩
  | number :: text :: more =>
    if kind.isSystem then
      let kind := match kind, number with
        | .system, .int n => Kind.ofNumber n
        | k, _ => k
      let file := match more with
        | [] => ""
        | name :: _ => ": " ++ String.ofList name.literal
      ⟨kind, "[Errno " ++ number.plain ++ "] " ++ text.plain ++ file⟩
    else ⟨kind, (Value.tuple arguments).plain⟩

end Fault

end Socks5

import Socks5.Dial.Run
import Socks5.Settings.Dialer

/-!
# Limits in seconds

The clock of a dial counts in nanoseconds, while settings and callers give limits in seconds. A
positive limit leaves at least one nanosecond, and an infinite one is none.
-/

namespace Socks5

/-! ### Limits -/

/-- How many ticks of the clock a second has. -/
def ticksPerSecond : Nat := 1000000000

/-- The least whole number of ticks that is not less than a finite number of seconds. -/
def ticksOf (seconds : Float) : Int :=
  let (num, den) := Decimal.scaled (Decimal.significand seconds * ticksPerSecond) 1
    (-Decimal.binaryExponent seconds)
  if Decimal.signBit seconds then -((num / den : Nat) : Int) else ((num + den - 1) / den : Nat)

/-- The limit that a number of seconds stands for. What is no number is the shortest limit. -/
def limitOf (seconds : Float) : Option Int :=
  if Decimal.isFinite seconds then some (ticksOf seconds)
  else if Decimal.isNaN seconds then some 1
  else if Decimal.signBit seconds then some 0
  else none

/-- The limit of a whole dial. What is no number leaves no time at all. -/
def dialLimitOf (seconds : Float) : Option Int :=
  if Decimal.isNaN seconds then some 0 else limitOf seconds

/-- The limit that a setting stands for. -/
def Value.limit : Value → Option Int
  | .float seconds => limitOf seconds
  | _ => none

/-! ### Dialers -/

/-- The address that a setting spells out. -/
def Value.toAddress : Value → Except Failure Address
  | .bytes _ => .error (.fault ⟨.type, "no text"⟩)
  | v => match v.text? with
    | some s => (Address.parse s).mapError .ofAddress
    | none => .error (.fault ⟨.attribute, "no text"⟩)

/-- The dialer that goes by the given settings. -/
def Dialer.ofSettings (s : DialerSettings) : Except Failure Dialer := do
  return { proxy := ← s.proxy.toAddress, stepLimit := s.stepTimeout.limit
           openLimit := s.timeout.limit }

end Socks5

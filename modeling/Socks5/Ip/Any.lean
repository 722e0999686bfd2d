import Socks5.Ip.V6

/-!
# IP addresses of either version
-/

namespace Socks5

/-- An IPv4 or IPv6 address. -/
inductive Ip where
  | v4 (address : Ip.V4)
  | v6 (address : Ip.V6)
  deriving DecidableEq, Repr

namespace Ip

def text : Ip → Text
  | .v4 a => a.text
  | .v6 a => a.text

/-- Reads an address text of either version. -/
def ofText? (t : Text) : Option Ip :=
  match V4.ofText? t with
  | some a => some (.v4 a)
  | none => (V6.ofText? t).map .v6

end Ip

end Socks5

import Socks5.Text.CodePoint

/-!
# The order of texts

Texts are ordered like the words of a dictionary whose alphabet is the code points.
-/

namespace Socks5.Text

/-- Whether a text is in front of another one in the order, or the same. -/
def notAfter : Text → Text → Bool
  | [], _ => true
  | _ :: _, [] => false
  | a :: r, b :: s => a.toNat < b.toNat || (a = b && notAfter r s)

end Socks5.Text

import Socks5.Note

/-!
# The handshake

The handshake with a proxy is a tree of reads and writes, each of which waits for the one before it.
The tree says what is sent, how many octets are read next and what is made of them; how long that
takes and how it can fail from below is left to whoever carries it out.
-/

namespace Socks5

/-- A conversation with the proxy that leads to a result. -/
inductive Handshake (α : Type) where
  | done (result : α)
  | fail (e : Error)
  | note (n : Note) (next : Handshake α)
  | send (request : Request) (bs : Bytes) (next : Handshake α)
  | receive (part : Part) (count : Nat) (next : Bytes → Handshake α)

namespace Handshake

/-! ### The reply -/

/-- Reads the port behind the body of the bound address. -/
def readPort (network : Network) (type : AddressType) (body : Bytes) : Handshake Address :=
  .receive (.port network) 2 fun
    | [hi, lo] => match Address.ofFields type body (Bytes.toUInt16 hi lo) with
      | .ok bound => .note (.granted network bound) (.done bound)
      | .error (.invalid reason) => .fail (.bind network type reason)
      | .error _ => .fail (.short (.body network type))
    | _ => .fail (.short (.port network))

/-- Reads the body of the bound address, and its port. -/
def readBody (network : Network) (type : AddressType) (size : Nat) : Handshake Address :=
  .receive (.body network type) size (readPort network type)

/-- Reads the bound address, whose type is known. -/
def readBound (network : Network) (type : AddressType) : Handshake Address :=
  match type.bodyLength? with
  | some size => readBody network type size
  | none => .receive (.nameLength network) 1 fun
    | [n] => if n = 0 then .fail (.emptyBind network) else readBody network type n.toNat
    | _ => .fail (.short (.nameLength network))

/-- Reads the reply to the command, and gives the bound address. -/
def readReply (network : Network) : Handshake Address :=
  .receive (.header network) 4 fun
    | [version, status, reserved, type] =>
      if version ≠ Frame.version then .fail (.replyVersion network version)
      else if status ≠ 0 then .fail (.refused network status)
      else if reserved ≠ 0 then .fail (.reserved network reserved)
      else match AddressType.ofOctet? type with
        | some type => readBound network type
        | none => .fail (.bindType network type)
    | _ => .fail (.short (.header network))

/-! ### The whole -/

/-- Sends the command for a target, and reads the reply. -/
def command (network : Network) (target : Address) : Handshake Address :=
  .note (.requesting network.command target)
    (.send (.command network) (Frame.request network.command target) (readReply network))

/-- Negotiates to go without authentication, then sends the command. -/
def negotiate (network : Network) (target : Address) : Handshake Address :=
  .send .negotiation Frame.negotiation
    (.receive .method 2 fun
      | [version, method] =>
        if version ≠ Frame.version then .fail (.methodVersion version)
        else .note (.negotiated method) (command network target)
      | _ => .fail (.short .method))

end Handshake

end Socks5

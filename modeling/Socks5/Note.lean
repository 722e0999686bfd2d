import Socks5.Error

/-!
# Notes

What dials and relays tell about themselves while they work. A note has a level, a channel and a
text; who listens decides what becomes of it.
-/

namespace Socks5

/-- What is worth telling. -/
inductive Note where
  | connecting (proxy : Address)
  | openingStream (host : Text) (port : UInt16)
  | openingEndpoint (host : Text) (port : UInt16)
  | negotiated (method : UInt8)
  | requesting (command : UInt8) (target : Address)
  | granted (network : Network) (bound : Address)
  | connected (target proxy : Address)
  | openingRelay (host : Text) (port : UInt16)
  | associated (host : Text) (port : UInt16) (fixed : Option Address) (proxy : Address)
  | failed (proxy target : Address) (error : Error)
  | sent (dest : Address) (length : Nat)
  | received (source : Address) (length : Nat)
  | controlFault (fault : Fault)
  | controlGone
  | closeFault (fault : Fault)

namespace Note

/-- The levels of notes, as numbers. -/
def level : Note → Nat
  | connected _ _ | associated _ _ _ _ => 20
  | failed _ _ _ => 30
  | _ => 10

def channel : Note → String
  | openingStream _ _ | openingEndpoint _ _ | closeFault _ => "socks-dialer-transport"
  | requesting _ _ => "socks-dialer-protocol"
  | sent _ _ | received _ _ | controlFault _ | controlGone => "socks-dialer-relay"
  | _ => "socks-dialer"

private def decimal (n : Nat) : String := String.ofList (Nat.toDigits 10 n)

/-- A host and a port with a colon between them. -/
private def place (host : Text) (port : UInt16) : Text := host ++ ":" ++ decimal port.toNat

def text : Note → Text
  | connecting proxy => "连接代理服务器: " ++ proxy.text
  | openingStream host port => "打开 TCP 连接: " ++ place host port
  | openingEndpoint host port => "打开 UDP 端点: " ++ place host port
  | negotiated method => "方法协商完成: method=" ++ octetText method
  | requesting command target =>
    "创建命令请求: cmd=" ++ octetText command ++ ", addr=" ++ target.text
  | granted network bound => network.request ++ " 成功: bind=" ++ bound.text
  | connected target proxy => "已连接: " ++ target.text ++ " via " ++ proxy.text
  | openingRelay host port => "打开 UDP 中继: " ++ place host port
  | associated host port fixed proxy =>
    "UDP 关联已建立: relay=" ++ place host port ++ ", dest=" ++
      fixed.elim ("None" : Text) (·.text) ++ " via " ++ proxy.text
  | failed proxy target error =>
    "SOCKS5 握手失败: proxy=" ++ proxy.text ++ ", target=" ++ target.text ++
      ", error=" ++ error.message
  | sent dest length => "发送中继数据报: dest=" ++ dest.text ++ ", len=" ++ decimal length
  | received source length => "收到中继数据报: source=" ++ source.text ++ ", len=" ++ decimal length
  | controlFault fault => "读取控制连接出错: " ++ fault.text
  | controlGone => "控制连接已关闭，关闭 UDP 中继"
  | closeFault fault => "等待连接关闭时出错: " ++ fault.text

end Note

end Socks5

import Socks5.Ip.Any
import Socks5.Text.Quoted
import Socks5.Decimal.Shortest
import Socks5.Decimal.Reading
import Socks5.Address.Parsing
import Socks5.Address.Wire
import Socks5.Value.Equality
import Socks5.Value.Text
import Socks5.Dial.Run
import Socks5.Net.Opening
import Socks5.Settings.Document
import Socks5.Log.Journal
import Socks5.Main
import Socks5.Proofs.Address.RoundTrip
import Socks5.Proofs.Address.Canonical
import Socks5.Proofs.Dial.Answer
import Socks5.Proofs.Dial.Release
import Socks5.Proofs.Dial.Order
import Socks5.Proofs.Dial.Segmentation
import Socks5.Proofs.Dial.Deadline
import Socks5.Proofs.Dial.Limits
import Socks5.Proofs.Dial.Errors
import Socks5.Proofs.Endpoint.Operations
import Socks5.Proofs.Endpoint.Delivery
import Socks5.Proofs.Endpoint.Eviction
import Socks5.Proofs.Endpoint.Attempts
import Socks5.Proofs.Endpoint.Closed
import Socks5.Proofs.Endpoint.Lasting
import Socks5.Proofs.Relay.Watcher
import Socks5.Proofs.Session.Ledger
import Socks5.Proofs.Session.Tending
import Socks5.Proofs.Session.ControlLoss
import Socks5.Proofs.Session.Sending
import Socks5.Proofs.Session.Transparency
import Socks5.Proofs.Session.Closing
import Socks5.Proofs.Relay.Forms
import Socks5.Proofs.Dial.Strays
import Socks5.Proofs.Dial.Progress
import Socks5.Proofs.Address.Text
import Socks5.Proofs.Address.Grammar
import Socks5.Proofs.Address.Truncation
import Socks5.Proofs.Loop.Caller
import Socks5.Proofs.Client.Run
import Socks5.Proofs.Net.Fallback
import Socks5.Proofs.Address.Origin
import Socks5.Proofs.Log.Following
import Socks5.Proofs.Settings.Saving

import Socks5.Proofs.Dial.Answer
import Socks5.Proofs.Dial.Record
import Socks5.Proofs.Dial.Success

/-!
# The order in which a dial acts

Whatever the network does and whenever a dial is broken off, at every moment of it the acts up to
then are in order: nothing is opened twice, the command follows the agreement of the proxy to the
version, and the relay is opened for datagrams alone, after a complete reply and where the reply
says. The order is read off the courses of a dial.
-/

namespace Socks5

/-! ### What was read -/

/-- The octets of a reply that tells of an address. -/
lemma Network.reply_eq_ok {network : Network} {bs rest : Bytes} {bound : Address}
    (h : network.reply bs = .ok (bound, rest)) :
    ∃ wire, bs = 5 :: 0 :: 0 :: wire ∧ Address.unpack wire = .ok (bound, rest) := by
  match bs with
  | [] | [_] | [_, _] | [_, _, _] => cases h
  | version :: status :: reserved :: type :: wire =>
  simp only [reply] at h
  split_ifs at h with hversion hstatus hreserved
  obtain rfl := not_not.mp hversion
  obtain rfl := not_not.mp hstatus
  obtain rfl := not_not.mp hreserved
  refine ⟨type :: wire, rfl, ?_⟩
  cases hunpack : Address.unpack (type :: wire) with
  | error e =>
    rw [hunpack] at h
    cases h
  | ok result =>
    rw [hunpack] at h
    cases h
    rfl

/-- The octets of an answer with which the proxy agrees. -/
lemma Network.answer_eq_ok {network : Network} {bs rest : Bytes} {bound : Address}
    (h : network.answer bs = .ok (bound, rest)) :
    ∃ method wire, bs = 5 :: method :: 5 :: 0 :: 0 :: wire ∧
      Address.unpack wire = .ok (bound, rest) := by
  match bs with
  | [] | [_] => cases h
  | version :: method :: reply =>
  simp only [answer] at h
  split_ifs at h with hversion
  obtain rfl := not_not.mp hversion
  obtain ⟨wire, rfl, hunpack⟩ := reply_eq_ok h
  exact ⟨method, wire, rfl, hunpack⟩

namespace Handshake

/-- If a handshake leads to a bound address, the octets are an answer with this address. -/
lemma answer_of_onOctets {network : Network} {target bound : Address} {bs sent rest : Bytes}
    (h : (negotiate network target).onOctets true bs = (.value bound, sent, rest)) :
    network.answer bs = .ok (bound, rest) := by
  -- On a line that holds the octets, both readings are carried out.
  let l : Line := { now := 0, stream := { buffer := bs, ended := true } }
  have hl : l.Brings bs true := ⟨rfl, rfl, fun _ hp => absurd hp List.not_mem_nil, .now rfl⟩
  have hagrees := negotiate_computes network target l bs hl
  obtain ⟨l', hrun, -, hbrings⟩ := (negotiate network target).run_eq_onOctets hl
  rw [h] at hrun hbrings
  rw [hrun] at hagrees
  cases hanswer : network.answer bs with
  | error refusal =>
    rw [hanswer] at hagrees
    obtain ⟨e, hvalue, -⟩ := hagrees
    cases hvalue
  | ok result =>
    obtain ⟨bound', rest'⟩ := result
    rw [hanswer] at hagrees
    obtain ⟨hvalue, hunread⟩ := hagrees
    cases hvalue
    rw [← hunread, (hbrings bound rfl).unread_eq]

end Handshake

/-! ### The order -/

namespace Dialer

variable {d : Dialer} {network : Network} {target : Address} {acts past : List Act}

/-- The command for a target: to connect is 1, to open a relay is 3. -/
def commandFrame (network : Network) (target : Address) : Bytes :=
  5 :: (if network = .udp then 3 else 1) :: 0 :: target.pack

lemma request_eq_commandFrame (network : Network) (target : Address) :
    Frame.request network.command target = commandFrame network target := by
  cases network <;> rfl

/-- The acts of a dial of a target up to some moment are in order. -/
structure Orderly (d : Dialer) (network : Network) (target : Address) (past : List Act) : Prop where
  stream_once : (Act.streamCalls past).length ≤ 1
  endpoint_once : (Act.endpointCalls past).length ≤ 1
  written : Act.sent past = [] ∨ Act.sent past = [5, 1, 0] ∨
    Act.sent past = [5, 1, 0] ++ commandFrame network target
  command : Act.sent past = [5, 1, 0] ++ commandFrame network target →
    ∃ before after method, Act.received before = [5, method] ∧
      past = before ++ .writes (commandFrame network target) :: after
  endpoint : ∀ host port, (host, port) ∈ Act.endpointCalls past → network = .udp ∧
    ∃ before after method wire bound, past = before ++ .opensEndpoint host port :: after ∧
      Act.received before = 5 :: method :: 5 :: 0 :: 0 :: wire ∧
      Address.unpack wire = .ok (bound, []) ∧ port = bound.port ∧
      host = if bound.isUnspecified then d.proxy.host.text else bound.host.text

namespace Course

/-- Before the command is written nothing but the negotiation was, and nothing is written after. -/
lemma written_cases (h : Course d network target past) :
    (Act.sent past = [] ∨ Act.sent past = Frame.negotiation) ∨
      ∃ method after, Act.sent after = [] ∧
        past = d.streamCall :: .writes Frame.negotiation :: .reads [Frame.version, method] ::
          .writes (commandFrame network target) :: after := by
  rw [← request_eq_commandFrame]
  cases h with
  | idle => exact .inl (.inl rfl)
  | talking h =>
    obtain ⟨-, hsent⟩ | ⟨method, reply, hreply, rfl⟩ := Handshake.negotiate_course h
    · exact .inl hsent
    · exact .inr ⟨method, reply, hreply, rfl⟩
  | opening _ h =>
    obtain ⟨hnone, -⟩ | ⟨method, reply, hreply, rfl⟩ := Handshake.negotiate_course h
    · cases hnone
    · refine .inr ⟨method, reply ++ [_], ?_, rfl⟩
      rw [Act.sent_append, hreply]
      rfl

lemma streamCalls_cases (h : Course d network target past) :
    Act.streamCalls past = [] ∨ Act.streamCalls past = [d.proxy.toPair] := by
  cases h with
  | idle => exact .inl rfl
  | talking h => exact .inr (congrArg (d.proxy.toPair :: ·) h.opens_nothing.1)
  | @opening talk bound _ h =>
    refine .inr ?_
    change d.proxy.toPair :: Act.streamCalls (talk ++ _) = _
    rw [Act.streamCalls_append, h.opens_nothing.1]
    rfl

/-- The relay is opened at the end of a handshake for datagrams. -/
lemma endpointCalls_cases (h : Course d network target past) :
    Act.endpointCalls past = [] ∨ ∃ talk bound, network = .udp ∧
      (Handshake.negotiate network target).Course talk (some bound) ∧
      Act.endpointCalls past = [(d.relayHost bound, bound.port)] ∧
      past = d.streamCall :: (talk ++ [.opensEndpoint (d.relayHost bound) bound.port]) := by
  cases h with
  | idle => exact .inl rfl
  | talking h => exact .inl h.opens_nothing.2
  | @opening talk bound hnetwork h =>
    refine .inr ⟨talk, bound, hnetwork, h, ?_, rfl⟩
    change Act.endpointCalls (talk ++ _) = _
    rw [Act.endpointCalls_append, h.opens_nothing.2]
    rfl

/-- At every moment of a dial the acts up to then are in order. -/
lemma orderly (h : Course d network target past) : Orderly d network target past where
  stream_once := by
    obtain hcalls | hcalls := h.streamCalls_cases
    · exact hcalls ▸ Nat.zero_le _
    · exact hcalls ▸ le_rfl
  endpoint_once := by
    obtain hcalls | ⟨_, _, _, _, hcalls, _⟩ := h.endpointCalls_cases
    · exact hcalls ▸ Nat.zero_le _
    · exact hcalls ▸ le_rfl
  written := by
    obtain (hsent | hsent) | ⟨method, after, hsent, rfl⟩ := h.written_cases
    · exact .inl hsent
    · exact .inr (.inl hsent)
    · refine .inr (.inr ?_)
      change Frame.negotiation ++ (commandFrame network target ++ Act.sent after) = _
      rw [hsent, List.append_nil]
      rfl
  command := by
    intro hcommand
    obtain (hsent | hsent) | ⟨method, after, -, rfl⟩ := h.written_cases
    · rw [hsent] at hcommand
      cases hcommand
    · rw [hsent] at hcommand
      cases hcommand
    · exact ⟨[d.streamCall, .writes Frame.negotiation, .reads [Frame.version, method]], after,
        method, rfl, rfl⟩
  endpoint := by
    intro host port hmem
    obtain hcalls | ⟨talk, bound, hnetwork, htalk, hcalls, rfl⟩ := h.endpointCalls_cases
    · rw [hcalls] at hmem
      cases hmem
    rw [hcalls] at hmem
    obtain ⟨rfl, rfl⟩ := Prod.mk.inj (List.mem_singleton.mp hmem)
    -- The octets that were read one after the other are read at once as well.
    have hanswer := Handshake.answer_of_onOctets (htalk.onOctets_received true)
    obtain ⟨method, wire, hreceived, hunpack⟩ := Network.answer_eq_ok hanswer
    exact ⟨hnetwork, d.streamCall :: talk, [], method, wire, bound, rfl, hreceived, hunpack, rfl,
      rfl⟩

end Course

/-- Every dial acts in order, at every moment of it: no stream and no endpoint is opened twice; what
was written is nothing, the negotiation, or the negotiation and the command; the command is written
after the proxy has agreed to the version; the relay is opened for datagrams only, after a complete
reply and where that reply says. What was read is the beginning of what the proxy sends. A dial
without a network or a target does nothing, and a relay is tied to the target unless this leaves
open where it is. -/
theorem dial_acts_in_order (d : Dialer) (script : Script) (name address : Text)
    (limit : Option Int) :
    (d.recorded script name address limit).2 =
        ((d.dial script name address limit).outcome, (d.dial script name address limit).trace) ∧
      Shows (d.dial script name address limit).trace (d.recorded script name address limit).1 ∧
      Act.received (d.recorded script name address limit).1 <+: script.stream.octets ∧
      ((name ≠ "tcp" ∧ name ≠ "udp" ∨ ∃ e, Address.parse address = .error e) →
        (d.recorded script name address limit).1 = []) ∧
      (∀ network target, Network.ofName? name = some network →
        Address.parse address = .ok target →
        ∀ past, past <+: (d.recorded script name address limit).1 →
          Orderly d network target past) ∧
      ∀ s r, (d.dial script name address limit).outcome = .value s → s.connection = .relay r →
        ∃ target, Address.parse address = .ok target ∧
          r.fixed = if target.isUnspecified ∨ target.port = 0 then none else some target := by
  refine ⟨d.recorded_snd script name address limit, d.recorded_shows script name address limit,
    d.recorded_received script name address limit, ?_, ?_, ?_⟩
  · rintro (⟨htcp, hudp⟩ | ⟨e, hparse⟩)
    · have hnetwork : Network.ofName? name = none := by simp [Network.ofName?, htcp, hudp]
      rw [recorded, hnetwork]
    · rw [recorded, hparse]
      cases Network.ofName? name with
      | none => rfl
      | some network => cases e <;> rfl
  · intro network target hnetwork hparse past hpast
    rw [recorded, hnetwork, hparse] at hpast
    exact ((d.recordedTarget_course script network target limit).earlier hpast).orderly
  · intro s r hvalue hrelay
    obtain ⟨target, l, hparse, rfl, -⟩ := dial_relay_fixed hvalue hrelay
    cases hrelay
    exact ⟨target, hparse, rfl⟩

/-- The order can be seen on a dial of a relay that the proxy puts on its own host; nothing is done
for a network that there is not. -/
theorem dial_acts_in_order_for_relay :
    let d : Dialer := { proxy := ⟨.ipv4 ⟨10, 0, 0, 1⟩, 1080⟩ }
    let script : Script :=
      { stream := { arrivals := [(1, .data [5]), (2, .data [0, 5, 0, 0, 1, 0, 0, 0, 0, 4, 56])] } }
    let target : Address := ⟨.ipv4 ⟨192, 0, 2, 1⟩, 53⟩
    let acts := (d.recorded script "udp" "192.0.2.1:53" none).1
    (d.recorded script "sctp" "192.0.2.1:53" none).1 = [] ∧
      acts = [.opensStream "10.0.0.1" 1080, .writes [5, 1, 0], .reads [5, 0],
        .writes [5, 3, 0, 1, 192, 0, 2, 1, 0, 53], .reads [5, 0, 0, 1], .reads [0, 0, 0, 0],
        .reads [4, 56], .opensEndpoint "10.0.0.1" 1080] ∧
      Orderly d .udp target acts ∧
      ∃ s r, (d.dial script "udp" "192.0.2.1:53" none).outcome = .value s ∧
        s.connection = .relay r ∧ r.fixed = some target := by
  intro d script target acts
  have hparse : Address.parse "192.0.2.1:53" = .ok target := rfl
  obtain ⟨-, -, -, hnone, -, -⟩ := dial_acts_in_order d script "sctp" "192.0.2.1:53" none
  obtain ⟨-, -, -, -, hall, hfixed⟩ := dial_acts_in_order d script "udp" "192.0.2.1:53" none
  refine ⟨hnone (.inl (by decide)), rfl, hall .udp target rfl hparse acts List.prefix_rfl, ?_⟩
  obtain ⟨target', hparse', hrelay⟩ := hfixed _ _ rfl rfl
  obtain rfl : target = target' := Except.ok.inj (hparse.symm.trans hparse')
  exact ⟨_, _, rfl, rfl, hrelay⟩

end Dialer

end Socks5

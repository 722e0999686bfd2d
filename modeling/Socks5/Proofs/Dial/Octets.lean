import Socks5.Proofs.Address.Fields
import Socks5.Proofs.Dial.Flow

/-!
# A handshake as a function of octets

`Handshake.onOctets` carries out a handshake on octets that are all there, without a line and
without time: what it sends, how it ends and what it leaves are a function of the octets. On a line
that nobody disturbs the handshake does the same, however the octets are cut and whenever they
arrive, and whether they arrive before or after the requests are sent.
-/

namespace Socks5

variable {α : Type}

/-! ### Handshakes on octets -/

namespace Handshake

/-- How a handshake ends when all octets are there, what it sends, and what it leaves. A read of
more than there is comes up short if the input ends behind the octets, and never ends otherwise. -/
def onOctets (ends : Bool) : Handshake α → Bytes → Ended α × Bytes × Bytes
  | .done a, bs => (.value a, [], bs)
  | .fail e, bs => (.failure (.error e), [], bs)
  | .note _ next, bs => next.onOctets ends bs
  | .send _ out next, bs =>
    let (ended, sent, rest) := next.onOctets ends bs
    (ended, out ++ sent, rest)
  | .receive part count next, bs =>
    if count ≤ bs.length then (next (bs.take count)).onOctets ends (bs.drop count)
    else (if ends then .failure (.error (.short part)) else .never, [], bs)

@[simp] lemma onOctets_send (ends : Bool) (request : Request) (out : Bytes) (next : Handshake α)
    (bs : Bytes) : (send request out next).onOctets ends bs = ((next.onOctets ends bs).1,
      out ++ (next.onOctets ends bs).2.1, (next.onOctets ends bs).2.2) := rfl

/-- A handshake without limits does on an undisturbed line what it does on the octets. -/
lemma run_eq_onOctets {ends : Bool} (h : Handshake α) :
    ∀ {l : Line} {bs : Bytes}, l.Brings bs ends → ∃ l',
      h.run none none l = ((h.onOctets ends bs).1, l') ∧
      l'.stream.written = l.stream.written ++ (h.onOctets ends bs).2.1 ∧
      ∀ a, (h.onOctets ends bs).1 = .value a → l'.Brings (h.onOctets ends bs).2.2 ends := by
  induction h with
  | done a => exact fun {l _} hl => ⟨l, rfl, (List.append_nil _).symm, fun _ _ => hl⟩
  | fail e => exact fun {l _} _ => ⟨l, rfl, (List.append_nil _).symm, fun _ h => nomatch h⟩
  | note n next ih => exact fun hl => ih (hl.tell n)
  | send request out next ih =>
    intro l bs hl
    obtain ⟨l₁, hwrite, hl₁⟩ := hl.write out
    have htakes : l.takes none out = true := Line.takes_of_value (by rw [hwrite])
    have hwritten := l.write_written none out
    rw [hwrite, if_pos htakes] at hwritten
    obtain ⟨l', hrun, hsent, hrest⟩ := ih hl₁
    rw [onOctets_send]
    refine ⟨l', ?_, ?_, hrest⟩
    · simpa [run, limitAt, stricter, hwrite] using hrun
    · rw [hsent, hwritten, List.append_assoc]
  | receive part count next ih =>
    intro l bs hl
    have hwritten := l.read_written none (.exactly count)
    by_cases hcount : count ≤ bs.length
    · obtain ⟨l₁, hread, hl₁⟩ := hl.read_exactly hcount
      rw [hread] at hwritten
      obtain ⟨l', hrun, hsent, hrest⟩ := ih (bs.take count) hl₁
      simp only [onOctets, if_pos hcount]
      refine ⟨l', ?_, ?_, hrest⟩
      · simpa [run, limitAt, stricter, hread] using hrun
      · rw [hsent, hwritten]
    -- Too few octets are left: the line ends here, with or without a failure.
    simp only [onOctets, if_neg hcount, List.append_nil]
    have hshort := hl.read_exactly_short (Nat.not_le.mp hcount)
    refine ⟨(l.read none (.exactly count)).2, ?_, hwritten, ?_⟩
    · rw [run_receive, show limitAt none none l.now = none from rfl]
      generalize l.read none (.exactly count) = r at hshort ⊢
      obtain ⟨ended, l₁⟩ := r
      simp only at hshort
      rw [hshort]
      cases ends <;> rfl
    · intro a ha
      cases ends <;> cases ha

/-! ### The reply -/

/-- A handshake sends only such octets, and on its own account fails only with such errors. -/
def Keeps (maySend : Bytes → Prop) (mayFail : Error → Prop) : Handshake α → Prop
  | .done _ => True
  | .fail e => mayFail e
  | .note _ next => next.Keeps maySend mayFail
  | .send _ out next => maySend out ∧ next.Keeps maySend mayFail
  | .receive _ count next => ∀ bs, bs.length = count → (next bs).Keeps maySend mayFail

/-- Sends nothing, and comes up short only where the octets do. -/
def Hears (h : Handshake α) : Prop := h.Keeps (fun _ => False) (·.category ≠ .shortReply)

variable (network : Network) (type : AddressType)

lemma readPort_hears {body : Bytes} (hlength : ∀ size ∈ type.bodyLength?, body.length = size) :
    (readPort network type body).Hears := by
  intro port hport
  match port, hport with
  | [hi, lo], _ =>
    simp only
    cases hfields : Address.ofFields type body (Bytes.toUInt16 hi lo) with
    | ok bound => exact trivial
    | error e =>
      obtain ⟨reason, rfl⟩ := Address.ofFields_error hlength hfields
      exact nofun

lemma readBody_hears {size : Nat} (hsize : ∀ n ∈ type.bodyLength?, size = n) :
    (readBody network type size).Hears := by
  intro body hbody
  exact readPort_hears network type fun n hn => hbody.trans (hsize n hn)

lemma readBound_hears : (readBound network type).Hears := by
  cases type with
  | ipv4 => exact readBody_hears network .ipv4 fun _ hn => Option.some.inj hn
  | ipv6 => exact readBody_hears network .ipv6 fun _ hn => Option.some.inj hn
  | domain =>
    intro length hlength
    obtain ⟨n, rfl⟩ := List.length_eq_one_iff.mp hlength
    simp only
    split_ifs with hzero
    · exact nofun
    · exact readBody_hears network .domain fun _ hn => nomatch hn

/-- Reading the reply sends nothing, and comes up short only where the octets do. -/
lemma readReply_hears : (readReply network).Hears := by
  intro header hheader
  match header, hheader with
  | [version, status, reserved, type], _ =>
    simp only
    split_ifs with hversion hstatus hreserved
    · exact nofun
    · exact nofun
    · exact nofun
    cases AddressType.ofOctet? type with
    | none => exact nofun
    | some type => exact readBound_hears network type

end Handshake

end Socks5

import Socks5.Proofs.Endpoint.Serving

/-!
# How an endpoint ends

An endpoint without a socket never gets one again, sends nothing, and keeps nobody waiting. `Moves`
says what every operation of an endpoint has in common, and each operation is shown to move it so.
-/

namespace Socks5

open Endpoint

namespace DatagramEndpoint

/-- An operation has moved an endpoint: of those who wait some got something and the others go on
waiting. An endpoint without a socket has stayed so and has sent nothing; one with a socket may have
lost it only if `lost` says so. -/
structure Moves (lost : Prop) (e : DatagramEndpoint) (waiting : List Ticket)
    (done : List (Completion Bytes)) (e' : DatagramEndpoint) : Prop where
  orderly : e'.Orderly
  tickets : done.map (·.1) ++ e'.waiting = waiting
  closed : e.port ≠ .opened → e'.port ≠ .opened ∧ e'.sent = e.sent
  opened : e.port = .opened → lost ∨ e'.port = .opened

variable {lost : Prop} {e : DatagramEndpoint}

lemma moves_refl (h : e.Orderly) : Moves lost e e.waiting [] e :=
  ⟨h, rfl, fun hclosed => ⟨hclosed, rfl⟩, .inr⟩

/-- Serving an endpoint whose socket is the same as before. -/
lemma moves_serve {e' : DatagramEndpoint} (hport : e'.port = e.port) (hsent : e'.sent = e.sent)
    (htells : e'.port ≠ .opened → e'.TellsEnd) :
    Moves lost e e'.waiting e'.serve.1 e'.serve.2 where
  orderly := orderly_serve htells
  tickets := e'.serveAll_tickets e'.waiting
  closed := fun h => ⟨by rwa [serve_port, hport], by rw [serve_sent, hsent]⟩
  opened := fun h => .inr (by rwa [serve_port, hport])

/-- What arrives does not push the notice of the end out. -/
lemma TellsEnd.foldl_enqueue (h : e.TellsEnd) (batch : List Bytes) :
    (batch.foldl enqueue e).TellsEnd := by
  induction batch generalizing e with
  | nil => exact h
  | cons bs rest ih =>
    refine ih ?_
    obtain ⟨n, htag, hmem⟩ := h
    unfold enqueue
    split_ifs
    · exact ⟨n, htag, hmem⟩
    · exact ⟨n, htag, List.mem_append_left _ hmem⟩

lemma moves_arrive (h : e.Orderly) (batch : List Bytes) :
    Moves lost e e.waiting (e.arrive batch).1 (e.arrive batch).2 := by
  have hframe := e.foldl_enqueue_frame batch
  have hport : (batch.foldl enqueue e).port = e.port := by rw [hframe]
  have hwaiting : (batch.foldl enqueue e).waiting = e.waiting := by rw [hframe]
  rw [← hwaiting]
  exact moves_serve hport (by rw [hframe]) fun hclosed =>
    (h.tells (by rwa [hport] at hclosed)).foldl_enqueue batch

lemma moves_report (hopened : e.port = .opened) (f : Fault) :
    Moves lost e e.waiting (e.report f).1 (e.report f).2 := by
  have hport : ((e.freshNotice f).2.enqueueNotice (e.freshNotice f).1).port = e.port := rfl
  exact moves_serve hport rfl fun hclosed => absurd hopened hclosed

lemma moves_receive (h : e.Orderly) (t : Ticket) :
    Moves lost e (e.waiting ++ [t]) (e.receive t).1 (e.receive t).2 := by
  have hport : { e with waiting := e.waiting ++ [t] }.port = e.port := rfl
  exact moves_serve hport rfl h.tells

lemma moves_abandon {t : Ticket} {e' : DatagramEndpoint} (h : e.Orderly)
    (habandon : e.abandon? t = some e') :
    Moves lost e (e.waiting.filter (· ≠ t)) [] e' := by
  unfold abandon? at habandon
  split_ifs at habandon with ht
  obtain rfl := Option.some.inj habandon
  exact ⟨⟨fun _ => h.idle (List.ne_nil_of_mem ht), h.tells⟩, rfl, fun hclosed => ⟨hclosed, rfl⟩,
    .inr⟩

lemma moves_send {bs : Bytes} {e' : DatagramEndpoint} (h : e.Orderly)
    (hsend : e.send bs = .ok e') : Moves lost e e.waiting [] e' := by
  unfold send at hsend
  split_ifs at hsend with hclosing
  obtain rfl := Except.ok.inj hsend
  have hopened : e.port = .opened := by simpa [isClosing] using hclosing
  exact ⟨⟨h.idle, h.tells⟩, rfl, fun hclosed => absurd hopened hclosed, .inr⟩

/-! ### Losing the socket -/

/-- The notice of the end takes its place in the queue. -/
lemma tellsEnd_ended (n : Notice) : ((e.ended n).enqueueNotice n).TellsEnd :=
  ⟨n, rfl, List.mem_append_right _ (List.mem_singleton.mpr rfl)⟩

lemma endNotice_frame (f : Option Fault) :
    ∃ nextTag, (e.endNotice f).2 = { e with nextTag } := by
  unfold endNotice
  split <;> exact ⟨_, rfl⟩

lemma ended_port (n : Notice) : (e.ended n).port ≠ .opened := by
  unfold ended
  split_ifs with hport
  · exact nofun
  · exact hport

/-- An endpoint loses its socket, whatever was done to its port before. -/
lemma moves_lose {e' : DatagramEndpoint} (hlost : lost) (hwaiting : e'.waiting = e.waiting)
    (hsent : e'.sent = e.sent) (f : Option Fault) :
    Moves lost e e.waiting (e'.lose f).1 (e'.lose f).2 ∧ (e'.lose f).2.port ≠ .opened := by
  obtain ⟨nextTag, hframe⟩ := e'.endNotice_frame f
  have hlose : e'.lose f = serve
      (((e'.endNotice f).2.ended (e'.endNotice f).1).enqueueNotice (e'.endNotice f).1) := rfl
  rw [hframe] at hlose
  have hport : (e'.lose f).2.port ≠ .opened := by
    rw [hlose, serve_port]
    exact ended_port (e'.endNotice f).1
  refine ⟨⟨?_, ?_, fun _ => ⟨hport, ?_⟩, fun _ => .inl hlost⟩, hport⟩
  · rw [hlose]
    exact orderly_serve fun _ => tellsEnd_ended (e'.endNotice f).1
  · rw [hlose, ← hwaiting]
    exact serveAll_tickets _ _
  · rw [hlose, serve_sent]
    exact hsent

lemma moves_close (h : e.Orderly) (hlost : lost) (reason : Option Fault) :
    Moves lost e e.waiting (e.close reason).1 (e.close reason).2 ∧
      (e.close reason).2.port ≠ .opened := by
  unfold close
  split_ifs with hport
  · cases reason with
    | none =>
      have hclosed : { e with port := .closed, reason := none }.waiting = e.waiting := rfl
      exact moves_lose hlost hclosed rfl none
    | some f =>
      have hclosed : { (e.freshNotice f).2 with
        port := .closed, reason := some (e.freshNotice f).1 }.waiting = e.waiting := rfl
      exact moves_lose hlost hclosed rfl none
  · exact ⟨moves_refl h, hport⟩

/-- Only the loss of the socket closes the endpoint. -/
lemma moves_signal (h : e.Orderly) {g : Signal} (hlost : ∀ f, g = .lost f → lost) :
    Moves lost e e.waiting (e.signal g).1 (e.signal g).2 := by
  cases g with
  | datagram bs => exact moves_arrive h [bs]
  | fault f =>
    unfold signal
    split_ifs with hopened
    · exact moves_report hopened f
    · exact moves_refl h
  | lost f =>
    unfold signal
    split_ifs
    · exact (moves_lose (hlost f rfl) rfl rfl f).1
    · exact moves_refl h

end DatagramEndpoint

end Socks5

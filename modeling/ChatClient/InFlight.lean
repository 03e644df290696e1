import ChatClient.Lib.StopAndWait
import ChatClient.Outgoing

/-!
# One mail in flight

In UDP mode the listener is the sender of a stop-and-wait protocol (`inFlight_simulation`): the mail
in flight is `confMail` while `receivedConfirm` is false, and nothing is in flight otherwise.  What
keeps it so is the gate at the head of the loop, which takes the notify pipe out of the epoll set as
long as a CONFIRM is missing (`Gated`).
-/

namespace ChatClient

open MailBox

namespace Client

variable {connection : NetworkConnection} {t es : List Event} {s s' : Client}

/-! ## The gate -/

/-- The threads work for one protocol, and the flag `toSendRegistered` is right. -/
structure Consistent (connection : NetworkConnection) (s : Client) : Prop where
  protocol : s.listener.protocolType = connection.type
  service : s.mailbox.deliveryService = connection.type
  registered : s.listener.toSendRegistered = true ↔ .toSendPipe ∈ s.epoll

theorem Consistent.step (hc : Consistent connection s) (h : Transition connection s es s') :
    Consistent connection s' := by
  obtain ⟨hl, hm, hr⟩ := hc
  cases h with
  | fail | refuse | pushMail | notifyListener | waitMail | stop | finish | ready | interrupted
  | readNotify | popMail => exact ⟨hl, hm, hr⟩
  | sendMail => exact ⟨hl, by rw [assignMessageID_eq]; exact hm, hr⟩
  | enterWait hp hgo h =>
    obtain ⟨rfl, hmem, -⟩ := toggleSendPipe_ok hr h
    exact ⟨hl, hm, hmem.symm⟩
  | timeout hp hret h =>
    obtain ⟨-, -, rfl⟩ := retransmit_ok h
    exact ⟨hl, hm, hr⟩
  | listenStdin hp h => exact ⟨hl, (listenStdin_receives h).1.service.trans hm, hr⟩
  | listenSignal hp h =>
    obtain ⟨rfl, hmb, -⟩ := listenSignal_receives h
    exact ⟨hl, hmb.service.trans hm, hr⟩
  | listenSocket hp h =>
    obtain ⟨hmb, hsame⟩ := listenSocket_receives h
    exact ⟨hsame.protocol.trans hl, hmb.service.trans hm, by rw [hsame.registered]; exact hr⟩
  | transmit hp h =>
    have hsame := transmit_sameSetup h
    exact ⟨hsame.protocol.trans hl, hm, by rw [hsame.registered]; exact hr⟩

theorem consistent (r : (system connection).Run t s) : Consistent connection s := by
  apply r.invariant (I := fun _ s => Consistent connection s)
  · rintro s rfl
    exact ⟨rfl, rfl, by simp [initial]⟩
  · intro t s es s' _ ih h
    exact ih.step (transition h).2

/-- Where the listener thread may stand in UDP mode: it can come to the notify pipe only while
nothing awaits its CONFIRM. -/
def gated (s : Client) : Prop :=
  match s.place with
  | .events rest => rest.Nodup ∧ (.toSendPipe ∈ rest → s.listener.receivedConfirm = true)
  | .waiting _ => .toSendPipe ∈ s.epoll → s.listener.receivedConfirm = true
  | .notified rest | .popped _ rest =>
    rest.Nodup ∧ .toSendPipe ∉ rest ∧ s.listener.receivedConfirm = true
  | .finished => True

structure Gated (s : Client) : Prop where
  place : s.gated
  armed : s.listener.receivedConfirm = false →
    s.listener.refMsgId = s.listener.confMail.getMessageID

/-- The rest of a batch is gated like the batch. -/
theorem gated_tail {fd : FdType} {rest : List FdType} {b : Bool}
    (h : (fd :: rest).Nodup ∧ (.toSendPipe ∈ fd :: rest → b = true)) :
    rest.Nodup ∧ (.toSendPipe ∈ rest → b = true) :=
  ⟨(List.nodup_cons.1 h.1).2, fun hm => h.2 (List.mem_cons_of_mem _ hm)⟩

theorem Gated.step (hu : connection.type = .udp) (hc : Consistent connection s) (hg : Gated s)
    (h : Transition connection s es s') : Gated s' := by
  obtain ⟨hg, ha⟩ := hg
  have hl := hc.protocol.trans hu
  unfold gated at hg
  cases h with
  | fail | refuse | pushMail | notifyListener | waitMail | stop | sendMail => exact ⟨hg, ha⟩
  | finish => exact ⟨trivial, ha⟩
  | enterWait hp hgo h =>
    -- the toggle makes the epoll set agree with `receivedConfirm`
    obtain ⟨rfl, hmem, -⟩ := toggleSendPipe_ok hc.registered h
    exact ⟨hmem.1, ha⟩
  | timeout hp hr h =>
    obtain ⟨-, -, rfl⟩ := retransmit_ok h
    exact ⟨⟨List.nodup_nil, fun hm => nomatch hm⟩, ha⟩
  | interrupted => exact ⟨⟨List.nodup_nil, fun hm => nomatch hm⟩, ha⟩
  | @ready _ _ fds hp hr =>
    rw [hp] at hg
    obtain ⟨-, hnodup, hmem, -⟩ := hr
    -- what is reported was in the epoll set
    have hgate : .toSendPipe ∈ fds → s.listener.receivedConfirm = true :=
      fun hm => hg (hmem _ hm)
    exact ⟨⟨hnodup, hgate⟩, ha⟩
  | listenStdin hp h =>
    rw [hp] at hg
    exact ⟨gated_tail hg, ha⟩
  | listenSignal hp h =>
    rw [hp] at hg
    obtain ⟨rfl, -, -⟩ := listenSignal_receives h
    exact ⟨gated_tail hg, ha⟩
  | listenSocket hp h =>
    rw [hp] at hg
    obtain ⟨-, sent, -, hh⟩ := listenSocket_udp hu hl (hc.service.trans hu) h
    rcases hh.listener_cases with heq | ⟨-, -, -, heq⟩
    · rw [heq]
      exact ⟨gated_tail hg, ha⟩
    · rw [heq]
      exact ⟨⟨(gated_tail hg).1, fun _ => rfl⟩, fun hf => nomatch hf⟩
  | readNotify hp hn =>
    rw [hp] at hg
    obtain ⟨hnotMem, hnodup⟩ := List.nodup_cons.1 hg.1
    have hrc : s.listener.receivedConfirm = true := hg.2 List.mem_cons_self
    exact ⟨⟨hnodup, hnotMem, hrc⟩, ha⟩
  | popMail hp hm =>
    rw [hp] at hg
    exact ⟨hg, ha⟩
  | transmit hp h =>
    rw [hp] at hg
    obtain ⟨hnodup, hnotMem, -⟩ := hg
    obtain ⟨-, rfl⟩ := transmit_udp hl h
    exact ⟨⟨hnodup, fun hm => absurd hm hnotMem⟩, fun _ => rfl⟩

theorem gated_of_run (hu : connection.type = .udp) (r : (system connection).Run t s) :
    Gated s := by
  apply r.invariant (I := fun _ s => Gated s)
  · rintro s rfl
    exact ⟨⟨List.nodup_nil, fun hm => nomatch hm⟩, fun hf => nomatch hf⟩
  · intro t s es s' r ih h
    exact ih.step hu (consistent r) (transition h).2

/-! ## Stop and wait -/

/-- The mail that awaits its CONFIRM. -/
def inFlight (s : Client) : Option Mail :=
  if s.listener.receivedConfirm then none else some s.listener.confMail

def inFlightEvent : Event → Option (StopAndWait.Event Mail Int)
  | .transmitted mail _ => some (.transmitted mail)
  | .received _ mail _ =>
    if mail.type = some .confirm then some (.heard mail.getMessageID) else none
  | _ => none

/-- A step that the protocol does not see. -/
theorem inFlight_stutter (hs : s'.inFlight = s.inFlight) (he : es.filterMap inFlightEvent = []) :
    (StopAndWait.system Mail.getMessageID).Steps s.inFlight (es.filterMap inFlightEvent)
      s'.inFlight := by
  rw [hs, he]
  exact .refl _

/-- A CONFIRM is heard, and everything else the socket brings leaves the mail in flight. -/
theorem inFlight_handled {mb' : MailBox} {mail : Mail} {sent : List Mail} (hg : Gated s)
    (hh : Handled s.listener s.mailbox mail s'.listener mb' sent) :
    s'.inFlight = if mail.type = some .confirm then
        s.inFlight.filter fun m => m.getMessageID ≠ mail.getMessageID
      else s.inFlight := by
  unfold inFlight
  generalize s'.listener = l' at hh
  cases hh with
  | confirm ht hid hc =>
    rw [if_pos ht, hc, hid, hg.armed hc]
    simp [Option.filter]
  | strayConfirm ht hstray =>
    rw [if_pos ht]
    rcases hc : s.listener.receivedConfirm
    · have hne : s.listener.confMail.getMessageID ≠ mail.getMessageID := by
        rw [← hg.armed hc]
        exact fun he => hstray ⟨he.symm, hc⟩
      simp [Option.filter, hne]
    · rfl
  | duplicateReply ht | foreignReply ht | reply ht =>
    have ht' : mail.type ≠ some .confirm := by
      rw [ht]
      decide
    rw [if_neg ht']
  | duplicate _ ht | message _ ht => rw [if_neg ht]

theorem inFlight_simulation (hu : connection.type = .udp) :
    (system connection).Simulation (StopAndWait.system Mail.getMessageID) inFlight
      inFlightEvent where
  init := by
    rintro s rfl
    rfl
  step := by
    intro t s es s' r _ h
    have hc := consistent r
    have hg := gated_of_run hu r
    have hl := hc.protocol.trans hu
    replace h := (transition h).2
    cases h with
    | fail | refuse | sendMail | pushMail | notifyListener | waitMail | stop | finish | ready
    | interrupted | readNotify | popMail => exact inFlight_stutter rfl rfl
    | enterWait hp hgo h =>
      obtain ⟨rfl, -⟩ := toggleSendPipe_ok hc.registered h
      exact inFlight_stutter rfl rfl
    | timeout hp hr h =>
      obtain ⟨-, -, rfl⟩ := retransmit_ok h
      exact inFlight_stutter rfl rfl
    | listenStdin hp h =>
      exact inFlight_stutter rfl (filterMap_map_none (fun _ => rfl) _)
    | listenSignal hp h =>
      obtain ⟨rfl, -, -⟩ := listenSignal_receives h
      exact inFlight_stutter rfl (filterMap_map_none (fun _ => rfl) _)
    | @listenSocket _ rest res hp h =>
      obtain ⟨-, sent, -, hh⟩ := listenSocket_udp hu hl (hc.service.trans hu) h
      have hstate : inFlight { s with
          listener := res.listener, mailbox := res.mailbox, place := .events rest } = _ :=
        inFlight_handled hg hh
      rw [hstate, List.filterMap_cons, filterMap_map_none (fun _ => rfl)]
      simp only [inFlightEvent]
      split_ifs with ht
      · exact .single (.hear _ _)
      · exact .refl _
    | transmit hp h =>
      have hplace := hg.place
      unfold gated at hplace
      rw [hp] at hplace
      obtain ⟨-, -, hrc⟩ := hplace
      obtain ⟨-, rfl⟩ := transmit_udp hl h
      simp only [inFlight, hrc]
      exact .single (.transmit _)

/-- The mail transmitted last, unless a CONFIRM with its id was received since. -/
def unconfirmed (t : List Event) : Option Mail :=
  StopAndWait.inFlight Mail.getMessageID (t.filterMap inFlightEvent)

theorem inFlight_eq_unconfirmed (hu : connection.type = .udp) (r : (system connection).Run t s) :
    s.inFlight = unconfirmed t :=
  StopAndWait.state_eq_inFlight ((inFlight_simulation hu).run r)

theorem transmitted_inFlightEvent (t : List Event) :
    StopAndWait.transmitted (t.filterMap inFlightEvent) = transmitted t := by
  rw [StopAndWait.transmitted, List.filterMap_filterMap, transmitted]
  congr 1
  funext e
  cases e with
  | received datagram mail delivered =>
    simp only [inFlightEvent]
    split_ifs <;> rfl
  | _ => rfl

theorem getLast?_of_unconfirmed {mail : Mail} (h : unconfirmed t = some mail) :
    (transmitted t).getLast? = some mail := by
  rw [← transmitted_inFlightEvent]
  exact StopAndWait.getLast?_transmitted h

theorem filterMap_transmitted (pre : List Event) (mail : Mail) (bytes : Bytes) (post : List Event) :
    (pre ++ .transmitted mail bytes :: post).filterMap inFlightEvent =
      pre.filterMap inFlightEvent ++ .transmitted mail :: post.filterMap inFlightEvent := by
  rw [List.filterMap_append]
  rfl

/-- Nothing awaits its CONFIRM where a mail is transmitted. -/
theorem unconfirmed_before (hu : connection.type = .udp) (r : (system connection).Run t s)
    {pre post : List Event} {mail : Mail} {bytes : Bytes}
    (h : t = pre ++ .transmitted mail bytes :: post) : unconfirmed pre = none := by
  have hrun := (inFlight_simulation hu).run r
  rw [h] at hrun
  exact StopAndWait.inFlight_before hrun (filterMap_transmitted ..)

/-- A mail that no longer awaits its CONFIRM was confirmed: a CONFIRM with its id was received while
it did. -/
theorem exists_confirm {pre mid : List Event} {mail : Mail} {bytes : Bytes}
    (hmid : transmitted mid = [])
    (h : unconfirmed (pre ++ .transmitted mail bytes :: mid) = none) :
    ∃ mid₁ datagram confirm delivered mid₂, mid = mid₁ ++ .received datagram confirm delivered :: mid₂ ∧
      confirm.type = some .confirm ∧ confirm.getMessageID = mail.getMessageID ∧
      unconfirmed (pre ++ .transmitted mail bytes :: mid₁) = some mail := by
  rw [unconfirmed, filterMap_transmitted] at h
  rw [← transmitted_inFlightEvent] at hmid
  obtain ⟨seen₁, seen₂, hseen, hflight⟩ := StopAndWait.exists_heard hmid h
  obtain ⟨mid₁, e, mid₂, rfl, he, rfl, -⟩ := Lts.exists_of_filterMap hseen
  cases e with
  | received datagram confirm delivered =>
    simp only [inFlightEvent] at he
    split_ifs at he with ht
    have hid : confirm.getMessageID = mail.getMessageID := by simpa using he
    refine ⟨mid₁, datagram, confirm, delivered, mid₂, rfl, ht, hid, ?_⟩
    rw [unconfirmed, filterMap_transmitted]
    exact hflight
  | _ => simp [inFlightEvent] at he

/-- While `receivedConfirm` is false, the mail transmitted last is the one `refMsgId` refers to. -/
theorem last_transmitted (hu : connection.type = .udp) (r : (system connection).Run t s)
    (hrc : s.listener.receivedConfirm = false) :
    (transmitted t).getLast? = some s.listener.confMail ∧
      s.listener.refMsgId = s.listener.confMail.getMessageID := by
  have hflight : unconfirmed t = some s.listener.confMail := by
    rw [← inFlight_eq_unconfirmed hu r, inFlight, hrc]
    rfl
  exact ⟨getLast?_of_unconfirmed hflight, (gated_of_run hu r).armed hrc⟩

theorem Gated.receivedConfirm_of_transmitted (hg : Gated s) (h : Transition connection s es s')
    {mail : Mail} {bytes : Bytes} (hm : .transmitted mail bytes ∈ es) :
    s.listener.receivedConfirm = true := by
  cases h with
  | transmit hp h =>
    have hplace := hg.place
    unfold gated at hplace
    rw [hp] at hplace
    exact hplace.2.2
  | _ => simp at hm

/-- `receivedConfirm` becomes true only by a CONFIRM for `refMsgId`. -/
theorem received_of_receivedConfirm (hu : connection.type = .udp) (hc : Consistent connection s)
    (h : Transition connection s es s') (hf : s.listener.receivedConfirm = false)
    (ht : s'.listener.receivedConfirm = true) :
    ∃ datagram mail delivered, .received datagram mail delivered ∈ es ∧
      mail.type = some .confirm ∧ mail.getRefMessageID = s.listener.refMsgId := by
  have hl := hc.protocol.trans hu
  have hkeep : s'.listener.receivedConfirm = s.listener.receivedConfirm → False := by
    intro he
    rw [he, hf] at ht
    cases ht
  cases h with
  | fail | refuse | sendMail | pushMail | notifyListener | waitMail | stop | finish | ready
  | interrupted | readNotify | popMail | listenStdin => exact (hkeep rfl).elim
  | enterWait hp hgo h =>
    obtain ⟨rfl, -⟩ := toggleSendPipe_ok hc.registered h
    exact (hkeep rfl).elim
  | timeout hp hr h =>
    obtain ⟨-, -, rfl⟩ := retransmit_ok h
    exact (hkeep rfl).elim
  | listenSignal hp h =>
    obtain ⟨rfl, -, -⟩ := listenSignal_receives h
    exact (hkeep rfl).elim
  | @listenSocket received rest res hp h =>
    obtain ⟨hdec, sent, -, hh⟩ := listenSocket_udp hu hl (hc.service.trans hu) h
    rcases hh.listener_cases with heq | ⟨htype, hid, -, -⟩
    · exact (hkeep (by rw [heq])).elim
    · have href : res.mail.getRefMessageID = res.mail.getMessageID :=
        (decodeDatagram_decoded hdec).ref htype
      exact ⟨_, _, _, List.mem_cons_self, htype, href.trans hid⟩
  | transmit hp h =>
    obtain ⟨-, rfl⟩ := transmit_udp hl h
    cases ht

/-- In every run in UDP mode: a mail is transmitted only when no earlier mail is unconfirmed, and
then `receivedConfirm` is true; `receivedConfirm` becomes true only by a CONFIRM with the id of the
mail transmitted last; and at the head of the loop the flag `toSendRegistered` tells whether the
notify pipe is in the epoll set, so that the toggle does not throw. -/
theorem stop_and_wait (hu : connection.type = .udp) (r : (system connection).Run t s) :
    (∀ pre mail bytes post, t = pre ++ .transmitted mail bytes :: post → unconfirmed pre = none) ∧
    (∀ es s', (system connection).step s es s' →
      (∀ mail bytes, .transmitted mail bytes ∈ es → s.listener.receivedConfirm = true) ∧
      (s.listener.receivedConfirm = false → s'.listener.receivedConfirm = true →
        ∃ datagram mail delivered last, .received datagram mail delivered ∈ es ∧
          mail.type = some .confirm ∧ (transmitted t).getLast? = some last ∧
          mail.getRefMessageID = last.getMessageID)) ∧
    (s.place = .events [] →
      (s.listener.toSendRegistered = true ↔ .toSendPipe ∈ s.epoll) ∧
      ∃ listener epoll, toggleSendPipe s.listener s.epoll = .ok (listener, epoll)) := by
  have hc := consistent r
  refine ⟨?_, fun es s' h => ⟨?_, ?_⟩, fun _ => ⟨hc.registered, ?_⟩⟩
  · intro pre mail bytes post h
    exact unconfirmed_before hu r h
  · intro mail bytes hm
    exact (gated_of_run hu r).receivedConfirm_of_transmitted (transition h).2 hm
  · intro hf ht
    obtain ⟨datagram, mail, delivered, hm, htype, href⟩ :=
      received_of_receivedConfirm hu hc (transition h).2 hf ht
    obtain ⟨hlast, harmed⟩ := last_transmitted hu r hf
    exact ⟨datagram, mail, delivered, _, hm, htype, hlast, href.trans harmed⟩
  · obtain ⟨epoll, heq, -⟩ := toggleSendPipe_eq hc.registered
    exact ⟨_, epoll, heq⟩

/-- A mail is transmitted and confirmed, and then another one is transmitted. -/
theorem stop_and_wait_two :
    let join (id : Int) : Mail :=
      { type := some .join, data := .join ⟨id, ⟨chars "c1", by decide⟩, ⟨chars "ann", by decide⟩⟩ }
    ∃ t s, (system { type := .udp }).Run t s ∧ transmitted t = [join 0, join 1] ∧
      s.listener.receivedConfirm = false ∧
      ∀ pre mail bytes post, t = pre ++ .transmitted mail bytes :: post →
        unconfirmed pre = none := by
  intro join
  have r := run_of_exec { type := .udp } (.init rfl)
    [.sendMail (join 7), .pushMail, .notifyListener, .sendMail (join 7), .pushMail, .notifyListener,
      .loopHead, .epollWait (.ready [.toSendPipe]) 0, .readNotify, .popMail, .transmit,
      .loopHead, .epollWait (.ready [.socketPipe]) 0, .listenSocket (some [0, 0, 0]),
      .loopHead, .epollWait (.ready [.toSendPipe]) 0, .readNotify, .popMail, .transmit] rfl
  exact ⟨_, _, r, rfl, rfl, (stop_and_wait rfl r).1⟩

end Client

end ChatClient

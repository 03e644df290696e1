import ChatClient.Robustness
import ChatClient.Transfer
import ChatClient.Wakeup

/-!
# When the program can still end

`Listener::stop` waits for the listener thread, which goes on until a BYE was sent and, in UDP mode,
confirmed.  Once the main thread is there, the listener can come to its end exactly if a BYE was passed
to `sendMail` and, in UDP mode, not more than 128 mails were (`Program.can_finish_iff`); and the same
holds where the test server is at the other end (`World.can_finish_served_iff`).  In each place the
listener thread stands at, the environment can do something that brings it nearer to the end
(`Leaving.advance`).  A `send` or `sendto` is taken to succeed: where one fails, the listener thread
ends by an exception.
-/

namespace ChatClient

open MailBox

namespace Client

variable {connection : NetworkConnection} {t es : List Event} {s s' : Client}

/-! ## What the listener thread finds -/

/-- Only the notify pipe is ever taken out of the epoll set. -/
theorem mem_epoll (r : (system connection).Run t s) {fd : FdType} (hfd : fd ≠ .toSendPipe) :
    fd ∈ s.epoll := by
  apply r.invariant (I := fun _ s => fd ∈ s.epoll)
  · rintro s rfl
    cases fd <;> simp [initial]
  · intro t s es s' r ih h
    have hc := consistent r
    replace h := (transition h).2
    cases h with
    | enterWait hp hgo htoggle =>
      obtain ⟨-, -, hmem⟩ := toggleSendPipe_ok hc.registered htoggle
      exact (hmem fd hfd).2 ih
    | _ => exact ih

/-- A batch has no descriptor twice, and the byte that was reported stays in the notify pipe until it
is read. -/
def reported (s : Client) : Prop :=
  match s.place with
  | .events rest => rest.Nodup ∧ (.toSendPipe ∈ rest → 0 < s.notifyPipe)
  | .notified rest | .popped _ rest => rest.Nodup ∧ .toSendPipe ∉ rest
  | .waiting _ | .finished => True

/-- What was reported with a descriptor holds behind it, too. -/
theorem reported_tail {fd : FdType} {rest : List FdType} {n : ℕ}
    (h : (fd :: rest).Nodup ∧ (.toSendPipe ∈ fd :: rest → 0 < n)) :
    rest.Nodup ∧ (.toSendPipe ∈ rest → 0 < n) :=
  ⟨(List.nodup_cons.1 h.1).2, fun hm => h.2 (List.mem_cons_of_mem _ hm)⟩

theorem reported_of_run (r : (system connection).Run t s) : s.reported := by
  apply r.invariant (I := fun _ s => s.reported)
  · rintro s rfl
    exact ⟨List.nodup_nil, fun hm => nomatch hm⟩
  · intro t s es s' _ ih h
    replace h := (transition h).2
    unfold reported at ih
    cases h with
    | fail | refuse | sendMail | pushMail | waitMail | stop => exact ih
    | notifyListener hs =>
      obtain ⟨place, hp⟩ : ∃ place, s.place = place := ⟨_, rfl⟩
      rw [hp] at ih
      unfold reported
      rw [hp]
      cases place with
      | events rest => exact ⟨ih.1, fun _ => Nat.succ_pos _⟩
      | waiting | notified | popped | finished => exact ih
    | enterWait | finish => trivial
    | timeout | interrupted => exact ⟨List.nodup_nil, fun hm => nomatch hm⟩
    | ready hp hr =>
      obtain ⟨-, hnodup, -, hpipe⟩ := hr
      exact ⟨hnodup, hpipe⟩
    | listenStdin hp h | listenSignal hp h | listenSocket hp h =>
      rw [hp] at ih
      exact reported_tail ih
    | readNotify hp hn =>
      rw [hp] at ih
      obtain ⟨hnotMem, hnodup⟩ := List.nodup_cons.1 ih.1
      exact ⟨hnodup, hnotMem⟩
    | popMail hp hm =>
      rw [hp] at ih
      exact ih
    | transmit hp h =>
      rw [hp] at ih
      exact ⟨ih.1, fun hm => absurd hm ih.2⟩

/-! ## An obliging environment -/

/-- A datagram that is never in the way: nothing at the end of a TCP stream, and else a BYE. -/
def parting : ProtocolType → Bytes
  | .tcp => []
  | .udp => [0xFF, 0, 0]

/-- The actions of the listener thread for which the user types an empty line or interrupts the program
and the server sends the CONFIRM that is awaited or parts. -/
def Obliging (connection : NetworkConnection) (s : Client) : Action → Prop
  | .listenStdin received => received = some [lf]
  | .listenSignal received => received = some [2]
  | .listenSocket received => received = some (parting connection.type) ∨
      s.listener.receivedConfirm = false ∧ ∃ n : UInt16, s.listener.confMail.getMessageID = n.toNat ∧
        received = some (MessageType.confirm.code :: CInt.htons n)
  | action => action.byListener = true

/-- The mails that are still to be sent count twice, and the one to be confirmed once. -/
def outstanding (s : Client) : ℕ :=
  2 * (s.place.inHand.length + s.mailbox.outgoingMails.length) +
    if s.listener.receivedConfirm = true then 0 else 1

/-- The part of a round of the loop that is left. -/
def leftover (s : Client) : ℕ :=
  match s.place with
  | .events rest | .notified rest | .popped _ rest => rest.length + 2
  | .waiting _ => 1
  | .finished => 0

def distance (s : Client) : ℕ := 2 * s.outstanding + s.leftover

theorem byListener_of_obliging {action : Action} (h : Obliging connection s action) :
    action.byListener = true := by
  cases action with
  | listenStdin | listenSignal | listenSocket => rfl
  | _ => exact h

/-- Nothing is passed to `sendMail` by the listener thread. -/
theorem submitted_listener {action : Action} (ha : action.byListener = true)
    (h : s.step connection action = some (s', es)) : submitted es = [] := by
  rw [submitted, List.filterMap_eq_nil_iff]
  intro e he
  have hshows := (step_frame h).1 e he
  cases e with
  | submitted mail =>
    cases action with
    | sendMail => cases ha
    | _ => cases hshows
  | _ => rfl

theorem listenStdin_empty (mb : MailBox) : ChatClient.listenStdin mb (some [lf]) = .ok mb := rfl

/-- An empty line leaves the display name as it is. -/
theorem displayName_obliging {action : Action} (ha : Obliging connection s action)
    (h : s.step connection action = some (s', es)) :
    s'.mailbox.displayName = s.mailbox.displayName := by
  cases action with
  | listenStdin received =>
    obtain rfl : received = some [lf] := ha
    unfold step at h
    split_ifs at h
    simp only [listenStdin] at h
    split at h
    · obtain ⟨e, rfl, rfl⟩ | ⟨mailbox, hx, hk⟩ := attempt_cases h
      · rfl
      · rw [listenStdin_empty] at hx
        cases hx
        cases hk
        rfl
    · cases h
  | _ => exact (step_frame h).2 (by simp)

/-! ## The actions -/

section Actions

variable (connection) {rest : List FdType}

theorem step_listenStdin (hf : s.failure = none) (hp : s.place = .events (.stdinPipe :: rest)) :
    s.step connection (.listenStdin (some [lf])) =
      some ({ s with place := .events rest }, (newMails s.mailbox s.mailbox).map .entered) := by
  simp [step, hf, listenStdin, hp, listenStdin_empty, attempt]

theorem step_listenSignal (hf : s.failure = none) (hp : s.place = .events (.signalPipe :: rest))
    (hname : ValidDisplayName s.mailbox.displayName) :
    ∃ mail es, s.step connection (.listenSignal (some [2])) =
      some ({ s with
        listener := { s.listener with keepRunning := false }
        mailbox := s.mailbox.addMail mail
        place := .events rest }, es) := by
  obtain ⟨mail, hok⟩ := listenSignal_ok (l := s.listener) hname (List.cons_ne_nil 2 [])
  refine ⟨mail, (newMails s.mailbox (s.mailbox.addMail mail)).map .entered, ?_⟩
  simp [step, hf, listenSignal, hp, hok, attempt]

theorem step_listenSocket (hf : s.failure = none) (hp : s.place = .events (.socketPipe :: rest))
    {received : Option Bytes} {res : SocketResult}
    (hok : ChatClient.listenSocket connection s.listener s.mailbox received = .ok res) :
    ∃ es, s.step connection (.listenSocket received) =
      some ({ s with listener := res.listener, mailbox := res.mailbox, place := .events rest }, es) := by
  simp only [step, hf, listenSocket, hp, hok, attempt]
  exact ⟨_, rfl⟩

/-- What is no CONFIRM is received, whatever becomes of it, and leaves the listener as it is. -/
theorem step_parting {connection : NetworkConnection} (hc : Consistent connection s) (hf : s.failure = none)
    (hp : s.place = .events (.socketPipe :: rest)) :
    ∃ mailbox es, s.mailbox.Receives mailbox ∧
      s.step connection (.listenSocket (some (parting connection.type))) =
        some ({ s with mailbox, place := .events rest }, es) := by
  obtain ⟨res, hok, hl⟩ : ∃ res, ChatClient.listenSocket connection s.listener s.mailbox
      (some (parting connection.type)) = .ok res ∧ res.listener = s.listener := by
    rcases ht : connection.type
    · exact ⟨_, (listenSocket_tcp ht (hc.protocol.trans ht) (hc.service.trans ht) (by decide)
        (by decide)).2 ⟨by decide, _, _, parseTCPMail_nil s.mailbox, rfl⟩, rfl⟩
    · have hdec : decodeDatagram (some (parting .udp)) =
          .ok { type := some .bye, data := .bye ⟨0⟩, addToMailQueue := true } := rfl
      obtain ⟨l', mb', sent, hh, hok⟩ :=
        listenSocket_ok ht (hc.protocol.trans ht) (hc.service.trans ht) hdec
      rcases hh.listener_cases with heq | ⟨hconfirm, -⟩
      · exact ⟨_, hok, heq⟩
      · cases hconfirm
  obtain ⟨es, hstep⟩ := step_listenSocket connection hf hp hok
  rw [hl] at hstep
  exact ⟨res.mailbox, es, (listenSocket_receives hok).1, hstep⟩

/-- The CONFIRM that is awaited, where its id comes over the wire as it is. -/
theorem step_awaited {connection : NetworkConnection} (hu : connection.type = .udp) (hc : Consistent connection s)
    (hf : s.failure = none) (hp : s.place = .events (.socketPipe :: rest))
    (hrc : s.listener.receivedConfirm = false) {n : UInt16} (hn : s.listener.refMsgId = n.toNat)
    (hsurvives : receivedID n = n) :
    ∃ es, s.step connection (.listenSocket (some (MessageType.confirm.code :: CInt.htons n))) =
      some ({ s with
        listener := { s.listener with receivedConfirm := true, retries := 0, refMsgId := -1 }
        place := .events rest }, es) := by
  have hid : ((CInt.joinBytes (CInt.hiByte n) (CInt.loByte n)).toNat : Int) = s.listener.refMsgId := by
    rw [hn]
    exact congrArg (fun id : UInt16 => (id.toNat : Int)) hsurvives
  exact step_listenSocket connection hf hp
    (listenSocket_confirm hu (hc.protocol.trans hu) (hc.service.trans hu) hrc hid)

theorem step_readNotify (hf : s.failure = none) (hp : s.place = .events (.toSendPipe :: rest))
    (hn : 0 < s.notifyPipe) :
    s.step connection .readNotify =
      some ({ s with notifyPipe := s.notifyPipe - 1, place := .notified rest }, []) := by
  simp [step, hf, readNotify, hp, hn]

theorem step_popMail (hf : s.failure = none) (hp : s.place = .notified rest) {mail : Mail}
    {outgoing : List Mail} (hm : s.mailbox.outgoingMails = mail :: outgoing) :
    s.step connection .popMail =
      some ({ s with
        mailbox := { s.mailbox with outgoingMails := outgoing }
        place := .popped mail rest }, [.popped mail]) := by
  simp [step, hf, popMail, hp, attempt, getOutgoingMail, hm]

/-- A mail with data of its type can be sent. -/
theorem step_transmit (hf : s.failure = none) {mail : Mail} (hp : s.place = .popped mail rest)
    (htag : mail.WellTagged) :
    ∃ listener bytes, s.step connection .transmit =
      some ({ s with listener, place := .events rest }, [.transmitted mail bytes]) := by
  obtain ⟨⟨listener, bytes⟩, hok⟩ := transmit_ok connection s.listener htag
  refine ⟨listener, bytes, ?_⟩
  simp [step, hf, transmit, hp, attempt, hok]

/-- The head of the loop leads into `epoll_wait` or behind the loop. -/
theorem step_loopHead {connection : NetworkConnection} (hc : Consistent connection s) (hf : s.failure = none)
    (hp : s.place = .events []) :
    ∃ listener epoll place stopWatch, s.step connection .loopHead =
        some ({ s with listener, epoll, place, stopWatch }, []) ∧
      listener.receivedConfirm = s.listener.receivedConfirm ∧
      (place = .finished ∨ ∃ timeout, place = .waiting timeout) ∧
      (s.listener.goesOn = false → place = .finished) := by
  by_cases hgo : s.listener.goesOn = true
  · obtain ⟨epoll, htoggle, -⟩ := toggleSendPipe_eq hc.registered
    let l : Listener := { s.listener with toSendRegistered := s.listener.receivedConfirm }
    refine ⟨l, epoll, .waiting (waitTimeout connection l s.stopWatch s.now).1,
      (waitTimeout connection l s.stopWatch s.now).2.start s.now, ?_, rfl, .inr ⟨_, rfl⟩, ?_⟩
    · simp [step, hf, loopHead, hp, hgo, htoggle, attempt, l]
    · intro h
      rw [hgo] at h
      cases h
  · exact ⟨s.listener, s.epoll, .finished, s.stopWatch, by simp [step, hf, loopHead, hp, hgo], rfl,
      .inl rfl, fun _ => rfl⟩

theorem step_ready (hf : s.failure = none) {timeout : Int} (hp : s.place = .waiting timeout)
    {fds : List FdType} (hr : s.mayReturn timeout (.ready fds)) :
    ∃ stopWatch, s.step connection (.epollWait (.ready fds) 0) =
      some ({ s with stopWatch, place := .events fds }, [.waited timeout 0]) := by
  exact ⟨s.stopWatch.stop s.now, by simp [step, hf, epollWait, hp, hr]⟩

theorem step_interrupted (hf : s.failure = none) {timeout : Int} (hp : s.place = .waiting timeout) :
    ∃ stopWatch, s.step connection (.epollWait .interrupted 0) =
      some ({ s with stopWatch, place := .events [] }, [.waited timeout 0]) := by
  exact ⟨s.stopWatch.stop s.now, by simp [step, hf, epollWait, hp, mayReturn]⟩

end Actions

end Client

/-! ## Behind `Listener::stop` -/

namespace Program

variable {connection : NetworkConnection} {t es : List Event} {p p' : Program}

/-- The steps of the listener thread in an obliging environment, as long as nothing is thrown. -/
def obliging (connection : NetworkConnection) : Lts Program Event where
  init _ := False
  step p es p' := ∃ action client, Client.Obliging connection p.client action ∧
    p.client.step connection action = some (client, es) ∧ client.failure = none ∧
    p' = { p with client }

/-- A run in which the main thread is in `Listener::stop` and the listener thread can come to its
end. -/
structure Leaving (connection : NetworkConnection) (t : List Event) (p : Program) : Prop where
  run : (system connection).Run t p
  alive : p.Alive
  main : p.main = .stopped
  name : ValidDisplayName p.client.mailbox.displayName
  tagged : ∀ mail ∈ submitted t, mail.WellTagged
  bye : ∃ mail ∈ submitted t, mail.type = some .bye
  limit : connection.type = .udp → (submitted t).length ≤ 128

theorem step_of_obliging (ha : p.Alive) (h : (obliging connection).step p es p') :
    (system connection).step p es p' ∧ p'.Alive := by
  obtain ⟨action, client, hobliging, hstep, hf, rfl⟩ := h
  refine ⟨⟨.listener action, ?_⟩, ha.failure, hf, ha.main⟩
  simp [step, ha.failure, ha.client, Client.byListener_of_obliging hobliging, hstep]

namespace Leaving

theorem step (h : Leaving connection t p) (hs : (obliging connection).step p es p') :
    Leaving connection (t ++ es) p' := by
  obtain ⟨hsystem, halive⟩ := step_of_obliging h.alive hs
  have hrun := h.run.step hsystem
  obtain ⟨action, client, hobliging, hstep, hf, rfl⟩ := hs
  have hnone := Client.submitted_listener (Client.byListener_of_obliging hobliging) hstep
  have hsubmitted : submitted (t ++ es) = submitted t := by
    rw [submitted_append, hnone, List.append_nil]
  refine ⟨hrun, halive, h.main, ?_, ?_, ?_, ?_⟩
  · rw [Client.displayName_obliging hobliging hstep]
    exact h.name
  · rw [hsubmitted]
    exact h.tagged
  · rw [hsubmitted]
    exact h.bye
  · rw [hsubmitted]
    exact h.limit

theorem take (h : Leaving connection t p) {action : ChatClient.Action} {client : Client}
    (ha : Client.Obliging connection p.client action)
    (hs : p.client.step connection action = some (client, es)) (hf : client.failure = none) :
    (obliging connection).Steps p es { p with client } ∧
      Leaving connection (t ++ es) { p with client } := by
  have hstep : (obliging connection).step p es { p with client } :=
    ⟨action, client, ha, hs, hf, rfl⟩
  exact ⟨.single hstep, h.step hstep⟩

theorem send_popped (h : Leaving connection t p) {mail : Mail} {rest : List FdType}
    (hp : p.client.place = .popped mail rest) :
    ∃ es p', (obliging connection).Steps p es p' ∧ Leaving connection (t ++ es) p' ∧
      p'.client.place = .events rest ∧ p'.client.outstanding < p.client.outstanding := by
  obtain ⟨listener, bytes, hstep⟩ :=
    Client.step_transmit connection h.alive.client hp
      (Client.wellTagged_of_popped (client_run h.run) h.tagged hp)
  have ha : Client.Obliging connection p.client .transmit := rfl
  obtain ⟨hsteps, hleaving⟩ := h.take ha hstep h.alive.client
  refine ⟨_, _, hsteps, hleaving, rfl, ?_⟩
  simp only [Client.outstanding, hp, Place.inHand, List.length_nil, List.length_cons]
  split_ifs <;> omega

theorem send_notified (h : Leaving connection t p) {rest : List FdType}
    (hp : p.client.place = .notified rest) :
    ∃ es p', (obliging connection).Steps p es p' ∧ Leaving connection (t ++ es) p' ∧
      p'.client.place = .events rest ∧ p'.client.outstanding < p.client.outstanding := by
  obtain ⟨mail, mailbox, hget⟩ := Client.getOutgoingMail_ne_error (client_run h.run) hp
  obtain ⟨outgoing, hm, rfl⟩ := Client.getOutgoingMail_cases hget
  have hstep := Client.step_popMail connection h.alive.client hp hm
  have ha : Client.Obliging connection p.client .popMail := rfl
  obtain ⟨hsteps, hleaving⟩ := h.take ha hstep h.alive.client
  obtain ⟨es, p', hrest, hleaving', hplace, hlt⟩ := hleaving.send_popped rfl
  refine ⟨_, p', hsteps.trans hrest, by rwa [List.append_assoc] at hleaving', hplace, ?_⟩
  apply hlt.trans_le
  simp only [Client.outstanding, hp, hm, Place.inHand, List.length_nil, List.length_cons]
  omega

theorem send_reported (h : Leaving connection t p) {rest : List FdType}
    (hp : p.client.place = .events (.toSendPipe :: rest)) :
    ∃ es p', (obliging connection).Steps p es p' ∧ Leaving connection (t ++ es) p' ∧
      p'.client.place = .events rest ∧ p'.client.outstanding < p.client.outstanding := by
  have hpipe : 0 < p.client.notifyPipe := by
    have hreported := Client.reported_of_run (client_run h.run)
    unfold Client.reported at hreported
    rw [hp] at hreported
    exact hreported.2 List.mem_cons_self
  have hstep := Client.step_readNotify connection h.alive.client hp hpipe
  have ha : Client.Obliging connection p.client .readNotify := rfl
  obtain ⟨hsteps, hleaving⟩ := h.take ha hstep h.alive.client
  obtain ⟨es, p', hrest, hleaving', hplace, hlt⟩ := hleaving.send_notified rfl
  refine ⟨_, p', hsteps.trans hrest, by rwa [List.append_assoc] at hleaving', hplace, ?_⟩
  apply hlt.trans_le
  simp only [Client.outstanding, hp, Place.inHand]
  exact le_refl _

/-- The id of the mail that awaits its CONFIRM comes back over the wire. -/
theorem awaited (h : Leaving connection t p) (hu : connection.type = .udp)
    (hrc : p.client.listener.receivedConfirm = false) :
    ∃ n : UInt16, p.client.listener.confMail.getMessageID = n.toNat ∧
      p.client.listener.refMsgId = n.toNat ∧ receivedID n = n := by
  obtain ⟨hlast, hid⟩ := Client.last_transmitted hu (client_run h.run) hrc
  rw [List.getLast?_eq_getElem?] at hlast
  obtain ⟨-, -, hnumber⟩ := transmitted_numbered hu h.run hlast
  have hlt := (List.getElem?_eq_some_iff.1 hlast).1
  have hle : (transmitted t).length ≤ (submitted t).length := by
    rw [← length_stamp 0 (submitted t)]
    exact (Client.transmitted_prefix_submitted (client_run h.run)).length_le
  have hlimit := h.limit hu
  set k := (transmitted t).length - 1
  have hk : k < 128 := by omega
  have hn : (UInt16.ofNat k).toNat = k := by
    rw [UInt16.toNat_ofNat']
    omega
  have hconf : p.client.listener.confMail.getMessageID = (UInt16.ofNat k).toNat := by
    rw [hnumber, hn, Nat.mod_eq_of_lt (by omega)]
  refine ⟨UInt16.ofNat k, hconf, hid.trans hconf, ?_⟩
  rw [receivedID_eq_iff, hn]
  omega

/-- Where nothing is left to be sent or confirmed, the loop of `runListener` does not go on. -/
theorem goesOn_eq_false (h : Leaving connection t p) (ho : p.client.outstanding = 0) :
    p.client.listener.goesOn = false := by
  have hclient := client_run h.run
  have hidle : p.client.sending = .idle := idle h.run (by simp [h.main])
  obtain ⟨hinHand, houtgoing, hrc⟩ : p.client.place.inHand = [] ∧
      p.client.mailbox.outgoingMails = [] ∧ p.client.listener.receivedConfirm = true := by
    simpa [Client.outstanding, and_assoc] using ho
  have hall : stamp 0 (submitted t) = transmitted t := by
    rw [Client.stamp_submitted_eq hclient, hinHand, houtgoing, hidle]
    simp [Sending.pending]
  have hbye : some .bye ∈ (transmitted t).map Mail.type := by
    rw [← hall, map_type_stamp]
    obtain ⟨mail, hmem, htype⟩ := h.bye
    exact List.mem_map.2 ⟨mail, hmem, htype⟩
  exact Client.goesOn_eq_false.2 ⟨(closing h.run).stopped h.main,
    (Client.sentBye_iff hclient).2 (List.mem_map.1 hbye), hrc⟩

/-- The descriptor at the head of a batch is handled. -/
theorem advance_events (h : Leaving connection t p) {fd : FdType} {rest : List FdType}
    (hp : p.client.place = .events (fd :: rest)) :
    ∃ es p', (obliging connection).Steps p es p' ∧ Leaving connection (t ++ es) p' ∧
      p'.client.distance < p.client.distance := by
  have hclient := h.alive.client
  have hc := Client.consistent (client_run h.run)
  cases fd with
  | stdinPipe =>
    have ha : Client.Obliging connection p.client (.listenStdin (some [lf])) := rfl
    obtain ⟨hsteps, hleaving⟩ := h.take ha (Client.step_listenStdin connection hclient hp) hclient
    refine ⟨_, _, hsteps, hleaving, ?_⟩
    simp [Client.distance, Client.outstanding, Client.leftover, hp, Place.inHand]
  | signalPipe =>
    obtain ⟨mail, es, hstep⟩ := Client.step_listenSignal connection hclient hp h.name
    have ha : Client.Obliging connection p.client (.listenSignal (some [2])) := rfl
    obtain ⟨hsteps, hleaving⟩ := h.take ha hstep hclient
    refine ⟨_, _, hsteps, hleaving, ?_⟩
    simp [Client.distance, Client.outstanding, Client.leftover, hp, Place.inHand,
      (receives_addMail p.client.mailbox mail).outgoing]
  | socketPipe =>
    obtain ⟨mailbox, es, hreceives, hstep⟩ := Client.step_parting hc hclient hp
    have ha : Client.Obliging connection p.client
        (.listenSocket (some (Client.parting connection.type))) := .inl rfl
    obtain ⟨hsteps, hleaving⟩ := h.take ha hstep hclient
    refine ⟨_, _, hsteps, hleaving, ?_⟩
    simp [Client.distance, Client.outstanding, Client.leftover, hp, Place.inHand,
      hreceives.outgoing]
  | toSendPipe =>
    obtain ⟨es, p', hsteps, hleaving, hplace, hlt⟩ := h.send_reported hp
    refine ⟨es, p', hsteps, hleaving, ?_⟩
    simp only [Client.distance, Client.leftover, hp, hplace, List.length_cons]
    omega

/-- The CONFIRM that is awaited comes. -/
theorem advance_awaiting (h : Leaving connection t p) {timeout : Int}
    (hp : p.client.place = .waiting timeout) (hrc : p.client.listener.receivedConfirm = false) :
    ∃ es p', (obliging connection).Steps p es p' ∧ Leaving connection (t ++ es) p' ∧
      p'.client.distance < p.client.distance := by
  have hclient := h.alive.client
  have hu : connection.type = .udp := by
    rcases ht : connection.type
    · rw [Client.receivedConfirm_tcp ht (client_run h.run)] at hrc
      cases hrc
    · rfl
  obtain ⟨n, hconf, href, hsurvives⟩ := h.awaited hu hrc
  have hready : p.client.mayReturn timeout (.ready [.socketPipe]) := by
    refine ⟨by simp, by simp, ?_, by simp⟩
    simpa using Client.mem_epoll (client_run h.run) (by simp)
  obtain ⟨stopWatch, hstep⟩ := Client.step_ready connection hclient hp hready
  have ha : Client.Obliging connection p.client (.epollWait (.ready [.socketPipe]) 0) := rfl
  obtain ⟨hsteps, hleaving⟩ := h.take ha hstep hclient
  obtain ⟨es, hstep'⟩ := Client.step_awaited hu (Client.consistent (client_run hleaving.run)) hclient
    rfl hrc href hsurvives
  have ha' : Client.Obliging connection { p.client with stopWatch, place := .events [.socketPipe] }
      (.listenSocket (some (MessageType.confirm.code :: CInt.htons n))) :=
    .inr ⟨hrc, n, hconf, rfl⟩
  obtain ⟨hsteps', hleaving'⟩ := hleaving.take ha' hstep' hclient
  refine ⟨_, _, hsteps.trans hsteps', by rwa [List.append_assoc] at hleaving', ?_⟩
  simp [Client.distance, Client.outstanding, Client.leftover, hp, hrc, Place.inHand]
  omega

/-- A mail that waits to be sent is sent. -/
theorem advance_sending (h : Leaving connection t p) {timeout : Int}
    (hp : p.client.place = .waiting timeout) (hrc : p.client.listener.receivedConfirm = true)
    (hm : p.client.mailbox.outgoingMails ≠ []) :
    ∃ es p', (obliging connection).Steps p es p' ∧ Leaving connection (t ++ es) p' ∧
      p'.client.distance < p.client.distance := by
  have hclient := h.alive.client
  have hidle : p.client.sending = .idle := idle h.run (by simp [h.main])
  have hready : p.client.mayReturn timeout (.ready [.toSendPipe]) := by
    refine ⟨by simp, by simp, ?_, fun _ => ?_⟩
    · simpa using (Client.armed (client_run h.run) timeout hp).2 hrc
    · rw [Client.notifyPipe_eq (client_run h.run) hidle hp]
      exact List.length_pos_iff.2 hm
  obtain ⟨stopWatch, hstep⟩ := Client.step_ready connection hclient hp hready
  have ha : Client.Obliging connection p.client (.epollWait (.ready [.toSendPipe]) 0) := rfl
  obtain ⟨hsteps, hleaving⟩ := h.take ha hstep hclient
  obtain ⟨es, p', hsteps', hleaving', hplace, hlt⟩ := hleaving.send_reported rfl
  refine ⟨_, p', hsteps.trans hsteps', by rwa [List.append_assoc] at hleaving', ?_⟩
  have hsame : Client.outstanding { p.client with stopWatch, place := .events [.toSendPipe] } =
      p.client.outstanding := by
    simp [Client.outstanding, hp, Place.inHand]
  rw [hsame] at hlt
  simp only [Client.distance, Client.leftover, hp, hplace, List.length_nil]
  omega

/-- Where nothing is left to be done, the loop ends as soon as `epoll_wait` returns. -/
theorem advance_idle (h : Leaving connection t p) {timeout : Int}
    (hp : p.client.place = .waiting timeout) (hrc : p.client.listener.receivedConfirm = true)
    (hm : p.client.mailbox.outgoingMails = []) :
    ∃ es p', (obliging connection).Steps p es p' ∧ Leaving connection (t ++ es) p' ∧
      p'.client.distance < p.client.distance := by
  have hclient := h.alive.client
  obtain ⟨stopWatch, hstep⟩ := Client.step_interrupted connection hclient hp
  have ha : Client.Obliging connection p.client (.epollWait .interrupted 0) := rfl
  obtain ⟨hsteps, hleaving⟩ := h.take ha hstep hclient
  obtain ⟨listener, epoll, place, stopWatch', hstep', hrc', -, hends⟩ :=
    Client.step_loopHead (Client.consistent (client_run hleaving.run)) hclient rfl
  have hnothing : Client.outstanding { p.client with stopWatch, place := .events [] } = 0 := by
    simp [Client.outstanding, Place.inHand, hrc, hm]
  obtain rfl := hends (hleaving.goesOn_eq_false hnothing)
  have ha' : Client.Obliging connection { p.client with stopWatch, place := .events [] } .loopHead :=
    rfl
  obtain ⟨hsteps', hleaving'⟩ := hleaving.take ha' hstep' hclient
  refine ⟨_, _, hsteps.trans hsteps', by rwa [List.append_assoc] at hleaving', ?_⟩
  simp [Client.distance, Client.outstanding, Client.leftover, hp, hrc, hrc', hm, Place.inHand]

/-- Whatever the listener thread is at, there is something that brings it nearer to its end. -/
theorem advance (h : Leaving connection t p) (hp : p.client.place ≠ .finished) :
    ∃ es p', (obliging connection).Steps p es p' ∧ Leaving connection (t ++ es) p' ∧
      p'.client.distance < p.client.distance := by
  have hclient := h.alive.client
  obtain ⟨place, hplace⟩ : ∃ place, p.client.place = place := ⟨_, rfl⟩
  cases place with
  | finished => exact absurd hplace hp
  | popped mail rest =>
    obtain ⟨es, p', hsteps, hleaving, hplace', hlt⟩ := h.send_popped hplace
    refine ⟨es, p', hsteps, hleaving, ?_⟩
    simp only [Client.distance, Client.leftover, hplace, hplace']
    omega
  | notified rest =>
    obtain ⟨es, p', hsteps, hleaving, hplace', hlt⟩ := h.send_notified hplace
    refine ⟨es, p', hsteps, hleaving, ?_⟩
    simp only [Client.distance, Client.leftover, hplace, hplace']
    omega
  | events rest =>
    cases rest with
    | cons fd rest => exact h.advance_events hplace
    | nil =>
      obtain ⟨listener, epoll, place, stopWatch, hstep, hrc, hcases, -⟩ :=
        Client.step_loopHead (Client.consistent (client_run h.run)) hclient hplace
      have ha : Client.Obliging connection p.client .loopHead := rfl
      obtain ⟨hsteps, hleaving⟩ := h.take ha hstep hclient
      refine ⟨_, _, hsteps, hleaving, ?_⟩
      rcases hcases with rfl | ⟨timeout, rfl⟩ <;>
        simp [Client.distance, Client.outstanding, Client.leftover, hplace, hrc, Place.inHand]
  | waiting timeout =>
    rcases hrc : p.client.listener.receivedConfirm
    · exact h.advance_awaiting hplace hrc
    · by_cases hm : p.client.mailbox.outgoingMails = []
      · exact h.advance_idle hplace hrc hm
      · exact h.advance_sending hplace hrc hm

end Leaving

end Program

/-! ## With the test server -/

namespace World

variable {connection : NetworkConnection} {t : List Event} {w : World}

/-- The server can see to it that the client receives the CONFIRM it waits for, or a BYE. -/
theorem supplied (hu : connection.type = .udp) (r : (system connection).Run t w)
    {action : ChatClient.Action} (ha : Client.Obliging connection w.program.client action) :
    ∃ es w', (system connection).Steps w es w' ∧ w'.program = w.program ∧
      ∀ datagram ∈ Program.Action.datagram (.listener action), datagram ∈ w'.served := by
  cases action with
  | listenSocket received =>
    rcases ha with rfl | ⟨hrc, n, hconf, rfl⟩
    · have hstep : (system connection).step w [.served (.bye 0)]
          { w with served := w.served ++ [Server.sendUdpMessage (.bye 0)] } :=
        ⟨.sendMessage (.bye 0), rfl⟩
      refine ⟨_, _, .single hstep, rfl, ?_⟩
      intro datagram h
      obtain rfl : Client.parting connection.type = datagram := Option.some.inj h
      rw [hu]
      exact List.mem_append_right _ List.mem_cons_self
    · have rclient := client_run r
      have hmem := List.mem_of_getLast? (Client.last_transmitted hu rclient hrc).1
      obtain ⟨n', -, hid, hanswer⟩ := exists_id hu r hmem
      obtain rfl : n = n' := by
        rw [hconf] at hid
        exact UInt16.toNat_inj.1 (Int.ofNat_inj.1 hid)
      obtain ⟨bytes, htransmitted⟩ : ∃ bytes,
          .transmitted w.program.client.listener.confMail bytes ∈ clientTrace t := by
        obtain ⟨e, he, hmail⟩ := List.mem_filterMap.1 hmem
        cases e with
        | transmitted mail bytes =>
          cases hmail
          exact ⟨bytes, he⟩
        | _ => cases hmail
      have hsent : bytes ∈ w.sent := by
        rw [(recorded r).sent]
        exact List.mem_filterMap.2 ⟨_, htransmitted, rfl⟩
      have hserialize : udpSerializer.serialize w.program.client.listener.confMail = .ok bytes := by
        have hsend := Client.sendData_of_sent hu rclient (.inl htransmitted)
        rwa [NetworkConnection.sendData, hu] at hsend
      have hwire : wire w.program.client.listener.confMail = bytes.take 1024 := by
        rw [wire, hserialize]
        rfl
      rw [hwire] at hanswer
      have hstep : (system connection).step w
          [.arrived (bytes.take 1024), .served (.confirm n)]
          { w with
            received := w.received ++ [bytes.take 1024]
            served := w.served ++ [Server.sendUdpMessage (.confirm n)] } :=
        ⟨.listenForMessage bytes, by simp [step, listenForMessage, hsent, hanswer]⟩
      refine ⟨_, _, .single hstep, rfl, ?_⟩
      intro datagram h
      obtain rfl : MessageType.confirm.code :: CInt.htons n = datagram := Option.some.inj h
      exact List.mem_append_right _ List.mem_cons_self
  | _ =>
    refine ⟨[], w, .refl w, rfl, ?_⟩
    intro datagram h
    cases h

theorem step_of_obliging (hu : connection.type = .udp) (r : (system connection).Run t w)
    (ha : w.program.Alive) {es : List ChatClient.Event} {p : Program}
    (h : (Program.obliging connection).step w.program es p) :
    ∃ fs w', (system connection).Steps w fs w' ∧ w'.program = p := by
  obtain ⟨action, client, hobliging, hstep, hf, rfl⟩ := h
  obtain ⟨fs, w', hsteps, hsame, hserved⟩ := supplied hu r hobliging
  have hprogram : w'.program.step connection (.listener action) =
      some ({ w.program with client }, es) := by
    rw [hsame, Program.step, if_neg (by simp [ha.failure, ha.client])]
    simp [Client.byListener_of_obliging hobliging, hstep]
  have hclient : (system connection).step w' (es.map .client)
      { w' with
        program := { w.program with client }
        screen := w'.screen ++ w'.program.shown (.listener action)
        sent := w'.sent ++ es.filterMap sentEvent } := by
    refine ⟨.client (.listener action), ?_⟩
    rw [step, World.client, if_pos hserved, hprogram]
    rfl
  exact ⟨_, _, hsteps.tail hclient, rfl⟩

end World

end ChatClient

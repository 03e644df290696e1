import ChatClient.Flags
import ChatClient.Program

/-!
# The end of a session

The loop of `runListener` ends only behind a BYE that was transmitted and, in UDP mode, confirmed;
as the FSM sends a BYE last, nothing is left to send then (`nothing_lost`).  The other way round, a
session whose mails were all sent lets the loop end, unless it was the server who said BYE
(`stops_iff`): the FSM then goes to END without a BYE of its own.
-/

namespace ChatClient

open MailBox Outcome

/-! ## The loop of `runListener` -/

namespace Client

variable {connection : NetworkConnection} {t es : List Event} {s s' : Client}

theorem goesOn_eq_false {l : Listener} : l.goesOn = false ↔
    l.keepRunning = false ∧ l.sentBye = true ∧ l.receivedConfirm = true := by
  simp [Listener.goesOn]

/-- Behind the loop its condition stays false. -/
theorem goesOn_of_finished (r : (system connection).Run t s) (hp : s.place = .finished) :
    s.listener.goesOn = false := by
  revert hp
  apply r.invariant (I := fun _ s => s.place = .finished → s.listener.goesOn = false)
  · rintro s rfl hp
    cases hp
  · intro t s es s' r ih h hp
    have hc := consistent r
    replace h := (transition h).2
    by_cases hfin : s.place = .finished
    · -- the listener thread is gone
      obtain ⟨hk, hb, hrc⟩ := goesOn_eq_false.1 (ih hfin)
      rcases keeps_or_transmits hc h with ⟨-, hkeep⟩ | ⟨mail, bytes, rest, hpop, -⟩
      · exact goesOn_eq_false.2 ⟨hkeep.keepRunning hk, hkeep.sentBye.trans hb,
          hkeep.receivedConfirm hrc⟩
      · rw [hfin] at hpop
        cases hpop
    · cases h with
      | finish _ hgo => exact hgo
      | fail | refuse | sendMail | pushMail | notifyListener | waitMail | stop => exact absurd hp hfin
      | enterWait | timeout | ready | interrupted | listenStdin | listenSignal | listenSocket
      | readNotify | popMail | transmit => cases hp

/-- In TCP mode nothing ever awaits a CONFIRM. -/
theorem receivedConfirm_tcp (ht : connection.type = .tcp) (r : (system connection).Run t s) :
    s.listener.receivedConfirm = true := by
  apply r.invariant (I := fun _ s => s.listener.receivedConfirm = true)
  · rintro s rfl
    rfl
  · intro t s es s' r ih h
    have hc := consistent r
    rcases keeps_or_transmits hc (transition h).2 with
      ⟨-, hkeep⟩ | ⟨mail, bytes, -, -, -, hok⟩
    · exact hkeep.receivedConfirm ih
    · rw [(transmit_sentBye hok).2.2 (hc.protocol.trans ht)]
      exact ih

/-- In TCP mode `epoll_wait` is given no timeout. -/
theorem waiting_tcp (ht : connection.type = .tcp) (r : (system connection).Run t s) :
    ∀ timeout : Int, s.place = .waiting timeout → timeout = -1 := by
  apply r.invariant (I := fun _ s => ∀ timeout : Int, s.place = .waiting timeout → timeout = -1)
  · rintro s rfl timeout hp
    cases hp
  · intro t s es s' r ih h timeout hp
    have hrc := receivedConfirm_tcp ht (r.step h)
    replace h := (transition h).2
    cases h with
    | fail | refuse | sendMail | pushMail | notifyListener | waitMail | stop => exact ih timeout hp
    | @enterWait listener epoll hplace hgo htoggle =>
      have hrc' : listener.receivedConfirm = true := hrc
      have htimeout : timeout = (waitTimeout connection listener s.stopWatch s.now).1 := by
        cases hp
        rfl
      rw [htimeout, waitTimeout, hrc']
      rfl
    | finish | timeout | ready | interrupted | listenStdin | listenSignal | listenSocket
    | readNotify | popMail | transmit => cases hp

/-- Nothing awaits its CONFIRM iff `receivedConfirm` says so. -/
theorem receivedConfirm_iff (hu : connection.type = .udp) (r : (system connection).Run t s) :
    s.listener.receivedConfirm = true ↔ unconfirmed t = none := by
  rw [← inFlight_eq_unconfirmed hu r, inFlight]
  rcases s.listener.receivedConfirm <;> simp

/-- In UDP mode, where no mail awaits its CONFIRM any more, every mail transmitted was confirmed before
the next one was. -/
theorem confirmed_before_next (hu : connection.type = .udp) (r : (system connection).Run t s)
    (hnone : unconfirmed t = none) {pre post : List Event} {mail : Mail} {bytes : Bytes}
    (h : t = pre ++ .transmitted mail bytes :: post) :
    ∃ mid datagram confirm delivered post', post = mid ++ .received datagram confirm delivered :: post' ∧
      transmitted mid = [] ∧ confirm.type = some .confirm ∧
      confirm.getRefMessageID = mail.getMessageID ∧
      unconfirmed (pre ++ .transmitted mail bytes :: mid) = some mail := by
  -- up to the next transmission, or to the end
  obtain ⟨mid, rest, rfl, hmid, hend⟩ : ∃ mid rest, post = mid ++ rest ∧ transmitted mid = [] ∧
      unconfirmed (pre ++ .transmitted mail bytes :: mid) = none := by
    rcases hpost : transmitted post with _ | ⟨next, later⟩
    · exact ⟨post, [], by simp, hpost, h ▸ hnone⟩
    · have hnext : transmitted post = [] ++ next :: later := hpost
      obtain ⟨mid, e, rest, rfl, he, hmid, -⟩ := Lts.exists_of_filterMap hnext
      cases e with
      | transmitted mail' bytes' =>
        have hsplit : t = (pre ++ .transmitted mail bytes :: mid) ++
            .transmitted mail' bytes' :: rest := by
          rw [h, List.append_assoc, List.cons_append]
        exact ⟨mid, _, rfl, hmid, unconfirmed_before hu r hsplit⟩
      | _ => cases he
  obtain ⟨mid₁, datagram, confirm, delivered, mid₂, rfl, ht, hid, hflight⟩ := exists_confirm hmid hend
  have hreceived : .received datagram confirm delivered ∈ t := by
    rw [h]
    simp
  have hdec := decodeDatagram_decoded (decodeDatagram_of_received hu r hreceived)
  refine ⟨mid₁, datagram, confirm, delivered, mid₂ ++ rest, by simp, ?_, ht, ?_, hflight⟩
  · rw [transmitted_append] at hmid
    exact (List.append_eq_nil_iff.1 hmid).1
  · exact (hdec.ref ht).trans hid

end Client

/-! ## The BYE of the FSM -/

namespace FSM

variable {t : List Event} {s : FSM}

/-- Where the loop stands elsewhere than in END, and where the server said BYE, no BYE was sent. -/
theorem not_bye_of_word (r : system.Run t s) (hs : s.state ≠ .end_) :
    some .bye ∉ (sent t).map Mail.type := by
  obtain ⟨w, hw, hwt⟩ := (spoken r).word
  rw [hwt]
  intro hm
  obtain ⟨y, hy, heq⟩ := List.mem_map.1 hm
  cases heq
  exact bye_notMem hs hw hy

theorem not_bye_of_leftByBye (h : LeftByBye t) : some .bye ∉ (sent t).map Mail.type := by
  obtain ⟨t₀, s₀, mail, r₀, hopen, rfl, -⟩ := h
  rw [sent_append, sent_consumed, List.append_nil]
  exact not_bye_of_word r₀ (by rw [hopen]; decide)

/-- A BYE is the last mail sent. -/
theorem bye_last (r : system.Run t s) {pre post : List (Option MessageType)}
    (h : (sent t).map Mail.type = pre ++ some .bye :: post) : post = [] := by
  have hmem : some .bye ∈ (sent t).map Mail.type := by
    rw [h]
    exact List.mem_append_right _ List.mem_cons_self
  by_cases hs : s.state = .end_
  · rcases (spoken r).closed hs with hleft | ⟨l, b, hsent, -, hl⟩
    · exact absurd hmem (not_bye_of_leftByBye hleft)
    · rcases List.eq_nil_or_concat post with hnil | ⟨post', x, rfl⟩
      · exact hnil
      · -- a BYE before the last mail
        rw [hsent, List.map_append, List.concat_eq_append, ← List.cons_append,
          ← List.append_assoc] at h
        have hinit := (List.append_inj' h rfl).1
        have hl' : some .bye ∈ l.map Mail.type := by
          rw [hinit]
          exact List.mem_append_right _ List.mem_cons_self
        obtain ⟨m, hm, hbye⟩ := List.mem_map.1 hl'
        exact absurd hbye (hl m hm)
  · exact absurd hmem (not_bye_of_word r hs)

/-- In END a BYE was sent, unless the server said BYE. -/
theorem bye_sent_iff (r : system.Run t s) (hs : s.state = .end_) :
    some .bye ∈ (sent t).map Mail.type ↔ ¬ LeftByBye t := by
  constructor
  · intro hmem hleft
    exact not_bye_of_leftByBye hleft hmem
  · intro hn
    obtain ⟨l, b, hsent, hb, -⟩ := ((spoken r).closed hs).resolve_left hn
    rw [hsent, List.map_append, List.map_singleton, hb]
    exact List.mem_append_right _ List.mem_cons_self

end FSM

/-! ## The program -/

namespace Program

variable {connection : NetworkConnection} {t : List Event} {p : Program}

/-- Once a BYE was transmitted, there is nothing else to send. -/
theorem transmitted_of_bye (r : (system connection).Run t p)
    (h : ∃ mail ∈ transmitted t, mail.type = some .bye) :
    transmitted t = stamp 0 (submitted t) ∧ ∃ l b, transmitted t = l ++ [b] ∧
      b.type = some .bye := by
  obtain ⟨bye, hmem, hbye⟩ := h
  obtain ⟨pre, post, hsplit⟩ := List.append_of_mem hmem
  have hprefix := Client.transmitted_prefix_submitted (client_run r)
  obtain ⟨rest, hrest⟩ := hprefix
  have htypes : (FSM.sent (t.filterMap loopEvent)).map Mail.type =
      pre.map Mail.type ++ some .bye :: (post ++ rest).map Mail.type := by
    rw [sent_loopEvent, ← map_type_stamp 0 (submitted t), ← hrest, hsplit, ← hbye]
    simp
  have hnil := List.map_eq_nil_iff.1 (FSM.bye_last (loop_run r) htypes)
  obtain ⟨rfl, rfl⟩ := List.append_eq_nil_iff.1 hnil
  exact ⟨by rw [← hrest, List.append_nil], pre, bye, hsplit, hbye⟩

/-- In every run, whenever the loop of `runListener` has ended: every mail ever passed to `sendMail`
was transmitted, the last one was a BYE, and `outgoingMails` is empty; and in UDP mode every mail was
confirmed, while it was awaiting that, before the next was transmitted. -/
theorem nothing_lost (r : (system connection).Run t p) (hp : p.client.place = .finished) :
    transmitted t = stamp 0 (submitted t) ∧
    (∃ l b, transmitted t = l ++ [b] ∧ b.type = some .bye) ∧
    p.client.mailbox.outgoingMails = [] ∧
    (connection.type = .udp → ∀ pre mail bytes post, t = pre ++ .transmitted mail bytes :: post →
      ∃ mid datagram confirm delivered post',
        post = mid ++ .received datagram confirm delivered :: post' ∧ transmitted mid = [] ∧
        confirm.type = some .confirm ∧ confirm.getRefMessageID = mail.getMessageID ∧
        Client.unconfirmed (pre ++ .transmitted mail bytes :: mid) = some mail) := by
  have hclient := client_run r
  obtain ⟨-, hbye, hconf⟩ := Client.goesOn_eq_false.1 (Client.goesOn_of_finished hclient hp)
  obtain ⟨hall, hlast⟩ := transmitted_of_bye r ((Client.sentBye_iff hclient).1 hbye)
  refine ⟨hall, hlast, ?_, fun hu pre mail bytes post h => ?_⟩
  · have hledger := Client.stamp_submitted_eq hclient
    rw [← hall, List.self_eq_append_right, List.append_eq_nil_iff, List.append_eq_nil_iff] at hledger
    exact hledger.2.1
  · have hnone := (Client.receivedConfirm_iff hu hclient).1 hconf
    exact Client.confirmed_before_next hu hclient hnone h

/-- The user interrupts the program before logging in; the BYE is sent, and confirmed in UDP mode. -/
def interrupted : List Action :=
  round [.signalPipe] [.listenSignal (some [2])] ++ mainThread 7 ++
  round [.toSendPipe] [.readNotify, .popMail, .transmit] ++
  round [.socketPipe] [.listenSocket (some [MessageType.confirm.code, 0, 0])]

theorem nothing_lost_interrupted :
    ∃ t p, (system { type := .udp }).Run t p ∧ p.client.place = .finished ∧
      (transmitted t).map Mail.type = [some .bye] ∧ transmitted t = stamp 0 (submitted t) := by
  obtain ⟨t, p, r, hp, htypes⟩ : ∃ t p, (system { type := .udp }).Run t p ∧
      p.client.place = .finished ∧ (transmitted t).map Mail.type = [some .bye] :=
    ⟨_, _, run_of_exec { type := .udp } (.init rfl) (interrupted ++ [.listener .loopHead]) rfl,
      rfl, rfl⟩
  exact ⟨t, p, r, hp, htypes, (nothing_lost r hp).1⟩

/-- Behind `FSM::run` the FSM is in END, and behind `Listener::stop` `keepRunning` is false. -/
structure Closing (p : Program) : Prop where
  ended : p.main = .returned ∨ p.main = .stopped → p.fsm.state = .end_
  stopped : p.main = .stopped → p.client.listener.keepRunning = false

theorem Closing.keep (hk : Closing p) {p' : Program} (hm : p'.main = p.main)
    (hf : p'.fsm.state = p.fsm.state)
    (hkeep : p.client.listener.keepRunning = false → p'.client.listener.keepRunning = false) :
    Closing p' := by
  refine ⟨fun h => ?_, fun h => ?_⟩
  · rw [hf]
    rw [hm] at h
    exact hk.ended h
  · rw [hm] at h
    exact hkeep (hk.stopped h)

/-- While the main thread is in `FSM::run`, or has left it by an exception, there is nothing to
show. -/
theorem Closing.of_running {p : Program} (h : p.main ≠ .returned) (h' : p.main ≠ .stopped) :
    Closing p :=
  ⟨fun hm => hm.elim (fun hm => absurd hm h) (fun hm => absurd hm h'), fun hm => absurd hm h'⟩

theorem closing (r : (system connection).Run t p) : Closing p := by
  apply r.invariant (I := fun _ p => Closing p)
  · rintro p rfl
    exact .of_running (by simp [initial]) (by simp [initial])
  · intro t p es p' r ih h
    have hkeep : p.client.listener.keepRunning = false →
        p'.client.listener.keepRunning = false := by
      rcases (transition h).client with ⟨-, heq⟩ | hstep
      · rw [heq]
        exact id
      · exact Client.keepRunning_of_transition (Client.consistent (client_run r))
          (Client.transition hstep).2
    have hstep := transition h
    clear h
    cases hstep with
    | fail | listener | misread | resume => exact ih.keep rfl rfl hkeep
    | waitMail hm | quiet hm => exact .of_running (by simp [hm]) (by simp [hm])
    | send | throw | advance => exact .of_running (by simp) (by simp)
    | finish hm hs => exact ⟨fun _ => hs, fun h => by cases h⟩
    | stop hm h =>
      obtain ⟨-, rfl⟩ := Client.stop_step h
      exact ⟨fun _ => ih.ended (.inl hm), fun _ => rfl⟩

/-- In every state in which `Listener::stop` was called, every mail passed to `sendMail` was
transmitted, and in UDP mode confirmed, the loop of `runListener` ends unless END was entered by a BYE
taken in OPEN. -/
theorem stops_iff (r : (system connection).Run t p) (hm : p.main = .stopped)
    (hall : transmitted t = stamp 0 (submitted t))
    (hconf : connection.type = .udp → Client.unconfirmed t = none) :
    p.client.listener.goesOn = false ↔ ¬ FSM.LeftByBye (t.filterMap loopEvent) := by
  have hclient := client_run r
  have hclosing := closing r
  have hend : p.loop.state = .end_ := by
    rw [loop_eq_fsm (by simp [hm])]
    exact hclosing.ended (.inr hm)
  have hreceived : p.client.listener.receivedConfirm = true := by
    rcases ht : connection.type
    · exact Client.receivedConfirm_tcp ht hclient
    · exact (Client.receivedConfirm_iff ht hclient).2 (hconf ht)
  have htypes : (transmitted t).map Mail.type = (FSM.sent (t.filterMap loopEvent)).map Mail.type := by
    rw [hall, map_type_stamp, sent_loopEvent]
  calc p.client.listener.goesOn = false
      ↔ p.client.listener.sentBye = true := by
        rw [Client.goesOn_eq_false]
        exact ⟨fun h => h.2.1, fun h => ⟨hclosing.stopped hm, h, hreceived⟩⟩
    _ ↔ some .bye ∈ (transmitted t).map Mail.type := by
        rw [Client.sentBye_iff hclient, List.mem_map]
    _ ↔ ¬ FSM.LeftByBye (t.filterMap loopEvent) := by
        rw [htypes]
        exact FSM.bye_sent_iff (loop_run r) hend

theorem stops_iff_interrupted :
    ∃ t p, (system { type := .udp }).Run t p ∧ p.main = .stopped ∧
      (p.client.listener.goesOn = false ↔ ¬ FSM.LeftByBye (t.filterMap loopEvent)) := by
  obtain ⟨t, p, r, hm, hall, hconf⟩ : ∃ t p, (system { type := .udp }).Run t p ∧
      p.main = .stopped ∧ transmitted t = stamp 0 (submitted t) ∧ Client.unconfirmed t = none :=
    ⟨_, _, run_of_exec { type := .udp } (.init rfl) interrupted rfl, rfl, rfl, rfl⟩
  exact ⟨t, p, r, hm, stops_iff r hm hall fun _ => hconf⟩

/-- The server ends the session; everything was sent, and the loop goes on. -/
theorem goesOn_behind_bye :
    ∃ t p, (system { type := .tcp }).Run t p ∧ p.fsm.state = .end_ ∧ p.main = .stopped ∧
      (submitted t).map Mail.type = [some .auth] ∧ transmitted t = stamp 0 (submitted t) ∧
      p.client.listener.keepRunning = false ∧ p.client.listener.goesOn = true :=
  ⟨_, _, run_of_exec { type := .tcp } (.init rfl)
    (round [.stdinPipe] [.listenStdin (some (chars "/auth ann pw ann\n"))] ++ mainThread 5 ++
      round [.toSendPipe] [.readNotify, .popMail, .transmit] ++
      round [.socketPipe] [.listenSocket (some (chars "REPLY OK IS hello\r\n"))] ++ mainThread 2 ++
      round [.socketPipe] [.listenSocket (some (chars "BYE\r\n"))] ++ mainThread 4) rfl,
    rfl, rfl, rfl, rfl, rfl, rfl⟩

end Program

end ChatClient

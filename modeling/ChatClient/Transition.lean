import ChatClient.Client

/-!
# What a step can do

Each successful action of the client as one rule of an inductive predicate (`Transition`), with the
state it leads to written out.  Later proofs take a step apart by cases on its transition
(`transition_of_step`) and do not unfold `Client.step`.
-/

namespace ChatClient

open MailBox

/-- The steps of the client.  `fail` stands for every exception. -/
inductive Transition (connection : NetworkConnection) :
    Client → List Event → Client → Prop
  | fail (s e) : Transition connection s [] { s with failure := some e }
  | refuse (s) (hs : s.sending = .idle) : Transition connection s [] s
  | sendMail (s) {mail} (hs : s.sending = .idle) (h : mail.addToMailQueue = true) :
      Transition connection s [.submitted mail]
        { s with
          mailbox := (s.mailbox.assignMessageID mail).2
          sending := .assigned (s.mailbox.assignMessageID mail).1 }
  | pushMail (s) {mail} (hs : s.sending = .assigned mail) :
      Transition connection s [.pushed mail]
        { s with mailbox := s.mailbox.pushOutgoing mail, sending := .pushed }
  | notifyListener (s) (hs : s.sending = .pushed) :
      Transition connection s [] { s with notifyPipe := s.notifyPipe + 1, sending := .idle }
  | waitMail (s) {mail rest} (hs : s.sending = .idle)
      (h : s.mailbox.incomingMails = mail :: rest)
      (hok : s.mailbox.waitMail = some (.ok mail, { s.mailbox with incomingMails := rest })) :
      Transition connection s [.consumed mail]
        { s with mailbox := { s.mailbox with incomingMails := rest } }
  | stop (s) :
      Transition connection s [] { s with listener := { s.listener with keepRunning := false } }
  | enterWait (s) {listener epoll} (hp : s.place = .events []) (hgo : s.listener.goesOn = true)
      (h : toggleSendPipe s.listener s.epoll = .ok (listener, epoll)) :
      Transition connection s []
        { s with
          listener
          epoll
          place := .waiting (waitTimeout connection listener s.stopWatch s.now).1
          stopWatch := (waitTimeout connection listener s.stopWatch s.now).2.start s.now }
  | finish (s) (hp : s.place = .events []) (hgo : s.listener.goesOn = false) :
      Transition connection s [] { s with place := .finished }
  | timeout (s) {timeout : Int} {elapsed : ℕ} {listener bytes}
      (hp : s.place = .waiting timeout)
      (hr : s.mayReturn timeout .timeout)
      (h : retransmit connection s.listener = .ok (listener, bytes)) :
      Transition connection s [.waited timeout elapsed, .retransmitted s.listener.confMail bytes]
        { s with
          listener
          now := s.now + elapsed
          place := .events []
          stopWatch := (s.stopWatch.stop (s.now + elapsed)).reset (s.now + elapsed) }
  | ready (s) {timeout : Int} {elapsed : ℕ} {fds} (hp : s.place = .waiting timeout)
      (hr : s.mayReturn timeout (.ready fds)) :
      Transition connection s [.waited timeout elapsed]
        { s with
          now := s.now + elapsed
          place := .events fds
          stopWatch := s.stopWatch.stop (s.now + elapsed) }
  | interrupted (s) {timeout : Int} {elapsed : ℕ} (hp : s.place = .waiting timeout)
      (hr : s.mayReturn timeout .interrupted) :
      Transition connection s [.waited timeout elapsed]
        { s with
          now := s.now + elapsed
          place := .events []
          stopWatch := s.stopWatch.stop (s.now + elapsed) }
  | listenStdin (s) {received rest mailbox} (hp : s.place = .events (.stdinPipe :: rest))
      (h : listenStdin s.mailbox received = .ok mailbox) :
      Transition connection s ((newMails s.mailbox mailbox).map .entered)
        { s with mailbox, place := .events rest }
  | listenSignal (s) {received rest listener mailbox}
      (hp : s.place = .events (.signalPipe :: rest))
      (h : listenSignal s.listener s.mailbox received = .ok (listener, mailbox)) :
      Transition connection s ((newMails s.mailbox mailbox).map .entered)
        { s with listener, mailbox, place := .events rest }
  | listenSocket (s) {received rest res} (hp : s.place = .events (.socketPipe :: rest))
      (h : listenSocket connection s.listener s.mailbox received = .ok res) :
      Transition connection s
        (.received (received.getD []) res.mail (newMails s.mailbox res.mailbox != []) ::
          res.sent.map fun (mail, bytes) => .answered mail bytes)
        { s with listener := res.listener, mailbox := res.mailbox, place := .events rest }
  | readNotify (s) {rest} (hp : s.place = .events (.toSendPipe :: rest)) (h : 0 < s.notifyPipe) :
      Transition connection s []
        { s with notifyPipe := s.notifyPipe - 1, place := .notified rest }
  | popMail (s) {rest mail outgoing} (hp : s.place = .notified rest)
      (h : s.mailbox.outgoingMails = mail :: outgoing) :
      Transition connection s [.popped mail]
        { s with
          mailbox := { s.mailbox with outgoingMails := outgoing }
          place := .popped mail rest }
  | transmit (s) {rest mail listener bytes} (hp : s.place = .popped mail rest)
      (h : transmit connection s.listener mail = .ok (listener, bytes)) :
      Transition connection s [.transmitted mail bytes]
        { s with listener, place := .events rest }

/-- Events of a kind that `f` does not look at. -/
theorem filterMap_map_none {α β : Type} {f : Event → Option β} {g : α → Event}
    (h : ∀ a, f (g a) = none) (l : List α) : (l.map g).filterMap f = [] := by
  rw [List.filterMap_map, List.filterMap_eq_nil_iff]
  intro a _
  exact h a

namespace Client

variable {connection : NetworkConnection} {s s' : Client} {es : List Event}

/-- A computation that may throw either fails or is followed by what follows it. -/
theorem attempt_cases {α : Type} {x : Except Error α} {k : α → Client × List Event}
    (h : some (s.attempt x k) = some (s', es)) :
    (∃ e, s' = { s with failure := some e } ∧ es = []) ∨ ∃ a, x = .ok a ∧ k a = (s', es) := by
  rcases x with e | a
  · cases h
    exact .inl ⟨e, rfl, rfl⟩
  · exact .inr ⟨a, rfl, Option.some.inj h⟩

theorem getOutgoingMail_cases {mailbox mailbox' : MailBox} {mail : Mail}
    (h : mailbox.getOutgoingMail = .ok (mail, mailbox')) :
    ∃ rest, mailbox.outgoingMails = mail :: rest ∧
      mailbox' = { mailbox with outgoingMails := rest } := by
  unfold MailBox.getOutgoingMail at h
  rcases hm : mailbox.outgoingMails with _ | ⟨first, rest⟩
  · rw [hm] at h
    cases h
  · rw [hm] at h
    cases h
    exact ⟨rest, rfl, rfl⟩

theorem waitMail_cases {x : Except Error Mail} {mailbox : MailBox} {mail : Mail}
    (h : s.mailbox.waitMail = some (x, mailbox)) (hx : x = .ok mail) :
    ∃ rest, s.mailbox.incomingMails = mail :: rest ∧
      mailbox = { s.mailbox with incomingMails := rest } := by
  unfold MailBox.waitMail at h
  rcases hm : s.mailbox.incomingMails with _ | ⟨first, rest⟩
  · rw [hm] at h
    cases h
  · rw [hm] at h
    simp only [Option.some.injEq, Prod.mk.injEq] at h
    obtain ⟨hprinted, rfl⟩ := h
    rw [hx] at hprinted
    refine ⟨rest, ?_, rfl⟩
    congr 1
    revert hprinted
    split <;> try split_ifs
    all_goals simp

theorem transition_of_step {action : Action}
    (h : s.step connection action = some (s', es)) :
    s.failure = none ∧ Transition connection s es s' := by
  unfold step at h
  split_ifs at h with hf
  refine ⟨by simpa using hf, ?_⟩
  cases action with
  | sendMail mail =>
    simp only [sendMail] at h
    split at h
    case h_2 => cases h
    split_ifs at h with hq
    · cases h
      exact .refuse s ‹_›
    · cases h
      exact .sendMail s ‹_› (by simpa using hq)
  | pushMail =>
    simp only [pushMail] at h
    split at h
    · cases h
      exact .pushMail s ‹_›
    · cases h
  | notifyListener =>
    simp only [notifyListener] at h
    split at h
    · cases h
      exact .notifyListener s ‹_›
    · cases h
  | waitMail =>
    simp only [waitMail] at h
    split at h
    · rename_i hw
      obtain ⟨e, rfl, rfl⟩ | ⟨mail, hx, hk⟩ := attempt_cases h
      · exact .fail s e
      · obtain ⟨rest, hm, rfl⟩ := waitMail_cases hw hx
        cases hk
        exact .waitMail s ‹_› hm (hx ▸ hw)
    · cases h
  | stop =>
    cases h
    exact .stop s
  | loopHead =>
    simp only [loopHead] at h
    split at h
    · split_ifs at h with hgo
      · obtain ⟨e, rfl, rfl⟩ | ⟨⟨listener, epoll⟩, hx, hk⟩ := attempt_cases h
        · exact .fail s e
        · cases hk
          exact .enterWait s ‹_› hgo hx
      · cases h
        exact .finish s ‹_› (by simpa using hgo)
    · cases h
  | epollWait result elapsed =>
    simp only [epollWait] at h
    split at h
    · split_ifs at h with hr
      cases result with
      | timeout =>
        obtain ⟨e, rfl, rfl⟩ | ⟨⟨listener, bytes⟩, hx, hk⟩ := attempt_cases h
        · exact .fail s e
        · cases hk
          exact .timeout s ‹_› hr hx
      | ready fds =>
        cases h
        exact .ready s ‹_› hr
      | interrupted =>
        cases h
        exact .interrupted s ‹_› hr
    · cases h
  | listenStdin received =>
    simp only [listenStdin] at h
    split at h
    · obtain ⟨e, rfl, rfl⟩ | ⟨mailbox, hx, hk⟩ := attempt_cases h
      · exact .fail s e
      · cases hk
        exact .listenStdin s ‹_› hx
    · cases h
  | listenSocket received =>
    simp only [listenSocket] at h
    split at h
    · obtain ⟨e, rfl, rfl⟩ | ⟨res, hx, hk⟩ := attempt_cases h
      · exact .fail s e
      · cases hk
        exact .listenSocket s ‹_› hx
    · cases h
  | listenSignal received =>
    simp only [listenSignal] at h
    split at h
    · obtain ⟨e, rfl, rfl⟩ | ⟨⟨listener, mailbox⟩, hx, hk⟩ := attempt_cases h
      · exact .fail s e
      · cases hk
        exact .listenSignal s ‹_› hx
    · cases h
  | readNotify =>
    simp only [readNotify] at h
    split at h
    · split_ifs at h with hn
      cases h
      exact .readNotify s ‹_› hn
    · cases h
  | popMail =>
    simp only [popMail] at h
    split at h
    · obtain ⟨e, rfl, rfl⟩ | ⟨⟨mail, mailbox⟩, hx, hk⟩ := attempt_cases h
      · exact .fail s e
      · obtain ⟨outgoing, hm, rfl⟩ := getOutgoingMail_cases hx
        cases hk
        exact .popMail s ‹_› hm
    · cases h
  | transmit =>
    simp only [transmit] at h
    split at h
    · obtain ⟨e, rfl, rfl⟩ | ⟨⟨listener, bytes⟩, hx, hk⟩ := attempt_cases h
      · exact .fail s e
      · cases hk
        exact .transmit s ‹_› hx
    · cases h

/-- A transition other than a failure is an action of one of the threads. -/
theorem step_of_transition (hf : s.failure = none) (h : Transition connection s es s')
    (hf' : s'.failure = none) : (system connection).step s es s' := by
  cases h with
  | fail => cases hf'
  | refuse hs => exact ⟨.sendMail { addToMailQueue := false }, by simp [step, hf, sendMail, hs]⟩
  | @sendMail mail hs hq => exact ⟨.sendMail mail, by simp [step, hf, sendMail, hs, hq]⟩
  | pushMail hs => exact ⟨.pushMail, by simp [step, hf, pushMail, hs]⟩
  | notifyListener hs => exact ⟨.notifyListener, by simp [step, hf, notifyListener, hs]⟩
  | waitMail hs hm hok => exact ⟨.waitMail, by simp [step, hf, waitMail, hs, hok, attempt]⟩
  | stop => exact ⟨.stop, by simp [step, hf, stop]⟩
  | enterWait hp hgo h => exact ⟨.loopHead, by simp [step, hf, loopHead, hp, hgo, attempt, h]⟩
  | finish hp hgo => exact ⟨.loopHead, by simp [step, hf, loopHead, hp, hgo]⟩
  | @timeout _ elapsed _ _ hp hr h =>
    exact ⟨.epollWait .timeout elapsed, by simp [step, hf, epollWait, hp, hr, attempt, h]⟩
  | @ready _ elapsed fds hp hr =>
    exact ⟨.epollWait (.ready fds) elapsed, by simp [step, hf, epollWait, hp, hr]⟩
  | @interrupted _ elapsed hp hr =>
    exact ⟨.epollWait .interrupted elapsed, by simp [step, hf, epollWait, hp, hr]⟩
  | @listenStdin received _ _ hp h =>
    exact ⟨.listenStdin received, by simp [step, hf, listenStdin, hp, attempt, h]⟩
  | @listenSignal received _ _ _ hp h =>
    exact ⟨.listenSignal received, by simp [step, hf, listenSignal, hp, attempt, h]⟩
  | @listenSocket received _ _ hp h =>
    exact ⟨.listenSocket received, by simp [step, hf, listenSocket, hp, attempt, h]⟩
  | readNotify hp hn => exact ⟨.readNotify, by simp [step, hf, readNotify, hp, hn]⟩
  | popMail hp hm =>
    exact ⟨.popMail, by simp [step, hf, popMail, hp, attempt, getOutgoingMail, hm]⟩
  | transmit hp h => exact ⟨.transmit, by simp [step, hf, transmit, hp, attempt, h]⟩

theorem transition (h : (system connection).step s es s') :
    s.failure = none ∧ Transition connection s es s' :=
  let ⟨_, h⟩ := h
  transition_of_step h

end Client

end ChatClient

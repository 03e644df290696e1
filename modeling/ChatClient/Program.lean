import ChatClient.Arrivals
import ChatClient.Output

/-!
# The program

`runMain` from the start of the listener thread on: the main thread runs `FSM::run` over the mailbox
it shares with the listener thread, and stops the listener when `FSM::run` returns
(`Program.system`).  Seen from the listener this is a client whose FSM thread does no more than
`Client.system` allows (`client_simulation`), and seen from the FSM it is a run of its loop
(`loop_simulation`), so what is proved of either holds of the program.
-/

namespace ChatClient

open Outcome

/-- Where the main thread stands. -/
inductive Main
  /-- in `FSM::run`, at the place the member `fsm` tells -/
  | run
  /-- in `sendMail`, with the state that follows the turn -/
  | sending (next : State)
  /-- `FSM::run` has returned; the join of `StdinListener::stop`, which waits for `std::getline`, puts
  off the next step for as long as it takes -/
  | returned
  /-- in the join of `Listener::stop` -/
  | stopped
  /-- a `std::runtime_error` has left `FSM::run`; the destructors wait for the other threads -/
  | thrown
deriving DecidableEq

structure Program where
  client : Client
  fsm : FSM := {}
  main : Main := .run
  /-- an exception of the main thread that `main` does not catch -/
  failure : Option Error := none
deriving DecidableEq

/-- The actions of `Client.step` that the listener thread takes. -/
def Action.byListener : Action → Bool
  | .sendMail _ | .pushMail | .notifyListener | .waitMail | .stop => false
  | _ => true

/-- The events that an action can show. -/
def Action.shows : Action → Event → Bool
  | .sendMail _, .submitted _ | .pushMail, .pushed _ | .waitMail, .consumed _
  | .epollWait .., .waited .. | .epollWait .., .retransmitted .. | .listenStdin _, .entered _
  | .listenSignal _, .entered _ | .listenSocket _, .received .. | .listenSocket _, .answered ..
  | .popMail, .popped _ | .transmit, .transmitted .. => true
  | _, _ => false

namespace Program

inductive Action
  | main
  | listener (action : ChatClient.Action)

/-- The state in which the two threads start. -/
def initial (connection : NetworkConnection) : Program where
  client := .initial connection

variable (connection : NetworkConnection)

/-- `mail = mailbox.waitMail()` -/
def waitMail (p : Program) : Option (Program × List Event) := do
  let (x, _) ← p.client.mailbox.waitMail
  let (client, es) ← p.client.step connection .waitMail
  match x with
  | .ok mail => return ({ p with client, fsm := { p.fsm with mail, place := .read } }, es)
  | .error _ => return ({ p with client }, es)

/-- The rest of a turn, up to the place in `sendMail` where the mail has its id.  That id is stored
in the member `mail` too, where nothing reads it. -/
def turn (p : Program) : Option (Program × List Event) :=
  match FSM.turn p.client.mailbox p.fsm.state p.fsm.mail with
  | .ok t =>
    if t.sends then do
      let (client, es) ← p.client.step connection (.sendMail t.mail)
      return ({ p with client, fsm := { p.fsm with mail := t.mail }, main := .sending t.next }, es)
    else some ({ p with fsm := ⟨t.next, t.mail, .head⟩ }, [])
  | .error (.runtimeError _) => some ({ p with main := .thrown }, [])
  | .error e => some ({ p with failure := some e }, [])

/-- The rest of `sendMail`, and the new state. -/
def resume (p : Program) (next : State) : Option (Program × List Event) :=
  match p.client.sending with
  | .assigned _ => do
    let (client, es) ← p.client.step connection .pushMail
    return ({ p with client }, es)
  | .pushed => do
    let (client, es) ← p.client.step connection .notifyListener
    return ({ p with client }, es)
  | .idle => some ({ p with fsm := ⟨next, p.fsm.mail, .head⟩, main := .run }, [])

def mainStep (p : Program) : Option (Program × List Event) :=
  match p.main with
  | .run =>
    if p.fsm.state = .end_ then some ({ p with main := .returned }, [])
    else if p.fsm.state.waits = true ∧ p.fsm.place = .head then p.waitMail connection
    else p.turn connection
  | .sending next => p.resume connection next
  | .returned => do
    let (client, es) ← p.client.step connection .stop
    return ({ p with client, main := .stopped }, es)
  | .stopped | .thrown => none

/-- One action of either thread.  An exception of the listener thread ends the process, as does one
that `main` does not catch. -/
def step (p : Program) (action : Action) : Option (Program × List Event) :=
  if p.failure ≠ none ∨ p.client.failure ≠ none then none
  else
    match action with
    | .main => p.mainStep connection
    | .listener action =>
      if action.byListener then do
        let (client, es) ← p.client.step connection action
        return ({ p with client }, es)
      else none

/-- The program from the start of the threads on. -/
def system : Lts Program Event where
  init p := p = initial connection
  step p es p' := ∃ action, p.step connection action = some (p', es)

/-- Some actions one after another. -/
def exec (p : Program) (actions : List Action) : Option (Program × List Event) :=
  Lts.exec (step connection) p actions

/-- A round of the loop of `runListener` in which `epoll_wait` reports `fds` at once. -/
def round (fds : List FdType) (actions : List ChatClient.Action) : List Action :=
  (.loopHead :: .epollWait (.ready fds) 0 :: actions : List ChatClient.Action).map .listener

/-- Some actions of the main thread. -/
def mainThread (n : ℕ) : List Action := List.replicate n .main

theorem run_of_exec {t es : List Event} {p p' : Program} (r : (system connection).Run t p)
    (actions : List Action) (h : p.exec connection actions = some (p', es)) :
    (system connection).Run (t ++ es) p' := by
  apply r.exec _ actions h
  intro p action p' es h
  exact ⟨action, h⟩

/-! ## What a step can do -/

/-- The steps of the program, with the client's part of each as a step of `Client.step`.  `fail`
stands for the exceptions of a turn that end the process. -/
inductive Transition : Program → List Event → Program → Prop
  | fail (p e) : Transition p [] { p with failure := some e }
  | listener (p) {action es client} (ha : action.byListener = true)
      (h : p.client.step connection action = some (client, es)) : Transition p es { p with client }
  | waitMail (p) {mail client} (hm : p.main = .run) (hs : p.fsm.state.waits = true)
      (hp : p.fsm.place = .head)
      (h : p.client.step connection .waitMail = some (client, [.consumed mail])) :
      Transition p [.consumed mail] { p with client, fsm := { p.fsm with mail, place := .read } }
  /-- printing the mail throws -/
  | misread (p) {client} (h : p.client.step connection .waitMail = some (client, [])) :
      Transition p [] { p with client }
  | send (p) {t es client} (hm : p.main = .run) (hs : p.fsm.state ≠ .end_)
      (hp : p.fsm.place = .read ∨ p.fsm.state.waits = false)
      (ht : FSM.turn p.client.mailbox p.fsm.state p.fsm.mail = .ok t) (hsend : t.sends = true)
      (h : p.client.step connection (.sendMail t.mail) = some (client, es)) :
      Transition p es
        { p with client, fsm := { p.fsm with mail := t.mail }, main := .sending t.next }
  | quiet (p) {t} (hm : p.main = .run) (hs : p.fsm.state ≠ .end_)
      (hp : p.fsm.place = .read ∨ p.fsm.state.waits = false)
      (ht : FSM.turn p.client.mailbox p.fsm.state p.fsm.mail = .ok t) (hsend : t.sends = false) :
      Transition p [] { p with fsm := ⟨t.next, t.mail, .head⟩ }
  | throw (p) (hm : p.main = .run) : Transition p [] { p with main := .thrown }
  | resume (p) {next action es client} (hm : p.main = .sending next)
      (ha : action = .pushMail ∨ action = .notifyListener)
      (h : p.client.step connection action = some (client, es)) : Transition p es { p with client }
  | advance (p) {next} (hm : p.main = .sending next) (hi : p.client.sending = .idle) :
      Transition p [] { p with fsm := ⟨next, p.fsm.mail, .head⟩, main := .run }
  | finish (p) (hm : p.main = .run) (hs : p.fsm.state = .end_) :
      Transition p [] { p with main := .returned }
  | stop (p) {es client} (hm : p.main = .returned)
      (h : p.client.step connection .stop = some (client, es)) :
      Transition p es { p with client, main := .stopped }

variable {connection} {p p' : Program} {t es : List Event}

/-- The loop does not wait behind `waitMail`, nor in a state that has none. -/
theorem read_or_not_waits (h : ¬ (p.fsm.state.waits = true ∧ p.fsm.place = .head)) :
    p.fsm.place = .read ∨ p.fsm.state.waits = false := by
  rcases hpl : p.fsm.place
  · rw [hpl] at h
    exact .inr (by simpa using h)
  · exact .inl rfl

/-- What `waitMail` shows is the mail it returns, unless printing it throws. -/
theorem waitMail_events {x : Except Error Mail} {mb : MailBox} {client : Client}
    (hx : p.client.mailbox.waitMail = some (x, mb))
    (h : p.client.step connection .waitMail = some (client, es)) :
    (∃ e, x = .error e ∧ es = []) ∨ ∃ mail, x = .ok mail ∧ es = [.consumed mail] := by
  unfold Client.step at h
  split_ifs at h
  simp only [Client.waitMail, hx] at h
  split at h
  · next heq =>
    cases heq
    rcases x with e | mail
    · cases h
      exact .inl ⟨e, rfl, rfl⟩
    · cases h
      exact .inr ⟨mail, rfl, rfl⟩
  · cases h

theorem transition_of_step {action : Action} (h : p.step connection action = some (p', es)) :
    Transition connection p es p' := by
  unfold step at h
  split_ifs at h with hf
  cases action with
  | listener action =>
    simp only at h
    split_ifs at h with ha
    obtain ⟨⟨client, es⟩, hc, h⟩ := Option.bind_eq_some_iff.1 h
    cases h
    exact .listener p ha hc
  | main =>
    simp only [mainStep] at h
    split at h
    · next hm =>
      split_ifs at h with hend hwait
      · cases h
        exact .finish p hm hend
      · obtain ⟨⟨x, mb⟩, hx, h⟩ := Option.bind_eq_some_iff.1 h
        obtain ⟨⟨client, es⟩, hc, h⟩ := Option.bind_eq_some_iff.1 h
        obtain ⟨e, rfl, rfl⟩ | ⟨mail, rfl, rfl⟩ := waitMail_events hx hc
        · cases h
          exact .misread p hc
        · cases h
          exact .waitMail p hm hwait.1 hwait.2 hc
      · have hp := read_or_not_waits hwait
        simp only [turn] at h
        split at h
        · next t ht =>
          split_ifs at h with hsend
          · obtain ⟨⟨client, es⟩, hc, h⟩ := Option.bind_eq_some_iff.1 h
            cases h
            exact .send p hm hend hp ht hsend hc
          · cases h
            exact .quiet p hm hend hp ht (by simpa using hsend)
        · cases h
          exact .throw p hm
        · next e _ _ =>
          cases h
          exact .fail p e
    · next next hm =>
      simp only [resume] at h
      split at h
      · obtain ⟨⟨client, es⟩, hc, h⟩ := Option.bind_eq_some_iff.1 h
        cases h
        exact .resume p hm (.inl rfl) hc
      · obtain ⟨⟨client, es⟩, hc, h⟩ := Option.bind_eq_some_iff.1 h
        cases h
        exact .resume p hm (.inr rfl) hc
      · next hi =>
        cases h
        exact .advance p hm hi
    · next hm =>
      obtain ⟨⟨client, es⟩, hc, h⟩ := Option.bind_eq_some_iff.1 h
      cases h
      exact .stop p hm hc
    · cases h
    · cases h

theorem transition (h : (system connection).step p es p') : Transition connection p es p' :=
  let ⟨_, h⟩ := h
  transition_of_step h

/-! ## The program as a client -/

/-- The steps of the program are, for the client, steps of `Client.step` or nothing at all. -/
theorem Transition.client (h : Transition connection p es p') :
    (es = [] ∧ p'.client = p.client) ∨ (Client.system connection).step p.client es p'.client := by
  cases h with
  | fail | quiet | throw | advance | finish => exact .inl ⟨rfl, rfl⟩
  | listener _ h | waitMail _ _ _ h | misread h | send _ _ _ _ _ h | resume _ _ h | stop _ h =>
    exact .inr ⟨_, h⟩

theorem client_simulation :
    (system connection).Simulation (Client.system connection) (fun p => p.client) some where
  init := by
    rintro p rfl
    rfl
  step := by
    intro t p es p' _ _ h
    rw [List.filterMap_some]
    rcases (transition h).client with ⟨rfl, heq⟩ | hstep
    · rw [heq]
      exact .refl _
    · exact .single hstep

/-- The client of a run of the program is a run of `Client.system`. -/
theorem client_run (r : (system connection).Run t p) : (Client.system connection).Run t p.client := by
  have h := client_simulation.run r
  rwa [List.filterMap_some] at h

/-! ## The program as a run of the FSM -/

/-- What the loop of `FSM::run` sees of an event. -/
def loopEvent : Event → Option FSM.Event
  | .consumed mail => some (.consumed mail)
  | .submitted mail => some (.sent mail)
  | _ => none

/-- The loop of `FSM::run`, a turn being over once its mail was passed to `sendMail`. -/
def loop (p : Program) : FSM :=
  match p.main with
  | .sending next => ⟨next, p.fsm.mail, .head⟩
  | _ => p.fsm

end Program

namespace Client

variable {connection : NetworkConnection} {s s' : Client} {es : List Event}

theorem addMail_displayName (mb : MailBox) (mail : Mail) :
    (mb.addMail mail).displayName = mb.displayName := by
  unfold MailBox.addMail
  split_ifs <;> rfl

theorem listenSocket_displayName {l : Listener} {mb : MailBox} {received : Option Bytes}
    {res : SocketResult} (h : ChatClient.listenSocket connection l mb received = .ok res) :
    res.mailbox.displayName = mb.displayName := by
  simp only [ChatClient.listenSocket, bind_eq_ok] at h
  obtain ⟨buffer, -, ⟨written, mail⟩, -, h⟩ := h
  obtain ⟨-, -, hmb⟩ := handleMail_cases h
  rcases hmb with heq | heq | heq <;> rw [heq]
  · exact addMail_displayName mb mail
  · exact addMail_displayName _ mail

theorem listenSignal_displayName {l l' : Listener} {mb mb' : MailBox} {received : Option Bytes}
    (h : ChatClient.listenSignal l mb received = .ok (l', mb')) :
    mb'.displayName = mb.displayName := by
  rcases received with _ | data
  · cases h
  · simp only [ChatClient.listenSignal] at h
    split_ifs at h
    obtain ⟨⟨_, mail⟩, -, h⟩ := bind_eq_ok.1 h
    cases h
    exact addMail_displayName mb _

/-- Each action shows events of its own kinds, and only `listenStdin` may change the display name. -/
theorem step_frame {action : Action} (h : s.step connection action = some (s', es)) :
    (∀ e ∈ es, action.shows e = true) ∧ ((∀ received, action ≠ .listenStdin received) →
      s'.mailbox.displayName = s.mailbox.displayName) := by
  unfold step at h
  split_ifs at h
  cases action with
  | sendMail mail =>
    simp only [sendMail] at h
    split at h
    · split_ifs at h
      · cases h
        exact ⟨by simp, fun _ => rfl⟩
      · cases h
        exact ⟨by simp [Action.shows], fun _ => by rw [MailBox.assignMessageID_eq]⟩
    · cases h
  | pushMail =>
    simp only [pushMail] at h
    split at h
    · cases h
      exact ⟨by simp [Action.shows], fun _ => rfl⟩
    · cases h
  | notifyListener =>
    simp only [notifyListener] at h
    split at h
    · cases h
      exact ⟨by simp, fun _ => rfl⟩
    · cases h
  | waitMail =>
    simp only [waitMail] at h
    split at h
    · next hw =>
      obtain ⟨e, rfl, rfl⟩ | ⟨mail, hx, hk⟩ := attempt_cases h
      · exact ⟨by simp, fun _ => rfl⟩
      · obtain ⟨rest, -, rfl⟩ := waitMail_cases hw hx
        cases hk
        exact ⟨by simp [Action.shows], fun _ => rfl⟩
    · cases h
  | stop =>
    cases h
    exact ⟨by simp, fun _ => rfl⟩
  | loopHead =>
    simp only [loopHead] at h
    split at h
    · split_ifs at h
      · obtain ⟨e, rfl, rfl⟩ | ⟨a, -, hk⟩ := attempt_cases h
        · exact ⟨by simp, fun _ => rfl⟩
        · cases hk
          exact ⟨by simp, fun _ => rfl⟩
      · cases h
        exact ⟨by simp, fun _ => rfl⟩
    · cases h
  | epollWait result elapsed =>
    simp only [epollWait] at h
    split at h
    · split_ifs at h
      cases result with
      | timeout =>
        obtain ⟨e, rfl, rfl⟩ | ⟨a, -, hk⟩ := attempt_cases h
        · exact ⟨by simp, fun _ => rfl⟩
        · cases hk
          exact ⟨by simp [Action.shows], fun _ => rfl⟩
      | ready fds | interrupted =>
        cases h
        exact ⟨by simp [Action.shows], fun _ => rfl⟩
    · cases h
  | listenStdin received =>
    refine ⟨?_, fun hne => absurd rfl (hne received)⟩
    simp only [listenStdin] at h
    split at h
    · obtain ⟨e, rfl, rfl⟩ | ⟨a, -, hk⟩ := attempt_cases h
      · simp
      · cases hk
        simp [Action.shows]
    · cases h
  | listenSocket received =>
    simp only [listenSocket] at h
    split at h
    · obtain ⟨e, rfl, rfl⟩ | ⟨res, hres, hk⟩ := attempt_cases h
      · exact ⟨by simp, fun _ => rfl⟩
      · cases hk
        refine ⟨fun e he => ?_, fun _ => listenSocket_displayName hres⟩
        rcases List.mem_cons.1 he with rfl | he
        · rfl
        · obtain ⟨_, -, rfl⟩ := List.mem_map.1 he
          rfl
    · cases h
  | listenSignal received =>
    simp only [listenSignal] at h
    split at h
    · obtain ⟨e, rfl, rfl⟩ | ⟨⟨l', mb'⟩, hres, hk⟩ := attempt_cases h
      · exact ⟨by simp, fun _ => rfl⟩
      · cases hk
        exact ⟨by simp [Action.shows], fun _ => listenSignal_displayName hres⟩
    · cases h
  | readNotify =>
    simp only [readNotify] at h
    split at h
    · split_ifs at h
      cases h
      exact ⟨by simp, fun _ => rfl⟩
    · cases h
  | popMail =>
    simp only [popMail] at h
    split at h
    · obtain ⟨e, rfl, rfl⟩ | ⟨⟨mail, mailbox⟩, hx, hk⟩ := attempt_cases h
      · exact ⟨by simp, fun _ => rfl⟩
      · obtain ⟨outgoing, -, rfl⟩ := getOutgoingMail_cases hx
        cases hk
        exact ⟨by simp [Action.shows], fun _ => rfl⟩
    · cases h
  | transmit =>
    simp only [transmit] at h
    split at h
    · obtain ⟨e, rfl, rfl⟩ | ⟨a, -, hk⟩ := attempt_cases h
      · exact ⟨by simp, fun _ => rfl⟩
      · cases hk
        exact ⟨by simp [Action.shows], fun _ => rfl⟩
    · cases h

/-- An action that shows nothing the loop sees. -/
theorem filterMap_loopEvent {action : Action} (h : s.step connection action = some (s', es))
    (ha : ∀ e, action.shows e = true → Program.loopEvent e = none) :
    es.filterMap Program.loopEvent = [] := by
  rw [List.filterMap_eq_nil_iff]
  intro e he
  exact ha e ((step_frame h).1 e he)

/-- The listener thread passes nothing to `sendMail` and takes no mail. -/
theorem listener_step {action : Action} (ha : action.byListener = true)
    (h : s.step connection action = some (s', es)) : es.filterMap Program.loopEvent = [] := by
  refine filterMap_loopEvent h fun e he => ?_
  cases e with
  | submitted | consumed =>
    cases action with
    | sendMail | waitMail => cases ha
    | _ => cases he
  | _ => rfl

/-- The later parts of `sendMail`. -/
theorem resume_step {action : Action} (ha : action = .pushMail ∨ action = .notifyListener)
    (h : s.step connection action = some (s', es)) : es.filterMap Program.loopEvent = [] := by
  refine filterMap_loopEvent h fun e he => ?_
  rcases ha with rfl | rfl
  · cases e with
    | pushed => rfl
    | _ => cases he
  · cases he

/-- `sendMail` takes a mail that may be queued. -/
theorem sendMail_step {mail : Mail} (hq : mail.addToMailQueue = true)
    (h : s.step connection (.sendMail mail) = some (s', es)) : es = [.submitted mail] := by
  unfold step at h
  split_ifs at h
  simp only [sendMail] at h
  split at h
  · rw [if_neg (by simp [hq])] at h
    cases h
    rfl
  · cases h

theorem stop_step (h : s.step connection .stop = some (s', es)) :
    es = [] ∧ s' = { s with listener := { s.listener with keepRunning := false } } := by
  unfold step at h
  split_ifs at h
  cases h
  exact ⟨rfl, rfl⟩

end Client

namespace Program

variable {connection : NetworkConnection} {p p' : Program} {t es : List Event}

/-- A mail that `waitMail` returned had arrived. -/
theorem mem_arrivals_of_consumed {s : Client} (r : (Client.system connection).Run t s) {mail : Mail}
    (h : mail ∈ consumed t) : mail ∈ (arrivals t).map Prod.snd := by
  rw [← Client.consumed_append_incoming r]
  exact List.mem_append_left _ h

/-- The mail of the FSM is one that `sendMail` does not turn down. -/
theorem queueable (r : (system connection).Run t p) : p.fsm.mail.addToMailQueue = true := by
  apply r.invariant (I := fun _ p => p.fsm.mail.addToMailQueue = true)
  · rintro p rfl
    rfl
  · intro t p es p' r ih h
    have hclient := client_run (r.step h)
    replace h := transition h
    cases h with
    | fail | listener | misread | throw | resume | advance | finish | stop => exact ih
    | waitMail hm hs hp h =>
      refine Client.queued_of_arrival hclient (mem_arrivals_of_consumed hclient ?_)
      rw [consumed_append]
      exact List.mem_append_right _ List.mem_cons_self
    | send hm hs hp ht hsend h => exact (FSM.turn_reaction hs ht).addToMailQueue.trans ih
    | quiet hm hs hp ht hsend => exact (FSM.turn_reaction hs ht).addToMailQueue.trans ih

/-- A step that the loop does not see. -/
theorem loop_stutter (hp : p'.loop = p.loop) (he : es.filterMap loopEvent = []) :
    FSM.system.Steps p.loop (es.filterMap loopEvent) p'.loop := by
  rw [hp, he]
  exact .refl _

/-- Outside of `sendMail` the loop stands where the member `fsm` says. -/
theorem loop_eq_fsm (hm : ∀ next, p.main ≠ .sending next) : p.loop = p.fsm := by
  unfold loop
  split
  · next next h => exact absurd h (hm next)
  · rfl

theorem loop_of_sending {next : State} (hm : p.main = .sending next) :
    p.loop = ⟨next, p.fsm.mail, .head⟩ := by
  rw [loop, hm]

theorem loop_simulation :
    (system connection).Simulation FSM.system loop loopEvent where
  init := by
    rintro p rfl
    rfl
  step := by
    intro t p es p' r _ h
    have hq := queueable r
    replace h := transition h
    cases h with
    | fail | misread => exact loop_stutter rfl rfl
    | listener ha h => exact loop_stutter rfl (Client.listener_step ha h)
    | resume hm ha h => exact loop_stutter rfl (Client.resume_step ha h)
    | throw hm | finish hm =>
      have hfsm : p.loop = p.fsm := loop_eq_fsm (by simp [hm])
      exact loop_stutter hfsm.symm rfl
    | advance hm hi => exact loop_stutter (loop_of_sending hm).symm rfl
    | stop hm h =>
      obtain ⟨rfl, -⟩ := Client.stop_step h
      have hfsm : p.loop = p.fsm := loop_eq_fsm (by simp [hm])
      exact loop_stutter hfsm.symm rfl
    | waitMail hm hs hp h =>
      rw [loop_eq_fsm (by simp [hm])]
      obtain ⟨client, ⟨state, old, place⟩, main, failure⟩ := p
      subst hm hp
      exact .single (.wait _ hs)
    | @send t es client hm hs hp ht hsend h =>
      obtain rfl := Client.sendMail_step ((FSM.turn_reaction hs ht).addToMailQueue.trans hq) h
      have hstep := FSM.Step.turn p.client.mailbox hs hp ht
      rw [hsend] at hstep
      rw [loop_eq_fsm (by simp [hm])]
      exact .single hstep
    | @quiet t hm hs hp ht hsend =>
      have hstep := FSM.Step.turn p.client.mailbox hs hp ht
      rw [hsend] at hstep
      obtain ⟨client, fsm, main, failure⟩ := p
      subst hm
      exact .single hstep

theorem loop_run (r : (system connection).Run t p) :
    FSM.system.Run (t.filterMap loopEvent) p.loop :=
  loop_simulation.run r

theorem sent_loopEvent (t : List Event) : FSM.sent (t.filterMap loopEvent) = submitted t := by
  rw [FSM.sent, List.filterMap_filterMap, submitted]
  congr 1
  funext e
  cases e <;> rfl

theorem consumed_loopEvent (t : List Event) :
    FSM.consumed (t.filterMap loopEvent) = consumed t := by
  rw [FSM.consumed, List.filterMap_filterMap, consumed]
  congr 1
  funext e
  cases e <;> rfl

end Program

end ChatClient

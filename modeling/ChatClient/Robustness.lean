import ChatClient.Console
import ChatClient.Farewell
import ChatClient.Retries
import ChatClient.Shutdown

/-!
# Well-formed input

Nothing that is well formed makes a thread of the client throw (`Program.survives`): where every line of
the user passes the validators of its command, every `/rename` names a valid display name and each `recv`
returns one whole well-formed message, the program ends by no exception, in whatever order its threads
take their steps; only in UDP mode the server can still be given up.  A `send` is taken to succeed.
-/

namespace ChatClient

open MailBox Outcome

/-! ## Lines -/

/-- The strings of the line pass their validators, next to a display name that does, and a new display
name is valid. -/
def ProperLine (line : Bytes) : Prop :=
  Accepted (lineMessage (chars "default") line) ∧
    (word 0 line = chars "/rename" → ValidDisplayName (word 1 line))

theorem accepted_lineMessage {name name' : Bytes} (h : ValidDisplayName name)
    (h' : ValidDisplayName name') (line : Bytes) :
    Accepted (lineMessage name line) ↔ Accepted (lineMessage name' line) := by
  unfold lineMessage
  split_ifs <;> simp [Accepted, MessageType.validators, Passes, h, h']

theorem enterLine_ok {mb : MailBox} {line : Bytes} (hname : ValidDisplayName mb.displayName)
    (hl : ProperLine line) :
    ∃ mb', enterLine mb line = .ok mb' ∧ ValidDisplayName mb'.displayName := by
  obtain ⟨haccepted, hrename⟩ := hl
  rw [accepted_lineMessage (by decide) hname] at haccepted
  obtain ⟨⟨written, mail, mb'⟩, hwrite⟩ := (writeMailLine_checks mb {} line).ok_iff.2 haccepted
  obtain ⟨rfl, hline⟩ := writeMailLine_cases hwrite
  refine ⟨mb'.addMail mail, ?_, ?_⟩
  · rw [enterLine, hwrite]
    rfl
  · rw [Client.addMail_displayName]
    cases hline with
    | @auth m hc hm => exact m.displayName.valid
    | rename hc => exact hrename hc
    | join | silent | text => exact hname

theorem listenStdin_ok {mb : MailBox} {data : Bytes} (hname : ValidDisplayName mb.displayName)
    (hd : data ≠ []) (hl : ∀ line ∈ stdinLines (data.take 1023), ProperLine line) :
    ∃ mb', listenStdin mb (some data) = .ok mb' ∧ ValidDisplayName mb'.displayName := by
  simp only [listenStdin, if_neg hd, readLines_eq]
  refine foldlM_ok (fun mb : MailBox => ValidDisplayName mb.displayName) ?_ hname
  intro mb hname line hmem
  exact enterLine_ok hname (hl line hmem)

/-! ## The functions of the listener -/

/-- An ERR can be made while the display name is valid. -/
theorem listenSignal_ok {l : Listener} {mb : MailBox} {data : Bytes}
    (hname : ValidDisplayName mb.displayName) (hd : data ≠ []) :
    ∃ mail, listenSignal l mb (some data) =
      .ok ({ l with keepRunning := false }, mb.addMail mail) := by
  obtain ⟨⟨b, mail⟩, hwrite⟩ := (Commands.writeMailType_err_iff mb).2 hname {}
  refine ⟨{ mail with sigint := true }, ?_⟩
  simp only [listenSignal, if_neg hd, hwrite]
  rfl

/-- A mail with data of its type can be sent. -/
theorem transmit_ok (connection : NetworkConnection) (l : Listener) {mail : Mail}
    (htag : mail.WellTagged) : ∃ res, transmit connection l mail = .ok res := by
  obtain ⟨bytes, hsend⟩ : ∃ bytes, connection.sendData mail = .ok bytes :=
    ⟨_, MailSerializer.serialize_of_wellTagged _ htag⟩
  simp only [transmit, hsend]
  split
  · exact ⟨_, rfl⟩
  · split_ifs <;> exact ⟨_, rfl⟩

/-- What is received is a message that fits the buffer with a zero byte behind it: its strings pass
their validators and, in TCP mode, its keywords are in place. -/
def ProperData (connection : NetworkConnection) (received : Option Bytes) : Prop :=
  ∃ data, received = some data ∧ data ≠ [] ∧ data.length < bufferSize ∧
    Accepted (bufferMessage connection.type (stored data)) ∧
    (connection.type = .tcp → Formatted (bufferText (stored data)))

/-- `writeMail` returns `true` for such a message. -/
theorem ProperData.written {connection : NetworkConnection} {received : Option Bytes}
    (h : ProperData connection received) :
    ∃ buffer, connection.receiveData received = .ok buffer ∧
      ∀ mb : MailBox, mb.deliveryService = connection.type →
        ∃ mail, mb.writeMailBuffer buffer {} = .ok (true, mail) := by
  obtain ⟨data, rfl, hd, hlen, haccepted, hformatted⟩ := h
  have hnul := nul_mem_stored hlen
  refine ⟨stored data, connection.receiveData_stored hd hlen.le, fun mb hs => ?_⟩
  rw [← hs] at haccepted hformatted
  obtain ⟨⟨b, mail⟩, hwrite⟩ :=
    (writeMailBuffer_returns_iff mb {} (length_stored hlen.le) hnul).2 haccepted
  suffices b = true from ⟨mail, this ▸ hwrite⟩
  rw [writeMailBuffer] at hwrite
  rcases hservice : mb.deliveryService
  · simp only [hservice, writeTCPMail] at hwrite
    obtain ⟨text, rest, hbuffer, htext⟩ := List.eq_append_cons_of_mem hnul
    rw [hbuffer, readString_terminated htext] at hwrite
    obtain ⟨_, hread⟩ := run'_eq_ok.1 hwrite
    have hsame : bufferText (stored data) = text := by
      rw [hbuffer]
      exact bufferText_append htext rest
    exact (parseTCPMail_true_iff hread).2 (hsame ▸ hformatted hservice)
  · simp only [hservice] at hwrite
    obtain ⟨_, hread⟩ := run'_eq_ok.1 hwrite
    exact (writeUDPMail_decoded hservice hread).1

/-- The inputs of an action are well formed. -/
def Action.Proper (connection : NetworkConnection) : Action → Prop
  | .listenStdin received =>
    ∃ data, received = some data ∧ data ≠ [] ∧ ∀ line ∈ stdinLines (data.take 1023), ProperLine line
  | .listenSignal received => ∃ data, received = some data ∧ data ≠ []
  | .listenSocket received => ProperData connection received
  | _ => True

theorem Written.append {connection : NetworkConnection} {t es : List Event}
    (h : Written connection t) (h' : Written connection es) : Written connection (t ++ es) := by
  intro x hx
  rw [receptions, List.filterMap_append, List.mem_append] at hx
  exact hx.elim (h x) (h' x)

namespace Client

variable {connection : NetworkConnection} {t es : List Event} {s s' : Client} {action : Action}

/-- The mail that awaits its CONFIRM can be sent again. -/
theorem sendData_confMail (hu : connection.type = .udp) (r : (system connection).Run t s)
    (hrc : s.listener.receivedConfirm = false) :
    ∃ bytes, connection.sendData s.listener.confMail = .ok bytes := by
  obtain ⟨pre, bytes, mid, rfl, -⟩ := exists_last_transmitted (last_transmitted hu r hrc).1
  exact ⟨bytes, sendData_of_sent hu r (.inl (by simp))⟩

/-- The server was given up. -/
def GivenUp (connection : NetworkConnection) (s : Client) : Prop :=
  connection.type = .udp ∧ s.failure = some .notResponding ∧
    connection.getRetries ≤ s.listener.retries

theorem retransmit_ok_or (r : (system connection).Run t s) {timeout : Int}
    (hp : s.place = .waiting timeout) (ht : 0 ≤ timeout) :
    (∃ res, retransmit connection s.listener = .ok res) ∨
      connection.type = .udp ∧ retransmit connection s.listener = .error .notResponding ∧
        connection.getRetries ≤ s.listener.retries := by
  have hu : connection.type = .udp := by
    rcases htype : connection.type
    · rw [waiting_tcp htype r timeout hp] at ht
      cases ht
    · rfl
  obtain ⟨bytes, hsend⟩ := sendData_confMail hu r ((counted hu r).limited timeout hp ht)
  unfold retransmit
  split_ifs with hretries
  · exact .inr ⟨hu, rfl, hretries⟩
  · rw [hsend]
    exact .inl ⟨_, rfl⟩

/-- What is taken from the queue has data of its type if what was passed to `sendMail` has. -/
theorem wellTagged_of_popped (r : (system connection).Run t s)
    (htag : ∀ mail ∈ submitted t, mail.WellTagged) {mail : Mail} {rest : List FdType}
    (hp : s.place = .popped mail rest) : mail.WellTagged := by
  have hmem : mail ∈ popped t := by
    rw [popped_eq r, hp]
    exact List.mem_append_right _ List.mem_cons_self
  obtain ⟨mail', hsubmitted, n, rfl⟩ :=
    exists_of_mem_stamp ((popped_prefix_submitted r).subset hmem)
  exact (htag mail' hsubmitted).stamped n

/-- A computation that returns is no failure. -/
theorem failure_of_ok {α : Type} {x : Except Error α} {k : α → Client × List Event} {a : α}
    (hx : x = .ok a) (hk : (k a).1.failure = none) (h : some (s.attempt x k) = some (s', es)) :
    s'.failure = none := by
  subst hx
  obtain rfl : (k a).1 = s' := congrArg Prod.fst (Option.some.inj h)
  exact hk

/-- No action of the FSM thread fails while the queue is tagged. -/
theorem failure_of_fsm (ha : action.byListener = false)
    (htag : ∀ mail ∈ s.mailbox.incomingMails, mail.Tagged)
    (h : s.step connection action = some (s', es)) : s'.failure = none := by
  unfold step at h
  split_ifs at h with hf
  rw [not_not] at hf
  cases action with
  | sendMail mail =>
    simp only [sendMail] at h
    split at h
    · split_ifs at h
      all_goals
        cases h
        exact hf
    · cases h
  | pushMail =>
    simp only [pushMail] at h
    split at h
    · cases h
      exact hf
    · cases h
  | notifyListener =>
    simp only [notifyListener] at h
    split at h
    · cases h
      exact hf
    · cases h
  | waitMail =>
    simp only [waitMail] at h
    split at h
    · next hidle hw =>
      rcases hin : s.mailbox.incomingMails with _ | ⟨mail, rest⟩
      · rw [MailBox.waitMail, hin] at hw
        cases hw
      · obtain ⟨mb, s'', hok, -⟩ :=
          exists_waitMail connection hf hidle hin (htag mail (by simp [hin]))
        rw [hok] at hw
        cases hw
        exact failure_of_ok rfl hf h
    · cases h
  | stop =>
    cases h
    exact hf
  | _ => cases ha

/-- No action of the listener thread fails on well-formed input, unless the server is given up. -/
theorem failure_of_listener (r : (system connection).Run t s) (ha : action.byListener = true)
    (hname : ValidDisplayName s.mailbox.displayName) (htag : ∀ mail ∈ submitted t, mail.WellTagged)
    (hproper : action.Proper connection) (h : s.step connection action = some (s', es)) :
    s'.failure = none ∨ GivenUp connection s' := by
  have hc := consistent r
  unfold step at h
  split_ifs at h with hf
  rw [not_not] at hf
  cases action with
  | loopHead =>
    simp only [loopHead] at h
    split at h
    · split_ifs at h
      · obtain ⟨epoll, hok, -⟩ := toggleSendPipe_eq hc.registered
        exact .inl (failure_of_ok hok hf h)
      · cases h
        exact .inl hf
    · cases h
  | epollWait result elapsed =>
    simp only [epollWait] at h
    split at h
    · next timeout hp =>
      split_ifs at h with hr
      cases result with
      | timeout =>
        obtain ⟨res, hok⟩ | ⟨hu, herror, hretries⟩ := retransmit_ok_or r hp hr
        · exact .inl (failure_of_ok hok hf h)
        · rw [herror] at h
          cases h
          exact .inr ⟨hu, rfl, hretries⟩
      | ready fds | interrupted =>
        cases h
        exact .inl hf
    · cases h
  | listenStdin received =>
    obtain ⟨data, rfl, hd, hl⟩ := hproper
    obtain ⟨mb', hok, -⟩ := listenStdin_ok hname hd hl
    simp only [listenStdin] at h
    split at h
    · exact .inl (failure_of_ok hok hf h)
    · cases h
  | listenSignal received =>
    obtain ⟨data, rfl, hd⟩ := hproper
    obtain ⟨mail, hok⟩ := listenSignal_ok hname hd
    simp only [listenSignal] at h
    split at h
    · exact .inl (failure_of_ok hok hf h)
    · cases h
  | listenSocket received =>
    obtain ⟨buffer, hreceive, hwritten⟩ := hproper.written
    obtain ⟨mail, hwrite⟩ := hwritten s.mailbox hc.service
    obtain ⟨res, hok⟩ := (listenSocket_returns_iff r hreceive).2 ⟨_, hwrite⟩
    simp only [listenSocket] at h
    split at h
    · exact .inl (failure_of_ok hok hf h)
    · cases h
  | readNotify =>
    simp only [readNotify] at h
    split at h
    · split_ifs at h
      cases h
      exact .inl hf
    · cases h
  | popMail =>
    simp only [popMail] at h
    split at h
    · next rest hp =>
      obtain ⟨mail, mailbox, hok⟩ := getOutgoingMail_ne_error r hp
      exact .inl (failure_of_ok hok hf h)
    · cases h
  | transmit =>
    simp only [transmit] at h
    split at h
    · next mail rest hp =>
      obtain ⟨res, hok⟩ :=
        transmit_ok connection s.listener (wellTagged_of_popped r htag hp)
      exact .inl (failure_of_ok hok hf h)
    · cases h
  | _ => cases ha

/-- Well-formed lines leave a valid display name. -/
theorem name_of_proper (hname : ValidDisplayName s.mailbox.displayName)
    (hproper : action.Proper connection) (h : s.step connection action = some (s', es)) :
    ValidDisplayName s'.mailbox.displayName := by
  cases action with
  | listenStdin received =>
    obtain ⟨data, rfl, hd, hl⟩ := hproper
    obtain ⟨mb', hok, hname'⟩ := listenStdin_ok hname hd hl
    unfold step at h
    split_ifs at h
    simp only [listenStdin, hok] at h
    split at h
    · cases h
      exact hname'
    · cases h
  | _ =>
    rw [(step_frame h).2 (by simp)]
    exact hname

/-- What an action receives is decoded with `writeMail` returning true. -/
theorem written_of_proper (hc : Consistent connection s) (hproper : action.Proper connection)
    (h : s.step connection action = some (s', es)) : Written connection es := by
  intro x hx
  obtain ⟨e, he, heq⟩ := List.mem_filterMap.1 hx
  have hshows := (step_frame h).1 e he
  cases e with
  | received datagram mail delivered =>
    cases heq
    cases action with
    | listenSocket received =>
      obtain ⟨buffer, hreceive, hwritten⟩ := hproper.written
      obtain ⟨mail', hwrite⟩ := hwritten s.mailbox hc.service
      unfold step at h
      split_ifs at h
      simp only [listenSocket] at h
      split at h
      · obtain ⟨e, rfl, rfl⟩ | ⟨res, hok, hk⟩ := attempt_cases h
        · cases he
        · cases hk
          obtain ⟨rfl, rfl⟩ : datagram = received.getD [] ∧ mail = res.mail := by
            rcases List.mem_cons.1 he with heq | hmem
            · cases heq
              exact ⟨rfl, rfl⟩
            · simp at hmem
          obtain ⟨data, rfl⟩ : ∃ data, received = some data := by
            rcases received with _ | data
            · rw [listenSocket_none] at hok
              cases hok
            · exact ⟨data, rfl⟩
          have hmail : res.mail = mail' := by
            rw [ChatClient.listenSocket, hreceive] at hok
            simp only [bind, Except.bind, hwrite] at hok
            exact (handleMail_cases hok).1
          exact ⟨s.mailbox, buffer, hc.service, hreceive, hmail ▸ hwrite⟩
      · cases h
    | _ => cases hshows
  | _ => cases heq

end Client

namespace Program

variable {connection : NetworkConnection} {t es : List Event} {p p' : Program}

/-- The inputs of an action are well formed; the main thread has none. -/
def Action.Proper (connection : NetworkConnection) : Action → Prop
  | .main => True
  | .listener action => action.Proper connection

/-- A step of the listener thread leaves the main thread alone. -/
theorem listener_main {action : ChatClient.Action}
    (h : p.step connection (.listener action) = some (p', es)) :
    action.byListener = true ∧ p'.main = p.main := by
  unfold step at h
  split_ifs at h
  simp only at h
  split_ifs at h with ha
  obtain ⟨⟨client, es⟩, hc, h⟩ := Option.bind_eq_some_iff.1 h
  cases h
  exact ⟨ha, rfl⟩

/-- `FSM::run` is left by an exception only where a turn throws one. -/
theorem thrown_of_main (h : p.step connection .main = some (p', es)) (hm : p'.main = .thrown) :
    p.main = .run ∧ (p.fsm.place = .read ∨ p.fsm.state.waits = false) ∧
      ∃ e, FSM.turn p.client.mailbox p.fsm.state p.fsm.mail = .error e := by
  unfold step at h
  split_ifs at h
  simp only [mainStep] at h
  split at h
  · next hrun =>
    split_ifs at h with hend hwait
    · cases h
      cases hm
    · obtain ⟨⟨x, mb⟩, -, h⟩ := Option.bind_eq_some_iff.1 h
      obtain ⟨⟨client, es⟩, -, h⟩ := Option.bind_eq_some_iff.1 h
      cases x <;> cases h <;> simp [hrun] at hm
    · simp only [turn] at h
      split at h
      · split_ifs at h
        · obtain ⟨⟨client, es⟩, -, h⟩ := Option.bind_eq_some_iff.1 h
          cases h
          cases hm
        · cases h
          simp [hrun] at hm
      · next what ht =>
        exact ⟨hrun, read_or_not_waits hwait, _, ht⟩
      · next e _ ht =>
        exact ⟨hrun, read_or_not_waits hwait, e, ht⟩
  · next next hsending =>
    simp only [resume] at h
    split at h
    · obtain ⟨⟨client, es⟩, -, h⟩ := Option.bind_eq_some_iff.1 h
      cases h
      simp [hsending] at hm
    · obtain ⟨⟨client, es⟩, -, h⟩ := Option.bind_eq_some_iff.1 h
      cases h
      simp [hsending] at hm
    · cases h
      cases hm
  · obtain ⟨⟨client, es⟩, -, h⟩ := Option.bind_eq_some_iff.1 h
    cases h
    cases hm
  · cases h
  · cases h

/-- No thread has thrown anything, except that the server may have been given up. -/
structure Sound (connection : NetworkConnection) (t : List Event) (p : Program) : Prop where
  run : (system connection).Run t p
  written : Written connection t
  name : ValidDisplayName p.client.mailbox.displayName
  main : p.main ≠ .thrown
  client : p.client.failure = none ∨ Client.GivenUp connection p.client

theorem Sound.initial (connection : NetworkConnection) :
    Sound connection [] (.initial connection) where
  run := .init rfl
  written := fun _ h => nomatch h
  name := by
    change ValidDisplayName (chars "default")
    decide
  main := by simp [Program.initial]
  client := .inl rfl

theorem Sound.step (hs : Sound connection t p) {action : Action}
    (hproper : action.Proper connection) (h : p.step connection action = some (p', es)) :
    Sound connection (t ++ es) p' := by
  have hclient := client_run hs.run
  have hf := Console.failure_of_step h
  have hrun := hs.run.step ⟨action, h⟩
  cases action with
  | listener action =>
    have hstep := listener_action h
    obtain ⟨ha, hmain⟩ := listener_main h
    refine ⟨hrun, ?_, Client.name_of_proper hs.name hproper hstep, by rw [hmain]; exact hs.main, ?_⟩
    · exact Written.append hs.written
        (Client.written_of_proper (Client.consistent hclient) hproper hstep)
    · exact Client.failure_of_listener hclient ha hs.name
        (fun mail hm => (submitted_wellTagged hs.run hs.written hm).1) hproper hstep
  | main =>
    have hturn : p'.main ≠ .thrown := by
      intro hm
      obtain ⟨hmain, hp, e, ht⟩ := thrown_of_main h hm
      obtain ⟨turn, hok⟩ := FSM.turn_ok (tagged_of_waits hs.run hs.written hmain hp) hs.name
      rw [hok] at ht
      cases ht
    rcases main_action h with ⟨rfl, heq⟩ | ⟨action, ha, hstep⟩
    · rw [List.append_nil] at hrun ⊢
      exact ⟨hrun, hs.written, by rw [heq]; exact hs.name, hturn, .inl (by rw [heq]; exact hf)⟩
    · have hproper : action.Proper connection := by
        cases action with
        | listenStdin | listenSignal | listenSocket => cases ha
        | _ => trivial
      refine ⟨hrun, ?_, Client.name_of_proper hs.name hproper hstep, hturn, ?_⟩
      · exact Written.append hs.written
          (Client.written_of_proper (Client.consistent hclient) hproper hstep)
      · exact .inl (Client.failure_of_fsm ha
          (fun mail hm => Client.tagged_incoming hclient hs.written hm) hstep)

end Program

end ChatClient

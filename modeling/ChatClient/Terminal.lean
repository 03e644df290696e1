import ChatClient.Provenance
import ChatClient.Tags

/-!
# What the user sees

The lines that the main thread prints: `waitMail` shows what it takes from the queue, and a turn of
`FSM::run` reports what it has no use for (`Terminal.system`).  They show every message the socket
delivered once, in order, and none of the user's own (`displayed`); and every MSG of the user that the
FSM takes is either sent or reported, according to whether the session was open (`sent_or_quoted`).
What the listener thread prints is not here: the text of `/help`, the queue that `/print` shows, the
complaint about an unknown type and the lines of the verbose mode.
-/

namespace ChatClient

open MailBox Outcome

/-- A line on `std::cout` (`message`) or on `std::cerr`. -/
inductive Shown
  | message (displayName messageContent : Bytes)
  | error (displayName messageContent : Bytes)
  | reply (result : Bool) (messageContent : Bytes)
  | unexpected (messageContent : Bytes)
  | unexpectedJoin (state : State)
  | alreadyAuthenticated
deriving DecidableEq

/-- The characters of the line. -/
def Shown.line : Shown → Bytes
  | message displayName messageContent => displayName ++ chars ": " ++ messageContent ++ [lf]
  | error displayName messageContent =>
    chars "ERR FROM " ++ displayName ++ chars ": " ++ messageContent ++ [lf]
  | reply result messageContent =>
    chars (if result then "Success" else "Failure") ++ chars ": " ++ messageContent ++ [lf]
  | unexpected messageContent => chars "ERR: Unexpected message: " ++ messageContent ++ [lf]
  | unexpectedJoin state =>
    chars (if state = .auth then "ERR: Unexpected message. " else "ERR: Unexpected message ") ++ [lf]
  | alreadyAuthenticated => chars "ERR: User already authenticated." ++ [lf]

def Shown.onStdout : Shown → Bool
  | message .. => true
  | _ => false

/-- The text of a MSG. -/
def Mail.text (mail : Mail) : Option TextMessage :=
  match mail.type, mail.data with
  | some .msg, .text msg => some msg
  | _, _ => none

/-- The text of a MSG of the user. -/
def Mail.spoken (mail : Mail) : Option TextMessage := mail.text.filter fun msg => msg.toSend

/-- The text of a MSG of the peer. -/
def Mail.heard (mail : Mail) : Option TextMessage := mail.text.filter fun msg => !msg.toSend

/-- What `waitMail` prints of the mail it returns. -/
def Mail.shown (mail : Mail) : List Shown :=
  match mail.type, mail.data with
  | some .err, .error err =>
    if !mail.sigint then [.error err.displayName.val err.messageContent.val] else []
  | some .msg, .text msg =>
    if !msg.toSend then [.message msg.displayName.val msg.messageContent.val] else []
  | some .reply, .reply reply => [.reply reply.result reply.messageContent.val]
  | _, _ => []

/-- What a turn prints. -/
def FSM.shown (state : State) (mail : Mail) : List Shown :=
  match state, mail.type with
  | .start, some .msg | .auth, some .msg =>
    match mail.data with
    | .text msg => [.unexpected msg.messageContent.val]
    | _ => []
  | .start, some .join | .auth, some .join => [.unexpectedJoin state]
  | .open_, some .auth => [.alreadyAuthenticated]
  | _, _ => []

/-- What the main thread prints in an action. -/
def Program.shown (p : Program) (action : Program.Action) : List Shown :=
  match action, p.main with
  | .main, .run =>
    if p.fsm.state = .end_ then []
    else if p.fsm.state.waits = true ∧ p.fsm.place = .head then
      match p.client.mailbox.waitMail with
      | some (.ok mail, _) => mail.shown
      | _ => []
    else FSM.shown p.fsm.state p.fsm.mail
  | _, _ => []

/-- The program with what its main thread has printed. -/
structure Terminal where
  program : Program
  screen : List Shown := []
deriving DecidableEq

namespace Terminal

variable (connection : NetworkConnection)

def step (x : Terminal) (action : Program.Action) : Option (Terminal × List Event) := do
  let (program, es) ← x.program.step connection action
  return ({ program, screen := x.screen ++ x.program.shown action }, es)

def system : Lts Terminal Event where
  init x := x = { program := .initial connection }
  step x es x' := ∃ action, x.step connection action = some (x', es)

end Terminal

/-! ## The lines of a step -/

/-- The steps of the program as steps of its loop, with what each prints. -/
inductive Prints (p : Program) (es : List Event) (p' : Program) : List Shown → Prop
  | silent (hl : p'.loop = p.loop) (he : es.filterMap Program.loopEvent = []) : Prints p es p' []
  | wait {mail : Mail} (hs : p.loop.state.waits = true) (hp : p.loop.place = .head)
      (hl : p'.loop = ⟨p.loop.state, mail, .read⟩) (he : es = [.consumed mail]) :
      Prints p es p' mail.shown
  | turn {mb : MailBox} {t : Turn} (hs : p.loop.state ≠ .end_)
      (hp : p.loop.place = .read ∨ p.loop.state.waits = false)
      (ht : FSM.turn mb p.loop.state p.loop.mail = .ok t) (hl : p'.loop = ⟨t.next, t.mail, .head⟩)
      (he : es = if t.sends then [.submitted t.mail] else []) :
      Prints p es p' (FSM.shown p.loop.state p.loop.mail)

namespace FSM

variable {mb : MailBox} {state : State} {mail : Mail}

/-- What is reported changes nothing. -/
theorem shown_of_next (h : state.next mail ≠ state) : shown state mail = [] := by
  unfold shown
  split
  case h_1 ht | h_2 ht => exact absurd (by simp [State.next, ht]) h
  case h_3 ht | h_4 ht => exact absurd (by simp [State.next, ht]) h
  case h_5 ht => exact absurd (by simp [State.next, ht]) h
  case h_6 => rfl

/-- A turn that throws has printed nothing. -/
theorem shown_of_error {e : Error} (h : turn mb state mail = .error e) : shown state mail = [] := by
  have hcourse := turn_course mb state mail
  generalize turn mb state mail = x at h hcourse
  cases hcourse with
  | authenticate | join | pass | leave | ended => cases h
  | untyped hs ht => simp [shown, ht]
  | reply hs ht => simp [shown, ht]
  | complain hs hb hn =>
    apply shown_of_next
    rintro heq
    rw [← heq, hn] at hs
    cases hs
  | quit hb hn =>
    by_cases hs : state = .end_
    · subst hs
      rfl
    · apply shown_of_next
      rw [hn]
      exact fun heq => hs heq.symm
  | text hs ht =>
    have htext : ∀ msg, mail.data ≠ .text msg := by
      intro msg hd
      rw [Mail.getText, hd] at h
      cases h
    unfold shown
    split
    case h_1 | h_2 =>
      split
      · next hd => exact absurd hd (htext _)
      · rfl
    case h_3 hjoin | h_4 hjoin | h_5 hjoin =>
      rw [ht] at hjoin
      cases hjoin
    case h_6 => rfl

end FSM

namespace Program

variable {connection : NetworkConnection} {p p' : Program} {es : List Event}

/-- Only a turn or `waitMail` prints. -/
theorem shown_of_main (h : p.main ≠ .run) (action : Action) : p.shown action = [] := by
  unfold shown
  split
  · exact absurd ‹_› h
  · rfl

theorem prints_resume {next : State} (hm : p.main = .sending next)
    (h : p.resume connection next = some (p', es)) : Prints p es p' [] := by
  simp only [resume] at h
  split at h
  · obtain ⟨⟨client, es⟩, hc, h⟩ := Option.bind_eq_some_iff.1 h
    cases h
    exact .silent rfl (Client.resume_step (.inl rfl) hc)
  · obtain ⟨⟨client, es⟩, hc, h⟩ := Option.bind_eq_some_iff.1 h
    cases h
    exact .silent rfl (Client.resume_step (.inr rfl) hc)
  · cases h
    exact .silent (loop_of_sending hm).symm rfl

theorem prints_turn (hq : p.fsm.mail.addToMailQueue = true) (hm : p.main = .run)
    (hs : p.fsm.state ≠ .end_) (hp : p.fsm.place = .read ∨ p.fsm.state.waits = false)
    (h : p.turn connection = some (p', es)) :
    Prints p es p' (FSM.shown p.fsm.state p.fsm.mail) := by
  have hloop : p.loop = p.fsm := loop_eq_fsm (by simp [hm])
  rw [← hloop] at hs hp
  have hturn : ∀ {t : Turn}, FSM.turn p.client.mailbox p.fsm.state p.fsm.mail = .ok t →
      p'.loop = ⟨t.next, t.mail, .head⟩ → es = (if t.sends then [.submitted t.mail] else []) →
      Prints p es p' (FSM.shown p.fsm.state p.fsm.mail) := by
    intro t ht hl he
    rw [← hloop] at ht ⊢
    exact .turn hs hp ht hl he
  simp only [turn] at h
  split at h
  · next t ht =>
    split_ifs at h with hsend
    · obtain ⟨⟨client, es⟩, hc, h⟩ := Option.bind_eq_some_iff.1 h
      have hreact := FSM.turn_reaction (hloop ▸ hs) ht
      obtain rfl := Client.sendMail_step (hreact.addToMailQueue.trans hq) hc
      cases h
      apply hturn ht
      · rfl
      · rw [if_pos hsend]
    · cases h
      apply hturn ht
      · exact loop_eq_fsm (by simp [hm])
      · rw [if_neg hsend]
  · next ht =>
    cases h
    rw [FSM.shown_of_error ht]
    exact .silent hloop.symm rfl
  · next e _ ht =>
    cases h
    rw [FSM.shown_of_error ht]
    exact .silent rfl rfl

theorem prints_main (hq : p.fsm.mail.addToMailQueue = true)
    (h : p.mainStep connection = some (p', es)) : Prints p es p' (p.shown .main) := by
  by_cases hm : p.main = .run
  · have hloop : p.loop = p.fsm := loop_eq_fsm (by simp [hm])
    simp only [mainStep, hm] at h
    simp only [shown, hm]
    split_ifs at h with hend hwait
    · cases h
      rw [if_pos hend]
      exact .silent hloop.symm rfl
    · rw [if_neg hend, if_pos hwait]
      obtain ⟨⟨x, mb⟩, hx, h⟩ := Option.bind_eq_some_iff.1 h
      obtain ⟨⟨client, es⟩, hc, h⟩ := Option.bind_eq_some_iff.1 h
      rw [hx]
      obtain ⟨e, rfl, rfl⟩ | ⟨mail, rfl, rfl⟩ := waitMail_events hx hc
      · cases h
        exact .silent rfl rfl
      · cases h
        rw [← hloop] at hwait
        refine .wait hwait.1 hwait.2 ?_ rfl
        rw [hloop]
        exact loop_eq_fsm (by simp [hm])
    · rw [if_neg hend, if_neg hwait]
      exact prints_turn hq hm hend (read_or_not_waits hwait) h
  · rw [shown_of_main hm]
    unfold mainStep at h
    split at h
    · contradiction
    · next hsending => exact prints_resume hsending h
    · next hreturned =>
      obtain ⟨⟨client, es⟩, hc, h⟩ := Option.bind_eq_some_iff.1 h
      cases h
      obtain ⟨rfl, -⟩ := Client.stop_step hc
      have hloop : p.loop = p.fsm := loop_eq_fsm (by simp [hreturned])
      exact .silent hloop.symm rfl
    · cases h
    · cases h

/-- A step prints what the loop does in it. -/
theorem prints_of_step {action : Action} (hq : p.fsm.mail.addToMailQueue = true)
    (h : p.step connection action = some (p', es)) : Prints p es p' (p.shown action) := by
  unfold step at h
  split_ifs at h
  cases action with
  | main => exact prints_main hq h
  | listener action =>
    simp only at h
    split_ifs at h with ha
    obtain ⟨⟨client, es⟩, hc, h⟩ := Option.bind_eq_some_iff.1 h
    cases h
    exact .silent rfl (Client.listener_step ha hc)

end Program

namespace Terminal

variable {connection : NetworkConnection} {t es : List Event} {x x' : Terminal}

theorem program_simulation :
    (system connection).Simulation (Program.system connection) (fun x => x.program) some where
  init := by
    rintro x rfl
    rfl
  step := by
    intro t x es x' _ _ h
    obtain ⟨action, h⟩ := h
    obtain ⟨⟨program, es⟩, hp, h⟩ := Option.bind_eq_some_iff.1 h
    cases h
    rw [List.filterMap_some]
    exact .single ⟨action, hp⟩

theorem program_run (r : (system connection).Run t x) :
    (Program.system connection).Run t x.program := by
  have h := program_simulation.run r
  rwa [List.filterMap_some] at h

theorem run_of_exec (r : (system connection).Run t x) (actions : List Program.Action)
    (h : Lts.exec (step connection) x actions = some (x', es)) :
    (system connection).Run (t ++ es) x' := by
  apply r.exec _ actions h
  intro x action x' es h
  exact ⟨action, h⟩

/-- What a step of a run adds to the screen. -/
theorem prints (r : (system connection).Run t x) (h : (system connection).step x es x') :
    ∃ lines, x'.screen = x.screen ++ lines ∧ Prints x.program es x'.program lines := by
  obtain ⟨action, h⟩ := h
  obtain ⟨⟨program, es⟩, hp, h⟩ := Option.bind_eq_some_iff.1 h
  cases h
  exact ⟨_, rfl, Program.prints_of_step (Program.queueable (program_run r)) hp⟩

end Terminal

/-! ## Whose texts they are -/

theorem Mail.text_eq_some {mail : Mail} {msg : TextMessage} :
    mail.text = some msg ↔ mail.type = some .msg ∧ mail.data = .text msg := by
  constructor
  · intro h
    unfold text at h
    split at h
    · next ht hd =>
      cases h
      exact ⟨ht, hd⟩
    · cases h
  · rintro ⟨ht, hd⟩
    simp [text, ht, hd]

theorem Mail.text_eq_none {mail : Mail} (h : mail.type ≠ some .msg) : mail.text = none := by
  rw [Option.eq_none_iff_forall_ne_some]
  intro msg hmsg
  exact h (text_eq_some.1 hmsg).1

theorem Mail.spoken_eq_none {mail : Mail} (h : mail.type ≠ some .msg) : mail.spoken = none := by
  rw [spoken, text_eq_none h, Option.filter_none]

theorem Entered.toSend {mail : Mail} (h : Entered mail) {msg : TextMessage}
    (hm : mail.text = some msg) : msg.toSend = true := by
  obtain ⟨ht, hd⟩ := Mail.text_eq_some.1 hm
  rcases h with ⟨mb, line, mb', h⟩ | ⟨herr, -⟩
  · cases (writeMailLine_cases h).2 with
    | auth | join | rename | silent => cases ht
    | text =>
      cases hd
      rfl
  · rw [herr] at ht
    cases ht

theorem Entered.spoken {mail : Mail} (h : Entered mail) : mail.spoken = mail.text := by
  rw [Mail.spoken]
  rcases hm : mail.text with _ | msg
  · rfl
  · simp [h.toSend hm]

theorem Entered.heard {mail : Mail} (h : Entered mail) : mail.heard = none := by
  rw [Mail.heard]
  rcases hm : mail.text with _ | msg
  · rfl
  · simp [h.toSend hm]

theorem FromSocket.spoken {mail : Mail} (h : FromSocket mail) : mail.spoken = none := by
  rw [Mail.spoken]
  rcases hm : mail.text with _ | msg
  · rfl
  · simp [h.toSend (Mail.text_eq_some.1 hm).2]

theorem FromSocket.heard {mail : Mail} (h : FromSocket mail) : mail.heard = mail.text := by
  rw [Mail.heard]
  rcases hm : mail.text with _ | msg
  · rfl
  · simp [h.toSend (Mail.text_eq_some.1 hm).2]

/-- The texts that the socket has delivered. -/
def delivered (t : List Event) : List TextMessage :=
  (arrivals t).filterMap fun
    | (.peer, mail) => mail.text
    | (.user, _) => none

namespace Client

variable {connection : NetworkConnection} {t : List Event} {s : Client}

theorem heard_arrivals (r : (system connection).Run t s) :
    ((arrivals t).map Prod.snd).filterMap Mail.heard = delivered t := by
  rw [List.filterMap_map, delivered]
  apply List.filterMap_congr
  rintro ⟨origin, mail⟩ hm
  rcases event_of_arrival hm with ⟨rfl, he⟩ | ⟨rfl, datagram, he⟩
  · exact ((sourced r).entered _ he).1.heard
  · exact ((sourced r).received _ _ _ he).1.heard

end Client

/-! ## Standard output -/

/-- The line for a text. -/
def TextMessage.line (msg : TextMessage) : Bytes :=
  (Shown.message msg.displayName.val msg.messageContent.val).line

/-- A line on `std::cout` among those of a mail is that of a text of the peer. -/
theorem Mail.stdout_shown (mail : Mail) :
    (mail.shown.filter Shown.onStdout).map Shown.line = ([mail].filterMap heard).map TextMessage.line := by
  unfold shown
  split
  · next ht hd =>
    simp [heard, text, ht, Shown.onStdout]
  · next msg ht hd =>
    have htext : mail.text = some msg := text_eq_some.2 ⟨ht, hd⟩
    by_cases hs : msg.toSend = true
    · have hnone : mail.heard = none := by simp [heard, htext, hs]
      rw [List.filterMap_cons_none hnone]
      simp [hs]
    · have hsome : mail.heard = some msg := by simp [heard, htext, hs]
      rw [List.filterMap_cons_some hsome, if_pos (by simp [hs])]
      rfl
  · next ht hd => simp [heard, text, ht, Shown.onStdout]
  · next hmsg _ =>
    have hnone : mail.text = none := by
      rw [Option.eq_none_iff_forall_ne_some]
      intro msg hm
      exact hmsg _ (Mail.text_eq_some.1 hm).1 (Mail.text_eq_some.1 hm).2
    simp [heard, hnone]

theorem FSM.stdout_shown (state : State) (mail : Mail) :
    (shown state mail).filter Shown.onStdout = [] := by
  unfold shown
  split
  · split <;> rfl
  · split <;> rfl
  · rfl
  · rfl
  · rfl
  · rfl

/-- A step that the loop does not see takes no mail and passes none on. -/
theorem unseen {es : List Event} (h : es.filterMap Program.loopEvent = []) :
    consumed es = [] ∧ submitted es = [] := by
  constructor
  · rw [← Program.consumed_loopEvent, h]
    rfl
  · rw [← Program.sent_loopEvent, h]
    rfl

namespace Terminal

variable {connection : NetworkConnection} {t es : List Event} {x x' : Terminal}

/-- The lines of the main thread on `std::cout`. -/
def stdout (x : Terminal) : List Bytes := (x.screen.filter Shown.onStdout).map Shown.line

theorem stdout_eq (r : (system connection).Run t x) :
    x.stdout = ((consumed t).filterMap Mail.heard).map TextMessage.line := by
  apply r.invariant
    (I := fun t x => x.stdout = ((consumed t).filterMap Mail.heard).map TextMessage.line)
  · rintro x rfl
    rfl
  · intro t x es x' r ih h
    obtain ⟨lines, hscreen, hprints⟩ := prints r h
    have hstdout : x'.stdout = x.stdout ++ (lines.filter Shown.onStdout).map Shown.line := by
      rw [stdout, hscreen, List.filter_append, List.map_append]
      rfl
    have hlines : (lines.filter Shown.onStdout).map Shown.line =
        ((consumed es).filterMap Mail.heard).map TextMessage.line := by
      cases hprints with
      | silent hl he =>
        rw [(unseen he).1]
        rfl
      | @wait mail hs hp hl he =>
        subst he
        exact mail.stdout_shown
      | turn hs hp ht hl he =>
        have hnone : consumed es = [] := by
          rw [he]
          split_ifs <;> rfl
        rw [FSM.stdout_shown, hnone]
        rfl
    rw [hstdout, hlines, ih, consumed_append, List.filterMap_append, List.map_append]

/-- In every run, in either mode, the lines that `waitMail` writes to `std::cout` are the texts that the
socket has delivered, each once and in their order; those that are not shown yet wait in the queue.  No
text of the user is among them. -/
theorem displayed (r : (system connection).Run t x) :
    x.stdout ++ (x.program.client.mailbox.incomingMails.filterMap Mail.heard).map TextMessage.line =
      (delivered t).map TextMessage.line := by
  have rclient := Program.client_run (program_run r)
  rw [← Client.heard_arrivals rclient, ← Client.consumed_append_incoming rclient,
    List.filterMap_append, List.map_append, stdout_eq r]

/-- The user logs in, types a text and receives one. -/
def conversation : List Program.Action :=
  Program.round [.stdinPipe] [.listenStdin (some (chars "/auth ann pw ann\n"))] ++
    Program.mainThread 5 ++
    Program.round [.socketPipe] [.listenSocket (some (chars "REPLY OK IS hello\r\n"))] ++
    Program.mainThread 2 ++ Program.round [.stdinPipe] [.listenStdin (some (chars "hey\n"))] ++
    Program.mainThread 5 ++
    Program.round [.socketPipe] [.listenSocket (some (chars "MSG FROM bob IS hi\r\n"))] ++
    Program.mainThread 2

theorem displayed_conversation :
    ∃ t x, (system { type := .tcp }).Run t x ∧ x.stdout = [chars "bob: hi\n"] ∧
      x.stdout ++
          (x.program.client.mailbox.incomingMails.filterMap Mail.heard).map TextMessage.line =
        (delivered t).map TextMessage.line := by
  obtain ⟨t, x, r, hstdout⟩ : ∃ t x, (system { type := .tcp }).Run t x ∧
      x.stdout = [chars "bob: hi\n"] := by
    obtain ⟨x, es, hexec, hstdout⟩ : ∃ x es,
        Lts.exec (step { type := .tcp }) { program := .initial { type := .tcp } } conversation =
          some (x, es) ∧ x.stdout = [chars "bob: hi\n"] := ⟨_, _, rfl, rfl⟩
    exact ⟨_, x, run_of_exec (.init rfl) conversation hexec, hstdout⟩
  exact ⟨t, x, r, hstdout, displayed r⟩

/-! ## What becomes of the user's texts -/

end Terminal

/-- What an "Unexpected message" line quotes. -/
def Shown.quoted : Shown → Option Bytes
  | unexpected messageContent => some messageContent
  | _ => none

/-- What the line for a MSG that is not expected quotes. -/
def Mail.quoted (mail : Mail) : Option Bytes := mail.text.map fun msg => msg.messageContent.val

theorem Mail.quoted_shown (mail : Mail) : mail.shown.filterMap Shown.quoted = [] := by
  unfold shown
  split
  · split_ifs <;> rfl
  · split_ifs <;> rfl
  · rfl
  · rfl

namespace FSM

variable {mb : MailBox} {state : State} {mail : Mail} {turn : Turn}

/-- Before the session is open every MSG is quoted. -/
theorem quoted_shown (hs : state = .start ∨ state = .auth) :
    (shown state mail).filterMap Shown.quoted = [mail].filterMap Mail.quoted := by
  by_cases ht : mail.type = some .msg
  · have hshown : shown state mail = match mail.data with
        | .text msg => [.unexpected msg.messageContent.val]
        | _ => [] := by
      rcases hs with rfl | rfl <;> simp only [shown, ht]
    rw [hshown]
    cases hd : mail.data with
    | text msg => simp [Mail.quoted, Mail.text, ht, hd, Shown.quoted]
    | _ => simp [Mail.quoted, Mail.text, ht, hd]
  · have hnone : mail.quoted = none := by rw [Mail.quoted, Mail.text_eq_none ht, Option.map_none]
    rw [List.filterMap_cons_none hnone, List.filterMap_nil, List.filterMap_eq_nil_iff]
    intro line hline
    unfold shown at hline
    split at hline
    · contradiction
    · contradiction
    · rw [List.mem_singleton.1 hline]
      rfl
    · rw [List.mem_singleton.1 hline]
      rfl
    · rw [List.mem_singleton.1 hline]
      rfl
    · cases hline

/-- Later none is. -/
theorem quoted_shown_of_ne (hs : state ≠ .start) (ha : state ≠ .auth) :
    (shown state mail).filterMap Shown.quoted = [] := by
  cases state with
  | start | auth => contradiction
  | open_ =>
    unfold shown
    split <;> first | rfl | contradiction
  | error | end_ => rfl

/-- In OPEN the user's MSGs are sent, and no others. -/
theorem spoken_of_open (h : FSM.turn mb .open_ mail = .ok turn) :
    (if turn.sends then [turn.mail] else []).filterMap Mail.text = [mail].filterMap Mail.spoken := by
  by_cases ht : mail.type = some .msg
  · simp only [FSM.turn, ht, bind_eq_ok] at h
    obtain ⟨msg, hmsg, h⟩ := h
    cases h
    have htext : mail.text = some msg := Mail.text_eq_some.2 ⟨ht, getText_ok hmsg⟩
    by_cases hs : msg.toSend = true
    · have hsome : mail.spoken = some msg := by simp [Mail.spoken, htext, hs]
      rw [if_pos hs, List.filterMap_cons_some htext, List.filterMap_cons_some hsome]
      rfl
    · have hnone : mail.spoken = none := by simp [Mail.spoken, htext, hs]
      rw [if_neg hs, List.filterMap_cons_none hnone]
      rfl
  · have hnone : mail.spoken = none := Mail.spoken_eq_none ht
    rw [List.filterMap_cons_none hnone]
    by_cases hsend : turn.sends = true
    · rw [if_pos hsend]
      apply List.filterMap_cons_none
      apply Mail.text_eq_none
      rcases sends_cases h hsend with ⟨heq, -⟩ | ⟨data, htype, heq⟩
      · rw [heq]
        exact ht
      · rw [heq]
        intro htext
        rw [Option.some.inj htext] at htype
        simp at htype
    · rw [if_neg hsend]
      rfl

theorem spoken_of_ne_open (hs : state ≠ .open_) (he : state ≠ .end_)
    (h : FSM.turn mb state mail = .ok turn) :
    (if turn.sends then [turn.mail] else []).filterMap Mail.text = [] := by
  cases turn_reaction he h with
  | accept | ignore | leave => rfl
  | say hopen | join hopen => contradiction
  | authenticate hstate ht => exact List.filterMap_cons_none (Mail.text_eq_none (by simp [ht]))
  | complain hw hb ht | quit hb ht =>
    exact List.filterMap_cons_none (Mail.text_eq_none (by simp [ht]))

end FSM

/-- From OPEN no way leads back. -/
theorem State.next_open_ne (mail : Mail) :
    ¬ (State.open_.next mail = .start ∨ State.open_.next mail = .auth) := by
  unfold next
  split <;> simp_all

namespace Terminal

variable {connection : NetworkConnection} {t es : List Event} {x x' : Terminal}

/-- The mail between `waitMail` and the end of the turn. -/
def hand (s : FSM) : List Mail :=
  match s.place with
  | .head => []
  | .read => [s.mail]

/-- Each of the mails, taken behind those of `done`, was taken in such a state. -/
def TakenIn (states : State → Prop) (done mails : List Mail) : Prop :=
  ∀ u mail v, mails = u ++ mail :: v → states (State.after (done ++ u))

theorem takenIn_nil (states : State → Prop) (done : List Mail) : TakenIn states done [] := by
  intro u mail v h
  simp at h

theorem TakenIn.concat {states : State → Prop} {done mails : List Mail}
    (h : TakenIn states done mails) (hs : states (State.after (done ++ mails))) (mail : Mail) :
    TakenIn states done (mails ++ [mail]) := by
  intro u m v heq
  rcases List.eq_nil_or_concat v with rfl | ⟨w, m', rfl⟩
  · obtain ⟨rfl, -⟩ := List.append_inj' heq rfl
    exact hs
  · apply h u m w
    rw [List.concat_eq_append, ← List.cons_append, ← List.append_assoc] at heq
    exact (List.append_inj' heq rfl).1

/-- The session is not open yet. -/
def Early (state : State) : Prop := state = .start ∨ state = .auth

/-- The mails taken before the session was open, those taken later, and what became of their
texts. -/
structure Sorted (t : List Event) (x : Terminal) (before after : List Mail) : Prop where
  consumed : consumed t = before ++ after ++ hand x.program.loop
  early : TakenIn Early [] before
  late : TakenIn (· = .open_) before after
  quoted : x.screen.filterMap Shown.quoted = before.filterMap Mail.quoted
  spoken : (submitted t).filterMap Mail.text = after.filterMap Mail.spoken
  opened : x.program.loop.state = .start ∨ x.program.loop.state = .auth → after = []

theorem Sorted.silent {before after : List Mail} (hk : Sorted t x before after)
    (hl : x'.program.loop = x.program.loop) (hce : ChatClient.consumed es = [])
    (hse : submitted es = []) (hscreen : x'.screen = x.screen) :
    Sorted (t ++ es) x' before after where
  consumed := by rw [consumed_append, hce, hl, List.append_nil, hk.consumed]
  early := hk.early
  late := hk.late
  quoted := by rw [hscreen, hk.quoted]
  spoken := by rw [submitted_append, hse, List.append_nil, hk.spoken]
  opened := by
    rw [hl]
    exact hk.opened

theorem Sorted.wait {before after : List Mail} {mail : Mail} (hk : Sorted t x before after)
    (hp : x.program.loop.place = .head) (hl : x'.program.loop = ⟨x.program.loop.state, mail, .read⟩)
    (hscreen : x'.screen = x.screen ++ mail.shown) :
    Sorted (t ++ [.consumed mail]) x' before after where
  consumed := by
    have hnil : hand x.program.loop = [] := by rw [hand, hp]
    rw [consumed_append, hk.consumed, hnil, hl, List.append_nil]
    rfl
  early := hk.early
  late := hk.late
  quoted := by
    rw [hscreen, List.filterMap_append, Mail.quoted_shown, List.append_nil, hk.quoted]
  spoken := by
    rw [submitted_append, List.filterMap_append, hk.spoken]
    exact List.append_nil _
  opened := by
    rw [hl]
    exact hk.opened

theorem Sorted.turn {before after : List Mail} {mb : MailBox} {turn : Turn}
    (hk : Sorted t x before after)
    (hread : x.program.loop.place = .read →
      x.program.loop.state.waits = true ∧ x.program.loop.state = State.after (before ++ after))
    (hend : x.program.loop.state ≠ .end_)
    (hp : x.program.loop.place = .read ∨ x.program.loop.state.waits = false)
    (ht : FSM.turn mb x.program.loop.state x.program.loop.mail = .ok turn)
    (hl : x'.program.loop = ⟨turn.next, turn.mail, .head⟩)
    (he : es = if turn.sends then [.submitted turn.mail] else [])
    (hscreen : x'.screen = x.screen ++ FSM.shown x.program.loop.state x.program.loop.mail) :
    ∃ before' after', Sorted (t ++ es) x' before' after' := by
  obtain ⟨hc, hbefore, hafter, hq, hs, ho⟩ := hk
  have hquoted : x'.screen.filterMap Shown.quoted = before.filterMap Mail.quoted ++
      (FSM.shown x.program.loop.state x.program.loop.mail).filterMap Shown.quoted := by
    rw [hscreen, List.filterMap_append, hq]
  have hconsumed : ChatClient.consumed (t ++ es) = before ++ after ++ hand x.program.loop := by
    have hce : ChatClient.consumed es = [] := by
      rw [he]
      split_ifs <;> rfl
    rw [consumed_append, hce, List.append_nil, hc]
  have hspoken : (submitted (t ++ es)).filterMap Mail.text = after.filterMap Mail.spoken ++
      (if turn.sends then [turn.mail] else []).filterMap Mail.text := by
    have hse : submitted es = if turn.sends then [turn.mail] else [] := by
      rw [he]
      split_ifs <;> rfl
    rw [submitted_append, List.filterMap_append, hs, hse]
  by_cases hw : x.program.loop.state.waits = true
  · have hplace : x.program.loop.place = .read := hp.resolve_right (by simp [hw])
    have hstate := (hread hplace).2
    have hhand : hand x.program.loop = [x.program.loop.mail] := by rw [hand, hplace]
    rw [hhand] at hconsumed
    by_cases hopen : x.program.loop.state = .open_
    · -- sent, if it is a text of the user
      refine ⟨before, after ++ [x.program.loop.mail], ?_, hbefore,
        hafter.concat (hstate.symm.trans hopen) _, ?_, ?_, ?_⟩
      · rw [hconsumed, hl]
        simp [hand]
      · rw [hquoted, hopen, FSM.quoted_shown_of_ne (by decide) (by decide), List.append_nil]
      · rw [hopen] at ht
        rw [hspoken, FSM.spoken_of_open ht, List.filterMap_append]
      · rw [hl, FSM.turn_next ht, hopen]
        intro hback
        exact absurd hback (State.next_open_ne x.program.loop.mail)
    · -- quoted, if it is a text
      have hearly : Early x.program.loop.state := by
        cases hstate : x.program.loop.state with
        | start => exact .inl rfl
        | auth => exact .inr rfl
        | open_ => exact absurd hstate hopen
        | error | end_ =>
          rw [hstate] at hw
          cases hw
      obtain rfl := ho hearly
      rw [List.append_nil] at hstate
      refine ⟨before ++ [x.program.loop.mail], [], ?_,
        hbefore.concat (by rwa [List.nil_append, ← hstate]) _, takenIn_nil _ _, ?_, ?_, fun _ => rfl⟩
      · rw [hconsumed, hl]
        simp [hand]
      · rw [hquoted, FSM.quoted_shown hearly, List.filterMap_append]
      · rw [hspoken, FSM.spoken_of_ne_open hopen hend ht]
        rfl
  · -- the turn of ERROR has no mail of its own
    have hplace : x.program.loop.place = .head := by
      cases hplace : x.program.loop.place with
      | head => rfl
      | read => exact absurd (hread hplace).1 hw
    have hhand : hand x.program.loop = [] := by rw [hand, hplace]
    have herror : x.program.loop.state = .error := by
      cases hstate : x.program.loop.state with
      | error => rfl
      | end_ => exact absurd hstate hend
      | start | auth | open_ =>
        rw [hstate] at hw
        exact absurd rfl hw
    refine ⟨before, after, ?_, hbefore, hafter, ?_, ?_, ?_⟩
    · rw [hconsumed, hhand, hl]
      rfl
    · rw [hquoted, herror, FSM.quoted_shown_of_ne (by decide) (by decide), List.append_nil]
    · rw [herror] at ht
      rw [hspoken, FSM.spoken_of_ne_open (by decide) (by decide) ht, List.append_nil]
    · rw [hl, FSM.turn_next ht, herror]
      intro hback
      simp [State.next] at hback

/-- The mail in hand was taken in the state in which the mails before it have left the loop. -/
theorem state_of_read (r : (system connection).Run t x) (hp : x.program.loop.place = .read)
    {mails : List Mail} (hc : consumed t = mails ++ [x.program.loop.mail]) :
    x.program.loop.state = State.after mails := by
  have htracked := FSM.tracked (Program.loop_run (program_run r))
  unfold FSM.Tracked at htracked
  rw [hp] at htracked
  obtain ⟨u, hu, hstate⟩ := htracked
  have hconsumed : consumed t = FSM.consumed u ++ [x.program.loop.mail] := by
    rw [← Program.consumed_loopEvent, hu, FSM.consumed_append]
    rfl
  rw [hstate, (List.append_inj' (hconsumed.symm.trans hc) rfl).1]

/-- Between two turns the state is the one in which the mails taken have left the loop, or the end that
follows ERROR. -/
theorem state_of_head (r : (system connection).Run t x) (hp : x.program.loop.place = .head) :
    x.program.loop.state = State.after (consumed t) ∨ x.program.loop.state = .end_ := by
  have htracked := FSM.tracked (Program.loop_run (program_run r))
  unfold FSM.Tracked at htracked
  rw [hp] at htracked
  rwa [Program.consumed_loopEvent] at htracked

theorem sorted (r : (system connection).Run t x) : ∃ before after, Sorted t x before after := by
  apply r.invariant (I := fun t x => ∃ before after, Sorted t x before after)
  · rintro x rfl
    exact ⟨[], [], rfl, takenIn_nil _ _, takenIn_nil _ _, rfl, rfl, fun _ => rfl⟩
  · intro t x es x' r ih h
    obtain ⟨before, after, hk⟩ := ih
    obtain ⟨lines, hscreen, hprints⟩ := prints r h
    have hread : x.program.loop.place = .read →
        x.program.loop.state.waits = true ∧ x.program.loop.state = State.after (before ++ after) := by
      intro hp
      refine ⟨(FSM.run_of_read (Program.loop_run (program_run r)) hp).1, state_of_read r hp ?_⟩
      rw [hk.consumed, hand, hp]
    cases hprints with
    | silent hl he =>
      obtain ⟨hce, hse⟩ := unseen he
      exact ⟨before, after, hk.silent hl hce hse (hscreen.trans (List.append_nil _))⟩
    | wait hw hp hl he =>
      subst he
      exact ⟨before, after, hk.wait hp hl hscreen⟩
    | turn hend hp ht hl he => exact hk.turn hread hend hp ht hl he hscreen

/-- In every run, in either mode, the mails that `waitMail` has returned are those taken in START and
AUTH, those taken in OPEN, and at most one that the turn is busy with.  The MSGs of the former, whoever
wrote them, are the ones quoted on `std::cerr`, and none of them is sent; the user's MSGs among the
latter are the ones sent, and no other MSG is.  Each is quoted or sent once, in the order in which they
were taken; and as long as the session is not open all are quoted. -/
theorem sent_or_quoted (r : (system connection).Run t x) :
    ∃ before after, consumed t = before ++ after ++ hand x.program.loop ∧
      (hand x.program.loop).length ≤ 1 ∧
      TakenIn Early [] before ∧ TakenIn (· = .open_) before after ∧
      (x.program.loop.state = State.after (before ++ after) ∨ x.program.loop.state = .end_) ∧
      x.screen.filterMap Shown.quoted = before.filterMap Mail.quoted ∧
      (submitted t).filterMap Mail.text = after.filterMap Mail.spoken ∧
      (x.program.loop.state = .start ∨ x.program.loop.state = .auth → after = []) := by
  obtain ⟨before, after, hc, hearly, hlate, hq, hs, ho⟩ := sorted r
  refine ⟨before, after, hc, ?_, hearly, hlate, ?_, hq, hs, ho⟩
  · unfold hand
    split <;> simp
  · cases hp : x.program.loop.place with
    | head =>
      have hnil : hand x.program.loop = [] := by rw [hand, hp]
      rw [hnil, List.append_nil] at hc
      rw [← hc]
      exact state_of_head r hp
    | read =>
      have hhand : hand x.program.loop = [x.program.loop.mail] := by rw [hand, hp]
      rw [hhand] at hc
      exact .inl (state_of_read r hp hc)

/-- The user types a text too early. -/
theorem sent_or_quoted_early :
    ∃ t x, (system { type := .tcp }).Run t x ∧
      x.screen.filterMap Shown.quoted = [chars "early"] ∧
      ((submitted t).filterMap Mail.text).map (fun msg => msg.messageContent.val) =
        [chars "hey"] ∧
      ∃ before after, consumed t = before ++ after ++ hand x.program.loop ∧
        (hand x.program.loop).length ≤ 1 ∧
        TakenIn Early [] before ∧ TakenIn (· = .open_) before after ∧
        (x.program.loop.state = State.after (before ++ after) ∨ x.program.loop.state = .end_) ∧
        x.screen.filterMap Shown.quoted = before.filterMap Mail.quoted ∧
        (submitted t).filterMap Mail.text = after.filterMap Mail.spoken ∧
        (x.program.loop.state = .start ∨ x.program.loop.state = .auth → after = []) := by
  let actions := Program.round [.stdinPipe] [.listenStdin (some (chars "early\n"))] ++
    Program.mainThread 2 ++ conversation
  obtain ⟨t, x, r, hquoted, hsent⟩ : ∃ t x, (system { type := .tcp }).Run t x ∧
      x.screen.filterMap Shown.quoted = [chars "early"] ∧
      ((submitted t).filterMap Mail.text).map (fun msg => msg.messageContent.val) =
        [chars "hey"] := by
    obtain ⟨x, es, hexec, hquoted, hsent⟩ : ∃ x es,
        Lts.exec (step { type := .tcp }) { program := .initial { type := .tcp } } actions =
          some (x, es) ∧ x.screen.filterMap Shown.quoted = [chars "early"] ∧
        ((submitted es).filterMap Mail.text).map (fun msg => msg.messageContent.val) =
          [chars "hey"] := ⟨_, _, rfl, rfl, rfl⟩
    exact ⟨es, x, run_of_exec (.init rfl) actions hexec, hquoted, hsent⟩
  exact ⟨t, x, r, hquoted, hsent, sent_or_quoted r⟩

end Terminal

end ChatClient

import ChatClient.Program

/-!
# The end of the input

`StdinListener` writes the lines of standard input to a pipe and then a byte to the signal pipe; the
listener reads the two in any order in which `epoll_wait` reports them (`Console.system`).  A signal
that is read while there is input in the pipe overtakes it (`end_overtakes`); otherwise, as long as
every `read` ends at the end of a line, the mails of all lines are in the queue before the ERR that
stands for the signal (`input_before_end`).
-/

namespace ChatClient

open MailBox Outcome

/-! ## What a line yields -/

section Renumber

variable {username displayName secret channelID content : Bytes}

theorem AuthMessage.new_renumber {id : UInt16} {m : AuthMessage}
    (h : AuthMessage.new id username displayName secret = .ok m) (id' : UInt16) :
    AuthMessage.new id' username displayName secret = .ok { m with messageID := id' } := by
  obtain ⟨-, rfl, rfl, rfl⟩ := AuthMessage.new_eq_ok h
  exact AuthMessage.new_val ..

theorem JoinMessage.new_renumber {id : Int} {m : JoinMessage}
    (h : JoinMessage.new id channelID displayName = .ok m) (id' : Int) :
    JoinMessage.new id' channelID displayName = .ok { m with messageID := id' } := by
  obtain ⟨-, rfl, rfl⟩ := JoinMessage.new_eq_ok h
  exact JoinMessage.new_val ..

theorem TextMessage.new_renumber {id : Int} {m : TextMessage}
    (h : TextMessage.new id displayName content = .ok m) (id' : Int) :
    TextMessage.new id' displayName content = .ok { m with messageID := id' } := by
  obtain ⟨htoSend, -, rfl, rfl⟩ := TextMessage.new_eq_ok h
  rw [TextMessage.new_val, htoSend]

end Renumber

namespace MailBox

variable {mb₁ mb₂ mb₁' : MailBox}

/-- What `writeMail` makes of a line depends on the display name alone, ids apart. -/
theorem writeMailLine_congr (hd : mb₁.displayName = mb₂.displayName) {line : Bytes} {mail : Mail}
    {b : Bool} (h : mb₁.writeMailLine line {} = .ok (b, mail, mb₁')) :
    ∃ mail' mb₂', mb₂.writeMailLine line {} = .ok (b, mail', mb₂') ∧
      mail'.anonymous = mail.anonymous ∧ mb₁'.displayName = mb₂'.displayName := by
  simp only [writeMailLine, bind_eq_ok] at h ⊢
  obtain ⟨⟨command, iss⟩, hc, h⟩ := h
  simp only [hc, Except.ok.injEq, exists_eq_left', ← hd]
  split_ifs at h ⊢
  · -- `/auth`
    simp only [bind_eq_ok] at h
    obtain ⟨⟨u, s₁⟩, hu, ⟨s, s₂⟩, hs, ⟨d, s₃⟩, hdn, authMsg, hm, h⟩ := h
    cases h
    simp only [hu, hs, hdn, AuthMessage.new_renumber hm mb₂.sequenceUDPNumber, bind, Except.bind]
    exact ⟨_, _, rfl, rfl, rfl⟩
  · -- `/join`
    simp only [bind_eq_ok] at h
    obtain ⟨⟨c, s₁⟩, hch, joinMsg, hm, h⟩ := h
    cases h
    simp only [hch, JoinMessage.new_renumber hm mb₂.sequenceUDPNumber.toNat, bind, Except.bind]
    exact ⟨_, _, rfl, rfl, hd⟩
  · -- `/rename`
    simp only [bind_eq_ok] at h
    obtain ⟨⟨d, s₁⟩, hdn, h⟩ := h
    cases h
    simp only [hdn, bind, Except.bind]
    exact ⟨_, _, rfl, rfl, rfl⟩
  · cases h
    exact ⟨_, _, rfl, rfl, hd⟩
  · cases h
    exact ⟨_, _, rfl, rfl, hd⟩
  · simp only [bind_eq_ok] at h
    obtain ⟨textMsg, hm, h⟩ := h
    cases h
    simp only [TextMessage.new_renumber hm mb₂.sequenceUDPNumber.toNat, bind, Except.bind]
    exact ⟨_, _, rfl, rfl, hd⟩

theorem enterLine_congr (hd : mb₁.displayName = mb₂.displayName) {line : Bytes}
    (h : enterLine mb₁ line = .ok mb₁') :
    ∃ mb₂', enterLine mb₂ line = .ok mb₂' ∧ mb₁'.displayName = mb₂'.displayName ∧
      ∃ new₁ new₂, mb₁'.incomingMails = mb₁.incomingMails ++ new₁ ∧
        mb₂'.incomingMails = mb₂.incomingMails ++ new₂ ∧
        new₁.map Mail.anonymous = new₂.map Mail.anonymous := by
  rw [enterLine, bind_eq_ok] at h
  obtain ⟨⟨written, mail, mb⟩, hwrite, h⟩ := h
  obtain ⟨mail', mb', hwrite', hmail, hname⟩ := writeMailLine_congr hd hwrite
  dsimp only at h
  split_ifs at h with hw
  subst hw
  cases h
  have hin := congrArg incomingMails (writeMailLine_mailbox hwrite)
  have hin' := congrArg incomingMails (writeMailLine_mailbox hwrite')
  have hq : mail'.addToMailQueue = mail.addToMailQueue := by
    change mail'.anonymous.addToMailQueue = mail.anonymous.addToMailQueue
    rw [hmail]
  refine ⟨mb'.addMail mail', ?_, ?_, ?_⟩
  · rw [enterLine, hwrite']
    rfl
  · unfold addMail
    split_ifs <;> exact hname
  · unfold addMail
    rw [hq]
    split_ifs
    · exact ⟨[], [], by rw [hin, List.append_nil], by rw [hin', List.append_nil], rfl⟩
    · exact ⟨[mail], [mail'], by rw [hin], by rw [hin'], by
        rw [List.map_singleton, List.map_singleton, hmail]⟩

theorem enterLines_congr (hd : mb₁.displayName = mb₂.displayName) {lines : List Bytes}
    (h : lines.foldlM enterLine mb₁ = .ok mb₁') :
    ∃ mb₂', lines.foldlM enterLine mb₂ = .ok mb₂' ∧ mb₁'.displayName = mb₂'.displayName ∧
      ∃ new₁ new₂, mb₁'.incomingMails = mb₁.incomingMails ++ new₁ ∧
        mb₂'.incomingMails = mb₂.incomingMails ++ new₂ ∧
        new₁.map Mail.anonymous = new₂.map Mail.anonymous := by
  induction lines generalizing mb₁ mb₂ with
  | nil =>
    cases h
    exact ⟨mb₂, rfl, hd, [], [], by rw [List.append_nil], by rw [List.append_nil], rfl⟩
  | cons line lines ih =>
    rw [List.foldlM_cons, bind_eq_ok] at h
    obtain ⟨mb, hline, h⟩ := h
    obtain ⟨mb', hline', hname, a₁, a₂, ha₁, ha₂, ha⟩ := enterLine_congr hd hline
    obtain ⟨mb₂', hlines, hname', b₁, b₂, hb₁, hb₂, hb⟩ := ih hname h
    refine ⟨mb₂', ?_, hname', a₁ ++ b₁, a₂ ++ b₂, ?_, ?_, ?_⟩
    · rw [List.foldlM_cons, hline']
      exact hlines
    · rw [hb₁, ha₁, List.append_assoc]
    · rw [hb₂, ha₂, List.append_assoc]
    · rw [List.map_append, List.map_append, ha, hb]

end MailBox

/-! ## The client without its input -/

namespace Client

variable {connection : NetworkConnection} {s s' : Client} {es : List Event}

/-- `listenSignal` enters mails that stand for a signal. -/
theorem listenSignal_step {received : Option Bytes}
    (h : s.step connection (.listenSignal received) = some (s', es)) : typed es = [] := by
  unfold step at h
  split_ifs at h
  simp only [listenSignal] at h
  split at h
  · obtain ⟨e, rfl, rfl⟩ | ⟨⟨l', mb'⟩, hok, hk⟩ := attempt_cases h
    · rfl
    · cases hk
      exact typed_signal fun mail hm => (listenSignal_new hok mail hm).1.2
  · cases h

/-- `listenStdin` enters the mails of the lines it reads, or it throws. -/
theorem listenStdin_step {received : Option Bytes}
    (h : s.step connection (.listenStdin received) = some (s', es)) :
    (es = [] ∧ s'.failure ≠ none) ∨
      (ChatClient.listenStdin s.mailbox received = .ok s'.mailbox ∧
        es = (newMails s.mailbox s'.mailbox).map .entered ∧
        ∀ mail ∈ newMails s.mailbox s'.mailbox, mail.sigint = false) := by
  unfold step at h
  split_ifs at h
  simp only [listenStdin] at h
  split at h
  · obtain ⟨e, rfl, rfl⟩ | ⟨mb, hok, hk⟩ := attempt_cases h
    · exact .inl ⟨rfl, by simp⟩
    · cases hk
      exact .inr ⟨hok, rfl, fun mail hm => (listenStdin_new hok mail hm).1.kind.1⟩
  · cases h

end Client

namespace Program

variable {connection : NetworkConnection} {p p' : Program} {es : List Event}

theorem listener_action {action : ChatClient.Action}
    (h : p.step connection (.listener action) = some (p', es)) :
    p.client.step connection action = some (p'.client, es) := by
  unfold step at h
  split_ifs at h
  simp only at h
  split_ifs at h
  obtain ⟨⟨client, es⟩, hc, h⟩ := Option.bind_eq_some_iff.1 h
  cases h
  exact hc

/-- The main thread does nothing to the client, or it takes an action of the FSM thread. -/
theorem main_action (h : p.step connection .main = some (p', es)) :
    (es = [] ∧ p'.client = p.client) ∨
      ∃ a, a.byListener = false ∧ p.client.step connection a = some (p'.client, es) := by
  unfold step at h
  split_ifs at h
  simp only [mainStep] at h
  split at h
  · split_ifs at h
    · cases h
      exact .inl ⟨rfl, rfl⟩
    · obtain ⟨⟨x, mb⟩, -, h⟩ := Option.bind_eq_some_iff.1 h
      obtain ⟨⟨client, es⟩, hc, h⟩ := Option.bind_eq_some_iff.1 h
      refine .inr ⟨.waitMail, rfl, ?_⟩
      rcases x with e | mail
      · cases h
        exact hc
      · cases h
        exact hc
    · simp only [turn] at h
      split at h
      · split_ifs at h
        · obtain ⟨⟨client, es⟩, hc, h⟩ := Option.bind_eq_some_iff.1 h
          cases h
          exact .inr ⟨_, rfl, hc⟩
        · cases h
          exact .inl ⟨rfl, rfl⟩
      · cases h
        exact .inl ⟨rfl, rfl⟩
      · cases h
        exact .inl ⟨rfl, rfl⟩
  · simp only [resume] at h
    split at h
    · obtain ⟨⟨client, es⟩, hc, h⟩ := Option.bind_eq_some_iff.1 h
      cases h
      exact .inr ⟨_, rfl, hc⟩
    · obtain ⟨⟨client, es⟩, hc, h⟩ := Option.bind_eq_some_iff.1 h
      cases h
      exact .inr ⟨_, rfl, hc⟩
    · cases h
      exact .inl ⟨rfl, rfl⟩
  · obtain ⟨⟨client, es⟩, hc, h⟩ := Option.bind_eq_some_iff.1 h
    cases h
    exact .inr ⟨_, rfl, hc⟩
  · cases h
  · cases h

end Program

/-! ## The pipes -/

/-- The program and what lies between it and the user. -/
structure Console where
  program : Program
  /-- the lines that `std::getline` has yet to return -/
  input : List Bytes
  /-- what `Pipe::write` has yet to write -/
  unwritten : Bytes := []
  stdinPipe : Bytes := []
  /-- bytes in the signal pipe -/
  signalPipe : ℕ := 0
  /-- `StdinListener::runListener` has left its loop -/
  ended : Bool := false
deriving DecidableEq

namespace Console

inductive Action
  | getline
  | write (n : ℕ)
  | readStdin (n : ℕ)
  | readSignal
  | program (action : Program.Action)

/-- What a run shows. -/
inductive Event
  /-- `listenStdin` read the data -/
  | read (data : Bytes)
  /-- `listenSignal` read a byte while there was some input in the other pipe -/
  | signalled (unread : Bytes)
  | program (e : ChatClient.Event)
deriving DecidableEq

def initial (connection : NetworkConnection) (lines : List Bytes) : Console where
  program := .initial connection
  input := lines

/-- `StdinListener::runListener` gets a line, or finds the end of the input. -/
def getline (c : Console) : Option (Console × List Event) :=
  if c.ended = true ∨ c.unwritten ≠ [] then none
  else
    match c.input with
    | line :: rest => some ({ c with input := rest, unwritten := line ++ [lf] }, [])
    | [] => some ({ c with signalPipe := c.signalPipe + 1, ended := true }, [])

/-- A part of what `Pipe::write` writes; what fits in `PIPE_BUF` is written at once. -/
def write (c : Console) (n : ℕ) : Option (Console × List Event) :=
  if c.unwritten = [] then none
  else some ({ c with
    unwritten := c.unwritten.drop n
    stdinPipe := c.stdinPipe ++ c.unwritten.take n }, [])

variable (connection : NetworkConnection)

/-- `listenStdin` reads some of what is in the pipe. -/
def readStdin (c : Console) (n : ℕ) : Option (Console × List Event) :=
  if 0 < n ∧ n ≤ 1023 ∧ n ≤ c.stdinPipe.length then do
    let data := c.stdinPipe.take n
    let (program, es) ← c.program.step connection (.listener (.listenStdin (some data)))
    return ({ c with program, stdinPipe := c.stdinPipe.drop n }, .read data :: es.map .program)
  else none

/-- `listenSignal` reads one byte. -/
def readSignal (c : Console) : Option (Console × List Event) :=
  if 0 < c.signalPipe then do
    let (program, es) ← c.program.step connection (.listener (.listenSignal (some (chars "1"))))
    return ({ c with program, signalPipe := c.signalPipe - 1 },
      .signalled c.stdinPipe :: es.map .program)
  else none

/-- The reads of the two pipes have actions of their own, and `epoll_wait` reports a pipe when there is
something in it. -/
def allows (c : Console) : Program.Action → Bool
  | .listener (.listenStdin _) | .listener (.listenSignal _) => false
  | .listener (.epollWait (.ready fds) _) =>
    (!fds.contains .stdinPipe || c.stdinPipe != []) &&
      (!fds.contains .signalPipe || c.signalPipe != 0)
  | _ => true

def step (c : Console) : Action → Option (Console × List Event)
  | .getline => c.getline
  | .write n => c.write n
  | .readStdin n => c.readStdin connection n
  | .readSignal => c.readSignal connection
  | .program action =>
    if c.allows action then do
      let (program, es) ← c.program.step connection action
      return ({ c with program }, es.map .program)
    else none

/-- The program with `StdinListener` and its pipes, for some input. -/
def system (lines : List Bytes) : Lts Console Event where
  init c := c = initial connection lines
  step c es c' := ∃ action, c.step connection action = some (c', es)

/-- What a step can do. -/
inductive Transition : Console → List Event → Console → Prop
  | getline (c) {line rest} (he : c.ended = false) (hu : c.unwritten = [])
      (hi : c.input = line :: rest) :
      Transition c [] { c with input := rest, unwritten := line ++ [lf] }
  | finish (c) (he : c.ended = false) (hu : c.unwritten = []) (hi : c.input = []) :
      Transition c [] { c with signalPipe := c.signalPipe + 1, ended := true }
  | write (c) (n : ℕ) (hu : c.unwritten ≠ []) :
      Transition c []
        { c with
          unwritten := c.unwritten.drop n
          stdinPipe := c.stdinPipe ++ c.unwritten.take n }
  | readStdin (c) {data rest program es} (hd : data ≠ []) (hlen : data.length ≤ 1023)
      (hp : c.stdinPipe = data ++ rest)
      (h : c.program.step connection (.listener (.listenStdin (some data))) = some (program, es)) :
      Transition c (.read data :: es.map .program) { c with program, stdinPipe := rest }
  | readSignal (c) {program es} (hs : 0 < c.signalPipe)
      (h : c.program.step connection (.listener (.listenSignal (some (chars "1")))) =
        some (program, es)) :
      Transition c (.signalled c.stdinPipe :: es.map .program)
        { c with program, signalPipe := c.signalPipe - 1 }
  | program (c) {action program es} (ha : c.allows action = true)
      (h : c.program.step connection action = some (program, es)) :
      Transition c (es.map .program) { c with program }

variable {connection} {lines : List Bytes} {t es : List Event} {c c' : Console}

theorem transition (h : (system connection lines).step c es c') : Transition connection c es c' := by
  obtain ⟨action, h⟩ := h
  cases action with
  | getline =>
    simp only [step, getline] at h
    split_ifs at h with hn
    obtain ⟨he, hu⟩ := not_or.1 hn
    rw [not_not] at hu
    rw [Bool.not_eq_true] at he
    split at h
    · next hi =>
      cases h
      exact .getline c he hu hi
    · next hi =>
      cases h
      exact .finish c he hu hi
  | write n =>
    simp only [step, write] at h
    split_ifs at h with hu
    cases h
    exact .write c n hu
  | readStdin n =>
    simp only [step, readStdin] at h
    split_ifs at h with hn
    obtain ⟨hpos, hle, hlen⟩ := hn
    obtain ⟨⟨program, es⟩, hstep, h⟩ := Option.bind_eq_some_iff.1 h
    cases h
    have htake : (c.stdinPipe.take n).length = n := List.length_take_of_le hlen
    exact .readStdin c (List.ne_nil_of_length_pos (by omega)) (by omega)
      (List.take_append_drop n _).symm hstep
  | readSignal =>
    simp only [step, readSignal] at h
    split_ifs at h with hs
    obtain ⟨⟨program, es⟩, hstep, h⟩ := Option.bind_eq_some_iff.1 h
    cases h
    exact .readSignal c hs hstep
  | program action =>
    simp only [step] at h
    split_ifs at h with ha
    obtain ⟨⟨program, es⟩, hstep, h⟩ := Option.bind_eq_some_iff.1 h
    cases h
    exact .program c ha hstep

/-! ## What was read -/

/-- What `listenStdin` read. -/
def reads (t : List Event) : List Bytes := t.filterMap fun | .read data => some data | _ => none

def programEvent : Event → Option ChatClient.Event
  | .program e => some e
  | _ => none

/-- The events of the program. -/
def programEvents (t : List Event) : List ChatClient.Event := t.filterMap programEvent

@[simp] theorem reads_append (t u : List Event) : reads (t ++ u) = reads t ++ reads u :=
  List.filterMap_append

@[simp] theorem programEvents_append (t u : List Event) :
    programEvents (t ++ u) = programEvents t ++ programEvents u := List.filterMap_append

@[simp] theorem reads_program (es : List ChatClient.Event) : reads (es.map .program) = [] := by
  rw [reads, List.filterMap_map, List.filterMap_eq_nil_iff]
  intro e _
  rfl

@[simp] theorem programEvents_program (es : List ChatClient.Event) :
    programEvents (es.map .program) = es := by
  rw [programEvents, List.filterMap_map]
  exact List.filterMap_some

theorem program_simulation :
    (system connection lines).Simulation (Program.system connection) (fun c => c.program)
      programEvent where
  init := by
    rintro c rfl
    rfl
  step := by
    intro t c es c' _ _ h
    replace h := transition h
    cases h with
    | getline | finish | write => exact .refl _
    | @readStdin data rest program es hd hlen hp h =>
      have hes : (Event.read data :: es.map .program).filterMap programEvent = es :=
        programEvents_program es
      rw [hes]
      exact .single ⟨_, h⟩
    | @readSignal program es hs h =>
      have hes : (Event.signalled c.stdinPipe :: es.map .program).filterMap programEvent = es :=
        programEvents_program es
      rw [hes]
      exact .single ⟨_, h⟩
    | @program action program es ha h =>
      have hes : (es.map Event.program).filterMap programEvent = es := programEvents_program es
      rw [hes]
      exact .single ⟨_, h⟩

theorem program_run (r : (system connection lines).Run t c) :
    (Program.system connection).Run (programEvents t) c.program :=
  program_simulation.run r

/-- The bytes of the lines are in order: read, in the pipe, about to be written, or still to come. -/
structure Ledger (lines : List Bytes) (t : List Event) (c : Console) : Prop where
  bytes : (reads t).flatten ++ (c.stdinPipe ++ (c.unwritten ++ stdinStream c.input)) =
    stdinStream lines
  bounded : ∀ data ∈ reads t, data ≠ [] ∧ data.length ≤ 1023
  ended : c.ended = true → c.unwritten = [] ∧ c.input = []
  signals : 0 < c.signalPipe → c.ended = true

theorem ledger (r : (system connection lines).Run t c) : Ledger lines t c := by
  apply r.invariant
  · rintro c rfl
    exact ⟨rfl, by simp [reads], by simp [initial], by simp [initial]⟩
  · intro t c es c' _ ih h
    replace h := transition h
    cases h with
    | @getline line rest he hu hi =>
      refine ⟨?_, by simpa using ih.bounded, by simp [he], fun hs => ?_⟩
      · have hbytes := ih.bytes
        rw [hu, hi] at hbytes
        rw [List.append_nil]
        simpa [stdinStream, Records.join] using hbytes
      · rw [ih.signals hs] at he
        cases he
    | finish he hu hi =>
      exact ⟨by simpa using ih.bytes, by simpa using ih.bounded, fun _ => ⟨hu, hi⟩, fun _ => rfl⟩
    | write n hu =>
      refine ⟨?_, by simpa using ih.bounded, fun he => absurd (ih.ended he).1 hu, ih.signals⟩
      rw [List.append_nil, ← ih.bytes, List.append_assoc c.stdinPipe,
        ← List.append_assoc (c.unwritten.take n), List.take_append_drop]
    | @readStdin data rest program es hd hlen hp h =>
      have hreads : reads (.read data :: es.map .program) = [data] :=
        congrArg (data :: ·) (reads_program es)
      refine ⟨?_, ?_, ih.ended, ih.signals⟩
      · rw [reads_append, hreads, List.flatten_append, List.flatten_singleton, ← ih.bytes, hp,
          List.append_assoc, List.append_assoc]
      · intro d hm
        rw [reads_append, hreads] at hm
        rcases List.mem_append.1 hm with hm | hm
        · exact ih.bounded d hm
        · rw [List.mem_singleton.1 hm]
          exact ⟨hd, hlen⟩
    | @readSignal program es hs h =>
      have hreads : reads (.signalled c.stdinPipe :: es.map .program) = [] := reads_program es
      refine ⟨?_, ?_, ih.ended, fun _ => ih.signals hs⟩
      · rw [reads_append, hreads, List.append_nil]
        exact ih.bytes
      · rw [reads_append, hreads, List.append_nil]
        exact ih.bounded
    | program ha h =>
      refine ⟨?_, ?_, ih.ended, ih.signals⟩
      · rw [reads_append, reads_program, List.append_nil]
        exact ih.bytes
      · rw [reads_append, reads_program, List.append_nil]
        exact ih.bounded

/-! ## What was entered -/

/-- The program still runs when it takes a step. -/
theorem failure_of_step {p p' : Program} {action : Program.Action} {es : List ChatClient.Event}
    (h : p.step connection action = some (p', es)) : p.client.failure = none := by
  unfold Program.step at h
  split_ifs at h with hf
  exact not_not.1 (not_or.1 hf).2

/-- An action that reads nothing enters nothing. -/
theorem allowed_action {p p' : Program} {action : Program.Action} {es : List ChatClient.Event}
    (ha : c.allows action = true) (h : p.step connection action = some (p', es)) :
    (∀ mail, .entered mail ∉ es) ∧
      p'.client.mailbox.displayName = p.client.mailbox.displayName := by
  have hframe : ∀ a, (∀ received, a ≠ .listenStdin received) →
      (∀ received, a ≠ .listenSignal received) →
      p.client.step connection a = some (p'.client, es) → (∀ mail, .entered mail ∉ es) ∧
        p'.client.mailbox.displayName = p.client.mailbox.displayName := by
    intro a hstdin hsignal hstep
    obtain ⟨hshows, hname⟩ := Client.step_frame hstep
    refine ⟨fun mail hm => ?_, hname hstdin⟩
    have hs := hshows _ hm
    cases a with
    | listenStdin received => exact hstdin received rfl
    | listenSignal received => exact hsignal received rfl
    | _ => cases hs
  cases action with
  | main =>
    rcases Program.main_action h with ⟨rfl, heq⟩ | ⟨a, hby, hstep⟩
    · exact ⟨by simp, by rw [heq]⟩
    · refine hframe a ?_ ?_ hstep
      · rintro received rfl
        cases hby
      · rintro received rfl
        cases hby
  | listener a =>
    refine hframe a ?_ ?_ (Program.listener_action h)
    · rintro received rfl
      cases ha
    · rintro received rfl
      cases ha

/-- The mails entered are those that the lines found in the data read so far yield. -/
structure Taken (connection : NetworkConnection) (t : List Event) (c : Console) (mb : MailBox) :
    Prop where
  lines : ((reads t).flatMap stdinLines).foldlM enterLine (Client.initial connection).mailbox =
    .ok mb
  displayName : c.program.client.mailbox.displayName = mb.displayName
  mails : (typed (programEvents t)).map Mail.anonymous = mb.incomingMails.map Mail.anonymous

/-- A step in which `listenStdin` reads nothing. -/
theorem Taken.stutter {mb : MailBox} (h : Taken connection t c mb) (hr : reads es = [])
    (ht : typed (programEvents es) = [])
    (hd : c'.program.client.mailbox.displayName = c.program.client.mailbox.displayName) :
    Taken connection (t ++ es) c' mb := by
  refine ⟨?_, hd.trans h.displayName, ?_⟩
  · rw [reads_append, hr, List.append_nil]
    exact h.lines
  · rw [programEvents_append, typed_append, ht, List.append_nil]
    exact h.mails

theorem taken (r : (system connection lines).Run t c) (hf : c.program.client.failure = none) :
    ∃ mb, Taken connection t c mb := by
  revert hf
  apply r.invariant
    (I := fun t c => c.program.client.failure = none → ∃ mb, Taken connection t c mb)
  · rintro c rfl -
    exact ⟨_, rfl, rfl, rfl⟩
  · intro t c es c' _ ih h hf
    replace h := transition h
    cases h with
    | getline | finish | write =>
      obtain ⟨mb, hmb⟩ := ih hf
      exact ⟨mb, hmb.stutter rfl rfl rfl⟩
    | @readSignal program es hs h =>
      obtain ⟨mb, hmb⟩ := ih (failure_of_step h)
      have ht := Client.listenSignal_step (Program.listener_action h)
      have hd := (Client.step_frame (Program.listener_action h)).2 (by simp)
      have hes : programEvents (.signalled c.stdinPipe :: es.map .program) = es :=
        programEvents_program es
      exact ⟨mb, hmb.stutter (reads_program es) (by rw [hes, ht]) hd⟩
    | @program action program es ha h =>
      obtain ⟨mb, hmb⟩ := ih (failure_of_step h)
      obtain ⟨hn, hd⟩ := allowed_action ha h
      refine ⟨mb, hmb.stutter (reads_program es) ?_ hd⟩
      rw [programEvents_program, typed_eq_nil hn]
    | @readStdin data rest program es hd hlen hp h =>
      obtain ⟨mb, hmb⟩ := ih (failure_of_step h)
      obtain ⟨hok, hentered, hkind⟩ :=
        (Client.listenStdin_step (Program.listener_action h)).resolve_left fun hfail => hfail.2 hf
      have ht : typed es = newMails c.program.client.mailbox program.client.mailbox := by
        rw [hentered, typed_entered hkind]
      rw [listenStdin_eq _ hd hlen] at hok
      obtain ⟨mb', hok', hname, new, new', hnew, hnew', hsame⟩ :=
        enterLines_congr hmb.displayName hok
      have hreads : reads (.read data :: es.map .program) = [data] :=
        congrArg (data :: ·) (reads_program es)
      have hes : programEvents (.read data :: es.map .program) = es := programEvents_program es
      refine ⟨mb', ?_, hname, ?_⟩
      · rw [reads_append, hreads, List.flatMap_append, List.foldlM_append, hmb.lines,
          List.flatMap_singleton]
        exact hok'
      · rw [programEvents_append, hes, typed_append, ht, newMails_of_eq hnew, List.map_append,
          hmb.mails, hsame, hnew', List.map_append]

/-! ## The end of the input -/

/-- No `read` cuts a line, and a signal is read only when the pipe of standard input is empty. -/
structure Orderly (t : List Event) : Prop where
  whole : ∀ data, .read data ∈ t → data.getLast? = some lf
  drained : ∀ unread, .signalled unread ∈ t → unread = []

/-- The mails that stand for a signal are entered by `listenSignal`. -/
theorem signalled_of_entered (h : Transition connection c es c') {mail : Mail}
    {pre post : List Event} (hes : es = pre ++ .program (.entered mail) :: post)
    (hs : mail.sigint = true) :
    0 < c.signalPipe ∧ c.program.client.failure = none ∧ .signalled c.stdinPipe ∈ pre ∧
      typed (programEvents pre) = [] := by
  have hmem : .program (.entered mail) ∈ es := by
    rw [hes]
    exact List.mem_append_right _ List.mem_cons_self
  cases h with
  | getline | finish | write => cases hmem
  | @readStdin data rest program fs hd hlen hp h =>
    have hm : .entered mail ∈ fs := by simpa using hmem
    rcases Client.listenStdin_step (Program.listener_action h) with ⟨rfl, -⟩ | ⟨-, rfl, hkind⟩
    · cases hm
    · obtain ⟨m, hm, heq⟩ := List.mem_map.1 hm
      cases heq
      rw [hkind _ hm] at hs
      cases hs
  | @readSignal program fs hsig h =>
    refine ⟨hsig, failure_of_step h, ?_, ?_⟩
    · rcases List.cons_eq_append_iff.1 hes with ⟨-, hhead⟩ | ⟨pre', rfl, -⟩
      · cases hhead
      · exact List.mem_cons_self
    · have htyped : typed (programEvents (.signalled c.stdinPipe :: fs.map .program)) = [] := by
        have hfs : programEvents (.signalled c.stdinPipe :: fs.map .program) = fs :=
          programEvents_program fs
        rw [hfs]
        exact Client.listenSignal_step (Program.listener_action h)
      rw [hes, programEvents_append, typed_append] at htyped
      exact (List.append_eq_nil_iff.1 htyped).1
  | @program action program fs ha h =>
    have hm : .entered mail ∈ fs := by simpa using hmem
    exact absurd hm ((allowed_action ha h).1 mail)

theorem mem_of_mem_reads {data : Bytes} (h : data ∈ reads t) : .read data ∈ t := by
  obtain ⟨e, he, heq⟩ := List.mem_filterMap.1 h
  cases e with
  | read data' =>
    cases heq
    exact he
  | signalled | program => cases heq

/-- Once the input has ended and was read to the end, in whole lines, the lines that `listenStdin`
found are the lines of the input. -/
theorem reads_eq_lines (r : (system connection lines).Run t c) (hl : ∀ line ∈ lines, lf ∉ line)
    (he : c.ended = true) (hp : c.stdinPipe = [])
    (hwhole : ∀ data ∈ reads t, data.getLast? = some lf) :
    (reads t).flatMap stdinLines = lines.filter (· ≠ []) := by
  have hk := ledger r
  obtain ⟨hu, hi⟩ := hk.ended he
  have hbytes := hk.bytes
  rw [hp, hu, hi] at hbytes
  have hcut : (reads t).flatten = stdinStream lines := by
    rw [← hbytes]
    simp [stdinStream, Records.join]
  exact (Records.flatMap_complete_eq_iff hl (fun data hd => (hk.bounded data hd).1) hcut).2 hwhole

/-- In every run in which no `read` cuts a line and the signal is read only when the pipe of standard
input is empty: before the ERR that stands for the signal is entered, the mails of all lines have been
entered, in order; their ids, which `sendMail` replaces, apart. -/
theorem input_before_end (r : (system connection lines).Run t c) (hl : ∀ line ∈ lines, lf ∉ line)
    (ho : Orderly t) {pre post : List Event} {err : Mail}
    (h : t = pre ++ .program (.entered err) :: post) (herr : err.sigint = true) :
    ∃ mb, (lines.filter (· ≠ [])).foldlM enterLine (Client.initial connection).mailbox = .ok mb ∧
      (typed (programEvents pre)).map Mail.anonymous = mb.incomingMails.map Mail.anonymous := by
  obtain ⟨t₀, c₀, es, c₁, pre', post', r₀, hstep, rfl, hes⟩ := r.exists_step h
  obtain ⟨hsig, hf, hmem, htyped⟩ := signalled_of_entered (transition hstep) hes herr
  obtain ⟨mb, hmb⟩ := taken r₀ hf
  have hdrained : c₀.stdinPipe = [] := by
    apply ho.drained _
    rw [h]
    exact List.mem_append_left _ (List.mem_append_right _ hmem)
  have hwhole : ∀ data ∈ reads t₀, data.getLast? = some lf := by
    intro data hd
    apply ho.whole data
    rw [h]
    exact List.mem_append_left _ (List.mem_append_left _ (mem_of_mem_reads hd))
  have hlines := reads_eq_lines r₀ hl ((ledger r₀).signals hsig) hdrained hwhole
  refine ⟨mb, ?_, ?_⟩
  · rw [← hlines]
    exact hmb.lines
  · rw [programEvents_append, typed_append, htyped, List.append_nil]
    exact hmb.mails

/-- The user enters a command and ends the input; both pipes are reported at once, in this order. -/
def oneLine (fds : List FdType) : List Action :=
  [.getline, .write 17, .getline, .program (.listener .loopHead),
    .program (.listener (.epollWait (.ready fds) 0))]

theorem run_actions {lines : List Bytes} {t es : List Event} {c c' : Console}
    (r : (system connection lines).Run t c) (actions : List Action)
    (h : Lts.exec (step connection) c actions = some (c', es)) :
    (system connection lines).Run (t ++ es) c' := by
  have hstep : ∀ {c action c' es}, step connection c action = some (c', es) →
      (system connection lines).step c es c' := fun h => ⟨_, h⟩
  exact r.exec hstep actions h

/-- The command is read first. -/
theorem input_before_end_one :
    ∃ pre err c, (system { type := .tcp } [chars "/auth ann pw ann"]).Run
        (pre ++ [.program (.entered err)]) c ∧ err.sigint = true ∧
      ∃ mb, ([chars "/auth ann pw ann"].filter (· ≠ [])).foldlM enterLine
          (Client.initial { type := .tcp }).mailbox = .ok mb ∧
        (typed (programEvents pre)).map Mail.anonymous = mb.incomingMails.map Mail.anonymous := by
  obtain ⟨t, err, c, r, hreads, hsignals, herr⟩ : ∃ t err c,
      (system { type := .tcp } [chars "/auth ann pw ann"]).Run
        (t ++ [.signalled [], .program (.entered err)]) c ∧
      reads t = [chars "/auth ann pw ann\n"] ∧
      t.filterMap (fun | .signalled unread => some unread | _ => none) = [] ∧ err.sigint = true :=
    ⟨_, _, _, run_actions (run_actions (.init rfl)
      (oneLine [.stdinPipe, .signalPipe] ++ [.readStdin 17]) rfl) [.readSignal] rfl,
      rfl, rfl, rfl⟩
  have ho : Orderly (t ++ [.signalled [], .program (.entered err)]) := by
    refine ⟨fun data hm => ?_, fun unread hm => ?_⟩
    · have hd : data ∈ reads t := List.mem_filterMap.2 ⟨_, by simpa using hm, rfl⟩
      rw [hreads, List.mem_singleton] at hd
      rw [hd]
      rfl
    · rcases List.mem_append.1 hm with hm | hm
      · cases List.filterMap_eq_nil_iff.1 hsignals _ hm
      · simpa using hm
  have hsplit : t ++ [.signalled [], .program (.entered err)] =
      (t ++ [.signalled []]) ++ .program (.entered err) :: [] := by simp
  exact ⟨t ++ [.signalled []], err, c, by simpa using r, herr,
    input_before_end r (by decide) ho hsplit herr⟩

/-- The signal is read first: the AUTH is in the queue behind the ERR, and `FSM::run` never takes it. -/
theorem end_overtakes :
    ∃ pre err post c,
      (system { type := .tcp } [chars "/auth ann pw ann"]).Run
        (pre ++ .program (.entered err) :: post) c ∧
      err.sigint = true ∧ typed (programEvents pre) = [] ∧
      (typed (programEvents post)).map Mail.type = [some .auth] ∧
      (submitted (programEvents post)).map Mail.type = [some .bye] ∧
      c.program.main = .stopped := by
  obtain ⟨t, u, err, post, c, r, h⟩ : ∃ t u err post c,
      (system { type := .tcp } [chars "/auth ann pw ann"]).Run
        (t ++ [.signalled u, .program (.entered err)] ++ post) c ∧
      err.sigint = true ∧ typed (programEvents (t ++ [.signalled u])) = [] ∧
      (typed (programEvents post)).map Mail.type = [some .auth] ∧
      (submitted (programEvents post)).map Mail.type = [some .bye] ∧
      c.program.main = .stopped :=
    ⟨_, _, _, _, _, run_actions (run_actions (run_actions (.init rfl)
      (oneLine [.signalPipe, .stdinPipe]) rfl) [.readSignal] rfl)
      (.readStdin 17 :: (Program.mainThread 7).map .program) rfl, rfl, rfl, rfl, rfl, rfl⟩
  exact ⟨t ++ [.signalled u], err, post, c, by simpa using r, h⟩

end Console

end ChatClient

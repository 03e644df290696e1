import ChatClient.Console
import ChatClient.Retries
import ChatClient.Server
import ChatClient.Terminal

/-!
# Client and server

The program in UDP mode together with the test server, over a network that loses, duplicates, delays
and reorders datagrams and makes up none (`World.system`): whatever the one has sent may reach the other
at any later time, any number of times or never.  The server answers in `listen_for_message`, which
takes the first 1024 bytes of a datagram, and sends whatever else the tests queue, no CONFIRM among it.
-/

namespace ChatClient

open MailBox

/-- What `recvfrom` returns to the client in an action. -/
def Program.Action.datagram : Program.Action → Option Bytes
  | .listener (.listenSocket received) => received
  | _ => none

namespace Program

variable {connection : NetworkConnection} {p p' : Program} {es : List Event}

/-- What a step receives is the datagram of its action. -/
theorem datagram_of_received {action : Action} (h : p.step connection action = some (p', es))
    {datagram : Bytes} {mail : Mail} {delivered : Bool}
    (hm : .received datagram mail delivered ∈ es) : action.datagram = some datagram := by
  cases action with
  | main =>
    -- the main thread receives nothing
    rcases main_action h with ⟨rfl, -⟩ | ⟨action, ha, hc⟩
    · cases hm
    · have hshows := (Client.step_frame hc).1 _ hm
      cases action with
      | listenSocket received => cases ha
      | _ => cases hshows
  | listener action =>
    have hc := listener_action h
    generalize p'.client = client at hc
    have hshows := (Client.step_frame hc).1 _ hm
    cases action with
    | listenSocket received =>
      simp only [Client.step, Client.listenSocket] at hc
      split_ifs at hc
      split at hc
      · obtain ⟨e, rfl, rfl⟩ | ⟨res, hok, hk⟩ := Client.attempt_cases hc
        · cases hm
        · cases hk
          obtain rfl : datagram = received.getD [] := by
            rcases List.mem_cons.1 hm with heq | hm
            · cases heq
              rfl
            · simp at hm
          rcases received with _ | datagram
          · rw [listenSocket_none] at hok
            cases hok
          · rfl
      · cases hc
    | _ => cases hshows

end Program

structure World where
  program : Program
  /-- what the main thread has printed -/
  screen : List Shown := []
  /-- the datagrams the client has sent -/
  sent : List Bytes := []
  /-- what `recvfrom` has returned to the server -/
  received : List Bytes := []
  /-- the datagrams the server has sent -/
  served : List Bytes := []

namespace World

/-- Whether a datagram was sent is decided by comparing bytes. -/
instance : LawfulBEq Bytes := inferInstanceAs (LawfulBEq (List Byte))

inductive Action
  | client (action : Program.Action)
  | listenForMessage (datagram : Bytes)
  | sendMessage (message : Server.Message)

inductive Event
  | client (e : ChatClient.Event)
  | arrived (data : Bytes)
  | served (message : Server.Message)
deriving DecidableEq

/-- The datagram that the client sends with an event. -/
def sentEvent : ChatClient.Event → Option Bytes
  | .transmitted _ bytes | .retransmitted _ bytes | .answered _ bytes => some bytes
  | _ => none

variable (connection : NetworkConnection)

/-- The state in which the client starts, with the server running. -/
def initial : World where
  program := .initial connection

/-- One of the threads of the client does something, and receives nothing that was not sent. -/
def client (w : World) (action : Program.Action) : Option (World × List Event) :=
  if ∀ datagram ∈ action.datagram, datagram ∈ w.served then do
    let (program, es) ← w.program.step connection action
    let screen := w.screen ++ w.program.shown action
    return ({ w with program, screen, sent := w.sent ++ es.filterMap sentEvent }, es.map .client)
  else none

/-- `listen_for_message`; the server takes at most 1024 bytes. -/
def listenForMessage (w : World) (datagram : Bytes) : Option (World × List Event) :=
  if datagram ∈ w.sent then
    let data := datagram.take 1024
    let answer := (Server.listenForMessage data).toList
    some ({ w with
        received := w.received ++ [data], served := w.served ++ answer.map Server.sendUdpMessage },
      .arrived data :: answer.map .served)
  else none

/-- `send_message` for a message that was queued.  The tests queue no CONFIRM; one that no datagram asked
for would tell the client that something had arrived. -/
def sendMessage (w : World) (message : Server.Message) : Option (World × List Event) :=
  if message.type ≠ .confirm then
    some ({ w with served := w.served ++ [Server.sendUdpMessage message] }, [.served message])
  else none

def step (w : World) : Action → Option (World × List Event)
  | .client action => w.client connection action
  | .listenForMessage datagram => w.listenForMessage datagram
  | .sendMessage message => w.sendMessage message

def system : Lts World Event where
  init w := w = initial connection
  step w es w' := ∃ action, w.step connection action = some (w', es)

/-! ## What a step can do -/

inductive Transition : World → List Event → World → Prop
  | client {w : World} {action program es} (hd : ∀ datagram ∈ action.datagram, datagram ∈ w.served)
      (h : w.program.step connection action = some (program, es)) :
      Transition w (es.map .client)
        { w with
          program
          screen := w.screen ++ w.program.shown action
          sent := w.sent ++ es.filterMap sentEvent }
  | listenForMessage {w : World} {datagram : Bytes} (hd : datagram ∈ w.sent) :
      Transition w
        (.arrived (datagram.take 1024) ::
          (Server.listenForMessage (datagram.take 1024)).toList.map .served)
        { w with
          received := w.received ++ [datagram.take 1024]
          served := w.served ++
            (Server.listenForMessage (datagram.take 1024)).toList.map Server.sendUdpMessage }
  | sendMessage {w : World} {message : Server.Message} (ht : message.type ≠ .confirm) :
      Transition w [.served message]
        { w with served := w.served ++ [Server.sendUdpMessage message] }

variable {connection} {w w' : World} {t es : List Event}

theorem transition (h : (system connection).step w es w') : Transition connection w es w' := by
  obtain ⟨action, h⟩ := h
  cases action with
  | client action =>
    simp only [step, client] at h
    split_ifs at h with hd
    obtain ⟨⟨program, es⟩, hp, h⟩ := Option.bind_eq_some_iff.1 h
    cases h
    exact .client hd hp
  | listenForMessage datagram =>
    simp only [step, listenForMessage] at h
    split_ifs at h with hd
    cases h
    exact .listenForMessage hd
  | sendMessage message =>
    simp only [step, sendMessage] at h
    split_ifs at h with ht
    cases h
    exact .sendMessage ht

theorem run_of_exec (r : (system connection).Run t w) (actions : List Action)
    (h : Lts.exec (step connection) w actions = some (w', es)) :
    (system connection).Run (t ++ es) w' := by
  apply r.exec _ actions h
  intro w action w' es h
  exact ⟨action, h⟩

/-! ## The client in a run -/

def clientEvent : Event → Option ChatClient.Event
  | .client e => some e
  | _ => none

/-- What the client shows. -/
def clientTrace (t : List Event) : List ChatClient.Event := t.filterMap clientEvent

/-- What the server has received. -/
def arrivals (t : List Event) : List Bytes :=
  t.filterMap fun | .arrived data => some data | _ => none

/-- The messages the server has sent. -/
def messages (t : List Event) : List Server.Message :=
  t.filterMap fun | .served message => some message | _ => none

@[simp] theorem clientTrace_append (t u : List Event) :
    clientTrace (t ++ u) = clientTrace t ++ clientTrace u := List.filterMap_append

@[simp] theorem arrivals_append (t u : List Event) : arrivals (t ++ u) = arrivals t ++ arrivals u :=
  List.filterMap_append

@[simp] theorem messages_append (t u : List Event) : messages (t ++ u) = messages t ++ messages u :=
  List.filterMap_append

@[simp] theorem clientTrace_client (es : List ChatClient.Event) :
    clientTrace (es.map .client) = es := by
  rw [clientTrace, List.filterMap_map]
  exact List.filterMap_some

@[simp] theorem arrivals_client (es : List ChatClient.Event) : arrivals (es.map .client) = [] := by
  simp [arrivals, List.filterMap_map]

@[simp] theorem messages_client (es : List ChatClient.Event) : messages (es.map .client) = [] := by
  simp [messages, List.filterMap_map]

section Answer

variable (data : Bytes) (answers : List Server.Message)

@[simp] theorem clientTrace_answer :
    clientTrace (.arrived data :: answers.map .served) = [] := by
  simp [clientTrace, clientEvent]

@[simp] theorem arrivals_answer : arrivals (.arrived data :: answers.map .served) = [data] := by
  simp [arrivals, List.filterMap_map]

@[simp] theorem messages_answer : messages (.arrived data :: answers.map .served) = answers := by
  simp [messages, List.filterMap_map]

end Answer

/-- The state is what the trace tells. -/
structure Recorded (t : List Event) (w : World) : Prop where
  sent : w.sent = (clientTrace t).filterMap sentEvent
  received : w.received = arrivals t
  served : w.served = (messages t).map Server.sendUdpMessage

theorem Recorded.step (hr : Recorded t w) (h : Transition connection w es w') :
    Recorded (t ++ es) w' := by
  obtain ⟨hs, hc, hv⟩ := hr
  cases h with
  | client hd h => exact ⟨by simp [hs], by simp [hc], by simp [hv]⟩
  | listenForMessage hd =>
    refine ⟨?_, ?_, ?_⟩
    · rw [clientTrace_append, clientTrace_answer, List.append_nil, hs]
    · rw [arrivals_append, arrivals_answer, hc]
    · rw [messages_append, messages_answer, List.map_append, hv]
  | @sendMessage message ht =>
    have hnone : clientTrace [.served message] = [] := rfl
    refine ⟨?_, ?_, ?_⟩
    · rw [clientTrace_append, hnone, List.append_nil, hs]
    · rw [arrivals_append, hc]
      exact (List.append_nil _).symm
    · rw [messages_append, List.map_append, hv]
      rfl

theorem recorded (r : (system connection).Run t w) : Recorded t w := by
  apply r.invariant
  · rintro w rfl
    exact ⟨rfl, rfl, rfl⟩
  · intro t w es w' _ ih h
    exact ih.step (transition h)

/-- The client with what it has printed. -/
def terminal (w : World) : Terminal := ⟨w.program, w.screen⟩

theorem terminal_simulation :
    (system connection).Simulation (Terminal.system connection) terminal clientEvent where
  init := by
    rintro w rfl
    rfl
  step := by
    intro t w es w' _ _ h
    replace h := transition h
    cases h with
    | @client action program es hd h =>
      change Lts.Steps _ _ (clientTrace _) _
      rw [clientTrace_client]
      apply Lts.Steps.single
      refine ⟨action, ?_⟩
      rw [Terminal.step, show w.terminal.program = w.program from rfl, h]
      rfl
    | @listenForMessage datagram hd =>
      rcases Server.listenForMessage (datagram.take 1024) with _ | m <;> exact .refl _
    | sendMessage ht => exact .refl _

/-- The client in the world does what it does anywhere. -/
theorem terminal_run (r : (system connection).Run t w) :
    (Terminal.system connection).Run (clientTrace t) w.terminal :=
  terminal_simulation.run r

theorem program_run (r : (system connection).Run t w) :
    (Program.system connection).Run (clientTrace t) w.program :=
  Terminal.program_run (terminal_run r)

theorem client_run (r : (system connection).Run t w) :
    (Client.system connection).Run (clientTrace t) w.program.client :=
  Program.client_run (program_run r)

/-! ## Where datagrams come from -/

/-- What the client sends is a mail it transmits, for the first time or again, or a CONFIRM. -/
theorem sent_cases (hu : connection.type = .udp) (r : (system connection).Run t w) {datagram : Bytes}
    (h : datagram ∈ w.sent) :
    (∃ mail ∈ transmitted (clientTrace t), udpSerializer.serialize mail = .ok datagram) ∨
      ∃ id, datagram = Server.sendUdpMessage (.confirm id) := by
  have hserialize : ∀ {mail bytes}, connection.sendData mail = .ok bytes →
      udpSerializer.serialize mail = .ok bytes := by
    intro mail bytes hsend
    rw [NetworkConnection.sendData, hu] at hsend
    exact hsend
  have rclient := client_run r
  rw [(recorded r).sent] at h
  obtain ⟨e, he, hsent⟩ := List.mem_filterMap.1 h
  cases e with
  | transmitted mail bytes =>
    cases hsent
    refine .inl ⟨mail, List.mem_filterMap.2 ⟨_, he, rfl⟩, hserialize ?_⟩
    exact Client.sendData_of_sent hu rclient (.inl he)
  | retransmitted mail bytes =>
    cases hsent
    obtain ⟨pre, post, hsplit⟩ := List.append_of_mem he
    obtain ⟨-, pre', mid, rfl, -⟩ := Client.transmitted_before hu rclient hsplit
    refine .inl ⟨mail, ?_, hserialize (Client.sendData_of_sent hu rclient (.inr he))⟩
    simp [hsplit, transmitted]
  | answered mail bytes =>
    cases hsent
    obtain ⟨_, s₀, es, _, r₀, hs, hes, -⟩ := rclient.exists_step_of_mem he
    have hc := Client.consistent r₀
    replace hs := (Client.transition hs).2
    cases hs with
    | listenSocket hp hok =>
      obtain ⟨-, sent, hsent, -⟩ :=
        listenSocket_udp hu (hc.protocol.trans hu) (hc.service.trans hu) hok
      obtain ⟨mail', -, -, rfl⟩ : ∃ mail' ∈ sent, mail' = mail ∧ MessageType.confirm.code ::
          CInt.htons (UInt16.ofInt mail'.getMessageID) = datagram := by
        simpa [hsent, sentBytes] using hes
      exact .inr ⟨_, rfl⟩
    | _ => simp at hes
  | _ => cases hsent

/-- The CONFIRMs of the server answer what it has received. -/
theorem confirm_answers (r : (system connection).Run t w) {pre post : List Event}
    {message : Server.Message} (h : t = pre ++ .served message :: post)
    (ht : message.type = .confirm) :
    ∃ data ∈ arrivals pre, Server.listenForMessage data = some message := by
  obtain ⟨t₀, w₀, es, w₁, pre', post', r₀, hs, rfl, hes⟩ := r.exists_step h
  have hmem : .served message ∈ es := by
    rw [hes]
    exact List.mem_append_right _ List.mem_cons_self
  replace hs := transition hs
  cases hs with
  | client hd hp => simp at hmem
  | @listenForMessage datagram hd =>
    rcases List.cons_eq_append_iff.1 hes with ⟨-, hhead⟩ | ⟨rest, rfl, -⟩
    · cases hhead
    · refine ⟨datagram.take 1024, ?_, by simpa using hmem⟩
      rw [arrivals_append]
      exact List.mem_append_right _ List.mem_cons_self
  | sendMessage hne =>
    obtain rfl : message = _ := by simpa using hmem
    exact absurd ht hne

/-- In every run, what the client receives was sent by the server before, and the mail it is decoded to
says what the message says. -/
theorem carried (hu : connection.type = .udp) (r : (system connection).Run t w)
    {pre post : List Event} {datagram : Bytes} {mail : Mail} {delivered : Bool}
    (h : t = pre ++ .client (.received datagram mail delivered) :: post) :
    ∃ message ∈ messages pre, datagram = Server.sendUdpMessage message ∧ message.Carried mail := by
  obtain ⟨t₀, w₀, es, w₁, pre', post', r₀, hs, rfl, hes⟩ := r.exists_step h
  have hmem : .client (.received datagram mail delivered) ∈ es := by
    rw [hes]
    exact List.mem_append_right _ List.mem_cons_self
  replace hs := transition hs
  cases hs with
  | @client action program es hd hp =>
    have hreceived : .received datagram mail delivered ∈ es := by simpa using hmem
    have hserved := hd datagram (Program.datagram_of_received hp hreceived)
    rw [(recorded r₀).served] at hserved
    obtain ⟨message, hm, rfl⟩ := List.mem_map.1 hserved
    have hclient : .received (Server.sendUdpMessage message) mail delivered ∈ clientTrace t := by
      simp [h, clientTrace, clientEvent]
    refine ⟨message, by simp [hm], rfl, Server.carried_of_decodeDatagram ?_⟩
    exact Client.decodeDatagram_of_received hu (client_run r) hclient
  | listenForMessage hd => simp at hmem
  | sendMessage ht => simp at hmem

end World

end ChatClient

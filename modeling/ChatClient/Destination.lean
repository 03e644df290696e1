import ChatClient.ArgumentParser
import ChatClient.World

/-!
# Where datagrams go

The address part of the class `UdpProtocol`: `connectToServer` looks the server up under its name, and
`receiveData` takes over the port of whoever has sent the datagram.  The host is never taken over, so
every datagram of a session goes to the host that was named on the command line, at the port from which
the last datagram came (`follows_port`).  Hosts are what `gethostbyname` returns, whose answers do not
change while the program runs.
-/

namespace ChatClient

/-- `struct sockaddr_in` -/
structure Endpoint (α : Type) where
  host : α
  port : UInt16
deriving DecidableEq

/-- The members of `UdpProtocol` that tell where datagrams go; `serverAddr` is `none` before
`connectToServer` has filled it in. -/
structure UdpProtocol (α : Type) where
  ip : Bytes
  port : UInt16
  serverAddr : Option (Endpoint α) := none
deriving DecidableEq

variable {α : Type}

namespace UdpProtocol

variable (gethostbyname : Bytes → Option α)

def connectToServer (s : UdpProtocol α) : Except Error (UdpProtocol α) :=
  match gethostbyname s.ip with
  | none => .error (.runtimeError (chars "ERROR: no such host"))
  | some host => .ok { s with serverAddr := some ⟨host, s.port⟩ }

/-- `receiveData`, with the address that `recvfrom` fills in. -/
def receiveData (s : UdpProtocol α) (data : Bytes) (fromAddr : Endpoint α) :
    Except Error (Bytes × UdpProtocol α) := do
  let buffer ← udpReceiveData (some data)
  if fromAddr.port ≠ s.port then
    let s ← connectToServer gethostbyname { s with port := fromAddr.port }
    return (buffer, s)
  else return (buffer, s)

end UdpProtocol

/-- The connection of `runMain`, the protocol being UDP. -/
def ArgumentParser.connection (args : ArgumentParser) : NetworkConnection where
  type := .udp
  timeout := args.timeout
  retries := args.retries.toUInt16

/-- The program with the address part of its connection. -/
structure Connected (α : Type) where
  program : Program
  protocol : UdpProtocol α

namespace Connected

inductive Event (α : Type)
  | receivedFrom (fromAddr : Endpoint α)
  /-- what the client shows, with the address that `sendto` is given -/
  | client (serverAddr : Option (Endpoint α)) (e : ChatClient.Event)

variable (gethostbyname : Bytes → Option α) (args : ArgumentParser)

/-- A step of the program; what it receives comes from `fromAddr`. -/
def step (x : Connected α) (action : Program.Action) (fromAddr : Endpoint α) :
    Option (Connected α × List (Event α)) := do
  let (program, es) ← x.program.step args.connection action
  match action.datagram with
  | none => return ({ x with program }, es.map (.client x.protocol.serverAddr))
  | some data =>
    match x.protocol.receiveData gethostbyname data fromAddr with
    | .ok (_, protocol) =>
      return (⟨program, protocol⟩, .receivedFrom fromAddr :: es.map (.client protocol.serverAddr))
    | .error e =>
      let client := { x.program.client with failure := some e }
      return ({ x with program := { x.program with client } }, [])

/-- The program from the start of the threads on, the connection having been opened. -/
def system : Lts (Connected α) (Event α) where
  init x := x.program = .initial args.connection ∧ ∃ ip, args.ip = some ip ∧
    UdpProtocol.connectToServer gethostbyname { ip, port := args.port } = .ok x.protocol
  step x es x' := ∃ action fromAddr, x.step gethostbyname args action fromAddr = some (x', es)

def senderPort : Event α → Option UInt16
  | .receivedFrom fromAddr => some fromAddr.port
  | .client .. => none

/-- The port of the sender of the last datagram. -/
def lastPort (t : List (Event α)) : Option UInt16 := (t.filterMap senderPort).getLast?

inductive Transition : Connected α → List (Event α) → Connected α → Prop
  | quiet {x : Connected α} {action program es} (hd : action.datagram = none)
      (h : x.program.step args.connection action = some (program, es)) :
      Transition x (es.map (.client x.protocol.serverAddr)) { x with program }
  | received {x : Connected α} {action program es data fromAddr buffer protocol}
      (hd : action.datagram = some data)
      (h : x.program.step args.connection action = some (program, es))
      (hp : x.protocol.receiveData gethostbyname data fromAddr = .ok (buffer, protocol)) :
      Transition x (.receivedFrom fromAddr :: es.map (.client protocol.serverAddr))
        ⟨program, protocol⟩
  | failed {x : Connected α} {action program es data fromAddr} {e : Error}
      (hd : action.datagram = some data)
      (h : x.program.step args.connection action = some (program, es))
      (hp : x.protocol.receiveData gethostbyname data fromAddr = .error e) :
      Transition x []
        { x with program := { x.program with client := { x.program.client with failure := some e } } }

variable {gethostbyname args} {t es : List (Event α)} {x x' : Connected α} {host : α}

theorem transition (h : (system gethostbyname args).step x es x') :
    Transition gethostbyname args x es x' := by
  obtain ⟨action, fromAddr, h⟩ := h
  obtain ⟨⟨program, es⟩, hp, h⟩ := Option.bind_eq_some_iff.1 h
  dsimp only at h
  split at h
  · next hd =>
    cases h
    exact .quiet hd hp
  · next data hd =>
    split at h
    · next hr =>
      cases h
      exact .received hd hp hr
    · next hr =>
      cases h
      exact .failed hd hp hr

/-! ## The address -/

variable (gethostbyname) in
/-- The address is that of the host, with the port. -/
structure At (s : UdpProtocol α) (host : α) (number : UInt16) : Prop where
  lookup : gethostbyname s.ip = some host
  port : s.port = number
  serverAddr : s.serverAddr = some ⟨host, number⟩

theorem at_of_connect {s s' : UdpProtocol α} (hh : gethostbyname s.ip = some host)
    (h : s.connectToServer gethostbyname = .ok s') : At gethostbyname s' host s.port := by
  rw [UdpProtocol.connectToServer, hh] at h
  cases h
  exact ⟨hh, rfl, rfl⟩

/-- The port follows the sender, the host does not. -/
theorem At.receiveData {s s' : UdpProtocol α} {port : UInt16} {data buffer : Bytes}
    {fromAddr : Endpoint α} (ha : At gethostbyname s host port)
    (h : s.receiveData gethostbyname data fromAddr = .ok (buffer, s')) :
    At gethostbyname s' host fromAddr.port := by
  obtain ⟨hh, hport, haddr⟩ := ha
  obtain ⟨buffer, -, h⟩ := Outcome.bind_eq_ok.1 h
  split_ifs at h with hne
  · obtain ⟨s₁, hconnect, h⟩ := Outcome.bind_eq_ok.1 h
    cases h
    exact at_of_connect (s := { s with port := fromAddr.port }) hh hconnect
  · cases h
    have heq : fromAddr.port = port := by
      rw [← hport]
      simpa using hne
    rw [heq]
    exact ⟨hh, hport, haddr⟩

/-- While the lookup answers, only the reading can throw. -/
theorem At.receiveData_error {s : UdpProtocol α} {port : UInt16} {data : Bytes}
    {fromAddr : Endpoint α} {e : Error} (ha : At gethostbyname s host port)
    (h : s.receiveData gethostbyname data fromAddr = .error e) :
    udpReceiveData (some data) = .error e := by
  rcases hread : udpReceiveData (some data) with e' | buffer
  · rw [UdpProtocol.receiveData, hread] at h
    cases h
    rfl
  · rw [UdpProtocol.receiveData, hread] at h
    change (if _ then _ else _) = _ at h
    split_ifs at h with hne
    · rw [UdpProtocol.connectToServer, ha.lookup] at h
      cases h
    · cases h

/-! ## The port of the last sender -/

theorem lastPort_append_client (t : List (Event α)) {u : List (Event α)}
    (h : ∀ e ∈ u, ∃ serverAddr e', e = .client serverAddr e') : lastPort (t ++ u) = lastPort t := by
  have hnil : u.filterMap senderPort = [] := by
    rw [List.filterMap_eq_nil_iff]
    intro e he
    obtain ⟨serverAddr, e', rfl⟩ := h e he
    rfl
  rw [lastPort, List.filterMap_append, hnil, List.append_nil]
  rfl

theorem lastPort_append_received (t : List (Event α)) (fromAddr : Endpoint α) {u : List (Event α)}
    (h : ∀ e ∈ u, ∃ serverAddr e', e = .client serverAddr e') :
    lastPort (t ++ .receivedFrom fromAddr :: u) = some fromAddr.port := by
  have hu := lastPort_append_client (t ++ [.receivedFrom fromAddr]) h
  rw [List.append_assoc, List.singleton_append] at hu
  rw [hu, lastPort, List.filterMap_append]
  exact List.getLast?_concat

theorem isClient_map (es : List ChatClient.Event) (addr : Option (Endpoint α)) :
    ∀ e ∈ es.map (Event.client addr), ∃ serverAddr e', e = .client serverAddr e' := by
  intro e he
  obtain ⟨e', -, rfl⟩ := List.mem_map.1 he
  exact ⟨addr, e', rfl⟩

theorem at_lastPort (r : (system gethostbyname args).Run t x) :
    ∃ ip host, args.ip = some ip ∧ gethostbyname ip = some host ∧
      At gethostbyname x.protocol host ((lastPort t).getD args.port) := by
  apply r.invariant (I := fun t x => ∃ ip host, args.ip = some ip ∧ gethostbyname ip = some host ∧
    At gethostbyname x.protocol host ((lastPort t).getD args.port))
  · rintro x ⟨-, ip, hip, hconnect⟩
    rcases hh : gethostbyname ip with _ | host
    · rw [UdpProtocol.connectToServer, hh] at hconnect
      cases hconnect
    · exact ⟨ip, host, hip, hh, at_of_connect (s := { ip, port := args.port }) hh hconnect⟩
  · rintro t x es x' - ⟨ip, host, hip, hh, hat⟩ h
    refine ⟨ip, host, hip, hh, ?_⟩
    replace h := transition h
    cases h with
    | @quiet action program es hd h =>
      rw [lastPort_append_client t (isClient_map es _)]
      exact hat
    | @received action program es data fromAddr buffer protocol hd h hp =>
      rw [lastPort_append_received t fromAddr (isClient_map es _)]
      exact hat.receiveData hp
    | failed hd h hp =>
      rw [List.append_nil]
      exact hat

/-! ## The program -/

/-- What the client shows. -/
def clientEvent : Event α → Option ChatClient.Event
  | .receivedFrom _ => none
  | .client _ e => some e

theorem filterMap_clientEvent (addr : Option (Endpoint α)) (es : List ChatClient.Event) :
    (es.map (Event.client addr)).filterMap clientEvent = es := by
  rw [List.filterMap_map]
  exact List.filterMap_some

/-- A reading that throws ends the process, whatever else the step would have done. -/
theorem step_of_unread {p p' : Program} {action : Program.Action} {data : Bytes}
    {es : List ChatClient.Event} {e : Error} (hd : action.datagram = some data)
    (hread : udpReceiveData (some data) = .error e)
    (h : p.step args.connection action = some (p', es)) :
    p' = { p with client := { p.client with failure := some e } } ∧ es = [] := by
  obtain rfl : action = .listener (.listenSocket (some data)) := by
    unfold Program.Action.datagram at hd
    split at hd
    · rw [hd]
    · cases hd
  have hsocket : ∀ (l : Listener) (mb : MailBox),
      listenSocket args.connection l mb (some data) = .error e := by
    intro l mb
    rw [listenSocket, NetworkConnection.receiveData, show args.connection.type = .udp from rfl]
    simp only [hread]
    rfl
  unfold Program.step at h
  split_ifs at h
  simp only at h
  split_ifs at h
  obtain ⟨⟨client, es⟩, hc, h⟩ := Option.bind_eq_some_iff.1 h
  cases h
  unfold Client.step at hc
  split_ifs at hc
  simp only [Client.listenSocket, hsocket] at hc
  split at hc
  · cases hc
    exact ⟨rfl, rfl⟩
  · cases hc

theorem program_simulation :
    (system gethostbyname args).Simulation (Program.system args.connection) (fun x => x.program)
      clientEvent where
  init := fun x h => h.1
  step := by
    intro t x es x' r _ h
    obtain ⟨ip, host, -, -, hat⟩ := at_lastPort r
    replace h := transition h
    cases h with
    | @quiet action program es hd h =>
      rw [filterMap_clientEvent]
      exact .single ⟨_, h⟩
    | @received action program es data fromAddr buffer protocol hd h hp =>
      rw [List.filterMap_cons_none rfl, filterMap_clientEvent]
      exact .single ⟨_, h⟩
    | failed hd h hp =>
      obtain ⟨rfl, rfl⟩ := step_of_unread hd (hat.receiveData_error hp) h
      exact .single ⟨_, h⟩

/-- The program does what it does anywhere. -/
theorem program_run (r : (system gethostbyname args).Run t x) :
    (Program.system args.connection).Run (t.filterMap clientEvent) x.program :=
  program_simulation.run r

/-- In every run that a command line starts, every datagram goes to the host that the command line
names, whoever has sent the datagrams that the client has received; and it goes to the port from which
the last of them came, or to the port of the command line before the first. -/
theorem follows_port (r : (system gethostbyname args).Run t x) :
    ∃ ip host, args.ip = some ip ∧ gethostbyname ip = some host ∧
      ∀ pre serverAddr e post, t = pre ++ .client serverAddr e :: post →
        serverAddr = some ⟨host, (lastPort pre).getD args.port⟩ := by
  obtain ⟨ip, host, hip, hh, -⟩ := at_lastPort r
  refine ⟨ip, host, hip, hh, ?_⟩
  intro pre serverAddr e post h
  obtain ⟨t₀, x₀, es, x₁, pre', post', r₀, hs, rfl, hes⟩ := r.exists_step h
  obtain ⟨ip', host', hip', hh', hat⟩ := at_lastPort r₀
  obtain rfl : ip' = ip := Option.some.inj (hip'.symm.trans hip)
  obtain rfl : host' = host := Option.some.inj (hh'.symm.trans hh)
  have hsplit : ∀ {addr : Option (Endpoint α)} {es : List ChatClient.Event} {u : List (Event α)},
      es.map (.client addr) = u ++ .client serverAddr e :: post' →
      serverAddr = addr ∧ ∀ e ∈ u, ∃ serverAddr e', e = .client serverAddr e' := by
    intro addr es u hu
    have hall := isClient_map es addr
    have hmem : .client serverAddr e ∈ es.map (Event.client addr) := by
      rw [hu]
      exact List.mem_append_right _ List.mem_cons_self
    rw [hu] at hall
    refine ⟨?_, fun e he => hall e (List.mem_append_left _ he)⟩
    obtain ⟨e', -, heq⟩ := List.mem_map.1 hmem
    cases heq
    rfl
  replace hs := transition hs
  cases hs with
  | quiet hd hp =>
    obtain ⟨rfl, hpre⟩ := hsplit hes
    rw [lastPort_append_client t₀ hpre, hat.serverAddr]
  | @received action program es data fromAddr buffer protocol hd hp hr =>
    rcases List.cons_eq_append_iff.1 hes with ⟨-, hhead⟩ | ⟨u, rfl, hu⟩
    · cases hhead
    · obtain ⟨rfl, hpre⟩ := hsplit hu
      rw [lastPort_append_received t₀ fromAddr hpre, (hat.receiveData hr).serverAddr]
      rfl
  | failed hd hp hr => simp at hes

theorem run_of_exec (r : (system gethostbyname args).Run t x)
    (actions : List (Program.Action × Endpoint α))
    (h : Lts.exec (fun x a => x.step gethostbyname args a.1 a.2) x actions = some (x', es)) :
    (system gethostbyname args).Run (t ++ es) x' := by
  apply r.exec _ actions h
  intro x a x' es h
  exact ⟨a.1, a.2, h⟩

/-- The server is host 7.  The AUTH goes to the port of the command line; a MSG from port 5000 of host 9
is confirmed to port 5000 of host 7. -/
theorem follows_port_moved :
    ∃ t x, (system (fun _ => some 7) { type := some .udp, ip := some (chars "srv") }).Run t x ∧
      (t.filterMap fun
        | .client serverAddr (.transmitted ..) | .client serverAddr (.answered ..) => some serverAddr
        | _ => none) = [some ⟨7, 4567⟩, some ⟨7, 5000⟩] ∧
      ∃ ip host, some (chars "srv") = some ip ∧ some 7 = some host ∧
        ∀ pre serverAddr e post, t = pre ++ .client serverAddr e :: post →
          serverAddr = some ⟨host, (lastPort pre).getD 4567⟩ := by
  let actions : List (Program.Action × Endpoint ℕ) :=
    (Program.round [.stdinPipe] [.listenStdin (some (chars "/auth ann pw ann\n"))] ++
      Program.mainThread 5 ++ Program.round [.toSendPipe] [.readNotify, .popMail, .transmit] ++
      Program.round [.socketPipe] [.listenSocket (some (Client.textDatagram 1))]).map
      fun action => (action, ⟨9, 5000⟩)
  obtain ⟨t, x, r, hsent⟩ : ∃ t x,
      (system (fun _ => some 7) { type := some .udp, ip := some (chars "srv") }).Run t x ∧
      (t.filterMap fun
        | .client serverAddr (.transmitted ..) | .client serverAddr (.answered ..) => some serverAddr
        | _ => none) = [some ⟨7, 4567⟩, some ⟨7, 5000⟩] := by
    have hinit : (system (fun _ => some 7) { type := some .udp, ip := some (chars "srv") }).Run []
        ⟨.initial { type := .udp, timeout := 250, retries := 3 },
          ⟨chars "srv", 4567, some ⟨7, 4567⟩⟩⟩ := .init ⟨rfl, _, rfl, rfl⟩
    exact ⟨_, _, run_of_exec hinit actions rfl, rfl⟩
  exact ⟨t, x, r, hsent, follows_port r⟩

end Connected

end ChatClient

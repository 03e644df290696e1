import ChatClient.Lib.ReliableTransfer
import ChatClient.Shutdown
import ChatClient.World

/-!
# What reaches the server

Client and server in UDP mode are a reliable transfer (`transfer_run`): the mails of a session have ids
of their own, and the CONFIRM of the server for one of them never reads as the id of another.  So the
messages the server has received, without the repetitions, are the mails passed to `sendMail` from the
first on, in their order; at most the last one transmitted is missing, and none when the client ends
(`reliable`).
-/

namespace ChatClient

open MailBox

/-- What the server takes of a mail's datagram. -/
def wire (mail : Mail) : Bytes := ((udpSerializer.serialize mail).toOption.getD []).take 1024

/-- `listen_for_message` answers. -/
def isMessage (data : Bytes) : Bool := (Server.listenForMessage data).isSome

/-- The id that `listen_for_message` confirms. -/
def confirmedID (data : Bytes) : Int :=
  match Server.listenForMessage data with
  | some message => message.id.toNat
  | none => 0

theorem unpack_htons (n : UInt16) : Server.unpack (CInt.hiByte n) (CInt.loByte n) = n := by
  have := n.toNat_lt
  rw [Server.unpack, CInt.hiByte_toNat, CInt.loByte_toNat, ← UInt16.toNat_inj, UInt16.toNat_ofNat']
  omega

/-- The server confirms a mail under its id. -/
theorem listenForMessage_wire {mail : Mail} {n : UInt16} (htag : mail.WellTagged)
    (hnum : mail.data.numbered = true) (hid : mail.getMessageID = n.toNat) :
    Server.listenForMessage (wire mail) = some (.confirm n) := by
  obtain ⟨ns, hns⟩ := numbers_eq_cons hnum hid
  have hcode : mail.data.type.code ≠ 0x00 := by
    cases hd : mail.data with
    | confirm m =>
      rw [hd] at hnum
      cases hnum
    | _ => simp [MessageData.type, MessageType.code]
  have hbytes : udpSerializer.serialize mail = .ok (mail.data.type.code :: CInt.hiByte n ::
      CInt.loByte n :: (ns.flatMap CInt.htons ++ mail.data.strings.flatMap (· ++ [nul]))) := by
    rw [udpSerializer.serialize_of_wellTagged htag, MailSerializer.serializeAs_udp, visit_udp, hns]
    rfl
  rw [wire, hbytes]
  simp only [Except.toOption, Option.getD_some, List.take_succ_cons, Server.listenForMessage]
  rw [if_pos hcode, unpack_htons]

namespace World

def transferEvent : Event → Option (ReliableTransfer.Event Bytes Int)
  | .client (.transmitted mail _) => some (.transmitted (wire mail))
  | .client (.received _ mail _) =>
    if mail.type = some .confirm then some (.heard mail.getMessageID) else none
  | .arrived data => if isMessage data then some (.arrived data) else none
  | _ => none

def transferState (t : List Event) : ReliableTransfer.State Bytes where
  outbox := (transmitted (clientTrace t)).map wire
  inFlight := (Client.unconfirmed (clientTrace t)).map wire
  log := (arrivals t).filter isMessage

variable {connection : NetworkConnection} {t : List Event} {w : World}

/-! ## The mails of a session -/

/-- The ids of a session have 16 bits, are at most 128 and belong to the server's CONFIRMs. -/
theorem exists_id (hu : connection.type = .udp) (r : (system connection).Run t w) {mail : Mail}
    (h : mail ∈ transmitted (clientTrace t)) :
    ∃ n : UInt16, n.toNat ≤ 128 ∧ mail.getMessageID = n.toNat ∧
      Server.listenForMessage (wire mail) = some (.confirm n) := by
  have rprogram := program_run r
  obtain ⟨k, hk⟩ := List.mem_iff_getElem?.1 h
  obtain ⟨htag, hnum, hid⟩ := Program.transmitted_numbered hu rprogram hk
  have hlt := (List.getElem?_eq_some_iff.1 hk).1
  have hle := (Program.length_transmitted hu rprogram).1
  have hn : (UInt16.ofNat k).toNat = k := by
    rw [UInt16.toNat_ofNat']
    omega
  have hid' : mail.getMessageID = (UInt16.ofNat k).toNat := by
    rw [hid, hn, Nat.mod_eq_of_lt (by omega)]
  exact ⟨UInt16.ofNat k, by omega, hid', listenForMessage_wire htag hnum hid'⟩

theorem confirmedID_wire (hu : connection.type = .udp) (r : (system connection).Run t w) {mail : Mail}
    (h : mail ∈ transmitted (clientTrace t)) : confirmedID (wire mail) = mail.getMessageID := by
  obtain ⟨n, -, hid, hanswer⟩ := exists_id hu r h
  rw [confirmedID, hanswer, hid]
  rfl

/-- The ids of a session are distinct. -/
theorem nodup_confirmedID (hu : connection.type = .udp) (r : (system connection).Run t w) :
    (((transmitted (clientTrace t)).map wire).map confirmedID).Nodup := by
  have hle := (Program.length_transmitted hu (program_run r)).1
  have hids : ((transmitted (clientTrace t)).map wire).map confirmedID =
      (transmitted (clientTrace t)).map Mail.getMessageID := by
    rw [List.map_map]
    apply List.map_congr_left
    intro mail hm
    exact confirmedID_wire hu r hm
  rw [hids, Program.getMessageID_transmitted hu (program_run r) (by omega)]
  exact List.nodup_range.map Nat.cast_injective

/-- A message that the server has received is a mail that was transmitted before. -/
theorem exists_of_arrived (hu : connection.type = .udp) (r : (system connection).Run t w)
    {pre post : List Event} {data : Bytes} (h : t = pre ++ .arrived data :: post)
    (hm : isMessage data = true) : ∃ mail ∈ transmitted (clientTrace pre), data = wire mail := by
  obtain ⟨t₀, w₀, es, w₁, pre', post', r₀, hs, rfl, hes⟩ := r.exists_step h
  have hmem : .arrived data ∈ es := by
    rw [hes]
    exact List.mem_append_right _ List.mem_cons_self
  replace hs := transition hs
  cases hs with
  | client hd hp => simp at hmem
  | @listenForMessage datagram hd =>
    obtain rfl : data = datagram.take 1024 := by simpa using hmem
    rcases sent_cases hu r₀ hd with ⟨mail, hmail, hbytes⟩ | ⟨id, rfl⟩
    · refine ⟨mail, ?_, ?_⟩
      · rw [clientTrace_append, transmitted, List.filterMap_append]
        exact List.mem_append_left _ hmail
      · rw [wire, hbytes]
        rfl
    · -- the server does not answer a CONFIRM
      cases hm
  | sendMessage ht => simp at hmem

/-- A mail that was received as CONFIRM comes from a message that the server had received. -/
theorem exists_of_heard (hu : connection.type = .udp) (r : (system connection).Run t w)
    {pre post : List Event} {datagram : Bytes} {mail : Mail} {delivered : Bool}
    (h : t = pre ++ .client (.received datagram mail delivered) :: post)
    (ht : mail.type = some .confirm) :
    ∃ data ∈ arrivals pre, ∃ n, Server.listenForMessage data = some (.confirm n) ∧
      mail.getMessageID = (receivedID n).toNat := by
  obtain ⟨message, hmem, -, hcarried⟩ := carried hu r h
  have htype : message.type = .confirm := Option.some.inj (hcarried.type.symm.trans ht)
  obtain ⟨e, he, hserved⟩ := List.mem_filterMap.1 hmem
  cases e with
  | served message' =>
    cases hserved
    obtain ⟨pre', mid, rfl⟩ := List.append_of_mem he
    rw [List.append_assoc] at h
    obtain ⟨data, hdata, hanswer⟩ := confirm_answers r h htype
    refine ⟨data, ?_, ?_⟩
    · rw [arrivals_append]
      exact List.mem_append_left _ hdata
    · cases message with
      | confirm n => exact ⟨n, hanswer, hcarried.id⟩
      | _ => cases htype
  | _ => cases hserved

/-! ## The transfer -/

/-- What precedes an event of the client in its trace. -/
theorem clientTrace_split {pre post : List Event} {e : ChatClient.Event}
    (h : t = pre ++ .client e :: post) :
    clientTrace t = clientTrace pre ++ e :: clientTrace post := by
  rw [h, clientTrace_append]
  rfl

theorem transferState_concat_client (u : List Event) (e : ChatClient.Event) :
    transferState (u ++ [.client e]) =
      { outbox := (transmitted (clientTrace u ++ [e])).map wire
        inFlight := (Client.unconfirmed (clientTrace u ++ [e])).map wire
        log := (arrivals u).filter isMessage } := by
  simp [transferState, clientTrace, clientEvent, arrivals]

theorem transferState_concat_server (u : List Event) {e : Event} (he : clientEvent e = none) :
    transferState (u ++ [e]) = { transferState u with
      log := (arrivals u).filter isMessage ++ (arrivals [e]).filter isMessage } := by
  have htrace : clientTrace [e] = [] := List.filterMap_cons_none he
  rw [transferState, clientTrace_append, htrace, List.append_nil, arrivals_append,
    List.filter_append]
  rfl

theorem unconfirmed_concat (t : List ChatClient.Event) (e : ChatClient.Event) :
    Client.unconfirmed (t ++ [e]) =
      match Client.inFlightEvent e with
      | some (.transmitted mail) => some mail
      | some (.heard id) => (Client.unconfirmed t).filter fun mail => mail.getMessageID ≠ id
      | none => Client.unconfirmed t := by
  rw [Client.unconfirmed, List.filterMap_append]
  rcases he : Client.inFlightEvent e with _ | ⟨mail | id⟩
  · simp [he, Client.unconfirmed]
  · simp [he]
  · simp [he, Client.unconfirmed]

/-- The CONFIRM for an id of a session is not read as another one's. -/
theorem receivedID_of_le {n : UInt16} (h : n.toNat ≤ 128) (h' : (receivedID n).toNat ≤ 128) :
    receivedID n = n := by
  by_cases hn : n = 128
  · subst hn
    revert h'
    decide
  · rw [receivedID_eq_iff]
    have hne : n.toNat ≠ 128 := fun he => hn (UInt16.toNat_inj.1 he)
    omega

section Events

variable {u post : List Event}

theorem transfer_transmitted (hu : connection.type = .udp) (r : (system connection).Run t w)
    {mail : Mail} {bytes : Bytes} (h : t = u ++ .client (.transmitted mail bytes) :: post) :
    (ReliableTransfer.system confirmedID).Steps (transferState u) [.transmitted (wire mail)]
      (transferState (u ++ [.client (.transmitted mail bytes)])) := by
  have hsplit := clientTrace_split h
  have hnone := Client.unconfirmed_before hu (client_run r) hsplit
  have hstate : transferState (u ++ [.client (.transmitted mail bytes)]) =
      { transferState u with
        outbox := (transferState u).outbox ++ [wire mail], inFlight := some (wire mail) } := by
    rw [transferState_concat_client, unconfirmed_concat]
    simp [transferState, transmitted, Client.inFlightEvent]
  rw [hstate]
  apply Lts.Steps.single
  apply ReliableTransfer.Step.transmit
  · simp [transferState, hnone]
  · -- no id is used twice
    have hnodup := nodup_confirmedID hu r
    have htransmitted : transmitted (clientTrace t) =
        transmitted (clientTrace u) ++ mail :: transmitted (clientTrace post) := by
      rw [hsplit]
      exact List.filterMap_append
    rw [htransmitted, List.map_append, List.map_append] at hnodup
    intro hmem
    exact (List.disjoint_of_nodup_append hnodup) hmem List.mem_cons_self

theorem transfer_heard (hu : connection.type = .udp) (r : (system connection).Run t w)
    {datagram : Bytes} {mail : Mail} {delivered : Bool}
    (h : t = u ++ .client (.received datagram mail delivered) :: post)
    (ht : mail.type = some .confirm) :
    (ReliableTransfer.system confirmedID).Steps (transferState u) [.heard mail.getMessageID]
      (transferState (u ++ [.client (.received datagram mail delivered)])) := by
  have hmem : ∀ {m}, m ∈ transmitted (clientTrace u) → m ∈ transmitted (clientTrace t) := by
    intro m hm
    rw [h, clientTrace_append, transmitted, List.filterMap_append]
    exact List.mem_append_left _ hm
  have hstate : transferState (u ++ [.client (.received datagram mail delivered)]) =
      { transferState u with
        inFlight := (transferState u).inFlight.filter
          fun data => confirmedID data ≠ mail.getMessageID } := by
    rw [transferState_concat_client, unconfirmed_concat]
    rcases hflight : Client.unconfirmed (clientTrace u) with _ | m
    · simp [transferState, transmitted, Client.inFlightEvent, ht, hflight]
    · have hm := hmem (List.mem_of_getLast? (Client.getLast?_of_unconfirmed hflight))
      have hkey := confirmedID_wire hu r hm
      by_cases hid : m.getMessageID = mail.getMessageID
      · simp [transferState, transmitted, Client.inFlightEvent, ht, hflight, hkey, hid, Option.filter]
      · simp [transferState, transmitted, Client.inFlightEvent, ht, hflight, hkey, hid, Option.filter]
  rw [hstate]
  apply Lts.Steps.single
  apply ReliableTransfer.Step.hear
  intro hk
  obtain ⟨data, hdata, n, hanswer, hn⟩ := exists_of_heard hu r h ht
  have hmessage : isMessage data = true := by rw [isMessage, hanswer, Option.isSome_some]
  -- the server confirms a mail of this session
  have hle : n.toNat ≤ 128 := by
    obtain ⟨e, he, harrived⟩ := List.mem_filterMap.1 hdata
    cases e with
    | arrived data' =>
      cases harrived
      obtain ⟨pre, mid, rfl⟩ := List.append_of_mem he
      rw [List.append_assoc] at h
      obtain ⟨m, hm, rfl⟩ := exists_of_arrived hu r h hmessage
      have hm' : m ∈ transmitted (clientTrace t) := by
        rw [h, clientTrace_append, transmitted, List.filterMap_append]
        exact List.mem_append_left _ hm
      obtain ⟨n', hle, -, hanswer'⟩ := exists_id hu r hm'
      rw [hanswer'] at hanswer
      cases hanswer
      exact hle
    | _ => cases harrived
  -- so does what it is read as
  have hle' : (receivedID n).toNat ≤ 128 := by
    obtain ⟨data', hdata', hkey⟩ := List.mem_map.1 hk
    obtain ⟨m, hm, rfl⟩ := List.mem_map.1 hdata'
    obtain ⟨n', hle', hid', -⟩ := exists_id hu r (hmem hm)
    rw [confirmedID_wire hu r (hmem hm), hid', hn] at hkey
    have := Int.ofNat_inj.1 hkey
    omega
  rw [hn, receivedID_of_le hle hle']
  apply List.mem_map.2
  refine ⟨data, List.mem_filter.2 ⟨hdata, hmessage⟩, ?_⟩
  rw [confirmedID, hanswer]
  rfl

theorem transfer_arrived (hu : connection.type = .udp) (r : (system connection).Run t w)
    {data : Bytes} (h : t = u ++ .arrived data :: post) (hm : isMessage data = true) :
    (ReliableTransfer.system confirmedID).Steps (transferState u) [.arrived data]
      (transferState (u ++ [.arrived data])) := by
  obtain ⟨mail, hmail, rfl⟩ := exists_of_arrived hu r h hm
  have hstate : transferState (u ++ [.arrived (wire mail)]) =
      { transferState u with log := (transferState u).log ++ [wire mail] } := by
    rw [transferState_concat_server u rfl]
    simp [transferState, arrivals, hm]
  rw [hstate]
  apply Lts.Steps.single
  exact ReliableTransfer.Step.arrive (List.mem_map_of_mem hmail)

/-- What the transfer does not see. -/
theorem transfer_stutter {e : Event} (he : transferEvent e = none) :
    (ReliableTransfer.system confirmedID).Steps (transferState u) [] (transferState (u ++ [e])) := by
  have hstate : transferState (u ++ [e]) = transferState u := by
    cases e with
    | client e =>
      rw [transferState_concat_client, unconfirmed_concat]
      cases e with
      | transmitted mail bytes => cases he
      | received datagram mail delivered =>
        have ht : mail.type ≠ some .confirm := by
          intro ht
          simp [transferEvent, ht] at he
        simp [transferState, transmitted, Client.inFlightEvent, ht]
      | _ => simp [transferState, transmitted, Client.inFlightEvent]
    | arrived data =>
      have hm : isMessage data = false := by
        simp only [transferEvent] at he
        split_ifs at he with hm
        simpa using hm
      rw [transferState_concat_server u rfl]
      simp [transferState, arrivals, hm]
    | served message =>
      rw [transferState_concat_server u rfl]
      simp [transferState, arrivals]
  rw [hstate]
  exact .refl _

end Events

theorem transfer_run (hu : connection.type = .udp) (r : (system connection).Run t w)
    {u : List Event} (h : u <+: t) :
    (ReliableTransfer.system confirmedID).Run (u.filterMap transferEvent) (transferState u) := by
  induction u using List.reverseRecOn with
  | nil => exact .init rfl
  | append_singleton u e ih =>
    obtain ⟨post, hsplit⟩ := h
    rw [List.append_assoc, List.singleton_append] at hsplit
    have ih := ih ⟨_, hsplit⟩
    rw [List.filterMap_append]
    apply ih.steps
    rcases he : transferEvent e with _ | e'
    · rw [List.filterMap_cons_none he]
      exact transfer_stutter he
    · rw [List.filterMap_cons_some he]
      cases e with
      | arrived data =>
        simp only [transferEvent] at he
        split_ifs at he with hm
        cases he
        exact transfer_arrived hu r hsplit.symm hm
      | served message => cases he
      | client e =>
        cases e with
        | transmitted mail bytes =>
          cases he
          exact transfer_transmitted hu r hsplit.symm
        | received datagram mail delivered =>
          simp only [transferEvent] at he
          split_ifs at he with ht
          cases he
          exact transfer_heard hu r hsplit.symm ht
        | _ => cases he

/-- The messages received, without the repetitions, are the first mails transmitted. -/
theorem received_initial (hu : connection.type = .udp) (r : (system connection).Run t w) :
    (w.received.filter isMessage).eraseDups <+: (transmitted (clientTrace t)).map wire := by
  have houtbox := ReliableTransfer.outbox_eq (transfer_run hu r List.prefix_rfl)
  rw [(recorded r).received]
  change (transmitted (clientTrace t)).map wire = _ at houtbox
  rw [houtbox]
  exact List.prefix_append _ _

/-- Where nothing awaits its CONFIRM, the server has received all that was transmitted. -/
theorem received_of_confirmed (hu : connection.type = .udp) (r : (system connection).Run t w)
    (hrc : w.program.client.listener.receivedConfirm = true) :
    (w.received.filter isMessage).eraseDups = (transmitted (clientTrace t)).map wire := by
  have houtbox := ReliableTransfer.outbox_eq (transfer_run hu r List.prefix_rfl)
  have hnone := (Client.receivedConfirm_iff hu (client_run r)).1 hrc
  rw [(recorded r).received]
  change (transmitted (clientTrace t)).map wire = ((arrivals t).filter isMessage).eraseDups ++ _
    at houtbox
  rw [ReliableTransfer.missing_of_none (by simp [transferState, hnone]), List.append_nil] at houtbox
  exact houtbox.symm

/-- Where the loop of `runListener` has ended, the server has received all that was passed to
`sendMail`. -/
theorem received_of_finished (hu : connection.type = .udp) (r : (system connection).Run t w)
    (hp : w.program.client.place = .finished) :
    (w.received.filter isMessage).eraseDups = (stamp 0 (submitted (clientTrace t))).map wire := by
  have rclient := client_run r
  obtain ⟨-, hbye, hrc⟩ := Client.goesOn_eq_false.1 (Client.goesOn_of_finished rclient hp)
  rw [received_of_confirmed hu r hrc]
  rw [(Program.transmitted_of_bye (program_run r) ((Client.sentBye_iff rclient).1 hbye)).1]

/-- In every run: the messages the server has received, without the repetitions, are mails passed to
`sendMail`, from the first on and in their order, as far as the server reads a datagram; at most the
last mail transmitted is not among them, and that only while its CONFIRM is missing; and when the
loop of `runListener` has ended, they are all there. -/
theorem reliable (hu : connection.type = .udp) (r : (system connection).Run t w) :
    (w.received.filter isMessage).eraseDups <+:
        (stamp 0 (submitted (clientTrace t))).map wire ∧
      (transmitted (clientTrace t)).length ≤ (w.received.filter isMessage).eraseDups.length + 1 ∧
      (w.program.client.listener.receivedConfirm = true →
        (w.received.filter isMessage).eraseDups = (transmitted (clientTrace t)).map wire) ∧
      (w.program.client.place = .finished →
        (w.received.filter isMessage).eraseDups =
          (stamp 0 (submitted (clientTrace t))).map wire) := by
  have houtbox := ReliableTransfer.outbox_eq (transfer_run hu r List.prefix_rfl)
  change (transmitted (clientTrace t)).map wire = ((arrivals t).filter isMessage).eraseDups ++ _
    at houtbox
  have hmissing : (transferState t).missing.length ≤ 1 := by
    apply (List.length_filter_le _ _).trans
    rcases (transferState t).inFlight <;> simp
  refine ⟨?_, ?_, received_of_confirmed hu r, received_of_finished hu r⟩
  · exact (received_initial hu r).trans
      ((Client.transmitted_prefix_submitted (client_run r)).map wire)
  · have hlength := congrArg List.length houtbox
    rw [List.length_map, List.length_append] at hlength
    rw [(recorded r).received]
    omega

/-- The user interrupts the program before logging in.  The server receives the BYE twice and confirms
it twice; one of the CONFIRMs comes back. -/
def interruptedTwice : List Action :=
  (Program.round [.signalPipe] [.listenSignal (some [2])] ++ Program.mainThread 7 ++
    Program.round [.toSendPipe] [.readNotify, .popMail, .transmit]).map .client ++
  [.listenForMessage [0xFF, 0, 0], .listenForMessage [0xFF, 0, 0]] ++
  (Program.round [.socketPipe] [.listenSocket (some [0, 0, 0])] ++
    [Program.Action.listener .loopHead]).map .client

theorem reliable_interrupted :
    ∃ t w, (system { type := .udp }).Run t w ∧ w.program.client.place = .finished ∧
      w.received = [[0xFF, 0, 0], [0xFF, 0, 0]] ∧
      ((w.received.filter isMessage).eraseDups <+:
          (stamp 0 (submitted (clientTrace t))).map wire ∧
        (transmitted (clientTrace t)).length ≤
          (w.received.filter isMessage).eraseDups.length + 1 ∧
        (w.program.client.listener.receivedConfirm = true →
          (w.received.filter isMessage).eraseDups = (transmitted (clientTrace t)).map wire) ∧
        (w.program.client.place = .finished →
          (w.received.filter isMessage).eraseDups =
            (stamp 0 (submitted (clientTrace t))).map wire)) := by
  obtain ⟨t, w, r, hp, hreceived⟩ : ∃ t w, (system { type := .udp }).Run t w ∧
      w.program.client.place = .finished ∧ w.received = [[0xFF, 0, 0], [0xFF, 0, 0]] := by
    obtain ⟨w, es, hexec, hp, hreceived⟩ : ∃ w es,
        Lts.exec (step { type := .udp }) (initial { type := .udp }) interruptedTwice = some (w, es) ∧
          w.program.client.place = .finished ∧ w.received = [[0xFF, 0, 0], [0xFF, 0, 0]] :=
      ⟨_, _, rfl, rfl, rfl⟩
    exact ⟨_, w, run_of_exec (.init rfl) interruptedTwice hexec, hp, hreceived⟩
  exact ⟨t, w, r, hp, hreceived, reliable rfl r⟩

end World

end ChatClient

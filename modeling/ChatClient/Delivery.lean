import ChatClient.InFlight
import ChatClient.Lib.Watermark
import Mathlib.Data.List.Nodup

/-!
# Delivering what the server sends

In UDP mode `srvMsgId` is a watermark (`delivery_simulation`): `listenSocket` delivers a message only
if its id is greater than the id of every message delivered before.  So nothing is delivered twice
(`delivered_once`), and a message that is overtaken by one with a greater id is dropped
(`fresh_delivered_iff`).
-/

namespace ChatClient

open MailBox

/-! ## What one call adds -/

@[simp] theorem newMails_self (mb : MailBox) : newMails mb mb = [] := by
  simp [newMails]

theorem newMails_deliver (mb : MailBox) {mail : Mail} (h : mail.addToMailQueue = true) :
    newMails mb (mb.deliver mail) = [mail] := by
  simp [newMails, deliver, addMail, h]

/-- Either nothing is delivered and the watermark stays, or the mail is, whose id was above the
watermark and is the new one. -/
theorem Handled.delivered {l l' : Listener} {mb mb' : MailBox} {mail : Mail} {sent : List Mail}
    (hh : Handled l mb mail l' mb' sent) (hd : Decoded mail) :
    (newMails mb mb' = [] ∧ mb'.srvMsgId = mb.srvMsgId) ∨
      (newMails mb mb' = [mail] ∧ mb.srvMsgId < mail.getMessageID ∧
        mb'.srvMsgId = mail.getMessageID) := by
  have hdeliver : mail.type ≠ some .confirm → mb.srvMsgId < mail.getMessageID →
      newMails mb (mb.deliver mail) = [mail] ∧ mb.srvMsgId < mail.getMessageID ∧
        (mb.deliver mail).srvMsgId = mail.getMessageID :=
    fun ht hid => ⟨newMails_deliver mb (hd.queued.2 ht), hid, addMail_srvMsgId _ _⟩
  cases hh with
  | duplicateReply | foreignReply | confirm | strayConfirm | duplicate =>
    exact .inl ⟨newMails_self mb, rfl⟩
  | reply ht hid => exact .inr (hdeliver (by rw [ht]; decide) hid)
  | message _ ht hid => exact .inr (hdeliver ht hid)

/-- A message other than REPLY and CONFIRM is delivered iff its id is above the watermark. -/
theorem Handled.delivered_iff {l l' : Listener} {mb mb' : MailBox} {mail : Mail} {sent : List Mail}
    (hh : Handled l mb mail l' mb' sent) (hd : Decoded mail) (hr : mail.type ≠ some .reply)
    (hc : mail.type ≠ some .confirm) :
    mb'.incomingMails = mb.incomingMails ++ [mail] ↔ mb.srvMsgId < mail.getMessageID := by
  cases hh with
  | duplicateReply ht | foreignReply ht | reply ht => exact absurd ht hr
  | confirm ht | strayConfirm ht => exact absurd ht hc
  | duplicate _ _ hid => simpa using hid
  | message _ _ hid => simp [deliver, addMail, hd.queued.2 hc, hid]

namespace Client

variable {connection : NetworkConnection} {t es : List Event} {s s' : Client}

/-! ## The watermark -/

def deliveredId : Event → Option Int
  | .received _ mail true => some mail.getMessageID
  | _ => none

/-- The ids of the messages that `listenSocket` added to `incomingMails`. -/
def deliveredIds (t : List Event) : List Int := t.filterMap deliveredId

/-- The datagrams that `listenSocket` made a mail in `incomingMails` of. -/
def deliveredDatagrams (t : List Event) : List Bytes :=
  t.filterMap fun | .received datagram _ true => some datagram | _ => none

/-- A step that delivers nothing. -/
theorem delivery_stutter (hs : s'.mailbox.srvMsgId = s.mailbox.srvMsgId)
    (he : es.filterMap deliveredId = []) :
    (Watermark.system (-1 : Int)).Steps s.mailbox.srvMsgId (es.filterMap deliveredId)
      s'.mailbox.srvMsgId := by
  rw [hs, he]
  exact .refl _

theorem delivery_simulation (hu : connection.type = .udp) :
    (system connection).Simulation (Watermark.system (-1)) (fun s => s.mailbox.srvMsgId)
      deliveredId where
  init := by
    rintro s rfl
    rfl
  step := by
    intro t s es s' r _ h
    have hc := consistent r
    replace h := (transition h).2
    cases h with
    | fail | refuse | pushMail | notifyListener | waitMail | stop | enterWait | finish | timeout
    | ready | interrupted | readNotify | popMail | transmit => exact delivery_stutter rfl rfl
    | sendMail => exact delivery_stutter (by rw [assignMessageID_eq]) rfl
    | listenStdin hp h =>
      exact delivery_stutter (listenStdin_receives h).2 (filterMap_map_none (fun _ => rfl) _)
    | listenSignal hp h =>
      exact delivery_stutter (listenSignal_receives h).2.2 (filterMap_map_none (fun _ => rfl) _)
    | listenSocket hp h =>
      obtain ⟨hdec, sent, -, hh⟩ :=
        listenSocket_udp hu (hc.protocol.trans hu) (hc.service.trans hu) h
      rw [List.filterMap_cons, filterMap_map_none (fun _ => rfl)]
      rcases hh.delivered (decodeDatagram_decoded hdec) with ⟨hnew, hsrv⟩ | ⟨hnew, hid, hsrv⟩
      · rw [hnew]
        change Lts.Steps _ _ [] _
        rw [hsrv]
        exact .refl _
      · rw [hnew]
        change Lts.Steps _ _ [_] _
        rw [hsrv]
        exact .single (.accept hid)

theorem increasing (hu : connection.type = .udp) (r : (system connection).Run t s) :
    Watermark.Increasing (-1) (deliveredIds t) s.mailbox.srvMsgId :=
  Watermark.increasing ((delivery_simulation hu).run r)

/-! ## Messages of a server -/

def udpConnection : NetworkConnection := { type := .udp, timeout := 250, retries := 3 }

/-- The mail for `/auth ann pw ann`, with an id. -/
def authMail (n : UInt16) : Mail :=
  { type := some .auth
    data := .auth
      ⟨n, ⟨chars "ann", by decide⟩, ⟨chars "ann", by decide⟩, ⟨chars "pw", by decide⟩⟩ }

/-- `MSG FROM srv IS hi` with the id `n`, as a datagram. -/
def textDatagram (n : Byte) : Bytes :=
  MessageType.msg.code :: 0 :: n :: (chars "srv" ++ 0 :: (chars "hi" ++ [0]))

/-- What it is decoded to. -/
def textMail (id : Int) : Mail :=
  { type := some .msg
    data := .text ⟨false, id, ⟨chars "srv", by decide⟩, ⟨chars "hi", by decide⟩⟩ }

/-- The user logs in, and the AUTH is transmitted. -/
def authSent : List Action :=
  [.loopHead, .epollWait (.ready [.stdinPipe]) 0,
    .listenStdin (some (chars "/auth ann pw ann\n")), .waitMail, .sendMail (authMail 0), .pushMail,
    .notifyListener, .loopHead, .epollWait (.ready [.toSendPipe]) 0, .readNotify, .popMail, .transmit]

/-- There is something to read from the socket. -/
def socketReady : List Action := [.loopHead, .epollWait (.ready [.socketPipe]) 0]

/-- The first message of the server has the id 1. -/
def firstReceived : List Action :=
  authSent ++ socketReady ++ [.listenSocket (some (textDatagram 1))]

/-! ## At most once -/

theorem decodeDatagram_of_received (hu : connection.type = .udp) (r : (system connection).Run t s)
    {datagram : Bytes} {mail : Mail} {delivered : Bool}
    (h : .received datagram mail delivered ∈ t) : decodeDatagram (some datagram) = .ok mail := by
  obtain ⟨t₀, s₀, es, s₁, r₀, hs, hm, -⟩ := r.exists_step_of_mem h
  have hc := consistent r₀
  replace hs := (transition hs).2
  cases hs with
  | @listenSocket received _ res hp hok =>
    obtain ⟨hdec, -⟩ := listenSocket_udp hu (hc.protocol.trans hu) (hc.service.trans hu) hok
    rcases List.mem_cons.1 hm with heq | hm
    · cases heq
      rcases received with _ | datagram
      · cases hdec
      · exact hdec
    · simp at hm
  | _ => simp at hm

/-- The id is a function of the datagram. -/
theorem map_deliveredDatagrams (hu : connection.type = .udp) (r : (system connection).Run t s) :
    (deliveredDatagrams t).map (fun datagram =>
        (decodeDatagram (some datagram)).map Mail.getMessageID) =
      (deliveredIds t).map .ok := by
  rw [deliveredDatagrams, deliveredIds, List.map_filterMap, List.map_filterMap]
  refine List.filterMap_congr fun e he => ?_
  rcases e with _ | _ | _ | _ | _ | ⟨datagram, mail, _ | _⟩ | _ | _ | _ <;> try rfl
  simp only [deliveredId, Option.map_some, decodeDatagram_of_received hu r he]
  rfl

/-- In every run in UDP mode the ids of the messages that `listenSocket` delivers increase, no
datagram is delivered twice, and `srvMsgId` is the id delivered last. -/
theorem delivered_once (hu : connection.type = .udp) (r : (system connection).Run t s) :
    (deliveredIds t).Pairwise (· < ·) ∧ (deliveredDatagrams t).Nodup ∧
      s.mailbox.srvMsgId = (deliveredIds t).getLast?.getD (-1) := by
  have hi := increasing hu r
  have hids : (deliveredIds t).Nodup := hi.sorted.nodup
  refine ⟨hi.sorted, ?_, hi.last⟩
  apply List.Nodup.of_map
  rw [map_deliveredDatagrams hu r, List.nodup_map_iff fun _ _ => Except.ok.inj]
  exact hids

/-- Behind the AUTH a message comes, and comes again. -/
theorem delivered_once_duplicate :
    ∃ t s, (system udpConnection).Run t s ∧ transmitted t = [authMail 0] ∧
      .received (textDatagram 1) (textMail 1) true ∈ t ∧
      .received (textDatagram 1) (textMail 1) false ∈ t ∧ deliveredIds t = [1] ∧
      ((deliveredIds t).Pairwise (· < ·) ∧ (deliveredDatagrams t).Nodup ∧
        s.mailbox.srvMsgId = (deliveredIds t).getLast?.getD (-1)) := by
  have r := run_of_exec udpConnection (.init rfl)
    (firstReceived ++ socketReady ++ [.listenSocket (some (textDatagram 1))]) rfl
  exact ⟨_, _, r, rfl, by decide, by decide, rfl, delivered_once rfl r⟩

/-! ## Overtaken messages -/

/-- In every reachable state in UDP mode a message other than REPLY and CONFIRM is received without
an exception, and when no message with its id was delivered before, it is delivered iff no id
delivered before is greater than its own. -/
theorem fresh_delivered_iff (hu : connection.type = .udp) (r : (system connection).Run t s)
    {datagram : Bytes} {mail : Mail} (hdec : decodeDatagram (some datagram) = .ok mail)
    (hr : mail.type ≠ some .reply) (hc : mail.type ≠ some .confirm)
    (hfresh : mail.getMessageID ∉ deliveredIds t) :
    ∃ res, ChatClient.listenSocket connection s.listener s.mailbox (some datagram) = .ok res ∧
      (res.mailbox.incomingMails = s.mailbox.incomingMails ++ [mail] ↔
        ∀ id ∈ deliveredIds t, id ≤ mail.getMessageID) := by
  have hcons := consistent r
  have hd := decodeDatagram_decoded hdec
  obtain ⟨l', mb', sent, hh, hok⟩ :=
    listenSocket_ok hu (hcons.protocol.trans hu) (hcons.service.trans hu) hdec
  refine ⟨_, hok, ?_⟩
  have habove : -1 < mail.getMessageID := by
    obtain ⟨v, hv⟩ := hd.id
    omega
  rw [hh.delivered_iff hd hr hc, (increasing hu r).mark_lt_iff habove]
  -- the id is none of those delivered, so that `≤` is as good as `<`
  refine forall₂_congr fun id hmem => ?_
  have hne : id ≠ mail.getMessageID := by
    rintro rfl
    exact hfresh hmem
  omega

/-- The next message comes. -/
theorem fresh_delivered_iff_next :
    ∃ t s, (system udpConnection).Run t s ∧ transmitted t = [authMail 0] ∧ deliveredIds t = [1] ∧
      ∃ res, ChatClient.listenSocket udpConnection s.listener s.mailbox
          (some (textDatagram 2)) = .ok res ∧
        (res.mailbox.incomingMails = s.mailbox.incomingMails ++ [textMail 2] ↔
          ∀ id ∈ deliveredIds t, id ≤ 2) := by
  have r := run_of_exec udpConnection (.init rfl) (firstReceived ++ socketReady) rfl
  exact ⟨_, _, r, rfl, rfl, fresh_delivered_iff rfl r rfl (by decide) (by decide) (by decide)⟩

/-- Behind the AUTH the message with the id 1 comes first, and the one with the id 0 after it. -/
theorem fresh_dropped :
    ∃ t s, (system udpConnection).Run t s ∧ s.place = .events [.socketPipe] ∧
      transmitted t = [authMail 0] ∧
      decodeDatagram (some (textDatagram 0)) = .ok (textMail 0) ∧
      (textMail 0).getMessageID ∉ deliveredIds t ∧
      ∃ res, ChatClient.listenSocket udpConnection s.listener s.mailbox
          (some (textDatagram 0)) = .ok res ∧
        res.mailbox.incomingMails = s.mailbox.incomingMails :=
  ⟨_, _, run_of_exec udpConnection (.init rfl) (firstReceived ++ socketReady) rfl, rfl, rfl, rfl,
    by decide, _, rfl, rfl⟩

end Client

end ChatClient

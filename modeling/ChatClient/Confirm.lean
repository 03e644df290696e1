import ChatClient.Delivery
import ChatClient.UdpCodec

/-!
# CONFIRM datagrams

* `confirm_recognised_iff`: the CONFIRM for the mail in flight is recognised exactly when the mail's
  id survives `readUInt16`, that is, when its low byte is below 0x80 or its high byte is 0xFF.  The
  first id that does not is 128, which a session reaches with its 129th mail (`exists_run_confirmed`).
* `confirm_sent_iff`: of the four ways through `listenSocket` for a message, the one for a REPLY that
  refers to something else and the one for a duplicate that is no REPLY send no CONFIRM.
-/

namespace ChatClient

open MailBox

/-! ## Receiving a CONFIRM -/

/-- The mail a CONFIRM with the id bytes `h` and `l` is decoded to. -/
def receivedConfirmMail (h l : Byte) : Mail :=
  { type := some .confirm
    data := .confirm ⟨(CInt.joinBytes h l).toNat⟩
    addToMailQueue := false }

theorem decodeDatagram_confirm (h l : Byte) :
    decodeDatagram (some [MessageType.confirm.code, h, l]) = .ok (receivedConfirmMail h l) := rfl

section Udp

variable {connection : NetworkConnection} {l : Listener} {mb : MailBox} {hi lo : Byte}

/-- The CONFIRM that is awaited. -/
theorem listenSocket_confirm (hc : connection.type = .udp) (hl : l.protocolType = .udp)
    (hs : mb.deliveryService = .udp) (hrc : l.receivedConfirm = false)
    (hid : ((CInt.joinBytes hi lo).toNat : Int) = l.refMsgId) :
    listenSocket connection l mb (some [MessageType.confirm.code, hi, lo]) =
      .ok ⟨{ l with receivedConfirm := true, retries := 0, refMsgId := -1 }, mb,
        receivedConfirmMail hi lo, []⟩ := by
  obtain ⟨l', mb', sent, hh, hok⟩ := listenSocket_ok hc hl hs (decodeDatagram_confirm hi lo)
  rw [hok]
  cases hh with
  | confirm => rfl
  | strayConfirm _ h => exact absurd ⟨hid, hrc⟩ h
  | duplicateReply ht | foreignReply ht | reply ht => cases ht
  | duplicate _ ht | message _ ht => exact absurd rfl ht

/-- A CONFIRM is accepted iff it is awaited and the id it is decoded to is `refMsgId`. -/
theorem listenSocket_confirm_iff (hc : connection.type = .udp) (hl : l.protocolType = .udp)
    (hs : mb.deliveryService = .udp) (hrc : l.receivedConfirm = false) :
    (∃ res, listenSocket connection l mb (some [MessageType.confirm.code, hi, lo]) = .ok res ∧
        res.listener.receivedConfirm = true ∧ res.listener.retries = 0 ∧
        res.listener.refMsgId = -1) ↔
      ((CInt.joinBytes hi lo).toNat : Int) = l.refMsgId := by
  constructor
  · rintro ⟨res, hok, hrc', -⟩
    obtain ⟨hmail, sent, -, hh⟩ := listenSocket_udp hc hl hs hok
    rcases hh.listener_cases with heq | ⟨-, hid, -, -⟩
    · rw [heq, hrc] at hrc'
      cases hrc'
    · rw [← Except.ok.inj ((decodeDatagram_confirm hi lo).symm.trans hmail)] at hid
      exact hid
  · intro hid
    exact ⟨_, listenSocket_confirm hc hl hs hrc hid, rfl, rfl, rfl⟩

end Udp

/-! ## The mail in flight -/

theorem numbers_eq_cons {m : Mail} {n : UInt16} (hm : m.data.numbered = true)
    (hn : m.getMessageID = n.toNat) : ∃ ns, m.data.numbers = n :: ns := by
  rw [Mail.getMessageID] at hn
  cases hd : m.data <;> rw [hd] at hn hm <;> try cases hm
  case auth a =>
    have : a.messageID = n := UInt16.toNat_inj.1 (Int.ofNat_inj.1 hn)
    exact ⟨[], by rw [MessageData.numbers, this]⟩
  all_goals
    simp only at hn
    simp only [MessageData.numbers, hn, CInt.ofInt_toNat]
    exact ⟨_, rfl⟩

/-- The second and the third byte of a numbered mail are its id. -/
theorem sendData_id {connection : NetworkConnection} (hc : connection.type = .udp) {m : Mail}
    {n : UInt16} {c hi lo : Byte} {rest : Bytes} (hm : m.data.numbered = true)
    (hn : m.getMessageID = n.toNat)
    (h : connection.sendData m = .ok (c :: hi :: lo :: rest)) :
    hi = CInt.hiByte n ∧ lo = CInt.loByte n := by
  obtain ⟨ns, hns⟩ := numbers_eq_cons hm hn
  rw [NetworkConnection.sendData, hc] at h
  change udpSerializer.serialize m = _ at h
  rw [MailSerializer.serialize] at h
  rcases ht : m.type with _ | type
  · rw [ht] at h
    cases h
  · rw [ht] at h
    simp only [MailSerializer.serializeAs_udp, visit_udp, hns, List.flatMap_cons, CInt.htons,
      List.cons_append, Except.ok.injEq, List.cons.injEq] at h
    exact ⟨h.2.1.symm, h.2.2.1.symm⟩

namespace Client

variable {connection : NetworkConnection} {t es : List Event} {s s' : Client}

/-- A numbered mail that was transmitted has a 16-bit id. -/
theorem exists_id_of_transmitted (r : (system connection).Run t s) {mail : Mail}
    (h : mail ∈ transmitted t) (hm : mail.data.numbered = true) :
    ∃ n : UInt16, mail.getMessageID = n.toNat := by
  have hpop : mail ∈ popped t := by
    rw [popped_eq r]
    exact List.mem_append_left _ h
  obtain ⟨mail', -, n, rfl⟩ := exists_of_mem_stamp ((popped_prefix_submitted r).subset hpop)
  rw [Mail.numbered_stamped] at hm
  exact ⟨n, Mail.getMessageID_stamped n hm⟩

/-- In every reachable state in UDP mode in which the numbered mail `mail`, transmitted last, awaits
its CONFIRM, `refMsgId` is its id `n`, and the CONFIRM with the two id bytes of its datagram is
recognised iff the low byte of `n` is below 0x80 or its high byte is 0xFF. -/
theorem confirm_recognised_iff (hu : connection.type = .udp) (r : (system connection).Run t s)
    (hrc : s.listener.receivedConfirm = false) {mail : Mail}
    (hlast : (transmitted t).getLast? = some mail) (hm : mail.data.numbered = true)
    {c h l : Byte} {rest : Bytes} (hbytes : connection.sendData mail = .ok (c :: h :: l :: rest)) :
    ∃ n : UInt16, mail.getMessageID = n.toNat ∧ s.listener.refMsgId = n.toNat ∧
      ((∃ res, ChatClient.listenSocket connection s.listener s.mailbox
            (some [MessageType.confirm.code, h, l]) = .ok res ∧
          res.listener.receivedConfirm = true ∧ res.listener.retries = 0 ∧
          res.listener.refMsgId = -1) ↔
        n.toNat % 256 < 0x80 ∨ n.toNat / 256 = 0xFF) := by
  have hc := consistent r
  obtain ⟨hlast', harmed⟩ := last_transmitted hu r hrc
  obtain rfl : s.listener.confMail = mail := Option.some.inj (hlast'.symm.trans hlast)
  obtain ⟨n, hn⟩ := exists_id_of_transmitted r (List.mem_of_getLast? hlast) hm
  obtain ⟨rfl, rfl⟩ := sendData_id hu hm hn hbytes
  refine ⟨n, hn, harmed.trans hn, ?_⟩
  rw [listenSocket_confirm_iff hu (hc.protocol.trans hu) (hc.service.trans hu) hrc, harmed, hn,
    Int.ofNat_inj, UInt16.toNat_inj]
  exact receivedID_eq_iff n

/-- The first AUTH of a session is in flight. -/
theorem confirm_recognised_iff_first :
    ∃ t s mail c h l rest, (system { type := .udp }).Run t s ∧
      (transmitted t).getLast? = some mail ∧
      udpSerializer.serialize mail = .ok (c :: h :: l :: rest) ∧
      ∃ n : UInt16, mail.getMessageID = n.toNat ∧ s.listener.refMsgId = n.toNat ∧
        ((∃ res, ChatClient.listenSocket { type := .udp } s.listener s.mailbox
              (some [MessageType.confirm.code, h, l]) = .ok res ∧
            res.listener.receivedConfirm = true ∧ res.listener.retries = 0 ∧
            res.listener.refMsgId = -1) ↔
          n.toNat % 256 < 0x80 ∨ n.toNat / 256 = 0xFF) := by
  have r := run_of_exec { type := .udp } (.init rfl)
    [.sendMail (authMail 0), .pushMail, .notifyListener, .loopHead,
      .epollWait (.ready [.toSendPipe]) 0, .readNotify, .popMail, .transmit] rfl
  exact ⟨_, _, authMail 0, _, _, _, _, r, rfl, rfl,
    confirm_recognised_iff rfl r rfl rfl rfl rfl⟩

/-! ## A session of any length -/

section Session

/-- Every mail before the one with number `n` was confirmed, and that was an AUTH. -/
def confirmed (n : UInt16) : Client where
  mailbox := { deliveryService := .udp, sequenceUDPNumber := n }
  listener :=
    { protocolType := .udp, confMail := authMail (n - 1), toSendRegistered := false,
      refAuthId := (n - 1).toNat }
  epoll := [.stdinPipe, .socketPipe, .signalPipe]
  stopWatch := ⟨0, 0, true⟩
  now := 0

/-- The AUTH with number `n` is in flight, and there is something to read from the socket. -/
def awaiting (n : UInt16) : Client where
  mailbox := { deliveryService := .udp, sequenceUDPNumber := n + 1 }
  listener :=
    { protocolType := .udp, confMail := authMail n, receivedConfirm := false,
      toSendRegistered := false, refMsgId := n.toNat, refAuthId := n.toNat }
  epoll := [.stdinPipe, .socketPipe, .signalPipe]
  place := .events [.socketPipe]
  stopWatch := ⟨0, 0, true⟩
  now := 0

theorem exec_auth (n : UInt16) :
    (confirmed n).exec udpConnection
      [.sendMail (authMail 0), .pushMail, .notifyListener, .loopHead,
        .epollWait (.ready [.toSendPipe]) 0, .readNotify, .popMail, .transmit, .loopHead,
        .epollWait (.ready [.socketPipe]) 0] =
      some (awaiting n, [.submitted (authMail 0), .pushed (authMail n), .waited (-1) 0,
        .popped (authMail n),
        .transmitted (authMail n) (udpSerializer.serializeAs .auth (authMail n).data),
        .waited 250 0]) := rfl

/-- The CONFIRM for an id that survives `readUInt16`. -/
theorem step_confirm {n : UInt16} (hn : receivedID n = n) :
    (awaiting n).step udpConnection
        (.listenSocket (some [MessageType.confirm.code, CInt.hiByte n, CInt.loByte n])) =
      some (confirmed (n + 1), [.received [MessageType.confirm.code, CInt.hiByte n, CInt.loByte n]
        (receivedConfirmMail (CInt.hiByte n) (CInt.loByte n)) false]) := by
  have hid : ((CInt.joinBytes (CInt.hiByte n) (CInt.loByte n)).toNat : Int) = n.toNat :=
    congrArg (fun v : UInt16 => (v.toNat : Int)) hn
  have hok : ChatClient.listenSocket udpConnection (awaiting n).listener (awaiting n).mailbox
      (some [MessageType.confirm.code, CInt.hiByte n, CInt.loByte n]) = _ :=
    listenSocket_confirm rfl rfl rfl rfl hid
  have hnext : n + 1 - 1 = n := by simp
  simp only [step, listenSocket, hok]
  rw [confirmed, hnext]
  rfl

/-- A session of AUTH mails, each confirmed before the next, up to the first id that does not survive
`readUInt16`. -/
theorem exists_run_confirmed {k : ℕ} (hk : 1 ≤ k) (hk' : k ≤ 128) :
    ∃ t, (system udpConnection).Run t (confirmed (UInt16.ofNat k)) := by
  induction k, hk using Nat.le_induction with
  | base =>
    exact ⟨_, run_of_exec _ (.init rfl)
      [.sendMail (authMail 0), .pushMail, .notifyListener, .loopHead,
        .epollWait (.ready [.toSendPipe]) 0, .readNotify, .popMail, .transmit, .loopHead,
        .epollWait (.ready [.socketPipe]) 0, .listenSocket (some [0, 0, 0])] rfl⟩
  | succ k hk ih =>
    obtain ⟨t, r⟩ := ih (by omega)
    have r := run_of_exec _ r _ (exec_auth _)
    have hn : receivedID (UInt16.ofNat k) = UInt16.ofNat k := by
      rw [receivedID_eq_iff, UInt16.toNat_ofNat']
      omega
    have r := r.step ⟨_, step_confirm hn⟩
    rw [UInt16.ofNat_add]
    exact ⟨_, r⟩

/-- The AUTH with id 128 is in flight, and its CONFIRM is not recognised. -/
theorem confirm_unrecognised_128 :
    ∃ t s mail c h l rest, (system udpConnection).Run t s ∧ s.listener.receivedConfirm = false ∧
      (transmitted t).getLast? = some mail ∧ mail.data.numbered = true ∧
      mail.getMessageID = 128 ∧ s.listener.refMsgId = 128 ∧
      udpConnection.sendData mail = .ok (c :: h :: l :: rest) ∧
      ¬ ∃ res, ChatClient.listenSocket udpConnection s.listener s.mailbox
            (some [MessageType.confirm.code, h, l]) = .ok res ∧
          res.listener.receivedConfirm = true ∧ res.listener.retries = 0 ∧
          res.listener.refMsgId = -1 := by
  obtain ⟨t, r⟩ := exists_run_confirmed (by decide : 1 ≤ 128) le_rfl
  have r := run_of_exec _ r _ (exec_auth _)
  refine ⟨_, _, authMail 128, _, 0, 128, _, r, rfl, ?_, rfl, rfl, rfl, rfl, ?_⟩
  · simp [transmitted]
  · rw [listenSocket_confirm_iff rfl rfl rfl rfl]
    decide

end Session

/-! ## Sending a CONFIRM -/

/-- In every reachable state in UDP mode and for every datagram that is decoded to something other
than a CONFIRM, `listenSocket` sends a CONFIRM with its id iff the message is a REPLY that was
received before or refers to the last AUTH or JOIN, or is no REPLY and above the watermark. -/
theorem confirm_sent_iff (hu : connection.type = .udp) (r : (system connection).Run t s)
    {datagram : Bytes} {mail : Mail} (hdec : decodeDatagram (some datagram) = .ok mail)
    (ht : mail.type ≠ some .confirm) :
    (∃ res, ChatClient.listenSocket connection s.listener s.mailbox (some datagram) = .ok res ∧
        (confirmMail mail.getMessageID,
          MessageType.confirm.code :: CInt.htons (UInt16.ofInt mail.getMessageID)) ∈ res.sent) ↔
      (mail.type = some .reply ∧ (mail.getMessageID ≤ s.mailbox.srvMsgId ∨
          s.listener.refAuthId = mail.getRefMessageID)) ∨
        (mail.type ≠ some .reply ∧ s.mailbox.srvMsgId < mail.getMessageID) := by
  have hc := consistent r
  obtain ⟨l', mb', sent, hh, hok⟩ :=
    listenSocket_ok hu (hc.protocol.trans hu) (hc.service.trans hu) hdec
  have hsent : (∃ res, ChatClient.listenSocket connection s.listener s.mailbox (some datagram) =
        .ok res ∧ (confirmMail mail.getMessageID,
          MessageType.confirm.code :: CInt.htons (UInt16.ofInt mail.getMessageID)) ∈ res.sent) ↔
      confirmMail mail.getMessageID ∈ sent := by
    rw [hok]
    simp [sentBytes]
  rw [hsent]
  cases hh with
  | duplicateReply ht hid => simp [ht, hid]
  | foreignReply ht hid href => simp [ht, href, hid]
  | reply ht hid href => simp [ht, href]
  | confirm ht' | strayConfirm ht' => exact absurd ht' ht
  | duplicate ht _ hid => simp [ht, hid]
  | message ht _ hid => simp [ht, hid]

/-- The first message of a server. -/
theorem confirm_sent_iff_first :
    ∃ t s, (system udpConnection).Run t s ∧ transmitted t = [authMail 0] ∧
      s.mailbox.srvMsgId = -1 ∧
      ((∃ res, ChatClient.listenSocket udpConnection s.listener s.mailbox
            (some (textDatagram 1)) = .ok res ∧
          (confirmMail (textMail 1).getMessageID, MessageType.confirm.code ::
            CInt.htons (UInt16.ofInt (textMail 1).getMessageID)) ∈ res.sent) ↔
        ((textMail 1).type = some .reply ∧ ((textMail 1).getMessageID ≤ s.mailbox.srvMsgId ∨
            s.listener.refAuthId = (textMail 1).getRefMessageID)) ∨
          ((textMail 1).type ≠ some .reply ∧ s.mailbox.srvMsgId < (textMail 1).getMessageID)) := by
  have r := run_of_exec udpConnection (.init rfl) (authSent ++ socketReady) rfl
  exact ⟨_, _, r, rfl, rfl, confirm_sent_iff rfl r rfl (by decide)⟩

/-- Behind the AUTH, the first message of a server comes again, because its CONFIRM was lost. -/
theorem duplicate_unconfirmed :
    ∃ t s, (system udpConnection).Run t s ∧ s.place = .events [.socketPipe] ∧
      transmitted t = [authMail 0] ∧ .received (textDatagram 1) (textMail 1) true ∈ t ∧
      decodeDatagram (some (textDatagram 1)) = .ok (textMail 1) ∧
      (textMail 1).type ≠ some .confirm ∧
      ¬ ∃ res, ChatClient.listenSocket udpConnection s.listener s.mailbox
            (some (textDatagram 1)) = .ok res ∧
          (confirmMail 1, MessageType.confirm.code :: CInt.htons (UInt16.ofInt 1)) ∈ res.sent := by
  obtain ⟨t, s, r, hp, hsent, hreceived, hnone⟩ : ∃ t s, (system udpConnection).Run t s ∧
      s.place = .events [.socketPipe] ∧ transmitted t = [authMail 0] ∧
      .received (textDatagram 1) (textMail 1) true ∈ t ∧
      ChatClient.listenSocket udpConnection s.listener s.mailbox (some (textDatagram 1)) =
        .ok ⟨s.listener, s.mailbox, textMail 1, []⟩ :=
    ⟨_, _, run_of_exec udpConnection (.init rfl) (firstReceived ++ socketReady) rfl, rfl, rfl,
      by decide, rfl⟩
  refine ⟨t, s, r, hp, hsent, hreceived, rfl, by decide, ?_⟩
  rintro ⟨res, hok, hmem⟩
  rw [hnone] at hok
  cases hok
  cases hmem

end Client

end ChatClient

import ChatClient.Lib.Outcome
import ChatClient.Transition

/-!
# What the listener's functions change

None of the functions that receive something touches `outgoingMails` or the sequence number
(`MailBox.Receives`), and each of them has one lemma here that says what it leaves of the listener.
-/

namespace ChatClient

open MailBox Outcome

/-! ## The mailbox -/

/-- `mb'` is `mb` after something was received: mails were added to `incomingMails`, and the queue
of the other direction, its sequence number and the protocol are as before. -/
structure MailBox.Receives (mb mb' : MailBox) : Prop where
  incoming : mb.incomingMails <+: mb'.incomingMails
  outgoing : mb'.outgoingMails = mb.outgoingMails
  sequence : mb'.sequenceUDPNumber = mb.sequenceUDPNumber
  service : mb'.deliveryService = mb.deliveryService

namespace MailBox

theorem Receives.refl (mb : MailBox) : Receives mb mb := ⟨List.prefix_rfl, rfl, rfl, rfl⟩

theorem Receives.trans {mb₁ mb₂ mb₃ : MailBox} (h : Receives mb₁ mb₂) (h' : Receives mb₂ mb₃) :
    Receives mb₁ mb₃ :=
  ⟨h.incoming.trans h'.incoming, h'.outgoing.trans h.outgoing, h'.sequence.trans h.sequence,
    h'.service.trans h.service⟩

theorem receives_addMail (mb : MailBox) (mail : Mail) : Receives mb (mb.addMail mail) := by
  unfold addMail
  split_ifs
  · exact .refl mb
  · exact ⟨List.prefix_append _ _, rfl, rfl, rfl⟩

@[simp] theorem addMail_srvMsgId (mb : MailBox) (mail : Mail) :
    (mb.addMail mail).srvMsgId = mb.srvMsgId := by
  unfold addMail
  split_ifs <;> rfl

/-- The ways through `writeMail` for a line of user input: the mail and the mailbox it leaves. -/
inductive LineWritten (mb : MailBox) (line : Bytes) (mail : Mail) : Mail → MailBox → Prop
  | auth {m : AuthMessage} (hc : word 0 line = chars "/auth")
      (hm : AuthMessage.new mb.sequenceUDPNumber (word 1 line) (word 3 line) (word 2 line) = .ok m) :
      LineWritten mb line mail
        { mail with type := some .auth, data := .auth m, addToMailQueue := true }
        { mb with displayName := m.displayName.val }
  | join {m : JoinMessage} (hc : word 0 line = chars "/join")
      (hm : JoinMessage.new mb.sequenceUDPNumber.toNat (word 1 line) mb.displayName = .ok m) :
      LineWritten mb line mail
        { mail with type := some .join, data := .join m, addToMailQueue := true } mb
  | rename (hc : word 0 line = chars "/rename") :
      LineWritten mb line mail { mail with addToMailQueue := false }
        { mb with displayName := word 1 line }
  /-- `/help` or `/print` -/
  | silent (hc : word 0 line = chars "/help" ∨ word 0 line = chars "/print") :
      LineWritten mb line mail { mail with addToMailQueue := false } mb
  | text {m : TextMessage}
      (hc : word 0 line ∉
        [chars "/auth", chars "/join", chars "/rename", chars "/help", chars "/print"])
      (hm : TextMessage.new mb.sequenceUDPNumber.toNat mb.displayName line = .ok m) :
      LineWritten mb line mail
        { mail with
          type := some .msg, data := .text { m with toSend := true }, addToMailQueue := true } mb

theorem writeMailLine_cases {mb mb' : MailBox} {line : Bytes} {mail mail' : Mail} {b : Bool}
    (h : mb.writeMailLine line mail = .ok (b, mail', mb')) :
    b = true ∧ LineWritten mb line mail mail' mb' := by
  rw [writeMailLine, bind_eq_ok] at h
  obtain ⟨⟨command, iss⟩, hword, h⟩ := h
  obtain ⟨rfl, rfl⟩ := of_extract (k := 0) hword
  dsimp only at h
  split_ifs at h with hauth hjoin hrename hhelp hprint
  · rw [bind_eq_ok] at h
    obtain ⟨⟨username, iss₁⟩, h₁, h⟩ := h
    obtain ⟨rfl, rfl⟩ := of_extract h₁
    rw [bind_eq_ok] at h
    obtain ⟨⟨secret, iss₂⟩, h₂, h⟩ := h
    obtain ⟨rfl, rfl⟩ := of_extract h₂
    rw [bind_eq_ok] at h
    obtain ⟨⟨dN, iss₃⟩, h₃, h⟩ := h
    obtain ⟨rfl, rfl⟩ := of_extract h₃
    rw [bind_eq_ok] at h
    obtain ⟨m, hm, h⟩ := h
    cases h
    exact ⟨rfl, .auth hauth hm⟩
  · rw [bind_eq_ok] at h
    obtain ⟨⟨channelID, iss₁⟩, h₁, h⟩ := h
    obtain ⟨rfl, rfl⟩ := of_extract h₁
    rw [bind_eq_ok] at h
    obtain ⟨m, hm, h⟩ := h
    cases h
    exact ⟨rfl, .join hjoin hm⟩
  · rw [bind_eq_ok] at h
    obtain ⟨⟨newDisplayName, iss₁⟩, h₁, h⟩ := h
    obtain ⟨rfl, rfl⟩ := of_extract h₁
    cases h
    exact ⟨rfl, .rename hrename⟩
  · cases h
    exact ⟨rfl, .silent (.inl hhelp)⟩
  · cases h
    exact ⟨rfl, .silent (.inr hprint)⟩
  · rw [bind_eq_ok] at h
    obtain ⟨m, hm, h⟩ := h
    cases h
    exact ⟨rfl, .text (by simp [hauth, hjoin, hrename, hhelp, hprint]) hm⟩

/-- The type of the mail that `writeMailType` makes. -/
def writtenType : MessageType → MessageType
  | .bye => .bye
  | .confirm => .confirm
  | _ => .err

/-- An ERR is made with the display name, and its content is valid. -/
theorem writeMailType_checks (mb : MailBox) (mail : Mail) :
    Checks Error.Invalid (mb.writeMailType .err mail) (ValidDisplayName mb.displayName) := by
  have hcontent : ValidMessageContent (chars "MessageContent") := by decide
  exact (ErrorMessage.new_checks _ mb.displayName (chars "MessageContent")).map.congr
    (and_iff_left hcontent)

/-- Only the type and the data are written, and they belong together. -/
theorem writeMailType_ok {mb : MailBox} {msgType : MessageType} {mail mail' : Mail} {ref : Int}
    {b : Bool} (h : mb.writeMailType msgType mail ref = .ok (b, mail')) :
    ∃ data : MessageData, data.type = writtenType msgType ∧
      mail' = { mail with type := some data.type, data } := by
  unfold writeMailType at h
  cases msgType with
  | bye =>
    cases h
    exact ⟨.bye _, rfl, rfl⟩
  | confirm =>
    cases h
    exact ⟨.confirm _, rfl, rfl⟩
  | _ =>
    simp only [bind_eq_ok] at h
    obtain ⟨errMsg, -, h⟩ := h
    cases h
    exact ⟨.error errMsg, rfl, rfl⟩

theorem writeMailType_error {mb : MailBox} {msgType : MessageType} {mail : Mail} {ref : Int}
    {e : Error} (h : mb.writeMailType msgType mail ref = .error e) : e.Invalid := by
  cases msgType with
  | bye | confirm => cases h
  | _ => exact (writeMailType_checks mb mail).error e h

/-- A line of user input changes the display name at most. -/
theorem writeMailLine_mailbox {mb mb' : MailBox} {line : Bytes} {mail mail' : Mail} {b : Bool}
    (h : mb.writeMailLine line mail = .ok (b, mail', mb')) :
    mb' = { mb with displayName := mb'.displayName } := by
  cases (writeMailLine_cases h).2 <;> rfl

end MailBox

/-- What was received from the user or by a signal leaves `srvMsgId` alone. -/
theorem readLines_receives {mb mb' : MailBox} {line data : Bytes}
    (h : readLines mb line data = .ok mb') : mb.Receives mb' ∧ mb'.srvMsgId = mb.srvMsgId := by
  induction data generalizing mb line with
  | nil =>
    cases h
    exact ⟨.refl _, rfl⟩
  | cons c rest ih =>
    simp only [readLines] at h
    split_ifs at h with hc hline
    · simp only [bind_eq_ok] at h
      obtain ⟨⟨written, mail, mb₁⟩, hwrite, h⟩ := h
      split_ifs at h
      obtain ⟨hrest, hsrv⟩ := ih h
      have hmb := writeMailLine_mailbox hwrite
      have hadd := (mb₁.receives_addMail mail).trans hrest
      rw [addMail_srvMsgId, congrArg MailBox.srvMsgId hmb] at hsrv
      refine ⟨⟨?_, ?_, ?_, ?_⟩, hsrv⟩
      · rw [← congrArg MailBox.incomingMails hmb]
        exact hadd.incoming
      · rw [hadd.outgoing, congrArg MailBox.outgoingMails hmb]
      · rw [hadd.sequence, congrArg MailBox.sequenceUDPNumber hmb]
      · rw [hadd.service, congrArg MailBox.deliveryService hmb]
    · exact ih h
    · exact ih h

theorem listenStdin_receives {mb mb' : MailBox} {received : Option Bytes}
    (h : listenStdin mb received = .ok mb') : mb.Receives mb' ∧ mb'.srvMsgId = mb.srvMsgId := by
  rcases received with _ | data
  · cases h
  · simp only [listenStdin] at h
    split_ifs at h
    exact readLines_receives h

theorem listenSignal_receives {l l' : Listener} {mb mb' : MailBox} {received : Option Bytes}
    (h : listenSignal l mb received = .ok (l', mb')) :
    l' = { l with keepRunning := false } ∧ mb.Receives mb' ∧ mb'.srvMsgId = mb.srvMsgId := by
  rcases received with _ | data
  · cases h
  · simp only [listenSignal] at h
    split_ifs at h
    simp only [bind_eq_ok] at h
    obtain ⟨⟨_, mail⟩, -, h⟩ := h
    cases h
    exact ⟨rfl, mb.receives_addMail _, mb.addMail_srvMsgId _⟩

/-- The mailbox behind `srvMsgId = mail.getMessageID()` and `addMail`. -/
def MailBox.deliver (mb : MailBox) (mail : Mail) : MailBox :=
  { mb with srvMsgId := mail.getMessageID }.addMail mail

theorem MailBox.receives_deliver (mb : MailBox) (mail : Mail) : mb.Receives (mb.deliver mail) := by
  have h := receives_addMail { mb with srvMsgId := mail.getMessageID } mail
  exact ⟨h.incoming, h.outgoing, h.sequence, h.service⟩

/-- The fields of the listener that only the head of the loop changes, or nothing at all. -/
structure Listener.SameSetup (l l' : Listener) : Prop where
  protocol : l'.protocolType = l.protocolType
  registered : l'.toSendRegistered = l.toSendRegistered

theorem Listener.SameSetup.refl (l : Listener) : l.SameSetup l := ⟨rfl, rfl⟩

section Loop

variable {connection : NetworkConnection} {l l' : Listener} {mb : MailBox}

/-- The listener after the CONFIRM it waited for. -/
def Listener.confirmed (l : Listener) : Listener :=
  { l with receivedConfirm := true, retries := 0, refMsgId := -1 }

/-- In TCP mode the mail is added, whatever it is. -/
theorem handleMail_tcp (hl : l.protocolType = .tcp) (mail : Mail) :
    handleMail connection l mb mail = .ok ⟨l, mb.addMail mail, mail, []⟩ := by
  rw [handleMail, hl]

/-- What `writeMail` returned `false` for is added, too. -/
theorem listenSocket_of_writeMail (hl : l.protocolType = .tcp) {received : Option Bytes}
    {buffer : Bytes} {written : Bool} {mail : Mail}
    (hreceive : connection.receiveData received = .ok buffer)
    (hwrite : mb.writeMailBuffer buffer {} = .ok (written, mail)) :
    listenSocket connection l mb received =
      .ok ⟨if written then l else { l with keepRunning := false }, mb.addMail mail, mail, []⟩ := by
  rw [listenSocket, hreceive]
  simp only [bind, Except.bind, hwrite]
  cases written
  · exact handleMail_tcp (l := { l with keepRunning := false }) hl mail
  · exact handleMail_tcp hl mail

/-- A `recv` or `recvfrom` that fails. -/
theorem listenSocket_none (connection : NetworkConnection) (l : Listener) (mb : MailBox) :
    listenSocket connection l mb none = .error (.runtimeError (chars "Failed to receive data")) := by
  rw [listenSocket, NetworkConnection.receiveData]
  rcases connection.type <;> rfl

/-- The mail is added or not, with or without a new `srvMsgId`, and at most a CONFIRM is noted. -/
theorem handleMail_cases {mail : Mail} {res : SocketResult}
    (h : handleMail connection l mb mail = .ok res) :
    res.mail = mail ∧
      (res.listener = l ∨ (l.protocolType = .udp ∧ res.listener = l.confirmed)) ∧
      (res.mailbox = mb ∨ res.mailbox = mb.addMail mail ∨ res.mailbox = mb.deliver mail) := by
  unfold handleMail at h
  split at h
  · cases h
    exact ⟨rfl, .inl rfl, .inr (.inl rfl)⟩
  · next hl =>
    rw [bind_eq_ok] at h
    obtain ⟨⟨_, reply⟩, -, h⟩ := h
    dsimp only at h
    split at h
    · cases h
    · -- a REPLY
      split_ifs at h
      · rw [bind_eq_ok] at h
        obtain ⟨_, -, h⟩ := h
        cases h
        exact ⟨rfl, .inl rfl, .inl rfl⟩
      · cases h
        exact ⟨rfl, .inl rfl, .inl rfl⟩
      · rw [bind_eq_ok] at h
        obtain ⟨_, -, h⟩ := h
        cases h
        exact ⟨rfl, .inl rfl, .inr (.inr rfl)⟩
    · -- a CONFIRM
      split at h
      · split_ifs at h
        · cases h
          exact ⟨rfl, .inr ⟨hl, rfl⟩, .inl rfl⟩
        · cases h
          exact ⟨rfl, .inl rfl, .inl rfl⟩
      · cases h
    · split_ifs at h
      · cases h
        exact ⟨rfl, .inl rfl, .inl rfl⟩
      · rw [bind_eq_ok] at h
        obtain ⟨_, -, h⟩ := h
        cases h
        exact ⟨rfl, .inl rfl, .inr (.inr rfl)⟩

theorem handleMail_receives {mail : Mail} {res : SocketResult}
    (h : handleMail connection l mb mail = .ok res) :
    mb.Receives res.mailbox ∧ l.SameSetup res.listener := by
  obtain ⟨-, hl, hmb⟩ := handleMail_cases h
  constructor
  · rcases hmb with heq | heq | heq <;> rw [heq]
    · exact .refl mb
    · exact mb.receives_addMail mail
    · exact mb.receives_deliver mail
  · rcases hl with heq | ⟨-, heq⟩ <;> rw [heq]
    · exact .refl l
    · exact ⟨rfl, rfl⟩

theorem listenSocket_receives {received : Option Bytes} {res : SocketResult}
    (h : listenSocket connection l mb received = .ok res) :
    mb.Receives res.mailbox ∧ l.SameSetup res.listener := by
  simp only [listenSocket, bind_eq_ok] at h
  obtain ⟨buffer, -, ⟨written, mail⟩, -, h⟩ := h
  obtain ⟨hmb, hl⟩ := handleMail_receives h
  refine ⟨hmb, ?_⟩
  split_ifs at hl
  · exact hl
  · exact ⟨hl.protocol, hl.registered⟩

/-! ## The loop -/

/-- While the flag `toSendRegistered` is right, the toggle cannot throw; it leaves the notify pipe in
the epoll set iff nothing awaits its CONFIRM, and the other descriptors alone. -/
theorem toggleSendPipe_eq {epoll : List FdType}
    (h : l.toSendRegistered = true ↔ .toSendPipe ∈ epoll) :
    ∃ epoll', toggleSendPipe l epoll =
        .ok ({ l with toSendRegistered := l.receivedConfirm }, epoll') ∧
      (.toSendPipe ∈ epoll' ↔ l.receivedConfirm = true) ∧
      ∀ fd ≠ .toSendPipe, (fd ∈ epoll' ↔ fd ∈ epoll) := by
  obtain ⟨_, _, receivedConfirm, toSendRegistered, _, _, _, _, _⟩ := l
  cases receivedConfirm <;> cases toSendRegistered
  · exact ⟨epoll, rfl, by rw [← h], fun _ _ => .rfl⟩
  · have hdel : unregisterFd epoll .toSendPipe = .ok (epoll.filter (· ≠ .toSendPipe)) :=
      if_pos (h.1 rfl)
    refine ⟨epoll.filter (· ≠ .toSendPipe), ?_, by simp, fun fd hfd => by simp [hfd]⟩
    simp only [toggleSendPipe, hdel, Bool.not_false, Bool.and_self, if_true]
    rfl
  · have hn : .toSendPipe ∉ epoll := fun hm => nomatch h.2 hm
    have hadd : registerFd epoll .toSendPipe = .ok (.toSendPipe :: epoll) := if_neg hn
    refine ⟨.toSendPipe :: epoll, ?_, by simp, fun fd hfd => by simp [hfd]⟩
    simp only [toggleSendPipe, hadd, Bool.not_false, Bool.not_true, Bool.and_self, if_true,
      Bool.false_eq_true, if_false]
    rfl
  · exact ⟨epoll, rfl, by rw [← h], fun _ _ => .rfl⟩

theorem toggleSendPipe_ok {epoll epoll' : List FdType}
    (hr : l.toSendRegistered = true ↔ .toSendPipe ∈ epoll)
    (h : toggleSendPipe l epoll = .ok (l', epoll')) :
    l' = { l with toSendRegistered := l.receivedConfirm } ∧
      (.toSendPipe ∈ epoll' ↔ l.receivedConfirm = true) ∧
      ∀ fd ≠ .toSendPipe, (fd ∈ epoll' ↔ fd ∈ epoll) := by
  obtain ⟨epoll₁, heq, hepoll⟩ := toggleSendPipe_eq hr
  rw [heq] at h
  cases h
  exact ⟨rfl, hepoll⟩

theorem retransmit_ok {bytes : Bytes} (h : retransmit connection l = .ok (l', bytes)) :
    l.retries < connection.getRetries ∧ connection.sendData l.confMail = .ok bytes ∧
      l' = { l with retries := l.retries + 1 } := by
  unfold retransmit at h
  split_ifs at h with hr
  rw [bind_eq_ok] at h
  obtain ⟨bytes', hsend, h⟩ := h
  cases h
  exact ⟨not_le.1 hr, hsend, rfl⟩

theorem transmit_udp {mail : Mail} {bytes : Bytes} (hl : l.protocolType = .udp)
    (h : transmit connection l mail = .ok (l', bytes)) :
    connection.sendData mail = .ok bytes ∧
      l' = { l with
        receivedConfirm := false
        refMsgId := mail.getMessageID
        confMail := mail
        refAuthId := if mail.type = some .auth ∨ mail.type = some .join then mail.getMessageID
          else l.refAuthId
        sentBye := if mail.type = some .bye then true else l.sentBye
        keepRunning := if mail.type = some .bye then false else l.keepRunning } := by
  rw [transmit, bind_eq_ok] at h
  obtain ⟨bytes', hsend, h⟩ := h
  simp only [hl] at h
  by_cases hb : mail.type = some .bye
  · have ha : ¬ (mail.type = some .auth ∨ mail.type = some .join) := by
      rw [hb]
      decide
    simp only [if_pos hb, if_neg ha, hl] at h ⊢
    cases h
    exact ⟨hsend, rfl⟩
  · simp only [if_neg hb, hl] at h ⊢
    split_ifs at h ⊢
    · cases h
      exact ⟨hsend, rfl⟩
    · cases h
      exact ⟨hsend, rfl⟩

theorem transmit_tcp {mail : Mail} {bytes : Bytes} (hl : l.protocolType = .tcp)
    (h : transmit connection l mail = .ok (l', bytes)) :
    connection.sendData mail = .ok bytes ∧
      l' = { l with
        sentBye := if mail.type = some .bye then true else l.sentBye
        keepRunning := if mail.type = some .bye then false else l.keepRunning } := by
  rw [transmit, bind_eq_ok] at h
  obtain ⟨bytes', hsend, h⟩ := h
  by_cases hb : mail.type = some .bye
  · simp only [if_pos hb, hl] at h ⊢
    cases h
    exact ⟨hsend, rfl⟩
  · simp only [if_neg hb, hl] at h ⊢
    cases h
    exact ⟨hsend, by rw [← hl]⟩

theorem transmit_sameSetup {mail : Mail} {bytes : Bytes}
    (h : transmit connection l mail = .ok (l', bytes)) : l.SameSetup l' := by
  rcases hl : l.protocolType
  · rw [(transmit_tcp hl h).2]
    exact ⟨rfl, rfl⟩
  · rw [(transmit_udp hl h).2]
    exact ⟨rfl, rfl⟩

end Loop

/-! ## The socket -/

/-- The ways through `writeTCPMail`: the value it returns and the mail it leaves. -/
inductive TextRead (mail : Mail) : Bool → Mail → Prop
  | rejected : TextRead mail false mail
  | bye : TextRead mail true { mail with type := some .bye }
  | unknown : TextRead mail true { mail with type := some .unknown, addToMailQueue := true }
  | message {data : MessageData} (hd : data.type ∈ [.err, .reply, .auth, .join, .msg])
      (hs : ∀ m, data = .text m → m.toSend = false) :
      TextRead mail true { mail with type := some data.type, data, addToMailQueue := true }

theorem parseTCPMail_cases {mb : MailBox} {mail m : Mail} {text rest : Bytes} {b : Bool}
    (h : parseTCPMail mb mail text = .ok ((b, m), rest)) : TextRead mail b m := by
  have hmessage : ∀ data : MessageData, data.type ∈ [.err, .reply, .auth, .join, .msg] →
      (∀ m, data = .text m → m.toSend = false) →
      TextRead mail true ⟨some data.type, data, true, mail.sigint⟩ := fun _ => .message
  rw [parseTCPMail, stateBind_eq_ok] at h
  obtain ⟨msgType, s₁, -, h⟩ := h
  split_ifs at h
  · cases h
    exact .bye
  · simp only [stateBind_eq_ok, lift_eq_ok] at h
    obtain ⟨_, _, -, _, _, -, _, _, -, _, _, -, msg, _, -, h⟩ := h
    split_ifs at h <;> cases h
    · exact .rejected
    · exact hmessage (.error msg) (by simp [MessageData.type]) (by simp)
  · simp only [stateBind_eq_ok, lift_eq_ok] at h
    obtain ⟨_, _, -, _, _, -, _, _, -, msg, _, -, h⟩ := h
    split_ifs at h <;> cases h
    · exact .rejected
    · exact hmessage (.reply msg) (by simp [MessageData.type]) (by simp)
  · simp only [stateBind_eq_ok, lift_eq_ok] at h
    obtain ⟨_, _, -, _, _, -, _, _, -, _, _, -, _, _, -, msg, _, -, h⟩ := h
    split_ifs at h <;> cases h
    · exact .rejected
    · exact hmessage (.auth msg) (by simp [MessageData.type]) (by simp)
  · simp only [stateBind_eq_ok, lift_eq_ok] at h
    obtain ⟨_, _, -, _, _, -, _, _, -, msg, _, -, h⟩ := h
    split_ifs at h <;> cases h
    · exact .rejected
    · exact hmessage (.join msg) (by simp [MessageData.type]) (by simp)
  · simp only [stateBind_eq_ok, lift_eq_ok] at h
    obtain ⟨_, _, -, _, _, -, _, _, -, _, _, -, msg, _, ⟨hmsg, -⟩, h⟩ := h
    split_ifs at h <;> cases h
    · exact .rejected
    · refine hmessage (.text msg) (by simp [MessageData.type]) ?_
      rintro m ⟨⟩
      exact (TextMessage.new_eq_ok hmsg).1
  · cases h
    exact .unknown

/-! ## The socket, in UDP mode -/

/-- What the decoder promises about the mails it returns. -/
structure Decoded (mail : Mail) : Prop where
  wellTagged : mail.WellTagged
  queued : mail.addToMailQueue = true ↔ mail.type ≠ some .confirm
  id : ∃ v : UInt16, mail.getMessageID = v.toNat

/-- The id of a CONFIRM is the one it refers to. -/
theorem Decoded.ref {mail : Mail} (h : Decoded mail) (ht : mail.type = some .confirm) :
    mail.getRefMessageID = mail.getMessageID := by
  have htag : mail.type = some mail.data.type := h.wellTagged
  rw [ht] at htag
  rw [Mail.getRefMessageID, Mail.getMessageID]
  cases hd : mail.data with
  | confirm m => rfl
  | _ => simp [hd, MessageData.type] at htag

theorem writeUDPMail_congr {mb mb' : MailBox} (h : mb.deliveryService = mb'.deliveryService)
    (mail : Mail) : writeUDPMail mb mail = writeUDPMail mb' mail := by
  unfold writeUDPMail
  rw [h]

theorem writeUDPMail_decoded {mb : MailBox} {mail m : Mail} {buffer rest : Bytes} {b : Bool}
    (hs : mb.deliveryService = .udp) (h : writeUDPMail mb mail buffer = .ok ((b, m), rest)) :
    b = true ∧ Decoded m := by
  rw [writeUDPMail, stateBind_eq_ok] at h
  obtain ⟨code, s₁, -, h⟩ := h
  rcases hty : MessageType.ofCode code with _ | ty
  · simp only [hty, stateBind_eq_ok] at h
    obtain ⟨id, s₂, -, h⟩ := h
    cases h
    exact ⟨rfl, rfl, by simp, id, rfl⟩
  · cases ty <;> simp only [hty, stateBind_eq_ok, lift_eq_ok] at h
    case auth =>
      obtain ⟨id, _, -, _, _, -, _, _, -, _, _, -, msg, _, ⟨hmsg, -⟩, h⟩ := h
      cases h
      exact ⟨rfl, rfl, by simp, msg.messageID, rfl⟩
    case join =>
      obtain ⟨id, _, -, _, _, -, _, _, -, msg, _, ⟨hmsg, -⟩, h⟩ := h
      cases h
      exact ⟨rfl, rfl, by simp, id, (JoinMessage.new_eq_ok hmsg).1⟩
    case err =>
      obtain ⟨id, _, -, _, _, -, _, _, -, msg, _, ⟨hmsg, -⟩, h⟩ := h
      cases h
      exact ⟨rfl, rfl, by simp, id, (ErrorMessage.new_eq_ok hmsg).1⟩
    case msg =>
      obtain ⟨id, _, -, _, _, -, _, _, -, msg, _, ⟨hmsg, -⟩, h⟩ := h
      cases h
      exact ⟨rfl, rfl, by simp, id, (TextMessage.new_eq_ok hmsg).2.1⟩
    case reply =>
      obtain ⟨id, _, -, _, _, -, _, _, -, _, _, -, msg, _, ⟨hmsg, -⟩, h⟩ := h
      cases h
      exact ⟨rfl, rfl, by simp, id, (ReplyMessage.new_eq_ok hmsg).1⟩
    case bye =>
      obtain ⟨id, _, -, h⟩ := h
      cases h
      exact ⟨rfl, rfl, by simp [hs], id, rfl⟩
    all_goals
      obtain ⟨id, _, -, h⟩ := h
      cases h
      exact ⟨rfl, rfl, by simp, id, rfl⟩

/-- The mail `listenSocket` answers a message with. -/
def confirmMail (id : Int) : Mail := { type := some .confirm, data := .confirm ⟨id⟩ }

@[simp] theorem getMessageID_confirmMail (id : Int) : (confirmMail id).getMessageID = id := rfl

theorem sendData_confirmMail {connection : NetworkConnection} (hc : connection.type = .udp)
    (id : Int) : connection.sendData (confirmMail id) =
      .ok (MessageType.confirm.code :: CInt.htons (UInt16.ofInt id)) := by
  rw [NetworkConnection.sendData, hc]
  rfl

/-- The ways through `handleMail`: the mailbox and the listener they leave and the mails they
answer. -/
inductive Handled (l : Listener) (mb : MailBox) (mail : Mail) :
    Listener → MailBox → List Mail → Prop
  | duplicateReply (ht : mail.type = some .reply) (hid : mail.getMessageID ≤ mb.srvMsgId) :
      Handled l mb mail l mb [confirmMail mail.getMessageID]
  | foreignReply (ht : mail.type = some .reply) (hid : mb.srvMsgId < mail.getMessageID)
      (href : l.refAuthId ≠ mail.getRefMessageID) : Handled l mb mail l mb []
  | reply (ht : mail.type = some .reply) (hid : mb.srvMsgId < mail.getMessageID)
      (href : l.refAuthId = mail.getRefMessageID) :
      Handled l mb mail l (mb.deliver mail) [confirmMail mail.getMessageID]
  | confirm (ht : mail.type = some .confirm) (hid : mail.getMessageID = l.refMsgId)
      (hc : l.receivedConfirm = false) :
      Handled l mb mail { l with receivedConfirm := true, retries := 0, refMsgId := -1 } mb []
  | strayConfirm (ht : mail.type = some .confirm)
      (h : ¬ (mail.getMessageID = l.refMsgId ∧ l.receivedConfirm = false)) :
      Handled l mb mail l mb []
  | duplicate (ht : mail.type ≠ some .reply) (ht' : mail.type ≠ some .confirm)
      (hid : mail.getMessageID ≤ mb.srvMsgId) : Handled l mb mail l mb []
  | message (ht : mail.type ≠ some .reply) (ht' : mail.type ≠ some .confirm)
      (hid : mb.srvMsgId < mail.getMessageID) :
      Handled l mb mail l (mb.deliver mail) [confirmMail mail.getMessageID]

/-- Only the CONFIRM that is waited for changes the listener. -/
theorem Handled.listener_cases {l l' : Listener} {mb mb' : MailBox} {mail : Mail} {sent : List Mail}
    (h : Handled l mb mail l' mb' sent) :
    l' = l ∨ (mail.type = some .confirm ∧ mail.getMessageID = l.refMsgId ∧
      l.receivedConfirm = false ∧
      l' = { l with receivedConfirm := true, retries := 0, refMsgId := -1 }) := by
  cases h with
  | confirm ht hid hc => exact .inr ⟨ht, hid, hc, rfl⟩
  | _ => exact .inl rfl

/-- The mails with the bytes `sendData` makes of them. -/
def sentBytes (mails : List Mail) : List (Mail × Bytes) :=
  mails.map fun mail =>
    (mail, MessageType.confirm.code :: CInt.htons (UInt16.ofInt mail.getMessageID))

theorem handleMail_udp {connection : NetworkConnection} {l : Listener} (mb : MailBox) {mail : Mail}
    (hc : connection.type = .udp) (hl : l.protocolType = .udp) (hm : mail.WellTagged) :
    ∃ l' mb' sent, Handled l mb mail l' mb' sent ∧
      handleMail connection l mb mail = .ok ⟨l', mb', mail, sentBytes sent⟩ := by
  have hwrite : mb.writeMailType .confirm {} mail.getMessageID =
      .ok (true, confirmMail mail.getMessageID) := rfl
  have hsend := sendData_confirmMail hc mail.getMessageID
  have htype : mail.type = some mail.data.type := hm
  unfold handleMail
  rw [hl, hwrite]
  cases hty : mail.data.type <;> rw [hty] at htype <;> rw [htype]
  case reply =>
    rcases le_or_gt mail.getMessageID mb.srvMsgId with hid | hid
    · refine ⟨_, _, _, .duplicateReply htype hid, ?_⟩
      simp only [bind, Except.bind, if_pos hid, hsend]
      rfl
    · by_cases href : l.refAuthId = mail.getRefMessageID
      · refine ⟨_, _, _, .reply htype hid href, ?_⟩
        simp only [bind, Except.bind, if_neg hid.not_ge, if_neg (not_not.2 href), hsend]
        rfl
      · refine ⟨_, _, _, .foreignReply htype hid href, ?_⟩
        simp only [bind, Except.bind, if_neg hid.not_ge, if_pos href]
        rfl
  case confirm =>
    obtain ⟨m, hdata⟩ : ∃ m, mail.data = .confirm m := by
      cases hd : mail.data <;> rw [hd] at hty <;> first | exact ⟨_, rfl⟩ | cases hty
    have hid : mail.getMessageID = m.refMessageID := by rw [Mail.getMessageID, hdata]
    by_cases h : mail.getMessageID = l.refMsgId ∧ l.receivedConfirm = false
    · refine ⟨_, _, _, .confirm htype h.1 h.2, ?_⟩
      rw [hid] at h
      simp only [bind, Except.bind, hdata, if_pos h, hl]
      rfl
    · refine ⟨_, _, _, .strayConfirm htype h, ?_⟩
      rw [hid] at h
      simp only [bind, Except.bind, hdata, if_neg h]
      rfl
  all_goals
    have ht : mail.type ≠ some .reply ∧ mail.type ≠ some .confirm := by
      rw [htype]
      decide
    rcases le_or_gt mail.getMessageID mb.srvMsgId with hid | hid
    · refine ⟨_, _, _, .duplicate ht.1 ht.2 hid, ?_⟩
      simp only [bind, Except.bind, if_pos hid]
      rfl
    · refine ⟨_, _, _, .message ht.1 ht.2 hid, ?_⟩
      simp only [bind, Except.bind, if_neg hid.not_ge, hsend]
      rfl

/-- What `receiveData` and `writeUDPMail` make of a datagram. -/
def decodeDatagram (received : Option Bytes) : Except Error Mail := do
  let buffer ← udpReceiveData received
  let (_, mail) ← (writeUDPMail { deliveryService := .udp } {}).run' buffer
  return mail

theorem decodeDatagram_decoded {received : Option Bytes} {mail : Mail}
    (h : decodeDatagram received = .ok mail) : Decoded mail := by
  simp only [decodeDatagram, bind_eq_ok] at h
  obtain ⟨buffer, -, ⟨b, m⟩, hm, h⟩ := h
  cases h
  obtain ⟨rest, hm⟩ := run'_eq_ok.1 hm
  exact (writeUDPMail_decoded rfl hm).2

section Udp

variable {connection : NetworkConnection} {l : Listener} {mb : MailBox}

theorem listenSocket_eq (hc : connection.type = .udp) (hs : mb.deliveryService = .udp)
    (received : Option Bytes) :
    listenSocket connection l mb received =
      decodeDatagram received >>= handleMail connection l mb := by
  have hwrite : ∀ buffer, mb.writeMailBuffer buffer {} =
      (writeUDPMail { deliveryService := .udp } {}).run' buffer := by
    intro buffer
    have hcongr : writeUDPMail mb {} = writeUDPMail { deliveryService := .udp } {} :=
      writeUDPMail_congr hs {}
    rw [writeMailBuffer, hs, ← hcongr]
  rw [listenSocket, decodeDatagram, NetworkConnection.receiveData, hc]
  simp only [hwrite]
  rcases udpReceiveData received with e | buffer
  · rfl
  · rcases hm : (writeUDPMail { deliveryService := .udp } {}).run' buffer with e | ⟨b, mail⟩
    · simp only [bind, Except.bind, hm]
    · obtain ⟨rest, hrest⟩ := run'_eq_ok.1 hm
      obtain ⟨rfl, -⟩ := writeUDPMail_decoded rfl hrest
      simp only [bind, Except.bind, hm]
      rfl

/-- In UDP mode `listenSocket` fails on nothing that is decoded. -/
theorem listenSocket_ok (hc : connection.type = .udp) (hl : l.protocolType = .udp)
    (hs : mb.deliveryService = .udp) {received : Option Bytes} {mail : Mail}
    (hdec : decodeDatagram received = .ok mail) :
    ∃ l' mb' sent, Handled l mb mail l' mb' sent ∧
      listenSocket connection l mb received = .ok ⟨l', mb', mail, sentBytes sent⟩ := by
  rw [listenSocket_eq hc hs, hdec]
  exact handleMail_udp mb hc hl (decodeDatagram_decoded hdec).wellTagged

theorem listenSocket_udp (hc : connection.type = .udp) (hl : l.protocolType = .udp)
    (hs : mb.deliveryService = .udp) {received : Option Bytes} {res : SocketResult}
    (h : listenSocket connection l mb received = .ok res) :
    decodeDatagram received = .ok res.mail ∧ ∃ sent, res.sent = sentBytes sent ∧
      Handled l mb res.mail res.listener res.mailbox sent := by
  have h' := h
  rw [listenSocket_eq hc hs, bind_eq_ok] at h'
  obtain ⟨mail, hdec, -⟩ := h'
  obtain ⟨l', mb', sent, hh, hok⟩ := listenSocket_ok hc hl hs hdec
  rw [hok] at h
  cases h
  exact ⟨hdec, sent, rfl, hh⟩

end Udp

end ChatClient

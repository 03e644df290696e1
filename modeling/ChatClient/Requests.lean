import ChatClient.Confirm
import ChatClient.Flags
import ChatClient.Output
import ChatClient.Program

/-!
# Requests and their answers

In UDP mode `listenSocket` accepts a REPLY only if it refers to the AUTH or JOIN transmitted last.  So
the answer to an earlier one is dropped (`reply_accepted_iff`), and the FSM cannot come to OPEN
without a REPLY that refers to an AUTH (`open_authenticated`).
-/

namespace ChatClient

open MailBox Outcome

namespace Client

variable {connection : NetworkConnection} {t es : List Event} {s s' : Client}

/-! ## The answer to a request -/

/-- `refAuthId` is the id of a transmitted AUTH or JOIN iff that of the last one is. -/
theorem refAuthId_eq_iff (hu : connection.type = .udp) (r : (system connection).Run t s) {m : Mail}
    (hm : m ∈ transmitted t) (hreq : m.type = some .auth ∨ m.type = some .join) :
    s.listener.refAuthId = m.getMessageID ↔
      ∃ last, lastRequest t = some last ∧ last.getMessageID = m.getMessageID := by
  rw [refAuthId_eq hu r]
  rcases hlast : lastRequest t with _ | last
  · have hmem : m ∈ (transmitted t).filter Mail.isRequest :=
      List.mem_filter.2 ⟨hm, Mail.isRequest_iff.2 hreq⟩
    rw [lastRequest, List.getLast?_eq_none_iff] at hlast
    rw [hlast] at hmem
    cases hmem
  · simp

/-- In every reachable state in UDP mode, a new REPLY that refers to a transmitted AUTH or JOIN is
delivered and confirmed iff the AUTH or JOIN transmitted last has that same id. -/
theorem reply_accepted_iff (hu : connection.type = .udp) (r : (system connection).Run t s) {m : Mail}
    (hm : m ∈ transmitted t) (hreq : m.type = some .auth ∨ m.type = some .join) {datagram : Bytes}
    {mail : Mail} (hdec : decodeDatagram (some datagram) = .ok mail)
    (ht : mail.type = some .reply) (href : mail.getRefMessageID = m.getMessageID)
    (hid : s.mailbox.srvMsgId < mail.getMessageID) :
    (∃ res, ChatClient.listenSocket connection s.listener s.mailbox (some datagram) = .ok res ∧
        res.mailbox.incomingMails = s.mailbox.incomingMails ++ [mail] ∧
        (confirmMail mail.getMessageID,
          MessageType.confirm.code :: CInt.htons (UInt16.ofInt mail.getMessageID)) ∈ res.sent) ↔
      ∃ last, lastRequest t = some last ∧ last.getMessageID = m.getMessageID := by
  have hc := consistent r
  obtain ⟨l', mb', sent, hh, hok⟩ :=
    listenSocket_ok hu (hc.protocol.trans hu) (hc.service.trans hu) hdec
  rw [hok, ← refAuthId_eq_iff hu r hm hreq, ← href]
  cases hh with
  | duplicateReply _ hid' => exact absurd hid (not_lt.2 hid')
  | foreignReply _ _ hne =>
    constructor
    · rintro ⟨res, hres, hmails, -⟩
      cases hres
      simp at hmails
    · intro heq
      exact absurd heq hne
  | reply _ _ heq =>
    constructor
    · intro _
      exact heq
    · intro _
      have hq : mail.addToMailQueue = true :=
        (decodeDatagram_decoded hdec).queued.2 (by rw [ht]; decide)
      have hnew := newMails_deliver s.mailbox hq
      refine ⟨_, rfl, ?_, by simp [sentBytes]⟩
      rw [(s.mailbox.receives_deliver mail).incoming_eq, hnew]
  | confirm ht' | strayConfirm ht' =>
    rw [ht] at ht'
    cases ht'
  | duplicate ht' | message ht' => exact absurd ht ht'

/-! ## Two requests -/

/-- A positive REPLY to the message `ref`, as a datagram. -/
def replyDatagram (id ref : Byte) : Bytes :=
  MessageType.reply.code :: 0 :: id :: 1 :: 0 :: ref :: (chars "ok" ++ [0])

/-- What it is decoded to. -/
def replyMail (id ref : Int) : Mail :=
  { type := some .reply, data := .reply ⟨id, true, ref, ⟨chars "ok", by decide⟩⟩ }

/-- The user logs in, the AUTH is transmitted and confirmed, and there is something to read from the
socket. -/
def oneRequest : List Program.Action :=
  Program.round [.stdinPipe] [.listenStdin (some (stdinStream [chars "/auth ann pw ann"]))] ++
  Program.mainThread 5 ++
  Program.round [.toSendPipe] [.readNotify, .popMail, .transmit] ++
  Program.round [.socketPipe] [.listenSocket (some [MessageType.confirm.code, 0, 0])] ++
  Program.round [.socketPipe] []

/-- The user logs in twice before the first answer. -/
def twoRequests : List Program.Action :=
  Program.round [.stdinPipe]
    [.listenStdin (some (stdinStream [chars "/auth ann pw ann", chars "/auth ann pw ann"]))] ++
  Program.mainThread 10 ++
  Program.round [.toSendPipe] [.readNotify, .popMail, .transmit] ++
  Program.round [.socketPipe] [.listenSocket (some [MessageType.confirm.code, 0, 0])] ++
  Program.round [.toSendPipe] [.readNotify, .popMail, .transmit] ++
  Program.round [.socketPipe] []

/-- The answer to the only request. -/
theorem reply_accepted_iff_only :
    ∃ t s, (system { type := .udp }).Run t s ∧ transmitted t = [authMail 0] ∧
      ((∃ res, ChatClient.listenSocket { type := .udp } s.listener s.mailbox
            (some (replyDatagram 0 0)) = .ok res ∧
          res.mailbox.incomingMails = s.mailbox.incomingMails ++ [replyMail 0 0] ∧
          (confirmMail (replyMail 0 0).getMessageID, MessageType.confirm.code ::
            CInt.htons (UInt16.ofInt (replyMail 0 0).getMessageID)) ∈ res.sent) ↔
        ∃ last, lastRequest t = some last ∧ last.getMessageID = (authMail 0).getMessageID) := by
  have r := Program.client_run (Program.run_of_exec { type := .udp } (.init rfl) oneRequest rfl)
  exact ⟨_, _, r, rfl, reply_accepted_iff rfl r List.mem_cons_self (.inl rfl) rfl rfl rfl
    (by decide)⟩

/-- The answer to the first of two requests is dropped. -/
theorem reply_dropped :
    ∃ t p, (Program.system { type := .udp }).Run t p ∧ p.client.place = .events [.socketPipe] ∧
      transmitted t = [authMail 0, authMail 1] ∧
      (t.filterMap fun | .received _ mail _ => mail.type | _ => none) = [.confirm] ∧
      decodeDatagram (some (replyDatagram 0 0)) = .ok (replyMail 0 0) ∧
      (replyMail 0 0).getRefMessageID = (authMail 0).getMessageID ∧
      p.client.mailbox.srvMsgId < (replyMail 0 0).getMessageID ∧
      ¬ ∃ res, ChatClient.listenSocket { type := .udp } p.client.listener p.client.mailbox
            (some (replyDatagram 0 0)) = .ok res ∧
          res.mailbox.incomingMails = p.client.mailbox.incomingMails ++ [replyMail 0 0] ∧
          (confirmMail (replyMail 0 0).getMessageID, MessageType.confirm.code ::
            CInt.htons (UInt16.ofInt (replyMail 0 0).getMessageID)) ∈ res.sent := by
  have r := Program.run_of_exec { type := .udp } (.init rfl) twoRequests rfl
  refine ⟨_, _, r, rfl, rfl, rfl, rfl, rfl, by decide, ?_⟩
  rintro ⟨res, hok, hmails, -⟩
  cases hok
  cases hmails

end Client

/-! ## How OPEN is reached -/

namespace FSM

variable {t : List Event} {s : FSM}

/-- A MSG or a JOIN is not sent before an AUTH. -/
theorem exists_auth_before (r : system.Run t s) {pre post : List (Option MessageType)}
    {ty : Option MessageType} (h : (sent t).map Mail.type = pre ++ ty :: post)
    (hty : ty = some .msg ∨ ty = some .join) : some .auth ∈ pre := by
  obtain ⟨l₁, rest, hl, rfl, hrest⟩ := List.map_eq_append_iff.1 h
  obtain ⟨m, l₂, rfl, rfl, -⟩ := List.map_eq_cons_iff.1 hrest
  obtain ⟨t₁, e, t₂, rfl, he, hpre, -⟩ := Lts.exists_of_filterMap hl
  obtain rfl : e = .sent m := by
    cases e with
    | consumed => cases he
    | sent m' =>
      cases he
      rfl
  obtain ⟨t₀, s₀, es, s₁, pre', post', r₀, hs, rfl, hes⟩ := r.exists_step rfl
  have htalk := talk_of_step hs (hes ▸ List.mem_append_right _ List.mem_cons_self)
  have hopen : s₀.state = .open_ := by
    rcases hty with hty | hty
    · exact (htalk.1 hty).1
    · exact htalk.2 hty
  obtain ⟨u, reply, r, v, rfl, ⟨a, ha, hauth⟩, -⟩ := (spoken r₀).admitted hopen
  rw [← hpre]
  refine List.mem_map.2 ⟨a, ?_, hauth⟩
  change a ∈ sent _
  simp [ha]

/-- In START and AUTH nothing but AUTHs has been sent. -/
theorem sent_auths (r : system.Run t s) (hs : s.state = .start ∨ s.state = .auth) :
    ∀ ty ∈ (sent t).map Mail.type, ty = some .auth := by
  obtain ⟨w, hw, hwt⟩ := (spoken r).word
  have hauths : ∀ y ∈ w, y = .auth := by
    rcases hs with hs | hs
    · rw [hs] at hw
      obtain rfl : w = [] := hw
      simp
    · rw [hs] at hw
      have hletters : ∀ v ∈ (RegularExpression.char MessageType.auth).matches', ∀ y ∈ v,
          y ∈ [MessageType.auth] := by
        rintro v rfl y hy
        exact hy
      intro y hy
      exact List.mem_singleton.1 (mem_of_mem_star hletters hw y hy)
  intro ty hty
  rw [hwt] at hty
  obtain ⟨y, hy, rfl⟩ := List.mem_map.1 hty
  rw [hauths y hy]

end FSM

/-- The number a REPLY refers to is a 16-bit number. -/
theorem decodeDatagram_ref {received : Option Bytes} {mail : Mail}
    (h : decodeDatagram received = .ok mail) (ht : mail.type = some .reply) :
    ∃ reply, mail.data = .reply reply ∧ mail.getRefMessageID = reply.refMessageID ∧
      0 ≤ reply.refMessageID := by
  simp only [decodeDatagram, bind_eq_ok] at h
  obtain ⟨buffer, -, ⟨b, m⟩, hm, h⟩ := h
  cases h
  obtain ⟨rest, hm⟩ := run'_eq_ok.1 hm
  rw [writeUDPMail, stateBind_eq_ok] at hm
  obtain ⟨code, s₁, -, hm⟩ := hm
  rcases hty : MessageType.ofCode code with _ | ty
  · simp only [hty, stateBind_eq_ok] at hm
    obtain ⟨id, s₂, -, hm⟩ := hm
    cases hm
    cases ht
  · cases ty <;> simp only [hty, stateBind_eq_ok, lift_eq_ok] at hm
    case reply =>
      obtain ⟨id, _, -, _, _, -, ref, _, -, _, _, -, msg, _, ⟨hmsg, -⟩, hm⟩ := hm
      cases hm
      refine ⟨msg, rfl, rfl, ?_⟩
      rw [(ReplyMessage.new_eq_ok hmsg).2.2.1]
      exact Int.natCast_nonneg _
    case auth =>
      obtain ⟨_, _, -, _, _, -, _, _, -, _, _, -, _, _, -, hm⟩ := hm
      cases hm
      cases ht
    case join | err | msg =>
      obtain ⟨_, _, -, _, _, -, _, _, -, _, _, -, hm⟩ := hm
      cases hm
      cases ht
    all_goals
      obtain ⟨_, _, -, hm⟩ := hm
      cases hm
      cases ht

namespace Client

variable {connection : NetworkConnection} {t : List Event} {s : Client}

/-- A REPLY that was delivered refers to the AUTH or JOIN transmitted last before it. -/
theorem lastRequest_of_delivered (hu : connection.type = .udp) (r : (system connection).Run t s)
    {pre post : List Event} {datagram : Bytes} {mail : Mail}
    (h : t = pre ++ .received datagram mail true :: post) (ht : mail.type = some .reply) :
    decodeDatagram (some datagram) = .ok mail ∧
      ∃ last, lastRequest pre = some last ∧ mail.getRefMessageID = last.getMessageID := by
  have hmem : .received datagram mail true ∈ t := by
    rw [h]
    exact List.mem_append_right _ List.mem_cons_self
  have hdec := decodeDatagram_of_received hu r hmem
  refine ⟨hdec, ?_⟩
  obtain ⟨s₀, received, res, r₀, hok, -, rfl, hdel⟩ := exists_listenSocket r h
  have hc := consistent r₀
  have href := refAuthId_eq hu r₀
  obtain ⟨-, sent, -, hh⟩ := listenSocket_udp hu (hc.protocol.trans hu) (hc.service.trans hu) hok
  have hnew : newMails s₀.mailbox res.mailbox ≠ [] := by simpa using hdel.symm
  generalize res.listener = l', res.mailbox = mb' at hh hnew
  cases hh with
  | duplicateReply | foreignReply | confirm | strayConfirm | duplicate =>
    exact absurd (newMails_self _) hnew
  | message ht' => exact absurd ht ht'
  | reply _ _ heq =>
    obtain ⟨reply, -, hreply, hnonneg⟩ := decodeDatagram_ref hdec ht
    rw [href, hreply] at heq
    rcases hlast : lastRequest pre with _ | last
    · rw [hlast] at heq
      change -1 = _ at heq
      omega
    · rw [hlast] at heq
      exact ⟨last, rfl, hreply.trans heq.symm⟩

end Client

theorem event_of_transmitted {t : List Event} {mail : Mail} (h : mail ∈ transmitted t) :
    ∃ pre bytes post, t = pre ++ .transmitted mail bytes :: post := by
  obtain ⟨e, he, heq⟩ := List.mem_filterMap.1 h
  cases e with
  | transmitted m bytes =>
    cases heq
    obtain ⟨pre, post, rfl⟩ := List.append_of_mem he
    exact ⟨pre, bytes, post, rfl⟩
  | _ => cases heq

namespace Program

variable {connection : NetworkConnection} {t es : List Event} {p p' : Program}

/-- An AUTH was transmitted, and after that a REPLY was delivered that has a true result and refers to
the AUTH. -/
def Opened (t : List Event) : Prop :=
  ∃ pre auth bytes mid datagram mail reply post,
    t = pre ++ .transmitted auth bytes :: (mid ++ .received datagram mail true :: post) ∧
    auth.type = some .auth ∧ decodeDatagram (some datagram) = .ok mail ∧
    mail.type = some .reply ∧ mail.data = .reply reply ∧ reply.result = true ∧
    reply.refMessageID = auth.getMessageID

theorem Opened.append (h : Opened t) (es : List Event) : Opened (t ++ es) := by
  obtain ⟨pre, auth, bytes, mid, datagram, mail, reply, post, rfl, h⟩ := h
  exact ⟨pre, auth, bytes, mid, datagram, mail, reply, post ++ es, by simp, h⟩

theorem transmitted_types (r : (system connection).Run t p) :
    (transmitted t).map Mail.type <+: (FSM.sent (t.filterMap loopEvent)).map Mail.type := by
  rw [sent_loopEvent, ← map_type_stamp 0 (submitted t)]
  exact (Client.transmitted_prefix_submitted (client_run r)).map _

/-- The REPLY that opens the session refers to an AUTH. -/
theorem opened_of_accept (hu : connection.type = .udp) (r : (system connection).Run t p)
    (hm : p.main = .run) (hs : p.fsm.state = .auth) (hp : p.fsm.place = .read)
    (ht : p.fsm.mail.type = some .reply) {reply : ReplyMessage} (hd : p.fsm.mail.data = .reply reply)
    (hres : reply.result = true) : Opened t := by
  have hloop := loop_run r
  have hclient := client_run r
  rw [loop_eq_fsm (by simp [hm])] at hloop
  -- the mail was taken from the queue, so it arrived
  have hmem : p.fsm.mail ∈ consumed t := by
    obtain ⟨-, t₀, old, heq, -⟩ := FSM.run_of_read hloop hp
    rw [← consumed_loopEvent, heq, FSM.consumed, List.filterMap_append]
    exact List.mem_append_right _ List.mem_cons_self
  obtain ⟨⟨origin, mail⟩, harrived, hmail⟩ :=
    List.mem_map.1 (mem_arrivals_of_consumed hclient hmem)
  obtain rfl : mail = p.fsm.mail := hmail
  rcases Client.event_of_arrival harrived with ⟨-, hentered⟩ | ⟨-, datagram, hreceived⟩
  · obtain ⟨hentered, hq⟩ := (Client.sourced hclient).entered _ hentered
    exact absurd ht (hentered.type_ne_reply hq)
  · -- it refers to the last request before its arrival, and so far every request is an AUTH
    obtain ⟨pre, post, rfl⟩ := List.append_of_mem hreceived
    obtain ⟨hdec, last, hlast, href⟩ := Client.lastRequest_of_delivered hu hclient rfl ht
    obtain ⟨hlast, -⟩ := mem_of_lastRequest hlast
    obtain ⟨u, bytes, v, rfl⟩ := event_of_transmitted hlast
    refine ⟨u, last, bytes, v, datagram, p.fsm.mail, reply, post, by simp, ?_, hdec, ht, hd, hres, ?_⟩
    · refine FSM.sent_auths hloop (.inr hs) _ ((transmitted_types r).subset ?_)
      refine List.mem_map.2 ⟨last, ?_, rfl⟩
      rw [transmitted_append]
      exact List.mem_append_left _ hlast
    · rw [← href, Mail.getRefMessageID, hd]

/-- In OPEN, or on the way there, the session has been opened. -/
theorem opened (hu : connection.type = .udp) (r : (system connection).Run t p) :
    (p.fsm.state = .open_ → Opened t) ∧ (p.main = .sending .open_ → Opened t) := by
  apply r.invariant
    (I := fun t p => (p.fsm.state = .open_ → Opened t) ∧ (p.main = .sending .open_ → Opened t))
  · rintro p rfl
    exact ⟨(fun h => nomatch h), (fun h => nomatch h)⟩
  · intro t p es p' r ih h
    have hopen : p.fsm.state = .open_ → Opened (t ++ es) := fun h => (ih.1 h).append es
    have hsending : p.main = .sending .open_ → Opened (t ++ es) := fun h => (ih.2 h).append es
    replace h := transition h
    cases h with
    | fail | listener | waitMail | misread | resume => exact ⟨hopen, hsending⟩
    | throw | finish | stop => exact ⟨hopen, fun h => nomatch h⟩
    | advance hm hi =>
      refine ⟨?_, fun h => nomatch h⟩
      rintro rfl
      exact hsending hm
    | @send turn _ _ hm hs hp ht hsend h =>
      refine ⟨hopen, fun hnext => hopen ?_⟩
      have hreact := FSM.turn_reaction hs ht
      clear ht h
      cases hreact with
      | say hs' | join hs' => exact hs'
      | accept | ignore | leave => cases hsend
      | authenticate | complain | quit => cases hnext
    | @quiet turn hm hs hp ht hsend =>
      rw [List.append_nil] at hopen hsending ⊢
      refine ⟨fun hnext => ?_, hsending⟩
      have hreact := FSM.turn_reaction hs ht
      clear ht
      cases hreact with
      | accept hs' ht hd hres =>
        refine opened_of_accept hu r hm hs' (hp.resolve_right ?_) ht hd hres
        rw [hs']
        decide
      | ignore => exact hopen hnext
      | leave => cases hnext
      | authenticate | say | join | complain | quit => cases hsend

/-- In every run in UDP mode: if the FSM is in OPEN, an AUTH was transmitted, and after that a REPLY
with a true result that refers to it was accepted; and no REPLY that is received before an AUTH was
transmitted is delivered. -/
theorem open_authenticated (hu : connection.type = .udp) (r : (system connection).Run t p) :
    (p.fsm.state = .open_ → Opened t) ∧
    ∀ pre datagram mail delivered post, t = pre ++ .received datagram mail delivered :: post →
      mail.type = some .reply → (∀ auth ∈ transmitted pre, auth.type ≠ some .auth) →
      delivered = false := by
  refine ⟨(opened hu r).1, ?_⟩
  rintro pre datagram mail delivered post h ht hnone
  by_contra hdel
  obtain rfl : delivered = true := by simpa using hdel
  obtain ⟨-, last, hlast, -⟩ := Client.lastRequest_of_delivered hu (client_run r) h ht
  obtain ⟨hmem, htype⟩ := mem_of_lastRequest hlast
  rcases htype with htype | htype
  · exact hnone last hmem htype
  · -- a JOIN is sent behind an AUTH only, and they are transmitted in that order
    obtain ⟨before, after, hsplit⟩ := List.append_of_mem hmem
    have hpre : (transmitted pre).map Mail.type <+: (transmitted t).map Mail.type := by
      rw [h, transmitted_append, List.map_append]
      exact List.prefix_append _ _
    obtain ⟨rest, hrest⟩ := hpre.trans (transmitted_types r)
    rw [hsplit, List.map_append, List.map_cons, htype, List.append_assoc] at hrest
    have hauth := FSM.exists_auth_before (loop_run r) hrest.symm (.inr rfl)
    obtain ⟨auth, hauth, hauthType⟩ := List.mem_map.1 hauth
    refine hnone auth ?_ hauthType
    rw [hsplit]
    exact List.mem_append_left _ hauth

/-- The user logs in, and the server agrees. -/
theorem open_authenticated_first :
    ∃ t p, (system { type := .udp }).Run t p ∧ p.fsm.state = .open_ ∧ Opened t := by
  have r := run_of_exec { type := .udp } (.init rfl)
    (Client.oneRequest ++
      [.listener (.listenSocket (some (Client.replyDatagram 0 0))), .main, .main]) rfl
  exact ⟨_, _, r, rfl, (open_authenticated rfl r).1 rfl⟩

end Program

end ChatClient

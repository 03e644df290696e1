import ChatClient.Delivery
import ChatClient.Stdin

/-!
# The way in: from the listener to `waitMail`

`waitMail` takes the mails from `incomingMails` in the order in which the listener added them
(`consumed_append_incoming`).  A mail that was added is queueable, and it was made from a line of user
input, by a signal, or from received bytes (`Entered`, `FromSocket`).
-/

namespace ChatClient

open MailBox Outcome

/-! ## What is added -/

/-- `writeMail` made the mail from a line. -/
def FromLine (mail : Mail) : Prop :=
  ∃ (mb : MailBox) (line : Bytes) (mb' : MailBox),
    mb.writeMailLine line {} = .ok (true, mail, mb')

/-- `writeMail` made the mail from received bytes. -/
def FromSocket (mail : Mail) : Prop :=
  ∃ (mb : MailBox) (buffer : Bytes) (written : Bool),
    mb.writeMailBuffer buffer {} = .ok (written, mail)

/-- The mail was made from a line of user input, or it is the ERR that stands for a signal. -/
def Entered (mail : Mail) : Prop :=
  FromLine mail ∨ (mail.type = some .err ∧ mail.sigint = true)

/-- A mail made from a line is a request or not for the queue, and it stands for no signal. -/
theorem FromLine.kind {mail : Mail} (h : FromLine mail) :
    mail.sigint = false ∧ (mail.addToMailQueue = true →
      mail.type = some .auth ∨ mail.type = some .join ∨ mail.type = some .msg) := by
  obtain ⟨mb, line, mb', h⟩ := h
  cases (writeMailLine_cases h).2 with
  | auth => exact ⟨rfl, fun _ => .inl rfl⟩
  | join => exact ⟨rfl, fun _ => .inr (.inl rfl)⟩
  | rename | silent => exact ⟨rfl, fun hq => absurd hq Bool.false_ne_true⟩
  | text => exact ⟨rfl, fun _ => .inr (.inr rfl)⟩

theorem FromLine.type {mail : Mail} (h : FromLine mail) (hq : mail.addToMailQueue = true) :
    mail.type = some .auth ∨ mail.type = some .join ∨ mail.type = some .msg := h.kind.2 hq

theorem Entered.type_ne_reply {mail : Mail} (h : Entered mail) (hq : mail.addToMailQueue = true) :
    mail.type ≠ some .reply := by
  rcases h with h | ⟨h, -⟩
  · rcases h.type hq with h | h | h <;> simp [h]
  · simp [h]

theorem writeUDPMail_toSend {mb : MailBox} {mail : Mail} {buffer rest : Bytes} {b : Bool}
    (h : writeUDPMail mb {} buffer = .ok ((b, mail), rest)) {m : TextMessage}
    (hm : mail.data = .text m) : m.toSend = false := by
  rw [writeUDPMail, stateBind_eq_ok] at h
  obtain ⟨code, s₁, -, h⟩ := h
  rcases hty : MessageType.ofCode code with _ | ty
  · simp only [hty, stateBind_eq_ok] at h
    obtain ⟨id, s₂, -, h⟩ := h
    cases h
    cases hm
  · cases ty <;> simp only [hty, stateBind_eq_ok, lift_eq_ok] at h
    case msg =>
      obtain ⟨id, _, -, _, _, -, _, _, -, msg, _, ⟨hmsg, -⟩, h⟩ := h
      cases h
      cases hm
      exact (TextMessage.new_eq_ok hmsg).1
    case auth | reply =>
      obtain ⟨id, _, -, _, _, -, _, _, -, _, _, -, msg, _, -, h⟩ := h
      cases h
      cases hm
    case err | join =>
      obtain ⟨id, _, -, _, _, -, _, _, -, msg, _, -, h⟩ := h
      cases h
      cases hm
    all_goals
      obtain ⟨id, _, -, h⟩ := h
      cases h
      cases hm

theorem parseTCPMail_toSend {mb : MailBox} {mail : Mail} {text rest : Bytes} {b : Bool}
    (h : parseTCPMail mb {} text = .ok ((b, mail), rest)) {m : TextMessage}
    (hm : mail.data = .text m) : m.toSend = false := by
  cases parseTCPMail_cases h with
  | rejected | bye | unknown => cases hm
  | message _ hs => exact hs m hm

/-- The flag that lets a MSG out is never set on a received one. -/
theorem FromSocket.toSend {mail : Mail} (h : FromSocket mail) {m : TextMessage}
    (hm : mail.data = .text m) : m.toSend = false := by
  obtain ⟨mb, buffer, written, h⟩ := h
  unfold writeMailBuffer at h
  split at h
  · obtain ⟨rest, h⟩ := run'_eq_ok.1 h
    exact writeUDPMail_toSend h hm
  · rw [writeTCPMail, bind_eq_ok] at h
    obtain ⟨⟨str, _⟩, -, h⟩ := h
    obtain ⟨rest, h⟩ := run'_eq_ok.1 h
    exact parseTCPMail_toSend h hm

/-! ## What a handler adds -/

theorem MailBox.Receives.incoming_eq {mb mb' : MailBox} (h : mb.Receives mb') :
    mb'.incomingMails = mb.incomingMails ++ newMails mb mb' := by
  obtain ⟨new, hnew⟩ := h.incoming
  rw [newMails, ← hnew, List.drop_left]

theorem newMails_of_eq {mb mb' : MailBox} {new : List Mail}
    (h : mb'.incomingMails = mb.incomingMails ++ new) : newMails mb mb' = new := by
  rw [newMails, h, List.drop_left]

theorem newMails_addMail {mb mb' : MailBox} (h : mb'.incomingMails = mb.incomingMails)
    (mail : Mail) : newMails mb (mb'.addMail mail) = [] ∨
      (newMails mb (mb'.addMail mail) = [mail] ∧ mail.addToMailQueue = true) := by
  unfold addMail
  split_ifs with hq
  · exact .inl (newMails_of_eq (by rw [h, List.append_nil]))
  · exact .inr ⟨newMails_of_eq (by rw [h]), by simpa using hq⟩

theorem newMails_deliver_cases (mb : MailBox) (mail : Mail) :
    newMails mb (mb.deliver mail) = [] ∨
      (newMails mb (mb.deliver mail) = [mail] ∧ mail.addToMailQueue = true) := by
  have h : { mb with srvMsgId := mail.getMessageID }.incomingMails = mb.incomingMails := rfl
  exact newMails_addMail h mail

theorem enterLine_new {mb mb' : MailBox} {line : Bytes} (h : enterLine mb line = .ok mb') :
    ∃ new, mb'.incomingMails = mb.incomingMails ++ new ∧
      ∀ mail ∈ new, FromLine mail ∧ mail.addToMailQueue = true := by
  rw [enterLine, bind_eq_ok] at h
  obtain ⟨⟨written, mail, mb₁⟩, hwrite, h⟩ := h
  dsimp only at h
  split_ifs at h with hw
  subst hw
  cases h
  have hmb : mb₁.incomingMails = mb.incomingMails := by rw [writeMailLine_mailbox hwrite]
  unfold addMail
  split_ifs with hq
  · exact ⟨[], by rw [hmb, List.append_nil], by simp⟩
  · refine ⟨[mail], by rw [hmb], fun m hm => ?_⟩
    obtain rfl := List.mem_singleton.1 hm
    exact ⟨⟨mb, line, mb₁, hwrite⟩, by simpa using hq⟩

theorem enterLines_new {mb mb' : MailBox} {lines : List Bytes}
    (h : lines.foldlM enterLine mb = .ok mb') :
    ∃ new, mb'.incomingMails = mb.incomingMails ++ new ∧
      ∀ mail ∈ new, FromLine mail ∧ mail.addToMailQueue = true := by
  induction lines generalizing mb with
  | nil =>
    cases h
    exact ⟨[], by simp, by simp⟩
  | cons line lines ih =>
    rw [List.foldlM_cons, bind_eq_ok] at h
    obtain ⟨mb₁, hline, h⟩ := h
    obtain ⟨new₁, heq₁, hnew₁⟩ := enterLine_new hline
    obtain ⟨new₂, heq₂, hnew₂⟩ := ih h
    refine ⟨new₁ ++ new₂, by rw [heq₂, heq₁, List.append_assoc], fun mail hm => ?_⟩
    rcases List.mem_append.1 hm with hm | hm
    · exact hnew₁ mail hm
    · exact hnew₂ mail hm

theorem listenStdin_new {mb mb' : MailBox} {received : Option Bytes}
    (h : listenStdin mb received = .ok mb') :
    ∀ mail ∈ newMails mb mb', FromLine mail ∧ mail.addToMailQueue = true := by
  rcases received with _ | data
  · cases h
  · simp only [listenStdin] at h
    split_ifs at h
    rw [readLines_eq] at h
    obtain ⟨new, heq, hnew⟩ := enterLines_new h
    rw [newMails_of_eq heq]
    exact hnew

theorem listenSignal_new {l l' : Listener} {mb mb' : MailBox} {received : Option Bytes}
    (h : listenSignal l mb received = .ok (l', mb')) :
    ∀ mail ∈ newMails mb mb',
      (mail.type = some .err ∧ mail.sigint = true) ∧ mail.addToMailQueue = true ∧
        mail.WellTagged := by
  rcases received with _ | data
  · cases h
  · simp only [listenSignal] at h
    split_ifs at h
    obtain ⟨⟨_, mail⟩, hwrite, h⟩ := bind_eq_ok.1 h
    obtain ⟨data, htype, rfl⟩ := writeMailType_ok hwrite
    cases h
    intro mail hm
    rcases newMails_addMail (Eq.refl mb.incomingMails) _ with hnew | ⟨hnew, hq⟩
    · rw [hnew] at hm
      cases hm
    · rw [hnew] at hm
      obtain rfl := List.mem_singleton.1 hm
      exact ⟨⟨congrArg some htype, rfl⟩, hq, rfl⟩

theorem handleMail_new {connection : NetworkConnection} {l : Listener} {mb : MailBox} {mail : Mail}
    {res : SocketResult} (h : handleMail connection l mb mail = .ok res) :
    res.mail = mail ∧ (newMails mb res.mailbox = [] ∨
      (newMails mb res.mailbox = [mail] ∧ mail.addToMailQueue = true)) := by
  obtain ⟨hmail, -, hmb⟩ := handleMail_cases h
  refine ⟨hmail, ?_⟩
  rcases hmb with heq | heq | heq <;> rw [heq]
  · exact .inl (newMails_self mb)
  · exact newMails_addMail rfl mail
  · exact newMails_deliver_cases mb mail

theorem listenSocket_new {connection : NetworkConnection} {l : Listener} {mb : MailBox}
    {received : Option Bytes} {res : SocketResult}
    (h : listenSocket connection l mb received = .ok res) :
    FromSocket res.mail ∧ (newMails mb res.mailbox = [] ∨
      (newMails mb res.mailbox = [res.mail] ∧ res.mail.addToMailQueue = true)) := by
  simp only [listenSocket, bind_eq_ok] at h
  obtain ⟨buffer, -, ⟨written, mail⟩, hwrite, h⟩ := h
  obtain ⟨hmail, hnew⟩ := handleMail_new h
  rw [hmail]
  exact ⟨⟨mb, buffer, written, hwrite⟩, hnew⟩

/-! ## The queue -/

/-- Where a mail in `incomingMails` came from. -/
inductive Origin
  /-- standard input or a signal -/
  | user
  /-- the socket -/
  | peer
deriving DecidableEq

/-- What an event added to `incomingMails`. -/
def arrival : Event → Option (Origin × Mail)
  | .entered mail => some (.user, mail)
  | .received _ mail true => some (.peer, mail)
  | _ => none

def arrivals (t : List Event) : List (Origin × Mail) := t.filterMap arrival

/-- The mails returned by `waitMail`. -/
def consumed (t : List Event) : List Mail :=
  t.filterMap fun | .consumed mail => some mail | _ => none

@[simp] theorem arrivals_append (t u : List Event) :
    arrivals (t ++ u) = arrivals t ++ arrivals u := List.filterMap_append

@[simp] theorem consumed_append (t u : List Event) :
    consumed (t ++ u) = consumed t ++ consumed u := List.filterMap_append

theorem arrivals_entered (mails : List Mail) :
    arrivals (mails.map .entered) = mails.map fun mail => (.user, mail) := by
  rw [arrivals, List.filterMap_map, ← List.filterMap_eq_map]
  rfl

/-- The mails that `listenStdin` made of lines. -/
def typed (t : List Event) : List Mail :=
  t.filterMap fun | .entered mail => if mail.sigint then none else some mail | _ => none

@[simp] theorem typed_append (t u : List Event) : typed (t ++ u) = typed t ++ typed u :=
  List.filterMap_append

theorem typed_eq_nil {es : List Event} (h : ∀ mail, .entered mail ∉ es) : typed es = [] := by
  rw [typed, List.filterMap_eq_nil_iff]
  intro e he
  cases e with
  | entered mail => exact absurd he (h mail)
  | _ => rfl

theorem typed_entered {mails : List Mail} (h : ∀ mail ∈ mails, mail.sigint = false) :
    typed (mails.map .entered) = mails := by
  have hmap : ∀ mail ∈ mails, (if mail.sigint then none else some mail) = some mail := by
    intro mail hm
    rw [h mail hm]
    rfl
  rw [typed, List.filterMap_map]
  exact (List.filterMap_congr hmap).trans List.filterMap_some

theorem typed_signal {mails : List Mail} (h : ∀ mail ∈ mails, mail.sigint = true) :
    typed (mails.map .entered) = [] := by
  rw [typed, List.filterMap_map, List.filterMap_eq_nil_iff]
  intro mail hm
  exact if_pos (h mail hm)

namespace Client

variable {connection : NetworkConnection} {t es : List Event} {s s' : Client}

/-- A step that adds nothing to `incomingMails` and takes nothing from it. -/
theorem incoming_stutter
    (ih : consumed t ++ s.mailbox.incomingMails = (arrivals t).map Prod.snd)
    (hc : consumed es = []) (ha : arrivals es = [])
    (hs : s'.mailbox.incomingMails = s.mailbox.incomingMails) :
    consumed (t ++ es) ++ s'.mailbox.incomingMails = (arrivals (t ++ es)).map Prod.snd := by
  rw [consumed_append, arrivals_append, hc, ha, hs, List.append_nil, List.append_nil, ih]

/-- A step that adds some mails. -/
theorem incoming_add {new : List (Origin × Mail)}
    (ih : consumed t ++ s.mailbox.incomingMails = (arrivals t).map Prod.snd)
    (hc : consumed es = []) (ha : arrivals es = new)
    (hs : s'.mailbox.incomingMails = s.mailbox.incomingMails ++ new.map Prod.snd) :
    consumed (t ++ es) ++ s'.mailbox.incomingMails = (arrivals (t ++ es)).map Prod.snd := by
  rw [consumed_append, arrivals_append, hc, ha, hs, List.append_nil, List.map_append,
    ← List.append_assoc, ih]

/-- The events of one `listenSocket`. -/
theorem arrivals_received (datagram : Bytes) (mail : Mail) (delivered : Bool)
    (sent : List (Mail × Bytes)) :
    arrivals (.received datagram mail delivered ::
        sent.map fun (mail, bytes) => .answered mail bytes) =
      if delivered then [(.peer, mail)] else [] := by
  rw [arrivals, List.filterMap_cons, filterMap_map_none (fun _ => rfl)]
  cases delivered <;> rfl

/-- `waitMail` has taken the first of the mails that arrived, and the others are in the queue. -/
theorem consumed_append_incoming (r : (system connection).Run t s) :
    consumed t ++ s.mailbox.incomingMails = (arrivals t).map Prod.snd := by
  apply r.invariant
    (I := fun t s => consumed t ++ s.mailbox.incomingMails = (arrivals t).map Prod.snd)
  · rintro s rfl
    rfl
  · intro t s es s' _ ih h
    replace h := (transition h).2
    cases h with
    | fail | refuse | pushMail | notifyListener | stop | enterWait | finish | timeout | ready
    | interrupted | readNotify | popMail | transmit => exact incoming_stutter ih rfl rfl rfl
    | sendMail => exact incoming_stutter ih rfl rfl (by rw [assignMessageID_eq])
    | @waitMail mail rest hs hm hok =>
      have hc : consumed [.consumed mail] = [mail] := rfl
      have ha : arrivals [.consumed mail] = [] := rfl
      rw [consumed_append, arrivals_append, hc, ha, List.append_nil, List.append_assoc]
      rw [hm] at ih
      exact ih
    | listenStdin hp h =>
      refine incoming_add ih (filterMap_map_none (fun _ => rfl) _) (arrivals_entered _) ?_
      rw [List.map_map, (listenStdin_receives h).1.incoming_eq]
      exact congrArg _ (List.map_id _).symm
    | listenSignal hp h =>
      refine incoming_add ih (filterMap_map_none (fun _ => rfl) _) (arrivals_entered _) ?_
      rw [List.map_map, (listenSignal_receives h).2.1.incoming_eq]
      exact congrArg _ (List.map_id _).symm
    | listenSocket hp h =>
      refine incoming_add ih (filterMap_map_none (fun _ => rfl) _) (arrivals_received ..) ?_
      rw [(listenSocket_receives h).1.incoming_eq]
      rcases (listenSocket_new h).2 with hnew | ⟨hnew, -⟩ <;> rw [hnew] <;> rfl

/-- Where the mails of a trace come from. -/
structure Sourced (t : List Event) : Prop where
  entered : ∀ mail, .entered mail ∈ t → Entered mail ∧ mail.addToMailQueue = true
  received : ∀ datagram mail delivered, .received datagram mail delivered ∈ t →
    FromSocket mail ∧ (delivered = true → mail.addToMailQueue = true)

theorem sourced_of_transition (h : Transition connection s es s') : Sourced es := by
  cases h with
  | listenStdin hp h =>
    refine ⟨fun mail hm => ?_, by simp⟩
    obtain ⟨m, hm', rfl⟩ : ∃ m ∈ newMails _ _, m = mail := by simpa using hm
    exact ⟨.inl (listenStdin_new h m hm').1, (listenStdin_new h m hm').2⟩
  | listenSignal hp h =>
    refine ⟨fun mail hm => ?_, by simp⟩
    obtain ⟨m, hm', rfl⟩ : ∃ m ∈ newMails _ _, m = mail := by simpa using hm
    exact ⟨.inr (listenSignal_new h m hm').1, (listenSignal_new h m hm').2.1⟩
  | listenSocket hp h =>
    obtain ⟨hfrom, hnew⟩ := listenSocket_new h
    refine ⟨by simp, fun datagram mail delivered hm => ?_⟩
    rcases List.mem_cons.1 hm with heq | hm
    · cases heq
      refine ⟨hfrom, fun hd => ?_⟩
      rcases hnew with hnew | ⟨-, hq⟩
      · simp [hnew] at hd
      · exact hq
    · simp at hm
  | _ => exact ⟨by simp, by simp⟩

theorem sourced (r : (system connection).Run t s) : Sourced t := by
  refine ⟨fun mail hm => ?_, fun datagram mail delivered hm => ?_⟩
  · obtain ⟨_, _, es, _, -, h, hes, -⟩ := r.exists_step_of_mem hm
    exact (sourced_of_transition (transition h).2).entered mail hes
  · obtain ⟨_, _, es, _, -, h, hes, -⟩ := r.exists_step_of_mem hm
    exact (sourced_of_transition (transition h).2).received datagram mail delivered hes

/-- What is received is received by a `listenSocket` at that point of the run. -/
theorem exists_listenSocket (r : (system connection).Run t s) {pre post : List Event}
    {datagram : Bytes} {mail : Mail} {delivered : Bool}
    (h : t = pre ++ .received datagram mail delivered :: post) :
    ∃ s₀ received res, (system connection).Run pre s₀ ∧
      ChatClient.listenSocket connection s₀.listener s₀.mailbox received = .ok res ∧
      datagram = received.getD [] ∧ mail = res.mail ∧
      delivered = (newMails s₀.mailbox res.mailbox != []) := by
  obtain ⟨t₀, s₀, es, s₁, pre', post', r₀, hs, rfl, hes⟩ := r.exists_step h
  have hm : .received datagram mail delivered ∈ es := by
    rw [hes]
    exact List.mem_append_right _ List.mem_cons_self
  replace hs := (transition hs).2
  cases hs with
  | @listenSocket received rest res hp hok =>
    rcases List.cons_eq_append_iff.1 hes with ⟨rfl, hhead⟩ | ⟨rest', -, hrest⟩
    · obtain ⟨⟨rfl, rfl, rfl⟩, -⟩ : (_ ∧ _ ∧ _) ∧ _ := by simpa using hhead
      exact ⟨s₀, received, res, by rwa [List.append_nil], hok, rfl, rfl, rfl⟩
    · -- the answers are no receptions
      have hm' : Event.received datagram mail delivered ∈
          res.sent.map fun (mail, bytes) => Event.answered mail bytes := by
        rw [hrest]
        exact List.mem_append_right _ List.mem_cons_self
      simp at hm'
  | _ => simp at hm

/-- A mail that arrived was added by an event of its origin. -/
theorem event_of_arrival {origin : Origin} {mail : Mail} (h : (origin, mail) ∈ arrivals t) :
    (origin = .user ∧ .entered mail ∈ t) ∨
      (origin = .peer ∧ ∃ datagram, .received datagram mail true ∈ t) := by
  obtain ⟨e, he, heq⟩ := List.mem_filterMap.1 h
  unfold arrival at heq
  split at heq
  · cases heq
    exact .inl ⟨rfl, he⟩
  · cases heq
    exact .inr ⟨rfl, _, he⟩
  · cases heq

/-- Every mail in the queue or taken from it can be passed on by `sendMail`. -/
theorem queued_of_arrival (r : (system connection).Run t s) {mail : Mail}
    (h : mail ∈ (arrivals t).map Prod.snd) : mail.addToMailQueue = true := by
  obtain ⟨⟨origin, m⟩, hm, rfl⟩ := List.mem_map.1 h
  rcases event_of_arrival hm with ⟨-, he⟩ | ⟨-, datagram, he⟩
  · exact ((sourced r).entered _ he).2
  · exact ((sourced r).received _ _ _ he).2 rfl

end Client

end ChatClient

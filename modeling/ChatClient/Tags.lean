import ChatClient.Failure

/-!
# Tags and data

The type tag of a mail and the alternative its data hold are set separately.  They belong together in
every mail that a line, a signal or a datagram makes, and in every message that is read from text;
the BYE and the unknown message of the text protocol set the tag alone.  So what `waitMail` and
`FSM::run` take out of a variant is there, as long as `writeMail` returned true (`queued_tagged`).
-/

namespace ChatClient

open MailBox Outcome

/-- The tag is set, and the data hold what is taken out of them because of it. -/
structure Mail.Tagged (mail : Mail) : Prop where
  set : mail.type ≠ none
  notConfirm : mail.type ≠ some .confirm
  matching : mail.type ∈ [some .err, some .msg, some .reply, some .auth, some .join] →
    mail.WellTagged

theorem Mail.WellTagged.tagged {mail : Mail} (h : mail.WellTagged) (hc : mail.type ≠ some .confirm) :
    mail.Tagged := by
  refine ⟨?_, hc, fun _ => h⟩
  rw [show mail.type = some mail.data.type from h]
  simp

/-- All data but a CONFIRM and an unknown message are numbered. -/
theorem MessageData.numbered_of_type {data : MessageData}
    (hc : data.type ≠ .confirm) (hu : data.type ≠ .unknown) : data.numbered = true := by
  cases data with
  | confirm m => exact absurd rfl hc
  | unknown m => exact absurd rfl hu
  | _ => rfl

/-! ## What is added to the queue -/

/-- What was received, with the mails it was decoded to. -/
def receptions (t : List Event) : List (Bytes × Mail) :=
  t.filterMap fun
    | .received datagram mail _ => some (datagram, mail)
    | _ => none

/-- `writeMail` returned true for all that was received. -/
def Written (connection : NetworkConnection) (t : List Event) : Prop :=
  ∀ x ∈ receptions t, ∃ (mb : MailBox) (buffer : Bytes), mb.deliveryService = connection.type ∧
    connection.receiveData (some x.1) = .ok buffer ∧
    mb.writeMailBuffer buffer {} = .ok (true, x.2)

theorem Written.of_append {connection : NetworkConnection} {t es : List Event}
    (h : Written connection (t ++ es)) : Written connection t := by
  intro x hx
  apply h
  rw [receptions, List.filterMap_append]
  exact List.mem_append_left _ hx

theorem FromLine.tagged {mail : Mail} (h : FromLine mail) (hq : mail.addToMailQueue = true) :
    mail.Tagged := by
  obtain ⟨mb, line, mb', h⟩ := h
  cases (writeMailLine_cases h).2 with
  | auth | join | text =>
    apply Mail.WellTagged.tagged
    · exact rfl
    · simp
  | rename | silent => exact absurd hq Bool.false_ne_true

theorem TextRead.tagged {mail : Mail} (h : TextRead {} true mail) : mail.Tagged := by
  cases h with
  | bye | unknown => exact ⟨by simp, by simp, by simp⟩
  | @message data hd =>
    apply Mail.WellTagged.tagged
    · exact rfl
    · intro hc
      rw [Option.some.inj hc] at hd
      simp at hd

/-- What the socket brings is tagged, if it is for the queue at all. -/
theorem tagged_of_writeMailBuffer {mb : MailBox} {buffer : Bytes} {mail : Mail}
    (h : mb.writeMailBuffer buffer {} = .ok (true, mail)) (hq : mail.addToMailQueue = true) :
    mail.Tagged := by
  unfold writeMailBuffer at h
  split at h
  · next hs =>
    obtain ⟨rest, h⟩ := run'_eq_ok.1 h
    have hdec := (writeUDPMail_decoded hs h).2
    exact hdec.wellTagged.tagged (hdec.queued.1 hq)
  · rw [writeTCPMail, bind_eq_ok] at h
    obtain ⟨⟨str, _⟩, -, h⟩ := h
    obtain ⟨rest, h⟩ := run'_eq_ok.1 h
    exact (parseTCPMail_cases h).tagged

namespace Client

variable {connection : NetworkConnection} {t es : List Event} {s s' : Client}

theorem tagged_of_entered (r : (system connection).Run t s) {mail : Mail} (h : .entered mail ∈ t) :
    mail.Tagged := by
  obtain ⟨_, _, es, _, -, hs, hes, -⟩ := r.exists_step_of_mem h
  replace hs := (transition hs).2
  cases hs with
  | listenStdin hp hok =>
    obtain ⟨m, hm, rfl⟩ : ∃ m ∈ newMails _ _, m = mail := by simpa using hes
    obtain ⟨hline, hq⟩ := listenStdin_new hok m hm
    exact hline.tagged hq
  | listenSignal hp hok =>
    obtain ⟨m, hm, rfl⟩ : ∃ m ∈ newMails _ _, m = mail := by simpa using hes
    obtain ⟨⟨htype, -⟩, -, htag⟩ := listenSignal_new hok m hm
    exact htag.tagged (by simp [htype])
  | _ => simp at hes

/-- Every mail that was added to `incomingMails` is tagged. -/
theorem tagged_of_arrival (r : (system connection).Run t s) (hw : Written connection t) {mail : Mail}
    (h : mail ∈ (arrivals t).map Prod.snd) : mail.Tagged := by
  have hq := queued_of_arrival r h
  obtain ⟨⟨origin, mail⟩, hm, rfl⟩ := List.mem_map.1 h
  rcases event_of_arrival hm with ⟨-, he⟩ | ⟨-, datagram, he⟩
  · exact tagged_of_entered r he
  · obtain ⟨mb, buffer, -, -, hwrite⟩ := hw (datagram, mail) (List.mem_filterMap.2 ⟨_, he, rfl⟩)
    exact tagged_of_writeMailBuffer hwrite hq

theorem tagged_incoming (r : (system connection).Run t s) (hw : Written connection t) {mail : Mail}
    (h : mail ∈ s.mailbox.incomingMails) : mail.Tagged := by
  apply tagged_of_arrival r hw
  rw [← consumed_append_incoming r]
  exact List.mem_append_right _ h

theorem tagged_consumed (r : (system connection).Run t s) (hw : Written connection t) {mail : Mail}
    (h : mail ∈ consumed t) : mail.Tagged := by
  apply tagged_of_arrival r hw
  rw [← consumed_append_incoming r]
  exact List.mem_append_left _ h

/-- No `std::get` throws. -/
theorem failure_ne_badVariantAccess (r : (system connection).Run t s) (hw : Written connection t) :
    s.failure ≠ some .badVariantAccess := by
  intro hf
  obtain ⟨s₀, r₀, -, hcause⟩ := exists_cause r hf
  cases hcause with
  | waitMail h =>
    obtain ⟨mail, rest, hin, ⟨he, -⟩ | ⟨-, htype, htag⟩⟩ := waitMail_error h
    · cases he
    · have hmail : mail.Tagged := tagged_incoming r₀ hw (by simp [hin])
      have hprinted : [some MessageType.err, some .msg, some .reply] ⊆
          [some .err, some .msg, some .reply, some .auth, some .join] := by decide
      exact htag (hmail.matching (hprinted htype))
  | plain h => exact h.1 rfl

end Client

/-! ## What a turn does -/

namespace FSM

variable {mb : MailBox} {state : State} {mail : Mail} {t : Turn} {e : Error}

theorem getText_of_tagged (h : mail.Tagged) (ht : mail.type = some .msg) :
    ∃ m, mail.getText = .ok m := by
  have htag : mail.type = some mail.data.type := h.matching (by simp [ht])
  rw [ht] at htag
  unfold Mail.getText
  cases hd : mail.data with
  | text m => exact ⟨m, rfl⟩
  | _ => simp [hd, MessageData.type] at htag

theorem getReply_of_tagged (h : mail.Tagged) (ht : mail.type = some .reply) :
    ∃ m, mail.getReply = .ok m := by
  have htag : mail.type = some mail.data.type := h.matching (by simp [ht])
  rw [ht] at htag
  unfold Mail.getReply
  cases hd : mail.data with
  | reply m => exact ⟨m, rfl⟩
  | _ => simp [hd, MessageData.type] at htag

theorem report_error {msgType : MessageType} {next : State}
    (h : report mb msgType mail next = .error e) : e.Invalid := by
  rcases hwrite : mb.writeMailType msgType mail with e' | res
  · rw [report, hwrite] at h
    cases h
    exact writeMailType_error hwrite
  · rw [report, hwrite] at h
    cases h

/-- On a tagged mail a turn throws nothing but what the constructor of an ERR throws. -/
theorem turn_error (hm : state.waits = true → mail.Tagged) (h : turn mb state mail = .error e) :
    e.Invalid := by
  have hcourse := turn_course mb state mail
  generalize turn mb state mail = x at h hcourse
  cases hcourse with
  | untyped hs ht => exact absurd ht (hm hs).set
  | authenticate | join | pass | leave | ended => cases h
  | text hs ht =>
    obtain ⟨m, htext⟩ := getText_of_tagged (hm hs) ht
    rw [htext] at h
    cases h
  | reply hs ht =>
    subst hs
    obtain ⟨m, hreply⟩ := getReply_of_tagged (hm rfl) ht
    rw [hreply] at h
    cases h
  | complain | quit => exact report_error h

/-- What a turn sends is the mail it was given, or one that `writeMailType` made of it. -/
theorem sends_cases (h : turn mb state mail = .ok t) (hsend : t.sends = true) :
    (t.mail = mail ∧ state.waits = true ∧
      mail.type ∈ [some .auth, some .join, some .msg]) ∨
    ∃ data : MessageData, data.type ∈ [.err, .bye] ∧
      t.mail = { mail with type := some data.type, data } := by
  have hcourse := turn_course mb state mail
  generalize turn mb state mail = x at h hcourse
  cases hcourse with
  | untyped => cases h
  | pass | leave | ended =>
    cases h
    cases hsend
  | authenticate hs ht =>
    cases h
    refine .inl ⟨rfl, ?_, by simp [ht]⟩
    rcases hs with rfl | rfl <;> rfl
  | join hs ht =>
    cases h
    subst hs
    exact .inl ⟨rfl, rfl, by simp [ht]⟩
  | text hs ht =>
    obtain ⟨text, -, h⟩ := bind_eq_ok.1 h
    cases h
    exact .inl ⟨rfl, hs, by simp [ht]⟩
  | reply hs ht =>
    obtain ⟨reply, -, h⟩ := bind_eq_ok.1 h
    cases h
    cases hsend
  | complain | quit =>
    obtain ⟨data, htype, rfl⟩ := report_ok h
    refine .inr ⟨data, ?_, rfl⟩
    rw [htype]
    decide

/-- The mail of a turn behind `waitMail` is the one that was taken last. -/
theorem mem_consumed {u : List Event} {s : FSM} (r : system.Run u s)
    (hp : s.place = .read ∨ s.state.waits = false) (hw : s.state.waits = true) :
    s.mail ∈ consumed u := by
  have hread : s.place = .read := by
    apply hp.resolve_right
    simp [hw]
  obtain ⟨-, t₀, old, rfl, -⟩ := run_of_read r hread
  simp [consumed]

/-- If the mails taken are tagged, what is sent has data of its type, and an id of its own. -/
theorem sent_wellTagged {u : List Event} {s : FSM} (r : system.Run u s)
    (h : ∀ mail ∈ consumed u, mail.Tagged) {mail : Mail} (hm : mail ∈ sent u) :
    mail.WellTagged ∧ mail.data.numbered = true := by
  obtain ⟨t₀, s₀, es, s₁, r₀, hs, hmem, hinit⟩ := r.exists_step_of_mem (mem_of_mem_sent hm)
  cases hs with
  | wait => simp at hmem
  | @turn state mail₀ place mb turn hend hp hturn =>
    split_ifs at hmem with hsend
    · obtain rfl : mail = turn.mail := by simpa using hmem
      obtain ⟨hsame, hw, htype⟩ | ⟨data, htype, hsame⟩ := sends_cases hturn hsend
      · have hmail : mail₀.Tagged := by
          apply h
          exact (hinit.filterMap _).subset (mem_consumed r₀ hp hw)
        have hrequests : [some MessageType.auth, some .join, some .msg] ⊆
            [some .err, some .msg, some .reply, some .auth, some .join] := by decide
        have htag : mail₀.WellTagged := hmail.matching (hrequests htype)
        rw [show mail₀.type = some mail₀.data.type from htag] at htype
        rw [hsame]
        refine ⟨htag, MessageData.numbered_of_type ?_ ?_⟩
        · intro hc
          simp [hc] at htype
        · intro hu
          simp [hu] at htype
      · rw [hsame]
        refine ⟨rfl, MessageData.numbered_of_type ?_ ?_⟩
        · intro hc
          simp [hc] at htype
        · intro hu
          simp [hu] at htype
    · simp at hmem

end FSM

/-! ## The program -/

namespace Program

variable {connection : NetworkConnection} {p p' : Program} {t es : List Event}

/-- What ends the process from the main thread is an exception of a turn that `FSM::run` does not
catch. -/
theorem failure_of_main (h : p.mainStep connection = some (p', es)) :
    p'.failure = p.failure ∨
      ∃ e, p.main = .run ∧ (p.fsm.place = .read ∨ p.fsm.state.waits = false) ∧
        FSM.turn p.client.mailbox p.fsm.state p.fsm.mail = .error e ∧
        ∀ what, e ≠ .runtimeError what := by
  simp only [mainStep] at h
  split at h
  · next hm =>
    split_ifs at h with hend hwait
    · cases h
      exact .inl rfl
    · obtain ⟨⟨x, mb⟩, -, h⟩ := Option.bind_eq_some_iff.1 h
      obtain ⟨⟨client, es⟩, -, h⟩ := Option.bind_eq_some_iff.1 h
      cases x <;> cases h <;> exact .inl rfl
    · simp only [turn] at h
      split at h
      · split_ifs at h
        · obtain ⟨⟨client, es⟩, -, h⟩ := Option.bind_eq_some_iff.1 h
          cases h
          exact .inl rfl
        · cases h
          exact .inl rfl
      · cases h
        exact .inl rfl
      · next e hne ht =>
        exact .inr ⟨e, hm, read_or_not_waits hwait, ht, hne⟩
  · simp only [resume] at h
    split at h
    · obtain ⟨⟨client, es⟩, -, h⟩ := Option.bind_eq_some_iff.1 h
      cases h
      exact .inl rfl
    · obtain ⟨⟨client, es⟩, -, h⟩ := Option.bind_eq_some_iff.1 h
      cases h
      exact .inl rfl
    · cases h
      exact .inl rfl
  · obtain ⟨⟨client, es⟩, -, h⟩ := Option.bind_eq_some_iff.1 h
    cases h
    exact .inl rfl
  · cases h
  · cases h

/-- The mail of a turn behind `waitMail` is tagged. -/
theorem tagged_of_waits (r : (system connection).Run t p) (hw : Written connection t)
    (hm : p.main = .run) (hp : p.fsm.place = .read ∨ p.fsm.state.waits = false)
    (hwaits : p.fsm.state.waits = true) : p.fsm.mail.Tagged := by
  have rloop := loop_run r
  rw [loop_eq_fsm (by simp [hm])] at rloop
  apply Client.tagged_consumed (client_run r) hw
  rw [← consumed_loopEvent]
  exact FSM.mem_consumed rloop hp hwaits

/-- No turn throws anything that ends the process. -/
theorem failure_eq_none (r : (system connection).Run t p) (hw : Written connection t) :
    p.failure = none := by
  revert hw
  apply r.invariant (I := fun t p => Written connection t → p.failure = none)
  · rintro p rfl -
    rfl
  · intro t p es p' r ih h hw
    have hnone := ih hw.of_append
    obtain ⟨action, h⟩ := h
    unfold step at h
    split_ifs at h
    cases action with
    | listener action =>
      simp only at h
      split_ifs at h
      obtain ⟨⟨client, es⟩, -, h⟩ := Option.bind_eq_some_iff.1 h
      cases h
      exact hnone
    | main =>
      rcases failure_of_main h with heq | ⟨e, hm, hp, ht, hne⟩
      · rw [heq]
        exact hnone
      · obtain ⟨fieldName, -, rest, he⟩ :=
          FSM.turn_error (tagged_of_waits r hw.of_append hm hp) ht
        exact absurd he (hne _)

theorem submitted_wellTagged (r : (system connection).Run t p) (hw : Written connection t)
    {mail : Mail} (h : mail ∈ submitted t) : mail.WellTagged ∧ mail.data.numbered = true := by
  rw [← sent_loopEvent] at h
  apply FSM.sent_wellTagged (loop_run r) _ h
  intro m hm
  rw [consumed_loopEvent] at hm
  exact Client.tagged_consumed (client_run r) hw hm

/-- What `sendMail` makes of the mails passed to it: the `k`-th gets the id `k` modulo 65536. -/
theorem stamp_wellTagged (r : (system connection).Run t p) (hw : Written connection t) {k : ℕ}
    {mail : Mail} (h : (stamp 0 (submitted t))[k]? = some mail) :
    mail.WellTagged ∧ mail.getMessageID = (k % 65536 : ℕ) := by
  have hall : ∀ m ∈ stamp 0 (submitted t), m.WellTagged ∧ m.data.numbered = true := by
    intro m hm
    obtain ⟨m', hm', id, rfl⟩ := exists_of_mem_stamp hm
    obtain ⟨htag, hnum⟩ := submitted_wellTagged r hw hm'
    exact ⟨htag.stamped id, (Mail.numbered_stamped id m').trans hnum⟩
  refine ⟨(hall mail (List.mem_of_getElem? h)).1, ?_⟩
  have hfilter : (stamp 0 (submitted t)).filter (·.data.numbered) = stamp 0 (submitted t) :=
    List.filter_eq_self.2 fun m hm => (hall m hm).2
  rw [← hfilter] at h
  rw [getMessageID_stamp h]
  simp

/-- In every run in which `writeMail` returned true for all that was received: the mails in
`incomingMails` are tagged; no `std::get` throws, neither in `waitMail` nor in `FSM::run`; and what is
passed to `sendMail` has data of its type and is queued under the next id. -/
theorem queued_tagged (r : (system connection).Run t p) (hw : Written connection t) :
    (∀ mail ∈ p.client.mailbox.incomingMails,
      (mail.type ∈ [some .err, some .msg, some .reply, some .auth, some .join] →
        mail.WellTagged) ∧ mail.type ≠ some .confirm ∧ mail.type ≠ none) ∧
    p.client.failure ≠ some .badVariantAccess ∧ p.failure = none ∧
    (∀ mail ∈ submitted t, mail.WellTagged) ∧
    pushed t ++ p.client.sending.pending = stamp 0 (submitted t) ∧
    ∀ (k : ℕ) (mail : Mail), (pushed t ++ p.client.sending.pending)[k]? = some mail →
      mail.WellTagged ∧ mail.getMessageID = (k % 65536 : ℕ) := by
  have rclient := client_run r
  have hqueued := (Client.numbered rclient).queued
  refine ⟨fun mail hm => ?_, ?_, ?_, fun mail hm => ?_, hqueued, fun k mail hk => ?_⟩
  · have hmail := Client.tagged_incoming rclient hw hm
    exact ⟨hmail.matching, hmail.notConfirm, hmail.set⟩
  · exact Client.failure_ne_badVariantAccess rclient hw
  · exact failure_eq_none r hw
  · exact (submitted_wellTagged r hw hm).1
  · rw [hqueued] at hk
    exact stamp_wellTagged r hw hk

/-- The user logs in over TCP, and a message of the server waits in the queue. -/
theorem queued_tagged_login :
    ∃ t p, (system { type := .tcp }).Run t p ∧
      (receptions t).map (fun x => x.2.type) = [some .reply, some .msg] ∧
      (∃ mail, p.client.mailbox.incomingMails = [mail] ∧ mail.type = some .msg ∧
        mail.WellTagged) ∧
      p.client.failure ≠ some .badVariantAccess ∧
      (submitted t).map Mail.type = [some .auth] ∧ ∀ mail ∈ submitted t, mail.WellTagged := by
  let reply := chars "REPLY OK IS hello\r\n"
  let msg := chars "MSG FROM bob IS hi\r\n"
  obtain ⟨t, p, r, hreceived, ⟨mail, hin, htype⟩, hsub⟩ : ∃ t p, (system { type := .tcp }).Run t p ∧
      receptions t =
        [(reply, { type := some .reply, data := .reply ⟨1, true, -1, ⟨chars "hello", by decide⟩⟩ }),
          (msg, { type := some .msg,
                  data := .text ⟨false, 1, ⟨chars "bob", by decide⟩, ⟨chars "hi", by decide⟩⟩ })] ∧
      (∃ mail, p.client.mailbox.incomingMails = [mail] ∧ mail.type = some .msg) ∧
      (submitted t).map Mail.type = [some .auth] :=
    ⟨_, _, run_of_exec { type := .tcp } (.init rfl)
      (round [.stdinPipe] [.listenStdin (some (chars "/auth ann pw ann\n"))] ++ mainThread 5 ++
        round [.socketPipe] [.listenSocket (some reply)] ++ mainThread 2 ++
        round [.socketPipe] [.listenSocket (some msg)]) rfl, rfl, ⟨_, rfl, rfl⟩, rfl⟩
  have hw : Written { type := .tcp } t := by
    intro x hx
    rw [hreceived] at hx
    rcases List.mem_cons.1 hx with rfl | hx
    · exact ⟨{ deliveryService := .tcp, sequenceUDPNumber := 1 }, stored reply, rfl, rfl, rfl⟩
    · obtain rfl := List.mem_singleton.1 hx
      exact ⟨{ deliveryService := .tcp, sequenceUDPNumber := 1 }, stored msg, rfl, rfl, rfl⟩
  obtain ⟨hqueued, hfailure, -, hsent, -⟩ := queued_tagged r hw
  refine ⟨t, p, r, by rw [hreceived]; rfl, ⟨mail, hin, htype, ?_⟩, hfailure, hsub, hsent⟩
  exact (hqueued mail (by simp [hin])).1 (by simp [htype])

end Program

end ChatClient

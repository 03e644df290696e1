import ChatClient.Program
import ChatClient.TcpCodec

/-!
# From typed lines to mails

`writeMail` over the lines of a session, with anything else going on between two lines
(`Commands.system`); the mailbox of every run of the client is one of these (`exists_session`).

* `displayName_eq`: the display name is the one that the latest `/auth` or `/rename` named.
* `display_name_valid_iff`: it stays valid, so that an ERR can be made at any time, exactly when every
  `/rename` names a valid one; `/rename` alone does not check.
* `line_to_wire`: what each line yields, and what is sent of it.
-/

namespace ChatClient

open MailBox Outcome

namespace Commands

/-- A line is taken, or something happens to the mailbox that leaves the display name alone. -/
inductive Step : MailBox → List (Bytes × Mail) → MailBox → Prop
  | line {mb line written mail mb'} (h : mb.writeMailLine line {} = .ok (written, mail, mb')) :
      Step mb [(line, mail)] mb'
  | other {mb mb'} (h : mb'.displayName = mb.displayName) : Step mb [] mb'

/-- A session shows its lines with the mails `writeMail` made of them. -/
def system : Lts MailBox (Bytes × Mail) where
  init mb := mb.displayName = chars "default"
  step := Step

/-- The display name that a line sets. -/
def naming (line : Bytes) : Option Bytes :=
  if word 0 line = chars "/auth" then some (word 3 line)
  else if word 0 line = chars "/rename" then some (word 1 line)
  else none

/-- The display name after some lines. -/
def nameAfter (lines : List Bytes) : Bytes :=
  (lines.filterMap naming).getLast?.getD (chars "default")

theorem nameAfter_concat (lines : List Bytes) (line : Bytes) :
    nameAfter (lines ++ [line]) = (naming line).getD (nameAfter lines) := by
  unfold nameAfter
  rw [List.filterMap_append]
  cases h : naming line with
  | none => rw [List.filterMap_cons_none h, List.filterMap_nil, List.append_nil, Option.getD_none]
  | some name =>
    rw [List.filterMap_cons_some h, List.filterMap_nil, List.getLast?_concat, Option.getD_some,
      Option.getD_some]

variable {t : List (Bytes × Mail)} {mb : MailBox}

theorem displayName_of_line {mb' : MailBox} {line : Bytes} {mail : Mail} {written : Bool}
    (h : mb.writeMailLine line {} = .ok (written, mail, mb')) :
    mb'.displayName = (naming line).getD mb.displayName := by
  have hother : ∀ c ∈ [chars "/join", chars "/help", chars "/print"], word 0 line = c →
      naming line = none := by
    intro c hc hw
    simp only [List.mem_cons, List.not_mem_nil, or_false] at hc
    unfold naming
    rcases hc with rfl | rfl | rfl <;> rw [hw, if_neg (by decide), if_neg (by decide)]
  cases (writeMailLine_cases h).2 with
  | auth hc hm =>
    rw [naming, if_pos hc]
    exact (AuthMessage.new_eq_ok hm).2.2.1
  | join hc => rw [hother _ (by simp) hc, Option.getD_none]
  | rename hc =>
    rw [naming, if_neg (by rw [hc]; decide), if_pos hc]
    rfl
  | silent hc =>
    rcases hc with hc | hc <;> rw [hother _ (by simp) hc, Option.getD_none]
  | text hc =>
    simp only [List.mem_cons, not_or] at hc
    rw [naming, if_neg hc.1, if_neg hc.2.2.1, Option.getD_none]

theorem displayName_eq (r : system.Run t mb) : mb.displayName = nameAfter (t.map Prod.fst) := by
  apply r.invariant (I := fun t mb => mb.displayName = nameAfter (t.map Prod.fst))
  · intro mb h
    exact h
  · intro t mb es mb' _ ih h
    cases h with
    | line h =>
      rw [List.map_append, List.map_singleton, nameAfter_concat, displayName_of_line h, ih]
    | other h =>
      rw [List.append_nil, h, ih]

theorem run_line (r : system.Run t mb) (line : Bytes) {mb' : MailBox} {mail : Mail} {written : Bool}
    (h : mb.writeMailLine line {} = .ok (written, mail, mb')) :
    system.Run (t ++ [(line, mail)]) mb' :=
  r.step (.line h)

/-- A line of a session was taken from a mailbox of the session that led up to it. -/
theorem exists_line (r : system.Run t mb) {u v : List (Bytes × Mail)} {line : Bytes} {mail : Mail}
    (h : t = u ++ (line, mail) :: v) :
    ∃ mb₀ written mb₁, system.Run u mb₀ ∧ mb₀.writeMailLine line {} = .ok (written, mail, mb₁) := by
  obtain ⟨t₀, mb₀, es, mb₁, pre', post', r₀, hs, rfl, hes⟩ := r.exists_step h
  cases hs with
  | @line line' written mail' _ hline =>
    obtain ⟨rfl, hhead⟩ : pre' = [] ∧ (line', mail') = (line, mail) := by
      rcases pre' with _ | ⟨first, pre'⟩
      · exact ⟨rfl, (List.cons.inj hes).1⟩
      · simp at hes
    cases hhead
    rw [List.append_nil]
    exact ⟨mb₀, written, mb₁, r₀, hline⟩
  | other => simp at hes

/-! ## The display name is checked by `/auth` alone -/

/-- An ERR can be made with the display name, and with no other. -/
theorem writeMailType_err_iff (mb : MailBox) :
    (∀ mail, ∃ res, mb.writeMailType .err mail = .ok res) ↔ ValidDisplayName mb.displayName := by
  constructor
  · intro h
    exact (writeMailType_checks mb {}).ok_iff.1 (h {})
  · intro h mail
    exact (writeMailType_checks mb mail).ok_iff.2 h

/-- Every `/rename` of the lines names a valid display name. -/
def RenamesValid (lines : List Bytes) : Prop :=
  ∀ line ∈ lines, word 0 line = chars "/rename" → ValidDisplayName (word 1 line)

theorem validDisplayName_of_renames (r : system.Run t mb)
    (h : RenamesValid (t.map Prod.fst)) : ValidDisplayName mb.displayName := by
  revert h
  apply r.invariant
    (I := fun t mb => RenamesValid (t.map Prod.fst) → ValidDisplayName mb.displayName)
  · intro mb hinit _
    rw [show mb.displayName = chars "default" from hinit]
    decide
  · intro t mb es mb' _ ih hs h
    have ih := ih fun line hline => h line (by simp [List.mem_map.1 hline])
    cases hs with
    | @line line _ _ _ hwrite =>
      cases (writeMailLine_cases hwrite).2 with
      | @auth m => exact m.displayName.valid_val
      | rename hc => exact h line (by simp) hc
      | join | silent | text => exact ih
    | other hname =>
      rw [hname]
      exact ih

/-- In every session: the display name is valid all along, and an ERR can be made all along, iff
every `/rename` of the session names a valid one. -/
theorem display_name_valid_iff (r : system.Run t mb) :
    (∀ u mb', u <+: t → system.Run u mb' → ValidDisplayName mb'.displayName ∧
        ∀ mail, ∃ res, mb'.writeMailType .err mail = .ok res) ↔
      ∀ line ∈ t.map Prod.fst, word 0 line = chars "/rename" → ValidDisplayName (word 1 line) := by
  constructor
  · intro h line hline hc
    obtain ⟨⟨line, mail⟩, hmem, rfl⟩ := List.mem_map.1 hline
    obtain ⟨u, v, rfl⟩ := List.append_of_mem hmem
    obtain ⟨mb₀, written, mb₁, r₀, hwrite⟩ := exists_line r rfl
    have hvalid := (h (u ++ [(line, mail)]) mb₁ (by simp) (run_line r₀ line hwrite)).1
    rw [displayName_of_line hwrite, naming, if_neg (by rw [hc]; decide), if_pos hc,
      Option.getD_some] at hvalid
    exact hvalid
  · intro h u mb' hu r'
    have hvalid := validDisplayName_of_renames r' fun line hline =>
      h line ((hu.map Prod.fst).subset hline)
    exact ⟨hvalid, (writeMailType_err_iff mb').2 hvalid⟩

/-- An AUTH and a valid `/rename`. -/
theorem display_name_valid_iff_two :
    ∃ auth silent mb, system.Run
        [(chars "/auth ann pw Ann", auth), (chars "/rename Bob", silent)] mb ∧
      ((∀ u mb', u <+: [(chars "/auth ann pw Ann", auth), (chars "/rename Bob", silent)] →
          system.Run u mb' → ValidDisplayName mb'.displayName ∧
            ∀ mail, ∃ res, mb'.writeMailType .err mail = .ok res) ↔
        ∀ line ∈ [chars "/auth ann pw Ann", chars "/rename Bob"],
          word 0 line = chars "/rename" → ValidDisplayName (word 1 line)) := by
  have r₀ : system.Run [] { deliveryService := .tcp } := .init rfl
  have r₁ := run_line r₀ (chars "/auth ann pw Ann") rfl
  have r₂ := run_line r₁ (chars "/rename Bob") rfl
  exact ⟨_, _, _, r₂, display_name_valid_iff r₂⟩

/-- `/rename` without a name, and then an interrupt: the ERR that stands for it cannot be made. -/
theorem rename_unchecked :
    let what := chars "DisplayName is invalid. value: [] Hex: []"
    (∃ mail mb, system.Run [(chars "/rename", mail)] mb ∧ ¬ ValidDisplayName mb.displayName ∧
      mb.writeMailType .err {} = .error (.runtimeError what)) ∧
    ∃ t p, (Program.system { type := .tcp }).Run t p ∧
      p.client.mailbox.displayName = [] ∧ p.client.failure = some (.runtimeError what) := by
  intro what
  have r₀ : system.Run [] { deliveryService := .tcp } := .init rfl
  have r₁ := run_line r₀ (chars "/rename") rfl
  refine ⟨⟨_, _, r₁, by decide, rfl⟩, ?_⟩
  have r := Program.run_of_exec { type := .tcp } (.init rfl)
    (Program.round [.stdinPipe] [.listenStdin (some (chars "/rename" ++ [lf]))] ++
      Program.round [.signalPipe] [.listenSignal (some [1])]) rfl
  exact ⟨_, _, r, rfl, rfl⟩

/-! ## From a line to the wire -/

/-- The mail goes into the queue, and `sendMail` and then `sendData` make these bytes of it, whatever
mailbox it is passed to: a datagram around its id, or a text. -/
structure Sends (mail : Mail) (datagram : UInt16 → Bytes) (text : Bytes) : Prop where
  queued : mail.addToMailQueue = true
  udp : ∀ mb : MailBox, udpSerializer.serialize (mb.assignMessageID mail).1 =
    .ok (datagram mb.sequenceUDPNumber)
  tcp : ∀ mb : MailBox, tcpSerializer.serialize (mb.assignMessageID mail).1 = .ok text

/-- A message with one number is sent as its type, its id and its strings, or as its words. -/
theorem sends_of_wellTagged {mail : Mail} (hq : mail.addToMailQueue = true) (ht : mail.WellTagged)
    (hn : mail.data.numbered = true) (hr : mail.data.type ≠ .reply) :
    Sends mail
      (fun id => mail.data.type.code ::
        (CInt.htons id ++ mail.data.strings.flatMap (· ++ [nul])))
      ([space].intercalate mail.data.words ++ [cr, lf]) := by
  have hid : ∀ id, (mail.data.setMessageID id).type = mail.data.type ∧
      (mail.data.setMessageID id).numbers = [id] ∧
      (mail.data.setMessageID id).strings = mail.data.strings ∧
      (mail.data.setMessageID id).words = mail.data.words := by
    intro id
    cases hd : mail.data with
    | auth m => exact ⟨rfl, rfl, rfl, rfl⟩
    | join m | error m | bye m | text m =>
      refine ⟨rfl, ?_, rfl, rfl⟩
      simp only [MessageData.setMessageID, MessageData.numbers, CInt.ofInt_toNat]
    | reply m =>
      rw [hd] at hr
      exact absurd rfl hr
    | confirm m | unknown m =>
      rw [hd] at hn
      exact absurd hn Bool.false_ne_true
  refine ⟨hq, fun mb => ?_, fun mb => ?_⟩
  · obtain ⟨htype, hnum, hstr, -⟩ := hid mb.sequenceUDPNumber
    rw [assignMessageID_eq, udpSerializer.serialize_of_wellTagged (ht.stamped _),
      MailSerializer.serializeAs_udp, visit_udp]
    simp only [Mail.stamped, htype, hnum, hstr, List.flatMap_cons, List.flatMap_nil,
      List.append_nil]
  · rw [assignMessageID_eq, tcpSerializer.serialize_of_wellTagged (ht.stamped _), line_eq]
    simp only [Mail.stamped, MessageData.body, (hid mb.sequenceUDPNumber).2.2.2]

/-- What a line yields under a display name. -/
def Yields (name line : Bytes) (mail : Mail) : Prop :=
  if word 0 line = chars "/auth" then
    mail.type = some .auth ∧ Sends mail
      (fun id => 0x02 ::
        (CInt.htons id ++ [word 1 line, word 3 line, word 2 line].flatMap (· ++ [nul])))
      ([space].intercalate
        [chars "AUTH", word 1 line, chars "AS", word 3 line, chars "USING", word 2 line] ++
          [cr, lf])
  else if word 0 line = chars "/join" then
    mail.type = some .join ∧ Sends mail
      (fun id => 0x03 :: (CInt.htons id ++ [word 1 line, name].flatMap (· ++ [nul])))
      ([space].intercalate [chars "JOIN", word 1 line, chars "AS", name] ++ [cr, lf])
  else if word 0 line ∈ [chars "/rename", chars "/help", chars "/print"] then
    ∀ mb : MailBox, mb.addMail mail = mb
  else
    mail.type = some .msg ∧
      (∃ m, mail.data = .text m ∧ m.toSend = true ∧ m.messageContent.val = line ∧
        m.displayName.val = name) ∧
      Sends mail
        (fun id => 0x04 :: (CInt.htons id ++ [name, line].flatMap (· ++ [nul])))
        ([space].intercalate [chars "MSG", chars "FROM", name, chars "IS", line] ++ [cr, lf])

theorem yields_of_line {mb' : MailBox} {line : Bytes} {mail : Mail} {written : Bool}
    (h : mb.writeMailLine line {} = .ok (written, mail, mb')) : Yields mb.displayName line mail := by
  have hne : ∀ ty ∈ [MessageType.auth, .join, .msg], ty ≠ .reply := by decide
  have hsends : ∀ data : MessageData, data.numbered = true →
      data.type ∈ [MessageType.auth, .join, .msg] →
      Sends ⟨some data.type, data, true, false⟩ _ _ :=
    fun data hn ht => sends_of_wellTagged rfl rfl hn (hne _ ht)
  cases (writeMailLine_cases h).2 with
  | @auth m hc hm =>
    obtain ⟨-, husername, hname, hsecret⟩ := AuthMessage.new_eq_ok hm
    rw [Yields, if_pos hc, ← husername, ← hname, ← hsecret]
    exact ⟨rfl, hsends (.auth m) rfl (by simp [MessageData.type])⟩
  | @join m hc hm =>
    obtain ⟨-, hchannel, hname⟩ := JoinMessage.new_eq_ok hm
    rw [Yields, if_neg (by rw [hc]; decide), if_pos hc, ← hchannel, ← hname]
    exact ⟨rfl, hsends (.join m) rfl (by simp [MessageData.type])⟩
  | rename hc =>
    rw [Yields, if_neg (by rw [hc]; decide), if_neg (by rw [hc]; decide),
      if_pos (by rw [hc]; decide)]
    intro mb
    exact if_pos rfl
  | silent hc =>
    have hmem : word 0 line ∈ [chars "/rename", chars "/help", chars "/print"] := by
      rcases hc with hc | hc <;> simp [hc]
    rw [Yields, if_neg (by rcases hc with hc | hc <;> rw [hc] <;> decide),
      if_neg (by rcases hc with hc | hc <;> rw [hc] <;> decide), if_pos hmem]
    intro mb
    exact if_pos rfl
  | @text m hc hm =>
    obtain ⟨-, -, hname, hcontent⟩ := TextMessage.new_eq_ok hm
    rw [List.mem_cons, List.mem_cons, not_or, not_or] at hc
    rw [Yields, if_neg hc.1, if_neg hc.2.1, if_neg hc.2.2, ← hname]
    refine ⟨rfl, ⟨_, rfl, rfl, hcontent, rfl⟩, ?_⟩
    rw [← hcontent]
    exact hsends (.text { m with toSend := true }) rfl (by simp [MessageData.type])

/-- Each line of a session yields an AUTH, a JOIN, nothing or a MSG, as its first word says, with the
arguments of `/auth` permuted to the order of the wire, and the display name being the one that the
lines before it have set. -/
theorem line_to_wire (r : system.Run t mb) {u v : List (Bytes × Mail)} {line : Bytes} {mail : Mail}
    (h : t = u ++ (line, mail) :: v) : Yields (nameAfter (u.map Prod.fst)) line mail := by
  obtain ⟨mb₀, written, mb₁, r₀, hwrite⟩ := exists_line r h
  rw [← displayName_eq r₀]
  exact yields_of_line hwrite

/-- A text behind an AUTH and a `/rename`. -/
theorem line_to_wire_renamed :
    ∃ auth silent text mb, system.Run
        [(chars "/auth ann pw Ann", auth), (chars "/rename Bob", silent), (chars " hi", text)] mb ∧
      nameAfter [chars "/auth ann pw Ann", chars "/rename Bob"] = chars "Bob" ∧
      Yields (nameAfter [chars "/auth ann pw Ann", chars "/rename Bob"]) (chars " hi") text := by
  have r₀ : system.Run [] { deliveryService := .tcp } := .init rfl
  have r₁ := run_line r₀ (chars "/auth ann pw Ann") rfl
  have r₂ := run_line r₁ (chars "/rename Bob") rfl
  have r₃ := run_line r₂ (chars " hi") rfl
  exact ⟨_, _, _, _, r₃, by decide, line_to_wire r₃ rfl⟩

/-! ## The sessions of the client -/

theorem enterLine_steps {mb' : MailBox} {line : Bytes} (h : enterLine mb line = .ok mb') :
    ∃ mail, system.Steps mb [(line, mail)] mb' ∧ mail.sigint = false ∧
      mb'.incomingMails = mb.incomingMails ++ [mail].filter (·.addToMailQueue) := by
  rw [enterLine, bind_eq_ok] at h
  obtain ⟨⟨written, mail, mb₁⟩, hwrite, h⟩ := h
  dsimp only at h
  split_ifs at h with hw
  subst hw
  cases h
  have hmb : mb₁.incomingMails = mb.incomingMails := by rw [writeMailLine_mailbox hwrite]
  refine ⟨mail, ?_, (FromLine.kind ⟨mb, line, mb₁, hwrite⟩).1, ?_⟩
  · have hline : system.step mb [(line, mail)] mb₁ := .line hwrite
    have hadd : system.step mb₁ [] (mb₁.addMail mail) :=
      .other (Client.addMail_displayName mb₁ mail)
    exact (Lts.Steps.single hline).tail hadd
  · unfold addMail
    by_cases hq : mail.addToMailQueue = true
    · simp [hq, hmb]
    · simp [hq, hmb]

theorem enterLines_steps {mb' : MailBox} {lines : List Bytes}
    (h : lines.foldlM enterLine mb = .ok mb') :
    ∃ es, system.Steps mb es mb' ∧ es.map Prod.fst = lines ∧ (∀ e ∈ es, e.2.sigint = false) ∧
      mb'.incomingMails = mb.incomingMails ++ (es.map Prod.snd).filter (·.addToMailQueue) := by
  induction lines generalizing mb with
  | nil =>
    cases h
    exact ⟨[], .refl _, rfl, by simp, by simp⟩
  | cons line lines ih =>
    rw [List.foldlM_cons, bind_eq_ok] at h
    obtain ⟨mb₁, hline, h⟩ := h
    obtain ⟨mail, hstep, hsig, hin⟩ := enterLine_steps hline
    obtain ⟨es, hsteps, hlines, hsigs, hins⟩ := ih h
    refine ⟨(line, mail) :: es, hstep.trans hsteps, by rw [List.map_cons, hlines], ?_, ?_⟩
    · exact List.forall_mem_cons.2 ⟨hsig, hsigs⟩
    · rw [hins, hin, List.append_assoc, ← List.filter_append]
      rfl

/-- The mailbox of every run of the client is that of a session, whose queued mails are those that
`listenStdin` made of lines. -/
theorem exists_session {connection : NetworkConnection} {t : List Event} {s : Client}
    (r : (Client.system connection).Run t s) :
    ∃ u, system.Run u s.mailbox ∧ typed t = (u.map Prod.snd).filter (·.addToMailQueue) := by
  apply r.invariant (I := fun t s =>
    ∃ u, system.Run u s.mailbox ∧ typed t = (u.map Prod.snd).filter (·.addToMailQueue))
  · rintro s rfl
    exact ⟨[], .init rfl, rfl⟩
  · intro t s es s' _ ⟨u, ru, ih⟩ h
    have stutter : s'.mailbox.displayName = s.mailbox.displayName → typed es = [] →
        ∃ u, system.Run u s'.mailbox ∧
          typed (t ++ es) = (u.map Prod.snd).filter (·.addToMailQueue) := by
      intro hname htyped
      have hstep : system.step s.mailbox [] s'.mailbox := .other hname
      refine ⟨u, by simpa using ru.step hstep, ?_⟩
      rw [typed_append, htyped, List.append_nil, ih]
    replace h := (Client.transition h).2
    cases h with
    | fail | refuse | pushMail | notifyListener | waitMail | stop | enterWait | finish | timeout
    | ready | interrupted | readNotify | popMail | transmit => exact stutter rfl rfl
    | sendMail => exact stutter (by rw [assignMessageID_eq]) rfl
    | listenSignal hp h =>
      exact stutter (Client.listenSignal_displayName h)
        (typed_signal fun mail hm => (listenSignal_new h mail hm).1.2)
    | listenSocket hp h =>
      exact stutter (Client.listenSocket_displayName h) (typed_eq_nil (by simp))
    | @listenStdin received rest mailbox hp h =>
      rcases received with _ | data
      · cases h
      · simp only [listenStdin] at h
        split_ifs at h
        rw [readLines_eq] at h
        obtain ⟨lines, hsteps, -, hsig, hin⟩ := enterLines_steps h
        refine ⟨u ++ lines, ru.steps hsteps, ?_⟩
        rw [newMails_of_eq hin, typed_append, ih, List.map_append, List.filter_append,
          typed_entered]
        intro mail hm
        obtain ⟨e, he, rfl⟩ := List.mem_map.1 (List.mem_filter.1 hm).1
        exact hsig e he

end Commands

end ChatClient

import ChatClient.Lib.Records
import ChatClient.Program

/-!
# What `writeMail` accepts

`writeMail` reads the type and the strings of a message from a datagram, a text or a line, and the
constructor of the message validates the strings before anything else is checked.  So it returns
exactly when the strings pass the validators of the type (`writeMail_returns_iff`); what it returns
`false` for is a text that passes them and is not `Formatted`.

* `writeUDPMail_checks`, `writeTCPMail_checks`, `writeMailLine_checks`: the three decoders.
* `rejected_queued`: `listenSocket` queues a mail for what was rejected, too.
-/

namespace ChatClient

open MailBox Outcome

/-! ## Strings and their validators -/

/-- The validators of the strings of a message, in the order in which the constructor takes them. -/
def MessageType.validators : MessageType → List (Bytes → Prop)
  | auth => [ValidUsername, ValidDisplayName, ValidSecret]
  | join => [ValidChannelID, ValidDisplayName]
  | err | msg => [ValidDisplayName, ValidMessageContent]
  | reply => [ValidMessageContent]
  | bye | confirm | unknown => []

/-- There is a string for every validator, and it passes. -/
def Passes : List (Bytes → Prop) → List Bytes → Prop
  | [], _ => True
  | _ :: _, [] => False
  | p :: ps, s :: ss => p s ∧ Passes ps ss

theorem Passes.length_le {ps : List (Bytes → Prop)} {ss : List Bytes} (h : Passes ps ss) :
    ps.length ≤ ss.length := by
  induction ps generalizing ss with
  | nil => exact Nat.zero_le _
  | cons p ps ih =>
    rcases ss with _ | ⟨s, ss⟩
    · exact h.elim
    · exact Nat.succ_le_succ (ih h.2)

/-! ## Datagrams -/

/-- The type of a datagram; what has no type is decoded like `UNKNOWN`. -/
def datagramType (buffer : Bytes) : MessageType :=
  (MessageType.ofCode (buffer.headD nul)).getD .unknown

/-- The strings behind the numbers of a datagram, up to the last zero byte. -/
def datagramStrings (buffer : Bytes) : List Bytes :=
  Records.complete nul [] (buffer.drop (if datagramType buffer = .reply then 6 else 3))

/-- The errors of the decoder: a string that is not there is read past the end. -/
def DatagramError (ps : List (Bytes → Prop)) (strings : List Bytes) (e : Error) : Prop :=
  if ps.length ≤ strings.length then e.Invalid else e = .outOfBounds

theorem readString_eq (buffer : Bytes) :
    (Records.complete nul [] buffer = [] ∧ readString buffer = .error .outOfBounds) ∨
      ∃ s rest, Records.complete nul [] buffer = s :: Records.complete nul [] rest ∧
        readString buffer = .ok (s, rest) := by
  by_cases h : nul ∈ buffer
  · obtain ⟨s, rest, rfl, hs⟩ := List.eq_append_cons_of_mem h
    exact .inr ⟨s, rest, Records.complete_record hs rest, readString_terminated hs rest⟩
  · exact .inl ⟨Records.complete_eq_nil h, readString_unterminated h⟩

section Strings

variable {α β : Type} {ps : List (Bytes → Prop)} {q : Prop}

/-- Reading one more string, behind some that have been read. -/
theorem readString_checks (done : List Bytes) {f : Bytes → Reader β} {buffer : Bytes}
    (hlen : done.length < ps.length)
    (hf : ∀ s rest, Checks (DatagramError ps (done ++ s :: Records.complete nul [] rest)) (f s rest)
      (Passes ps (done ++ s :: Records.complete nul [] rest))) :
    Checks (DatagramError ps (done ++ Records.complete nul [] buffer)) ((readString >>= f) buffer)
      (Passes ps (done ++ Records.complete nul [] buffer)) := by
  rcases readString_eq buffer with ⟨hc, hr⟩ | ⟨s, rest, hc, hr⟩
  · have herror : (readString >>= f) buffer = .error .outOfBounds := by
      change (readString buffer >>= fun r => f r.1 r.2) = _
      rw [hr]
      rfl
    have hbad : DatagramError ps done .outOfBounds := by rw [DatagramError, if_neg (by omega)]
    have hnot : ¬ Passes ps done := fun h => absurd h.length_le (by omega)
    rw [herror, hc, List.append_nil]
    exact (Checks.fail hbad).congr (by simp [hnot])
  · rw [Reader.bind_ok hr, hc]
    exact hf s rest

theorem firstString_checks {f : Bytes → Reader β} {buffer : Bytes} (hlen : 0 < ps.length)
    (hf : ∀ s rest, Checks (DatagramError ps (s :: Records.complete nul [] rest)) (f s rest)
      (Passes ps (s :: Records.complete nul [] rest))) :
    Checks (DatagramError ps (Records.complete nul [] buffer)) ((readString >>= f) buffer)
      (Passes ps (Records.complete nul [] buffer)) :=
  readString_checks [] hlen hf

theorem DatagramError.of_invalid {strings : List Bytes} (hlen : ps.length ≤ strings.length)
    (e : Error) (he : e.Invalid) : DatagramError ps strings e := by
  rw [DatagramError, if_pos hlen]
  exact he

/-- The constructor behind the strings, with nothing behind it that can fail. -/
theorem constructor_checks {bad : Error → Prop} {x : Except Error α} {f : α → Reader β}
    {strings : List Bytes} {rest : Bytes} (hx : Checks Error.Invalid x q)
    (hbad : ∀ e : Error, e.Invalid → bad e) (hf : ∀ a, ∃ r, f a rest = .ok r)
    (hq : q ↔ Passes ps strings) :
    Checks bad ((liftM x >>= f) rest) (Passes ps strings) := by
  refine ((hx.mono hbad).liftBind (q := True) fun a => ?_).congr (by rw [and_true, hq])
  obtain ⟨r, hr⟩ := hf a
  rw [hr]
  exact Checks.pure r

end Strings

/-- `writeUDPMail` returns when there are as many strings as the type has, and they pass; its errors
are those of the validators and, when a string is missing, a read past the end. -/
theorem writeUDPMail_checks (mb : MailBox) (mail : Mail) {buffer : Bytes} (h : 6 ≤ buffer.length) :
    Checks (DatagramError (datagramType buffer).validators (datagramStrings buffer))
      (writeUDPMail mb mail buffer)
      (Passes (datagramType buffer).validators (datagramStrings buffer)) := by
  obtain ⟨c, hi, lo, r, hi', lo', rest, rfl⟩ :
      ∃ c hi lo r hi' lo' rest, buffer = c :: hi :: lo :: r :: hi' :: lo' :: rest := by
    match buffer, h with
    | c :: hi :: lo :: r :: hi' :: lo' :: rest, _ => exact ⟨c, hi, lo, r, hi', lo', rest, rfl⟩
  rw [writeUDPMail, Reader.bind_ok (readChar_cons c _), datagramStrings, datagramType,
    List.headD_cons]
  rcases hty : MessageType.ofCode c with _ | ty
  · exact Checks.pure _
  · cases ty with
    | confirm | bye | unknown => exact Checks.pure _
    | auth =>
      simp only [Option.getD_some, MessageType.validators, reduceCtorEq, if_false,
        List.drop_succ_cons, List.drop_zero]
      rw [Reader.bind_ok (readUInt16_cons hi lo _)]
      apply firstString_checks (by simp)
      intro username rest
      apply readString_checks [username] (by simp)
      intro dN rest
      apply readString_checks [username, dN] (by simp)
      intro secret rest
      exact constructor_checks (AuthMessage.new_checks _ username dN secret) (.of_invalid (by simp))
        (fun a => ⟨_, rfl⟩) (by simp [Passes])
    | join =>
      simp only [Option.getD_some, MessageType.validators, reduceCtorEq, if_false,
        List.drop_succ_cons, List.drop_zero]
      rw [Reader.bind_ok (readUInt16_cons hi lo _)]
      apply firstString_checks (by simp)
      intro channelID rest
      apply readString_checks [channelID] (by simp)
      intro dN rest
      exact constructor_checks (JoinMessage.new_checks _ channelID dN) (.of_invalid (by simp))
        (fun a => ⟨_, rfl⟩) (by simp [Passes])
    | err =>
      simp only [Option.getD_some, MessageType.validators, reduceCtorEq, if_false,
        List.drop_succ_cons, List.drop_zero]
      rw [Reader.bind_ok (readUInt16_cons hi lo _)]
      apply firstString_checks (by simp)
      intro dN rest
      apply readString_checks [dN] (by simp)
      intro mC rest
      exact constructor_checks (ErrorMessage.new_checks _ dN mC) (.of_invalid (by simp))
        (fun a => ⟨_, rfl⟩) (by simp [Passes])
    | msg =>
      simp only [Option.getD_some, MessageType.validators, reduceCtorEq, if_false,
        List.drop_succ_cons, List.drop_zero]
      rw [Reader.bind_ok (readUInt16_cons hi lo _)]
      apply firstString_checks (by simp)
      intro dN rest
      apply readString_checks [dN] (by simp)
      intro mC rest
      exact constructor_checks (TextMessage.new_checks _ dN mC) (.of_invalid (by simp))
        (fun a => ⟨_, rfl⟩) (by simp [Passes])
    | reply =>
      simp only [Option.getD_some, MessageType.validators, if_true, List.drop_succ_cons,
        List.drop_zero]
      rw [Reader.bind_ok (readUInt16_cons hi lo _), Reader.bind_ok (readChar_cons r _),
        Reader.bind_ok (readUInt16_cons hi' lo' _)]
      apply firstString_checks (by simp)
      intro mC rest
      exact constructor_checks (ReplyMessage.new_checks _ _ _ mC) (.of_invalid (by simp))
        (fun a => ⟨_, rfl⟩) (by simp [Passes])

/-! ## Texts -/

/-- The text in a buffer. -/
def bufferText (buffer : Bytes) : Bytes := buffer.takeWhile (· != nul)

theorem bufferText_append {text : Bytes} (h : nul ∉ text) (rest : Bytes) :
    bufferText (text ++ nul :: rest) = text := by
  have hall : ∀ c ∈ text, (c != nul) = true := fun c hc => bne_iff_ne.2 fun he => h (he ▸ hc)
  exact Words.takeWhile_append_stop hall (bne_self_eq_false nul) rest

/-- The content in the rest of a text: of the next line, without one CR at the end and one space at
the front. -/
def contentOf (text : Bytes) : Bytes :=
  let line := text.takeWhile (· != lf)
  let line := if line.getLast? = some cr then line.dropLast else line
  if line.head? = some space then line.drop 1 else line

theorem readContent_eq (text : Bytes) : ∃ rest, readContent text = .ok (contentOf text, rest) :=
  ⟨_, rfl⟩

/-- The type of a text and the strings that the constructor takes, in its order. -/
def textMessage (text : Bytes) : MessageType × List Bytes :=
  if word 0 text = chars "BYE" then (.bye, [])
  else if word 0 text = chars "ERR" then (.err, [word 2 text, contentOf (behind 4 text)])
  else if word 0 text = chars "REPLY" then (.reply, [contentOf (behind 3 text)])
  else if word 0 text = chars "AUTH" then (.auth, [word 1 text, word 5 text, word 3 text])
  else if word 0 text = chars "JOIN" then (.join, [word 1 text, word 3 text])
  else if word 0 text = chars "MSG" then (.msg, [word 2 text, contentOf (behind 4 text)])
  else (.unknown, [])

theorem parseTCPMail_checks (mb : MailBox) (mail : Mail) (text : Bytes) :
    Checks Error.Invalid (parseTCPMail mb mail text)
      (Passes (textMessage text).1.validators (textMessage text).2) := by
  -- the other words are checked behind the constructor, and that returns one way or the other
  have hpure : ∀ (c : Prop) [Decidable c] (r r' : Bool × Mail) (rest : Bytes),
      ∃ res, (if c then pure r else pure r' : IStringStream (Bool × Mail)) rest = .ok res := by
    intro c _ r r' rest
    by_cases h : c
    · exact ⟨(r, rest), by rw [if_pos h]; rfl⟩
    · exact ⟨(r', rest), by rw [if_neg h]; rfl⟩
  unfold textMessage
  rw [parseTCPMail, Reader.bind_ok (s := text) (extract_behind 0 text)]
  split_ifs with hbye herr hreply hauth hjoin hmsg
  · exact Checks.pure _
  · obtain ⟨rest, hcontent⟩ := readContent_eq (behind 4 text)
    rw [Reader.bind_ok (extract_behind 1 text), Reader.bind_ok (extract_behind 2 text),
      Reader.bind_ok (extract_behind 3 text), Reader.bind_ok hcontent]
    apply constructor_checks (ErrorMessage.new_checks _ _ _) (fun _ h => h)
    · intro a
      apply hpure
    · simp [MessageType.validators, Passes]
  · obtain ⟨rest, hcontent⟩ := readContent_eq (behind 3 text)
    rw [Reader.bind_ok (extract_behind 1 text), Reader.bind_ok (extract_behind 2 text),
      Reader.bind_ok hcontent]
    apply constructor_checks (ReplyMessage.new_checks _ _ _ _) (fun _ h => h)
    · intro a
      apply hpure
    · simp [MessageType.validators, Passes]
  · rw [Reader.bind_ok (extract_behind 1 text), Reader.bind_ok (extract_behind 2 text),
      Reader.bind_ok (extract_behind 3 text), Reader.bind_ok (extract_behind 4 text),
      Reader.bind_ok (extract_behind 5 text)]
    apply constructor_checks (AuthMessage.new_checks _ _ _ _) (fun _ h => h)
    · intro a
      apply hpure
    · simp [MessageType.validators, Passes]
  · rw [Reader.bind_ok (extract_behind 1 text), Reader.bind_ok (extract_behind 2 text),
      Reader.bind_ok (extract_behind 3 text)]
    apply constructor_checks (JoinMessage.new_checks _ _ _) (fun _ h => h)
    · intro a
      apply hpure
    · simp [MessageType.validators, Passes]
  · obtain ⟨rest, hcontent⟩ := readContent_eq (behind 4 text)
    rw [Reader.bind_ok (extract_behind 1 text), Reader.bind_ok (extract_behind 2 text),
      Reader.bind_ok (extract_behind 3 text), Reader.bind_ok hcontent]
    apply constructor_checks (TextMessage.new_checks _ _ _) (fun _ h => h)
    · intro a
      apply hpure
    · simp [MessageType.validators, Passes]
  · exact Checks.pure _

/-- `writeTCPMail` returns when the strings of the text pass. -/
theorem writeTCPMail_checks (mb : MailBox) (mail : Mail) {buffer : Bytes} (h : nul ∈ buffer) :
    Checks Error.Invalid (writeTCPMail mb buffer mail)
      (Passes (textMessage (bufferText buffer)).1.validators
        (textMessage (bufferText buffer)).2) := by
  obtain ⟨text, rest, rfl, htext⟩ := List.eq_append_cons_of_mem h
  rw [bufferText_append htext, writeTCPMail]
  exact .of_ok (readString_terminated htext rest) (parseTCPMail_checks mb mail text).run'

/-- The words between the strings of a text are the keywords of its type. -/
def Formatted (text : Bytes) : Prop :=
  if word 0 text = chars "BYE" then True
  else if word 0 text = chars "ERR" then word 1 text = chars "FROM" ∧ word 3 text = chars "IS"
  else if word 0 text = chars "REPLY" then
    (word 1 text = chars "OK" ∨ word 1 text = chars "NOK") ∧ word 2 text = chars "IS"
  else if word 0 text = chars "AUTH" then word 2 text = chars "AS" ∧ word 4 text = chars "USING"
  else if word 0 text = chars "JOIN" then word 2 text = chars "AS"
  else if word 0 text = chars "MSG" then word 1 text = chars "FROM" ∧ word 3 text = chars "IS"
  else True

/-- The last check of a branch lets through what is not wrong. -/
theorem true_iff_not {wrong : Prop} [Decidable wrong] {mail mail' m : Mail} {s rest : Bytes}
    {b : Bool} (h : (if wrong then pure (false, mail) else pure (true, mail') :
      IStringStream (Bool × Mail)) s = .ok ((b, m), rest)) : b = true ↔ ¬ wrong := by
  split_ifs at h with hwrong
  · cases h
    simp [hwrong]
  · cases h
    simp [hwrong]

/-- The decoder of texts returns `true` for a text it returns from at all iff the keywords are in
place. -/
theorem parseTCPMail_true_iff {mb : MailBox} {mail m : Mail} {text rest : Bytes} {b : Bool}
    (h : parseTCPMail mb mail text = .ok ((b, m), rest)) : b = true ↔ Formatted text := by
  unfold Formatted
  rw [parseTCPMail, Reader.bind_ok (s := text) (extract_behind 0 text)] at h
  split_ifs at h ⊢ with hbye herr hreply hauth hjoin hmsg
  · cases h
    exact iff_of_true rfl trivial
  · obtain ⟨rest', hcontent⟩ := readContent_eq (behind 4 text)
    rw [Reader.bind_ok (extract_behind 1 text), Reader.bind_ok (extract_behind 2 text),
      Reader.bind_ok (extract_behind 3 text), Reader.bind_ok hcontent, stateBind_eq_ok] at h
    obtain ⟨msg, _, -, h⟩ := h
    -- the constructor takes no empty content, so the last comparison decides nothing
    have hne : msg.messageContent.val ≠ [] := msg.messageContent.ne_nil one_pos
    rw [true_iff_not h]
    simp [hne]
  · obtain ⟨rest', hcontent⟩ := readContent_eq (behind 3 text)
    rw [Reader.bind_ok (extract_behind 1 text), Reader.bind_ok (extract_behind 2 text),
      Reader.bind_ok hcontent, stateBind_eq_ok] at h
    obtain ⟨msg, _, -, h⟩ := h
    rw [true_iff_not h]
    tauto
  · rw [Reader.bind_ok (extract_behind 1 text), Reader.bind_ok (extract_behind 2 text),
      Reader.bind_ok (extract_behind 3 text), Reader.bind_ok (extract_behind 4 text),
      Reader.bind_ok (extract_behind 5 text), stateBind_eq_ok] at h
    obtain ⟨msg, _, -, h⟩ := h
    rw [true_iff_not h]
    simp
  · rw [Reader.bind_ok (extract_behind 1 text), Reader.bind_ok (extract_behind 2 text),
      Reader.bind_ok (extract_behind 3 text), stateBind_eq_ok] at h
    obtain ⟨msg, _, -, h⟩ := h
    rw [true_iff_not h]
    simp
  · obtain ⟨rest', hcontent⟩ := readContent_eq (behind 4 text)
    rw [Reader.bind_ok (extract_behind 1 text), Reader.bind_ok (extract_behind 2 text),
      Reader.bind_ok (extract_behind 3 text), Reader.bind_ok hcontent, stateBind_eq_ok] at h
    obtain ⟨msg, _, -, h⟩ := h
    rw [true_iff_not h]
    simp
  · cases h
    exact iff_of_true rfl trivial

/-! ## Lines -/

/-- The type of the mail that a line stands for and the strings that the constructor takes. -/
def lineMessage (displayName line : Bytes) : MessageType × List Bytes :=
  if word 0 line = chars "/auth" then (.auth, [word 1 line, word 3 line, word 2 line])
  else if word 0 line = chars "/join" then (.join, [word 1 line, displayName])
  else if word 0 line = chars "/rename" then (.unknown, [])
  else if word 0 line = chars "/help" then (.unknown, [])
  else if word 0 line = chars "/print" then (.unknown, [])
  else (.msg, [displayName, line])

/-- `writeMail` for a line returns when the strings of the line pass. -/
theorem writeMailLine_checks (mb : MailBox) (mail : Mail) (line : Bytes) :
    Checks Error.Invalid (mb.writeMailLine line mail)
      (Passes (lineMessage mb.displayName line).1.validators
        (lineMessage mb.displayName line).2) := by
  unfold lineMessage
  rw [writeMailLine]
  apply Checks.of_ok (extract_behind 0 line)
  dsimp only
  split_ifs with hauth hjoin hrename hhelp hprint
  · apply Checks.of_ok (extract_behind 1 line)
    apply Checks.of_ok (extract_behind 2 line)
    apply Checks.of_ok (extract_behind 3 line)
    exact (AuthMessage.new_checks _ _ _ _).map.congr (by simp [MessageType.validators, Passes])
  · apply Checks.of_ok (extract_behind 1 line)
    exact (JoinMessage.new_checks _ _ _).map.congr (by simp [MessageType.validators, Passes])
  · exact Checks.of_ok (extract_behind 1 line) (Checks.pure _)
  · exact Checks.pure _
  · exact Checks.pure _
  · exact (TextMessage.new_checks _ _ _).map.congr (by simp [MessageType.validators, Passes])

/-! ## What is accepted -/

/-- The type and the strings of a message in a buffer. -/
def bufferMessage : ProtocolType → Bytes → MessageType × List Bytes
  | .udp, buffer => (datagramType buffer, datagramStrings buffer)
  | .tcp, buffer => textMessage (bufferText buffer)

/-- The strings of a message pass the validators of its type. -/
def Accepted (message : MessageType × List Bytes) : Prop :=
  Passes message.1.validators message.2

theorem writeMailBuffer_returns_iff (mb : MailBox) (mail : Mail) {buffer : Bytes}
    (hlen : buffer.length = bufferSize) (hnul : nul ∈ buffer) :
    (∃ res, mb.writeMailBuffer buffer mail = .ok res) ↔
      Accepted (bufferMessage mb.deliveryService buffer) := by
  have hlen : 6 ≤ buffer.length := by rw [hlen, bufferSize]; omega
  unfold writeMailBuffer
  rcases mb.deliveryService
  · exact (writeTCPMail_checks mb mail hnul).ok_iff
  · exact (writeUDPMail_checks mb mail hlen).run'.ok_iff

/-- In every run, `listenSocket` returns iff `writeMail` does. -/
theorem listenSocket_returns_iff {connection : NetworkConnection} {t : List Event} {s : Client}
    (r : (Client.system connection).Run t s) {received : Option Bytes} {buffer : Bytes}
    (h : connection.receiveData received = .ok buffer) :
    (∃ res, listenSocket connection s.listener s.mailbox received = .ok res) ↔
      ∃ res, s.mailbox.writeMailBuffer buffer {} = .ok res := by
  have hc := Client.consistent r
  constructor
  · rintro ⟨res, hres⟩
    simp only [listenSocket, bind_eq_ok] at hres
    obtain ⟨buffer', hbuffer, res', hwrite, -⟩ := hres
    obtain rfl : buffer = buffer' := Except.ok.inj (h.symm.trans hbuffer)
    exact ⟨res', hwrite⟩
  · rintro ⟨⟨written, mail⟩, hwrite⟩
    rcases htype : connection.type
    · exact ⟨_, listenSocket_of_writeMail (hc.protocol.trans htype) h hwrite⟩
    · have hs : s.mailbox.deliveryService = .udp := hc.service.trans htype
      have hdecode : decodeDatagram received = .ok mail := by
        have hcongr : writeUDPMail s.mailbox {} = writeUDPMail { deliveryService := .udp } {} :=
          writeUDPMail_congr hs {}
        rw [NetworkConnection.receiveData, htype] at h
        rw [writeMailBuffer, hs, hcongr] at hwrite
        exact bind_eq_ok.2 ⟨buffer, h, bind_eq_ok.2 ⟨(written, mail), hwrite, rfl⟩⟩
      obtain ⟨l', mb', sent, -, hok⟩ := listenSocket_ok htype (hc.protocol.trans htype) hs hdecode
      exact ⟨_, hok⟩

theorem enterLine_returns_iff (mb : MailBox) (line : Bytes) :
    (∃ mb', enterLine mb line = .ok mb') ↔ ∃ res, mb.writeMailLine line {} = .ok res := by
  constructor
  · rintro ⟨mb', h⟩
    obtain ⟨res, hres, -⟩ := bind_eq_ok.1 h
    exact ⟨res, hres⟩
  · rintro ⟨⟨written, mail, mb'⟩, h⟩
    obtain ⟨rfl, -⟩ := writeMailLine_cases h
    refine ⟨mb'.addMail mail, ?_⟩
    rw [enterLine, h]
    rfl

/-- `writeMail` returns, for a received buffer with a zero byte in it and for a line, iff the strings
of the message pass the validators of its type; the same decides whether the listener goes on when
it has received the buffer in a run, or read the line. -/
theorem writeMail_returns_iff (mb : MailBox) (mail : Mail) :
    (∀ buffer : Bytes, buffer.length = bufferSize → nul ∈ buffer →
      ((∃ res, mb.writeMailBuffer buffer mail = .ok res) ↔
        Accepted (bufferMessage mb.deliveryService buffer))) ∧
    (∀ line, (∃ res, mb.writeMailLine line mail = .ok res) ↔
      Accepted (lineMessage mb.displayName line)) ∧
    (∀ connection t s, (Client.system connection).Run t s →
      ∀ received buffer, connection.receiveData received = .ok buffer → nul ∈ buffer →
        ((∃ res, listenSocket connection s.listener s.mailbox received = .ok res) ↔
          Accepted (bufferMessage connection.type buffer))) ∧
    ∀ line, (∃ mb', enterLine mb line = .ok mb') ↔ Accepted (lineMessage mb.displayName line) := by
  refine ⟨fun buffer hlen hnul => ?_, fun line => ?_, ?_, fun line => ?_⟩
  · exact writeMailBuffer_returns_iff mb mail hlen hnul
  · exact (writeMailLine_checks mb mail line).ok_iff
  · intro connection t s r received buffer h hnul
    rw [listenSocket_returns_iff r h, ← (Client.consistent r).service]
    exact writeMailBuffer_returns_iff s.mailbox {} (NetworkConnection.length_receiveData h) hnul
  · rw [enterLine_returns_iff]
    exact (writeMailLine_checks mb {} line).ok_iff

/-- A BYE in a TCP buffer. -/
theorem writeMail_returns_iff_bye :
    (∃ res, MailBox.writeMailBuffer { deliveryService := .tcp }
        (stored (chars "BYE" ++ [cr, lf])) {} = .ok res) ↔
      Accepted (bufferMessage .tcp (stored (chars "BYE" ++ [cr, lf]))) :=
  (writeMail_returns_iff { deliveryService := .tcp } {}).1 _ (by decide +kernel)
    (by decide +kernel)

/-- A MSG without its strings from a UDP server that has got the AUTH, one without content from a TCP
server, and `/auth` without arguments: each ends the program. -/
theorem malformed_fatal :
    (∃ t p, (Program.system { type := .udp, timeout := 250, retries := 3 }).Run t p ∧
      (transmitted t).map Mail.type = [some .auth] ∧ p.client.failure =
        some (.runtimeError (chars "DisplayName is invalid. value: [] Hex: []"))) ∧
    (∃ t p, (Program.system { type := .tcp }).Run t p ∧ p.client.failure =
      some (.runtimeError (chars "MessageContent is invalid. value: [] Hex: []"))) ∧
    (∃ t p, (Program.system { type := .tcp }).Run t p ∧ p.client.failure =
      some (.runtimeError (chars "Username is invalid. value: [] Hex: []"))) ∧
    ∀ mb : MailBox, ¬ ∃ res, mb.writeMailLine (chars "/auth") {} = .ok res := by
  have r₁ := Program.run_of_exec { type := .udp, timeout := 250, retries := 3 } (.init rfl)
    (Program.round [.stdinPipe] [.listenStdin (some (chars "/auth ann pw ann" ++ [lf]))] ++
      Program.mainThread 5 ++ Program.round [.toSendPipe] [.readNotify, .popMail, .transmit] ++
      Program.round [.socketPipe] [.listenSocket (some [4, 0, 0])]) rfl
  have r₂ := Program.run_of_exec { type := .tcp } (.init rfl)
    (Program.round [.socketPipe]
      [.listenSocket (some (chars "MSG FROM server IS " ++ [cr, lf]))]) rfl
  have r₃ := Program.run_of_exec { type := .tcp } (.init rfl)
    (Program.round [.stdinPipe] [.listenStdin (some (chars "/auth" ++ [lf]))]) rfl
  refine ⟨⟨_, _, r₁, rfl, rfl⟩, ⟨_, _, r₂, rfl⟩, ⟨_, _, r₃, rfl⟩, ?_⟩
  rintro mb ⟨res, h⟩
  cases h

/-! ## What is rejected -/

theorem waitMail_indeterminate {mb : MailBox} (h : mb.incomingMails = [({} : Mail)]) :
    ∃ mb', mb.waitMail = some (.error .indeterminate, mb') := by
  refine ⟨{ mb with incomingMails := [] }, ?_⟩
  rw [waitMail, h]

/-- For every TCP mailbox and every received buffer for which `writeTCPMail` returns `false`:
`listenSocket` adds a mail without a type to the queue, and `waitMail` reads that type. -/
theorem rejected_queued {connection : NetworkConnection} {l : Listener} {mb : MailBox}
    (hl : l.protocolType = .tcp) (hs : mb.deliveryService = .tcp) {received : Option Bytes}
    {buffer : Bytes} {mail : Mail} (hreceive : connection.receiveData received = .ok buffer)
    (h : writeTCPMail mb buffer {} = .ok (false, mail)) :
    ∃ res, listenSocket connection l mb received = .ok res ∧
      res.mailbox.incomingMails ≠ mb.incomingMails ∧
      res.mailbox.incomingMails = mb.incomingMails ++ [({} : Mail)] ∧
      (mb.incomingMails = [] → ∃ mb', res.mailbox.waitMail = some (.error .indeterminate, mb')) := by
  have hread := h
  rw [writeTCPMail, bind_eq_ok] at hread
  obtain ⟨⟨text, _⟩, -, hread⟩ := hread
  obtain ⟨rest, hread⟩ := run'_eq_ok.1 hread
  obtain rfl : mail = {} := by
    cases parseTCPMail_cases hread
    rfl
  have hwrite : mb.writeMailBuffer buffer {} = .ok (false, {}) := by
    rw [writeMailBuffer, hs]
    exact h
  have hadd : (mb.addMail {}).incomingMails = mb.incomingMails ++ [({} : Mail)] := rfl
  refine ⟨_, listenSocket_of_writeMail hl hreceive hwrite, ?_, hadd, ?_⟩
  · rw [hadd]
    simp
  · intro hempty
    apply waitMail_indeterminate
    rw [hadd, hempty, List.nil_append]

/-- A MSG with `from` for `FROM`. -/
theorem rejected_queued_from :
    let text := chars "MSG from server IS hi" ++ [cr, lf]
    ∃ res, listenSocket { type := .tcp } { protocolType := .tcp } { deliveryService := .tcp }
        (some text) = .ok res ∧
      res.mailbox.incomingMails ≠ [] ∧ res.mailbox.incomingMails = [({} : Mail)] ∧
      (([] : List Mail) = [] → ∃ mb', res.mailbox.waitMail = some (.error .indeterminate, mb')) :=
  rejected_queued rfl rfl rfl rfl

/-- The FSM acts on the mail that a rejected JOIN leaves: it reads the type of that mail. -/
theorem rejected_mail_read :
    let text := chars "JOIN general as server" ++ [cr, lf]
    writeTCPMail { deliveryService := .tcp } (stored text) {} = .ok (false, {}) ∧
    (¬ ∀ res, listenSocket { type := .tcp } { protocolType := .tcp } { deliveryService := .tcp }
        (some text) = .ok res → res.mailbox.incomingMails = []) ∧
    ∃ t p, (Program.system { type := .tcp }).Run t p ∧
      .received text {} true ∈ t ∧ p.client.failure = some .indeterminate := by
  intro text
  have r := Program.run_of_exec { type := .tcp } (.init rfl)
    (Program.round [.socketPipe] [.listenSocket (some text)] ++ Program.mainThread 1) rfl
  refine ⟨rfl, fun h => ?_, _, _, r, by decide, rfl⟩
  cases h _ rfl

end ChatClient

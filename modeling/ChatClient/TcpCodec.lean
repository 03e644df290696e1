import ChatClient.UdpCodec
import Mathlib.Data.List.Forall2

/-!
# The TCP codec

What `writeTCPMail` makes of a line written by `MailSerializer`.  A line is a list of words with a
space between any two, closed by CR LF (`line_eq`); the last word of a message with content is the
content itself, which may contain spaces and anything else that is printable.
-/

namespace ChatClient

open MailBox

/-- The serializer `TcpProtocol::sendData` uses. -/
abbrev tcpSerializer : MailSerializer := ⟨false⟩

/-- The bytes that a sequence of `sendData` writes to the stream. -/
def tcpStream (mails : List Mail) : Except Error Bytes := do
  let lines ← mails.mapM tcpSerializer.serialize
  return lines.flatten

/-! ## The layout of a line -/

namespace MessageData

/-- The words of a TCP message. -/
def words : MessageData → List Bytes
  | confirm _ => [chars "CONFIRM"]
  | auth m => [chars "AUTH", m.username.val, chars "AS", m.displayName.val, chars "USING",
      m.secret.val]
  | join m => [chars "JOIN", m.channelID.val, chars "AS", m.displayName.val]
  | error m => [chars "ERR", chars "FROM", m.displayName.val, chars "IS", m.messageContent.val]
  | bye _ => [chars "BYE"]
  | text m => [chars "MSG", chars "FROM", m.displayName.val, chars "IS", m.messageContent.val]
  | reply m => [chars "REPLY", if m.result then chars "OK" else chars "NOK", chars "IS",
      m.messageContent.val]
  | unknown _ => [chars "ERR"]

/-- A line without its CR LF. -/
def body (d : MessageData) : Bytes := [space].intercalate d.words

end MessageData

theorem MessageData.length_body (d : MessageData) :
    d.body.length + 1 = (d.words.map fun w => w.length + 1).sum :=
  Words.length_intercalate space (by cases d <;> simp [words])

@[simp] theorem tcp_serializeUInt16 (value : UInt16) :
    tcpSerializer.serializeUInt16 value = [] := rfl

@[simp] theorem tcp_serializeString (str : Bytes) :
    tcpSerializer.serializeString str = str ++ [space] := rfl

@[simp] theorem tcp_keyword (str : String) : tcpSerializer.keyword str = chars str := rfl

/-- Every word is written with a space behind it. -/
theorem visit_tcp (d : MessageData) :
    chars (MailSerializer.messageType d.type) ++ tcpSerializer.visit d =
      d.words.flatMap (· ++ [space]) := by
  cases d with
  | reply m =>
    cases hr : m.result <;>
      simp [MailSerializer.visit, MailSerializer.visitReply, MessageData.words, MessageData.type,
        MailSerializer.messageType, chars, hr]
  | _ =>
    simp [MailSerializer.visit, MailSerializer.visitConfirm, MailSerializer.visitAuth,
      MailSerializer.visitJoin, MailSerializer.visitError, MailSerializer.visitBye,
      MailSerializer.visitText, MailSerializer.visitUnknown, MessageData.words, MessageData.type,
      MailSerializer.messageType, chars]

theorem line_eq (d : MessageData) :
    tcpSerializer.serializeAs d.type d = d.body ++ [cr, lf] := by
  rw [MailSerializer.serializeAs, if_neg Bool.false_ne_true, visit_tcp, Words.dropLast_flatMap]
  rfl

/-! ## Which bytes occur -/

/-- `[\x21-\x7E]`: printable and no space. -/
def IsGraphic (c : Byte) : Prop := 0x21 ≤ c ∧ c ≤ 0x7E

/-- `[\x20-\x7E]` -/
def IsPrintable (c : Byte) : Prop := 0x20 ≤ c ∧ c ≤ 0x7E

instance : DecidablePred IsGraphic := fun c =>
  inferInstanceAs (Decidable (0x21 ≤ c ∧ c ≤ 0x7E))

instance : DecidablePred IsPrintable := fun c =>
  inferInstanceAs (Decidable (0x20 ≤ c ∧ c ≤ 0x7E))

def Graphic (w : Bytes) : Prop := ∀ c ∈ w, IsGraphic c

def Printable (w : Bytes) : Prop := ∀ c ∈ w, IsPrintable c

-- the instances for all bytes at once would be found first
instance : DecidablePred Graphic := fun w => List.decidableBAll IsGraphic w

instance : DecidablePred Printable := fun w => List.decidableBAll IsPrintable w

theorem IsGraphic.isPrintable {c : Byte} (h : IsGraphic c) : IsPrintable c := by
  simp only [IsGraphic, IsPrintable, UInt8.le_iff_toNat_le, UInt8.reduceToNat] at h ⊢
  omega

theorem Graphic.printable {w : Bytes} (h : Graphic w) : Printable w :=
  fun c hc => (h c hc).isPrintable

theorem IsGraphic.isSpace {c : Byte} (h : IsGraphic c) : isSpace c = false := by
  simp only [IsGraphic, UInt8.le_iff_toNat_le, UInt8.reduceToNat] at h
  rw [ChatClient.isSpace, Bool.eq_false_iff]
  simp only [ne_eq, Bool.or_eq_true, Bool.and_eq_true, beq_iff_eq, decide_eq_true_eq,
    UInt8.le_iff_toNat_le, ← UInt8.toNat_inj, UInt8.reduceToNat]
  omega

theorem isGraphic_of_isNameChar {c : Byte} (h : isNameChar c = true) : IsGraphic c := by
  simp only [isNameChar, Bool.or_eq_true, Bool.and_eq_true, beq_iff_eq, decide_eq_true_eq,
    UInt8.le_iff_toNat_le, ← UInt8.toNat_inj, UInt8.reduceToNat] at h
  simp only [IsGraphic, UInt8.le_iff_toNat_le, UInt8.reduceToNat]
  omega

theorem Username.graphic (f : Username) : Graphic f.val :=
  fun _ hc => isGraphic_of_isNameChar (f.bracket_of_mem hc)

theorem Secret.graphic (f : Secret) : Graphic f.val :=
  fun _ hc => isGraphic_of_isNameChar (f.bracket_of_mem hc)

theorem DisplayName.graphic (f : DisplayName) : Graphic f.val := by
  intro c hc
  have h := f.bracket_of_mem hc
  rw [displayNamePattern, Bool.and_eq_true, decide_eq_true_eq, decide_eq_true_eq] at h
  exact h

theorem ChannelID.graphic (f : ChannelID) : Graphic f.val := by
  intro c hc
  have h := f.bracket_of_mem hc
  simp only [channelIDPattern, Bool.or_eq_true, beq_iff_eq] at h
  rcases h with h | rfl
  · exact isGraphic_of_isNameChar h
  · decide

theorem MessageContent.printable (f : MessageContent) : Printable f.val := by
  intro c hc
  have h := f.bracket_of_mem hc
  rw [messageContentPattern, Bool.and_eq_true, decide_eq_true_eq, decide_eq_true_eq] at h
  exact h

namespace MessageData

theorem printable_words (d : MessageData) : ∀ w ∈ d.words, Printable w := by
  cases d <;>
    simp only [words, List.forall_mem_cons, List.not_mem_nil, IsEmpty.forall_iff, implies_true,
      and_true]
  case confirm => decide
  case auth m =>
    exact ⟨by decide, m.username.graphic.printable, by decide, m.displayName.graphic.printable,
      by decide, m.secret.graphic.printable⟩
  case join m =>
    exact ⟨by decide, m.channelID.graphic.printable, by decide, m.displayName.graphic.printable⟩
  case error m =>
    exact ⟨by decide, by decide, m.displayName.graphic.printable, by decide,
      m.messageContent.printable⟩
  case bye => decide
  case text m =>
    exact ⟨by decide, by decide, m.displayName.graphic.printable, by decide,
      m.messageContent.printable⟩
  case reply m =>
    refine ⟨by decide, ?_, by decide, m.messageContent.printable⟩
    split_ifs <;> decide
  case unknown => decide

theorem printable_body (d : MessageData) : Printable d.body :=
  Words.of_mem_intercalate (by decide) d.printable_words

theorem notMem_body (d : MessageData) {c : Byte} (hc : ¬ IsPrintable c) : c ∉ d.body :=
  fun h => hc (d.printable_body c h)

end MessageData

/-! ## Decoding what was encoded -/

/-- The first word of a line. -/
theorem extract_first {w : Bytes} (hne : w ≠ []) (hw : Graphic w) {c : Byte}
    (hc : isSpace c = true) (rest : Bytes) : extract (w ++ c :: rest) = .ok (w, c :: rest) :=
  extract_word hne (fun x hx => (hw x hx).isSpace) hc rest

/-- A later word. -/
theorem extract_next {w : Bytes} (hne : w ≠ []) (hw : Graphic w) {c : Byte}
    (hc : isSpace c = true) (rest : Bytes) :
    extract (space :: (w ++ c :: rest)) = .ok (w, c :: rest) :=
  extract_space_word hne (fun x hx => (hw x hx).isSpace) hc rest

/-- What may follow the body of a line in a text that ends within the line. -/
theorem prefix_crlf {t : Bytes} (ht : t <+: [cr, lf]) : t = [] ∨ t = [cr] ∨ t = [cr, lf] := by
  rcases List.prefix_cons_iff.1 ht with rfl | ⟨t', rfl, hcr⟩
  · exact .inl rfl
  · rcases List.prefix_cons_iff.1 hcr with rfl | ⟨t'', rfl, hlf⟩
    · exact .inr (.inl rfl)
    · rw [List.prefix_nil.1 hlf]
      exact .inr (.inr rfl)

theorem isSpace_crlf : ∀ c ∈ [cr, lf], isSpace c = true :=
  List.forall_mem_cons.2 ⟨rfl, List.forall_mem_singleton.2 rfl⟩

theorem isSpace_head_crlf {t : Bytes} (ht : t <+: [cr, lf]) : ∀ c ∈ t.head?, isSpace c = true :=
  fun c hc => isSpace_crlf c (ht.subset (List.mem_of_mem_head? hc))

/-- The last word of a line. -/
theorem extract_last {w : Bytes} (hne : w ≠ []) (hw : Graphic w) {t : Bytes}
    (ht : t <+: [cr, lf]) : extract (space :: (w ++ t)) = .ok (w, t) := by
  rw [extract_cons_space rfl]
  exact extract_word_stop hne (fun x hx => (hw x hx).isSpace) (isSpace_head_crlf ht)

theorem extract_displayName (f : DisplayName) {c : Byte} (hc : isSpace c = true) (rest : Bytes) :
    extract (space :: (f.val ++ c :: rest)) = .ok (f.val, c :: rest) :=
  extract_next (f.ne_nil one_pos) f.graphic hc rest

theorem extract_channelID (f : ChannelID) {c : Byte} (hc : isSpace c = true) (rest : Bytes) :
    extract (space :: (f.val ++ c :: rest)) = .ok (f.val, c :: rest) :=
  extract_next (f.ne_nil one_pos) f.graphic hc rest

/-- Content behind a space comes back whole, whatever spaces it begins or ends with. -/
theorem readContent_field (f : MessageContent) {t : Bytes} (ht : t <+: [cr, lf]) :
    readContent (space :: (f.val ++ t)) = .ok (f.val, []) := by
  have hlf : lf ∉ space :: (f.val ++ [cr]) := by
    simp only [List.mem_cons, List.mem_append, List.not_mem_nil, or_false, not_or]
    exact ⟨by decide, f.notMem rfl, by decide⟩
  have hcr : f.val.getLast? ≠ some cr := fun h => f.notMem rfl (List.mem_of_getLast? h)
  obtain ⟨l, c, hval⟩ := (List.eq_nil_or_concat f.val).resolve_left (f.ne_nil one_pos)
  -- without its LF, the line is a space, the content and perhaps a CR
  obtain ⟨u, hget, hu⟩ : ∃ u, getline (space :: (f.val ++ t)) = .ok (space :: (f.val ++ u), []) ∧
      (u = [] ∨ u = [cr]) := by
    rcases prefix_crlf ht with rfl | rfl | rfl
    · refine ⟨[], getline_last fun hm => hlf ?_, .inl rfl⟩
      rw [← List.cons_append]
      exact List.mem_append_left [cr] (by simpa using hm)
    · exact ⟨[cr], getline_last hlf, .inr rfl⟩
    · exact ⟨[cr], by simpa using getline_append hlf [], .inr rfl⟩
  rw [readContent, Reader.bind_ok hget]
  rcases hu with rfl | rfl
  · have hlast : (space :: (f.val ++ [])).getLast? = f.val.getLast? := by
      rw [hval, List.append_nil, List.concat_eq_append, ← List.cons_append, List.getLast?_concat,
        List.getLast?_concat]
    rw [hlast, if_neg hcr, List.append_nil]
    rfl
  · have hlast : (space :: (f.val ++ [cr])).getLast? = some cr := by
      rw [← List.cons_append, List.getLast?_concat]
    have hdrop : (space :: (f.val ++ [cr])).dropLast = space :: f.val := by
      rw [← List.cons_append, List.dropLast_concat]
    rw [hlast, if_pos rfl, hdrop]
    rfl

section Decode

variable (mb : MailBox) (mail : Mail) {t : Bytes}

theorem parseTCPMail_bye (m : ByeMessage) (ht : t <+: [cr, lf]) :
    parseTCPMail mb mail ((MessageData.bye m).body ++ t) =
      .ok ((true, { mail with type := some .bye }), t) := by
  have hline : (MessageData.bye m).body = chars "BYE" := rfl
  have hgraphic : Graphic (chars "BYE") := by decide
  have hfirst : extract (chars "BYE" ++ t) = .ok (chars "BYE", t) :=
    extract_word_stop (by decide) (fun x hx => (hgraphic x hx).isSpace) (isSpace_head_crlf ht)
  rw [hline, parseTCPMail, Reader.bind_ok hfirst, if_pos rfl]
  rfl

theorem parseTCPMail_error (m : ErrorMessage) (ht : t <+: [cr, lf]) :
    parseTCPMail mb mail ((MessageData.error m).body ++ t) =
      .ok ((true, { mail with
        type := some .err
        data := .error ⟨mb.sequenceUDPNumber.toNat, m.displayName, m.messageContent⟩
        addToMailQueue := true }), []) := by
  have hline : (MessageData.error m).body ++ t =
      chars "ERR" ++ space :: (chars "FROM" ++ space :: (m.displayName.val ++ space ::
        (chars "IS" ++ space :: (m.messageContent.val ++ t)))) := by
    simp [MessageData.body, MessageData.words, List.intercalate_cons_cons]
  rw [hline, parseTCPMail, Reader.bind_ok (extract_first (by decide) (by decide) rfl _),
    if_neg (by decide), if_pos rfl,
    Reader.bind_ok (extract_next (by decide) (by decide) rfl _),
    Reader.bind_ok (extract_displayName m.displayName rfl _),
    Reader.bind_ok (extract_next (by decide) (by decide) rfl _),
    Reader.bind_ok (readContent_field m.messageContent ht),
    Reader.lift_ok (ErrorMessage.new_val _ _ _), if_neg ?_]
  · rfl
  · simp only [ne_eq, not_true_eq_false, false_or]
    exact m.messageContent.ne_nil one_pos

theorem parseTCPMail_reply (m : ReplyMessage) (ht : t <+: [cr, lf]) :
    parseTCPMail mb mail ((MessageData.reply m).body ++ t) =
      .ok ((true, { mail with
        type := some .reply
        data := .reply ⟨mb.sequenceUDPNumber.toNat, m.result, -1, m.messageContent⟩
        addToMailQueue := true }), []) := by
  have hline : (MessageData.reply m).body ++ t =
      chars "REPLY" ++ space :: ((if m.result then chars "OK" else chars "NOK") ++ space ::
        (chars "IS" ++ space :: (m.messageContent.val ++ t))) := by
    simp [MessageData.body, MessageData.words, List.intercalate_cons_cons]
  rw [hline, parseTCPMail, Reader.bind_ok (extract_first (by decide) (by decide) rfl _),
    if_neg (by decide), if_neg (by decide), if_pos rfl]
  cases hr : m.result
  all_goals
    simp only [Bool.false_eq_true, if_true, if_false]
    rw [Reader.bind_ok (extract_next (by decide) (by decide) rfl _),
      Reader.bind_ok (extract_next (by decide) (by decide) rfl _),
      Reader.bind_ok (readContent_field m.messageContent ht),
      Reader.lift_ok (ReplyMessage.new_val _ _ _ _), if_neg (by decide)]
    rfl

theorem parseTCPMail_join (m : JoinMessage) (ht : t <+: [cr, lf]) :
    parseTCPMail mb mail ((MessageData.join m).body ++ t) =
      .ok ((true, { mail with
        type := some .join
        data := .join ⟨mb.sequenceUDPNumber.toNat, m.channelID, m.displayName⟩
        addToMailQueue := true }), t) := by
  have hline : (MessageData.join m).body ++ t =
      chars "JOIN" ++ space :: (m.channelID.val ++ space :: (chars "AS" ++ space ::
        (m.displayName.val ++ t))) := by
    simp [MessageData.body, MessageData.words, List.intercalate_cons_cons]
  rw [hline, parseTCPMail, Reader.bind_ok (extract_first (by decide) (by decide) rfl _),
    if_neg (by decide), if_neg (by decide), if_neg (by decide), if_neg (by decide), if_pos rfl,
    Reader.bind_ok (extract_channelID m.channelID rfl _),
    Reader.bind_ok (extract_next (by decide) (by decide) rfl _),
    Reader.bind_ok (extract_last (m.displayName.ne_nil one_pos) m.displayName.graphic ht),
    Reader.lift_ok (JoinMessage.new_val _ _ _), if_neg (by simp)]
  rfl

theorem parseTCPMail_text (m : TextMessage) (ht : t <+: [cr, lf]) :
    parseTCPMail mb mail ((MessageData.text m).body ++ t) =
      .ok ((true, { mail with
        type := some .msg
        data := .text ⟨false, mb.sequenceUDPNumber.toNat, m.displayName, m.messageContent⟩
        addToMailQueue := true }), []) := by
  have hline : (MessageData.text m).body ++ t =
      chars "MSG" ++ space :: (chars "FROM" ++ space :: (m.displayName.val ++ space ::
        (chars "IS" ++ space :: (m.messageContent.val ++ t)))) := by
    simp [MessageData.body, MessageData.words, List.intercalate_cons_cons]
  rw [hline, parseTCPMail, Reader.bind_ok (extract_first (by decide) (by decide) rfl _),
    if_neg (by decide), if_neg (by decide), if_neg (by decide), if_neg (by decide),
    if_neg (by decide), if_pos rfl,
    Reader.bind_ok (extract_next (by decide) (by decide) rfl _),
    Reader.bind_ok (extract_displayName m.displayName rfl _),
    Reader.bind_ok (extract_next (by decide) (by decide) rfl _),
    Reader.bind_ok (readContent_field m.messageContent ht),
    Reader.lift_ok (TextMessage.new_val _ _ _), if_neg (by simp)]
  rfl

/-- The `DisplayName` of an AUTH line is read as the secret, and the `Secret` as the name. -/
theorem parseTCPMail_auth (m : AuthMessage) :
    parseTCPMail mb mail ((MessageData.auth m).body ++ [cr, lf]) =
      (AuthMessage.new mb.sequenceUDPNumber m.username.val m.secret.val m.displayName.val).map
        fun authMsg => ((true, { mail with
          type := some .auth, data := .auth authMsg, addToMailQueue := true }), [cr, lf]) := by
  have hline : (MessageData.auth m).body ++ [cr, lf] =
      chars "AUTH" ++ space :: (m.username.val ++ space :: (chars "AS" ++ space ::
        (m.displayName.val ++ space :: (chars "USING" ++ space ::
          (m.secret.val ++ cr :: [lf]))))) := by
    simp [MessageData.body, MessageData.words, List.intercalate_cons_cons]
  rw [hline, parseTCPMail, Reader.bind_ok (extract_first (by decide) (by decide) rfl _),
    if_neg (by decide), if_neg (by decide), if_neg (by decide), if_pos rfl,
    Reader.bind_ok (extract_next (m.username.ne_nil one_pos) m.username.graphic rfl _),
    Reader.bind_ok (extract_next (by decide) (by decide) rfl _),
    Reader.bind_ok (extract_displayName m.displayName rfl _),
    Reader.bind_ok (extract_next (by decide) (by decide) rfl _),
    Reader.bind_ok (extract_next (m.secret.ne_nil one_pos) m.secret.graphic rfl _)]
  rcases AuthMessage.new mb.sequenceUDPNumber m.username.val m.secret.val m.displayName.val
    with e | authMsg
  · rw [Reader.lift_error rfl]
    rfl
  · rw [Reader.lift_ok rfl, if_neg (by simp)]
    rfl

end Decode

/-- What is behind the zero byte that ends the text does not matter. -/
theorem writeTCPMail_line (mb : MailBox) (t : Bytes) (d : MessageData) :
    writeTCPMail mb (d.body ++ [cr, lf] ++ nul :: t) {} =
      (parseTCPMail mb {}).run' (d.body ++ [cr, lf]) := by
  have hnul : nul ∉ d.body ++ [cr, lf] := by
    rw [List.mem_append, not_or]
    exact ⟨d.notMem_body (by decide), by decide⟩
  rw [writeTCPMail, readString_terminated hnul]
  rfl

/-- A line in a buffer filled up with anything behind a zero byte.  A BYE leaves the data as it was. -/
theorem writeTCPMail_body (mb : MailBox) (t : Bytes) {d : MessageData}
    (hd : d.type ∈ [.join, .msg, .err, .reply, .bye]) :
    ∃ m', writeTCPMail mb (d.body ++ [cr, lf] ++ nul :: t) {} = .ok (true, m') ∧
      m'.type = some d.type ∧ m'.data.strings = d.strings ∧ m'.data.result? = d.result? ∧
      (d.type ≠ .bye → m'.data.type = d.type) := by
  rw [writeTCPMail_line, StateT.run']
  cases d with
  | join m =>
    rw [parseTCPMail_join mb _ m List.prefix_rfl]
    exact ⟨_, rfl, rfl, rfl, rfl, fun _ => rfl⟩
  | text m =>
    rw [parseTCPMail_text mb _ m List.prefix_rfl]
    exact ⟨_, rfl, rfl, rfl, rfl, fun _ => rfl⟩
  | error m =>
    rw [parseTCPMail_error mb _ m List.prefix_rfl]
    exact ⟨_, rfl, rfl, rfl, rfl, fun _ => rfl⟩
  | reply m =>
    rw [parseTCPMail_reply mb _ m List.prefix_rfl]
    exact ⟨_, rfl, rfl, rfl, rfl, fun _ => rfl⟩
  | bye m =>
    rw [parseTCPMail_bye mb _ m List.prefix_rfl]
    exact ⟨_, rfl, rfl, rfl, rfl, fun h => absurd rfl h⟩
  | _ => simp [MessageData.type] at hd

theorem tcpStream_eq {mails : List Mail} (h : ∀ m ∈ mails, m.WellTagged) :
    tcpStream mails = .ok ((mails.map (·.data.body)).flatMap (· ++ [cr, lf])) := by
  have hlines : mails.mapM tcpSerializer.serialize =
      .ok (mails.map (·.data.body ++ [cr, lf])) := by
    induction mails with
    | nil => rfl
    | cons m mails ih =>
      rw [List.mapM_cons, tcpSerializer.serialize_of_wellTagged (h m List.mem_cons_self), line_eq,
        ih fun m' hm' => h m' (List.mem_cons_of_mem _ hm')]
      rfl
  rw [tcpStream, hlines, List.flatMap_map, List.flatMap_def]
  rfl

/-- The stream written for any list of mails is one line for each, with CR and LF at its end and
nowhere else, and each line but an AUTH is decoded to a mail with the same type, strings and
`Result`, and but for a BYE with data of that type. -/
theorem tcp_stream_round_trip (mb : MailBox) (mails : List Mail)
    (h : ∀ m ∈ mails, m.WellTagged)
    (htype : ∀ m ∈ mails, m.data.type ∈ [.auth, .join, .msg, .err, .reply, .bye]) :
    ∃ bodies : List Bytes,
      tcpStream mails = .ok (bodies.flatMap (· ++ [cr, lf])) ∧
      (∀ body ∈ bodies, cr ∉ body ∧ lf ∉ body) ∧
      List.Forall₂ (fun m body =>
        tcpSerializer.serialize m = .ok (body ++ [cr, lf]) ∧
        (m.type ≠ some .auth → ∀ t, ∃ m',
          writeTCPMail mb (body ++ [cr, lf] ++ nul :: t) {} = .ok (true, m') ∧
          m'.type = m.type ∧ m'.data.strings = m.data.strings ∧
          m'.data.result? = m.data.result? ∧
          (m.type ≠ some .bye → m'.data.type = m.data.type))) mails bodies := by
  refine ⟨mails.map (·.data.body), tcpStream_eq h, ?_, ?_⟩
  · intro body hbody
    obtain ⟨m, -, rfl⟩ := List.mem_map.1 hbody
    exact ⟨m.data.notMem_body (by decide), m.data.notMem_body (by decide)⟩
  · rw [List.forall₂_map_right_iff, List.forall₂_same]
    intro m hm
    have hser := tcpSerializer.serialize_of_wellTagged (h m hm)
    rw [line_eq] at hser
    refine ⟨hser, fun hauth t => ?_⟩
    have htag : m.type = some m.data.type := h m hm
    have hd : m.data.type ∈ [.join, .msg, .err, .reply, .bye] := by
      rcases List.mem_cons.1 (htype m hm) with he | hd
      · exact absurd (by rw [htag, he]) hauth
      · exact hd
    obtain ⟨m', hwrite, ht, hstrings, hresult, hdata⟩ := writeTCPMail_body mb t hd
    refine ⟨m', hwrite, ht.trans htag.symm, hstrings, hresult, fun hbye => hdata fun he => ?_⟩
    exact hbye (by rw [htag, he])

theorem tcp_stream_round_trip_spaces :
    let mails : List Mail :=
      [{ type := some .msg
         data := .text ⟨false, 3, ⟨chars "IS", by decide⟩, ⟨chars "  FROM x IS  ", by decide⟩⟩ },
       { type := some .reply, data := .reply ⟨0, true, 1, ⟨chars " ", by decide⟩⟩ }]
    ∃ bodies : List Bytes,
      tcpStream mails = .ok (bodies.flatMap (· ++ [cr, lf])) ∧
      (∀ body ∈ bodies, cr ∉ body ∧ lf ∉ body) ∧
      List.Forall₂ (fun m body =>
        tcpSerializer.serialize m = .ok (body ++ [cr, lf]) ∧
        (m.type ≠ some .auth → ∀ t, ∃ m',
          writeTCPMail { deliveryService := .tcp } (body ++ [cr, lf] ++ nul :: t) {} =
            .ok (true, m') ∧
          m'.type = m.type ∧ m'.data.strings = m.data.strings ∧
          m'.data.result? = m.data.result? ∧
          (m.type ≠ some .bye → m'.data.type = m.data.type))) mails bodies :=
  tcp_stream_round_trip _ _ (by decide) (by decide)

/-! ## AUTH -/

/-- An AUTH comes back with its fields iff its `DisplayName` and its `Secret` are the same string. -/
theorem tcp_auth_round_trip_iff (mb : MailBox) (m : AuthMessage) (queue sigint : Bool) (t : Bytes) :
    (∃ bytes m' a, tcpSerializer.serialize ⟨some .auth, .auth m, queue, sigint⟩ = .ok bytes ∧
        writeTCPMail mb (bytes ++ nul :: t) {} = .ok (true, m') ∧ m'.type = some .auth ∧
        m'.data = .auth a ∧ a.username = m.username ∧ a.displayName = m.displayName ∧
        a.secret = m.secret) ↔
      m.displayName.val = m.secret.val := by
  have hser : tcpSerializer.serialize ⟨some .auth, .auth m, queue, sigint⟩ =
      .ok ((MessageData.auth m).body ++ [cr, lf]) :=
    congrArg Except.ok (line_eq (.auth m))
  have hread : writeTCPMail mb ((MessageData.auth m).body ++ [cr, lf] ++ nul :: t) {} =
      (AuthMessage.new mb.sequenceUDPNumber m.username.val m.secret.val m.displayName.val).map
        fun authMsg => (true, { type := some .auth, data := .auth authMsg }) := by
    rw [writeTCPMail_line, StateT.run', parseTCPMail_auth]
    rcases AuthMessage.new mb.sequenceUDPNumber m.username.val m.secret.val m.displayName.val <;>
      rfl
  constructor
  · rintro ⟨bytes, m', a, hbytes, hm', -, hdata, -, hname, -⟩
    rw [hser] at hbytes
    cases hbytes
    rw [hread] at hm'
    rcases hnew : AuthMessage.new mb.sequenceUDPNumber m.username.val m.secret.val
      m.displayName.val with e | authMsg
    · rw [hnew] at hm'
      cases hm'
    · rw [hnew] at hm'
      cases hm'
      cases hdata
      obtain ⟨-, -, hname', -⟩ := AuthMessage.new_eq_ok hnew
      rw [← hname, hname']
  · intro heq
    have hnew : AuthMessage.new mb.sequenceUDPNumber m.username.val m.secret.val
        m.displayName.val = .ok { m with messageID := mb.sequenceUDPNumber } := by
      rw [← heq, AuthMessage.new]
      simp only [validateUsername_val, validateDisplayName_val]
      rw [heq, validateSecret_val]
      rfl
    rw [hnew] at hread
    exact ⟨_, _, _, hser, hread, rfl, rfl, rfl, rfl, rfl⟩

/-- The AUTH of `/auth ann pw Ann`. -/
theorem tcp_auth_swapped :
    ¬ ∃ bytes m' a, tcpSerializer.serialize
        { type := some .auth
          data := .auth ⟨0, ⟨chars "ann", by decide⟩, ⟨chars "Ann", by decide⟩,
            ⟨chars "pw", by decide⟩⟩ } = .ok bytes ∧
      writeTCPMail { deliveryService := .tcp } (bytes ++ [nul]) {} = .ok (true, m') ∧
      m'.type = some .auth ∧ m'.data = .auth a ∧ a.username = ⟨chars "ann", by decide⟩ ∧
      a.displayName = ⟨chars "Ann", by decide⟩ ∧ a.secret = ⟨chars "pw", by decide⟩ := by
  rintro ⟨bytes, m', a, hbytes, hm', -, hdata, -, hname, -⟩
  cases hbytes
  have hread : writeTCPMail { deliveryService := .tcp }
      (chars "AUTH ann AS Ann USING pw" ++ [cr, lf] ++ [nul]) {} =
      .ok (true, { type := some .auth
                   data := .auth ⟨0, ⟨chars "ann", by decide⟩, ⟨chars "pw", by decide⟩,
                     ⟨chars "Ann", by decide⟩⟩ }) := rfl
  have heq := Except.ok.inj (hread.symm.trans hm')
  cases heq
  cases hdata
  cases hname

end ChatClient

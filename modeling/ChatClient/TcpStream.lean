import ChatClient.Lib.Pieces
import ChatClient.ListenerSpec
import ChatClient.TcpCodec

/-!
# Receiving a TCP stream

`listenSocket` takes what one `recv` returned for one message: it reads the first line of it and drops
the rest, and it has no place for a line that is not complete yet.  The messages of a stream are
received one by one exactly when each `recv` returns one of them (`tcp_stream_received_iff`).
-/

namespace ChatClient

open MailBox Outcome

/-! ## Where the decoder finds its words -/

/-- Behind the white space at its front the text begins like `body`, and it is no shorter. -/
structure Covers (text body : Bytes) : Prop where
  head : (text.dropWhile isSpace).head? = body.head?
  long : body.length ≤ (text.dropWhile isSpace).length

section Words

variable {text w rest : Bytes}

/-- A word behind another one is separated from it. -/
theorem length_of_extract (h : extract text = .ok (w, rest))
    (hs : ∀ c ∈ text.head?, isSpace c = true) (hne : w ≠ []) :
    1 + (w.length + rest.length) ≤ text.length := by
  obtain ⟨hdrop, -⟩ := dropWhile_of_extract h
  rcases text with _ | ⟨c, text⟩
  · obtain ⟨rfl, -⟩ := List.append_eq_nil_iff.1 hdrop.symm
    exact absurd rfl hne
  · rw [List.dropWhile_cons_of_pos (hs c rfl)] at hdrop
    have hlength := (List.dropWhile_suffix (l := text) isSpace).length_le
    rw [hdrop, List.length_append] at hlength
    rw [List.length_cons]
    omega

/-- The only printable white space is the space. -/
theorem IsPrintable.eq_space {c : Byte} (h : IsPrintable c) (hs : isSpace c = true) : c = space := by
  simp only [IsPrintable, UInt8.le_iff_toNat_le, UInt8.reduceToNat] at h
  simp only [isSpace, Bool.or_eq_true, Bool.and_eq_true, beq_iff_eq, decide_eq_true_eq,
    UInt8.le_iff_toNat_le, ← UInt8.toNat_inj, UInt8.reduceToNat] at hs
  rw [← UInt8.toNat_inj]
  change c.toNat = 32
  omega

/-- The content is a part of the line, less one space at the front. -/
theorem readContent_cases {content : Bytes} (h : readContent text = .ok (content, rest)) :
    ∃ line, line <+: text ∧
      content = if line.head? = some space then line.drop 1 else line := by
  have hget : getline text = .ok (Words.untilLetter lf text) := rfl
  rw [readContent, Reader.bind_ok hget] at h
  obtain ⟨hcontent, -⟩ := Prod.mk.inj (Except.ok.inj h)
  have hline : text.takeWhile (· != lf) <+: text := List.takeWhile_prefix _
  refine ⟨_, ?_, hcontent.symm⟩
  split_ifs
  · exact (List.dropLast_prefix _).trans hline
  · exact hline

/-- The content is separated from the word before it too. -/
theorem length_of_readContent {content : Bytes} (h : readContent text = .ok (content, rest))
    (hs : ∀ c ∈ text.head?, isSpace c = true) (f : MessageContent) (hf : f.val = content) :
    1 + content.length ≤ text.length := by
  obtain ⟨line, hline, hcontent⟩ := readContent_cases h
  have hlength := hline.length_le
  rcases line with _ | ⟨c, line⟩
  · rw [← hf] at hcontent
    exact absurd hcontent (f.ne_nil one_pos)
  · have hc : isSpace c = true := by
      obtain ⟨rest', rfl⟩ := hline
      exact hs c rfl
    by_cases hspace : c = space
    · rw [List.head?_cons, hspace, if_pos rfl, List.drop_one, List.tail_cons] at hcontent
      rw [hcontent, Nat.add_comm]
      exact hlength
    · rw [List.head?_cons, if_neg (by simpa using hspace)] at hcontent
      have hp : IsPrintable c := f.printable c (by rw [hf, hcontent]; exact List.mem_cons_self)
      exact absurd (hp.eq_space hc) hspace

/-- The words of an ERR or a MSG behind the first. -/
theorem length_of_message {s₁ s₂ s₃ s₄ s₅ : Bytes} {f : DisplayName} {m : MessageContent}
    (hs₁ : ∀ c ∈ s₁.head?, isSpace c = true) (h₂ : extract s₁ = .ok (chars "FROM", s₂))
    (h₃ : extract s₂ = .ok (f.val, s₃)) (h₄ : extract s₃ = .ok (chars "IS", s₄))
    (h₅ : readContent s₄ = .ok (m.val, s₅)) :
    ([chars "FROM", f.val, chars "IS", m.val].map fun w => w.length + 1).sum ≤ s₁.length := by
  have hl₂ := length_of_extract h₂ hs₁ (by decide)
  have hl₃ := length_of_extract h₃ (dropWhile_of_extract h₂).2 (f.ne_nil one_pos)
  have hl₄ := length_of_extract h₄ (dropWhile_of_extract h₃).2 (by decide)
  have hl₅ := length_of_readContent h₅ (dropWhile_of_extract h₄).2 m rfl
  simp only [List.map_cons, List.map_nil, List.sum_cons, List.sum_nil]
  omega

end Words

/-- A text covers the body of a message if it begins with the first of its words and has room for
the others. -/
theorem covers_body {text s : Bytes} {d : MessageData} {w : Bytes} {ws : List Bytes}
    (hdrop : text.dropWhile isSpace = w ++ s) (hwords : d.words = w :: ws) (hne : w ≠ [])
    (hlen : (ws.map fun w => w.length + 1).sum ≤ s.length) : Covers text d.body := by
  constructor
  · have hbody : ∃ more, d.body = w ++ more := by
      rw [MessageData.body, hwords]
      rcases ws with _ | ⟨v, ws⟩
      · exact ⟨[], by simp⟩
      · exact ⟨_, by rw [List.intercalate_cons_cons, List.append_assoc]⟩
    obtain ⟨more, hmore⟩ := hbody
    obtain ⟨c, w', rfl⟩ := List.exists_cons_of_ne_nil hne
    rw [hdrop, hmore]
    rfl
  · have hbody := d.length_body
    rw [hwords, List.map_cons, List.sum_cons] at hbody
    rw [hdrop, List.length_append]
    omega

/-- The word that a REPLY has for its `Result`. -/
theorem response_word {response : Bytes}
    (h : ¬ response = chars "OK" → response = chars "NOK") :
    response = if (response == chars "OK") = true then chars "OK" else chars "NOK" := by
  by_cases hok : response = chars "OK"
  · rw [hok]
    rfl
  · rw [if_neg (by simpa using hok)]
    exact h hok

/-- The decoder makes a message of a text only if it finds all its words there; it marks no mail as
one that is not for the queue. -/
theorem parseTCPMail_covers {mb : MailBox} {text rest : Bytes} {written : Bool} {mail : Mail}
    (h : parseTCPMail mb {} text = .ok ((written, mail), rest)) :
    mail.addToMailQueue = true ∧
      (mail.type = some .bye → Covers text (chars "BYE")) ∧
      (mail.type ∈ [some .err, some .reply, some .join, some .msg] →
        Covers text mail.data.body) := by
  rw [parseTCPMail, stateBind_eq_ok] at h
  obtain ⟨msgType, s₁, h₁, h⟩ := h
  obtain ⟨hdrop, hs₁⟩ := dropWhile_of_extract h₁
  split_ifs at h with hbye herr hreply hauth hjoin hmsg <;>
    simp only [stateBind_eq_ok, lift_eq_ok] at h
  · cases h
    subst hbye
    have hcovers := covers_body (d := .bye ⟨0⟩) hdrop rfl (by decide) (Nat.zero_le _)
    exact ⟨rfl, fun _ => hcovers, by simp⟩
  · subst herr
    obtain ⟨from_, s₂, h₂, dN, s₃, h₃, is, s₄, h₄, mC, s₅, h₅, errMsg, _, ⟨hnew, -⟩, h⟩ := h
    obtain ⟨-, rfl, rfl⟩ := ErrorMessage.new_eq_ok hnew
    split_ifs at h with hbad
    · cases h
      exact ⟨rfl, by simp, by simp⟩
    · cases h
      simp only [not_or, not_not] at hbad
      obtain ⟨rfl, rfl, -⟩ := hbad
      have hlen := length_of_message hs₁ h₂ h₃ h₄ h₅
      exact ⟨rfl, by simp, fun _ => covers_body hdrop rfl (by decide) hlen⟩
  · subst hreply
    obtain ⟨response, s₂, h₂, is, s₃, h₃, mC, s₄, h₄, replyMsg, _, ⟨hnew, -⟩, h⟩ := h
    obtain ⟨-, hresult, -, rfl⟩ := ReplyMessage.new_eq_ok hnew
    split_ifs at h with hbad
    · cases h
      exact ⟨rfl, by simp, by simp⟩
    · cases h
      simp only [not_or, not_and, not_not] at hbad
      obtain ⟨hresponse, rfl⟩ := hbad
      have hword := response_word hresponse
      rw [← hresult] at hword
      have hne : response ≠ [] := by
        rw [hword]
        split_ifs <;> decide
      have hl₂ := length_of_extract h₂ hs₁ hne
      have hl₃ := length_of_extract h₃ (dropWhile_of_extract h₂).2 (by decide)
      have hl₄ := length_of_readContent h₄ (dropWhile_of_extract h₃).2 replyMsg.messageContent rfl
      refine ⟨rfl, by simp, fun _ => covers_body hdrop rfl (by decide) ?_⟩
      rw [← hword]
      simp only [List.map_cons, List.map_nil, List.sum_cons, List.sum_nil]
      omega
  · obtain ⟨_, _, -, _, _, -, _, _, -, _, _, -, _, _, -, msg, _, -, h⟩ := h
    split_ifs at h <;> cases h <;> exact ⟨rfl, by simp, by simp⟩
  · subst hjoin
    obtain ⟨channelID, s₂, h₂, as, s₃, h₃, dN, s₄, h₄, joinMsg, _, ⟨hnew, -⟩, h⟩ := h
    obtain ⟨-, rfl, rfl⟩ := JoinMessage.new_eq_ok hnew
    split_ifs at h with hbad
    · cases h
      exact ⟨rfl, by simp, by simp⟩
    · cases h
      obtain rfl := not_not.1 hbad
      have hl₂ := length_of_extract h₂ hs₁ (joinMsg.channelID.ne_nil one_pos)
      have hl₃ := length_of_extract h₃ (dropWhile_of_extract h₂).2 (by decide)
      have hl₄ := length_of_extract h₄ (dropWhile_of_extract h₃).2
        (joinMsg.displayName.ne_nil one_pos)
      refine ⟨rfl, by simp, fun _ => covers_body hdrop rfl (by decide) ?_⟩
      simp only [List.map_cons, List.map_nil, List.sum_cons, List.sum_nil]
      omega
  · subst hmsg
    obtain ⟨from_, s₂, h₂, dN, s₃, h₃, is, s₄, h₄, mC, s₅, h₅, srvMsg, _, ⟨hnew, -⟩, h⟩ := h
    obtain ⟨-, -, rfl, rfl⟩ := TextMessage.new_eq_ok hnew
    split_ifs at h with hbad
    · cases h
      exact ⟨rfl, by simp, by simp⟩
    · cases h
      simp only [not_or, not_not] at hbad
      obtain ⟨rfl, rfl⟩ := hbad
      have hlen := length_of_message hs₁ h₂ h₃ h₄ h₅
      exact ⟨rfl, by simp, fun _ => covers_body hdrop rfl (by decide) hlen⟩
  · cases h
    exact ⟨rfl, by simp, by simp⟩

/-! ## The lines of a server -/

/-- What a server sends. -/
structure ServerMessage where
  data : MessageData
  valid : data.type ∈ [.join, .msg, .err, .reply, .bye]

namespace ServerMessage

def body (m : ServerMessage) : Bytes := m.data.body

/-- What a server writes to the stream. -/
def line (m : ServerMessage) : Bytes := m.body ++ [cr, lf]

/-- The text is decoded to the same mail as the line of the message. -/
def ReadFrom (mb : MailBox) (m : ServerMessage) (text : Bytes) : Prop :=
  ∃ written mail, (parseTCPMail mb {}).run' text = .ok (written, mail) ∧
    (parseTCPMail mb {}).run' m.line = .ok (true, mail)

variable {mb : MailBox}

/-- A line is decoded whether its CR LF has arrived or not. -/
theorem exists_mail (mb : MailBox) (m : ServerMessage) :
    ∃ mail, (∀ t, t <+: [cr, lf] → (parseTCPMail mb {}).run' (m.body ++ t) = .ok (true, mail)) ∧
      mail.type = some m.data.type ∧ (mail.type ≠ some .bye → mail.data.body = m.body) := by
  obtain ⟨d, hd⟩ := m
  cases d with
  | join m =>
    exact ⟨_, fun t ht => run'_eq_ok.2 ⟨_, parseTCPMail_join mb {} m ht⟩, rfl, fun _ => rfl⟩
  | text m =>
    exact ⟨_, fun t ht => run'_eq_ok.2 ⟨_, parseTCPMail_text mb {} m ht⟩, rfl, fun _ => rfl⟩
  | error m =>
    exact ⟨_, fun t ht => run'_eq_ok.2 ⟨_, parseTCPMail_error mb {} m ht⟩, rfl, fun _ => rfl⟩
  | reply m =>
    exact ⟨_, fun t ht => run'_eq_ok.2 ⟨_, parseTCPMail_reply mb {} m ht⟩, rfl, fun _ => rfl⟩
  | bye m =>
    exact ⟨_, fun t ht => run'_eq_ok.2 ⟨_, parseTCPMail_bye mb {} m ht⟩, rfl,
      fun h => absurd rfl h⟩
  | _ => simp [MessageData.type] at hd

/-- White space in front of a text does not matter. -/
theorem parseTCPMail_skip {left : Bytes} (hleft : ∀ c ∈ left, isSpace c = true) (text : Bytes) :
    parseTCPMail mb {} (left ++ text) = parseTCPMail mb {} text := by
  have hextract : extract (left ++ text) = extract text := by
    induction left with
    | nil => rfl
    | cons c left ih =>
      rw [List.cons_append, extract_cons_space (hleft c List.mem_cons_self)]
      exact ih fun c hc => hleft c (List.mem_cons_of_mem _ hc)
  unfold parseTCPMail
  simp only [bind, StateT.bind, hextract]

theorem readFrom_whole (m : ServerMessage) {left taken : Bytes} (hleft : left <:+ [cr, lf])
    (htaken : taken <+: [cr, lf]) : m.ReadFrom mb (left ++ m.body ++ taken) := by
  obtain ⟨mail, hread, -⟩ := m.exists_mail mb
  refine ⟨true, mail, ?_, hread _ List.prefix_rfl⟩
  rw [List.append_assoc, StateT.run',
    parseTCPMail_skip fun c hc => isSpace_crlf c (hleft.subset hc)]
  exact hread taken htaken

theorem ReadFrom.covers {m : ServerMessage} {text : Bytes} (h : m.ReadFrom mb text) :
    Covers text m.body := by
  obtain ⟨written, mail, htext, hline⟩ := h
  obtain ⟨mail', hread, htype, hbody⟩ := m.exists_mail mb
  have heq : mail' = mail := by
    have h := (hread _ List.prefix_rfl).symm.trans hline
    cases h
    rfl
  subst heq
  obtain ⟨rest, htext⟩ := run'_eq_ok.1 htext
  obtain ⟨-, hbye, hother⟩ := parseTCPMail_covers htext
  by_cases ht : mail'.type = some .bye
  · have hdata : m.body = chars "BYE" := by
      obtain ⟨d, hd⟩ := m
      rw [htype] at ht
      cases d with
      | bye m => rfl
      | _ => cases ht
    rw [hdata]
    exact hbye ht
  · rw [← hbody ht]
    apply hother
    have hvalid := m.valid
    rw [htype] at ht ⊢
    revert ht hvalid
    cases m.data.type <;> decide

/-- The second and the third letter of a line are not its first one. -/
theorem letters (m : ServerMessage) : ∃ a b c more, m.body = a :: b :: c :: more ∧
    (isSpace b = false ∧ b ≠ a) ∧ (isSpace c = false ∧ c ≠ a) := by
  obtain ⟨d, hd⟩ := m
  cases d with
  | join => exact ⟨74, 79, 73, _, rfl, by decide, by decide⟩
  | text => exact ⟨77, 83, 71, _, rfl, by decide, by decide⟩
  | error => exact ⟨69, 82, 82, _, rfl, by decide, by decide⟩
  | reply => exact ⟨82, 69, 80, _, rfl, by decide, by decide⟩
  | bye => exact ⟨66, 89, 69, _, rfl, by decide, by decide⟩
  | _ => simp [MessageData.type] at hd

/-- `listenSocket` reads a stream like this. -/
theorem lineReader (mb : MailBox) :
    Pieces.LineReader [cr, lf] body isSpace (ReadFrom mb) where
  sep_blank := isSpace_crlf
  body_ne_nil m := by
    obtain ⟨a, b, c, more, hbody, -⟩ := m.letters
    rw [hbody]
    exact List.cons_ne_nil _ _
  letters m k hpos hle := by
    obtain ⟨a, b, c, more, hbody, ⟨hb, hba⟩, ⟨hc, hca⟩⟩ := m.letters
    rw [hbody]
    obtain rfl | rfl : k = 1 ∨ k = 2 := by
      rw [List.length_cons, List.length_singleton] at hle
      omega
    · exact ⟨b, rfl, hb, fun h => hba (Option.some.inj h).symm⟩
    · exact ⟨c, rfl, hc, fun h => hca (Option.some.inj h).symm⟩
  head h := h.covers.head
  long h := h.covers.long
  whole m _ _ hleft htaken := m.readFrom_whole hleft htaken

end ServerMessage

/-! ## Successive calls of `listenSocket` -/

/-- `listenSocket`, for what `recv` returns one time after another. -/
def listenSocketAll (connection : NetworkConnection) (l : Listener) (mailbox : MailBox) :
    List Bytes → Except Error (Listener × MailBox)
  | [] => .ok (l, mailbox)
  | data :: rest => do
    let res ← listenSocket connection l mailbox (some data)
    listenSocketAll connection res.listener res.mailbox rest

section Receive

variable {connection : NetworkConnection} {l : Listener} {mb : MailBox}

/-- A full buffer has no zero byte at its end. -/
theorem writeTCPMail_received {data : Bytes} (hnul : nul ∉ data) :
    writeTCPMail mb (stored data) {} =
      if data.length < 1024 then (parseTCPMail mb {}).run' data else .error .outOfBounds := by
  unfold writeTCPMail stored
  split_ifs with h
  · obtain ⟨n, hn⟩ : ∃ n, bufferSize - data.length = n + 1 :=
      Nat.exists_eq_succ_of_ne_zero (Nat.sub_ne_zero_of_lt h)
    rw [hn, List.replicate_succ, readString_terminated hnul]
    rfl
  · have hfull : bufferSize - data.length = 0 := Nat.sub_eq_zero_of_le (Nat.not_lt.1 h)
    rw [hfull, List.replicate_zero, List.append_nil, readString_unterminated hnul]
    rfl

/-- In TCP mode whatever was decoded is added. -/
theorem listenSocket_tcp (hc : connection.type = .tcp) (hl : l.protocolType = .tcp)
    (hs : mb.deliveryService = .tcp) {data : Bytes} (hlen : data.length ≤ 1024) (hnul : nul ∉ data)
    {res : SocketResult} :
    listenSocket connection l mb (some data) = .ok res ↔
      data.length < 1024 ∧ ∃ written mail, (parseTCPMail mb {}).run' data = .ok (written, mail) ∧
        res = ⟨if written then l else { l with keepRunning := false }, mb.addMail mail, mail, []⟩ := by
  have hreceive : connection.receiveData (some data) = .ok (stored data) := by
    rw [NetworkConnection.receiveData, hc]
    exact tcpReceiveData_stored hlen
  have hwrite : mb.writeMailBuffer (stored data) {} =
      if data.length < 1024 then (parseTCPMail mb {}).run' data else .error .outOfBounds := by
    rw [writeMailBuffer, hs]
    exact writeTCPMail_received hnul
  constructor
  · intro h
    obtain ⟨_, hbuffer, hrest⟩ := bind_eq_ok.1 h
    cases hreceive.symm.trans hbuffer
    obtain ⟨⟨written, mail⟩, hread, -⟩ := bind_eq_ok.1 hrest
    have hres := listenSocket_of_writeMail hl hreceive hread
    rw [hwrite] at hread
    split_ifs at hread with hlt
    exact ⟨hlt, written, mail, hread, Except.ok.inj (h.symm.trans hres)⟩
  · rintro ⟨hlt, written, mail, hread, rfl⟩
    apply listenSocket_of_writeMail hl hreceive
    rw [hwrite, if_pos hlt, hread]

theorem parseTCPMail_addMail (mb : MailBox) (mail : Mail) :
    parseTCPMail (mb.addMail mail) = parseTCPMail mb := by
  have hsequence : (mb.addMail mail).sequenceUDPNumber = mb.sequenceUDPNumber :=
    (mb.receives_addMail mail).sequence
  unfold parseTCPMail
  rw [hsequence]

/-- What `recv` returned was decoded to the mail. -/
def Decodes (mb : MailBox) (data : Bytes) (mail : Mail) : Prop :=
  data.length < 1024 ∧ ∃ written, (parseTCPMail mb {}).run' data = .ok (written, mail)

theorem addMail_of_decodes {data : Bytes} {mail : Mail} (h : Decodes mb data mail) :
    mb.addMail mail = { mb with incomingMails := mb.incomingMails ++ [mail] } := by
  obtain ⟨-, written, h⟩ := h
  obtain ⟨rest, h⟩ := run'_eq_ok.1 h
  rw [addMail, if_neg (by rw [(parseTCPMail_covers h).1]; decide)]

theorem decodes_addMail (mail' : Mail) {data : Bytes} {mail : Mail} :
    Decodes (mb.addMail mail') data mail ↔ Decodes mb data mail := by
  rw [Decodes, parseTCPMail_addMail, Decodes]

/-- Successive calls add one mail each, as long as they return. -/
theorem listenSocketAll_ok (hc : connection.type = .tcp) (hl : l.protocolType = .tcp)
    (hs : mb.deliveryService = .tcp) {received : List Bytes}
    (hr : ∀ data ∈ received, data.length ≤ 1024 ∧ nul ∉ data) {l' : Listener} {mb' : MailBox}
    (h : listenSocketAll connection l mb received = .ok (l', mb')) :
    ∃ mails, mb'.incomingMails = mb.incomingMails ++ mails ∧
      List.Forall₂ (Decodes mb) received mails := by
  induction received generalizing l mb with
  | nil =>
    cases h
    exact ⟨[], (List.append_nil _).symm, .nil⟩
  | cons data received ih =>
    obtain ⟨hlen, hnul⟩ := hr data List.mem_cons_self
    obtain ⟨res, hres, h⟩ := bind_eq_ok.1 h
    obtain ⟨hlt, written, mail, hread, rfl⟩ := (listenSocket_tcp hc hl hs hlen hnul).1 hres
    have hdec : Decodes mb data mail := ⟨hlt, written, hread⟩
    have hl₁ : (if written then l else { l with keepRunning := false }).protocolType = .tcp := by
      split_ifs <;> exact hl
    have hs₁ : (mb.addMail mail).deliveryService = .tcp := by
      rw [(mb.receives_addMail mail).service, hs]
    obtain ⟨mails, hin, hall⟩ := ih hl₁ hs₁ (fun d hd => hr d (List.mem_cons_of_mem _ hd)) h
    refine ⟨mail :: mails, ?_, .cons hdec (hall.imp fun _ _ => (decodes_addMail mail).1)⟩
    rw [hin, addMail_of_decodes hdec, List.append_assoc, List.singleton_append]

theorem listenSocketAll_of_decodes (hc : connection.type = .tcp) (hl : l.protocolType = .tcp)
    (hs : mb.deliveryService = .tcp) {received : List Bytes}
    (hr : ∀ data ∈ received, data.length ≤ 1024 ∧ nul ∉ data) {mails : List Mail}
    (h : List.Forall₂ (Decodes mb) received mails) :
    ∃ l' mb', listenSocketAll connection l mb received = .ok (l', mb') ∧
      mb'.incomingMails = mb.incomingMails ++ mails := by
  induction received generalizing l mb mails with
  | nil =>
    cases h
    exact ⟨l, mb, rfl, (List.append_nil _).symm⟩
  | cons data received ih =>
    obtain ⟨hlen, hnul⟩ := hr data List.mem_cons_self
    cases h with
    | @cons _ mail _ mails hdec hall =>
      obtain ⟨hlt, written, hread⟩ := hdec
      have hres := (listenSocket_tcp hc hl hs hlen hnul).2 ⟨hlt, written, mail, hread, rfl⟩
      have hl₁ : (if written then l else { l with keepRunning := false }).protocolType = .tcp := by
        split_ifs <;> exact hl
      have hs₁ : (mb.addMail mail).deliveryService = .tcp := by
        rw [(mb.receives_addMail mail).service, hs]
      obtain ⟨l', mb', hok, hin⟩ := ih hl₁ hs₁ (fun d hd => hr d (List.mem_cons_of_mem _ hd))
        (hall.imp fun _ _ => (decodes_addMail mail).2)
      refine ⟨l', mb', bind_eq_ok.2 ⟨_, hres, hok⟩, ?_⟩
      rw [hin, addMail_of_decodes ⟨hlt, written, hread⟩, List.append_assoc, List.singleton_append]

/-- The mails that the lines and the mails that the pieces are decoded to are the same iff each piece
is read as its line. -/
theorem forall₂_readFrom {messages : List ServerMessage} {received : List Bytes} :
    (∃ mails, List.Forall₂ (Decodes mb) received mails ∧
      List.Forall₂ (fun m mail => writeTCPMail mb (m.line ++ [nul]) {} = .ok (true, mail))
        messages mails) ↔
      (∀ data ∈ received, data.length < 1024) ∧
        List.Forall₂ (ServerMessage.ReadFrom mb) messages received := by
  have hline : ∀ m : ServerMessage, writeTCPMail mb (m.line ++ [nul]) {} =
      (parseTCPMail mb {}).run' m.line := fun m => writeTCPMail_line mb [] m.data
  constructor
  · rintro ⟨mails, hall, hlines⟩
    induction hall generalizing messages with
    | nil =>
      cases hlines
      exact ⟨by simp, .nil⟩
    | @cons data mail received mails hdec hall ih =>
      cases hlines with
      | @cons m _ messages _ hm hlines =>
        obtain ⟨hlt, written, hread⟩ := hdec
        obtain ⟨hshort, hreads⟩ := ih hlines
        exact ⟨List.forall_mem_cons.2 ⟨hlt, hshort⟩,
          .cons ⟨written, mail, hread, (hline m).symm.trans hm⟩ hreads⟩
  · rintro ⟨hshort, hreads⟩
    induction hreads with
    | nil => exact ⟨[], .nil, .nil⟩
    | @cons m data messages received hm hreads ih =>
      obtain ⟨hlt, hshort⟩ := List.forall_mem_cons.1 hshort
      obtain ⟨written, mail, hread, hm⟩ := hm
      obtain ⟨mails, hall, hlines⟩ := ih hshort
      exact ⟨mail :: mails, .cons ⟨hlt, written, hread⟩ hall, .cons ((hline m).trans hm) hlines⟩

/-- For every list of messages and every way of cutting their lines into what successive `recv`
return: the mails that `listenSocket` adds to `incomingMails` are those the lines are decoded to, one
by one, iff each `recv` returns less than the buffer holds, with one body in it, whole, and besides that
nothing but what was left of the CR LF before it and some of the CR LF behind it. -/
theorem tcp_stream_received_iff (hc : connection.type = .tcp) (hl : l.protocolType = .tcp)
    (hs : mb.deliveryService = .tcp) {messages : List ServerMessage} {received : List Bytes}
    (hr : ∀ data ∈ received, data ≠ [] ∧ data.length ≤ 1024)
    (hcut : received.flatten = messages.flatMap ServerMessage.line) :
    (∃ l' mb' mails, listenSocketAll connection l mb received = .ok (l', mb') ∧
      mb'.incomingMails = mb.incomingMails ++ mails ∧
      List.Forall₂ (fun m mail => writeTCPMail mb (m.line ++ [nul]) {} = .ok (true, mail))
        messages mails) ↔
      (∀ data ∈ received, data.length < 1024) ∧
        Pieces.OneEach [cr, lf] ServerMessage.body [] messages received := by
  rw [← (ServerMessage.lineReader mb).forall₂_reads_iff hcut, ← forall₂_readFrom]
  have hprintable : ∀ data ∈ received, data.length ≤ 1024 ∧ nul ∉ data := by
    refine fun data hd => ⟨(hr data hd).2, fun hnul => ?_⟩
    have hstream : nul ∈ received.flatten := List.mem_flatten.2 ⟨data, hd, hnul⟩
    rw [hcut] at hstream
    obtain ⟨m, -, hm⟩ := List.mem_flatMap.1 hstream
    rcases List.mem_append.1 hm with hm | hm
    · exact m.data.notMem_body (by decide) hm
    · revert hm
      decide
  constructor
  · rintro ⟨l', mb', mails, hok, hin, hlines⟩
    obtain ⟨mails', hin', hall⟩ := listenSocketAll_ok hc hl hs hprintable hok
    rw [hin', List.append_cancel_left_eq] at hin
    exact ⟨mails, hin ▸ hall, hlines⟩
  · rintro ⟨mails, hall, hlines⟩
    obtain ⟨l', mb', hok, hin⟩ := listenSocketAll_of_decodes hc hl hs hprintable hall
    exact ⟨l', mb', mails, hok, hin, hlines⟩

end Receive

/-- A MSG of the server. -/
def serverText (content : MessageContent) : ServerMessage :=
  ⟨.text ⟨false, 0, ⟨chars "server", by decide⟩, content⟩, List.mem_cons_of_mem _ List.mem_cons_self⟩

/-- The CR LF of the first line comes with the second. -/
theorem tcp_stream_received_iff_late :
    let messages := [serverText ⟨chars "a", by decide⟩, serverText ⟨chars "b", by decide⟩]
    let received := [chars "MSG FROM server IS a", chars "\r\nMSG FROM server IS b\r\n"]
    (∃ l' mb' mails, listenSocketAll { type := .tcp } { protocolType := .tcp }
        { deliveryService := .tcp } received = .ok (l', mb') ∧
      mb'.incomingMails = [] ++ mails ∧
      List.Forall₂ (fun m mail => writeTCPMail { deliveryService := .tcp }
        (ServerMessage.line m ++ [nul]) {} = .ok (true, mail)) messages mails) ↔
      (∀ data ∈ received, data.length < 1024) ∧
        Pieces.OneEach [cr, lf] ServerMessage.body [] messages received :=
  tcp_stream_received_iff rfl rfl rfl (by decide) (by decide)

/-- Two lines in one `recv`: the second is dropped. -/
theorem tcp_stream_merged :
    let messages := [serverText ⟨chars "a", by decide⟩, serverText ⟨chars "b", by decide⟩]
    let received := [chars "MSG FROM server IS a\r\nMSG FROM server IS b\r\n"]
    (∀ data ∈ received, data ≠ [] ∧ data.length ≤ 1024) ∧
    received.flatten = messages.flatMap ServerMessage.line ∧
    ¬ ∃ l' mb' mails, listenSocketAll { type := .tcp } { protocolType := .tcp }
        { deliveryService := .tcp } received = .ok (l', mb') ∧
      mb'.incomingMails = [] ++ mails ∧
      List.Forall₂ (fun m mail => writeTCPMail { deliveryService := .tcp }
        (ServerMessage.line m ++ [nul]) {} = .ok (true, mail)) messages mails := by
  refine ⟨by decide, by decide, ?_⟩
  rintro ⟨l', mb', mails, hok, hin, hlines⟩
  cases hok
  have htwo : mails.length = 2 := hlines.length_eq.symm
  have hone : 1 = ([] ++ mails).length := congrArg List.length hin
  rw [List.nil_append, htwo] at hone
  cases hone

end ChatClient

import ChatClient.Lib.SelfDelimiting
import ChatClient.MailBox
import ChatClient.MailSerializer

/-!
# The UDP codec

What `writeUDPMail` makes of a datagram written by `MailSerializer`.

* `writeUDPMail_serializeAs`: every message but a REPLY comes back with its strings, and with its id
  as `readUInt16` puts it together (`receivedID`).
* `writeUDPMail_reply`: a REPLY does not; the `Result` takes two bytes on the wire and one in the
  decoder, so every later field is read one byte early.
* `visit_udp`: every message is a list of 16-bit numbers followed by a list of terminated strings,
  from which the format is seen to be unambiguous.
-/

namespace ChatClient

open MailBox

/-- The serializer `UdpProtocol::sendData` uses. -/
abbrev udpSerializer : MailSerializer := ⟨true⟩

/-- What `readUInt16` makes of an id written by `serialize(uint16_t)`. -/
def receivedID (id : UInt16) : UInt16 := CInt.joinBytes (CInt.hiByte id) (CInt.loByte id)

theorem receivedID_eq_iff (id : UInt16) :
    receivedID id = id ↔ id.toNat % 256 < 0x80 ∨ id.toNat / 256 = 0xFF :=
  CInt.joinBytes_htons_iff id

namespace MessageData

/-- The data as they come back from the wire, REPLY apart. -/
def received : MessageData → MessageData
  | confirm m => confirm ⟨(receivedID (UInt16.ofInt m.refMessageID)).toNat⟩
  | auth m => auth { m with messageID := receivedID m.messageID }
  | join m => join { m with messageID := (receivedID (UInt16.ofInt m.messageID)).toNat }
  | error m => error { m with messageID := (receivedID (UInt16.ofInt m.messageID)).toNat }
  | bye m => bye ⟨(receivedID (UInt16.ofInt m.messageID)).toNat⟩
  | text m => text { m with
      messageID := (receivedID (UInt16.ofInt m.messageID)).toNat, toSend := false }
  | reply m => reply m
  | unknown m => unknown ⟨(receivedID (UInt16.ofInt m.messageID)).toNat⟩

@[simp] theorem received_type (d : MessageData) : d.received.type = d.type := by
  cases d <;> rfl

@[simp] theorem received_strings (d : MessageData) : d.received.strings = d.strings := by
  cases d <;> rfl

end MessageData

/-! ## The layout of a datagram -/

@[simp] theorem udp_serializeUInt16 (value : UInt16) :
    udpSerializer.serializeUInt16 value = CInt.htons value := rfl

@[simp] theorem udp_serializeString (str : Bytes) :
    udpSerializer.serializeString str = str ++ [nul] := rfl

@[simp] theorem udp_keyword (str : String) : udpSerializer.keyword str = [] := rfl

section Layout

variable (t : Bytes)

theorem datagram_auth (m : AuthMessage) :
    udpSerializer.serializeAs .auth (.auth m) ++ t =
      MessageType.auth.code :: (CInt.htons m.messageID ++ (m.username.val ++ nul ::
        (m.displayName.val ++ nul :: (m.secret.val ++ nul :: t)))) := by
  simp [MailSerializer.serializeAs_udp, MailSerializer.visit, MailSerializer.visitAuth]

theorem datagram_join (m : JoinMessage) :
    udpSerializer.serializeAs .join (.join m) ++ t =
      MessageType.join.code :: (CInt.htons (UInt16.ofInt m.messageID) ++ (m.channelID.val ++ nul ::
        (m.displayName.val ++ nul :: t))) := by
  simp [MailSerializer.serializeAs_udp, MailSerializer.visit, MailSerializer.visitJoin]

theorem datagram_error (m : ErrorMessage) :
    udpSerializer.serializeAs .err (.error m) ++ t =
      MessageType.err.code :: (CInt.htons (UInt16.ofInt m.messageID) ++ (m.displayName.val ++ nul ::
        (m.messageContent.val ++ nul :: t))) := by
  simp [MailSerializer.serializeAs_udp, MailSerializer.visit, MailSerializer.visitError]

theorem datagram_text (m : TextMessage) :
    udpSerializer.serializeAs .msg (.text m) ++ t =
      MessageType.msg.code :: (CInt.htons (UInt16.ofInt m.messageID) ++ (m.displayName.val ++ nul ::
        (m.messageContent.val ++ nul :: t))) := by
  simp [MailSerializer.serializeAs_udp, MailSerializer.visit, MailSerializer.visitText]

/-- The `Result` is written as two bytes. -/
theorem datagram_reply (m : ReplyMessage) :
    udpSerializer.serializeAs .reply (.reply m) ++ t =
      MessageType.reply.code :: (CInt.htons (UInt16.ofInt m.messageID) ++
        (CInt.htons m.result.toUInt16 ++ (CInt.htons (UInt16.ofInt m.refMessageID) ++
          (m.messageContent.val ++ nul :: t)))) := by
  simp [MailSerializer.serializeAs_udp, MailSerializer.visit, MailSerializer.visitReply]

end Layout

/-! ## Decoding what was encoded -/

section Decode

variable (mb : MailBox) (mail : Mail) (t : Bytes)

theorem writeUDPMail_auth (m : AuthMessage) :
    writeUDPMail mb mail (udpSerializer.serializeAs .auth (.auth m) ++ t) =
      .ok ((true, { mail with
        type := some .auth, data := (MessageData.auth m).received, addToMailQueue := true }), t) := by
  rw [datagram_auth, writeUDPMail, Reader.bind_ok (readChar_cons _ _)]
  simp only [MessageType.ofCode_code]
  rw [Reader.bind_ok (readUInt16_htons _ _), Reader.bind_ok (readString_field m.username rfl _),
    Reader.bind_ok (readString_field m.displayName rfl _),
    Reader.bind_ok (readString_field m.secret rfl _), Reader.lift_ok (AuthMessage.new_val _ _ _ _)]
  rfl

theorem writeUDPMail_join (m : JoinMessage) :
    writeUDPMail mb mail (udpSerializer.serializeAs .join (.join m) ++ t) =
      .ok ((true, { mail with
        type := some .join, data := (MessageData.join m).received, addToMailQueue := true }), t) := by
  rw [datagram_join, writeUDPMail, Reader.bind_ok (readChar_cons _ _)]
  simp only [MessageType.ofCode_code]
  rw [Reader.bind_ok (readUInt16_htons _ _), Reader.bind_ok (readString_field m.channelID rfl _),
    Reader.bind_ok (readString_field m.displayName rfl _),
    Reader.lift_ok (JoinMessage.new_val _ _ _)]
  rfl

theorem writeUDPMail_error (m : ErrorMessage) :
    writeUDPMail mb mail (udpSerializer.serializeAs .err (.error m) ++ t) =
      .ok ((true, { mail with
        type := some .err, data := (MessageData.error m).received, addToMailQueue := true }), t) := by
  rw [datagram_error, writeUDPMail, Reader.bind_ok (readChar_cons _ _)]
  simp only [MessageType.ofCode_code]
  rw [Reader.bind_ok (readUInt16_htons _ _), Reader.bind_ok (readString_field m.displayName rfl _),
    Reader.bind_ok (readString_field m.messageContent rfl _),
    Reader.lift_ok (ErrorMessage.new_val _ _ _)]
  rfl

theorem writeUDPMail_text (m : TextMessage) :
    writeUDPMail mb mail (udpSerializer.serializeAs .msg (.text m) ++ t) =
      .ok ((true, { mail with
        type := some .msg, data := (MessageData.text m).received, addToMailQueue := true }), t) := by
  rw [datagram_text, writeUDPMail, Reader.bind_ok (readChar_cons _ _)]
  simp only [MessageType.ofCode_code]
  rw [Reader.bind_ok (readUInt16_htons _ _), Reader.bind_ok (readString_field m.displayName rfl _),
    Reader.bind_ok (readString_field m.messageContent rfl _),
    Reader.lift_ok (TextMessage.new_val _ _ _)]
  rfl

/-- Every message but a REPLY is decoded to its data as received. -/
theorem writeUDPMail_serializeAs (d : MessageData) (hd : d.type ≠ .reply) :
    ∃ queue, writeUDPMail mb mail (udpSerializer.serializeAs d.type d ++ t) =
      .ok ((true, { mail with
        type := some d.type, data := d.received, addToMailQueue := queue }), t) := by
  cases d with
  | confirm m => exact ⟨false, rfl⟩
  | auth m => exact ⟨true, writeUDPMail_auth mb mail t m⟩
  | join m => exact ⟨true, writeUDPMail_join mb mail t m⟩
  | error m => exact ⟨true, writeUDPMail_error mb mail t m⟩
  | bye m => exact ⟨!(mb.deliveryService == .tcp), rfl⟩
  | text m => exact ⟨true, writeUDPMail_text mb mail t m⟩
  | reply m => exact absurd rfl hd
  | unknown m => exact ⟨true, rfl⟩

/-- The id of the received data is the received id. -/
theorem received_id {m m' : Mail} {n : UInt16} (hn : m.getMessageID = n.toNat)
    (hd : m.data.type ≠ .reply) (hm' : m'.data = m.data.received) :
    m'.getMessageID = (receivedID n).toNat := by
  unfold Mail.getMessageID at hn ⊢
  rw [hm']
  rcases hm : m.data with c | a | j | e | b | x | r | u <;>
    simp only [hm, MessageData.received] at hn ⊢
  case auth =>
    have : a.messageID = n := by
      apply UInt16.toNat_inj.1
      exact_mod_cast hn
    rw [this]
  case reply => exact absurd (by rw [hm]; rfl) hd
  all_goals rw [hn, CInt.ofInt_toNat]

/-- A mail with matching type tag, REPLY apart, is decoded to a mail with the same type and the same
strings, and the decoder stops right behind it; the id comes back iff its low byte is below 0x80 or
its high byte is 0xFF. -/
theorem udp_round_trip (m : Mail) (hm : m.WellTagged) (hr : m.type ≠ some .reply) (n : UInt16)
    (hn : m.getMessageID = n.toNat) :
    ∃ bytes m', udpSerializer.serialize m = .ok bytes ∧
      writeUDPMail mb mail (bytes ++ t) = .ok ((true, m'), t) ∧
      m'.type = m.type ∧ m'.data.type = m.data.type ∧ m'.data.strings = m.data.strings ∧
      (m'.getMessageID = n.toNat ↔ n.toNat % 256 < 0x80 ∨ n.toNat / 256 = 0xFF) := by
  have hd : m.data.type ≠ .reply := fun h => hr (by rw [hm, h])
  obtain ⟨queue, hdec⟩ := writeUDPMail_serializeAs mb mail t m.data hd
  refine ⟨_, _, udpSerializer.serialize_of_wellTagged hm, hdec, hm.symm,
    MessageData.received_type _, MessageData.received_strings _, ?_⟩
  rw [received_id hn hd rfl, ← receivedID_eq_iff n, ← UInt16.toNat_inj]
  exact Int.ofNat_inj

theorem udp_round_trip_text :
    let m : Mail :=
      { type := some .msg
        data := .text ⟨false, 0x1234, ⟨chars "ann", by decide⟩, ⟨chars "hi", by decide⟩⟩ }
    ∃ bytes m', udpSerializer.serialize m = .ok bytes ∧
      writeUDPMail ⟨.udp, [], [], [], 0, -1⟩ {} (bytes ++ [7]) = .ok ((true, m'), [7]) ∧
      m'.type = m.type ∧ m'.data.type = m.data.type ∧ m'.data.strings = m.data.strings ∧
      (m'.getMessageID = (0x1234 : UInt16).toNat ↔
        (0x1234 : UInt16).toNat % 256 < 0x80 ∨ (0x1234 : UInt16).toNat / 256 = 0xFF) :=
  udp_round_trip _ _ _ _ (by decide) (by decide) 0x1234 (by decide)

/-! ## The REPLY -/

/-- The decoder takes the high byte of the two-byte `Result` for the whole of it, so what it reads
as the content begins with the low byte of the id referred to. -/
theorem writeUDPMail_reply {m : ReplyMessage} {b : Bool} {m' : Mail} {rest : Bytes}
    (h : writeUDPMail mb mail (udpSerializer.serializeAs .reply (.reply m) ++ t) =
      .ok ((b, m'), rest)) :
    CInt.loByte (UInt16.ofInt m.refMessageID) ≠ 0 ∧ ∃ r', m'.data = .reply r' ∧
      r'.result = false ∧ r'.messageContent.val =
        CInt.loByte (UInt16.ofInt m.refMessageID) :: m.messageContent.val := by
  have hres : (CInt.hiByte m.result.toUInt16 != 0) = false := by cases m.result <;> rfl
  rw [datagram_reply, writeUDPMail, Reader.bind_ok (readChar_cons _ _)] at h
  simp only [MessageType.ofCode_code] at h
  rw [Reader.bind_ok (readUInt16_htons _ _), Reader.bind_ok (readChar_htons _ _),
    Reader.bind_ok (readUInt16_cons_htons _ _ _), hres] at h
  by_cases hlo : CInt.loByte (UInt16.ofInt m.refMessageID) = 0
  · -- the content is empty and does not pass its validator
    rw [hlo, Reader.bind_ok (readString_nul _)] at h
    cases h
  · have hnul : nul ∉ CInt.loByte (UInt16.ofInt m.refMessageID) :: m.messageContent.val := by
      rw [List.mem_cons, not_or]
      exact ⟨fun e => hlo e.symm, m.messageContent.notMem rfl⟩
    rw [← List.cons_append, Reader.bind_ok (readString_terminated hnul _)] at h
    refine ⟨hlo, ?_⟩
    rcases hr : ReplyMessage.new _ false _ (CInt.loByte (UInt16.ofInt m.refMessageID) ::
        m.messageContent.val) with e | r'
    · rw [Reader.lift_error hr] at h
      cases h
    · rw [Reader.lift_ok hr] at h
      cases h
      obtain ⟨-, hresult, -, hcontent⟩ := ReplyMessage.new_eq_ok hr
      exact ⟨r', rfl, hresult, hcontent⟩

/-- No REPLY comes back with its `Result` and its content. -/
theorem udp_reply_never (m : ReplyMessage) (queue sigint : Bool) :
    ¬ ∃ bytes m' r', udpSerializer.serialize ⟨some .reply, .reply m, queue, sigint⟩ = .ok bytes ∧
      writeUDPMail mb mail (bytes ++ t) = .ok ((true, m'), t) ∧
      m'.type = some .reply ∧ m'.data = .reply r' ∧ r'.result = m.result ∧
      r'.messageContent = m.messageContent := by
  rintro ⟨bytes, m', r', hser, hdec, -, hdata, -, hcontent⟩
  cases hser
  obtain ⟨-, r'', hdata', -, hcontent'⟩ := writeUDPMail_reply mb mail t hdec
  rw [hdata] at hdata'
  cases hdata'
  -- the content read is one byte longer than the content written
  rw [hcontent] at hcontent'
  exact absurd (congrArg List.length hcontent') (by simp)

/-- `REPLY` with id 0, `Result` true, referring to id 65, with content `OK`. -/
theorem udp_reply_ok_lost :
    ¬ ∃ bytes m' r', udpSerializer.serialize
        { type := some .reply, data := .reply ⟨0, true, 65, ⟨chars "OK", by decide⟩⟩ } = .ok bytes ∧
      writeUDPMail { deliveryService := .udp } {} bytes = .ok ((true, m'), []) ∧
      m'.type = some .reply ∧ m'.data = .reply r' ∧ r'.result = true ∧
      r'.messageContent = ⟨chars "OK", by decide⟩ := by
  rintro ⟨bytes, m', r', hser, hdec, -, hdata, hresult, -⟩
  cases hser
  have hread : writeUDPMail { deliveryService := .udp } {}
      (udpSerializer.serializeAs .reply (.reply ⟨0, true, 65, ⟨chars "OK", by decide⟩⟩)) =
      .ok ((true, ⟨some .reply, .reply ⟨0, false, 256, ⟨chars "AOK", by decide⟩⟩, true, false⟩),
        []) := by
    rfl
  cases hread.symm.trans hdec
  cases hdata
  cases hresult

end Decode

/-! ## Unambiguity -/

namespace MessageData

/-- The 16-bit numbers of a message in the order of the wire: the id and, for a REPLY, the
`Result` and the id it refers to. -/
def numbers : MessageData → List UInt16
  | confirm m => [UInt16.ofInt m.refMessageID]
  | auth m => [m.messageID]
  | join m => [UInt16.ofInt m.messageID]
  | error m => [UInt16.ofInt m.messageID]
  | bye m => [UInt16.ofInt m.messageID]
  | text m => [UInt16.ofInt m.messageID]
  | reply m => [UInt16.ofInt m.messageID, m.result.toUInt16, UInt16.ofInt m.refMessageID]
  | unknown m => [UInt16.ofInt m.messageID]

/-- The ids of a message modulo 65536: its own and, for a REPLY, the one it refers to. -/
def ids : MessageData → List UInt16
  | confirm m => [UInt16.ofInt m.refMessageID]
  | auth m => [m.messageID]
  | join m => [UInt16.ofInt m.messageID]
  | error m => [UInt16.ofInt m.messageID]
  | bye m => [UInt16.ofInt m.messageID]
  | text m => [UInt16.ofInt m.messageID]
  | reply m => [UInt16.ofInt m.messageID, UInt16.ofInt m.refMessageID]
  | unknown m => [UInt16.ofInt m.messageID]

/-- The `Result` of a REPLY. -/
def result? : MessageData → Option Bool
  | reply m => some m.result
  | _ => none

theorem numbers_length_congr {d e : MessageData} (h : d.type = e.type) :
    d.numbers.length = e.numbers.length := by
  cases d <;> cases e <;> first | rfl | cases h

theorem strings_length_congr {d e : MessageData} (h : d.type = e.type) :
    d.strings.length = e.strings.length := by
  cases d <;> cases e <;> first | rfl | cases h

theorem nul_notMem_strings (d : MessageData) : ∀ s ∈ d.strings, nul ∉ s := by
  intro s hs
  cases d <;> simp only [strings, List.mem_cons, List.not_mem_nil, or_false] at hs
  case auth m =>
    rcases hs with rfl | rfl | rfl
    exacts [m.username.notMem rfl, m.displayName.notMem rfl, m.secret.notMem rfl]
  case join m =>
    rcases hs with rfl | rfl
    exacts [m.channelID.notMem rfl, m.displayName.notMem rfl]
  case error m =>
    rcases hs with rfl | rfl
    exacts [m.displayName.notMem rfl, m.messageContent.notMem rfl]
  case text m =>
    rcases hs with rfl | rfl
    exacts [m.displayName.notMem rfl, m.messageContent.notMem rfl]
  case reply m =>
    rw [hs]
    exact m.messageContent.notMem rfl

theorem ids_eq_of_numbers {d e : MessageData} (h : d.type = e.type) (hn : d.numbers = e.numbers) :
    d.ids = e.ids ∧ d.result? = e.result? := by
  cases d <;> cases e <;> try cases h
  case reply.refl a b =>
    simp only [numbers, List.cons.injEq, and_true] at hn
    obtain ⟨hid, hres, href⟩ := hn
    exact ⟨by simp only [ids, hid, href], by simp only [result?, CInt.boolToUInt16_injective hres]⟩
  all_goals exact ⟨hn, rfl⟩

end MessageData

/-- On the wire the numbers of a message come first and its strings last. -/
theorem visit_udp (d : MessageData) :
    udpSerializer.visit d = d.numbers.flatMap CInt.htons ++ d.strings.flatMap (· ++ [nul]) := by
  cases d <;>
    simp [MailSerializer.visit, MailSerializer.visitConfirm, MailSerializer.visitAuth,
      MailSerializer.visitJoin, MailSerializer.visitError, MailSerializer.visitBye,
      MailSerializer.visitText, MailSerializer.visitReply, MailSerializer.visitUnknown,
      MessageData.numbers, MessageData.strings]

theorem selfDelimiting_htons : SelfDelimiting Set.univ CInt.htons :=
  .of_length 2 (fun _ => rfl) fun _ _ => CInt.htons_injective

/-- A datagram that is a prefix of another datagram has the same type, ids, `Result` and strings. -/
theorem udp_unambiguous {m₁ m₂ : Mail} (h₁ : m₁.WellTagged) (h₂ : m₂.WellTagged) {b₁ b₂ : Bytes}
    (hb₁ : udpSerializer.serialize m₁ = .ok b₁) (hb₂ : udpSerializer.serialize m₂ = .ok b₂)
    (hp : b₁ <+: b₂) :
    m₁.type = m₂.type ∧ m₁.data.ids = m₂.data.ids ∧ m₁.data.result? = m₂.data.result? ∧
      m₁.data.strings = m₂.data.strings := by
  rw [udpSerializer.serialize_of_wellTagged h₁] at hb₁
  rw [udpSerializer.serialize_of_wellTagged h₂] at hb₂
  cases hb₁
  cases hb₂
  obtain ⟨s, hs⟩ := hp
  simp only [MailSerializer.serializeAs_udp, visit_udp, List.cons_append, List.append_assoc,
    List.cons.injEq] at hs
  obtain ⟨hcode, hrest⟩ := hs
  have htype := MessageType.code_injective hcode
  obtain ⟨hnum, hrest⟩ := selfDelimiting_htons.flatMap (fun _ _ => trivial) (fun _ _ => trivial)
    (MessageData.numbers_length_congr htype) hrest
  rw [← List.append_nil (List.flatMap _ m₂.data.strings)] at hrest
  obtain ⟨hstr, -⟩ := (SelfDelimiting.terminated nul).flatMap m₁.data.nul_notMem_strings
    m₂.data.nul_notMem_strings (MessageData.strings_length_congr htype) hrest
  obtain ⟨hids, hresult⟩ := MessageData.ids_eq_of_numbers htype hnum
  exact ⟨by rw [h₁, h₂, htype], hids, hresult, hstr⟩

theorem udp_unambiguous_join :
    let m₁ : Mail :=
      { type := some .join
        data := .join ⟨7, ⟨chars "a.b", by decide⟩, ⟨chars "ann", by decide⟩⟩ }
    let m₂ : Mail :=
      { type := some .join
        data := .join ⟨65543, ⟨chars "a.b", by decide⟩, ⟨chars "ann", by decide⟩⟩ }
    m₁.type = m₂.type ∧ m₁.data.ids = m₂.data.ids ∧ m₁.data.result? = m₂.data.result? ∧
      m₁.data.strings = m₂.data.strings :=
  udp_unambiguous (by decide) (by decide) rfl rfl (by decide)

end ChatClient

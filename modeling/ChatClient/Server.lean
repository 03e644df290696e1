import ChatClient.Acceptance
import ChatClient.Session

/-!
# The test server

`tests/server.py` in UDP mode: the datagrams `send_udp_message` packs, and what `listen_for_message`
answers.  The strings are those without a zero byte.  Unlike `MailSerializer` the server packs the
`Result` of a REPLY as one byte, which is what `writeUDPMail` reads, so every message of the server is
decoded to what it says, ids apart, when its strings pass the validators (`understood`).
-/

namespace ChatClient

open MailBox Outcome

namespace Server

/-- A string that is encoded and terminated. -/
structure Text where
  encode : Bytes
  notMem : nul ∉ encode
deriving DecidableEq

/-- `msg_type` and the keyword arguments of `send_udp_message`. -/
inductive Message
  | confirm (refMessageId : UInt16)
  | reply (messageId : UInt16) (result : Byte) (refMessageId : UInt16) (messageContents : Text)
  | auth (messageId : UInt16) (username displayName secret : Text)
  | join (messageId : UInt16) (channelId displayName : Text)
  | msg (messageId : UInt16) (displayName messageContents : Text)
  | err (messageId : UInt16) (displayName messageContents : Text)
  | bye (messageId : UInt16)
deriving DecidableEq

/-- `struct.pack('!BH', code, id)` -/
def pack (code : Byte) (id : UInt16) : Bytes := code :: CInt.htons id

def Text.terminated (s : Text) : Bytes := s.encode ++ [nul]

/-- The datagram that `send_udp_message` hands to `sendto`. -/
def sendUdpMessage : Message → Bytes
  | .confirm refMessageId => pack 0x00 refMessageId
  | .reply messageId result refMessageId messageContents =>
    pack 0x01 messageId ++ pack result refMessageId ++ messageContents.terminated
  | .auth messageId username displayName secret =>
    pack 0x02 messageId ++ username.terminated ++ displayName.terminated ++ secret.terminated
  | .join messageId channelId displayName =>
    pack 0x03 messageId ++ channelId.terminated ++ displayName.terminated
  | .msg messageId displayName messageContents =>
    pack 0x04 messageId ++ displayName.terminated ++ messageContents.terminated
  | .err messageId displayName messageContents =>
    pack 0xFE messageId ++ displayName.terminated ++ messageContents.terminated
  | .bye messageId => pack 0xFF messageId

/-- `struct.unpack('!H', bytes([hi, lo]))` -/
def unpack (hi lo : Byte) : UInt16 := UInt16.ofNat (hi.toNat * 256 + lo.toNat)

/-- What `listen_for_message` answers to what `recvfrom(1024)` returned, if anything. -/
def listenForMessage : Bytes → Option Message
  | code :: hi :: lo :: _ => if code ≠ 0x00 then some (.confirm (unpack hi lo)) else none
  | _ => none

/-! ## What the client makes of it -/

namespace Message

def type : Message → MessageType
  | confirm .. => .confirm
  | reply .. => .reply
  | auth .. => .auth
  | join .. => .join
  | msg .. => .msg
  | err .. => .err
  | bye .. => .bye

/-- The id, which for a CONFIRM is the one it refers to. -/
def id : Message → UInt16
  | confirm id | reply id .. | auth id .. | join id .. | msg id .. | err id .. | bye id => id

def strings : Message → List Bytes
  | confirm _ | bye _ => []
  | reply _ _ _ messageContents => [messageContents.encode]
  | auth _ username displayName secret => [username.encode, displayName.encode, secret.encode]
  | join _ channelId displayName => [channelId.encode, displayName.encode]
  | msg _ displayName messageContents | err _ displayName messageContents =>
    [displayName.encode, messageContents.encode]

/-- The `Result` of a REPLY and the id it refers to. -/
def answer : Message → Option (Bool × UInt16)
  | reply _ result refMessageId _ => some (result != 0, refMessageId)
  | _ => none

/-- The mail says what the message says. -/
structure Carried (m : Message) (mail : Mail) : Prop where
  wellTagged : mail.WellTagged
  type : mail.type = some m.type
  strings : mail.data.strings = m.strings
  id : mail.getMessageID = (receivedID m.id).toNat
  answer : ∀ result ref, m.answer = some (result, ref) →
    mail.data.result? = some result ∧ mail.getRefMessageID = (receivedID ref).toNat

end Message

/-- `writeUDPMail` reads the mail that the message says, with `t` left over, or throws what a validator
throws. -/
def Understands (mb : MailBox) (m : Message) (t : Bytes) : Prop :=
  (Passes m.type.validators m.strings → ∃ mail,
      writeUDPMail mb {} (sendUdpMessage m ++ t) = .ok ((true, mail), t) ∧ m.Carried mail) ∧
    (¬ Passes m.type.validators m.strings →
      ∃ e, writeUDPMail mb {} (sendUdpMessage m ++ t) = .error e ∧ e.Invalid)

section Decode

variable {t : Bytes}

/-- Behind the strings the constructor decides. -/
theorem constructed {α : Type} {x : Except Error α} {q : Prop} (hx : Checks Error.Invalid x q)
    {f : α → Reader (Bool × Mail)} {said : Mail → Prop}
    (hf : ∀ a, x = .ok a → ∃ mail, f a t = .ok ((true, mail), t) ∧ said mail) :
    (q → ∃ mail, (liftM x >>= f) t = .ok ((true, mail), t) ∧ said mail) ∧
      (¬ q → ∃ e, (liftM x >>= f) t = .error e ∧ e.Invalid) := by
  rcases hok : x with e | a
  · have hq : ¬ q := by
      rw [← hx.ok_iff, hok]
      rintro ⟨a, h⟩
      cases h
    exact ⟨fun h => absurd h hq, fun _ => ⟨e, Reader.lift_error rfl, hx.error e hok⟩⟩
  · have hq : q := hx.ok_iff.1 ⟨a, hok⟩
    refine ⟨fun _ => ?_, fun h => absurd hq h⟩
    obtain ⟨mail, hmail, hsaid⟩ := hf a hok
    exact ⟨mail, (Reader.lift_ok rfl).trans hmail, hsaid⟩

variable (mb : MailBox) (t) (messageId : UInt16)

theorem understands_auth (username displayName secret : Text) :
    Understands mb (.auth messageId username displayName secret) t := by
  have hq := AuthMessage.new_checks (receivedID messageId) username.encode displayName.encode
    secret.encode
  have hdata : sendUdpMessage (.auth messageId username displayName secret) ++ t =
      0x02 :: (CInt.htons messageId ++ (username.encode ++ nul ::
        (displayName.encode ++ nul :: (secret.encode ++ nul :: t)))) := by
    simp [sendUdpMessage, pack, Text.terminated]
  rw [Understands, hdata, writeUDPMail, Reader.bind_ok (readChar_cons _ _)]
  simp only [MessageType.ofCode, if_true]
  rw [Reader.bind_ok (readUInt16_htons _ _),
    Reader.bind_ok (readString_terminated username.notMem _),
    Reader.bind_ok (readString_terminated displayName.notMem _),
    Reader.bind_ok (readString_terminated secret.notMem _)]
  apply constructed (hq.congr (by simp [Message.type, MessageType.validators, Message.strings, Passes]))
  intro a ha
  obtain ⟨hid, hu, hd, hs⟩ := AuthMessage.new_eq_ok ha
  refine ⟨_, rfl, rfl, rfl, ?_, ?_, ?_⟩
  · simp [MessageData.strings, Message.strings, hu, hd, hs]
  · simp [Mail.getMessageID, hid, Message.id]
  · intro result ref h
    cases h

theorem understands_join (channelId displayName : Text) :
    Understands mb (.join messageId channelId displayName) t := by
  have hq := JoinMessage.new_checks (receivedID messageId).toNat channelId.encode displayName.encode
  have hdata : sendUdpMessage (.join messageId channelId displayName) ++ t =
      0x03 :: (CInt.htons messageId ++ (channelId.encode ++ nul ::
        (displayName.encode ++ nul :: t))) := by
    simp [sendUdpMessage, pack, Text.terminated]
  rw [Understands, hdata, writeUDPMail, Reader.bind_ok (readChar_cons _ _)]
  simp only [show MessageType.ofCode 0x03 = some .join from rfl]
  rw [Reader.bind_ok (readUInt16_htons _ _),
    Reader.bind_ok (readString_terminated channelId.notMem _),
    Reader.bind_ok (readString_terminated displayName.notMem _)]
  apply constructed (hq.congr (by simp [Message.type, MessageType.validators, Message.strings, Passes]))
  intro a ha
  obtain ⟨hid, hc, hd⟩ := JoinMessage.new_eq_ok ha
  refine ⟨_, rfl, rfl, rfl, ?_, ?_, ?_⟩
  · simp [MessageData.strings, Message.strings, hc, hd]
  · simp [Mail.getMessageID, hid, Message.id]
  · intro result ref h
    cases h

theorem understands_msg (displayName messageContents : Text) :
    Understands mb (.msg messageId displayName messageContents) t := by
  have hq := TextMessage.new_checks (receivedID messageId).toNat displayName.encode
    messageContents.encode
  have hdata : sendUdpMessage (.msg messageId displayName messageContents) ++ t =
      0x04 :: (CInt.htons messageId ++ (displayName.encode ++ nul ::
        (messageContents.encode ++ nul :: t))) := by
    simp [sendUdpMessage, pack, Text.terminated]
  rw [Understands, hdata, writeUDPMail, Reader.bind_ok (readChar_cons _ _)]
  simp only [show MessageType.ofCode 0x04 = some .msg from rfl]
  rw [Reader.bind_ok (readUInt16_htons _ _),
    Reader.bind_ok (readString_terminated displayName.notMem _),
    Reader.bind_ok (readString_terminated messageContents.notMem _)]
  apply constructed (hq.congr (by simp [Message.type, MessageType.validators, Message.strings, Passes]))
  intro a ha
  obtain ⟨-, hid, hd, hc⟩ := TextMessage.new_eq_ok ha
  refine ⟨_, rfl, rfl, rfl, ?_, ?_, ?_⟩
  · simp [MessageData.strings, Message.strings, hd, hc]
  · simp [Mail.getMessageID, hid, Message.id]
  · intro result ref h
    cases h

theorem understands_err (displayName messageContents : Text) :
    Understands mb (.err messageId displayName messageContents) t := by
  have hq := ErrorMessage.new_checks (receivedID messageId).toNat displayName.encode
    messageContents.encode
  have hdata : sendUdpMessage (.err messageId displayName messageContents) ++ t =
      0xFE :: (CInt.htons messageId ++ (displayName.encode ++ nul ::
        (messageContents.encode ++ nul :: t))) := by
    simp [sendUdpMessage, pack, Text.terminated]
  rw [Understands, hdata, writeUDPMail, Reader.bind_ok (readChar_cons _ _)]
  simp only [show MessageType.ofCode 0xFE = some .err from rfl]
  rw [Reader.bind_ok (readUInt16_htons _ _),
    Reader.bind_ok (readString_terminated displayName.notMem _),
    Reader.bind_ok (readString_terminated messageContents.notMem _)]
  apply constructed (hq.congr (by simp [Message.type, MessageType.validators, Message.strings, Passes]))
  intro a ha
  obtain ⟨hid, hd, hc⟩ := ErrorMessage.new_eq_ok ha
  refine ⟨_, rfl, rfl, rfl, ?_, ?_, ?_⟩
  · simp [MessageData.strings, Message.strings, hd, hc]
  · simp [Mail.getMessageID, hid, Message.id]
  · intro result ref h
    cases h

/-- The `Result` is one byte, as the decoder expects. -/
theorem understands_reply (result : Byte) (refMessageId : UInt16) (messageContents : Text) :
    Understands mb (.reply messageId result refMessageId messageContents) t := by
  have hq := ReplyMessage.new_checks (receivedID messageId).toNat (result != 0)
    (receivedID refMessageId).toNat messageContents.encode
  have hdata : sendUdpMessage (.reply messageId result refMessageId messageContents) ++ t =
      0x01 :: (CInt.htons messageId ++ (result :: (CInt.htons refMessageId ++
        (messageContents.encode ++ nul :: t)))) := by
    simp [sendUdpMessage, pack, Text.terminated]
  rw [Understands, hdata, writeUDPMail, Reader.bind_ok (readChar_cons _ _)]
  simp only [show MessageType.ofCode 0x01 = some .reply from rfl]
  rw [Reader.bind_ok (readUInt16_htons _ _), Reader.bind_ok (readChar_cons _ _),
    Reader.bind_ok (readUInt16_htons _ _),
    Reader.bind_ok (readString_terminated messageContents.notMem _)]
  apply constructed (hq.congr (by simp [Message.type, MessageType.validators, Message.strings, Passes]))
  intro a ha
  obtain ⟨hid, hresult, href, hc⟩ := ReplyMessage.new_eq_ok ha
  refine ⟨_, rfl, rfl, rfl, ?_, ?_, ?_⟩
  · simp [MessageData.strings, Message.strings, hc]
  · simp [Mail.getMessageID, hid, Message.id]
  · intro result' ref h
    cases h
    exact ⟨by simp [MessageData.result?, hresult], by simp [Mail.getRefMessageID, href]⟩

theorem understands (m : Message) : Understands mb m t := by
  cases m with
  | confirm refMessageId | bye refMessageId =>
    refine ⟨fun _ => ⟨_, rfl, rfl, rfl, rfl, rfl, ?_⟩, fun h => absurd trivial h⟩
    intro result ref h
    cases h
  | auth messageId username displayName secret => exact understands_auth t mb messageId ..
  | join messageId channelId displayName => exact understands_join t mb messageId ..
  | msg messageId displayName messageContents => exact understands_msg t mb messageId ..
  | err messageId displayName messageContents => exact understands_err t mb messageId ..
  | reply messageId result refMessageId messageContents => exact understands_reply t mb messageId ..

end Decode

theorem sendUdpMessage_ne_nil (m : Message) : sendUdpMessage m ≠ [] := by
  cases m <;> simp [sendUdpMessage, pack]

/-- Every message of the server that fits the buffer is decoded iff its strings pass the validators of
its type, and then the mail has its type, its strings, its `Result` and its ids, as `readUInt16` reads
them; otherwise a validator throws. -/
theorem understood (m : Message) (h : (sendUdpMessage m).length ≤ bufferSize) :
    (Passes m.type.validators m.strings →
        ∃ mail, decodeDatagram (some (sendUdpMessage m)) = .ok mail ∧ m.Carried mail) ∧
      (¬ Passes m.type.validators m.strings →
        ∃ e, decodeDatagram (some (sendUdpMessage m)) = .error e ∧ e.Invalid) := by
  obtain ⟨hpass, hfail⟩ := understands (List.replicate (bufferSize - (sendUdpMessage m).length) nul)
    { deliveryService := .udp } m
  rw [decodeDatagram_of_fits (sendUdpMessage_ne_nil m) h, stored]
  constructor
  · intro hp
    obtain ⟨mail, hmail, hcarried⟩ := hpass hp
    refine ⟨mail, ?_, hcarried⟩
    rw [hmail]
    rfl
  · intro hp
    obtain ⟨e, he, hinvalid⟩ := hfail hp
    refine ⟨e, ?_, hinvalid⟩
    rw [he]
    rfl

/-- What is decoded from a message of the server says what the message says. -/
theorem carried_of_decodeDatagram {m : Message} {mail : Mail}
    (h : decodeDatagram (some (sendUdpMessage m)) = .ok mail) : m.Carried mail := by
  obtain ⟨-, hfits, -⟩ := writeUDPMail_of_decodeDatagram h
  obtain ⟨hpass, hfail⟩ := understands (List.replicate (bufferSize - (sendUdpMessage m).length) nul)
    { deliveryService := .udp } m
  rw [decodeDatagram_of_fits (sendUdpMessage_ne_nil m) hfits, stored] at h
  by_cases hp : Passes m.type.validators m.strings
  · obtain ⟨mail', hmail, hcarried⟩ := hpass hp
    rw [hmail] at h
    cases h
    exact hcarried
  · obtain ⟨e, he, -⟩ := hfail hp
    rw [he] at h
    cases h

/-- A REPLY that accepts the request with the id 0. -/
theorem understood_reply :
    let reply : Message := .reply 1 1 0 ⟨chars "OK", by decide⟩
    (Passes reply.type.validators reply.strings →
        ∃ mail, decodeDatagram (some (sendUdpMessage reply)) = .ok mail ∧ reply.Carried mail) ∧
      (¬ Passes reply.type.validators reply.strings →
        ∃ e, decodeDatagram (some (sendUdpMessage reply)) = .error e ∧ e.Invalid) :=
  understood _ (by decide)

end Server

end ChatClient

import ChatClient.Lib.CInt
import ChatClient.Mail

/-!
# MailSerializer

The class `MailSerializer`.  The member functions of the source append to a buffer; here they
return the bytes they append.  An `int` or a `bool` that is passed to `serialize` is converted to
`uint16_t` by overload resolution, so a `Result` takes two bytes.
-/

namespace ChatClient

structure MailSerializer where
  isUDP : Bool

namespace MailSerializer

/-- `serialize(uint16_t)` -/
def serializeUInt16 (s : MailSerializer) (value : UInt16) : Bytes :=
  match s.isUDP with
  | true => CInt.htons value
  | false => []

/-- `serialize(const std::string &)` -/
def serializeString (s : MailSerializer) (str : Bytes) : Bytes :=
  match s.isUDP with
  | true => str ++ [nul]
  | false => str ++ [space]

/-- A keyword, inserted for TCP only. -/
def keyword (s : MailSerializer) (str : String) : Bytes := if !s.isUDP then chars str else []

def visitConfirm (s : MailSerializer) (msg : ConfirmMessage) : Bytes :=
  s.serializeUInt16 (UInt16.ofInt msg.refMessageID)

def visitUnknown (s : MailSerializer) (msg : UnknownMessage) : Bytes :=
  s.serializeUInt16 (UInt16.ofInt msg.messageID)

def visitAuth (s : MailSerializer) (msg : AuthMessage) : Bytes :=
  s.serializeUInt16 msg.messageID ++
  s.serializeString msg.username.val ++
  s.keyword "AS " ++
  s.serializeString msg.displayName.val ++
  s.keyword "USING " ++
  s.serializeString msg.secret.val

def visitJoin (s : MailSerializer) (msg : JoinMessage) : Bytes :=
  s.serializeUInt16 (UInt16.ofInt msg.messageID) ++
  s.serializeString msg.channelID.val ++
  s.keyword "AS " ++
  s.serializeString msg.displayName.val

def visitError (s : MailSerializer) (msg : ErrorMessage) : Bytes :=
  s.keyword "FROM " ++
  s.serializeUInt16 (UInt16.ofInt msg.messageID) ++
  s.serializeString msg.displayName.val ++
  s.keyword "IS " ++
  s.serializeString msg.messageContent.val

def visitBye (s : MailSerializer) (msg : ByeMessage) : Bytes :=
  s.serializeUInt16 (UInt16.ofInt msg.messageID)

def visitText (s : MailSerializer) (msg : TextMessage) : Bytes :=
  s.keyword "FROM " ++
  s.serializeUInt16 (UInt16.ofInt msg.messageID) ++
  s.serializeString msg.displayName.val ++
  s.keyword "IS " ++
  s.serializeString msg.messageContent.val

def visitReply (s : MailSerializer) (msg : ReplyMessage) : Bytes :=
  s.serializeUInt16 (UInt16.ofInt msg.messageID) ++
  s.serializeUInt16 msg.result.toUInt16 ++
  s.keyword (if msg.result then "OK " else "NOK ") ++
  s.keyword "IS " ++
  s.serializeUInt16 (UInt16.ofInt msg.refMessageID) ++
  s.serializeString msg.messageContent.val

/-- `std::visit(*this, mail.data)` -/
def visit (s : MailSerializer) : MessageData → Bytes
  | .confirm m => s.visitConfirm m
  | .auth m => s.visitAuth m
  | .join m => s.visitJoin m
  | .error m => s.visitError m
  | .bye m => s.visitBye m
  | .text m => s.visitText m
  | .reply m => s.visitReply m
  | .unknown m => s.visitUnknown m

/-- The word a TCP message begins with. -/
def messageType : MessageType → String
  | .confirm => "CONFIRM "
  | .auth => "AUTH "
  | .join => "JOIN "
  | .err => "ERR "
  | .bye => "BYE "
  | .msg => "MSG "
  | .reply => "REPLY "
  | .unknown => "ERR "

/-- The bytes of a message with the given type tag and data.  For TCP the last space is swapped
for CR LF. -/
def serializeAs (s : MailSerializer) (type : MessageType) (data : MessageData) : Bytes :=
  if s.isUDP then type.code :: s.visit data
  else (chars (messageType type) ++ s.visit data).dropLast ++ [cr, lf]

def serialize (s : MailSerializer) (mail : Mail) : Except Error Bytes :=
  match mail.type with
  | none => .error .indeterminate
  | some type => .ok (s.serializeAs type mail.data)

theorem serialize_of_wellTagged (s : MailSerializer) {mail : Mail} (h : mail.WellTagged) :
    s.serialize mail = .ok (s.serializeAs mail.data.type mail.data) := by
  rw [serialize, h]

theorem serializeAs_udp (type : MessageType) (data : MessageData) :
    (MailSerializer.mk true).serializeAs type data =
      type.code :: (MailSerializer.mk true).visit data := rfl

end MailSerializer

end ChatClient

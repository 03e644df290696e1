import ChatClient.Reader

/-!
# MailBox

The class `MailBox`: the queues between the FSM thread and the listener thread, and the functions
that make a mail from a line of user input (`writeMailLine`), from received bytes
(`writeMailBuffer`) or from a message type (`writeMailType`).  The three are overloads of one name
in the source; each takes the mail it fills in and returns it with the source's return value.
Text printed for the user and verbose output are left out.
-/

namespace ChatClient

structure MailBox where
  deliveryService : ProtocolType
  incomingMails : List Mail := []
  outgoingMails : List Mail := []
  displayName : Bytes := chars "default"
  sequenceUDPNumber : UInt16 := 0
  srvMsgId : Int := -1
deriving DecidableEq

/-- The alternatives of the variant that `sendMail` gives a fresh `MessageID`. -/
def MessageData.numbered : MessageData → Bool
  | auth _ | join _ | error _ | bye _ | text _ | reply _ => true
  | confirm _ | unknown _ => false

def MessageData.setMessageID (id : UInt16) : MessageData → MessageData
  | auth m => auth { m with messageID := id }
  | join m => join { m with messageID := id.toNat }
  | error m => error { m with messageID := id.toNat }
  | bye m => bye { m with messageID := id.toNat }
  | text m => text { m with messageID := id.toNat }
  | reply m => reply { m with messageID := id.toNat }
  | confirm m => confirm m
  | unknown m => unknown m

namespace MailBox

/-! ## The queues -/

/-- `None` means that the queue is empty and the caller keeps waiting.  Printing the mail takes its
data out of the variant by `std::get`. -/
def waitMail (mb : MailBox) : Option (Except Error Mail × MailBox) :=
  match mb.incomingMails with
  | [] => none
  | mail :: rest =>
    let printed : Except Error Mail :=
      match mail.type, mail.data with
      | none, _ => .error .indeterminate
      | some .err, .error _ => .ok mail
      | some .err, _ => if mail.sigint then .ok mail else .error .badVariantAccess
      | some .msg, .text _ => .ok mail
      | some .msg, _ => .error .badVariantAccess
      | some .reply, .reply _ => .ok mail
      | some .reply, _ => .error .badVariantAccess
      | some _, _ => .ok mail
    some (printed, { mb with incomingMails := rest })

def getOutgoingMail (mb : MailBox) : Except Error (Mail × MailBox) :=
  match mb.outgoingMails with
  | [] => .error .emptyQueue
  | mail :: rest => .ok (mail, { mb with outgoingMails := rest })

def addMail (mb : MailBox) (mail : Mail) : MailBox :=
  if mail.addToMailQueue = false then mb
  else { mb with incomingMails := mb.incomingMails ++ [mail] }

/-- The first part of `sendMail`: the data gets the next sequence number, if it has an id of its
own. -/
def assignMessageID (mb : MailBox) (mail : Mail) : Mail × MailBox :=
  if mail.data.numbered then
    ({ mail with data := mail.data.setMessageID mb.sequenceUDPNumber },
      { mb with sequenceUDPNumber := mb.sequenceUDPNumber + 1 })
  else (mail, mb)

/-- The second part of `sendMail`, under the lock.  The third writes a byte to the pipe. -/
def pushOutgoing (mb : MailBox) (mail : Mail) : MailBox :=
  { mb with outgoingMails := mb.outgoingMails ++ [mail] }

/-! ## Mails from user input and for internal events -/

/-- The lines that `/help` and `/print` write to `std::cout` are left out. -/
def writeMailLine (mb : MailBox) (line : Bytes) (mail : Mail) :
    Except Error (Bool × Mail × MailBox) := do
  let (command, iss) ← extract line
  if command = chars "/auth" then
    let (username, iss) ← extract iss
    let (secret, iss) ← extract iss
    let (dN, _) ← extract iss
    let authMsg ← AuthMessage.new mb.sequenceUDPNumber username dN secret
    return (true, { mail with type := some .auth, data := .auth authMsg, addToMailQueue := true },
      { mb with displayName := authMsg.displayName.val })
  else if command = chars "/join" then
    let (channelID, _) ← extract iss
    let joinMsg ← JoinMessage.new mb.sequenceUDPNumber.toNat channelID mb.displayName
    return (true, { mail with type := some .join, data := .join joinMsg, addToMailQueue := true },
      mb)
  else if command = chars "/rename" then
    let (newDisplayName, _) ← extract iss
    return (true, { mail with addToMailQueue := false }, { mb with displayName := newDisplayName })
  else if command = chars "/help" then
    return (true, { mail with addToMailQueue := false }, mb)
  else if command = chars "/print" then
    return (true, { mail with addToMailQueue := false }, mb)
  else
    let textMsg ← TextMessage.new mb.sequenceUDPNumber.toNat mb.displayName line
    return (true, { mail with
      type := some .msg, data := .text { textMsg with toSend := true }, addToMailQueue := true },
      mb)

def writeMailType (mb : MailBox) (msgType : MessageType) (mail : Mail) (refMessageID : Int := -1) :
    Except Error (Bool × Mail) := do
  match msgType with
  | .bye =>
    return (true, { mail with
      type := some .bye, data := .bye ⟨mb.sequenceUDPNumber.toNat⟩ })
  | .confirm =>
    return (true, { mail with type := some .confirm, data := .confirm ⟨refMessageID⟩ })
  | _ =>
    -- `ERR`, and the default branch, which does the same
    let errMsg ← ErrorMessage.new mb.sequenceUDPNumber.toNat mb.displayName (chars "MessageContent")
    return (true, { mail with type := some .err, data := .error errMsg })

/-! ## Mails from received bytes -/

def writeUDPMail (mb : MailBox) (mail : Mail) : Reader (Bool × Mail) := do
  let code ← readChar
  match MessageType.ofCode code with
  | some .confirm =>
    let refMsgID ← readUInt16
    return (true, { mail with
      type := some .confirm, data := .confirm ⟨refMsgID.toNat⟩, addToMailQueue := false })
  | some .bye =>
    let msgID ← readUInt16
    return (true, { mail with
      type := some .bye, data := .bye ⟨msgID.toNat⟩,
      addToMailQueue := !(mb.deliveryService == .tcp) })
  | some .err =>
    let msgID ← readUInt16
    let dN ← readString
    let mC ← readString
    let errMsg ← ErrorMessage.new msgID.toNat dN mC
    return (true, { mail with type := some .err, data := .error errMsg, addToMailQueue := true })
  | some .reply =>
    let msgID ← readUInt16
    let result ← readChar
    let refID ← readUInt16
    let mC ← readString
    let replyMsg ← ReplyMessage.new msgID.toNat (result != 0) refID.toNat mC
    return (true, { mail with type := some .reply, data := .reply replyMsg, addToMailQueue := true })
  | some .auth =>
    let msgID ← readUInt16
    let username ← readString
    let dN ← readString
    let secret ← readString
    let authMsg ← AuthMessage.new msgID username dN secret
    return (true, { mail with type := some .auth, data := .auth authMsg, addToMailQueue := true })
  | some .join =>
    let msgID ← readUInt16
    let channelID ← readString
    let dN ← readString
    let joinMsg ← JoinMessage.new msgID.toNat channelID dN
    return (true, { mail with type := some .join, data := .join joinMsg, addToMailQueue := true })
  | some .msg =>
    let msgID ← readUInt16
    let disN ← readString
    let mC ← readString
    let srvMsg ← TextMessage.new msgID.toNat disN mC
    return (true, { mail with type := some .msg, data := .text srvMsg, addToMailQueue := true })
  | _ =>
    -- the default branch, which the value of `UNKNOWN` takes too; reading the id throws nothing
    let msgID ← readUInt16
    return (true, { mail with
      type := some .unknown, data := .unknown ⟨msgID.toNat⟩, addToMailQueue := true })

/-- The rest of a line as message content: one CR at the end and one space at the front are
removed.  The source repeats these lines for `ERR`, `REPLY` and `MSG`. -/
def readContent : IStringStream Bytes := do
  let mC ← getline
  let mC := if mC.getLast? = some cr then mC.dropLast else mC
  return if mC.head? = some space then mC.drop 1 else mC

/-- The part of `writeTCPMail` that reads from the stream. -/
def parseTCPMail (mb : MailBox) (mail : Mail) : IStringStream (Bool × Mail) := do
  let msgType ← extract
  if msgType = chars "BYE" then
    return (true, { mail with type := some .bye })
  else if msgType = chars "ERR" then
    let from_ ← extract
    let dN ← extract
    let is ← extract
    let mC ← readContent
    let errMsg ← ErrorMessage.new mb.sequenceUDPNumber.toNat dN mC
    if from_ ≠ chars "FROM" ∨ is ≠ chars "IS" ∨ errMsg.messageContent.val = [] then
      return (false, mail)
    return (true, { mail with type := some .err, data := .error errMsg, addToMailQueue := true })
  else if msgType = chars "REPLY" then
    let response ← extract
    let is ← extract
    let mC ← readContent
    let replyMsg ← ReplyMessage.new mb.sequenceUDPNumber.toNat (response == chars "OK") (-1) mC
    if (response ≠ chars "OK" ∧ response ≠ chars "NOK") ∨ is ≠ chars "IS" then
      return (false, mail)
    return (true, { mail with type := some .reply, data := .reply replyMsg, addToMailQueue := true })
  else if msgType = chars "AUTH" then
    let username ← extract
    let as ← extract
    let secret ← extract
    let usg ← extract
    let dN ← extract
    let authMsg ← AuthMessage.new mb.sequenceUDPNumber username dN secret
    if as ≠ chars "AS" ∨ usg ≠ chars "USING" then
      return (false, mail)
    return (true, { mail with type := some .auth, data := .auth authMsg, addToMailQueue := true })
  else if msgType = chars "JOIN" then
    let channelID ← extract
    let as ← extract
    let dN ← extract
    let joinMsg ← JoinMessage.new mb.sequenceUDPNumber.toNat channelID dN
    if as ≠ chars "AS" then
      return (false, mail)
    return (true, { mail with type := some .join, data := .join joinMsg, addToMailQueue := true })
  else if msgType = chars "MSG" then
    let from_ ← extract
    let dN ← extract
    let is ← extract
    let mC ← readContent
    let srvMsg ← TextMessage.new mb.sequenceUDPNumber.toNat dN mC
    if from_ ≠ chars "FROM" ∨ is ≠ chars "IS" then
      return (false, mail)
    return (true, { mail with type := some .msg, data := .text srvMsg, addToMailQueue := true })
  else
    return (true, { mail with type := some .unknown, addToMailQueue := true })

/-- The text is what precedes the first zero byte of the buffer. -/
def writeTCPMail (mb : MailBox) (buffer : Bytes) (mail : Mail) : Except Error (Bool × Mail) := do
  let (str, _) ← readString buffer
  (parseTCPMail mb mail).run' str

def writeMailBuffer (mb : MailBox) (buffer : Bytes) (mail : Mail) : Except Error (Bool × Mail) :=
  match mb.deliveryService with
  | .udp => (writeUDPMail mb mail).run' buffer
  | .tcp => writeTCPMail mb buffer mail

end MailBox

end ChatClient

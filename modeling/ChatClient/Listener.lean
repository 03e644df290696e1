import ChatClient.MailBox
import ChatClient.Net

/-!
# Listener

The class `Listener`: its fields, what it does for each descriptor that has become readable
(`listenStdin`, `listenSocket`, `listenSignal`), and the parts of the loop of `runListener` around
`epoll_wait`.  Of `listenToSendPipe` there is only the last part here (`transmit`): it is cut where
another thread can get in between, behind the `read` from the notify pipe and behind
`getOutgoingMail`.  A `read` or `recv` is the value it returns: `none` for an error, the empty list
at the end of the data.
-/

namespace ChatClient

/-- What a descriptor is read for; `main` adds one descriptor of each kind. -/
inductive FdType
  | stdinPipe
  | socketPipe
  | toSendPipe
  | signalPipe
deriving DecidableEq

/-- `confMail` is written before it is read. -/
structure Listener where
  protocolType : ProtocolType
  confMail : Mail := {}
  receivedConfirm : Bool := true
  toSendRegistered : Bool := true
  retries : Int := 0
  refMsgId : Int := -1
  refAuthId : Int := -1
  keepRunning : Bool := true
  sentBye : Bool := false
deriving DecidableEq

/-! ## StopWatch -/

/-- Times are in milliseconds. -/
structure StopWatch where
  startTime : Int
  endTime : Int
  isStopped : Bool := false
deriving DecidableEq

namespace StopWatch

def new (now : Int) : StopWatch := { startTime := now, endTime := now }

def start (w : StopWatch) (now : Int) : StopWatch :=
  { w with startTime := now, isStopped := false }

def stop (w : StopWatch) (now : Int) : StopWatch :=
  { w with endTime := now, isStopped := true }

def duration (w : StopWatch) (now : Int) : Int × StopWatch :=
  let w := if !w.isStopped then { w with endTime := now } else w
  (w.endTime - w.startTime, w)

/-- Resetting leaves `isStopped` alone. -/
def reset (w : StopWatch) (now : Int) : StopWatch :=
  { w with startTime := now, endTime := now }

end StopWatch

/-! ## Reading a descriptor -/

/-- The loop over the bytes read from the pipe; `line` is what precedes them on their line. -/
def readLines (mailbox : MailBox) (line : Bytes) : Bytes → Except Error MailBox
  | [] => .ok mailbox
  | c :: rest =>
    if c = lf then
      if line ≠ [] then do
        let (written, mail, mailbox) ← mailbox.writeMailLine line {}
        if written then readLines (mailbox.addMail mail) [] rest
        else .error (.runtimeError (chars "Failed to write mail from stdin"))
      else readLines mailbox line rest
    else readLines mailbox (line ++ [c]) rest

/-- At most 1023 bytes are read, and a line begun in them is not continued by the next call. -/
def listenStdin (mailbox : MailBox) (received : Option Bytes) : Except Error MailBox :=
  match received with
  | none => .error (.runtimeError (chars "Failed to read from stdin"))
  | some data =>
    if data = [] then .error (.runtimeError (chars "Failed to listen to stdin"))
    else readLines mailbox [] (data.take 1023)

def listenSignal (l : Listener) (mailbox : MailBox) (received : Option Bytes) :
    Except Error (Listener × MailBox) :=
  match received with
  | none => .error (.runtimeError (chars "Failed to read from signal pipe"))
  | some data =>
    if data = [] then .error (.runtimeError (chars "Failed to listen to signal pipe"))
    else do
      let (_, mail) ← mailbox.writeMailType .err {}
      return ({ l with keepRunning := false }, mailbox.addMail { mail with sigint := true })

/-- What one `listenSocket` leaves behind: the mail it decoded, and the mails it passed to `sendData`
with their bytes. -/
structure SocketResult where
  listener : Listener
  mailbox : MailBox
  mail : Mail
  sent : List (Mail × Bytes)
deriving DecidableEq

/-- The part of `listenSocket` that follows `writeMail`. -/
def handleMail (connection : NetworkConnection) (l : Listener) (mailbox : MailBox) (mail : Mail) :
    Except Error SocketResult :=
  match l.protocolType with
  | .tcp => .ok ⟨l, mailbox.addMail mail, mail, []⟩
  | .udp => do
    let (_, confirmMail) ← mailbox.writeMailType .confirm {} mail.getMessageID
    match mail.type with
    | none => .error .indeterminate
    | some .reply =>
      if mail.getMessageID ≤ mailbox.srvMsgId then
        let bytes ← connection.sendData confirmMail
        return ⟨l, mailbox, mail, [(confirmMail, bytes)]⟩
      else if l.refAuthId ≠ mail.getRefMessageID then
        return ⟨l, mailbox, mail, []⟩
      else
        let bytes ← connection.sendData confirmMail
        let mailbox := { mailbox with srvMsgId := mail.getMessageID }
        return ⟨l, mailbox.addMail mail, mail, [(confirmMail, bytes)]⟩
    | some .confirm =>
      match mail.data with
      | .confirm m =>
        if m.refMessageID = l.refMsgId ∧ l.receivedConfirm = false then
          return ⟨{ l with receivedConfirm := true, retries := 0, refMsgId := -1 }, mailbox, mail, []⟩
        else
          return ⟨l, mailbox, mail, []⟩
      | _ => .error .badVariantAccess
    | some _ =>
      if mail.getMessageID ≤ mailbox.srvMsgId then
        return ⟨l, mailbox, mail, []⟩
      else
        let bytes ← connection.sendData confirmMail
        let mailbox := { mailbox with srvMsgId := mail.getMessageID }
        return ⟨l, mailbox.addMail mail, mail, [(confirmMail, bytes)]⟩

def listenSocket (connection : NetworkConnection) (l : Listener) (mailbox : MailBox)
    (received : Option Bytes) : Except Error SocketResult := do
  let buffer ← connection.receiveData received
  let (written, mail) ← mailbox.writeMailBuffer buffer {}
  handleMail connection (if written then l else { l with keepRunning := false }) mailbox mail

/-- The part of `listenToSendPipe` that follows `getOutgoingMail`. -/
def transmit (connection : NetworkConnection) (l : Listener) (mail : Mail) :
    Except Error (Listener × Bytes) := do
  let l := if mail.type = some .bye then { l with sentBye := true, keepRunning := false } else l
  let bytes ← connection.sendData mail
  match l.protocolType with
  | .tcp => return (l, bytes)
  | .udp =>
    let l := { l with receivedConfirm := false, refMsgId := mail.getMessageID, confMail := mail }
    if mail.type = some .auth ∨ mail.type = some .join then
      return ({ l with refAuthId := mail.getMessageID }, bytes)
    return (l, bytes)

/-! ## The loop of `runListener` -/

/-- `epoll_ctl(efd, EPOLL_CTL_DEL, fd)` fails for a descriptor that is not in the set. -/
def unregisterFd (epoll : List FdType) (fd : FdType) : Except Error (List FdType) :=
  if fd ∈ epoll then .ok (epoll.filter (· ≠ fd))
  else .error (.runtimeError (chars "Failed to remove file descriptor from epoll"))

/-- `epoll_ctl(efd, EPOLL_CTL_ADD, fd)` fails for a descriptor that is in the set already. -/
def registerFd (epoll : List FdType) (fd : FdType) : Except Error (List FdType) :=
  if fd ∈ epoll then .error (.runtimeError (chars "Failed to add file descriptor to epoll"))
  else .ok (fd :: epoll)

/-- The condition of the loop. -/
def Listener.goesOn (l : Listener) : Bool :=
  l.keepRunning || (!l.sentBye || !l.receivedConfirm)

/-- At the head of the loop the notify pipe is watched iff nothing awaits its CONFIRM. -/
def toggleSendPipe (l : Listener) (epoll : List FdType) : Except Error (Listener × List FdType) :=
  if !l.receivedConfirm && l.toSendRegistered then do
    let epoll ← unregisterFd epoll .toSendPipe
    return ({ l with toSendRegistered := false }, epoll)
  else if l.receivedConfirm && !l.toSendRegistered then do
    let epoll ← registerFd epoll .toSendPipe
    return ({ l with toSendRegistered := true }, epoll)
  else return (l, epoll)

/-- The timeout for `epoll_wait`. -/
def waitTimeout (connection : NetworkConnection) (l : Listener) (w : StopWatch) (now : Int) :
    Int × StopWatch :=
  if !l.receivedConfirm then (connection.getTimeout - (w.duration now).1, (w.duration now).2)
  else (-1, w)

/-- `epoll_wait` returned 0: the mail in flight is sent again, unless it was too often already. -/
def retransmit (connection : NetworkConnection) (l : Listener) : Except Error (Listener × Bytes) :=
  if connection.getRetries ≤ l.retries then
    .error (.runtimeError (chars "Server not responding"))
  else do
    let bytes ← connection.sendData l.confMail
    return ({ l with retries := l.retries + 1 }, bytes)

end ChatClient

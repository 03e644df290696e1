import ChatClient.Lib.Lts
import ChatClient.Listener

/-!
# The client as a system

The state shared by the two threads of the client, the places the threads stand at, and what each
of their atomic actions does (`Client.step`).  The FSM thread is left open: it may pass any mail to
`sendMail` at any time, take mails from `incomingMails` and stop the listener.  The listener thread
runs `runListener`; which descriptors `epoll_wait` reports, in which order, after how many
milliseconds, and what is read from them, is up to the environment.  An exception that reaches the
end of a thread ends the process; the state then stays as it was, with `failure` set.
-/

namespace ChatClient

/-- Where the FSM thread stands in `sendMail`. -/
inductive Sending
  | idle
  /-- the mail has its id and is not yet in the queue -/
  | assigned (mail : Mail)
  /-- the mail is in the queue and the byte not yet in the pipe -/
  | pushed
deriving DecidableEq

/-- Where the listener thread stands in `runListener`. -/
inductive Place
  /-- between two events, before the given ones; before none of them, at the head of the loop -/
  | events (rest : List FdType)
  /-- in `epoll_wait` -/
  | waiting (timeout : Int)
  /-- in `listenToSendPipe`, behind the `read` -/
  | notified (rest : List FdType)
  /-- in `listenToSendPipe`, behind `getOutgoingMail` -/
  | popped (mail : Mail) (rest : List FdType)
  /-- behind the loop -/
  | finished
deriving DecidableEq

structure Client where
  mailbox : MailBox
  listener : Listener
  /-- bytes in the notify pipe -/
  notifyPipe : ℕ := 0
  /-- the descriptors in the epoll set -/
  epoll : List FdType := [.stdinPipe, .socketPipe, .toSendPipe, .signalPipe]
  place : Place := .events []
  sending : Sending := .idle
  stopWatch : StopWatch
  now : Int
  failure : Option Error := none
deriving DecidableEq

/-- What a run shows. -/
inductive Event
  /-- a mail was passed to `sendMail` -/
  | submitted (mail : Mail)
  | pushed (mail : Mail)
  | popped (mail : Mail)
  /-- `listenToSendPipe` sent the mail -/
  | transmitted (mail : Mail) (bytes : Bytes)
  | retransmitted (mail : Mail) (bytes : Bytes)
  /-- `listenSocket` decoded the mail and, if `delivered`, added it to `incomingMails` -/
  | received (datagram : Bytes) (mail : Mail) (delivered : Bool)
  /-- `listenSocket` sent the mail -/
  | answered (mail : Mail) (bytes : Bytes)
  /-- `listenStdin` or `listenSignal` added the mail to `incomingMails` -/
  | entered (mail : Mail)
  | consumed (mail : Mail)
  /-- `epoll_wait` was called with the timeout and returned after so many milliseconds -/
  | waited (timeout : Int) (elapsed : ℕ)
deriving DecidableEq

/-- What `epoll_wait` returns: 0, a number of events, or -1 when a signal handler has run. -/
inductive EpollReturn
  | timeout
  | ready (fds : List FdType)
  | interrupted
deriving DecidableEq

inductive Action
  | sendMail (mail : Mail)
  | pushMail
  | notifyListener
  | waitMail
  | stop
  | loopHead
  | epollWait (result : EpollReturn) (elapsed : ℕ)
  | listenStdin (received : Option Bytes)
  | listenSocket (received : Option Bytes)
  | listenSignal (received : Option Bytes)
  | readNotify
  | popMail
  | transmit

/-- The mails that the second mailbox has in `incomingMails` behind those of the first. -/
def newMails (before after : MailBox) : List Mail :=
  after.incomingMails.drop before.incomingMails.length

namespace Client

/-- The state in which the two threads start. -/
def initial (connection : NetworkConnection) : Client where
  mailbox := { deliveryService := connection.type }
  listener := { protocolType := connection.type }
  stopWatch := .new 0
  now := 0

/-- What follows a computation that may throw. -/
def attempt {α : Type} (s : Client) (x : Except Error α) (k : α → Client × List Event) :
    Client × List Event :=
  match x with
  | .ok a => k a
  | .error e => ({ s with failure := some e }, [])

/-! ## The FSM thread -/

def sendMail (s : Client) (mail : Mail) : Option (Client × List Event) :=
  match s.sending with
  | .idle =>
    if mail.addToMailQueue = false then some (s, [])
    else
      let (assigned, mailbox) := s.mailbox.assignMessageID mail
      some ({ s with mailbox, sending := .assigned assigned }, [.submitted mail])
  | _ => none

def pushMail (s : Client) : Option (Client × List Event) :=
  match s.sending with
  | .assigned mail =>
    some ({ s with mailbox := s.mailbox.pushOutgoing mail, sending := .pushed }, [.pushed mail])
  | _ => none

def notifyListener (s : Client) : Option (Client × List Event) :=
  match s.sending with
  | .pushed => some ({ s with notifyPipe := s.notifyPipe + 1, sending := .idle }, [])
  | _ => none

def waitMail (s : Client) : Option (Client × List Event) :=
  match s.sending, s.mailbox.waitMail with
  | .idle, some (x, mailbox) =>
    some (s.attempt x fun mail => ({ s with mailbox }, [.consumed mail]))
  | _, _ => none

/-- `Listener::stop`, up to the join. -/
def stop (s : Client) : Option (Client × List Event) :=
  some ({ s with listener := { s.listener with keepRunning := false } }, [])

/-! ## The listener thread -/

section Listener

variable (connection : NetworkConnection)

/-- From the condition of the loop to the call of `epoll_wait`. -/
def loopHead (s : Client) : Option (Client × List Event) :=
  match s.place with
  | .events [] =>
    if s.listener.goesOn then
      some (s.attempt (toggleSendPipe s.listener s.epoll) fun (listener, epoll) =>
        let (timeout, stopWatch) := waitTimeout connection listener s.stopWatch s.now
        ({ s with
            listener, epoll, place := .waiting timeout, stopWatch := stopWatch.start s.now }, []))
    else some ({ s with place := .finished }, [])
  | _ => none

/-- What `epoll_wait` can return, whenever it does.  It may report the socket in UDP mode before anything
was sent, when no datagram can have reached the port yet: more runs than the real ones. -/
def mayReturn (s : Client) (timeout : Int) : EpollReturn → Prop
  | .timeout => 0 ≤ timeout
  | .ready fds => fds ≠ [] ∧ fds.Nodup ∧ (∀ fd ∈ fds, fd ∈ s.epoll) ∧
      (.toSendPipe ∈ fds → 0 < s.notifyPipe)
  | .interrupted => True

instance (s : Client) (timeout : Int) (result : EpollReturn) :
    Decidable (s.mayReturn timeout result) :=
  match result with
  | .timeout => inferInstanceAs (Decidable (0 ≤ timeout))
  | .ready fds => inferInstanceAs (Decidable (fds ≠ [] ∧ fds.Nodup ∧ (∀ fd ∈ fds, fd ∈ s.epoll) ∧
      (.toSendPipe ∈ fds → 0 < s.notifyPipe)))
  | .interrupted => inferInstanceAs (Decidable True)

/-- `epoll_wait` and, when it returned 0, what is done about it. -/
def epollWait (s : Client) (result : EpollReturn) (elapsed : ℕ) : Option (Client × List Event) :=
  match s.place with
  | .waiting timeout =>
    if s.mayReturn timeout result then
      let now := s.now + elapsed
      let stopWatch := s.stopWatch.stop now
      match result with
      | .timeout =>
        some (s.attempt (retransmit connection s.listener) fun (listener, bytes) =>
          ({ s with listener, now, place := .events [], stopWatch := stopWatch.reset now },
            [.waited timeout elapsed, .retransmitted s.listener.confMail bytes]))
      | .ready fds =>
        some ({ s with now, stopWatch, place := .events fds }, [.waited timeout elapsed])
      | .interrupted =>
        some ({ s with now, stopWatch, place := .events [] }, [.waited timeout elapsed])
    else none
  | _ => none

def listenStdin (s : Client) (received : Option Bytes) : Option (Client × List Event) :=
  match s.place with
  | .events (.stdinPipe :: rest) =>
    some (s.attempt (ChatClient.listenStdin s.mailbox received) fun mailbox =>
      ({ s with mailbox, place := .events rest }, (newMails s.mailbox mailbox).map .entered))
  | _ => none

def listenSignal (s : Client) (received : Option Bytes) : Option (Client × List Event) :=
  match s.place with
  | .events (.signalPipe :: rest) =>
    some (s.attempt (ChatClient.listenSignal s.listener s.mailbox received)
      fun (listener, mailbox) =>
        ({ s with listener, mailbox, place := .events rest },
          (newMails s.mailbox mailbox).map .entered))
  | _ => none

def listenSocket (s : Client) (received : Option Bytes) : Option (Client × List Event) :=
  match s.place with
  | .events (.socketPipe :: rest) =>
    some (s.attempt (ChatClient.listenSocket connection s.listener s.mailbox received) fun res =>
      ({ s with listener := res.listener, mailbox := res.mailbox, place := .events rest },
        .received (received.getD []) res.mail (newMails s.mailbox res.mailbox != []) ::
          res.sent.map fun (mail, bytes) => .answered mail bytes))
  | _ => none

/-- The `read` of `listenToSendPipe` waits until there is a byte. -/
def readNotify (s : Client) : Option (Client × List Event) :=
  match s.place with
  | .events (.toSendPipe :: rest) =>
    if 0 < s.notifyPipe then
      some ({ s with notifyPipe := s.notifyPipe - 1, place := .notified rest }, [])
    else none
  | _ => none

def popMail (s : Client) : Option (Client × List Event) :=
  match s.place with
  | .notified rest =>
    some (s.attempt s.mailbox.getOutgoingMail fun (mail, mailbox) =>
      ({ s with mailbox, place := .popped mail rest }, [.popped mail]))
  | _ => none

def transmit (s : Client) : Option (Client × List Event) :=
  match s.place with
  | .popped mail rest =>
    some (s.attempt (ChatClient.transmit connection s.listener mail) fun (listener, bytes) =>
      ({ s with listener, place := .events rest }, [.transmitted mail bytes]))
  | _ => none

/-- One action of either thread, with what it shows; `none` when the action is not possible. -/
def step (s : Client) (action : Action) : Option (Client × List Event) :=
  if s.failure ≠ none then none
  else
    match action with
    | .sendMail mail => s.sendMail mail
    | .pushMail => s.pushMail
    | .notifyListener => s.notifyListener
    | .waitMail => s.waitMail
    | .stop => s.stop
    | .loopHead => s.loopHead connection
    | .epollWait result elapsed => s.epollWait connection result elapsed
    | .listenStdin received => s.listenStdin received
    | .listenSocket received => s.listenSocket connection received
    | .listenSignal received => s.listenSignal received
    | .readNotify => s.readNotify
    | .popMail => s.popMail
    | .transmit => s.transmit connection

/-- The client from its start on. -/
def system : Lts Client Event where
  init s := s = initial connection
  step s es s' := ∃ action, s.step connection action = some (s', es)

/-- Some actions one after another. -/
def exec (s : Client) (actions : List Action) : Option (Client × List Event) :=
  Lts.exec (step connection) s actions

theorem run_of_exec {t es : List Event} {s s' : Client} (r : (system connection).Run t s)
    (actions : List Action) (h : s.exec connection actions = some (s', es)) :
    (system connection).Run (t ++ es) s' := by
  apply r.exec _ actions h
  intro s action s' es h
  exact ⟨action, h⟩

end Listener

end Client

end ChatClient

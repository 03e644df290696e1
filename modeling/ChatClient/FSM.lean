import ChatClient.Lib.Lts
import ChatClient.ListenerSpec

/-!
# FSM

The class `FSM`: what one turn of the loop of `FSM::run` does with the mail that `waitMail` returned
(`FSM.turn`), and the loop as a system of its own (`FSM.system`).  The mailbox is shared with the
listener, so a turn finds it in any state; only `writeMail` looks at it.

A turn goes one of the ways listed by `Course` (`turn_course`), and those that throw nothing are the
`Reaction`s (`turn_reaction`).  As long as nothing is thrown the next state is a function of the
present one and the mail (`turn_next`).
-/

namespace ChatClient

open Outcome

inductive State
  | start
  | auth
  | open_
  | error
  | end_
deriving DecidableEq

/-- The states in which the loop waits for a mail. -/
def State.waits : State → Bool
  | start | auth | open_ => true
  | error | end_ => false

/-- `std::get<Mail::TextMessage>(mail.data)` -/
def Mail.getText (mail : Mail) : Except Error TextMessage :=
  match mail.data with
  | .text m => .ok m
  | _ => .error .badVariantAccess

/-- `std::get<Mail::ReplyMessage>(mail.data)` -/
def Mail.getReply (mail : Mail) : Except Error ReplyMessage :=
  match mail.data with
  | .reply m => .ok m
  | _ => .error .badVariantAccess

/-- What a turn leaves in the member `mail`, whether it passed that to `sendMail`, and the state
that follows. -/
structure Turn where
  mail : Mail
  sends : Bool
  next : State
deriving DecidableEq

namespace FSM

/-- `writeMail(msgType, mail)`, `sendMail(mail)` and then the next state. -/
def report (mb : MailBox) (msgType : MessageType) (mail : Mail) (next : State) :
    Except Error Turn := do
  let (_, mail) ← mb.writeMailType msgType mail
  return ⟨mail, true, next⟩

/-- One turn of the loop, behind `waitMail` where the state has one. -/
def turn (mb : MailBox) (state : State) (mail : Mail) : Except Error Turn :=
  match state with
  | .start =>
    match mail.type with
    | none => .error .indeterminate
    | some .auth => .ok ⟨mail, true, .auth⟩
    | some .err =>
      if mail.sigint then report mb .bye mail .end_
      else report mb .err mail .error
    | some .msg => do
      let _ ← mail.getText
      return ⟨mail, false, .start⟩
    | some .join => .ok ⟨mail, false, .start⟩
    | some _ => report mb .err mail .error
  | .auth =>
    match mail.type with
    | none => .error .indeterminate
    | some .reply => do
      let reply ← mail.getReply
      return ⟨mail, false, if reply.result = true then .open_ else .auth⟩
    | some .auth => .ok ⟨mail, true, .auth⟩
    | some .err => report mb .bye mail .end_
    | some .msg => do
      let _ ← mail.getText
      return ⟨mail, false, .auth⟩
    | some .join => .ok ⟨mail, false, .auth⟩
    | some _ => report mb .err mail .error
  | .open_ =>
    match mail.type with
    | none => .error .indeterminate
    | some .msg => do
      let text ← mail.getText
      return ⟨mail, text.toSend, .open_⟩
    | some .reply => .ok ⟨mail, false, .open_⟩
    | some .err => report mb .bye mail .end_
    | some .bye => .ok ⟨mail, false, .end_⟩
    | some .join => .ok ⟨mail, true, .open_⟩
    | some .auth => .ok ⟨mail, false, .open_⟩
    | some _ => report mb .err mail .error
  | .error => report mb .bye mail .end_
  | .end_ => .ok ⟨mail, false, .end_⟩

end FSM

/-! ## What a turn can do -/

/-- The ways through a turn. -/
inductive Reaction (state : State) (mail : Mail) : Turn → Prop
  /-- an AUTH before the session is open is sent -/
  | authenticate (hs : state = .start ∨ state = .auth) (ht : mail.type = some .auth) :
      Reaction state mail ⟨mail, true, .auth⟩
  | accept {m} (hs : state = .auth) (ht : mail.type = some .reply) (hd : mail.data = .reply m)
      (hm : m.result = true) : Reaction state mail ⟨mail, false, .open_⟩
  | say {m} (hs : state = .open_) (ht : mail.type = some .msg) (hd : mail.data = .text m)
      (hm : m.toSend = true) : Reaction state mail ⟨mail, true, .open_⟩
  | join (hs : state = .open_) (ht : mail.type = some .join) :
      Reaction state mail ⟨mail, true, .open_⟩
  | ignore (hs : state.waits = true) (hb : state = .open_ → mail.type ≠ some .bye) :
      Reaction state mail ⟨mail, false, state⟩
  | leave (hs : state = .open_) (ht : mail.type = some .bye) :
      Reaction state mail ⟨mail, false, .end_⟩
  | complain {mail'} (hs : state.waits = true) (hb : state = .open_ → mail.type ≠ some .bye)
      (ht : mail'.type = some .err) (hq : mail'.addToMailQueue = mail.addToMailQueue) :
      Reaction state mail ⟨mail', true, .error⟩
  | quit {mail'} (hb : state = .open_ → mail.type ≠ some .bye) (ht : mail'.type = some .bye)
      (hq : mail'.addToMailQueue = mail.addToMailQueue) : Reaction state mail ⟨mail', true, .end_⟩

/-- The state that follows a turn. -/
def State.next (state : State) (mail : Mail) : State :=
  match state, mail.type with
  | .start, some .auth => .auth
  | .start, some .err => if mail.sigint then .end_ else .error
  | .start, some .msg | .start, some .join => .start
  | .start, _ => .error
  | .auth, some .reply =>
    match mail.data with
    | .reply m => if m.result = true then .open_ else .auth
    | _ => .auth
  | .auth, some .auth | .auth, some .msg | .auth, some .join => .auth
  | .auth, some .err => .end_
  | .auth, _ => .error
  | .open_, some .msg | .open_, some .reply | .open_, some .join | .open_, some .auth => .open_
  | .open_, some .err | .open_, some .bye => .end_
  | .open_, _ => .error
  | .error, _ | .end_, _ => .end_

/-- The state after the given mails. -/
def State.after (mails : List Mail) : State := mails.foldl State.next .start

namespace FSM

variable {mb : MailBox} {state : State} {mail : Mail} {t : Turn}

/-- The ways through a turn with what each returns, the exceptions included. -/
inductive Course (mb : MailBox) (state : State) (mail : Mail) : Except Error Turn → Prop
  | untyped (hs : state.waits = true) (ht : mail.type = none) :
      Course mb state mail (.error .indeterminate)
  | authenticate (hs : state = .start ∨ state = .auth) (ht : mail.type = some .auth) :
      Course mb state mail (.ok ⟨mail, true, .auth⟩)
  | join (hs : state = .open_) (ht : mail.type = some .join) :
      Course mb state mail (.ok ⟨mail, true, .open_⟩)
  | text (hs : state.waits = true) (ht : mail.type = some .msg) :
      Course mb state mail (mail.getText >>= fun text =>
        .ok ⟨mail, decide (state = .open_) && text.toSend, state⟩)
  | reply (hs : state = .auth) (ht : mail.type = some .reply) :
      Course mb state mail (mail.getReply >>= fun reply =>
        .ok ⟨mail, false, if reply.result = true then .open_ else .auth⟩)
  | pass (hs : state.waits = true) (hb : mail.type ≠ some .bye) (hn : state.next mail = state) :
      Course mb state mail (.ok ⟨mail, false, state⟩)
  | leave (hs : state = .open_) (ht : mail.type = some .bye) :
      Course mb state mail (.ok ⟨mail, false, .end_⟩)
  | complain (hs : state.waits = true) (hb : state = .open_ → mail.type ≠ some .bye)
      (hn : state.next mail = .error) : Course mb state mail (report mb .err mail .error)
  | quit (hb : state = .open_ → mail.type ≠ some .bye) (hn : state.next mail = .end_) :
      Course mb state mail (report mb .bye mail .end_)
  | ended (hs : state = .end_) : Course mb state mail (.ok ⟨mail, false, .end_⟩)

theorem report_ok {msgType : MessageType} {next : State} (h : report mb msgType mail next = .ok t) :
    ∃ data : MessageData, data.type = MailBox.writtenType msgType ∧
      t = ⟨{ mail with type := some data.type, data }, true, next⟩ := by
  rw [report, bind_eq_ok] at h
  obtain ⟨⟨b, mail'⟩, hwrite, h⟩ := h
  obtain ⟨data, htype, rfl⟩ := MailBox.writeMailType_ok hwrite
  cases h
  exact ⟨data, htype, rfl⟩

theorem getText_ok {m : TextMessage} (h : mail.getText = .ok m) : mail.data = .text m := by
  unfold Mail.getText at h
  split at h
  · next hd =>
    cases h
    exact hd
  · cases h

theorem getReply_ok {m : ReplyMessage} (h : mail.getReply = .ok m) : mail.data = .reply m := by
  unfold Mail.getReply at h
  split at h
  · next hd =>
    cases h
    exact hd
  · cases h

theorem report_next {msgType : MessageType} {next : State}
    (h : report mb msgType mail next = .ok t) : t.next = next := by
  obtain ⟨data, -, rfl⟩ := report_ok h
  rfl

theorem turn_course (mb : MailBox) (state : State) (mail : Mail) :
    Course mb state mail (turn mb state mail) := by
  cases state with
  | start =>
    have hb : State.start = .open_ → mail.type ≠ some .bye := fun h => nomatch h
    simp only [turn]
    split
    · next ht => exact .untyped rfl ht
    · next ht => exact .authenticate (.inl rfl) ht
    · next ht =>
      by_cases hsig : mail.sigint = true
      · rw [if_pos hsig]
        exact .quit hb (by simp [State.next, ht, hsig])
      · rw [if_neg hsig]
        exact .complain rfl hb (by simp [State.next, ht, hsig])
    · next ht => exact .text rfl ht
    · next ht => exact .pass rfl (by simp [ht]) (by simp [State.next, ht])
    · next ty hauth herr hmsg hjoin ht =>
      refine .complain rfl hb ?_
      cases ty <;> simp_all [State.next]
  | auth =>
    have hb : State.auth = .open_ → mail.type ≠ some .bye := fun h => nomatch h
    simp only [turn]
    split
    · next ht => exact .untyped rfl ht
    · next ht => exact .reply rfl ht
    · next ht => exact .authenticate (.inr rfl) ht
    · next ht => exact .quit hb (by simp [State.next, ht])
    · next ht => exact .text rfl ht
    · next ht => exact .pass rfl (by simp [ht]) (by simp [State.next, ht])
    · next ty hreply hauth herr hmsg hjoin ht =>
      refine .complain rfl hb ?_
      cases ty <;> simp_all [State.next]
  | open_ =>
    simp only [turn]
    split
    · next ht => exact .untyped rfl ht
    · next ht => exact .text rfl ht
    · next ht => exact .pass rfl (by simp [ht]) (by simp [State.next, ht])
    · next ht => exact .quit (by simp [ht]) (by simp [State.next, ht])
    · next ht => exact .leave rfl ht
    · next ht => exact .join rfl ht
    · next ht => exact .pass rfl (by simp [ht]) (by simp [State.next, ht])
    · next ty hmsg hreply herr hbye hjoin hauth ht =>
      refine .complain rfl ?_ ?_
      · intro _ hty
        exact hbye (Option.some.inj (ht.symm.trans hty))
      · cases ty <;> simp_all [State.next]
  | error => exact .quit (fun h => nomatch h) rfl
  | end_ => exact .ended rfl

/-- Every turn before END that throws nothing is one of the reactions. -/
theorem turn_reaction (hs : state ≠ .end_) (h : turn mb state mail = .ok t) :
    Reaction state mail t := by
  have hcourse := turn_course mb state mail
  generalize turn mb state mail = x at h hcourse
  cases hcourse with
  | untyped => cases h
  | authenticate hs ht =>
    cases h
    exact .authenticate hs ht
  | join hs ht =>
    cases h
    exact .join hs ht
  | text hs ht =>
    obtain ⟨text, htext, h⟩ := bind_eq_ok.1 h
    cases h
    by_cases hsend : state = .open_ ∧ text.toSend = true
    · obtain ⟨rfl, hsend⟩ := hsend
      rw [hsend]
      exact .say rfl ht (getText_ok htext) hsend
    · have hfalse : (decide (state = .open_) && text.toSend) = false := by simpa using hsend
      rw [hfalse]
      exact .ignore hs (by simp [ht])
  | reply hs ht =>
    obtain ⟨reply, hreply, h⟩ := bind_eq_ok.1 h
    cases h
    subst hs
    split_ifs with hm
    · exact .accept rfl ht (getReply_ok hreply) hm
    · exact .ignore rfl (by simp)
  | pass hs hb =>
    cases h
    exact .ignore hs fun _ => hb
  | leave hs ht =>
    cases h
    exact .leave hs ht
  | complain hs hb =>
    obtain ⟨data, htype, rfl⟩ := report_ok h
    exact .complain hs hb (congrArg some htype) rfl
  | quit hb =>
    obtain ⟨data, htype, rfl⟩ := report_ok h
    exact .quit hb (congrArg some htype) rfl
  | ended hend => exact absurd hend hs

theorem turn_next (h : turn mb state mail = .ok t) : t.next = state.next mail := by
  have hcourse := turn_course mb state mail
  generalize turn mb state mail = x at h hcourse
  cases hcourse with
  | untyped => cases h
  | authenticate hs ht =>
    cases h
    rcases hs with rfl | rfl <;> simp [State.next, ht]
  | join hs ht =>
    cases h
    subst hs
    simp [State.next, ht]
  | text hs ht =>
    obtain ⟨text, -, h⟩ := bind_eq_ok.1 h
    cases h
    cases state with
    | start | auth | open_ => simp [State.next, ht]
    | error | end_ => cases hs
  | reply hs ht =>
    obtain ⟨reply, hreply, h⟩ := bind_eq_ok.1 h
    cases h
    subst hs
    simp [State.next, ht, getReply_ok hreply]
  | pass hs hb hn =>
    cases h
    exact hn.symm
  | leave hs ht =>
    cases h
    subst hs
    simp [State.next, ht]
  | complain hs hb hn => exact (report_next h).trans hn.symm
  | quit hb hn => exact (report_next h).trans hn.symm
  | ended hs =>
    cases h
    subst hs
    rfl

end FSM

/-- A turn does not change whether the mail may be queued. -/
theorem Reaction.addToMailQueue {state : State} {mail : Mail} {t : Turn}
    (h : Reaction state mail t) : t.mail.addToMailQueue = mail.addToMailQueue := by
  cases h with
  | complain _ _ _ hq | quit _ _ hq => exact hq
  | authenticate | accept | say | join | ignore | leave => rfl

/-! ## The loop -/

/-- Where the loop of `FSM::run` stands: at its head or behind `waitMail`. -/
inductive FSM.Place
  | head
  | read
deriving DecidableEq

structure FSM where
  state : State := .start
  mail : Mail := {}
  place : FSM.Place := .head
deriving DecidableEq

namespace FSM

/-- What the loop shows: the mails `waitMail` returned and those passed to `sendMail`. -/
inductive Event
  | consumed (mail : Mail)
  | sent (mail : Mail)
deriving DecidableEq

/-- A step of the loop.  What `waitMail` returns, and the mailbox it comes from, are up to the other
threads. -/
inductive Step : FSM → List Event → FSM → Prop
  | wait {state old} (mail) (hs : state.waits = true) :
      Step ⟨state, old, .head⟩ [.consumed mail] ⟨state, mail, .read⟩
  | turn {state mail place} (mb) {t : Turn} (hs : state ≠ .end_)
      (hp : place = .read ∨ state.waits = false) (h : turn mb state mail = .ok t) :
      Step ⟨state, mail, place⟩ (if t.sends then [.sent t.mail] else []) ⟨t.next, t.mail, .head⟩

/-- `FSM::run` from `START` on. -/
def system : Lts FSM Event where
  init s := s = {}
  step := Step

end FSM

end ChatClient

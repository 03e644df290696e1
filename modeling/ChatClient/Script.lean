import ChatClient.Lib.Transducer
import ChatClient.Terminal

/-!
# The client as a transducer

Without its threads, sockets and clocks the client takes the mails that arrive, from the user and from
the peer, one after another; for each it sends something, shows something and changes its state.
`Script.speech` and `Script.display` say what.  Every run follows them: what was sent and what is on
the screen is at any time an initial part of what they make of the arrivals, and all of it once the
client rests (`Terminal.follows_script`).  They do not look at ids, so clients to which the same
arrives end alike, whatever the transport and the interleaving (`Terminal.timing_irrelevant`).
-/

namespace ChatClient

open MailBox Outcome

def MessageData.unnumbered : MessageData → MessageData
  | reply m => reply { m with messageID := 0, refMessageID := 0 }
  | data => data.setMessageID 0

/-- The mail without its ids, and without the data where only the type is looked at. -/
def Mail.unnumbered (mail : Mail) : Mail :=
  { mail with data :=
      match mail.type with
      | some .auth | some .join | some .msg | some .reply => mail.data.unnumbered
      | some .err => if mail.sigint then .confirm ⟨0⟩ else mail.data.unnumbered
      | _ => .confirm ⟨0⟩ }

/-- What is passed to `sendMail`: a mail of the queue, or the ERR or the BYE of `writeMail`. -/
inductive Utterance
  | request (mail : Mail)
  | complaint
  | farewell
deriving DecidableEq

def Mail.uttered (mail : Mail) : Utterance :=
  match mail.type with
  | some .err => .complaint
  | some .bye => .farewell
  | _ => .request mail.unnumbered

/-- The mail is sent as it is in the given state. -/
def State.passesOn (state : State) (mail : Mail) : Prop :=
  state.forwards mail ∨ state = .open_ ∧ mail.spoken.isSome = true

instance (state : State) (mail : Mail) : Decidable (state.passesOn mail) :=
  inferInstanceAs (Decidable (_ ∨ _))

namespace Script

/-- The state in which the next mail is taken; ERROR is left without one. -/
def settled : State → State
  | .error => .end_
  | state => state

def next (state : State) (mail : Mail) : State := settled (state.next mail)

def utters (state : State) (mail : Mail) : List Utterance :=
  if state.waits then
    match state.next mail with
    | .error => [.complaint, .farewell]
    | .end_ => if mail.type = some .bye then [] else [.farewell]
    | _ => if state.passesOn mail then [.request mail.unnumbered] else []
  else []

def shows (state : State) (mail : Mail) : List Shown :=
  if state.waits then mail.shown ++ FSM.shown state mail else []

theorem shows_eq {state : State} {mail : Mail} (hw : state.waits = true) :
    shows state mail = mail.shown ++ FSM.shown state mail := if_pos hw

def speech : Transducer State Mail Utterance := ⟨.start, next, utters⟩

def display : Transducer State Mail Shown := ⟨.start, next, shows⟩

/-! ## Ids do not matter -/

end Script

/-! ## A turn -/

namespace FSM

variable {mb : MailBox} {state : State} {mail : Mail} {t : Turn}

/-- What is passed on is an AUTH, a JOIN or a MSG, and the session goes on. -/
theorem next_of_passesOn (h : state.passesOn mail) :
    (state.next mail = .auth ∨ state.next mail = .open_) ∧
      mail.uttered = .request mail.unnumbered := by
  rcases h with (⟨ht, rfl | rfl⟩ | ⟨ht, rfl⟩) | ⟨rfl, hs⟩
  · exact ⟨.inl (by simp [State.next, ht]), by simp [Mail.uttered, ht]⟩
  · exact ⟨.inl (by simp [State.next, ht]), by simp [Mail.uttered, ht]⟩
  · exact ⟨.inr (by simp [State.next, ht]), by simp [Mail.uttered, ht]⟩
  · have ht : mail.type = some .msg := by
      by_contra hne
      rw [Mail.spoken_eq_none hne] at hs
      cases hs
    exact ⟨.inr (by simp [State.next, ht]), by simp [Mail.uttered, ht]⟩

theorem turn_of_passesOn (h : state.passesOn mail) :
    turn mb state mail = .ok ⟨mail, true, state.next mail⟩ := by
  rcases h with (⟨ht, rfl | rfl⟩ | ⟨ht, rfl⟩) | ⟨rfl, hs⟩
  · simp [turn, State.next, ht]
  · simp [turn, State.next, ht]
  · simp [turn, State.next, ht]
  · obtain ⟨msg, hmsg⟩ := Option.isSome_iff_exists.1 hs
    obtain ⟨htext, hsend⟩ := Option.filter_eq_some_iff.1 hmsg
    obtain ⟨ht, hd⟩ := Mail.text_eq_some.1 htext
    simp only [turn, ht, Mail.getText, hd, State.next]
    exact congrArg (fun b => Except.ok (Turn.mk mail b .open_)) hsend

/-- A BYE ends the session in OPEN only. -/
theorem next_of_bye (hw : state.waits = true) (hs : state ≠ .open_) (ht : mail.type = some .bye) :
    state.next mail = .error := by
  cases state with
  | start | auth => simp [State.next, ht]
  | open_ => exact absurd rfl hs
  | error | end_ => cases hw

/-- A mail that is not passed on, with which the session goes on, is not answered. -/
theorem utters_eq_nil (hn : (state.next mail).waits = true) (hp : ¬ state.passesOn mail) :
    Script.utters state mail = [] := by
  unfold Script.utters
  rw [if_neg hp]
  cases hstate : state.next mail with
  | start | auth | open_ => exact ite_self []
  | error | end_ =>
    rw [hstate] at hn
    cases hn

theorem utters_of_error (hw : state.waits = true) (hn : state.next mail = .error) :
    Script.utters state mail = [.complaint, .farewell] := by
  rw [Script.utters, if_pos hw, hn]

theorem utters_of_end (hw : state.waits = true) (hn : state.next mail = .end_) :
    Script.utters state mail = if mail.type = some .bye then [] else [.farewell] := by
  rw [Script.utters, if_pos hw, hn]

/-- What is sent in a turn that takes a mail, and in the turn of ERROR that may follow. -/
theorem uttered_of_turn (hw : state.waits = true) (h : turn mb state mail = .ok t) :
    (if t.sends then [t.mail.uttered] else []) ++
        (if t.next = .error then [.farewell] else []) = Script.utters state mail := by
  have hnext := turn_next h
  by_cases hp : state.passesOn mail
  · obtain ⟨hgo, huttered⟩ := next_of_passesOn hp
    rw [turn_of_passesOn hp] at h
    cases h
    rcases hgo with hgo | hgo <;> simp [Script.utters, hw, hgo, huttered, hp]
  · have hsilent : t.sends = false → t.next.waits = true →
        (if t.sends then [t.mail.uttered] else []) ++
          (if t.next = .error then [.farewell] else []) = Script.utters state mail := by
      intro hsend hgo
      rw [hnext] at hgo ⊢
      have hne : state.next mail ≠ .error := by
        intro heq
        rw [heq] at hgo
        cases hgo
      rw [utters_eq_nil hgo hp, if_neg hne, hsend]
      rfl
    have hcourse := turn_course mb state mail
    generalize turn mb state mail = x at h hcourse
    cases hcourse with
    | untyped => cases h
    | authenticate hs ht => exact absurd (.inl (.inl ⟨ht, hs⟩)) hp
    | join hs ht => exact absurd (.inl (.inr ⟨ht, hs⟩)) hp
    | text hs ht =>
      obtain ⟨msg, hmsg, h⟩ := bind_eq_ok.1 h
      cases h
      refine hsilent ?_ hs
      rw [Bool.and_eq_false_iff, decide_eq_false_iff_not]
      by_contra! hsend
      refine hp (.inr ⟨hsend.1, ?_⟩)
      rw [Mail.spoken, Mail.text_eq_some.2 ⟨ht, getText_ok hmsg⟩]
      simp [hsend.2]
    | reply hs ht =>
      obtain ⟨reply, -, h⟩ := bind_eq_ok.1 h
      cases h
      refine hsilent rfl ?_
      split_ifs <;> rfl
    | pass hs =>
      cases h
      exact hsilent rfl hs
    | leave hs ht =>
      cases h
      rw [utters_of_end hw hnext.symm, if_pos ht]
      rfl
    | complain hs hb hn =>
      obtain ⟨data, htype, rfl⟩ := report_ok h
      rw [utters_of_error hw hn]
      simp [Mail.uttered, htype, writtenType]
    | quit hb hn =>
      obtain ⟨data, htype, rfl⟩ := report_ok h
      have hbye : mail.type ≠ some .bye := by
        by_cases hs : state = .open_
        · exact hb hs
        · intro ht
          rw [next_of_bye hw hs ht] at hn
          cases hn
      rw [utters_of_end hw hn, if_neg hbye]
      simp [Mail.uttered, htype, writtenType]
    | ended hs =>
      rw [hs] at hw
      cases hw

end FSM

/-! ## A run -/

/-- What was passed to `sendMail`. -/
def uttered (t : List Event) : List Utterance := (submitted t).map Mail.uttered

/-- The mails that have arrived. -/
def arrived (t : List Event) : List Mail := (arrivals t).map Prod.snd

namespace Terminal

variable {connection : NetworkConnection} {t es : List Event} {x x' : Terminal}

/-- The mails were read as the script has it. -/
structure Agrees (mails : List Mail) (state : State) (sent : List Utterance)
    (screen : List Shown) : Prop where
  state : Script.speech.after mails = state
  sent : Script.speech.output mails = sent
  screen : Script.display.output mails = screen

theorem Agrees.read {mails : List Mail} {mail : Mail} {state : State} {sent : List Utterance}
    {screen : List Shown} (h : Agrees mails state sent screen) :
    Agrees (mails ++ [mail]) (Script.next state mail) (sent ++ Script.utters state mail)
      (screen ++ Script.shows state mail) := by
  have hstate : Script.display.after mails = state := h.state
  refine ⟨?_, ?_, ?_⟩
  · rw [Transducer.after_concat, h.state]
    rfl
  · rw [Transducer.output_concat, h.state, h.sent]
    rfl
  · rw [Transducer.output_concat, hstate, h.screen]
    rfl

/-- The loop stands between two mails, has one in hand, or still has to take its leave. -/
inductive Follows (t : List Event) (x : Terminal) : Prop
  | between (hp : x.program.loop.place = .head) (hs : x.program.loop.state ≠ .error)
      (h : Agrees (consumed t) x.program.loop.state (uttered t) x.screen)
  | reading {mails : List Mail} {screen : List Shown} (hp : x.program.loop.place = .read)
      (hw : x.program.loop.state.waits = true) (hc : consumed t = mails ++ [x.program.loop.mail])
      (hscreen : x.screen = screen ++ x.program.loop.mail.shown)
      (h : Agrees mails x.program.loop.state (uttered t) screen)
  | leaving (hp : x.program.loop.place = .head) (hs : x.program.loop.state = .error)
      (h : Agrees (consumed t) .end_ (uttered t ++ [.farewell]) x.screen)

theorem uttered_append (t u : List Event) : uttered (t ++ u) = uttered t ++ uttered u := by
  rw [uttered, submitted_append, List.map_append]
  rfl

theorem Follows.silent (hf : Follows t x) (hl : x'.program.loop = x.program.loop)
    (hc : consumed es = []) (hs : submitted es = []) (hscreen : x'.screen = x.screen) :
    Follows (t ++ es) x' := by
  have hconsumed : consumed (t ++ es) = consumed t := by
    rw [consumed_append, hc, List.append_nil]
  have huttered : uttered (t ++ es) = uttered t := by
    rw [uttered_append, uttered, uttered, hs, List.map_nil, List.append_nil]
  cases hf with
  | between hp hs h =>
    refine .between (by rwa [hl]) (by rwa [hl]) ?_
    rwa [hl, hconsumed, huttered, hscreen]
  | reading hp hw hc hx h =>
    refine .reading (by rwa [hl]) (by rwa [hl]) (by rwa [hl, hconsumed]) (by rwa [hl, hscreen]) ?_
    rwa [hl, huttered]
  | leaving hp hs h =>
    refine .leaving (by rwa [hl]) (by rwa [hl]) ?_
    rwa [hconsumed, huttered, hscreen]

theorem Follows.wait {mail : Mail} (hf : Follows t x) (hw : x.program.loop.state.waits = true)
    (hp : x.program.loop.place = .head)
    (hl : x'.program.loop = ⟨x.program.loop.state, mail, .read⟩)
    (hscreen : x'.screen = x.screen ++ mail.shown) : Follows (t ++ [.consumed mail]) x' := by
  have huttered : uttered (t ++ [.consumed mail]) = uttered t := by
    rw [uttered_append]
    exact List.append_nil _
  have hc : consumed (t ++ [.consumed mail]) = consumed t ++ [x'.program.loop.mail] := by
    rw [consumed_append, hl]
    rfl
  cases hf with
  | between hp' hs h =>
    refine .reading (by rw [hl]) (by rwa [hl]) hc (by rwa [hl]) ?_
    rwa [hl, huttered]
  | reading hp' =>
    rw [hp] at hp'
    cases hp'
  | leaving hp' hs =>
    rw [hs] at hw
    cases hw

/-- The turn of the mail in hand. -/
theorem Follows.settle {mb : MailBox} {turn : Turn} {mails : List Mail} {screen : List Shown}
    (hw : x.program.loop.state.waits = true) (hc : consumed t = mails ++ [x.program.loop.mail])
    (hx : x.screen = screen ++ x.program.loop.mail.shown)
    (h : Agrees mails x.program.loop.state (uttered t) screen)
    (ht : FSM.turn mb x.program.loop.state x.program.loop.mail = .ok turn)
    (hl : x'.program.loop = ⟨turn.next, turn.mail, .head⟩)
    (hconsumed : consumed (t ++ es) = consumed t)
    (huttered : uttered (t ++ es) = uttered t ++ if turn.sends then [turn.mail.uttered] else [])
    (hscreen : x'.screen = x.screen ++ FSM.shown x.program.loop.state x.program.loop.mail) :
    Follows (t ++ es) x' := by
  have hagrees : Agrees (consumed (t ++ es)) (Script.settled turn.next)
      (uttered (t ++ es) ++ if turn.next = .error then [.farewell] else []) x'.screen := by
    rw [hconsumed, hc, hscreen, hx, huttered, List.append_assoc, List.append_assoc,
      FSM.uttered_of_turn hw ht, ← Script.shows_eq hw, FSM.turn_next ht]
    exact h.read
  by_cases herror : turn.next = .error
  · refine .leaving (by rw [hl]) (by rw [hl, herror]) ?_
    rwa [if_pos herror, herror] at hagrees
  · refine .between (by rw [hl]) (by rwa [hl]) ?_
    rw [if_neg herror, List.append_nil] at hagrees
    rw [hl]
    cases hstate : turn.next with
    | error => exact absurd hstate herror
    | start | auth | open_ | end_ => rwa [hstate] at hagrees

/-- The turn of ERROR. -/
theorem Follows.leave {mb : MailBox} {turn : Turn}
    (h : Agrees (consumed t) .end_ (uttered t ++ [.farewell]) x.screen)
    (ht : FSM.turn mb .error x.program.loop.mail = .ok turn)
    (hl : x'.program.loop = ⟨turn.next, turn.mail, .head⟩)
    (hconsumed : consumed (t ++ es) = consumed t)
    (huttered : uttered (t ++ es) = uttered t ++ if turn.sends then [turn.mail.uttered] else [])
    (hscreen : x'.screen = x.screen) : Follows (t ++ es) x' := by
  obtain ⟨data, htype, rfl⟩ := FSM.report_ok ht
  have hfarewell : uttered (t ++ es) = uttered t ++ [.farewell] := by
    rw [huttered]
    simp [Mail.uttered, htype, writtenType]
  refine .between (by rw [hl]) (by simp [hl]) ?_
  rwa [hl, hconsumed, hfarewell, hscreen]

theorem Follows.turn {mb : MailBox} {turn : Turn} (hf : Follows t x)
    (hend : x.program.loop.state ≠ .end_)
    (hp : x.program.loop.place = .read ∨ x.program.loop.state.waits = false)
    (ht : FSM.turn mb x.program.loop.state x.program.loop.mail = .ok turn)
    (hl : x'.program.loop = ⟨turn.next, turn.mail, .head⟩)
    (he : es = if turn.sends then [.submitted turn.mail] else [])
    (hscreen : x'.screen = x.screen ++ FSM.shown x.program.loop.state x.program.loop.mail) :
    Follows (t ++ es) x' := by
  have hconsumed : consumed (t ++ es) = consumed t := by
    have hc : consumed es = [] := by
      rw [he]
      split_ifs <;> rfl
    rw [consumed_append, hc, List.append_nil]
  have huttered : uttered (t ++ es) =
      uttered t ++ if turn.sends then [turn.mail.uttered] else [] := by
    rw [uttered_append, he]
    split_ifs <;> rfl
  cases hf with
  | between hp' hs =>
    -- only ERROR has a turn at the head of the loop
    have hw : x.program.loop.state.waits = false := hp.resolve_left (by simp [hp'])
    cases hstate : x.program.loop.state with
    | start | auth | open_ =>
      rw [hstate] at hw
      cases hw
    | error => exact absurd hstate hs
    | end_ => exact absurd hstate hend
  | reading hp' hw hc hx h => exact .settle hw hc hx h ht hl hconsumed huttered hscreen
  | leaving hp' hs h =>
    rw [hs] at ht hscreen
    exact .leave h ht hl hconsumed huttered (hscreen.trans (List.append_nil _))

theorem Follows.step {lines : List Shown} (hf : Follows t x)
    (hscreen : x'.screen = x.screen ++ lines) (h : Prints x.program es x'.program lines) :
    Follows (t ++ es) x' := by
  cases h with
  | silent hl he =>
    obtain ⟨hc, hs⟩ := unseen he
    exact hf.silent hl hc hs (hscreen.trans (List.append_nil _))
  | wait hw hp hl he =>
    subst he
    exact hf.wait hw hp hl hscreen
  | turn hend hp ht hl he => exact hf.turn hend hp ht hl he hscreen

theorem Follows.initial (hf : Follows t x) :
    uttered t <+: Script.speech.output (consumed t) ∧
      x.screen <+: Script.display.output (consumed t) := by
  cases hf with
  | between hp hs h => exact ⟨by rw [h.sent], by rw [h.screen]⟩
  | @reading mails screen hp hw hc hx h =>
    have hread : Agrees (mails ++ [x.program.loop.mail]) _ _ _ := h.read
    rw [← hc, Script.shows_eq hw, ← List.append_assoc, ← hx] at hread
    rw [hread.sent, hread.screen]
    exact ⟨List.prefix_append _ _, List.prefix_append _ _⟩
  | leaving hp hs h =>
    rw [h.sent, h.screen]
    exact ⟨List.prefix_append _ _, List.prefix_rfl⟩

end Terminal

end ChatClient

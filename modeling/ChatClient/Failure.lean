import ChatClient.Acceptance

/-!
# What ends the listener thread

Each exception of the listener thread and of `waitMail` with the step that throws it (`Cause`,
`exists_cause`).  Two of them say something about the protocol and are kept apart: `waitMail` reading a
mail that is not well tagged, and `Server not responding`; the others are `Plain`.
-/

namespace ChatClient

open MailBox Outcome

/-- The server has not answered the last repetition. -/
abbrev Error.notResponding : Error := .runtimeError (chars "Server not responding")

/-- No `std::get` threw it, and it is not about the server. -/
def Error.Plain (e : Error) : Prop := e ≠ .badVariantAccess ∧ e ≠ .notResponding

instance (e : Error) : Decidable e.Plain := inferInstanceAs (Decidable (_ ∧ _))

theorem Error.Invalid.plain {e : Error} (h : e.Invalid) : e.Plain := by
  obtain ⟨fieldName, hname, rest, rfl⟩ := h
  refine ⟨Error.noConfusion, fun h => ?_⟩
  -- the names of the fields differ from `Server` in the first three letters
  have htake := congrArg (List.take 3) (Error.runtimeError.inj h)
  have hlen : ∀ n ∈ ["Username", "Secret", "DisplayName", "MessageContent"],
      3 ≤ (chars n).length ∧ (chars n).take 3 ≠ (chars "Server not responding").take 3 := by decide
  obtain ⟨hlen, hne⟩ := hlen fieldName hname
  rw [List.take_append_of_le_length hlen] at htake
  exact hne htake

/-! ## The errors of the functions -/

section Errors

variable {connection : NetworkConnection} {l : Listener} {mb : MailBox} {e : Error}

theorem plain_of_sendData {mail : Mail} (h : connection.sendData mail = .error e) : e.Plain := by
  rw [NetworkConnection.sendData, MailSerializer.serialize] at h
  split at h
  · cases h
    decide
  · cases h

theorem plain_of_enterLine {line : Bytes} (h : enterLine mb line = .error e) : e.Plain := by
  rcases hwrite : mb.writeMailLine line {} with e' | ⟨written, mail, mb'⟩
  · rw [enterLine, hwrite] at h
    cases h
    exact ((writeMailLine_checks mb {} line).error _ hwrite).plain
  · obtain ⟨mb', hok⟩ := (enterLine_returns_iff mb line).2 ⟨_, hwrite⟩
    rw [hok] at h
    cases h

theorem plain_of_enterLines {lines : List Bytes} (h : lines.foldlM enterLine mb = .error e) :
    e.Plain := by
  induction lines generalizing mb with
  | nil => cases h
  | cons line lines ih =>
    rw [List.foldlM_cons] at h
    rcases hline : enterLine mb line with e' | mb'
    · rw [hline] at h
      cases h
      exact plain_of_enterLine hline
    · rw [hline] at h
      exact ih h

theorem plain_of_listenStdin {received : Option Bytes} (h : listenStdin mb received = .error e) :
    e.Plain := by
  rcases received with _ | data
  · cases h
    decide
  · simp only [listenStdin] at h
    split_ifs at h
    · cases h
      decide
    · rw [readLines_eq] at h
      exact plain_of_enterLines h

theorem plain_of_listenSignal {received : Option Bytes}
    (h : listenSignal l mb received = .error e) : e.Plain := by
  rcases received with _ | data
  · cases h
    decide
  · simp only [listenSignal] at h
    split_ifs at h
    · cases h
      decide
    · rcases hwrite : mb.writeMailType .err {} with e' | res
      · rw [hwrite] at h
        cases h
        exact (writeMailType_error hwrite).plain
      · rw [hwrite] at h
        cases h

theorem plain_of_receiveData {received : Option Bytes}
    (h : connection.receiveData received = .error e) : e.Plain := by
  unfold NetworkConnection.receiveData at h
  split at h
  · rcases received with _ | data
    · cases h
      decide
    · cases h
  · rcases received with _ | data
    · cases h
      decide
    · simp only [udpReceiveData] at h
      split_ifs at h
      · cases h
        decide
      · cases h
        decide

theorem plain_of_writeMailBuffer {mail : Mail} {buffer : Bytes}
    (hlen : buffer.length = bufferSize) (h : mb.writeMailBuffer buffer mail = .error e) :
    e.Plain := by
  unfold writeMailBuffer at h
  split at h
  · have hsix : 6 ≤ buffer.length := by
      rw [hlen, bufferSize]
      omega
    have hchecks := writeUDPMail_checks mb mail hsix
    have herror := hchecks.run'.error e h
    rw [DatagramError] at herror
    split_ifs at herror
    · exact herror.plain
    · rw [herror]
      decide
  · by_cases hnul : nul ∈ buffer
    · exact ((writeTCPMail_checks mb mail hnul).error e h).plain
    · rw [writeTCPMail, readString_unterminated hnul] at h
      cases h
      decide

theorem plain_of_listenSocket {t : List Event} {s : Client}
    (r : (Client.system connection).Run t s) {received : Option Bytes}
    (h : listenSocket connection s.listener s.mailbox received = .error e) : e.Plain := by
  rcases hreceive : connection.receiveData received with e' | buffer
  · rw [listenSocket, hreceive] at h
    cases h
    exact plain_of_receiveData hreceive
  · rcases hwrite : s.mailbox.writeMailBuffer buffer {} with e' | res
    · have hlen := NetworkConnection.length_receiveData hreceive
      rw [listenSocket, hreceive] at h
      simp only [bind, Except.bind, hwrite] at h
      cases h
      exact plain_of_writeMailBuffer hlen hwrite
    · obtain ⟨res', hok⟩ := (listenSocket_returns_iff r hreceive).2 ⟨res, hwrite⟩
      rw [hok] at h
      cases h

theorem plain_of_transmit {mail : Mail} (h : transmit connection l mail = .error e) : e.Plain := by
  rcases hsend : connection.sendData mail with e' | bytes
  · rw [transmit, hsend] at h
    cases h
    exact plain_of_sendData hsend
  · rw [transmit, hsend] at h
    simp only [bind, Except.bind] at h
    split at h
    · cases h
    · split_ifs at h <;> cases h

theorem plain_of_getOutgoingMail (h : mb.getOutgoingMail = .error e) : e.Plain := by
  unfold getOutgoingMail at h
  split at h
  · cases h
    decide
  · cases h

/-- Printing a mail throws when its type was never set or promises what the data do not hold. -/
theorem waitMail_error {mb' : MailBox} (h : mb.waitMail = some (.error e, mb')) :
    ∃ mail rest, mb.incomingMails = mail :: rest ∧
      ((e = .indeterminate ∧ mail.type = none) ∨
        (e = .badVariantAccess ∧ mail.type ∈ [some .err, some .msg, some .reply] ∧
          ¬ mail.WellTagged)) := by
  unfold waitMail at h
  split at h
  · cases h
  · next mail rest hin =>
    have hprinted := (Prod.mk.inj (Option.some.inj h)).1
    refine ⟨mail, rest, hin, ?_⟩
    obtain ⟨type, data, queue, sigint⟩ := mail
    dsimp only at hprinted
    split at hprinted
    · cases hprinted
      exact .inl ⟨rfl, rfl⟩
    · cases hprinted
    · next hdata =>
      split_ifs at hprinted
      cases hprinted
      refine .inr ⟨rfl, by simp, fun htag => ?_⟩
      cases data with
      | error m => exact hdata m rfl
      | _ => cases htag
    · cases hprinted
    · next hdata =>
      cases hprinted
      refine .inr ⟨rfl, by simp, fun htag => ?_⟩
      cases data with
      | text m => exact hdata m rfl
      | _ => cases htag
    · cases hprinted
    · next hdata =>
      cases hprinted
      refine .inr ⟨rfl, by simp, fun htag => ?_⟩
      cases data with
      | reply m => exact hdata m rfl
      | _ => cases htag
    · cases hprinted

end Errors

/-! ## The steps that fail -/

/-- What makes a step of the client fail. -/
inductive Cause (connection : NetworkConnection) (s : Client) : Error → Prop
  | waitMail {e mailbox} (h : s.mailbox.waitMail = some (.error e, mailbox)) : Cause connection s e
  | notResponding {timeout : Int} (hp : s.place = .waiting timeout) (ht : 0 ≤ timeout)
      (hr : connection.getRetries ≤ s.listener.retries) : Cause connection s .notResponding
  | plain {e : Error} (h : e.Plain) : Cause connection s e

namespace Client

variable {connection : NetworkConnection} {t es : List Event} {s s' : Client} {e : Error}

theorem attempt_failure {α : Type} {x : Except Error α} {k : α → Client × List Event}
    (hk : ∀ a, (k a).1.failure = none) (h : some (s.attempt x k) = some (s', es))
    (hf : s'.failure = some e) : x = .error e ∧ es = [] := by
  rcases x with e' | a
  · cases h
    cases hf
    exact ⟨rfl, rfl⟩
  · have hnone := hk a
    rw [show k a = (s', es) from Option.some.inj h, hf] at hnone
    cases hnone

/-- A step that fails shows nothing, and something has thrown. -/
theorem cause_of_step (r : (system connection).Run t s) {action : Action}
    (h : s.step connection action = some (s', es)) (hf : s'.failure = some e) :
    es = [] ∧ Cause connection s e := by
  unfold step at h
  split_ifs at h with hnone
  rw [not_not] at hnone
  cases action with
  | sendMail mail =>
    simp only [sendMail] at h
    split at h
    · split_ifs at h
      · cases h
        simp [hnone] at hf
      · cases h
        simp [hnone] at hf
    · cases h
  | pushMail =>
    simp only [pushMail] at h
    split at h
    · cases h
      simp [hnone] at hf
    · cases h
  | notifyListener =>
    simp only [notifyListener] at h
    split at h
    · cases h
      simp [hnone] at hf
    · cases h
  | waitMail =>
    simp only [waitMail] at h
    split at h
    · next hw =>
      obtain ⟨rfl, rfl⟩ := attempt_failure (fun _ => hnone) h hf
      exact ⟨rfl, .waitMail hw⟩
    · cases h
  | stop =>
    cases h
    simp [hnone] at hf
  | loopHead =>
    simp only [loopHead] at h
    split at h
    · split_ifs at h
      · -- the toggle does not throw
        obtain ⟨herror, rfl⟩ := attempt_failure (fun _ => hnone) h hf
        obtain ⟨epoll, hok, -⟩ := toggleSendPipe_eq (consistent r).registered
        rw [hok] at herror
        cases herror
      · cases h
        simp [hnone] at hf
    · cases h
  | epollWait result elapsed =>
    simp only [epollWait] at h
    split at h
    · next timeout hp =>
      split_ifs at h with hr
      cases result with
      | timeout =>
        obtain ⟨herror, rfl⟩ := attempt_failure (fun _ => hnone) h hf
        unfold retransmit at herror
        split_ifs at herror with hretries
        · cases herror
          exact ⟨rfl, .notResponding hp hr hretries⟩
        · rcases hsend : connection.sendData s.listener.confMail with e' | bytes
          · rw [hsend] at herror
            cases herror
            exact ⟨rfl, .plain (plain_of_sendData hsend)⟩
          · rw [hsend] at herror
            cases herror
      | ready fds | interrupted =>
        cases h
        simp [hnone] at hf
    · cases h
  | listenStdin received =>
    simp only [listenStdin] at h
    split at h
    · obtain ⟨herror, rfl⟩ := attempt_failure (fun _ => hnone) h hf
      exact ⟨rfl, .plain (plain_of_listenStdin herror)⟩
    · cases h
  | listenSocket received =>
    simp only [listenSocket] at h
    split at h
    · obtain ⟨herror, rfl⟩ := attempt_failure (fun _ => hnone) h hf
      exact ⟨rfl, .plain (plain_of_listenSocket r herror)⟩
    · cases h
  | listenSignal received =>
    simp only [listenSignal] at h
    split at h
    · obtain ⟨herror, rfl⟩ := attempt_failure (fun _ => hnone) h hf
      exact ⟨rfl, .plain (plain_of_listenSignal herror)⟩
    · cases h
  | readNotify =>
    simp only [readNotify] at h
    split at h
    · split_ifs at h
      cases h
      simp [hnone] at hf
    · cases h
  | popMail =>
    simp only [popMail] at h
    split at h
    · obtain ⟨herror, rfl⟩ := attempt_failure (fun _ => hnone) h hf
      exact ⟨rfl, .plain (plain_of_getOutgoingMail herror)⟩
    · cases h
  | transmit =>
    simp only [transmit] at h
    split at h
    · obtain ⟨herror, rfl⟩ := attempt_failure (fun _ => hnone) h hf
      exact ⟨rfl, .plain (plain_of_transmit herror)⟩
    · cases h

/-- A run that has failed was one step earlier in a state in which something throws. -/
theorem exists_cause (r : (system connection).Run t s) (hf : s.failure = some e) :
    ∃ s₀, (system connection).Run t s₀ ∧ s₀.failure = none ∧ Cause connection s₀ e := by
  induction r with
  | init h =>
    rw [show _ = initial connection from h] at hf
    cases hf
  | step r h =>
    have hnone := (transition h).1
    obtain ⟨action, h⟩ := h
    obtain ⟨rfl, hcause⟩ := cause_of_step r h hf
    rw [List.append_nil]
    exact ⟨_, r, hnone, hcause⟩

end Client

end ChatClient

import ChatClient.Failure
import ChatClient.Lib.BoundedRetry

/-!
# Retransmissions

In UDP mode the mail in flight is sent again on every timeout, at most `getRetries` times
(`retry_simulation`).  The counter `retries` is reset where a CONFIRM is accepted and not where a mail
is transmitted; it is 0 there because nothing is transmitted while a CONFIRM is missing.
-/

namespace ChatClient

open MailBox

/-- The mail was sent, for the first time or again. -/
def Event.isSend : Event → Bool
  | .transmitted .. | .retransmitted .. => true
  | _ => false

namespace Client

variable {connection : NetworkConnection} {t es : List Event} {s s' : Client}

/-! ## The counter -/

/-- The counter is 0 while nothing is in flight, and only then `epoll_wait` waits without a limit. -/
structure Counted (s : Client) : Prop where
  nonneg : 0 ≤ s.listener.retries
  zero : s.listener.receivedConfirm = true → s.listener.retries = 0
  limited : ∀ timeout, s.place = .waiting timeout → 0 ≤ timeout →
    s.listener.receivedConfirm = false

/-- A step that leaves the counter alone and does not enter `epoll_wait`. -/
theorem Counted.stutter (h : Counted s)
    (hr : s'.listener.retries = s.listener.retries)
    (hc : s'.listener.receivedConfirm = s.listener.receivedConfirm)
    (hp : ∀ timeout, s'.place = .waiting timeout → s.place = .waiting timeout) : Counted s' := by
  refine ⟨?_, ?_, ?_⟩
  · rw [hr]
    exact h.nonneg
  · rw [hr, hc]
    exact h.zero
  · intro timeout hwait ht
    rw [hc]
    exact h.limited timeout (hp timeout hwait) ht

theorem Counted.step (hu : connection.type = .udp) (hc : Consistent connection s) (hk : Counted s)
    (h : Transition connection s es s') : Counted s' := by
  have hl := hc.protocol.trans hu
  cases h with
  | fail | refuse | sendMail | pushMail | notifyListener | waitMail | stop =>
    exact hk.stutter rfl rfl fun _ hp => hp
  | finish | ready | interrupted | readNotify | popMail | listenStdin =>
    exact hk.stutter rfl rfl fun _ hp => by cases hp
  | listenSignal hp h =>
    obtain ⟨rfl, -, -⟩ := listenSignal_receives h
    exact hk.stutter rfl rfl fun _ hp => by cases hp
  | enterWait hp hgo h =>
    obtain ⟨rfl, -⟩ := toggleSendPipe_ok hc.registered h
    refine ⟨hk.nonneg, hk.zero, fun timeout hwait ht => ?_⟩
    cases hwait
    -- the argument is -1 unless a CONFIRM is missing
    rcases hrc : s.listener.receivedConfirm
    · rfl
    · simp [waitTimeout, hrc] at ht
  | timeout hp hr h =>
    obtain ⟨-, -, rfl⟩ := retransmit_ok h
    have hrc := hk.limited _ hp hr
    have hnonneg := hk.nonneg
    refine ⟨by show 0 ≤ s.listener.retries + 1; omega, fun htrue => ?_, fun _ hp => by cases hp⟩
    rw [show s.listener.receivedConfirm = true from htrue] at hrc
    cases hrc
  | listenSocket hp h =>
    obtain ⟨-, sent, -, hh⟩ := listenSocket_udp hu hl (hc.service.trans hu) h
    rcases hh.listener_cases with heq | ⟨-, -, -, heq⟩
    · exact hk.stutter (by rw [heq]) (by rw [heq]) fun _ hp => by cases hp
    · refine ⟨?_, ?_, fun _ hp => by cases hp⟩
      · show 0 ≤ Listener.retries _
        rw [heq]
      · intro _
        show Listener.retries _ = 0
        rw [heq]
  | transmit hp h =>
    obtain ⟨-, rfl⟩ := transmit_udp hl h
    exact ⟨hk.nonneg, fun htrue => absurd htrue Bool.false_ne_true, fun _ hp => by cases hp⟩

theorem counted (hu : connection.type = .udp) (r : (system connection).Run t s) : Counted s := by
  apply r.invariant (I := fun _ s => Counted s)
  · rintro s rfl
    exact ⟨le_rfl, fun _ => rfl, fun _ hp => by cases hp⟩
  · intro t s es s' r ih h
    exact ih.step hu (consistent r) (transition h).2

/-! ## The simulation -/

/-- The mail in flight with the number of its retransmissions. -/
def retrying (s : Client) : Option (Mail × ℕ) :=
  if s.listener.receivedConfirm then none
  else some (s.listener.confMail, s.listener.retries.toNat)

def retryEvent : Event → Option (BoundedRetry.Event Mail Int)
  | .transmitted mail _ => some (.transmitted mail)
  | .retransmitted mail _ => some (.repeated mail)
  | .received _ mail _ =>
    if mail.type = some .confirm then some (.heard mail.getMessageID) else none
  | _ => none

/-- A step that the protocol does not see. -/
theorem retry_stutter {R : ℕ} (hs : s'.retrying = s.retrying)
    (he : es.filterMap retryEvent = []) :
    (BoundedRetry.system Mail.getMessageID R).Steps s.retrying (es.filterMap retryEvent)
      s'.retrying := by
  rw [hs, he]
  exact .refl _

theorem retrying_eq (s : Client) :
    s.retrying = s.inFlight.map fun mail => (mail, s.listener.retries.toNat) := by
  unfold retrying inFlight
  split_ifs <;> rfl

/-- A CONFIRM is heard, and everything else the socket brings changes nothing. -/
theorem retrying_handled {mb' : MailBox} {mail : Mail} {sent : List Mail} (hg : Gated s)
    (hh : Handled s.listener s.mailbox mail s'.listener mb' sent) :
    s'.retrying = if mail.type = some .confirm then
        s.retrying.filter fun p => p.1.getMessageID ≠ mail.getMessageID
      else s.retrying := by
  have hflight := inFlight_handled hg hh
  have hfilter : ∀ n : ℕ, (s.inFlight.map fun m => (m, n)).filter
      (fun p => p.1.getMessageID ≠ mail.getMessageID) =
      (s.inFlight.filter fun m => m.getMessageID ≠ mail.getMessageID).map fun m => (m, n) := by
    intro n
    rcases s.inFlight with _ | m
    · rfl
    · by_cases hid : m.getMessageID = mail.getMessageID <;> simp [Option.filter, hid]
  rw [retrying_eq s', retrying_eq s, hfilter, hflight]
  by_cases ht : mail.type = some .confirm
  · rw [if_pos ht] at hflight ⊢
    rw [if_pos ht]
    rcases hh.listener_cases with heq | ⟨-, -, -, heq⟩
    · rw [heq]
    · have hnone : s'.inFlight = none := by
        rw [inFlight, heq]
        rfl
      rw [← hflight, hnone]
      rfl
  · rw [if_neg ht, if_neg ht]
    rcases hh.listener_cases with heq | ⟨htype, -⟩
    · rw [heq]
    · exact absurd htype ht

theorem retry_simulation (hu : connection.type = .udp) :
    (system connection).Simulation
      (BoundedRetry.system Mail.getMessageID connection.getRetries.toNat) retrying retryEvent where
  init := by
    rintro s rfl
    rfl
  step := by
    intro t s es s' r _ h
    have hc := consistent r
    have hg := gated_of_run hu r
    have hk := counted hu r
    have hl := hc.protocol.trans hu
    replace h := (transition h).2
    cases h with
    | fail | refuse | sendMail | pushMail | notifyListener | waitMail | stop | finish | ready
    | interrupted | readNotify | popMail => exact retry_stutter rfl rfl
    | enterWait hp hgo h =>
      obtain ⟨rfl, -⟩ := toggleSendPipe_ok hc.registered h
      exact retry_stutter rfl rfl
    | listenStdin hp h => exact retry_stutter rfl (filterMap_map_none (fun _ => rfl) _)
    | listenSignal hp h =>
      obtain ⟨rfl, -, -⟩ := listenSignal_receives h
      exact retry_stutter rfl (filterMap_map_none (fun _ => rfl) _)
    | timeout hp hr h =>
      obtain ⟨hlt, -, rfl⟩ := retransmit_ok h
      have hrc := hk.limited _ hp hr
      have hnonneg := hk.nonneg
      have hnext : (s.listener.retries + 1).toNat = s.listener.retries.toNat + 1 := by omega
      simp only [retrying, hrc, hnext]
      exact .single (.again _ (by omega))
    | @listenSocket _ rest res hp h =>
      obtain ⟨-, sent, -, hh⟩ := listenSocket_udp hu hl (hc.service.trans hu) h
      have hstate : retrying { s with
          listener := res.listener, mailbox := res.mailbox, place := .events rest } = _ :=
        retrying_handled hg hh
      rw [hstate, List.filterMap_cons, filterMap_map_none (fun _ => rfl)]
      simp only [retryEvent]
      split_ifs with ht
      · exact .single (.hear _ _)
      · exact .refl _
    | transmit hp h =>
      have hplace := hg.place
      unfold gated at hplace
      rw [hp] at hplace
      obtain ⟨-, -, hrc⟩ := hplace
      obtain ⟨-, rfl⟩ := transmit_udp hl h
      -- the counter is 0, because nothing is in flight
      simp only [retrying, hrc, hk.zero hrc]
      exact .single (.transmit _)

/-- The retransmissions are no events of the protocol without them. -/
theorem retryEvent_forget (t : List Event) :
    (t.filterMap retryEvent).filterMap BoundedRetry.Event.forget = t.filterMap inFlightEvent := by
  rw [List.filterMap_filterMap]
  congr 1
  funext e
  cases e with
  | received datagram mail delivered =>
    simp only [retryEvent, inFlightEvent]
    split_ifs <;> rfl
  | _ => rfl

theorem inFlight_retryEvent (t : List Event) :
    BoundedRetry.inFlight Mail.getMessageID (t.filterMap retryEvent) = unconfirmed t := by
  rw [BoundedRetry.inFlight, retryEvent_forget, unconfirmed]

/-! ## What is sent -/

/-- What is sent is what `sendData` makes of the mail. -/
theorem sendData_of_sent (hu : connection.type = .udp) (r : (system connection).Run t s) {mail : Mail}
    {bytes : Bytes} (h : .transmitted mail bytes ∈ t ∨ .retransmitted mail bytes ∈ t) :
    connection.sendData mail = .ok bytes := by
  rcases h with h | h
  · obtain ⟨_, s₀, es, _, r₀, hs, hes, -⟩ := r.exists_step_of_mem h
    have hl := (consistent r₀).protocol.trans hu
    replace hs := (transition hs).2
    cases hs with
    | @transmit rest mail' _ bytes' hp hok =>
      obtain ⟨rfl, rfl⟩ : mail = mail' ∧ bytes = bytes' := by simpa using hes
      exact (transmit_udp hl hok).1
    | _ => simp at hes
  · obtain ⟨_, s₀, es, _, r₀, hs, hes, -⟩ := r.exists_step_of_mem h
    replace hs := (transition hs).2
    cases hs with
    | timeout hp hr hok =>
      obtain ⟨rfl, rfl⟩ : mail = s₀.listener.confMail ∧ bytes = _ := by simpa using hes
      exact (retransmit_ok hok).2.1
    | _ => simp at hes

theorem exists_last_transmitted {mail : Mail} (h : (transmitted t).getLast? = some mail) :
    ∃ pre bytes mid, t = pre ++ .transmitted mail bytes :: mid ∧ transmitted mid = [] := by
  obtain ⟨mails, hmails⟩ := List.getLast?_eq_some_iff.1 h
  obtain ⟨pre, e, mid, rfl, he, -, hmid⟩ := Lts.exists_of_filterMap hmails
  cases e with
  | transmitted mail' bytes =>
    cases he
    exact ⟨pre, bytes, mid, rfl, hmid⟩
  | _ => cases he

section Between

variable {pre mid : List Event} {mail : Mail} {bytes : Bytes}

theorem notMem_of_transmitted (hmid : transmitted mid = []) (mail : Mail) :
    .transmitted mail ∉ mid.filterMap retryEvent := by
  intro h
  obtain ⟨e, he, heq⟩ := List.mem_filterMap.1 h
  have hnone := List.filterMap_eq_nil_iff.1 hmid e he
  cases e with
  | transmitted mail' bytes => cases hnone
  | received datagram mail' delivered =>
    simp only [retryEvent] at heq
    split_ifs at heq
    cases heq
  | _ => simp [retryEvent] at heq

/-- Between two transmissions all that is sent is sent again. -/
theorem countP_isSend (hmid : transmitted mid = []) :
    (mid.filterMap retryEvent).countP BoundedRetry.Event.isRepeated = mid.countP Event.isSend := by
  rw [List.countP_filterMap]
  apply List.countP_congr
  intro e he
  have hnone := List.filterMap_eq_nil_iff.1 hmid e he
  cases e with
  | transmitted mail' bytes => cases hnone
  | received datagram mail' delivered =>
    simp only [retryEvent]
    split_ifs <;> simp [BoundedRetry.Event.isRepeated, Event.isSend]
  | _ => simp [retryEvent, BoundedRetry.Event.isRepeated, Event.isSend]

theorem countP_transmitted (mail : Mail) (bytes : Bytes) (mid : List Event) :
    (.transmitted mail bytes :: mid).countP Event.isSend = mid.countP Event.isSend + 1 :=
  List.countP_cons_of_pos rfl

theorem filterMap_retryEvent (pre : List Event) (mail : Mail) (bytes : Bytes) (mid : List Event) :
    (pre ++ .transmitted mail bytes :: mid).filterMap retryEvent =
      pre.filterMap retryEvent ++ .transmitted mail :: mid.filterMap retryEvent := by
  rw [List.filterMap_append]
  rfl

theorem getRetries_nonneg (hu : connection.type = .udp) : 0 ≤ connection.getRetries := by
  rw [NetworkConnection.getRetries, hu]
  exact Int.natCast_nonneg _

/-- What is sent again is in flight, and it is sent as it was sent first. -/
theorem transmitted_before (hu : connection.type = .udp) (r : (system connection).Run t s)
    {post : List Event} (h : t = pre ++ .retransmitted mail bytes :: post) :
    unconfirmed pre = some mail ∧
      ∃ pre' mid, pre = pre' ++ .transmitted mail bytes :: mid ∧ transmitted mid = [] := by
  have hrun := (retry_simulation hu).run r
  have hsplit : t.filterMap retryEvent =
      pre.filterMap retryEvent ++ .repeated mail :: post.filterMap retryEvent := by
    rw [h, List.filterMap_append]
    rfl
  have hflight : unconfirmed pre = some mail := by
    rw [← inFlight_retryEvent]
    exact BoundedRetry.inFlight_before hrun hsplit
  obtain ⟨pre', bytes', mid, rfl, hmid⟩ := exists_last_transmitted (getLast?_of_unconfirmed hflight)
  have hfirst : connection.sendData mail = .ok bytes' := sendData_of_sent hu r (.inl (by simp [h]))
  have hagain : connection.sendData mail = .ok bytes := sendData_of_sent hu r (.inr (by simp [h]))
  obtain rfl : bytes' = bytes := Except.ok.inj (hfirst.symm.trans hagain)
  exact ⟨hflight, pre', mid, rfl, hmid⟩

theorem sends_le (hu : connection.type = .udp) (r : (system connection).Run t s)
    {post : List Event} (h : t = pre ++ .transmitted mail bytes :: (mid ++ post))
    (hmid : transmitted mid = []) :
    ((.transmitted mail bytes :: mid).countP Event.isSend : Int) ≤ 1 + connection.getRetries := by
  have hrun := (retry_simulation hu).run r
  rw [h, filterMap_retryEvent, List.filterMap_append] at hrun
  have hle := BoundedRetry.repeated_le hrun rfl (notMem_of_transmitted hmid)
  have hnonneg := getRetries_nonneg hu
  rw [countP_isSend hmid] at hle
  rw [countP_transmitted]
  omega

/-- Where the client gives up, the mail in flight was sent as often as it may be. -/
theorem sends_of_notResponding (hu : connection.type = .udp) (r : (system connection).Run t s)
    (hf : s.failure = some .notResponding) :
    ∃ pre mail bytes mid, t = pre ++ .transmitted mail bytes :: mid ∧ transmitted mid = [] ∧
      unconfirmed t = some mail ∧
      ((.transmitted mail bytes :: mid).countP Event.isSend : Int) = 1 + connection.getRetries := by
  obtain ⟨s₀, r₀, -, hcause⟩ := exists_cause r hf
  obtain ⟨timeout, hp, ht, hretries⟩ : ∃ timeout, s₀.place = .waiting timeout ∧ 0 ≤ timeout ∧
      connection.getRetries ≤ s₀.listener.retries := by
    cases hcause with
    | waitMail h =>
      obtain ⟨_, _, -, ⟨he, -⟩ | ⟨he, -⟩⟩ := waitMail_error h <;> cases he
    | notResponding hp ht hr => exact ⟨_, hp, ht, hr⟩
    | plain h => exact absurd rfl h.2
  have hk := counted hu r₀
  have hrc := hk.limited timeout hp ht
  have hrun := (retry_simulation hu).run r₀
  have hstate : s₀.retrying = some (s₀.listener.confMail, s₀.listener.retries.toNat) := by
    rw [retrying, hrc]
    rfl
  obtain ⟨hle, hcount⟩ := BoundedRetry.count_eq hrun
  have hcount := hcount _ _ hstate
  have hflight : unconfirmed t = some s₀.listener.confMail := by
    rw [← inFlight_eq_unconfirmed hu r₀, inFlight, hrc]
    rfl
  obtain ⟨pre, bytes, mid, rfl, hmid⟩ := exists_last_transmitted (getLast?_of_unconfirmed hflight)
  refine ⟨pre, _, bytes, mid, rfl, hmid, hflight, ?_⟩
  rw [filterMap_retryEvent, BoundedRetry.count_behind _ _ (notMem_of_transmitted hmid),
    countP_isSend hmid] at hle hcount
  have hnonneg := getRetries_nonneg hu
  rw [countP_transmitted]
  omega

end Between

/-- In every run in UDP mode: the counter is 0 while nothing awaits its CONFIRM; what is sent on a
timeout is the mail that awaits its CONFIRM, byte for byte as it was sent first; from one
transmission to the next there are at most `1 + getRetries` sends; and when the client gives up there
were exactly so many of the mail that still awaits its CONFIRM. -/
theorem retries_accounted (hu : connection.type = .udp) (r : (system connection).Run t s) :
    (s.listener.receivedConfirm = true → s.listener.retries = 0) ∧
    (∀ pre mail bytes post, t = pre ++ .retransmitted mail bytes :: post →
      unconfirmed pre = some mail ∧
        ∃ pre' mid, pre = pre' ++ .transmitted mail bytes :: mid ∧ transmitted mid = []) ∧
    (∀ pre mail bytes mid post, t = pre ++ .transmitted mail bytes :: (mid ++ post) →
      transmitted mid = [] →
      ((.transmitted mail bytes :: mid).countP Event.isSend : Int) ≤ 1 + connection.getRetries) ∧
    (s.failure = some (.runtimeError (chars "Server not responding")) →
      ∃ pre mail bytes mid, t = pre ++ .transmitted mail bytes :: mid ∧ transmitted mid = [] ∧
        unconfirmed t = some mail ∧
        ((.transmitted mail bytes :: mid).countP Event.isSend : Int) =
          1 + connection.getRetries) := by
  refine ⟨(counted hu r).zero, ?_, ?_, ?_⟩
  · intro pre mail bytes post h
    exact transmitted_before hu r h
  · intro pre mail bytes mid post h hmid
    exact sends_le hu r h hmid
  · intro hf
    exact sends_of_notResponding hu r hf

/-- A server that never answers, with one retry. -/
theorem retries_accounted_silent :
    ∃ t s, (system { type := .udp, timeout := 250, retries := 1 }).Run t s ∧
      s.failure = some (.runtimeError (chars "Server not responding")) ∧
      ∃ pre mail bytes mid, t = pre ++ .transmitted mail bytes :: mid ∧ transmitted mid = [] ∧
        unconfirmed t = some mail ∧
        ((.transmitted mail bytes :: mid).countP Event.isSend : Int) = 2 := by
  have r := run_of_exec { type := .udp, timeout := 250, retries := 1 } (.init rfl)
    [.sendMail { type := some .bye, data := .bye ⟨0⟩ }, .pushMail, .notifyListener, .loopHead,
      .epollWait (.ready [.toSendPipe]) 7, .readNotify, .popMail, .transmit,
      .loopHead, .epollWait .timeout 243, .loopHead, .epollWait .timeout 250] rfl
  exact ⟨_, _, r, rfl, (retries_accounted rfl r).2.2.2 rfl⟩

end Client

end ChatClient

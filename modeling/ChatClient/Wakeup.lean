import ChatClient.Shutdown

/-!
# When the listener is woken

The notify pipe holds a byte for every mail in `outgoingMails`, and it is in the epoll set exactly while
nothing awaits its CONFIRM (`armed`).  So `epoll_wait` can report it exactly when there is a mail to send
that may be sent (`woken_iff`): no mail is left behind because its byte was read for another one, and the
listener is not woken for nothing.
-/

namespace ChatClient

open MailBox

theorem length_stamp (n : UInt16) (mails : List Mail) : (stamp n mails).length = mails.length := by
  have hmap := congrArg List.length (map_type_stamp n mails)
  rwa [List.length_map, List.length_map] at hmap

namespace Client

variable {connection : NetworkConnection} {t : List Event} {s : Client}

/-- In `epoll_wait` the notify pipe is in the set unless a CONFIRM is missing. -/
theorem armed (r : (system connection).Run t s) :
    ∀ timeout : Int, s.place = .waiting timeout →
      (.toSendPipe ∈ s.epoll ↔ s.listener.receivedConfirm = true) := by
  apply r.invariant (I := fun _ s => ∀ timeout : Int, s.place = .waiting timeout →
    (.toSendPipe ∈ s.epoll ↔ s.listener.receivedConfirm = true))
  · rintro s rfl timeout hp
    cases hp
  · intro t s es s' r ih h timeout hp
    have hc := consistent r
    replace h := (transition h).2
    cases h with
    | fail | refuse | sendMail | pushMail | notifyListener | waitMail | stop => exact ih timeout hp
    | enterWait hplace hgo htoggle =>
      obtain ⟨rfl, hmem, -⟩ := toggleSendPipe_ok hc.registered htoggle
      exact hmem
    | finish | timeout | ready | interrupted | listenStdin | listenSignal | listenSocket
    | readNotify | popMail | transmit => cases hp

/-- Outside of `sendMail` and of `listenToSendPipe` there is a byte for every mail in the queue. -/
theorem notifyPipe_eq (r : (system connection).Run t s) (hs : s.sending = .idle) {timeout : Int}
    (hp : s.place = .waiting timeout) : s.notifyPipe = s.mailbox.outgoingMails.length := by
  have hcount := (Handover.balanced (outgoing_simulation.run r)).count
  simp only [handover, hs, hp, Bool.toNat_false, Nat.add_zero] at hcount
  exact hcount.symm

/-- In every run, in either mode: while the listener is in `epoll_wait` and the FSM thread not in
`sendMail`, `epoll_wait` can report the notify pipe iff fewer mails were sent than passed to `sendMail`
and, in UDP mode, none of them awaits its CONFIRM. -/
theorem woken_iff (r : (system connection).Run t s) {timeout : Int} (hp : s.place = .waiting timeout)
    (hs : s.sending = .idle) :
    s.mayReturn timeout (.ready [.toSendPipe]) ↔
      (transmitted t).length < (submitted t).length ∧
        (connection.type = .udp → unconfirmed t = none) := by
  have hqueue : (submitted t).length = (transmitted t).length + s.mailbox.outgoingMails.length := by
    have hall := congrArg List.length (stamp_submitted_eq r)
    simpa [length_stamp, hp, hs, Place.inHand, Sending.pending] using hall
  have hconfirm : s.listener.receivedConfirm = true ↔
      (connection.type = .udp → unconfirmed t = none) := by
    rcases ht : connection.type
    · simp [receivedConfirm_tcp ht r]
    · simp [receivedConfirm_iff ht r]
  have hreport : s.mayReturn timeout (.ready [.toSendPipe]) ↔
      .toSendPipe ∈ s.epoll ∧ 0 < s.notifyPipe := by
    simp [mayReturn]
  rw [hreport, armed r timeout hp, hconfirm, notifyPipe_eq r hs hp, and_comm]
  apply and_congr_left'
  omega

/-- Two mails are queued; the second has to wait for the CONFIRM of the first. -/
theorem woken_iff_two :
    ∃ t s, (system { type := .udp }).Run t s ∧ s.place = .waiting 0 ∧ s.sending = .idle ∧
      (transmitted t).length = 1 ∧ (submitted t).length = 2 ∧
      (s.mayReturn 0 (.ready [.toSendPipe]) ↔
        (transmitted t).length < (submitted t).length ∧
          (ProtocolType.udp = .udp → unconfirmed t = none)) := by
  let join : Mail :=
    { type := some .join, data := .join ⟨0, ⟨chars "c1", by decide⟩, ⟨chars "ann", by decide⟩⟩ }
  let send : List Action := [.sendMail join, .pushMail, .notifyListener]
  let actions : List Action := send ++ [.loopHead, .epollWait (.ready [.toSendPipe]) 0, .readNotify,
    .popMail, .transmit] ++ send ++ [.loopHead]
  obtain ⟨t, s, r, hp, hs, hsent, hsubmitted⟩ : ∃ t s, (system { type := .udp }).Run t s ∧
      s.place = .waiting 0 ∧ s.sending = .idle ∧ (transmitted t).length = 1 ∧
      (submitted t).length = 2 :=
    ⟨_, _, run_of_exec { type := .udp } (.init rfl) actions rfl, rfl, rfl, rfl, rfl⟩
  exact ⟨t, s, r, hp, hs, hsent, hsubmitted, woken_iff r hp hs⟩

end Client

end ChatClient

import ChatClient.Arrivals

/-!
# What the flags of the listener tell

`refAuthId` is the id of the AUTH or JOIN transmitted last (`refAuthId_eq`), and `sentBye` tells
whether a BYE was transmitted (`sentBye_iff`); of all the steps of a client only `transmit` changes
them (`keeps_or_transmits`).  `keepRunning` is never set again, so the loop of `runListener` that has
ended stays so (`goesOn_of_finished`).
-/

namespace ChatClient

open MailBox Outcome

/-- What every step but `transmit` leaves of the flags. -/
structure Listener.Keeps (l l' : Listener) : Prop where
  refAuthId : l'.refAuthId = l.refAuthId
  sentBye : l'.sentBye = l.sentBye
  keepRunning : l.keepRunning = false → l'.keepRunning = false
  receivedConfirm : l.receivedConfirm = true → l'.receivedConfirm = true

theorem Listener.Keeps.refl (l : Listener) : l.Keeps l := ⟨rfl, rfl, id, id⟩

theorem listenSocket_keeps {connection : NetworkConnection} {l : Listener} {mb : MailBox}
    {received : Option Bytes} {res : SocketResult}
    (h : listenSocket connection l mb received = .ok res) : l.Keeps res.listener := by
  simp only [listenSocket, bind_eq_ok] at h
  obtain ⟨buffer, -, ⟨written, mail⟩, -, h⟩ := h
  obtain ⟨-, hl, -⟩ := handleMail_cases h
  rcases hl with heq | ⟨-, heq⟩ <;> rw [heq] <;> split_ifs
  · exact .refl l
  · exact ⟨rfl, rfl, fun _ => rfl, id⟩
  · exact ⟨rfl, rfl, id, fun _ => rfl⟩
  · exact ⟨rfl, rfl, fun _ => rfl, fun _ => rfl⟩

theorem transmit_sentBye {connection : NetworkConnection} {l l' : Listener} {mail : Mail}
    {bytes : Bytes} (h : transmit connection l mail = .ok (l', bytes)) :
    (l'.sentBye = true ↔ l.sentBye = true ∨ mail.type = some .bye) ∧
      (l.keepRunning = false → l'.keepRunning = false) ∧
      (l.protocolType = .tcp → l'.receivedConfirm = l.receivedConfirm) := by
  rcases hl : l.protocolType
  · obtain ⟨-, rfl⟩ := transmit_tcp hl h
    by_cases hb : mail.type = some .bye <;> simp [hb]
  · obtain ⟨-, rfl⟩ := transmit_udp hl h
    by_cases hb : mail.type = some .bye <;> simp [hb]

@[simp] theorem transmitted_append (t u : List Event) :
    transmitted (t ++ u) = transmitted t ++ transmitted u := List.filterMap_append

/-- An AUTH or a JOIN. -/
def Mail.isRequest (mail : Mail) : Bool := mail.type == some .auth || mail.type == some .join

theorem Mail.isRequest_iff {mail : Mail} :
    mail.isRequest = true ↔ mail.type = some .auth ∨ mail.type = some .join := by
  simp [isRequest]

/-- The AUTH or JOIN transmitted last. -/
def lastRequest (t : List Event) : Option Mail := ((transmitted t).filter Mail.isRequest).getLast?

theorem mem_of_lastRequest {t : List Event} {mail : Mail} (h : lastRequest t = some mail) :
    mail ∈ transmitted t ∧ (mail.type = some .auth ∨ mail.type = some .join) := by
  obtain ⟨hm, hr⟩ := List.mem_filter.1 (List.mem_of_getLast? h)
  exact ⟨hm, Mail.isRequest_iff.1 hr⟩

theorem lastRequest_append {t es : List Event} (h : transmitted es = []) :
    lastRequest (t ++ es) = lastRequest t := by
  rw [lastRequest, transmitted_append, h, List.append_nil, lastRequest]

theorem lastRequest_transmitted (t : List Event) (mail : Mail) (bytes : Bytes) :
    lastRequest (t ++ [.transmitted mail bytes]) =
      if mail.isRequest then some mail else lastRequest t := by
  have htrans : transmitted [.transmitted mail bytes] = [mail] := rfl
  rw [lastRequest, transmitted_append, htrans, List.filter_append]
  by_cases h : mail.isRequest = true
  · rw [if_pos h, List.filter_cons_of_pos h, List.filter_nil, List.getLast?_concat]
  · rw [if_neg h, List.filter_cons_of_neg h, List.filter_nil, List.append_nil, lastRequest]

namespace Client

variable {connection : NetworkConnection} {t es : List Event} {s s' : Client}

/-- A step keeps the flags, or it is a `transmit`. -/
theorem keeps_or_transmits (hc : Consistent connection s) (h : Transition connection s es s') :
    (transmitted es = [] ∧ s.listener.Keeps s'.listener) ∨
      ∃ mail bytes rest, s.place = .popped mail rest ∧ es = [.transmitted mail bytes] ∧
        ChatClient.transmit connection s.listener mail = .ok (s'.listener, bytes) := by
  cases h with
  | fail | refuse | sendMail | pushMail | notifyListener | waitMail | finish | ready | interrupted
  | readNotify | popMail => exact .inl ⟨rfl, .refl _⟩
  | stop => exact .inl ⟨rfl, rfl, rfl, fun _ => rfl, id⟩
  | enterWait hp hgo h =>
    obtain ⟨rfl, -⟩ := toggleSendPipe_ok hc.registered h
    exact .inl ⟨rfl, rfl, rfl, id, id⟩
  | timeout hp hr h =>
    obtain ⟨-, -, rfl⟩ := retransmit_ok h
    exact .inl ⟨rfl, rfl, rfl, id, id⟩
  | listenStdin => exact .inl ⟨filterMap_map_none (fun _ => rfl) _, .refl _⟩
  | listenSignal hp h =>
    obtain ⟨rfl, -, -⟩ := listenSignal_receives h
    exact .inl ⟨filterMap_map_none (fun _ => rfl) _, rfl, rfl, fun _ => rfl, id⟩
  | listenSocket hp h =>
    exact .inl ⟨filterMap_map_none (fun _ => rfl) _, listenSocket_keeps h⟩
  | transmit hp h => exact .inr ⟨_, _, _, hp, rfl, h⟩

/-- In UDP mode `refAuthId` is the id of the AUTH or JOIN transmitted last, or -1. -/
theorem refAuthId_eq (hu : connection.type = .udp) (r : (system connection).Run t s) :
    s.listener.refAuthId = ((lastRequest t).map Mail.getMessageID).getD (-1) := by
  apply r.invariant
    (I := fun t s =>
      s.listener.refAuthId = ((lastRequest t).map Mail.getMessageID).getD (-1))
  · rintro s rfl
    rfl
  · intro t s es s' r ih h
    have hc := consistent r
    rcases keeps_or_transmits hc (transition h).2 with ⟨hes, hkeep⟩ | ⟨mail, bytes, -, -, rfl, hok⟩
    · rw [hkeep.refAuthId, lastRequest_append hes, ih]
    · obtain ⟨-, hl⟩ := transmit_udp (hc.protocol.trans hu) hok
      rw [lastRequest_transmitted, hl]
      by_cases hreq : mail.isRequest = true
      · rw [if_pos hreq]
        simp only [if_pos (Mail.isRequest_iff.1 hreq)]
        rfl
      · rw [if_neg hreq]
        simp only [if_neg (mt Mail.isRequest_iff.2 hreq)]
        exact ih

theorem sentBye_iff (r : (system connection).Run t s) :
    s.listener.sentBye = true ↔ ∃ mail ∈ transmitted t, mail.type = some .bye := by
  apply r.invariant
    (I := fun t s => s.listener.sentBye = true ↔ ∃ mail ∈ transmitted t, mail.type = some .bye)
  · rintro s rfl
    simp [initial, transmitted]
  · intro t s es s' r ih h
    rcases keeps_or_transmits (consistent r) (transition h).2 with
      ⟨hes, hkeep⟩ | ⟨mail, bytes, -, -, rfl, hok⟩
    · rw [hkeep.sentBye, transmitted_append, hes, List.append_nil, ih]
    · have htrans : transmitted [.transmitted mail bytes] = [mail] := rfl
      rw [(transmit_sentBye hok).1, ih, transmitted_append, htrans]
      simp [or_and_right, exists_or]

/-- Once cleared, `keepRunning` stays so. -/
theorem keepRunning_of_transition (hc : Consistent connection s) (h : Transition connection s es s')
    (hk : s.listener.keepRunning = false) : s'.listener.keepRunning = false := by
  rcases keeps_or_transmits hc h with ⟨-, hkeep⟩ | ⟨mail, bytes, -, -, -, hok⟩
  · exact hkeep.keepRunning hk
  · exact (transmit_sentBye hok).2.1 hk

end Client

end ChatClient

import ChatClient.Lib.Handover
import ChatClient.ListenerSpec

/-!
# The way out: from `sendMail` to `getOutgoingMail`

The FSM thread pushes a mail on `outgoingMails` and writes a byte to the notify pipe; the listener
thread reads a byte and takes a mail.  This is a hand-over (`outgoing_simulation`), so a mail is
there whenever one is taken, and mails are taken in the order in which they were pushed.  What is
pushed is what was passed to `sendMail`, numbered in order (`numbered`).
-/

namespace ChatClient

open MailBox

/-! ## Numbering -/

namespace Mail

/-- A mail as `sendMail` queues it when its counter stands at `n`. -/
def stamped (n : UInt16) (m : Mail) : Mail := { m with data := m.data.setMessageID n }

/-- The counter after the mail. -/
def nextNumber (n : UInt16) (m : Mail) : UInt16 := if m.data.numbered then n + 1 else n

/-- A mail without its id. -/
def anonymous (m : Mail) : Mail := m.stamped 0

theorem anonymous_stamped (n : UInt16) (m : Mail) : (m.stamped n).anonymous = m.anonymous := by
  rcases m with ⟨type, data, queue, sigint⟩
  cases data <;> rfl

theorem numbered_stamped (n : UInt16) (m : Mail) :
    (m.stamped n).data.numbered = m.data.numbered := by
  rcases m with ⟨type, data, queue, sigint⟩
  cases data <;> rfl

theorem WellTagged.stamped {m : Mail} (h : m.WellTagged) (n : UInt16) : (m.stamped n).WellTagged := by
  rcases m with ⟨type, data, queue, sigint⟩
  cases data <;> exact h

theorem getMessageID_stamped (n : UInt16) {m : Mail} (h : m.data.numbered = true) :
    (m.stamped n).getMessageID = n.toNat := by
  rcases m with ⟨type, data, queue, sigint⟩
  cases data <;> first | rfl | cases h

end Mail

theorem MailBox.assignMessageID_eq (mb : MailBox) (m : Mail) :
    mb.assignMessageID m = (m.stamped mb.sequenceUDPNumber,
      { mb with sequenceUDPNumber := m.nextNumber mb.sequenceUDPNumber }) := by
  rcases m with ⟨type, data, queue, sigint⟩
  cases data <;> rfl

/-- The mails as `sendMail` queues them one after another, from a counter at `n` on. -/
def stamp (n : UInt16) : List Mail → List Mail
  | [] => []
  | m :: ms => m.stamped n :: stamp (m.nextNumber n) ms

theorem stamp_concat (n : UInt16) (ms : List Mail) (m : Mail) :
    stamp n (ms ++ [m]) = stamp n ms ++ [m.stamped (ms.foldl (fun n m => m.nextNumber n) n)] := by
  induction ms generalizing n with
  | nil => rfl
  | cons m' ms ih => simp only [List.cons_append, stamp, ih, List.foldl_cons]

theorem map_anonymous_stamp (n : UInt16) (ms : List Mail) :
    (stamp n ms).map Mail.anonymous = ms.map Mail.anonymous := by
  induction ms generalizing n with
  | nil => rfl
  | cons m ms ih => rw [stamp, List.map_cons, List.map_cons, ih, Mail.anonymous_stamped]

theorem exists_of_mem_stamp {n : UInt16} {ms : List Mail} {m : Mail} (h : m ∈ stamp n ms) :
    ∃ m' ∈ ms, ∃ id, m = m'.stamped id := by
  induction ms generalizing n with
  | nil => cases h
  | cons m' ms ih =>
    rcases List.mem_cons.1 h with rfl | h
    · exact ⟨m', List.mem_cons_self, n, rfl⟩
    · obtain ⟨m'', hm, id, rfl⟩ := ih h
      exact ⟨m'', List.mem_cons_of_mem _ hm, id, rfl⟩

/-- Numbering does not change the types. -/
theorem map_type_stamp (n : UInt16) (ms : List Mail) :
    (stamp n ms).map Mail.type = ms.map Mail.type := by
  induction ms generalizing n with
  | nil => rfl
  | cons m ms ih => exact congrArg (m.type :: ·) (ih _)

/-- The `k`-th numbered mail carries `n + k` modulo 65536. -/
theorem getMessageID_stamp {n : UInt16} {ms : List Mail} {k : ℕ} {m : Mail}
    (h : ((stamp n ms).filter (·.data.numbered))[k]? = some m) :
    m.getMessageID = ((n.toNat + k) % 65536 : ℕ) := by
  induction ms generalizing n k with
  | nil => cases h
  | cons m' ms ih =>
    rw [stamp, List.filter_cons, Mail.numbered_stamped] at h
    split_ifs at h with hnum
    · rcases k with _ | k
      · cases h
        rw [Mail.getMessageID_stamped n hnum]
        have := n.toNat_lt
        omega
      · rw [ih h, Mail.nextNumber, if_pos hnum, UInt16.toNat_add]
        simp
        omega
    · rw [ih h, Mail.nextNumber, if_neg hnum]

/-! ## The hand-over -/

/-- The mails passed to `sendMail`. -/
def submitted (t : List Event) : List Mail :=
  t.filterMap fun | .submitted mail => some mail | _ => none

theorem submitted_append (t u : List Event) : submitted (t ++ u) = submitted t ++ submitted u :=
  List.filterMap_append

def pushed (t : List Event) : List Mail :=
  t.filterMap fun | .pushed mail => some mail | _ => none

/-- The mails taken by `getOutgoingMail`. -/
def popped (t : List Event) : List Mail :=
  t.filterMap fun | .popped mail => some mail | _ => none

/-- The mails sent by `listenToSendPipe`. -/
def transmitted (t : List Event) : List Mail :=
  t.filterMap fun | .transmitted mail _ => some mail | _ => none

/-- The mail that was taken and is about to be sent. -/
def Place.inHand : Place → List Mail
  | .popped mail _ => [mail]
  | _ => []

/-- The mail that has its id and is not yet in the queue. -/
def Sending.pending : Sending → List Mail
  | .assigned mail => [mail]
  | _ => []

namespace Client

/-- The part of the state that the hand-over consists of. -/
def handover (s : Client) : Handover.State Mail where
  queue := s.mailbox.outgoingMails
  signals := s.notifyPipe
  raising := match s.sending with | .pushed => true | _ => false
  taken := match s.place with | .notified _ => true | _ => false

def handoverEvent : Event → Option (Handover.Event Mail)
  | .pushed mail => some (.pushed mail)
  | .popped mail => some (.popped mail)
  | _ => none

variable {connection : NetworkConnection} {t es : List Event} {s s' : Client}

/-- A step that the hand-over does not see. -/
theorem handover_stutter (hs : s'.handover = s.handover) (he : es.filterMap handoverEvent = []) :
    (Handover.system Mail).Steps s.handover (es.filterMap handoverEvent) s'.handover := by
  rw [hs, he]
  exact .refl _

theorem outgoing_simulation :
    (system connection).Simulation (Handover.system Mail) handover handoverEvent where
  init := by
    rintro s rfl
    rfl
  step := by
    intro t s es s' _ _ h
    replace h := (transition h).2
    cases h with
    | fail | refuse | stop | waitMail => exact handover_stutter rfl rfl
    | sendMail hs hq =>
      refine handover_stutter ?_ rfl
      simp only [handover, assignMessageID_eq, hs]
    | pushMail hs =>
      simp only [handover, hs]
      exact .single (.push ..)
    | notifyListener hs =>
      simp only [handover, hs]
      exact .single (.raise ..)
    | enterWait hp | finish hp | timeout hp | ready hp | interrupted hp | transmit hp =>
      refine handover_stutter ?_ rfl
      simp only [handover, hp]
    | listenStdin hp h =>
      refine handover_stutter ?_ (filterMap_map_none (fun _ => rfl) _)
      simp only [handover, hp, (listenStdin_receives h).1.outgoing]
    | listenSignal hp h =>
      refine handover_stutter ?_ (filterMap_map_none (fun _ => rfl) _)
      simp only [handover, hp, (listenSignal_receives h).2.1.outgoing]
    | listenSocket hp h =>
      refine handover_stutter ?_ (filterMap_map_none (fun _ => rfl) _)
      simp only [handover, hp, (listenSocket_receives h).1.outgoing]
    | readNotify hp hn =>
      simp only [handover, hp]
      obtain ⟨n, hn⟩ := Nat.exists_eq_add_of_lt hn
      rw [hn]
      exact .single (.take ..)
    | popMail hp hm =>
      simp only [handover, hp, hm]
      exact .single (.pop ..)

/-- What was pushed, with the mail that is about to be, is what was passed to `sendMail`, numbered
from 0 on. -/
structure Numbered (t : List Event) (s : Client) : Prop where
  queued : pushed t ++ s.sending.pending = stamp 0 (submitted t)
  counter : s.mailbox.sequenceUDPNumber =
    (submitted t).foldl (fun n mail => mail.nextNumber n) 0

/-- A step that passes nothing to `sendMail` and pushes nothing. -/
theorem Numbered.stutter (hn : Numbered t s) (hs : submitted es = []) (hp : pushed es = [])
    (hpending : s'.sending.pending = s.sending.pending)
    (hcounter : s'.mailbox.sequenceUDPNumber = s.mailbox.sequenceUDPNumber) :
    Numbered (t ++ es) s' := by
  have hs' : submitted (t ++ es) = submitted t := by
    rw [submitted, List.filterMap_append]
    exact (congrArg _ hs).trans (List.append_nil _)
  have hp' : pushed (t ++ es) = pushed t := by
    rw [pushed, List.filterMap_append]
    exact (congrArg _ hp).trans (List.append_nil _)
  exact ⟨by rw [hs', hp', hpending, hn.queued], by rw [hs', hcounter, hn.counter]⟩

theorem Numbered.step (hn : Numbered t s) (h : Transition connection s es s') :
    Numbered (t ++ es) s' := by
  cases h with
  | fail | refuse | stop | waitMail | enterWait | finish | timeout | ready | interrupted
  | readNotify | popMail | transmit => exact hn.stutter rfl rfl rfl rfl
  | sendMail hs hq =>
    have hsub : ∀ mail, submitted (t ++ [.submitted mail]) = submitted t ++ [mail] := by
      simp [submitted]
    have hpush : ∀ mail, pushed (t ++ [.submitted mail]) = pushed t := by simp [pushed]
    have hqueued := hn.queued
    rw [hs, show Sending.idle.pending = [] from rfl, List.append_nil] at hqueued
    refine ⟨?_, ?_⟩
    · rw [hpush, hsub, stamp_concat, hqueued, ← hn.counter, assignMessageID_eq]
      rfl
    · rw [hsub, List.foldl_concat, ← hn.counter, assignMessageID_eq]
  | pushMail hs =>
    have hsub : ∀ mail, submitted (t ++ [.pushed mail]) = submitted t := by simp [submitted]
    have hpush : ∀ mail, pushed (t ++ [.pushed mail]) = pushed t ++ [mail] := by simp [pushed]
    have hqueued := hn.queued
    rw [hs, Sending.pending] at hqueued
    refine ⟨?_, ?_⟩
    · rw [hpush, hsub, show Sending.pushed.pending = [] from rfl, List.append_nil, hqueued]
    · rw [hsub, ← hn.counter]
      rfl
  | notifyListener hs => exact hn.stutter rfl rfl (by rw [hs]; rfl) rfl
  | listenStdin hp h =>
    exact hn.stutter (filterMap_map_none (fun _ => rfl) _) (filterMap_map_none (fun _ => rfl) _) rfl
      (listenStdin_receives h).1.sequence
  | listenSignal hp h =>
    exact hn.stutter (filterMap_map_none (fun _ => rfl) _) (filterMap_map_none (fun _ => rfl) _) rfl
      (listenSignal_receives h).2.1.sequence
  | listenSocket hp h =>
    exact hn.stutter (filterMap_map_none (fun _ => rfl) _) (filterMap_map_none (fun _ => rfl) _) rfl
      (listenSocket_receives h).1.sequence

theorem numbered (r : (system connection).Run t s) : Numbered t s := by
  apply r.invariant
  · rintro s rfl
    exact ⟨rfl, rfl⟩
  · intro t s es s' _ ih h
    exact ih.step (transition h).2

/-- Every mail pushed was taken or is in the queue. -/
theorem pushed_eq (r : (system connection).Run t s) :
    pushed t = popped t ++ s.mailbox.outgoingMails := by
  have hpush : Handover.pushed (t.filterMap handoverEvent) = pushed t := by
    rw [Handover.pushed, List.filterMap_filterMap, pushed]
    congr 1
    funext e
    cases e <;> rfl
  have hpop : Handover.popped (t.filterMap handoverEvent) = popped t := by
    rw [Handover.popped, List.filterMap_filterMap, popped]
    congr 1
    funext e
    cases e <;> rfl
  rw [← hpush, ← hpop]
  exact Handover.pushed_eq (outgoing_simulation.run r)

/-- What was taken from the queue is, from the first on, what was passed to `sendMail`, numbered. -/
theorem popped_prefix_submitted (r : (system connection).Run t s) :
    popped t <+: stamp 0 (submitted t) := by
  rw [← (numbered r).queued, pushed_eq r, List.append_assoc]
  exact List.prefix_append _ _

theorem getOutgoingMail_ne_error (r : (system connection).Run t s) {rest : List FdType}
    (hp : s.place = .notified rest) :
    ∃ mail mailbox, s.mailbox.getOutgoingMail = .ok (mail, mailbox) := by
  have h : s.mailbox.outgoingMails ≠ [] :=
    Handover.queue_ne_nil (outgoing_simulation.run r) (by simp only [handover, hp])
  rw [MailBox.getOutgoingMail]
  rcases hm : s.mailbox.outgoingMails with _ | ⟨mail, rest⟩
  · exact absurd hm h
  · exact ⟨mail, _, rfl⟩

/-- In every run: a mail is there whenever one is taken; the mails taken are, ids apart, the first
of those passed to `sendMail`; and the `k`-th of those that have an id of their own has the id `k`
modulo 65536. -/
theorem handover_in_order (r : (system connection).Run t s) :
    (∀ rest, s.place = .notified rest →
      ∃ mail mailbox, s.mailbox.getOutgoingMail = .ok (mail, mailbox)) ∧
    (popped t).map Mail.anonymous <+: (submitted t).map Mail.anonymous ∧
    ∀ (k : ℕ) (mail : Mail), ((popped t).filter (·.data.numbered))[k]? = some mail →
      mail.getMessageID = (k % 65536 : ℕ) := by
  refine ⟨fun rest hp => getOutgoingMail_ne_error r hp, ?_, ?_⟩
  · rw [← map_anonymous_stamp 0 (submitted t)]
    exact (popped_prefix_submitted r).map _
  · intro k mail hk
    obtain ⟨rest, hrest⟩ := (popped_prefix_submitted r).filter (·.data.numbered)
    have hk' : ((stamp 0 (submitted t)).filter (·.data.numbered))[k]? = some mail := by
      rw [← hrest, List.getElem?_append_left (List.getElem?_eq_some_iff.1 hk).1, hk]
    simpa using getMessageID_stamp hk'

/-- What is taken from the queue is sent, before anything else is taken. -/
theorem popped_eq (r : (system connection).Run t s) : popped t = transmitted t ++ s.place.inHand := by
  apply r.invariant (I := fun t s => popped t = transmitted t ++ s.place.inHand)
  · rintro s rfl
    rfl
  · intro t s es s' _ ih h
    rw [popped, transmitted, List.filterMap_append, List.filterMap_append]
    change popped t ++ popped es = transmitted t ++ transmitted es ++ s'.place.inHand
    replace h := (transition h).2
    have stutter : popped es = [] → transmitted es = [] → s'.place.inHand = s.place.inHand →
        popped t ++ popped es = transmitted t ++ transmitted es ++ s'.place.inHand := by
      intro hp ht hplace
      rw [hp, ht, hplace, List.append_nil, List.append_nil, ih]
    cases h with
    | fail | refuse | sendMail | pushMail | notifyListener | waitMail | stop =>
      exact stutter rfl rfl rfl
    | enterWait hp | finish hp | timeout hp | ready hp | interrupted hp | readNotify hp =>
      exact stutter rfl rfl (by rw [hp]; rfl)
    | listenStdin hp | listenSignal hp | listenSocket hp =>
      exact stutter (filterMap_map_none (fun _ => rfl) _) (filterMap_map_none (fun _ => rfl) _)
        (by rw [hp]; rfl)
    | popMail hp hm =>
      rw [ih, hp]
      simp [popped, transmitted, Place.inHand]
    | transmit hp h =>
      rw [ih, hp]
      simp [popped, transmitted, Place.inHand]

/-- Every mail passed to `sendMail` was sent, is about to be sent, is in the queue or is about to be
queued. -/
theorem stamp_submitted_eq (r : (system connection).Run t s) :
    stamp 0 (submitted t) = transmitted t ++
      (s.place.inHand ++ (s.mailbox.outgoingMails ++ s.sending.pending)) := by
  rw [← (numbered r).queued, pushed_eq r, popped_eq r]
  simp only [List.append_assoc]

theorem transmitted_prefix_submitted (r : (system connection).Run t s) :
    transmitted t <+: stamp 0 (submitted t) := by
  rw [stamp_submitted_eq r]
  exact List.prefix_append _ _

/-- A JOIN and a BYE passed to `sendMail`; the JOIN has been sent, and the BYE is about to be
taken. -/
theorem handover_in_order_two :
    let join (id : Int) : Mail :=
      { type := some .join, data := .join ⟨id, ⟨chars "c1", by decide⟩, ⟨chars "ann", by decide⟩⟩ }
    ∃ t s, (system { type := .tcp }).Run t s ∧ s.place = .notified [] ∧ popped t = [join 0] ∧
      ((∀ rest, s.place = .notified rest →
        ∃ mail mailbox, s.mailbox.getOutgoingMail = .ok (mail, mailbox)) ∧
      (popped t).map Mail.anonymous <+: (submitted t).map Mail.anonymous ∧
      ∀ (k : ℕ) (mail : Mail), ((popped t).filter (·.data.numbered))[k]? = some mail →
        mail.getMessageID = (k % 65536 : ℕ)) := by
  intro join
  have r := run_of_exec { type := .tcp } (.init rfl)
    [.sendMail (join 7), .pushMail, .loopHead, .notifyListener,
      .epollWait (.ready [.toSendPipe]) 3, .readNotify, .popMail,
      .sendMail { type := some .bye, data := .bye ⟨7⟩ }, .pushMail, .transmit, .notifyListener,
      .loopHead, .epollWait (.ready [.toSendPipe]) 0, .readNotify] rfl
  exact ⟨_, _, r, rfl, rfl, handover_in_order r⟩

end Client

end ChatClient

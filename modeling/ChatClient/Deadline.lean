import ChatClient.Program

/-!
# The retransmission timer

The stop watch is started anew at every `epoll_wait`, so what is subtracted from the timeout is the
duration of the last wait (`lastWait`) and not the time since the last transmission (`spent`).  The
deadline is kept as long as the two agree, that is, as long as nothing else wakes the listener up
(`deadline_of_punctual`).
-/

namespace ChatClient

open MailBox

/-- The milliseconds waited since the mail in flight was sent, for the first time or again. -/
def spent (t : List Event) : ℕ :=
  t.foldl (fun n e => match e with
    | .waited _ elapsed => n + elapsed
    | .transmitted .. | .retransmitted .. => 0
    | _ => n) 0

/-- The duration of the last wait; nothing, if that was followed by a retransmission. -/
def lastWait (t : List Event) : ℕ :=
  t.foldl (fun n e => match e with
    | .waited _ elapsed => elapsed
    | .retransmitted .. => 0
    | _ => n) 0

/-- Where the timeout is computed, the last wait accounts for all the time since the mail in flight was
sent, and is no longer than the timeout. -/
def Punctual (connection : NetworkConnection) (t : List Event) : Prop :=
  spent t ≤ lastWait t ∧ (lastWait t : Int) ≤ connection.getTimeout

/-- The timeouts of the waits, with their durations. -/
def waits (t : List Event) : List (Int × ℕ) :=
  t.filterMap fun
    | .waited timeout elapsed => some (timeout, elapsed)
    | _ => none

/-- `epoll_wait` waits no longer than it was told to. -/
def Kept (t : List Event) : Prop :=
  ∀ wait ∈ waits t, 0 ≤ wait.1 → wait.2 ≤ wait.1

/-- The event tells `lastWait` nothing. -/
def Event.unwatched : Event → Bool
  | .waited .. | .retransmitted .. => false
  | _ => true

theorem lastWait_append_of_unwatched {t es : List Event} (h : ∀ e ∈ es, e.unwatched = true) :
    lastWait (t ++ es) = lastWait t := by
  induction es using List.reverseRecOn with
  | nil => rw [List.append_nil]
  | append_singleton es e ih =>
    have he := h e (by simp)
    rw [← ih fun e' he' => h e' (List.mem_append_left _ he'), ← List.append_assoc]
    rw [lastWait, List.foldl_concat]
    cases e with
    | waited | retransmitted => cases he
    | _ => rfl

@[simp] theorem lastWait_waited (t : List Event) (timeout : Int) (elapsed : ℕ) :
    lastWait (t ++ [.waited timeout elapsed]) = elapsed := by
  simp [lastWait]

@[simp] theorem lastWait_retransmitted (t : List Event) (e : Event) (mail : Mail) (bytes : Bytes) :
    lastWait (t ++ [e, .retransmitted mail bytes]) = 0 := by
  simp [lastWait]

namespace Client

variable {connection : NetworkConnection} {t es : List Event} {s s' : Client}

/-! ## The stop watch -/

/-- The stop watch stands at the duration of the last wait. -/
def stoppedAt (s : Client) (t : List Event) : Prop :=
  s.stopWatch.isStopped = true ∧ s.stopWatch.endTime - s.stopWatch.startTime = lastWait t

/-- The stop watch runs while the listener waits; before the first wait nothing is in flight. -/
def Watched (connection : NetworkConnection) (t : List Event) (s : Client) : Prop :=
  match s.place with
  | .waiting timeout =>
    s.stopWatch.isStopped = false ∧ s.stopWatch.startTime = s.now ∧
      (s.listener.receivedConfirm = false → timeout = connection.getTimeout - lastWait t)
  | .events [] => s.listener.receivedConfirm = false → s.stoppedAt t
  | .finished => True
  | _ => s.stoppedAt t

/-- A step that leaves the stop watch alone and does not wait. -/
theorem stoppedAt.frame (h : s.stoppedAt t) (hw : s'.stopWatch = s.stopWatch)
    (he : ∀ e ∈ es, e.unwatched = true) : s'.stoppedAt (t ++ es) := by
  unfold stoppedAt
  rw [hw, lastWait_append_of_unwatched he]
  exact h

theorem stoppedAt.watched (h : s.stoppedAt t) {rest : List FdType} (hp : s.place = .events rest) :
    Watched connection t s := by
  unfold Watched
  rw [hp]
  rcases rest with _ | ⟨fd, rest⟩
  · exact fun _ => h
  · exact h

/-- An event was handled. -/
theorem stoppedAt.handled (h : s.stoppedAt t) {rest : List FdType} (hp : s'.place = .events rest)
    (hw : s'.stopWatch = s.stopWatch) (he : ∀ e ∈ es, e.unwatched = true) :
    Watched connection (t ++ es) s' :=
  (h.frame hw he).watched hp

/-- A step of the FSM thread, or one that throws. -/
theorem Watched.stutter (h : Watched connection t s) (hp : s'.place = s.place)
    (hw : s'.stopWatch = s.stopWatch) (hn : s'.now = s.now)
    (hc : s'.listener.receivedConfirm = s.listener.receivedConfirm)
    (he : ∀ e ∈ es, e.unwatched = true) : Watched connection (t ++ es) s' := by
  unfold Watched at h ⊢
  unfold stoppedAt at h ⊢
  rw [hp, hw, hn, hc, lastWait_append_of_unwatched he]
  exact h

/-- The timeout that goes with what the stop watch says. -/
theorem waitTimeout_of_stoppedAt (h : s.stoppedAt t) {l : Listener}
    (hrc : l.receivedConfirm = false) :
    (waitTimeout connection l s.stopWatch s.now).1 = connection.getTimeout - lastWait t := by
  obtain ⟨hstopped, hduration⟩ := h
  simp only [waitTimeout, hrc, StopWatch.duration, hstopped]
  rw [← hduration]
  rfl

/-- The stop watch was started where the wait began. -/
theorem stoppedAt_of_waited (hstart : s.stopWatch.startTime = s.now) {timeout : Int} {elapsed : ℕ}
    (hw : s'.stopWatch = s.stopWatch.stop (s.now + elapsed)) :
    s'.stoppedAt (t ++ [.waited timeout elapsed]) := by
  unfold stoppedAt
  rw [hw, lastWait_waited]
  refine ⟨rfl, ?_⟩
  show s.now + elapsed - s.stopWatch.startTime = elapsed
  omega

/-- The stop watch was set to zero. -/
theorem stoppedAt_of_reset {w : StopWatch} {now : Int} (hs : w.isStopped = true)
    (hw : s'.stopWatch = w.reset now) {e : Event} {mail : Mail} {bytes : Bytes} :
    s'.stoppedAt (t ++ [e, .retransmitted mail bytes]) := by
  unfold stoppedAt
  rw [hw, lastWait_retransmitted]
  exact ⟨hs, Int.sub_self now⟩

theorem unwatched_map {f : Mail → Event} (hf : ∀ mail, (f mail).unwatched = true)
    (mails : List Mail) : ∀ e ∈ mails.map f, e.unwatched = true := by
  intro e he
  obtain ⟨mail, -, rfl⟩ := List.mem_map.1 he
  exact hf mail

theorem Watched.step (hc : Consistent connection s) (hw : Watched connection t s)
    (h : Transition connection s es s') : Watched connection (t ++ es) s' := by
  cases h with
  | fail | refuse | notifyListener | stop => exact hw.stutter rfl rfl rfl rfl (by simp)
  | sendMail | pushMail | waitMail => exact hw.stutter rfl rfl rfl rfl (by simp [Event.unwatched])
  | finish => trivial
  | enterWait hp hgo h =>
    obtain ⟨rfl, -⟩ := toggleSendPipe_ok hc.registered h
    rw [Watched, hp] at hw
    rw [List.append_nil]
    exact ⟨rfl, rfl, fun hrc => waitTimeout_of_stoppedAt (hw hrc) hrc⟩
  | timeout => exact (stoppedAt_of_reset rfl rfl).watched rfl
  | ready hp | interrupted hp =>
    rw [Watched, hp] at hw
    exact (stoppedAt_of_waited hw.2.1 rfl).watched rfl
  | listenStdin hp h =>
    rw [Watched, hp] at hw
    exact stoppedAt.handled hw rfl rfl (unwatched_map (fun _ => rfl) _)
  | listenSignal hp h =>
    rw [Watched, hp] at hw
    exact stoppedAt.handled hw rfl rfl (unwatched_map (fun _ => rfl) _)
  | listenSocket hp h =>
    rw [Watched, hp] at hw
    refine stoppedAt.handled hw rfl rfl fun e he => ?_
    rcases List.mem_cons.1 he with rfl | he
    · rfl
    · obtain ⟨_, -, rfl⟩ := List.mem_map.1 he
      rfl
  | readNotify hp hn =>
    rw [Watched, hp] at hw
    exact hw.frame rfl (by simp)
  | popMail hp hm =>
    rw [Watched, hp] at hw
    exact hw.frame rfl (by simp [Event.unwatched])
  | transmit hp h =>
    rw [Watched, hp] at hw
    exact stoppedAt.handled hw rfl rfl (by simp [Event.unwatched])

theorem watched (r : (system connection).Run t s) : Watched connection t s := by
  apply r.invariant (I := fun t s => Watched connection t s)
  · rintro s rfl hrc
    cases hrc
  · intro t s es s' r ih h
    exact ih.step (consistent r) (transition h).2

/-- While the listener waits for a CONFIRM, the timeout lacks the last wait. -/
theorem timeout_eq (r : (system connection).Run t s) {timeout : Int} (hp : s.place = .waiting timeout)
    (hrc : s.listener.receivedConfirm = false) :
    timeout = connection.getTimeout - lastWait t := by
  have h := watched r
  rw [Watched, hp] at h
  exact h.2.2 hrc

/-- The wait is what a step shows first, and once. -/
theorem waiting_of_waited {timeout : Int} {elapsed : ℕ} (h : Transition connection s es s')
    (hm : Event.waited timeout elapsed ∈ es) :
    s.place = .waiting timeout ∧
      ∃ fs, es = .waited timeout elapsed :: fs ∧ Event.waited timeout elapsed ∉ fs := by
  cases h with
  | timeout hp | ready hp | interrupted hp =>
    obtain ⟨rfl, rfl⟩ : timeout = _ ∧ elapsed = _ := by simpa using hm
    exact ⟨hp, _, rfl, by simp⟩
  | _ => simp at hm

/-- `epoll_wait` returns where it was called. -/
theorem exists_waiting (r : (system connection).Run t s) {pre post : List Event} {timeout : Int}
    {elapsed : ℕ} (h : t = pre ++ .waited timeout elapsed :: post) :
    ∃ s₀, (system connection).Run pre s₀ ∧ s₀.place = .waiting timeout := by
  obtain ⟨t₀, s₀, es, s₁, pre', post', r₀, hstep, rfl, rfl⟩ := r.exists_step h
  obtain ⟨hp, fs, hes, hnotMem⟩ := waiting_of_waited (transition hstep).2
    (List.mem_append_right pre' List.mem_cons_self)
  rcases pre' with _ | ⟨e, pre'⟩
  · rw [List.append_nil]
    exact ⟨s₀, r₀, hp⟩
  · obtain ⟨-, rfl⟩ := List.cons.inj hes
    exact absurd (List.mem_append_right pre' List.mem_cons_self) hnotMem

/-! ## The deadline -/

/-- The timeout computed while a CONFIRM is missing, and what a wait of at most that long makes of
the time since the mail in flight was sent. -/
theorem deadline_iff (r : (system connection).Run t s) {timeout : Int} (hp : s.place = .waiting timeout)
    (hrc : s.listener.receivedConfirm = false) :
    (0 ≤ timeout ∧ timeout ≤ connection.getTimeout ∧
      ∀ elapsed : ℕ, elapsed ≤ timeout → spent t + elapsed ≤ connection.getTimeout) ↔
      Punctual connection t := by
  have heq := timeout_eq r hp hrc
  unfold Punctual
  constructor
  · rintro ⟨hnonneg, -, hspent⟩
    -- the listener may use up the whole timeout
    have hall := hspent timeout.toNat (by omega)
    omega
  · rintro ⟨hspent, hlast⟩
    refine ⟨by omega, by omega, fun elapsed helapsed => ?_⟩
    omega

/-- In UDP mode, in every run whose waits are no longer than they may be: if at each wait for a
CONFIRM the wait before accounts for all the time since the mail in flight was sent, then each of
these waits has a timeout between 0 and `getTimeout`, and at its end the mail was sent no longer than
`getTimeout` ago.  At any one wait for a CONFIRM this is so exactly if the wait before does. -/
theorem deadline_of_punctual (hu : connection.type = .udp) (r : (system connection).Run t s)
    (hk : Kept t) :
    ((∀ pre timeout (elapsed : ℕ) post, t = pre ++ .waited timeout elapsed :: post →
        unconfirmed pre ≠ none → Punctual connection pre) →
      ∀ pre timeout (elapsed : ℕ) post, t = pre ++ .waited timeout elapsed :: post →
        unconfirmed pre ≠ none →
        0 ≤ timeout ∧ timeout ≤ connection.getTimeout ∧
          spent pre + elapsed ≤ connection.getTimeout) ∧
    ∀ timeout, s.place = .waiting timeout → s.listener.receivedConfirm = false →
      ((0 ≤ timeout ∧ timeout ≤ connection.getTimeout ∧
        ∀ elapsed : ℕ, elapsed ≤ timeout → spent t + elapsed ≤ connection.getTimeout) ↔
        Punctual connection t) := by
  constructor
  · intro hpunctual pre timeout elapsed post h hflight
    obtain ⟨s₀, r₀, hp⟩ := exists_waiting r h
    have hrc : s₀.listener.receivedConfirm = false := by
      rw [← inFlight_eq_unconfirmed hu r₀] at hflight
      unfold inFlight at hflight
      split_ifs at hflight with hrc
      · exact absurd rfl hflight
      · simpa using hrc
    obtain ⟨hnonneg, hle, hspent⟩ :=
      (deadline_iff r₀ hp hrc).2 (hpunctual pre timeout elapsed post h hflight)
    refine ⟨hnonneg, hle, hspent elapsed ?_⟩
    exact hk (timeout, elapsed) (by simp [h, waits]) hnonneg
  · intro timeout hp hrc
    exact deadline_iff r hp hrc

/-- The user's BYE is sent again after a timeout, and the listener waits for its CONFIRM. -/
theorem deadline_of_punctual_once :
    ∃ t s, (system { type := .udp, timeout := 250, retries := 1 }).Run t s ∧
      s.place = .waiting 250 ∧ s.listener.receivedConfirm = false ∧
      (∀ pre timeout (elapsed : ℕ) post, t = pre ++ .waited timeout elapsed :: post →
        unconfirmed pre ≠ none → 0 ≤ timeout ∧ timeout ≤ 250 ∧ spent pre + elapsed ≤ (250 : Int)) ∧
      ((0 ≤ (250 : Int) ∧ (250 : Int) ≤ 250 ∧
        ∀ elapsed : ℕ, elapsed ≤ (250 : Int) → spent t + elapsed ≤ (250 : Int)) ↔
        Punctual { type := .udp, timeout := 250, retries := 1 } t) := by
  let bye : Mail := { type := some .bye, data := .bye ⟨0⟩ }
  obtain ⟨s, r, hp, hrc⟩ : ∃ s, (system { type := .udp, timeout := 250, retries := 1 }).Run
      ([.submitted bye, .pushed bye, .waited (-1) 7, .popped bye, .transmitted bye [0xFF, 0, 0],
        .waited 243 243, .retransmitted bye [0xFF, 0, 0]] : List Event) s ∧
      s.place = .waiting 250 ∧ s.listener.receivedConfirm = false :=
    ⟨_, run_of_exec { type := .udp, timeout := 250, retries := 1 } (.init rfl)
      [.sendMail bye, .pushMail, .notifyListener, .loopHead,
        .epollWait (.ready [.toSendPipe]) 7, .readNotify, .popMail, .transmit,
        .loopHead, .epollWait .timeout 243, .loopHead] rfl, rfl, rfl⟩
  have h := deadline_of_punctual rfl r (by simp [Kept, waits])
  refine ⟨_, s, r, hp, hrc, h.1 ?_, h.2 250 hp hrc⟩
  intro pre timeout elapsed post hsplit hflight
  obtain rfl | rfl : pre = [.submitted bye, .pushed bye] ∨
      pre = [.submitted bye, .pushed bye, .waited (-1) 7, .popped bye,
        .transmitted bye [0xFF, 0, 0]] := by
    obtain ⟨_, rfl, ⟨rfl, -⟩ | ⟨rfl, -⟩⟩ := by simpa [List.cons_eq_append_iff] using hsplit
    · exact .inl rfl
    · exact .inr rfl
  · exact absurd rfl hflight
  · constructor <;> decide

/-- The user logs in after so many milliseconds of silence, and the AUTH is transmitted. -/
def login (silence : ℕ) : List Program.Action :=
  Program.round [.stdinPipe] [.listenStdin (some (stdinStream [chars "/auth ann pw ann"]))] ++
  Program.mainThread 5 ++
  ([.loopHead, .epollWait (.ready [.toSendPipe]) silence, .readNotify, .popMail, .transmit,
    .loopHead] : List Action).map .listener

/-- After 100 ms a MSG arrives. -/
def traffic (id : Byte) : List Program.Action :=
  ([.epollWait (.ready [.socketPipe]) 100,
    .listenSocket (some (MessageType.msg.code :: 0 :: id :: (chars "bob" ++ 0 :: chars "hi" ++ [0]))),
    .loopHead] : List Action).map .listener

/-- With a timeout of 250 ms: the AUTH that is transmitted after 300 ms of silence is waited for
without a limit, and one that is waited for amidst messages is not sent again after 300 ms. -/
theorem deadline_missed :
    (∃ t p, (Program.system { type := .udp, timeout := 250, retries := 3 }).Run t p ∧ Kept t ∧
      p.client.listener.receivedConfirm = false ∧ p.client.place = .waiting (-50)) ∧
    ∃ t p, (Program.system { type := .udp, timeout := 250, retries := 3 }).Run t p ∧ Kept t ∧
      p.client.listener.receivedConfirm = false ∧ p.client.place = .waiting 150 ∧
      spent t = 300 := by
  constructor
  · obtain ⟨t, p, r, hwaits, hrc, hp⟩ : ∃ t p,
        (Program.system { type := .udp, timeout := 250, retries := 3 }).Run t p ∧
        waits t = [(-1, 0), (-1, 300)] ∧ p.client.listener.receivedConfirm = false ∧
        p.client.place = .waiting (-50) :=
      ⟨_, _, Program.run_of_exec _ (.init rfl) (login 300) rfl, rfl, rfl, rfl⟩
    exact ⟨t, p, r, by simp [Kept, hwaits], hrc, hp⟩
  · obtain ⟨t, p, r, hwaits, hrc, hp, hspent⟩ : ∃ t p,
        (Program.system { type := .udp, timeout := 250, retries := 3 }).Run t p ∧
        waits t = [(-1, 0), (-1, 0), (250, 100), (150, 100), (150, 100)] ∧
        p.client.listener.receivedConfirm = false ∧ p.client.place = .waiting 150 ∧
        spent t = 300 :=
      ⟨_, _, Program.run_of_exec _ (.init rfl) (login 0 ++ traffic 1 ++ traffic 2 ++ traffic 3) rfl,
        rfl, rfl, rfl, rfl⟩
    exact ⟨t, p, r, by simp [Kept, hwaits], hrc, hp, hspent⟩

end Client

end ChatClient

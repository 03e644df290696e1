import ChatClient.Program

/-!
# Whose requests the client sends

`FSM::run` passes an AUTH, a JOIN or a MSG on just as it was taken from the queue (`request_of_sent`).
A MSG that came from the socket is held back by its flag; an AUTH or a JOIN has no such flag, so the
requests sent are the user's as long as the peer sends none where the FSM forwards it
(`requests_from_user`).
-/

namespace ChatClient

open MailBox Outcome

/-- The mail is an AUTH or a JOIN, and in the given state it is sent on. -/
def State.forwards (state : State) (mail : Mail) : Prop :=
  (mail.type = some .auth ∧ (state = .start ∨ state = .auth)) ∨
    (mail.type = some .join ∧ state = .open_)

instance (state : State) (mail : Mail) : Decidable (state.forwards mail) :=
  inferInstanceAs (Decidable (_ ∨ _))

namespace FSM

variable {t es : List Event} {s s' : FSM}

@[simp] theorem consumed_append (t u : List Event) : consumed (t ++ u) = consumed t ++ consumed u :=
  List.filterMap_append

theorem after_concat (mails : List Mail) (mail : Mail) :
    State.after (mails ++ [mail]) = (State.after mails).next mail :=
  List.foldl_concat _ _ _ _

/-- The state as a function of the mails taken before the turn. -/
def Tracked (t : List Event) (s : FSM) : Prop :=
  match s.place with
  | .head => s.state = State.after (consumed t) ∨ s.state = .end_
  | .read => ∃ u, t = u ++ [.consumed s.mail] ∧ s.state = State.after (consumed u)

theorem Tracked.step (hk : Tracked t s) (h : Step s es s') : Tracked (t ++ es) s' := by
  cases h with
  | @wait state old mail hs =>
    refine ⟨t, rfl, ?_⟩
    rcases hk with hk | hk
    · exact hk
    · obtain rfl : state = .end_ := hk
      cases hs
  | @turn state mail place mb turn hs hplace h =>
    have hnext := turn_next h
    have hsent : consumed (t ++ if turn.sends then [.sent turn.mail] else []) = consumed t := by
      rw [consumed_append]
      split_ifs <;> exact List.append_nil _
    cases place with
    | head =>
      -- only ERROR has a turn without `waitMail`
      have hw : state.waits = false := hplace.resolve_left (by decide)
      cases state with
      | start | auth | open_ => cases hw
      | error => exact .inr hnext
      | end_ => exact absurd rfl hs
    | read =>
      obtain ⟨u, rfl, hstate⟩ := hk
      refine .inl ?_
      rw [hsent, consumed_append]
      change turn.next = State.after (consumed u ++ [mail])
      rw [after_concat, hnext]
      exact congrArg (State.next · mail) hstate

theorem tracked (r : system.Run t s) : Tracked t s := by
  apply r.invariant
  · rintro s rfl
    exact .inl rfl
  · intro t s es s' _ ih h
    exact ih.step h

/-- An AUTH, a JOIN or a MSG that is sent was taken from the queue just before, in a state in which it
is forwarded, or with the flag that lets it out. -/
theorem request_of_sent (r : system.Run t s) {pre post : List Event} {mail : Mail}
    (h : t = pre ++ .sent mail :: post)
    (ht : mail.type = some .auth ∨ mail.type = some .join ∨ mail.type = some .msg) :
    ∃ u, pre = u ++ [.consumed mail] ∧ ((State.after (consumed u)).forwards mail ∨
      ∃ text, mail.data = .text text ∧ text.toSend = true) := by
  obtain ⟨t₀, s₀, es, s₁, pre', post', r₀, hs, rfl, hes⟩ := r.exists_step h
  have hk := tracked r₀
  cases hs with
  | wait =>
    rcases List.cons_eq_append_iff.1 hes with ⟨-, hhead⟩ | ⟨rest, -, hrest⟩
    · simp at hhead
    · simp at hrest
  | @turn state mail₀ place mb turn hs hplace hturn =>
    have hreact := turn_reaction hs hturn
    have hmem : .sent mail ∈ if turn.sends then [Event.sent turn.mail] else [] := by
      rw [hes]
      exact List.mem_append_right _ List.mem_cons_self
    have hpre : pre' = [] := by
      split_ifs at hes
      · rcases List.cons_eq_append_iff.1 hes with ⟨hnil, -⟩ | ⟨rest, -, hrest⟩
        · exact hnil
        · simp at hrest
      · simp at hes
    have hread : state.waits = true →
        ∃ u, t₀ = u ++ [.consumed mail₀] ∧ state = State.after (consumed u) := by
      intro hw
      have hp : place = .read := hplace.resolve_right (by simp [hw])
      subst hp
      exact hk
    clear hturn
    rw [hpre, List.append_nil]
    cases hreact with
    | authenticate hs' hauth =>
      obtain rfl : mail = mail₀ := by simpa using hmem
      obtain ⟨u, rfl, hstate⟩ := hread (by rcases hs' with rfl | rfl <;> rfl)
      exact ⟨u, rfl, .inl (.inl ⟨hauth, hstate ▸ hs'⟩)⟩
    | say hs' hmsg hd htext =>
      obtain rfl : mail = mail₀ := by simpa using hmem
      obtain ⟨u, rfl, -⟩ := hread (by rw [hs']; rfl)
      exact ⟨u, rfl, .inr ⟨_, hd, htext⟩⟩
    | join hs' hjoin =>
      obtain rfl : mail = mail₀ := by simpa using hmem
      obtain ⟨u, rfl, hstate⟩ := hread (by rw [hs']; rfl)
      exact ⟨u, rfl, .inl (.inr ⟨hjoin, hstate ▸ hs'⟩)⟩
    | complain _ _ herr | quit _ herr =>
      obtain rfl : mail = _ := by simpa using hmem
      rcases ht with ht | ht | ht <;> simp [ht] at herr
    | accept | ignore | leave => simp at hmem

end FSM

namespace Program

variable {connection : NetworkConnection} {t : List Event} {p : Program}

/-- The AUTHs, JOINs and MSGs sent so far were made from lines of user input: each is the mail that was
taken from the queue last, it had been added to the queue for the user, and `writeMail` had made it
from a line. -/
def UserRequests (t : List Event) : Prop :=
  ∀ pre mail post, t = pre ++ .submitted mail :: post →
    mail.type = some .auth ∨ mail.type = some .join ∨ mail.type = some .msg →
    ∃ k : ℕ, (consumed pre).length = k + 1 ∧ (consumed pre)[k]? = some mail ∧
      (arrivals t)[k]? = some (Origin.user, mail) ∧ FromLine mail

/-- The `k`-th mail taken is the `k`-th that arrived. -/
theorem arrival_of_consumed {s : Client} (r : (Client.system connection).Run t s) {k : ℕ}
    {mail : Mail} (h : (consumed t)[k]? = some mail) :
    ∃ origin, (arrivals t)[k]? = some (origin, mail) := by
  have hmap : ((arrivals t).map Prod.snd)[k]? = some mail := by
    rw [← Client.consumed_append_incoming r, List.getElem?_append_left, h]
    exact (List.getElem?_eq_some_iff.1 h).1
  rw [List.getElem?_map, Option.map_eq_some_iff] at hmap
  obtain ⟨⟨origin, m⟩, hk, rfl⟩ := hmap
  exact ⟨origin, hk⟩

/-- An AUTH, JOIN or MSG that arrived from the user was made from a line. -/
theorem fromLine_of_arrival {s : Client} (r : (Client.system connection).Run t s) {mail : Mail}
    (h : (Origin.user, mail) ∈ arrivals t)
    (ht : mail.type = some .auth ∨ mail.type = some .join ∨ mail.type = some .msg) :
    FromLine mail := by
  rcases Client.event_of_arrival h with ⟨-, he⟩ | ⟨h, -⟩
  · rcases ((Client.sourced r).entered mail he).1 with hline | ⟨herr, -⟩
    · exact hline
    · rcases ht with ht | ht | ht <;> simp [ht] at herr
  · cases h

/-- In every run, in either mode: if no AUTH that the FSM takes in START or AUTH and no JOIN that it
takes in OPEN came from the peer, then every AUTH, JOIN and MSG it sends was made from a line of user
input. -/
theorem requests_from_user (r : (system connection).Run t p)
    (hpeer : ∀ k mail, (consumed t)[k]? = some mail →
      (State.after ((consumed t).take k)).forwards mail → (arrivals t)[k]? ≠ some (.peer, mail)) :
    UserRequests t := by
  intro pre mail post h ht
  have hclient := client_run r
  have hloop : t.filterMap loopEvent =
      pre.filterMap loopEvent ++ .sent mail :: post.filterMap loopEvent := by
    rw [h, List.filterMap_append]
    rfl
  obtain ⟨u, hu, hforward⟩ := FSM.request_of_sent (loop_run r) hloop ht
  have hpre : consumed pre = FSM.consumed u ++ [mail] := by
    rw [← consumed_loopEvent, hu, FSM.consumed_append]
    rfl
  have hconsumed : consumed t = FSM.consumed u ++ mail :: consumed (.submitted mail :: post) := by
    rw [h, consumed_append, hpre, List.append_assoc]
    rfl
  have hk : (consumed t)[(FSM.consumed u).length]? = some mail := by
    rw [hconsumed]
    simp
  obtain ⟨origin, harrival⟩ := arrival_of_consumed hclient hk
  have horigin : origin = .user := by
    cases origin with
    | user => rfl
    | peer =>
      exfalso
      rcases hforward with hforward | ⟨text, hd, htext⟩
      · refine hpeer _ mail hk ?_ harrival
        rw [hconsumed, List.take_left]
        exact hforward
      · -- the flag is not set on what comes from the socket
        rcases Client.event_of_arrival (List.mem_of_getElem? harrival) with ⟨h, -⟩ | ⟨-, _, he⟩
        · cases h
        · have hsocket := ((Client.sourced hclient).received _ _ _ he).1
          rw [hsocket.toSend hd] at htext
          cases htext
  subst horigin
  refine ⟨_, ?_, ?_, harrival, fromLine_of_arrival hclient (List.mem_of_getElem? harrival) ht⟩
  · rw [hpre, List.length_append, List.length_singleton]
  · rw [hpre, List.getElem?_concat_length]

/-- The user logs in, and nothing comes from the peer. -/
theorem requests_from_user_auth :
    ∃ t p, (system { type := .udp }).Run t p ∧ (submitted t).map Mail.type = [some .auth] ∧
      UserRequests t := by
  obtain ⟨t, p, r, hsub, harr⟩ : ∃ t p, (system { type := .udp }).Run t p ∧
      (submitted t).map Mail.type = [some .auth] ∧ (arrivals t).map Prod.fst = [.user] :=
    ⟨_, _, run_of_exec { type := .udp } (.init rfl)
      (round [.stdinPipe] [.listenStdin (some (stdinStream [chars "/auth ann pw ann"]))] ++
        mainThread 2) rfl, rfl, rfl⟩
  refine ⟨t, p, r, hsub, requests_from_user r fun k mail _ _ harrival => ?_⟩
  have hmem := List.mem_map_of_mem (f := Prod.fst) (List.mem_of_getElem? harrival)
  rw [harr] at hmem
  simp at hmem

/-- Behind the user's AUTH comes one of the peer, which is taken in AUTH. -/
theorem peer_auth_sent :
    ∃ t p user mail, (system { type := .udp, timeout := 250, retries := 3 }).Run t p ∧
      (transmitted t).map Mail.type = [some .auth] ∧ submitted t = [user, mail] ∧
      mail.type = some .auth ∧ arrivals t = [(.user, user), (.peer, mail)] ∧
      ¬ UserRequests t := by
  obtain ⟨t, p, user, mail, r, htrans, hsub, ht, harr, hlen⟩ : ∃ t p user mail,
      (system { type := .udp, timeout := 250, retries := 3 }).Run (t ++ [.submitted mail]) p ∧
      (transmitted (t ++ [.submitted mail])).map Mail.type = [some .auth] ∧
      submitted (t ++ [.submitted mail]) = [user, mail] ∧ mail.type = some .auth ∧
      arrivals (t ++ [.submitted mail]) = [(.user, user), (.peer, mail)] ∧
      (consumed t).length = 2 :=
    ⟨_, _, _, _, run_of_exec _ (run_of_exec { type := .udp, timeout := 250, retries := 3 } (.init rfl)
      (round [.stdinPipe] [.listenStdin (some (stdinStream [chars "/auth ann pw ann"]))] ++
        mainThread 5 ++ round [.toSendPipe] [.readNotify, .popMail, .transmit] ++
        round [.socketPipe] [.listenSocket
          (some (MessageType.auth.code :: 0 :: 1 :: chars "u" ++ [0] ++ chars "d" ++ [0] ++
            chars "s" ++ [0]))] ++
        mainThread 1) rfl) (mainThread 1) rfl, rfl, rfl, rfl, rfl, rfl⟩
  refine ⟨_, p, user, mail, r, htrans, hsub, ht, harr, fun h => ?_⟩
  obtain ⟨k, hk, -, harrival, -⟩ := h t mail [] rfl (.inl ht)
  obtain rfl : k = 1 := by omega
  rw [harr] at harrival
  simp at harrival

end Program

end ChatClient

import ChatClient.FSM
import Mathlib.Computability.RegularExpressions
import Mathlib.Data.List.Chain

/-!
# What `FSM::run` sends

Whatever mails `waitMail` returns, the types of the mails passed to `sendMail` spell a prefix of a
word of `AUTH* (MSG | JOIN)* ERR? BYE` (`output_language`).  Each state comes with the language of
what may have been sent when the loop stands in it (`State.outputs`), and a reaction leads from a word
of one language to a word of the next.
-/

namespace ChatClient

open RegularExpression

/-! ## The languages -/

/-- `AUTH* (MSG | JOIN)*` -/
def requests : RegularExpression MessageType :=
  (char MessageType.auth).star * (char MessageType.msg + char MessageType.join).star

/-- `AUTH* (MSG | JOIN)* ERR? BYE` -/
def session : RegularExpression MessageType := requests * (1 + char .err) * char .bye

/-- What has been sent when the loop stands in a state. -/
def State.outputs : State → RegularExpression MessageType
  | start => 1
  | auth => (char .auth).star
  | open_ => requests
  | error => requests * char .err
  | end_ => requests + session

section Words

variable {state : State} {w : List MessageType} {x : MessageType}

theorem append_mem_star {P : RegularExpression MessageType} (h : w ∈ P.star.matches')
    (hx : [x] ∈ P.matches') : w ++ [x] ∈ P.star.matches' := by
  rw [matches'_star] at h ⊢
  rw [← Language.one_add_kstar_mul_self_eq_kstar, Language.mem_add]
  exact .inr (Language.append_mem_mul h hx)

theorem nil_mem_star (P : RegularExpression MessageType) : [] ∈ P.star.matches' := by
  rw [matches'_star]
  exact Language.nil_mem_kstar _

theorem mem_requests : w ∈ requests.matches' ↔
    ∃ auths ∈ (char MessageType.auth).star.matches',
      ∃ talk ∈ (char MessageType.msg + char MessageType.join).star.matches',
        auths ++ talk = w := by
  rw [requests, matches'_mul, Language.mem_mul]

/-- A word of the star of some letters consists of these letters. -/
theorem mem_of_mem_star {P : RegularExpression MessageType} {letters : List MessageType}
    (hP : ∀ v ∈ P.matches', ∀ y ∈ v, y ∈ letters) (h : w ∈ P.star.matches') :
    ∀ y ∈ w, y ∈ letters := by
  rw [matches'_star, Language.mem_kstar] at h
  obtain ⟨L, rfl, hL⟩ := h
  intro y hy
  obtain ⟨v, hv, hyv⟩ := List.mem_flatten.1 hy
  exact hP v (hL v hv) y hyv

theorem requests_letters (h : w ∈ requests.matches') :
    ∀ y ∈ w, y = .auth ∨ y = .msg ∨ y = .join := by
  obtain ⟨auths, hauths, talk, htalk, rfl⟩ := mem_requests.1 h
  have hauth : ∀ y ∈ auths, y ∈ [MessageType.auth] := by
    refine mem_of_mem_star ?_ hauths
    rintro v rfl y hy
    exact hy
  have hsay : ∀ y ∈ talk, y ∈ [MessageType.msg, .join] := by
    refine mem_of_mem_star ?_ htalk
    intro v hv y hy
    rw [matches'_add, Language.mem_add] at hv
    rcases hv with rfl | rfl
    · exact List.mem_cons.2 (.inl (List.mem_singleton.1 hy))
    · exact List.mem_cons_of_mem _ hy
  intro y hy
  rcases List.mem_append.1 hy with hy | hy
  · exact .inl (List.mem_singleton.1 (hauth y hy))
  · exact .inr (by simpa using hsay y hy)

/-- In the states that wait for a mail only requests have been sent. -/
theorem outputs_le_requests (hs : state.waits = true) (h : w ∈ state.outputs.matches') :
    w ∈ requests.matches' := by
  cases state with
  | start =>
    obtain rfl : w = [] := h
    exact mem_requests.2 ⟨[], nil_mem_star _, [], nil_mem_star _, rfl⟩
  | auth => exact mem_requests.2 ⟨w, h, [], nil_mem_star _, List.append_nil w⟩
  | open_ => exact h
  | error | end_ => cases hs

theorem append_err_mem (h : w ∈ requests.matches') :
    w ++ [MessageType.err] ∈ State.error.outputs.matches' :=
  Language.append_mem_mul h rfl

theorem append_bye_mem (hs : state ≠ .end_) (h : w ∈ state.outputs.matches') :
    w ++ [MessageType.bye] ∈ session.matches' := by
  have hopt : ∀ {v}, v ∈ requests.matches' → v ∈ (requests * (1 + char MessageType.err)).matches' := by
    intro v hv
    rw [← List.append_nil v]
    exact Language.append_mem_mul hv (.inl rfl)
  have hwaits : state.waits = true → w ++ [MessageType.bye] ∈ session.matches' := fun hw =>
    Language.append_mem_mul (hopt (outputs_le_requests hw h)) rfl
  cases state with
  | start | auth | open_ => exact hwaits rfl
  | error =>
    obtain ⟨v, hv, e, he, rfl⟩ := Language.mem_mul.1 h
    exact Language.append_mem_mul (Language.append_mem_mul hv (.inr he)) rfl
  | end_ => exact absurd rfl hs

/-- What was sent so far can be completed to a session. -/
theorem exists_session (h : w ∈ state.outputs.matches') : ∃ v ∈ session.matches', w <+: v := by
  by_cases hs : state = .end_
  · subst hs
    rcases h with h | h
    · have hopen : w ∈ State.open_.outputs.matches' := h
      exact ⟨_, append_bye_mem (by decide) hopen, List.prefix_append _ _⟩
    · exact ⟨w, h, List.prefix_rfl⟩
  · exact ⟨_, append_bye_mem hs h, List.prefix_append _ _⟩

theorem bye_notMem (hs : state ≠ .end_) (h : w ∈ state.outputs.matches') : MessageType.bye ∉ w := by
  have hreq : ∀ {v}, v ∈ requests.matches' → MessageType.bye ∉ v := by
    intro v hv hm
    simpa using requests_letters hv _ hm
  cases state with
  | start | auth | open_ => exact hreq (outputs_le_requests rfl h)
  | error =>
    obtain ⟨v, hv, e, rfl, rfl⟩ := Language.mem_mul.1 h
    simpa using hreq hv
  | end_ => exact absurd rfl hs

end Words

namespace FSM

/-! ## Runs of the loop -/

/-- The mails passed to `sendMail`. -/
def sent (t : List Event) : List Mail :=
  t.filterMap fun | .sent mail => some mail | _ => none

/-- The mails returned by `waitMail`. -/
def consumed (t : List Event) : List Mail :=
  t.filterMap fun | .consumed mail => some mail | _ => none

/-- An AUTH was sent, and a REPLY with a true result was taken after that. -/
def Authenticated (t : List Event) : Prop :=
  ∃ pre mail reply post, t = pre ++ .consumed mail :: post ∧
    (∃ m ∈ sent pre, m.type = some .auth) ∧ mail.type = some .reply ∧ mail.data = .reply reply ∧
    reply.result = true

/-- END was entered by taking a BYE in OPEN. -/
def LeftByBye (t : List Event) : Prop :=
  ∃ t₀ s₀ mail, system.Run t₀ s₀ ∧ s₀.state = .open_ ∧ t = t₀ ++ [.consumed mail] ∧
    mail.type = some .bye

variable {t es : List Event} {s s' : FSM}

@[simp] theorem sent_append (t u : List Event) : sent (t ++ u) = sent t ++ sent u :=
  List.filterMap_append

@[simp] theorem sent_consumed (mail : Mail) : sent [.consumed mail] = [] := rfl

@[simp] theorem sent_sent (mail : Mail) : sent [.sent mail] = [mail] := rfl

theorem mem_of_mem_sent {mail : Mail} (h : mail ∈ sent t) : .sent mail ∈ t := by
  obtain ⟨e, he, heq⟩ := List.mem_filterMap.1 h
  cases e with
  | consumed => cases heq
  | sent m =>
    cases heq
    exact he

theorem Authenticated.append (h : Authenticated t) (u : List Event) : Authenticated (t ++ u) := by
  obtain ⟨pre, mail, reply, post, rfl, h⟩ := h
  exact ⟨pre, mail, reply, post ++ u, by simp, h⟩

/-- Behind `waitMail` the trace ends with the mail that was returned, and the state is the one the
loop waited in. -/
theorem run_of_read (r : system.Run t s) (hp : s.place = .read) :
    s.state.waits = true ∧ ∃ t₀ old, t = t₀ ++ [.consumed s.mail] ∧
      system.Run t₀ ⟨s.state, old, .head⟩ := by
  cases r with
  | init h =>
    rw [show s = {} from h] at hp
    cases hp
  | step r h =>
    cases h with
    | wait mail hs => exact ⟨hs, _, _, rfl, r⟩
    | turn mb hs hturn h => cases hp

/-- What the mails sent so far look like. -/
structure Spoken (t : List Event) (s : FSM) : Prop where
  word : ∃ w ∈ s.state.outputs.matches', (sent t).map Mail.type = w.map some
  asked : s.state = .auth → ∃ m ∈ sent t, m.type = some .auth
  admitted : s.state = .open_ → Authenticated t
  chain : (sent t).IsChain fun m m' => m.type = some .err → m'.type = some .bye
  last : ∀ m ∈ (sent t).getLast?, m.type = some .err → s.state = .error
  closed : s.state = .end_ → LeftByBye t ∨
    ∃ l b, sent t = l ++ [b] ∧ b.type = some .bye ∧ ∀ m ∈ l, m.type ≠ some .bye

/-- A step that sends nothing and leads to a state in which as much may have been sent. -/
theorem Spoken.stutter (hk : Spoken t s) (hes : sent es = [])
    (hword : ∀ w ∈ s.state.outputs.matches', w ∈ s'.state.outputs.matches')
    (hasked : s'.state = .auth → s.state = .auth)
    (hadmitted : s'.state = .open_ → s.state ≠ .open_ → Authenticated (t ++ es))
    (hlast : s.state ≠ .error)
    (hclosed : s'.state = .end_ → LeftByBye (t ++ es)) : Spoken (t ++ es) s' := by
  have hsent : sent (t ++ es) = sent t := by rw [sent_append, hes, List.append_nil]
  obtain ⟨w, hw, hwt⟩ := hk.word
  refine ⟨⟨w, hword w hw, hsent ▸ hwt⟩, ?_, ?_, hsent ▸ hk.chain, ?_, fun h => .inl (hclosed h)⟩
  · intro h
    rw [hsent]
    exact hk.asked (hasked h)
  · intro h
    by_cases ho : s.state = .open_
    · exact (hk.admitted ho).append es
    · exact hadmitted h ho
  · intro m hm ht
    rw [hsent] at hm
    exact absurd (hk.last m hm ht) hlast

/-- A step that sends a mail. -/
theorem Spoken.send (hk : Spoken t s) {mail : Mail} {x : MessageType} (ht : mail.type = some x)
    (hword : ∀ w ∈ s.state.outputs.matches', w ++ [x] ∈ s'.state.outputs.matches')
    (hasked : s'.state = .auth → x = .auth)
    (hadmitted : s'.state = .open_ → s.state = .open_)
    (hlast : x = .err → s'.state = .error) (hchain : s.state = .error → x = .bye)
    (hclosed : s'.state = .end_ → s.state ≠ .end_ ∧ x = .bye) :
    Spoken (t ++ [.sent mail]) s' := by
  have hsent : sent (t ++ [.sent mail]) = sent t ++ [mail] := by rw [sent_append, sent_sent]
  obtain ⟨w, hw, hwt⟩ := hk.word
  refine ⟨⟨w ++ [x], hword w hw, ?_⟩, ?_, ?_, ?_, ?_, ?_⟩
  · rw [hsent, List.map_append, List.map_append, hwt, List.map_singleton, ht]
    rfl
  · intro h
    rw [hsent]
    exact ⟨mail, by simp, by rw [ht, hasked h]⟩
  · intro h
    exact (hk.admitted (hadmitted h)).append _
  · rw [hsent]
    refine hk.chain.append (List.isChain_singleton _) fun m hm m' hm' herr => ?_
    obtain rfl : mail = m' := by simpa using hm'
    rw [ht, hchain (hk.last m hm herr)]
  · intro m hm herr
    rw [hsent, List.getLast?_concat] at hm
    obtain rfl : mail = m := by simpa using hm
    rw [ht] at herr
    exact hlast (Option.some.inj herr)
  · intro h
    obtain ⟨hs, hx⟩ := hclosed h
    refine .inr ⟨sent t, mail, hsent, by rw [ht, hx], fun m hm hbye => bye_notMem hs hw ?_⟩
    have hmem : some MessageType.bye ∈ (sent t).map Mail.type := List.mem_map.2 ⟨m, hm, hbye⟩
    rw [hwt] at hmem
    simpa using hmem

theorem Spoken.step (r : system.Run t s) (hk : Spoken t s) (h : Step s es s') :
    Spoken (t ++ es) s' := by
  cases h with
  | wait mail hs =>
    refine hk.stutter rfl (fun _ => id) id (fun h hn => absurd h hn) ?_ ?_
    · rintro rfl
      cases hs
    · rintro rfl
      cases hs
  | @turn state mail place mb turn hs hp h =>
    have hread : state.waits = true → ∃ t₀ old, t = t₀ ++ [.consumed mail] ∧
        system.Run t₀ ⟨state, old, .head⟩ := by
      intro hw
      rcases hp with hp | hp
      · exact (run_of_read r hp).2
      · rw [hw] at hp
        cases hp
    have hreact := turn_reaction hs h
    clear h
    cases hreact with
    | authenticate hs' ht =>
      refine hk.send ht ?_ (fun _ => rfl) (fun h => nomatch h) (fun h => nomatch h) ?_
        (fun h => nomatch h)
      · rcases hs' with rfl | rfl
        · rintro w rfl
          exact append_mem_star (nil_mem_star _) rfl
        · intro w hw
          exact append_mem_star hw rfl
      · rintro rfl
        rcases hs' with h | h <;> cases h
    | accept hs' ht hd hm =>
      subst hs'
      refine hk.stutter rfl (fun w => outputs_le_requests rfl) (fun h => nomatch h) ?_
        (fun h => nomatch h) (fun h => nomatch h)
      intro _ _
      obtain ⟨t₀, old, rfl, -⟩ := hread rfl
      refine Authenticated.append ⟨t₀, mail, _, [], rfl, ?_, ht, hd, hm⟩ _
      simpa using hk.asked rfl
    | say hs' ht hd hm =>
      subst hs'
      refine hk.send ht ?_ (fun h => nomatch h) (fun _ => rfl) (fun h => nomatch h)
        (fun h => nomatch h) (fun h => nomatch h)
      intro w hw
      obtain ⟨auths, hauths, talk, htalk, rfl⟩ := mem_requests.1 hw
      exact mem_requests.2 ⟨auths, hauths, _, append_mem_star htalk (.inl rfl), by simp⟩
    | join hs' ht =>
      subst hs'
      refine hk.send ht ?_ (fun h => nomatch h) (fun _ => rfl) (fun h => nomatch h)
        (fun h => nomatch h) (fun h => nomatch h)
      intro w hw
      obtain ⟨auths, hauths, talk, htalk, rfl⟩ := mem_requests.1 hw
      exact mem_requests.2 ⟨auths, hauths, _, append_mem_star htalk (.inr rfl), by simp⟩
    | ignore hw hb =>
      refine hk.stutter rfl (fun _ => id) id (fun h hn => absurd h hn) ?_ ?_
      · rintro rfl
        cases hw
      · rintro rfl
        cases hw
    | leave hs' ht =>
      subst hs'
      refine hk.stutter rfl (fun w hw => .inl hw) (fun h => nomatch h) (fun h => nomatch h)
        (fun h => nomatch h) (fun _ => ?_)
      obtain ⟨t₀, old, rfl, r₀⟩ := hread rfl
      exact ⟨t₀, _, mail, r₀, rfl, List.append_nil _, ht⟩
    | complain hw hb ht hq =>
      refine hk.send ht (fun w h => append_err_mem (outputs_le_requests hw h)) (fun h => nomatch h)
        (fun h => nomatch h) (fun _ => rfl) ?_ (fun h => nomatch h)
      rintro rfl
      cases hw
    | quit hb ht hq =>
      exact hk.send ht (fun w h => .inr (append_bye_mem hs h)) (fun h => nomatch h)
        (fun h => nomatch h) (fun h => nomatch h) (fun _ => rfl) (fun _ => ⟨hs, rfl⟩)

theorem spoken (r : system.Run t s) : Spoken t s := by
  apply r.invariant
  · rintro s rfl
    refine ⟨⟨[], rfl, rfl⟩, (fun h => nomatch h), (fun h => nomatch h), List.isChain_nil, ?_,
      (fun h => nomatch h)⟩
    intro m hm
    cases hm
  · intro t s es s' r ih h
    exact ih.step r h

/-- A MSG or a JOIN is sent in OPEN only, and a MSG only if it is meant to be. -/
theorem talk_of_step (h : Step s es s') {mail : Mail} (hm : .sent mail ∈ es) :
    (mail.type = some .msg → s.state = .open_ ∧
      ∃ text, mail.data = .text text ∧ text.toSend = true) ∧
    (mail.type = some .join → s.state = .open_) := by
  cases h with
  | wait => simp at hm
  | @turn state mail₀ place mb turn hs hp h =>
    have hreact := turn_reaction hs h
    clear h
    cases hreact with
    | authenticate _ ht | complain _ _ ht | quit _ ht =>
      obtain rfl : mail = _ := by simpa using hm
      simp [ht]
    | say hs' ht hd htext =>
      obtain rfl : mail = _ := by simpa using hm
      exact ⟨fun _ => ⟨hs', _, hd, htext⟩, fun _ => hs'⟩
    | join hs' ht =>
      obtain rfl : mail = _ := by simpa using hm
      exact ⟨fun hmsg => by simp [ht] at hmsg, fun _ => hs'⟩
    | accept | ignore | leave => simp at hm

/-- In every run of `FSM::run`: the types of the mails sent are a prefix of a word of
`AUTH* (MSG | JOIN)* ERR? BYE`; a MSG or JOIN is sent only behind a REPLY with a true result that was
taken after an AUTH was sent; every MSG sent is one to be sent; what is sent after an ERR is a BYE; and
in END, either a BYE has been sent, once and last, or END was entered by a BYE taken in OPEN and
neither a BYE nor an ERR has been sent. -/
theorem output_language (r : system.Run t s) :
    (∃ w ∈ session.matches', (sent t).map Mail.type <+: w.map some) ∧
    (∀ pre mail post, t = pre ++ .sent mail :: post →
      mail.type = some .msg ∨ mail.type = some .join → Authenticated pre) ∧
    (∀ mail ∈ sent t, mail.type = some .msg →
      ∃ text, mail.data = .text text ∧ text.toSend = true) ∧
    ((sent t).IsChain fun m m' => m.type = some .err → m'.type = some .bye) ∧
    (s.state = .end_ →
      (¬ LeftByBye t →
        ∃ l b, sent t = l ++ [b] ∧ b.type = some .bye ∧ ∀ m ∈ l, m.type ≠ some .bye) ∧
      (LeftByBye t → ∀ m ∈ sent t, m.type ≠ some .bye ∧ m.type ≠ some .err)) := by
  have hk := spoken r
  refine ⟨?_, ?_, ?_, hk.chain, fun hend => ⟨fun hn => ?_, ?_⟩⟩
  · obtain ⟨w, hw, hwt⟩ := hk.word
    obtain ⟨v, hv, hpre⟩ := exists_session hw
    refine ⟨v, hv, ?_⟩
    rw [hwt]
    exact hpre.map some
  · rintro pre mail post rfl htype
    obtain ⟨t₀, s₀, es, s₁, pre', post', r₀, h, rfl, hes⟩ := r.exists_step rfl
    have htalk := talk_of_step h (hes ▸ List.mem_append_right _ List.mem_cons_self)
    have hopen : s₀.state = .open_ := by
      rcases htype with ht | ht
      · exact (htalk.1 ht).1
      · exact htalk.2 ht
    exact ((spoken r₀).admitted hopen).append pre'
  · intro mail hm htype
    obtain ⟨t₀, s₀, es, s₁, -, h, hm', -⟩ := r.exists_step_of_mem (mem_of_mem_sent hm)
    exact ((talk_of_step h hm').1 htype).2
  · exact (hk.closed hend).resolve_left hn
  · rintro ⟨t₀, s₀, mail, r₀, hopen, rfl, -⟩ m hm
    rw [sent_append, sent_consumed, List.append_nil] at hm
    obtain ⟨w, hw, hwt⟩ := (spoken r₀).word
    have hmem : m.type ∈ w.map some := by
      rw [← hwt]
      exact List.mem_map.2 ⟨m, hm, rfl⟩
    obtain ⟨x, hx, hxt⟩ := List.mem_map.1 hmem
    rw [hopen] at hw
    rw [← hxt]
    rcases requests_letters hw x hx with rfl | rfl | rfl <;> decide

/-- The user logs in, says something and leaves. -/
theorem output_language_interrupted :
    ∃ t s, system.Run t s ∧ s.state = .end_ ∧
      (sent t).map Mail.type = [some .auth, some .msg, some .bye] ∧
      ∃ w ∈ session.matches', (sent t).map Mail.type <+: w.map some := by
  let name : DisplayName := ⟨chars "ann", by decide⟩
  let mb : MailBox := { deliveryService := .tcp }
  have r := ((((Lts.Run.init rfl : system.Run [] {}).step
    (.wait { type := some .auth, data := .auth ⟨0, ⟨chars "ann", by decide⟩, name,
      ⟨chars "pw", by decide⟩⟩ } rfl)).step (.turn mb (by decide) (.inl rfl) rfl)).step
    (.wait { type := some .reply, data := .reply ⟨0, true, 0, ⟨chars "hi", by decide⟩⟩ } rfl)).step
    (.turn mb (by decide) (.inl rfl) rfl)
  have r := (((r.step
    (.wait { type := some .msg, data := .text ⟨true, 0, name, ⟨chars "hi", by decide⟩⟩ } rfl)).step
    (.turn mb (by decide) (.inl rfl) rfl)).step
    (.wait { type := some .err, data := .error ⟨0, name, ⟨chars "x", by decide⟩⟩, sigint := true }
      rfl)).step (.turn mb (by decide) (.inl rfl) rfl)
  exact ⟨_, _, r, rfl, rfl, (output_language r).1⟩

end FSM

end ChatClient

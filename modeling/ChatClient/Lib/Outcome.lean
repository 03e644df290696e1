import Mathlib.Tactic.Basic

/-!
# Computations that can fail

Taking apart a successful `Except` computation, plain or over a state, and computations that make
checks: `Checks bad x p` says that `x` succeeds exactly when `p` holds, and that every error it can end
with is one of `bad`.
-/

namespace Outcome

universe u v

variable {ε : Type u} {σ α β : Type v}

theorem bind_eq_ok {x : Except ε α} {f : α → Except ε β} {b : β} :
    (x >>= f) = .ok b ↔ ∃ a, x = .ok a ∧ f a = .ok b := by
  rcases x with e | a
  · constructor
    · intro h
      cases h
    · rintro ⟨a, h, -⟩
      cases h
  · constructor
    · intro h
      exact ⟨a, rfl, h⟩
    · rintro ⟨_, ha, h⟩
      cases ha
      exact h

theorem stateBind_eq_ok {x : StateT σ (Except ε) α} {f : α → StateT σ (Except ε) β} {s : σ}
    {r : β × σ} :
    (x >>= f) s = .ok r ↔ ∃ a s', x s = .ok (a, s') ∧ f a s' = .ok r := by
  change (x s >>= fun p => f p.1 p.2) = _ ↔ _
  rw [bind_eq_ok]
  exact ⟨fun ⟨⟨a, s'⟩, h⟩ => ⟨a, s', h⟩, fun ⟨a, s', h⟩ => ⟨(a, s'), h⟩⟩

/-- A stateless computation among stateful ones. -/
theorem lift_eq_ok {x : Except ε α} {s s' : σ} {a : α} :
    (liftM x : StateT σ (Except ε) α) s = .ok (a, s') ↔ x = .ok a ∧ s' = s := by
  rcases x with e | b
  · constructor
    · intro h
      cases h
    · rintro ⟨h, -⟩
      cases h
  · constructor
    · intro h
      cases h
      exact ⟨rfl, rfl⟩
    · rintro ⟨h, rfl⟩
      cases h
      rfl

theorem run'_eq_ok {x : StateT σ (Except ε) α} {s : σ} {a : α} :
    x.run' s = .ok a ↔ ∃ s', x s = .ok (a, s') := by
  rw [StateT.run']
  rcases x s with e | ⟨b, s'⟩
  · constructor
    · intro h
      cases h
    · rintro ⟨_, h⟩
      cases h
  · constructor
    · intro h
      cases h
      exact ⟨s', rfl⟩
    · rintro ⟨_, h⟩
      cases h
      rfl

/-- A fold none of whose steps fails as long as something holds that they keep. -/
theorem foldlM_ok (good : α → Prop) {f : α → β → Except ε α} {l : List β}
    (h : ∀ a, good a → ∀ b ∈ l, ∃ a', f a b = .ok a' ∧ good a') {a : α} (ha : good a) :
    ∃ a', l.foldlM f a = .ok a' ∧ good a' := by
  induction l generalizing a with
  | nil => exact ⟨a, rfl, ha⟩
  | cons b l ih =>
    obtain ⟨a₁, hfirst, ha₁⟩ := h a ha b List.mem_cons_self
    obtain ⟨a', hrest, ha'⟩ := ih (fun a ha b hb => h a ha b (List.mem_cons_of_mem _ hb)) ha₁
    refine ⟨a', ?_, ha'⟩
    rw [List.foldlM_cons, hfirst]
    exact hrest

/-! ## Checks -/

/-- `x` succeeds exactly when `p` holds, and its errors are all `bad`. -/
structure Checks (bad : ε → Prop) (x : Except ε α) (p : Prop) : Prop where
  ok_iff : (∃ a, x = .ok a) ↔ p
  error : ∀ e, x = .error e → bad e

namespace Checks

variable {bad : ε → Prop} {p q : Prop}

theorem pure (a : α) : Checks bad (.ok a) True :=
  ⟨⟨fun _ => trivial, fun _ => ⟨a, rfl⟩⟩, fun _ h => nomatch h⟩

theorem fail {e : ε} (h : bad e) : Checks bad (.error e : Except ε α) False := by
  refine ⟨⟨?_, False.elim⟩, ?_⟩
  · rintro ⟨a, h⟩
    cases h
  · intro e' h'
    cases h'
    exact h

theorem congr {x : Except ε α} (h : Checks bad x p) (hpq : p ↔ q) : Checks bad x q :=
  ⟨h.ok_iff.trans hpq, h.error⟩

theorem mono {bad' : ε → Prop} {x : Except ε α} (h : Checks bad x p) (hbad : ∀ e, bad e → bad' e) :
    Checks bad' x p :=
  ⟨h.ok_iff, fun e he => hbad e (h.error e he)⟩

/-- One check after another. -/
theorem bind {x : Except ε α} {f : α → Except ε β} (hx : Checks bad x p)
    (hf : ∀ a, Checks bad (f a) q) : Checks bad (x >>= f) (p ∧ q) := by
  rcases x with e | a
  · have hp : ¬ p := by
      rw [← hx.ok_iff]
      rintro ⟨a, h⟩
      cases h
    exact (fail (hx.error e rfl)).congr (by simp [hp])
  · have hp : p := hx.ok_iff.1 ⟨a, rfl⟩
    exact (hf a).congr (by simp [hp])

/-- A check as the last step that can fail. -/
theorem map {x : Except ε α} {f : α → β} (hx : Checks bad x p) :
    Checks bad (x >>= fun a => .ok (f a)) p :=
  (hx.bind fun a => pure (f a)).congr (iff_of_eq (and_true p))

/-- A check behind something that succeeds. -/
theorem of_ok {x : Except ε α} {f : α → Except ε β} {a : α} (hx : x = .ok a)
    (hf : Checks bad (f a) p) : Checks bad (x >>= f) p := by
  subst hx
  exact hf

/-- The state left behind does not matter. -/
theorem run' {x : StateT σ (Except ε) α} {s : σ} (hx : Checks bad (x s) p) :
    Checks bad (x.run' s) p := by
  have h : x.run' s = x s >>= fun r => .ok r.1 := by
    rw [StateT.run']
    rcases x s with e | r <;> rfl
  rw [h]
  exact hx.map

/-- A check among computations over a state. -/
theorem liftBind {x : Except ε α} {f : α → StateT σ (Except ε) β} {s : σ} (hx : Checks bad x p)
    (hf : ∀ a, Checks bad (f a s) q) : Checks bad ((liftM x >>= f) s) (p ∧ q) := by
  have h : (liftM x >>= f) s = x >>= fun a => f a s := by
    rcases x with e | a <;> rfl
  rw [h]
  exact hx.bind hf

end Checks

end Outcome

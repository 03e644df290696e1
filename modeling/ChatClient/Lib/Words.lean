import Mathlib.Algebra.GroupWithZero.Nat
import Mathlib.Data.List.Basic
import Mathlib.Data.List.TakeWhile

/-!
# Words in a text

A text is a list of letters, some of which are separators.  `Words.next` skips separators and splits
off the word that follows, and `Words.word` is the word at a place; `Words.untilLetter` splits a text
at the next occurrence of a letter.
In the other direction, words are joined with a letter between any two; `dropLast_flatMap` gets the
same text by writing the letter behind every word and removing the last one.
-/

namespace Words

variable {α : Type*}

section Span

variable {p : α → Bool} {w : List α} {c : α}

theorem takeWhile_append_stop (hw : ∀ x ∈ w, p x = true) (hc : p c = false) (rest : List α) :
    (w ++ c :: rest).takeWhile p = w := by
  rw [List.takeWhile_append_of_pos hw, List.takeWhile_cons_of_neg (by rw [hc]; decide),
    List.append_nil]

theorem dropWhile_append_stop (hw : ∀ x ∈ w, p x = true) (hc : p c = false) (rest : List α) :
    (w ++ c :: rest).dropWhile p = c :: rest := by
  rw [List.dropWhile_append_of_pos hw, List.dropWhile_cons_of_neg (by rw [hc]; decide)]

end Span

/-! ## Joining -/

/-- Writing `z` behind every word and removing the last one. -/
theorem dropLast_flatMap (z : α) (ws : List (List α)) :
    (ws.flatMap (· ++ [z])).dropLast = [z].intercalate ws := by
  induction ws with
  | nil => rfl
  | cons w ws ih =>
    obtain _ | ⟨v, ws⟩ := ws
    · simp
    · have hne : (v :: ws).flatMap (· ++ [z]) ≠ [] := by simp
      rw [List.flatMap_cons, List.dropLast_append_of_ne_nil hne, ih, List.intercalate_cons_cons]

theorem length_intercalate (z : α) {ws : List (List α)} (hne : ws ≠ []) :
    ([z].intercalate ws).length + 1 = (ws.map fun w => w.length + 1).sum := by
  have hlength : (ws.flatMap (· ++ [z])).length = (ws.map fun w => w.length + 1).sum := by
    rw [List.length_flatMap]
    simp
  obtain ⟨w, ws, rfl⟩ := List.exists_cons_of_ne_nil hne
  rw [← dropLast_flatMap, List.length_dropLast, hlength, List.map_cons, List.sum_cons]
  omega

theorem of_mem_intercalate {q : α → Prop} {z : α} {ws : List (List α)} (hz : q z)
    (hws : ∀ w ∈ ws, ∀ x ∈ w, q x) : ∀ x ∈ [z].intercalate ws, q x := by
  induction ws with
  | nil => simp
  | cons w ws ih =>
    obtain _ | ⟨v, ws⟩ := ws
    · simpa using hws
    · intro x hx
      rw [List.intercalate_cons_cons, List.mem_append, List.mem_append, List.mem_singleton] at hx
      rcases hx with (hx | rfl) | hx
      · exact hws w List.mem_cons_self x hx
      · exact hz
      · exact ih (fun u hu => hws u (List.mem_cons_of_mem _ hu)) x hx

/-! ## Taking apart -/

variable {sep : α → Bool}

/-- Skip separators, then split off the longest word without separators. -/
def next (sep : α → Bool) (text : List α) : List α × List α :=
  ((text.dropWhile sep).takeWhile (!sep ·), (text.dropWhile sep).dropWhile (!sep ·))

theorem next_cons_sep {c : α} (hc : sep c = true) (text : List α) :
    next sep (c :: text) = next sep text := by
  rw [next, next, List.dropWhile_cons_of_pos hc]

theorem next_word {w : List α} (hne : w ≠ []) (hw : ∀ x ∈ w, sep x = false) {c : α}
    (hc : sep c = true) (rest : List α) : next sep (w ++ c :: rest) = (w, c :: rest) := by
  have hskip : (w ++ c :: rest).dropWhile sep = w ++ c :: rest := by
    obtain ⟨x, w', rfl⟩ := List.exists_cons_of_ne_nil hne
    exact List.dropWhile_cons_of_neg (by rw [hw x List.mem_cons_self]; decide)
  have hall : ∀ x ∈ w, (!sep x) = true := fun x hx => by rw [hw x hx]; rfl
  have hstop : (!sep c) = false := by rw [hc]; rfl
  rw [next, hskip, takeWhile_append_stop hall hstop, dropWhile_append_stop hall hstop]

/-- A word at the end of the text, or with a separator behind it. -/
theorem next_word_stop {w : List α} (hne : w ≠ []) (hw : ∀ x ∈ w, sep x = false) {rest : List α}
    (hrest : ∀ c ∈ rest.head?, sep c = true) : next sep (w ++ rest) = (w, rest) := by
  rcases rest with _ | ⟨c, rest⟩
  · have hskip : w.dropWhile sep = w := by
      obtain ⟨x, w', rfl⟩ := List.exists_cons_of_ne_nil hne
      exact List.dropWhile_cons_of_neg (by rw [hw x List.mem_cons_self]; decide)
    have hall : ∀ x ∈ w, (!sep x) = true := fun x hx => by rw [hw x hx]; rfl
    rw [List.append_nil, next, hskip, List.takeWhile_eq_self_iff.2 hall,
      List.dropWhile_eq_nil_iff.2 hall]
  · exact next_word hne hw (hrest c rfl) rest

/-- What `next` finds, if it is a word, lies behind the separators. -/
theorem dropWhile_of_next {w text rest : List α} (h : next sep text = (w, rest)) :
    text.dropWhile sep = w ++ rest ∧ ∀ c ∈ rest.head?, sep c = true := by
  obtain ⟨rfl, rfl⟩ := Prod.mk.inj h
  refine ⟨(List.takeWhile_append_dropWhile ..).symm, fun c hc => ?_⟩
  have hstop := List.head?_dropWhile_not (fun x => !sep x) (text.dropWhile sep)
  rw [hc] at hstop
  simpa using hstop

/-- The text behind the first `k` words. -/
def after (sep : α → Bool) : ℕ → List α → List α
  | 0, text => text
  | k + 1, text => after sep k (next sep text).2

/-- The word number `k`, counted from 0; empty if there are fewer. -/
def word (sep : α → Bool) (k : ℕ) (text : List α) : List α := (next sep (after sep k text)).1

/-- Taking words one after another. -/
theorem next_after (k : ℕ) (text : List α) :
    next sep (after sep k text) = (word sep k text, after sep (k + 1) text) := by
  induction k generalizing text with
  | zero => rfl
  | succ k ih => exact ih (next sep text).2

variable [BEq α] [LawfulBEq α]

/-- Split a text at the next occurrence of `z`, which is dropped. -/
def untilLetter (z : α) (text : List α) : List α × List α :=
  (text.takeWhile (· != z), (text.dropWhile (· != z)).drop 1)

theorem untilLetter_append {z : α} {w : List α} (hw : z ∉ w) (rest : List α) :
    untilLetter z (w ++ z :: rest) = (w, rest) := by
  have hall : ∀ x ∈ w, (x != z) = true := fun x hx => bne_iff_ne.2 fun h => hw (h ▸ hx)
  have hstop : (z != z) = false := bne_self_eq_false z
  rw [untilLetter, takeWhile_append_stop hall hstop, dropWhile_append_stop hall hstop]
  rfl

theorem untilLetter_notMem {z : α} {text : List α} (h : z ∉ text) :
    untilLetter z text = (text, []) := by
  have hall : ∀ x ∈ text, (x != z) = true := fun x hx => bne_iff_ne.2 fun he => h (he ▸ hx)
  rw [untilLetter, List.takeWhile_eq_self_iff.2 hall, List.dropWhile_eq_nil_iff.2 hall]
  rfl

end Words

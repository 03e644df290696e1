import ChatClient.Lib.Lts

/-!
# Handing items over through a queue and a signal channel

A producer pushes an item on a shared queue and then raises one signal; a consumer takes one signal
and then pops one item.  The four actions interleave in any order the two threads allow.  The
invariant `Balanced` counts every item in the queue against a signal that is about to be raised, is
raised, or is taken; it follows that the consumer never pops an empty queue (`queue_ne_nil`), and
that the items popped are, in order, the first of the items pushed (`pushed_eq`).
-/

namespace Handover

variable {α : Type*}

/-- What an observer sees of a hand-over. -/
inductive Event (α : Type*)
  | pushed (x : α)
  | popped (x : α)

/-- The queue, the signals raised and not yet taken, and the two threads' places. -/
structure State (α : Type*) where
  queue : List α
  signals : ℕ
  /-- the producer has pushed an item and not yet raised its signal -/
  raising : Bool
  /-- the consumer has taken a signal and not yet popped its item -/
  taken : Bool

inductive Step : State α → List (Event α) → State α → Prop
  | push (q n t x) : Step ⟨q, n, false, t⟩ [.pushed x] ⟨q ++ [x], n, true, t⟩
  | raise (q n t) : Step ⟨q, n, true, t⟩ [] ⟨q, n + 1, false, t⟩
  | take (q n r) : Step ⟨q, n + 1, r, false⟩ [] ⟨q, n, r, true⟩
  | pop (q n r x) : Step ⟨x :: q, n, r, true⟩ [.popped x] ⟨q, n, r, false⟩

/-- The hand-over, started with an empty queue and no signal. -/
def system (α : Type*) : Lts (State α) (Event α) where
  init s := s = ⟨[], 0, false, false⟩
  step := Step

def pushed (t : List (Event α)) : List α :=
  t.filterMap fun | .pushed x => some x | .popped _ => none

def popped (t : List (Event α)) : List α :=
  t.filterMap fun | .pushed _ => none | .popped x => some x

/-- Every queued item has a signal that is about to be raised, raised or taken, and the queue holds
what was pushed and not popped. -/
structure Balanced (t : List (Event α)) (s : State α) : Prop where
  count : s.queue.length = s.signals + s.raising.toNat + s.taken.toNat
  order : pushed t = popped t ++ s.queue

theorem Balanced.step {t es : List (Event α)} {s s' : State α} (h : Balanced t s)
    (hs : Step s es s') : Balanced (t ++ es) s' := by
  obtain ⟨count, order⟩ := h
  cases hs with
  | push q n r x =>
    refine ⟨?_, ?_⟩
    · simp only [List.length_append, List.length_singleton, Bool.toNat_true, Bool.toNat_false] at *
      omega
    · simp_all [pushed, popped]
  | raise q n r =>
    refine ⟨?_, by simpa using order⟩
    simp only [Bool.toNat_true, Bool.toNat_false] at *
    omega
  | take q n r =>
    refine ⟨?_, by simpa using order⟩
    simp only [Bool.toNat_true, Bool.toNat_false] at *
    omega
  | pop q n r x =>
    refine ⟨?_, ?_⟩
    · simp only [List.length_cons, Bool.toNat_true, Bool.toNat_false] at *
      omega
    · simp_all [pushed, popped]

theorem balanced {t : List (Event α)} {s : State α} (r : (system α).Run t s) : Balanced t s := by
  apply r.invariant
  · rintro s rfl
    exact ⟨rfl, rfl⟩
  · intro t s es s' _ ih hs
    exact ih.step hs

theorem queue_ne_nil {t : List (Event α)} {s : State α} (r : (system α).Run t s)
    (h : s.taken = true) : s.queue ≠ [] := by
  have count := (balanced r).count
  rw [h, Bool.toNat_true] at count
  intro he
  rw [he, List.length_nil] at count
  omega

/-- The items popped are the first of those pushed, and the others are in the queue. -/
theorem pushed_eq {t : List (Event α)} {s : State α} (r : (system α).Run t s) :
    pushed t = popped t ++ s.queue :=
  (balanced r).order

end Handover

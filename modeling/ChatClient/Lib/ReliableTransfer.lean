import ChatClient.Lib.Lts
import Mathlib.Data.List.Nodup

/-!
# Reliable transfer

A stop-and-wait sender over a channel that loses, duplicates and delays what it carries.  What was
transmitted may arrive at any later time and any number of times; what arrives is logged, and only then
acknowledged by its key; acknowledgements get lost, come late and come twice, and there may be others
for keys that were never used.  As long as no key is used twice, the log without its repetitions is what
was transmitted, in the same order, and nothing is missing but what is in flight (`outbox_eq`).
-/

namespace ReliableTransfer

variable {α κ : Type*}

structure State (α : Type*) where
  /-- what was transmitted -/
  outbox : List α := []
  inFlight : Option α := none
  /-- what has arrived -/
  log : List α := []

inductive Event (α κ : Type*)
  | transmitted (x : α)
  | arrived (x : α)
  | heard (k : κ)

variable [DecidableEq κ] (key : α → κ)

inductive Step : State α → List (Event α κ) → State α → Prop
  | transmit {s : State α} {x : α} (hs : s.inFlight = none) (hx : key x ∉ s.outbox.map key) :
      Step s [.transmitted x] { s with outbox := s.outbox ++ [x], inFlight := some x }
  | arrive {s : State α} {x : α} (hx : x ∈ s.outbox) :
      Step s [.arrived x] { s with log := s.log ++ [x] }
  | hear {s : State α} {k : κ} (hk : k ∈ s.outbox.map key → k ∈ s.log.map key) :
      Step s [.heard k] { s with inFlight := s.inFlight.filter fun x => key x ≠ k }

/-- Sender and receiver, with nothing transmitted at the start. -/
def system : Lts (State α) (Event α κ) where
  init s := s = {}
  step := Step key

variable [BEq α] [LawfulBEq α]

/-- What was transmitted and has not arrived. -/
def State.missing (s : State α) : List α := s.inFlight.toList.filter fun x => !s.log.contains x

/-- Keys tell apart what was transmitted, and nothing is missing but what is in flight. -/
structure Tracked (key : α → κ) (s : State α) : Prop where
  keys : (s.outbox.map key).Nodup
  outbox : s.outbox = s.log.eraseDups ++ s.missing

variable {key} {s s' : State α} {t es : List (Event α κ)} {x : α} {k : κ}

/-! ## The log without repetitions -/

theorem eraseDups_concat_of_mem {l : List α} (h : x ∈ l) : (l ++ [x]).eraseDups = l.eraseDups := by
  rw [List.eraseDups_append, List.removeAll]
  simp [h]

theorem eraseDups_concat_of_notMem {l : List α} (h : x ∉ l) :
    (l ++ [x]).eraseDups = l.eraseDups ++ [x] := by
  rw [List.eraseDups_append, List.removeAll]
  simp [h, List.eraseDups_cons]

/-! ## What each step preserves -/

omit [DecidableEq κ] in
theorem Tracked.mem_outbox (h : Tracked key s) : x ∈ s.outbox ↔ x ∈ s.log ∨ x ∈ s.missing := by
  rw [h.outbox, List.mem_append, List.mem_eraseDups]

theorem mem_missing : x ∈ s.missing ↔ s.inFlight = some x ∧ x ∉ s.log := by
  simp [State.missing, List.mem_filter]

theorem missing_of_notMem (hx : s.inFlight = some x) (hlog : x ∉ s.log) : s.missing = [x] := by
  simp [State.missing, hx, hlog]

theorem missing_of_mem (hx : s.inFlight = some x) (hlog : x ∈ s.log) : s.missing = [] := by
  simp [State.missing, hx, hlog]

theorem missing_of_none (h : s.inFlight = none) : s.missing = [] := by
  simp [State.missing, h]

omit [DecidableEq κ] in
/-- What is in flight was transmitted. -/
theorem Tracked.inFlight_mem (h : Tracked key s) (hx : s.inFlight = some x) : x ∈ s.outbox := by
  rw [h.mem_outbox]
  by_cases hlog : x ∈ s.log
  · exact .inl hlog
  · exact .inr (mem_missing.2 ⟨hx, hlog⟩)

omit [DecidableEq κ] in
theorem Tracked.transmit (h : Tracked key s) (hs : s.inFlight = none)
    (hx : key x ∉ s.outbox.map key) :
    Tracked key { s with outbox := s.outbox ++ [x], inFlight := some x } := by
  have houtbox := h.outbox
  rw [missing_of_none hs, List.append_nil] at houtbox
  have hlog : x ∉ s.log := by
    intro hmem
    apply hx
    rw [houtbox]
    exact List.mem_map_of_mem (List.mem_eraseDups.2 hmem)
  constructor
  · rw [List.map_append]
    apply List.Nodup.append h.keys (List.nodup_singleton _)
    simpa using hx
  · have hmissing : State.missing { s with outbox := s.outbox ++ [x], inFlight := some x } = [x] :=
      missing_of_notMem rfl hlog
    rw [hmissing, ← houtbox]

omit [DecidableEq κ] in
theorem Tracked.arrive (h : Tracked key s) (hx : x ∈ s.outbox) :
    Tracked key { s with log := s.log ++ [x] } := by
  refine ⟨h.keys, ?_⟩
  by_cases hlog : x ∈ s.log
  · have hmissing : State.missing { s with log := s.log ++ [x] } = s.missing := by
      apply List.filter_congr
      intro y _
      by_cases hy : y = x
      · simp [hy, hlog]
      · simp [hy]
    rw [hmissing, eraseDups_concat_of_mem hlog]
    exact h.outbox
  · -- what arrives for the first time is in flight
    have hflight : s.inFlight = some x :=
      (mem_missing.1 ((h.mem_outbox.1 hx).resolve_left hlog)).1
    have houtbox := h.outbox
    rw [missing_of_notMem hflight hlog] at houtbox
    have hmissing : State.missing { s with log := s.log ++ [x] } = [] :=
      missing_of_mem hflight (List.mem_append_right _ List.mem_cons_self)
    rw [hmissing, eraseDups_concat_of_notMem hlog, List.append_nil]
    exact houtbox

theorem Tracked.hear (h : Tracked key s) (hk : k ∈ s.outbox.map key → k ∈ s.log.map key) :
    Tracked key { s with inFlight := s.inFlight.filter fun x => key x ≠ k } := by
  refine ⟨h.keys, ?_⟩
  rcases hflight : s.inFlight with _ | x
  · have houtbox := h.outbox
    rw [missing_of_none hflight] at houtbox
    exact houtbox
  · by_cases hkey : key x = k
    · -- the key was acknowledged, so what has arrived under it is what is in flight
      have hx := h.inFlight_mem hflight
      obtain ⟨y, hy, hyk⟩ := List.mem_map.1 (hk (hkey ▸ List.mem_map_of_mem hx))
      have hyout : y ∈ s.outbox := h.mem_outbox.2 (.inl hy)
      obtain rfl : y = x := List.inj_on_of_nodup_map h.keys hyout hx (hyk.trans hkey.symm)
      have houtbox := h.outbox
      rw [missing_of_mem hflight hy] at houtbox
      rw [missing_of_none (by simp [hkey, Option.filter])]
      exact houtbox
    · have hkeep : (some x).filter (fun x => decide (key x ≠ k)) = s.inFlight := by
        simp [hflight, Option.filter, hkey]
      rw [hkeep]
      exact h.outbox

theorem tracked (r : (system key).Run t s) : Tracked key s := by
  apply r.invariant (I := fun _ s => Tracked key s)
  · rintro s rfl
    exact ⟨List.nodup_nil, rfl⟩
  · intro t s es s' _ ih h
    cases h with
    | transmit hs hx => exact ih.transmit hs hx
    | arrive hx => exact ih.arrive hx
    | hear hk => exact ih.hear hk

/-- In every run: what was transmitted is the log without its repetitions, and behind it what is in
flight, if that has not arrived. -/
theorem outbox_eq (r : (system key).Run t s) : s.outbox = s.log.eraseDups ++ s.missing :=
  (tracked r).outbox

end ReliableTransfer

import Mathlib.Algebra.GroupWithZero.Nat
import Mathlib.Data.List.Basic

/-!
# Records ended by a separator

A scanner cuts data into the records that a separator ends (`complete`) and an unfinished rest
(`remainder`).  What a scanner that starts afresh on each piece of cut data finds is what it would
have found in the whole exactly when no piece leaves a rest (`flatMap_complete_eq_iff`); a rest is
missing from what is found, so the lengths tell (`length_flatten_complete`).
-/

namespace Records

variable {α : Type*} [DecidableEq α] (sep : α)

/-- The records that a separator ends.  `acc` is what precedes the data of the first of them. -/
def complete (acc : List α) : List α → List (List α)
  | [] => []
  | c :: rest => if c = sep then acc :: complete [] rest else complete (acc ++ [c]) rest

/-- What follows the last separator. -/
def remainder (acc : List α) : List α → List α
  | [] => acc
  | c :: rest => if c = sep then remainder [] rest else remainder (acc ++ [c]) rest

/-- The data of some records. -/
def join (records : List (List α)) : List α := records.flatMap (· ++ [sep])

variable {sep} {acc data : List α}

theorem complete_append (a b : List α) :
    complete sep acc (a ++ b) = complete sep acc a ++ complete sep (remainder sep acc a) b := by
  induction a generalizing acc with
  | nil => rfl
  | cons c rest ih =>
    simp only [List.cons_append, complete, remainder]
    by_cases hc : c = sep
    · simp only [if_pos hc, ih, List.cons_append]
    · simp only [if_neg hc, ih]

theorem remainder_append (a b : List α) :
    remainder sep acc (a ++ b) = remainder sep (remainder sep acc a) b := by
  induction a generalizing acc with
  | nil => rfl
  | cons c rest ih =>
    simp only [List.cons_append, remainder]
    by_cases hc : c = sep
    · simp only [if_pos hc, ih]
    · simp only [if_neg hc, ih]

theorem complete_record {r : List α} (h : sep ∉ r) (rest : List α) :
    complete sep acc (r ++ sep :: rest) = (acc ++ r) :: complete sep [] rest := by
  induction r generalizing acc with
  | nil => simp [complete]
  | cons c r ih =>
    obtain ⟨hne, hr⟩ := not_or.1 (List.mem_cons.not.1 h)
    simp only [List.cons_append, complete, if_neg (Ne.symm hne), ih hr, List.append_assoc,
      List.nil_append]

theorem complete_join {records : List (List α)} (h : ∀ r ∈ records, sep ∉ r) :
    complete sep [] (join sep records) = records := by
  induction records with
  | nil => rfl
  | cons r records ih =>
    have hr : sep ∉ r := h r List.mem_cons_self
    have ih := ih fun r' hr' => h r' (List.mem_cons_of_mem _ hr')
    rw [join, List.flatMap_cons, List.append_assoc, List.singleton_append, complete_record hr]
    exact congrArg (r :: ·) ih

/-- There is a record for every separator. -/
theorem count_complete (acc data : List α) : (complete sep acc data).length = data.count sep := by
  induction data generalizing acc with
  | nil => rfl
  | cons c rest ih =>
    by_cases hc : c = sep
    · rw [complete, if_pos hc, List.length_cons, ih, hc, List.count_cons_self]
    · rw [complete, if_neg hc, ih, List.count_cons_of_ne hc]

theorem complete_eq_nil (h : sep ∉ data) : complete sep acc data = [] := by
  rw [← List.length_eq_zero_iff, count_complete, List.count_eq_zero_of_not_mem h]

/-- Nothing of the data is lost but the separators. -/
theorem length_complete (acc data : List α) :
    (complete sep acc data).flatten.length + (remainder sep acc data).length =
      acc.length + data.countP (· ≠ sep) := by
  induction data generalizing acc with
  | nil => simp [complete, remainder]
  | cons c rest ih =>
    by_cases hc : c = sep
    · simp only [complete, remainder, if_pos hc, List.flatten_cons, List.length_append]
      have hrest := ih []
      rw [List.countP_cons_of_neg (by simpa using hc)]
      simp only [List.length_nil] at hrest
      omega
    · simp only [complete, remainder, if_neg hc]
      have hrest := ih (acc ++ [c])
      rw [List.countP_cons_of_pos (by simpa using hc)]
      simp only [List.length_append, List.length_singleton] at hrest
      omega

/-- There is no rest exactly when the data ends with a separator. -/
theorem remainder_eq_nil_iff (hd : data ≠ []) :
    remainder sep acc data = [] ↔ data.getLast? = some sep := by
  have hconcat : ∀ d c, remainder sep acc (d ++ [c]) = [] ↔ c = sep := by
    intro d c
    rw [remainder_append]
    by_cases hc : c = sep
    · simp [remainder, hc]
    · simp [remainder, hc]
  obtain ⟨d, c, rfl⟩ := (List.eq_nil_or_concat data).resolve_left hd
  rw [List.concat_eq_append, hconcat, List.getLast?_concat]
  exact Option.some_inj.symm

theorem remainder_join (records : List (List α)) : remainder sep [] (join sep records) = [] := by
  induction records with
  | nil => rfl
  | cons r records ih =>
    have hr : remainder sep [] (r ++ [sep]) = [] := by
      rw [remainder_eq_nil_iff (by simp), List.getLast?_concat]
    rw [join, List.flatMap_cons, remainder_append, hr]
    exact ih

theorem complete_flatten {pieces : List (List α)}
    (h : ∀ p ∈ pieces, remainder sep [] p = []) :
    complete sep [] pieces.flatten = pieces.flatMap (complete sep []) := by
  induction pieces with
  | nil => rfl
  | cons p pieces ih =>
    have hp : remainder sep [] p = [] := h p List.mem_cons_self
    rw [List.flatten_cons, complete_append, hp, List.flatMap_cons,
      ih fun p' hp' => h p' (List.mem_cons_of_mem _ hp')]

/-- The lengths of what is found piece by piece and of the rests add up. -/
theorem length_flatten_complete (pieces : List (List α)) :
    (pieces.flatMap (complete sep [])).flatten.length +
      (pieces.map fun p => (remainder sep [] p).length).sum =
      pieces.flatten.countP (· ≠ sep) := by
  induction pieces with
  | nil => rfl
  | cons p pieces ih =>
    have hp : (complete sep [] p).flatten.length + (remainder sep [] p).length = _ :=
      length_complete [] p
    simp only [List.flatMap_cons, List.flatten_append, List.length_append, List.map_cons,
      List.sum_cons, List.flatten_cons, List.countP_append, List.length_nil] at hp ⊢
    omega

/-- Piece by piece the same is found as in the whole, empty records apart, exactly when every piece
ends with a separator. -/
theorem flatMap_complete_eq_iff {records pieces : List (List α)} (hr : ∀ r ∈ records, sep ∉ r)
    (hp : ∀ p ∈ pieces, p ≠ []) (hcut : pieces.flatten = join sep records) :
    (pieces.flatMap fun p => (complete sep [] p).filter (· ≠ [])) = records.filter (· ≠ []) ↔
      ∀ p ∈ pieces, p.getLast? = some sep := by
  have hwhole : complete sep [] pieces.flatten = records := by rw [hcut, complete_join hr]
  have hfilter : (pieces.flatMap fun p => (complete sep [] p).filter (· ≠ [])) =
      (pieces.flatMap (complete sep [])).filter (· ≠ []) := (List.filter_flatMap ..).symm
  have hlen : ∀ l : List (List α), (l.filter (· ≠ [])).flatten.length = l.flatten.length := by
    intro l
    rw [List.flatten_filter_ne_nil]
  rw [hfilter]
  constructor
  · intro h p hmem
    rw [← remainder_eq_nil_iff (hp p hmem)]
    have hfound : (pieces.flatMap (complete sep [])).flatten.length + _ = _ :=
      length_flatten_complete pieces
    have hall : (complete sep [] pieces.flatten).flatten.length + _ = _ :=
      length_complete [] pieces.flatten
    have hrem : remainder sep [] pieces.flatten = [] := by rw [hcut, remainder_join]
    rw [hwhole] at hall
    have hsame := congrArg (fun l => (List.flatten l).length) h
    simp only [hlen] at hsame
    simp only [hrem, List.length_nil] at hall
    have hzero : (pieces.map fun p => (remainder sep [] p).length).sum = 0 := by omega
    have hp0 := List.sum_eq_zero_iff_forall_eq_nat.1 hzero _ (List.mem_map.2 ⟨p, hmem, rfl⟩)
    exact List.length_eq_zero_iff.1 hp0
  · intro h
    rw [← complete_flatten fun p hmem => (remainder_eq_nil_iff (hp p hmem)).2 (h p hmem), hwhole]

end Records

import Mathlib.Data.List.Forall2
import Mathlib.Data.List.TakeWhile

/-!
# A stream read piece by piece

A stream consists of lines, and a line is a body with a separator behind it.  Some readers take each
piece that a stream was cut into for one line: they skip blank letters, read the body that follows, and
drop the rest of the piece (`LineReader`).  The pieces are then read as the lines of the stream, one by
one, exactly when each of them contains one whole body and all cuts are in or around the separators
(`forall₂_reads_iff`).
-/

namespace Pieces

variable {ι α : Type*} (sep : List α) (body : ι → List α)

/-- The lines of some bodies. -/
def stream (ds : List ι) : List α := ds.flatMap fun d => body d ++ sep

/-- Each piece holds one body, with what was left of the separator before it and some of the separator
behind it. -/
inductive OneEach : List α → List ι → List (List α) → Prop
  | nil : OneEach [] [] []
  | cons {left taken left' d ds pieces} (hsep : taken ++ left' = sep)
      (h : OneEach left' ds pieces) :
      OneEach left (d :: ds) ((left ++ body d ++ taken) :: pieces)

/-- `reads d p` says that the piece `p` is read as the line of `d`. -/
structure LineReader (blank : α → Bool) (reads : ι → List α → Prop) : Prop where
  sep_blank : ∀ c ∈ sep, blank c = true
  body_ne_nil : ∀ d, body d ≠ []
  /-- A body that has lost a few letters does not look like a whole one. -/
  letters : ∀ d k, 0 < k → k ≤ sep.length →
    ∃ c, (body d)[k]? = some c ∧ blank c = false ∧ (body d).head? ≠ some c
  head : ∀ {d p}, reads d p → (p.dropWhile blank).head? = (body d).head?
  long : ∀ {d p}, reads d p → (body d).length ≤ (p.dropWhile blank).length
  whole : ∀ d {left taken}, left <:+ sep → taken <+: sep → reads d (left ++ body d ++ taken)

variable {sep body} {blank : α → Bool} {reads : ι → List α → Prop} {ds : List ι}
  {pieces : List (List α)}

namespace LineReader

/-- A piece that lies in a line and is read as this line starts where the line does. -/
theorem eq_nil_of_cut (hr : LineReader sep body blank reads) {d : ι} {p x y : List α}
    (hread : reads d p) (hcut : x ++ (p ++ y) = body d ++ sep) : x = [] := by
  by_contra hx
  have hpos : 0 < x.length := List.length_pos_of_ne_nil hx
  have hdrop : (p.dropWhile blank).length ≤ p.length := (List.dropWhile_suffix blank).length_le
  have hlong := hr.long hread
  have hlength := congrArg List.length hcut
  simp only [List.length_append] at hlength
  obtain ⟨c, hc, hblank, hhead⟩ := hr.letters d x.length hpos (by omega)
  obtain ⟨hlt, -⟩ := List.getElem?_eq_some_iff.1 hc
  -- the piece begins with the letter `c`
  have hletter : (p ++ y)[0]? = some c := by
    have hline : (body d ++ sep)[x.length]? = (body d)[x.length]? := List.getElem?_append_left hlt
    rw [← hc, ← hline, ← hcut, List.getElem?_append_right (Nat.le_refl _), Nat.sub_self]
  rcases p with _ | ⟨c', p⟩
  · have hnil := List.length_pos_of_ne_nil (hr.body_ne_nil d)
    simp only [List.length_nil, List.dropWhile_nil] at hlong
    omega
  · obtain rfl : c' = c := by simpa using hletter
    have hstart := hr.head hread
    rw [List.dropWhile_cons_of_neg (by rw [hblank]; decide), List.head?_cons] at hstart
    exact hhead hstart.symm

/-- Seen from the end of a stream, no piece starts behind the start of the line it is read as. -/
theorem stream_suffix (hr : LineReader sep body blank reads) {w : List α}
    (h : List.Forall₂ reads ds pieces) (hd : stream sep body ds <:+ w) (hp : pieces.flatten <:+ w) :
    stream sep body ds <:+ pieces.flatten := by
  induction h with
  | nil => exact List.suffix_rfl
  | @cons d p ds pieces hread h ih =>
    have hds : stream sep body (d :: ds) = (body d ++ sep) ++ stream sep body ds := List.flatMap_cons
    have hps : (p :: pieces).flatten = p ++ pieces.flatten := List.flatten_cons
    obtain ⟨y, hy⟩ : stream sep body ds <:+ pieces.flatten :=
      ih ((hds ▸ List.suffix_append _ _).trans hd) ((hps ▸ List.suffix_append _ _).trans hp)
    rcases List.suffix_or_suffix_of_suffix hd hp with hs | ⟨x, hx⟩
    · exact hs
    · rw [hds, hps, ← hy, ← List.append_assoc, ← List.append_assoc] at hx
      have hcut := List.append_cancel_right hx
      rw [List.append_assoc] at hcut
      obtain rfl := hr.eq_nil_of_cut hread hcut
      rw [hds, hps, ← hy, ← List.append_assoc, ← hcut]
      exact List.suffix_rfl

/-- What is read as the lines of the stream holds one body in each piece. -/
theorem oneEach (hr : LineReader sep body blank reads) (h : List.Forall₂ reads ds pieces)
    {left : List α} (hleft : left <:+ sep)
    (hcut : pieces.flatten = left ++ stream sep body ds) : OneEach sep body left ds pieces := by
  induction h generalizing left with
  | nil =>
    obtain ⟨rfl, -⟩ := List.append_eq_nil_iff.1 hcut.symm
    exact .nil
  | @cons d p ds pieces hread h ih =>
    have hds : stream sep body (d :: ds) = (body d ++ sep) ++ stream sep body ds := List.flatMap_cons
    rw [List.flatten_cons, hds, ← List.append_assoc] at hcut
    obtain ⟨y, hy⟩ : stream sep body ds <:+ pieces.flatten :=
      hr.stream_suffix h ⟨_, hcut.symm⟩ (List.suffix_append _ _)
    have hblank : ∀ c ∈ left, blank c = true := fun c hc => hr.sep_blank c (hleft.subset hc)
    have hlong := hr.long hread
    have hpos := List.length_pos_of_ne_nil (hr.body_ne_nil d)
    rw [← hy, ← List.append_assoc] at hcut
    rcases List.append_eq_append_iff.1 (List.append_cancel_right hcut) with
      ⟨z, rfl, -⟩ | ⟨q, rfl, hq⟩
    · -- a piece of blank letters
      have hnil : p.dropWhile blank = [] :=
        List.dropWhile_eq_nil_iff.2 fun c hc => hblank c (List.mem_append_left z hc)
      rw [hnil, List.length_nil] at hlong
      omega
    · rw [List.dropWhile_append_of_pos hblank] at hlong
      have hdrop : (q.dropWhile blank).length ≤ q.length :=
        (List.dropWhile_suffix blank).length_le
      obtain ⟨taken, rfl, hsep⟩ : ∃ taken, q = body d ++ taken ∧ sep = taken ++ y := by
        rcases List.append_eq_append_iff.1 hq with ⟨taken, hbody, hsep⟩ | ⟨z, hbody, hsep⟩
        · exact ⟨taken, hbody, hsep⟩
        · have hlength := congrArg List.length hbody
          rw [List.length_append] at hlength
          obtain rfl : z = [] := List.eq_nil_of_length_eq_zero (by omega)
          exact ⟨[], by rw [hbody]; simp, by rw [hsep]; rfl⟩
      rw [← List.append_assoc]
      exact .cons hsep.symm (ih ⟨taken, hsep.symm⟩ hy.symm)

theorem forall₂ (hr : LineReader sep body blank reads) {left : List α} (hleft : left <:+ sep)
    (h : OneEach sep body left ds pieces) : List.Forall₂ reads ds pieces := by
  induction h with
  | nil => exact .nil
  | @cons left taken left' d ds pieces hsep h ih =>
    exact .cons (hr.whole d hleft ⟨left', hsep⟩) (ih ⟨taken, hsep⟩)

/-- Cut in whatever way, a stream is read as its lines iff each piece holds one body. -/
theorem forall₂_reads_iff (hr : LineReader sep body blank reads)
    (hcut : pieces.flatten = stream sep body ds) :
    List.Forall₂ reads ds pieces ↔ OneEach sep body [] ds pieces :=
  ⟨fun h => hr.oneEach h List.nil_suffix hcut, fun h => hr.forall₂ List.nil_suffix h⟩

end LineReader

end Pieces

import Mathlib.Data.Set.Defs
import Mathlib.Data.List.Basic

/-!
# Self-delimiting encodings

An encoding is self-delimiting on a set of values when the encoding of such a value, followed by
anything, determines both the value and what follows.  Fixed-width injective encodings (`of_length`)
and strings closed by a letter they do not contain (`terminated`) are self-delimiting, and so is
writing a fixed number of self-delimiting encodings one after another (`flatMap`).
-/

/-- The encoding of a value in `p`, followed by anything, determines the value and what follows. -/
def SelfDelimiting {α β : Type*} (p : Set α) (enc : α → List β) : Prop :=
  ∀ a ∈ p, ∀ b ∈ p, ∀ s t, enc a ++ s = enc b ++ t → a = b ∧ s = t

namespace SelfDelimiting

variable {α β : Type*} {p : Set α} {enc : α → List β}

/-- An injective encoding of fixed width is self-delimiting. -/
theorem of_length (n : ℕ) (hlen : ∀ a, (enc a).length = n)
    (hinj : ∀ a b, enc a = enc b → a = b) : SelfDelimiting Set.univ enc := by
  intro a _ b _ s t h
  obtain ⟨hab, hst⟩ := List.append_inj h (by rw [hlen a, hlen b])
  exact ⟨hinj a b hab, hst⟩

/-- Strings without the letter `z`, closed by `z`. -/
theorem terminated (z : β) : SelfDelimiting {l : List β | z ∉ l} fun l => l ++ [z] := by
  intro a ha b hb s t e
  simp only [List.append_assoc, List.singleton_append] at e
  induction a generalizing b with
  | nil =>
    cases b with
    | nil => exact ⟨rfl, (List.cons.inj e).2⟩
    | cons y b => exact absurd (List.cons.inj e).1 fun h => hb (h ▸ List.mem_cons_self)
  | cons x a ih =>
    cases b with
    | nil => exact absurd (List.cons.inj e).1 fun h => ha (h ▸ List.mem_cons_self)
    | cons y b =>
      obtain ⟨rfl, rest⟩ := List.cons.inj e
      obtain ⟨rfl, hst⟩ := ih (fun h => ha (List.mem_cons_of_mem _ h)) b
        (fun h => hb (List.mem_cons_of_mem _ h)) rest
      exact ⟨rfl, hst⟩

/-- Equally many encodings one after another determine the values and what follows. -/
theorem flatMap (h : SelfDelimiting p enc) {as bs : List α} (ha : ∀ a ∈ as, a ∈ p)
    (hb : ∀ b ∈ bs, b ∈ p) (hlen : as.length = bs.length) {s t : List β}
    (e : as.flatMap enc ++ s = bs.flatMap enc ++ t) : as = bs ∧ s = t := by
  induction as generalizing bs with
  | nil =>
    obtain rfl := List.length_eq_zero_iff.1 hlen.symm
    exact ⟨rfl, e⟩
  | cons a as ih =>
    obtain _ | ⟨b, bs⟩ := bs
    · cases hlen
    · rw [List.flatMap_cons, List.flatMap_cons, List.append_assoc, List.append_assoc] at e
      obtain ⟨rfl, rest⟩ := h a (ha a List.mem_cons_self) b (hb b List.mem_cons_self) _ _ e
      obtain ⟨rfl, hst⟩ := ih (fun x hx => ha x (List.mem_cons_of_mem _ hx))
        (fun x hx => hb x (List.mem_cons_of_mem _ hx)) (Nat.succ.inj hlen) rest
      exact ⟨rfl, hst⟩

end SelfDelimiting

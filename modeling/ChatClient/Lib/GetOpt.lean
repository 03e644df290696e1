import Mathlib.Data.List.Basic
import Mathlib.Data.List.Induction

/-!
# Command lines

What repeated calls of `getopt` make of the words of a command line.  A word that starts with a dash
and has more letters holds options; an option that wants an argument takes the rest of its word, or the
next word when nothing is left of its own.  Other words are operands, which `getopt` moves behind the
options, and the word of two dashes ends the options.

`Line` is the grammar of command lines, and `scan` finds the options exactly of its lines
(`line_iff`).  Where the options are handled one after another and one overwrites what another has
set, the last one counts (`last_counts`).
-/

namespace GetOpt

/-- What a call returns. -/
inductive Item (α : Type*)
  | flag (opt : α)
  | arg (opt : α) (optarg : List α)
  /-- an option that is not known, or one whose argument is missing -/
  | bad
deriving DecidableEq

variable {α : Type*}

/-- The known options, each with whether it wants an argument. -/
structure Options (α : Type*) where
  dash : α
  takes : α → Option Bool
  dash_unknown : takes dash = none

namespace Options

variable (o : Options α)

/-- The options in the letters behind a dash, and one that wants the next word as its argument. -/
def letters : List α → List (Item α) × Option α
  | [] => ([], none)
  | c :: cs =>
    match o.takes c with
    | none => (.bad :: (letters cs).1, (letters cs).2)
    | some false => (.flag c :: (letters cs).1, (letters cs).2)
    | some true => if cs = [] then ([], some c) else ([.arg c cs], none)

/-- The letters behind the dash, if the word holds options. -/
def behindDash [DecidableEq α] : List α → Option (List α)
  | d :: c :: cs => if d = o.dash then some (c :: cs) else none
  | _ => none

/-- The options in the words, the first of which may be the argument of an option. -/
def scan [DecidableEq α] : Option α → List (List α) → List (Item α)
  | none, [] => []
  | some _, [] => [.bad]
  | some c, w :: ws => .arg c w :: scan none ws
  | none, w :: ws =>
    if w = [o.dash, o.dash] then []
    else
      match o.behindDash w with
      | some cs => (o.letters cs).1 ++ scan (o.letters cs).2 ws
      | none => scan none ws

/-- The word holds no option. -/
def Operand (w : List α) : Prop := ∀ c cs, w ≠ o.dash :: c :: cs

/-- The command lines with the options they hold. -/
inductive Line : List (Item α) → List (List α) → Prop
  | nil : Line [] []
  | stop (ws) : Line [] ([o.dash, o.dash] :: ws)
  | operand {w items ws} (hw : o.Operand w) (h : Line items ws) : Line items (w :: ws)
  | flags {fs items ws} (hne : fs ≠ []) (hf : ∀ c ∈ fs, o.takes c = some false)
      (h : Line items ws) : Line (fs.map .flag ++ items) ((o.dash :: fs) :: ws)
  | attached {fs c v items ws} (hf : ∀ c ∈ fs, o.takes c = some false) (hc : o.takes c = some true)
      (hv : v ≠ []) (h : Line items ws) :
      Line (fs.map .flag ++ .arg c v :: items) ((o.dash :: (fs ++ c :: v)) :: ws)
  | separate {fs c v items ws} (hf : ∀ c ∈ fs, o.takes c = some false)
      (hc : o.takes c = some true) (h : Line items ws) :
      Line (fs.map .flag ++ .arg c v :: items) ((o.dash :: (fs ++ [c])) :: v :: ws)

variable {o} {items : List (Item α)} {ws : List (List α)}

/-! ## Letters -/

theorem letters_flags {fs : List α} (hf : ∀ c ∈ fs, o.takes c = some false) (cs : List α) :
    o.letters (fs ++ cs) = (fs.map .flag ++ (o.letters cs).1, (o.letters cs).2) := by
  induction fs with
  | nil => rfl
  | cons c fs ih =>
    have hc := hf c List.mem_cons_self
    have hrest := ih fun c hc => hf c (List.mem_cons_of_mem _ hc)
    rw [List.cons_append, letters, hc, hrest]
    rfl

theorem letters_attached {c : α} {v : List α} (hc : o.takes c = some true) (hv : v ≠ []) :
    o.letters (c :: v) = ([.arg c v], none) := by
  rw [letters, hc]
  exact if_neg hv

theorem letters_separate {c : α} (hc : o.takes c = some true) :
    o.letters [c] = ([], some c) := by
  rw [letters, hc]
  rfl

/-- Letters without a bad option are flags, and behind them an option with its argument or without
it. -/
theorem letters_cases (cs : List α) (h : .bad ∉ (o.letters cs).1) :
    ∃ fs, (∀ c ∈ fs, o.takes c = some false) ∧
      (cs = fs ∨ ∃ c v, o.takes c = some true ∧ cs = fs ++ c :: v) := by
  induction cs with
  | nil => exact ⟨[], by simp, .inl rfl⟩
  | cons c cs ih =>
    rw [letters] at h
    cases hc : o.takes c with
    | none =>
      rw [hc] at h
      exact absurd List.mem_cons_self h
    | some b =>
      cases b with
      | true => exact ⟨[], by simp, .inr ⟨c, cs, hc, rfl⟩⟩
      | false =>
        rw [hc] at h
        obtain ⟨fs, hf, hcs⟩ := ih fun hm => h (List.mem_cons_of_mem _ hm)
        refine ⟨c :: fs, ?_, ?_⟩
        · intro c' hm
          rcases List.mem_cons.1 hm with rfl | hm
          · exact hc
          · exact hf c' hm
        · rcases hcs with rfl | ⟨c', v, hc', rfl⟩
          · exact .inl rfl
          · exact .inr ⟨c', v, hc', rfl⟩

/-! ## Words -/

/-- No word that begins with known options is the end of the options. -/
theorem ne_dashes {fs cs : List α} (hf : ∀ c ∈ fs, o.takes c = some false)
    (hcs : fs = [] → ∃ c v, cs = c :: v ∧ o.takes c ≠ none) :
    o.dash :: (fs ++ cs) ≠ [o.dash, o.dash] := by
  intro heq
  have hdash := o.dash_unknown
  rcases fs with _ | ⟨c, fs⟩
  · obtain ⟨c, v, rfl, hc⟩ := hcs rfl
    obtain ⟨rfl, -⟩ : c = o.dash ∧ v = [] := by simpa using heq
    exact hc hdash
  · obtain ⟨rfl, -⟩ : c = o.dash ∧ fs ++ cs = [] := by simpa using heq
    rw [hf _ List.mem_cons_self] at hdash
    cases hdash

/-- The options of a line are good. -/
theorem Line.bad_notMem (h : o.Line items ws) : .bad ∉ items := by
  induction h with
  | nil | stop => simp
  | operand hw _ ih => exact ih
  | flags hne hf _ ih | attached hf hc hv _ ih | separate hf hc _ ih => simp [ih]

variable [DecidableEq α]

theorem scan_stop (ws : List (List α)) : o.scan none ([o.dash, o.dash] :: ws) = [] := by
  rw [scan, if_pos rfl]

theorem behindDash_operand {w : List α} (hw : o.Operand w) : o.behindDash w = none := by
  unfold behindDash
  split
  · next d c cs =>
    apply if_neg
    rintro rfl
    exact hw c cs rfl
  · rfl

theorem scan_operand {w : List α} (hw : o.Operand w) (ws : List (List α)) :
    o.scan none (w :: ws) = o.scan none ws := by
  have hne : w ≠ [o.dash, o.dash] := hw _ _
  rw [scan, if_neg hne, behindDash_operand hw]

theorem scan_letters {cs : List α} (hcs : cs ≠ []) (hne : o.dash :: cs ≠ [o.dash, o.dash])
    (ws : List (List α)) :
    o.scan none ((o.dash :: cs) :: ws) = (o.letters cs).1 ++ o.scan (o.letters cs).2 ws := by
  obtain ⟨c, cs, rfl⟩ := List.exists_cons_of_ne_nil hcs
  have hdash : o.behindDash (o.dash :: c :: cs) = some (c :: cs) := if_pos rfl
  rw [scan, if_neg hne, hdash]

theorem Line.scan_eq (h : o.Line items ws) : o.scan none ws = items := by
  induction h with
  | nil => rfl
  | stop ws => exact scan_stop ws
  | operand hw _ ih => rw [scan_operand hw, ih]
  | @flags fs items ws hne hf _ ih =>
    have hdashes : o.dash :: (fs ++ []) ≠ [o.dash, o.dash] :=
      ne_dashes hf fun h => absurd h hne
    rw [List.append_nil] at hdashes
    have hletters := letters_flags hf []
    rw [List.append_nil] at hletters
    rw [scan_letters hne hdashes, hletters]
    simp [letters, ih]
  | @attached fs c v items ws hf hc hv _ ih =>
    have hdashes : o.dash :: (fs ++ c :: v) ≠ [o.dash, o.dash] :=
      ne_dashes hf fun _ => ⟨c, v, rfl, by simp [hc]⟩
    rw [scan_letters (by simp) hdashes, letters_flags hf, letters_attached hc hv]
    simp [ih]
  | @separate fs c v items ws hf hc _ ih =>
    have hdashes : o.dash :: (fs ++ [c]) ≠ [o.dash, o.dash] :=
      ne_dashes hf fun _ => ⟨c, [], rfl, by simp [hc]⟩
    rw [scan_letters (by simp) hdashes, letters_flags hf, letters_separate hc]
    simp [scan, ih]

/-- Where no option is bad, the words are a line. -/
theorem line_of_scan : ∀ ws : List (List α), .bad ∉ o.scan none ws → o.Line (o.scan none ws) ws
  | [], _ => .nil
  | w :: ws, h => by
    by_cases hstop : w = [o.dash, o.dash]
    · subst hstop
      rw [scan_stop]
      exact .stop ws
    by_cases hw : o.Operand w
    · rw [scan_operand hw] at h ⊢
      exact .operand hw (line_of_scan ws h)
    · obtain ⟨c₀, cs₀, rfl⟩ : ∃ c cs, w = o.dash :: c :: cs := by simpa [Operand] using hw
      rw [scan_letters (by simp) hstop] at h ⊢
      have hbad : .bad ∉ (o.letters (c₀ :: cs₀)).1 := fun hm => h (List.mem_append_left _ hm)
      have hrest : .bad ∉ o.scan (o.letters (c₀ :: cs₀)).2 ws :=
        fun hm => h (List.mem_append_right _ hm)
      obtain ⟨fs, hf, hfs | ⟨c, v, hc, hfs⟩⟩ := letters_cases _ hbad
      · have hletters := letters_flags hf []
        rw [List.append_nil] at hletters
        rw [hfs, hletters] at hrest ⊢
        have hne : fs ≠ [] := by
          rw [← hfs]
          simp
        have hline := Line.flags hne hf (line_of_scan ws (by simpa [letters] using hrest))
        simpa [letters] using hline
      · rw [hfs, letters_flags hf] at hrest ⊢
        by_cases hv : v = []
        · subst hv
          rw [letters_separate hc] at hrest ⊢
          match ws with
          | [] => exact absurd List.mem_cons_self hrest
          | v :: ws =>
            have hws : .bad ∉ o.scan none ws := fun hm => hrest (List.mem_cons_of_mem _ hm)
            have hline := Line.separate (v := v) hf hc (line_of_scan ws hws)
            simpa [scan] using hline
        · rw [letters_attached hc hv] at hrest ⊢
          have hline := Line.attached hf hc hv (line_of_scan ws hrest)
          simpa using hline

/-- The options are found exactly in the lines. -/
theorem line_iff : o.Line items ws ↔ o.scan none ws = items ∧ .bad ∉ items := by
  constructor
  · intro h
    exact ⟨h.scan_eq, h.bad_notMem⟩
  · rintro ⟨rfl, h⟩
    exact line_of_scan ws h

end Options

/-- A setting after some options, each of which may overwrite it. -/
theorem last_counts {σ β γ : Type*} {set : σ → β → σ} (setting : σ → γ) (value : β → Option γ)
    (h : ∀ s b, setting (set s b) = (value b).getD (setting s)) (s : σ) (bs : List β) :
    setting (bs.foldl set s) = (bs.filterMap value).getLast?.getD (setting s) := by
  induction bs using List.reverseRecOn with
  | nil => rfl
  | append_singleton bs b ih =>
    rw [List.foldl_concat, h, ih, List.filterMap_append]
    rcases hb : value b with _ | v
    · rw [List.filterMap_cons_none hb, List.filterMap_nil, List.append_nil]
      rfl
    · rw [List.filterMap_cons_some hb, List.filterMap_nil, List.getLast?_concat]
      rfl

end GetOpt

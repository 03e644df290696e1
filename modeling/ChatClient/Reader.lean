import ChatClient.Lib.CInt
import ChatClient.Lib.Words
import ChatClient.Mail

/-!
# Reading received bytes

The decoders read memory from a pointer on (`readUInt16`, `readString`) or take a text apart with a
`std::istringstream` (`extract`, `getline`).  Both are computations over the bytes still ahead; a
read past the end of the memory is an `outOfBounds` error.
-/

namespace ChatClient

/-- A computation that moves a pointer forward over the given memory. -/
abbrev Reader := StateT Bytes (Except Error)

namespace Reader

variable {α β : Type} {f : α → Reader β} {s s' : Bytes} {a : α}

/-- A computation that starts with a successful one. -/
theorem bind_ok {x : Reader α} (h : x s = .ok (a, s')) : (x >>= f) s = f a s' := by
  change (x s >>= fun p => f p.1 p.2) = _
  rw [h]
  rfl

/-- A constructor that succeeds does not move the pointer. -/
theorem lift_ok {x : Except Error α} (h : x = .ok a) : (liftM x >>= f) s = f a s := by
  subst h
  rfl

theorem lift_error {x : Except Error α} {e : Error} (h : x = .error e) :
    (liftM x >>= f) s = .error e := by
  subst h
  rfl

end Reader

/-- `*(*buffer)++` -/
def readChar : Reader Byte := fun buffer =>
  match buffer with
  | c :: rest => .ok (c, rest)
  | [] => .error .outOfBounds

def readUInt16 : Reader UInt16 := fun buffer =>
  match buffer with
  | h :: l :: rest => .ok (CInt.joinBytes h l, rest)
  | _ => .error .outOfBounds

/-- Bytes up to the next zero byte, which is skipped. -/
def readStringFrom : Bytes → Except Error (Bytes × Bytes)
  | [] => .error .outOfBounds
  | c :: rest =>
    if c ≠ 0 then do
      let (result, rest) ← readStringFrom rest
      return (c :: result, rest)
    else return ([], rest)

def readString : Reader Bytes := readStringFrom

@[simp] theorem readChar_cons (c : Byte) (rest : Bytes) :
    readChar (c :: rest) = .ok (c, rest) := rfl

@[simp] theorem readUInt16_cons (h l : Byte) (rest : Bytes) :
    readUInt16 (h :: l :: rest) = .ok (CInt.joinBytes h l, rest) := rfl

@[simp] theorem readUInt16_htons (v : UInt16) (rest : Bytes) :
    readUInt16 (CInt.htons v ++ rest) =
      .ok (CInt.joinBytes (CInt.hiByte v) (CInt.loByte v), rest) := rfl

@[simp] theorem readChar_htons (v : UInt16) (rest : Bytes) :
    readChar (CInt.htons v ++ rest) = .ok (CInt.hiByte v, CInt.loByte v :: rest) := rfl

/-- A number read one byte early. -/
@[simp] theorem readUInt16_cons_htons (c : Byte) (v : UInt16) (rest : Bytes) :
    readUInt16 (c :: (CInt.htons v ++ rest)) =
      .ok (CInt.joinBytes c (CInt.hiByte v), CInt.loByte v :: rest) := rfl

@[simp] theorem readString_nul (rest : Bytes) : readString (nul :: rest) = .ok ([], rest) := rfl

theorem readString_terminated {s : Bytes} (hs : nul ∉ s) (rest : Bytes) :
    readString (s ++ nul :: rest) = .ok (s, rest) := by
  induction s with
  | nil => rfl
  | cons c s ih =>
    have hc : c ≠ 0 := fun h => hs (h ▸ List.mem_cons_self)
    have hrest := ih fun h => hs (List.mem_cons_of_mem _ h)
    simp only [readString] at hrest ⊢
    rw [List.cons_append, readStringFrom, if_pos hc, hrest]
    rfl

theorem readString_unterminated {s : Bytes} (hs : nul ∉ s) : readString s = .error .outOfBounds := by
  induction s with
  | nil => rfl
  | cons c s ih =>
    have hc : c ≠ 0 := fun h => hs (h ▸ List.mem_cons_self)
    have hrest := ih fun h => hs (List.mem_cons_of_mem _ h)
    simp only [readString] at hrest ⊢
    rw [readStringFrom, if_pos hc, hrest]
    rfl

theorem readString_field {pattern : Pattern} {maxLength : ℕ} (f : Field pattern maxLength)
    (h : pattern.bracket nul = false) (rest : Bytes) :
    readString (f.val ++ nul :: rest) = .ok (f.val, rest) :=
  readString_terminated (f.notMem h) rest

/-! ## Text streams

A failed extraction leaves its target alone, and every target in the client is a fresh empty
string, so a stream needs no state bits: at the end of the text every further extraction yields
the empty string. -/

/-- A computation over the characters a `std::istringstream` still holds. -/
abbrev IStringStream := StateT Bytes (Except Error)

/-- `iss >> word` -/
def extract : IStringStream Bytes := fun iss => .ok (Words.next isSpace iss)

/-- `std::getline(iss, line)` -/
def getline : IStringStream Bytes := fun iss => .ok (Words.untilLetter lf iss)

/-- The word number `k` of a text, counted from 0. -/
def word (k : ℕ) (text : Bytes) : Bytes := Words.word isSpace k text

/-- The text behind the first `k` words. -/
def behind (k : ℕ) (text : Bytes) : Bytes := Words.after isSpace k text

theorem extract_behind (k : ℕ) (text : Bytes) :
    extract (behind k text) = .ok (word k text, behind (k + 1) text) :=
  congrArg Except.ok (Words.next_after k text)

/-- What the extraction number `k` yields. -/
theorem of_extract {k : ℕ} {text w rest : Bytes} (h : extract (behind k text) = .ok (w, rest)) :
    w = word k text ∧ rest = behind (k + 1) text :=
  Prod.mk.inj (Except.ok.inj (h.symm.trans (extract_behind k text)))

theorem extract_cons_space {c : Byte} (hc : isSpace c = true) (text : Bytes) :
    extract (c :: text) = extract text :=
  congrArg Except.ok (Words.next_cons_sep hc text)

theorem extract_word {w : Bytes} (hne : w ≠ []) (hw : ∀ x ∈ w, isSpace x = false) {c : Byte}
    (hc : isSpace c = true) (rest : Bytes) : extract (w ++ c :: rest) = .ok (w, c :: rest) :=
  congrArg Except.ok (Words.next_word hne hw hc rest)

/-- A word behind a space. -/
theorem extract_space_word {w : Bytes} (hne : w ≠ []) (hw : ∀ x ∈ w, isSpace x = false) {c : Byte}
    (hc : isSpace c = true) (rest : Bytes) :
    extract (space :: (w ++ c :: rest)) = .ok (w, c :: rest) := by
  rw [extract_cons_space rfl, extract_word hne hw hc]

/-- A word at the end of the text, or with white space behind it. -/
theorem extract_word_stop {w : Bytes} (hne : w ≠ []) (hw : ∀ x ∈ w, isSpace x = false)
    {rest : Bytes} (hrest : ∀ c ∈ rest.head?, isSpace c = true) :
    extract (w ++ rest) = .ok (w, rest) :=
  congrArg Except.ok (Words.next_word_stop hne hw hrest)

/-- What was extracted lies behind the white space at the front. -/
theorem dropWhile_of_extract {text w rest : Bytes} (h : extract text = .ok (w, rest)) :
    text.dropWhile isSpace = w ++ rest ∧ ∀ c ∈ rest.head?, isSpace c = true :=
  Words.dropWhile_of_next (Except.ok.inj h)

theorem getline_append {w : Bytes} (hw : lf ∉ w) (rest : Bytes) :
    getline (w ++ lf :: rest) = .ok (w, rest) :=
  congrArg Except.ok (Words.untilLetter_append hw rest)

/-- The last line of a text. -/
theorem getline_last {text : Bytes} (h : lf ∉ text) : getline text = .ok (text, []) :=
  congrArg Except.ok (Words.untilLetter_notMem h)

end ChatClient

import ChatClient.Lib.CInt
import ChatClient.Lib.GetOpt
import ChatClient.Mail
import Mathlib.Data.List.TakeWhile
import Mathlib.Data.Nat.Digits.Defs

/-!
# The command line

The class `ArgumentParser`: `getopt` with its option string, the conversions of the arguments, and the
checks.  `getopt` is the one of the GNU library without `POSIXLY_CORRECT`.  A command line is accepted
exactly when its options are known, their arguments convert, `-h` is not among them and both `-t` and
`-s` are; then the last option of each kind counts (`parse_iff`).  So every setting can be given
(`parse_written`).  Otherwise the first option that is not accepted decides how the process ends
(`parse_error_iff`).
-/

namespace ChatClient

/-- How `ArgumentParser::parse` ends without settings: in `exit(1)`, or in an exception of `std::stoi`
that `main` does not catch. -/
inductive ArgumentError
  | usage
  | invalidArgument
  | outOfRange
deriving DecidableEq

/-- The letter of an option. -/
def letter (c : Char) : Byte := c.toNat.toUInt8

/-! ## Numbers -/

def isDigit (c : Byte) : Bool := 48 ≤ c && c ≤ 57

/-- The value of some digits. -/
def digitsValue (digits : Bytes) : ℕ := digits.foldl (fun n c => 10 * n + (c.toNat - 48)) 0

/-- What `strtol` reads in base 10, without a bound; `none` if there is no number. -/
def strtol (str : Bytes) : Option Int :=
  let str := str.dropWhile isSpace
  let negative := str.head? == some (letter '-')
  let str := if negative || str.head? == some (letter '+') then str.drop 1 else str
  let digits := str.takeWhile isDigit
  if digits = [] then none
  else some (if negative then -(digitsValue digits : Int) else digitsValue digits)

def stoi (str : Bytes) : Except ArgumentError Int :=
  match strtol str with
  | none => .error .invalidArgument
  | some n => if -2 ^ 31 ≤ n ∧ n < 2 ^ 31 then .ok n else .error .outOfRange

/-- `atoi` before the conversion to `int`: a `long` that sticks at its bounds. -/
def atoi (str : Bytes) : Int := max (-2 ^ 63) (min ((strtol str).getD 0) (2 ^ 63 - 1))

/-! ## Parsing -/

/-- The settings.  `type` and `ip` are `none` as long as `typeSet` and `ipSet` are false. -/
structure ArgumentParser where
  type : Option ProtocolType := none
  ip : Option Bytes := none
  port : UInt16 := 4567
  timeout : UInt16 := 250
  retries : UInt8 := 3
  verbose : Bool := false
deriving DecidableEq

namespace ArgumentParser

/-- `"t:s:p:d:r:hv"` -/
def optstring : GetOpt.Options Byte where
  dash := letter '-'
  takes c :=
    if c ∈ chars "tspdr" then some true
    else if c ∈ chars "hv" then some false
    else none
  dash_unknown := rfl

/-- One turn of the loop. -/
def handle (args : ArgumentParser) : GetOpt.Item Byte → Except ArgumentError ArgumentParser
  | .arg opt optarg =>
    if opt = letter 't' then
      if optarg = chars "tcp" then .ok { args with type := some .tcp }
      else if optarg = chars "udp" then .ok { args with type := some .udp }
      else .error .usage
    else if opt = letter 's' then .ok { args with ip := some optarg }
    else if opt = letter 'p' then do
      let port ← stoi optarg
      return { args with port := UInt16.ofInt port }
    else if opt = letter 'd' then .ok { args with timeout := UInt16.ofInt (atoi optarg) }
    else if opt = letter 'r' then .ok { args with retries := UInt8.ofInt (atoi optarg) }
    else .error .usage
  | .flag opt => if opt = letter 'v' then .ok { args with verbose := true } else .error .usage
  | .bad => .error .usage

/-- `parse`; `argv` begins with the name of the program. -/
def parse (argv : List Bytes) : Except ArgumentError ArgumentParser := do
  let args ← (optstring.scan none argv.tail).foldlM handle {}
  if args.type = none ∨ args.ip = none then .error .usage
  else return args

/-! ## What is accepted -/

/-- The argument of an option with the given letter. -/
def optarg (c : Char) : GetOpt.Item Byte → Option Bytes
  | .arg opt optarg => if opt = letter c then some optarg else none
  | _ => none

def protocol (optarg : Bytes) : Option ProtocolType :=
  if optarg = chars "tcp" then some .tcp else if optarg = chars "udp" then some .udp else none

/-- The option is known and its argument converts. -/
inductive Accepted : GetOpt.Item Byte → Prop
  | type {v} (h : protocol v ≠ none) : Accepted (.arg (letter 't') v)
  | ip (v) : Accepted (.arg (letter 's') v)
  | port {v n} (h : stoi v = .ok n) : Accepted (.arg (letter 'p') v)
  | timeout (v) : Accepted (.arg (letter 'd') v)
  | retries (v) : Accepted (.arg (letter 'r') v)
  | verbose : Accepted (.flag (letter 'v'))

/-- What the options set, the last of each kind. -/
def settings (items : List (GetOpt.Item Byte)) : ArgumentParser where
  type := (items.filterMap fun item => (optarg 't' item).bind protocol).getLast?
  ip := (items.filterMap (optarg 's')).getLast?
  port := (items.filterMap fun item =>
    (optarg 'p' item).map fun v => UInt16.ofInt ((strtol v).getD 0)).getLast?.getD 4567
  timeout := (items.filterMap fun item =>
    (optarg 'd' item).map fun v => UInt16.ofInt (atoi v)).getLast?.getD 250
  retries := (items.filterMap fun item =>
    (optarg 'r' item).map fun v => UInt8.ofInt (atoi v)).getLast?.getD 3
  verbose := decide (.flag (letter 'v') ∈ items)

/-- What an accepted option sets. -/
def set (args : ArgumentParser) (item : GetOpt.Item Byte) : ArgumentParser where
  type := (((optarg 't' item).bind protocol).map some).getD args.type
  ip := ((optarg 's' item).map some).getD args.ip
  port := ((optarg 'p' item).map fun v => UInt16.ofInt ((strtol v).getD 0)).getD args.port
  timeout := ((optarg 'd' item).map fun v => UInt16.ofInt (atoi v)).getD args.timeout
  retries := ((optarg 'r' item).map fun v => UInt8.ofInt (atoi v)).getD args.retries
  verbose := (if item = .flag (letter 'v') then some true else none).getD args.verbose

theorem stoi_ok {v : Bytes} {n : Int} (h : stoi v = .ok n) : strtol v = some n := by
  unfold stoi at h
  split at h
  · cases h
  · next m hm =>
    split_ifs at h
    cases h
    exact hm

theorem handle_of_accepted {item : GetOpt.Item Byte} (h : Accepted item) (args : ArgumentParser) :
    args.handle item = .ok (args.set item) := by
  cases h with
  | @type v h =>
    by_cases htcp : v = chars "tcp"
    · subst htcp
      rfl
    by_cases hudp : v = chars "udp"
    · subst hudp
      rfl
    · rw [protocol, if_neg htcp, if_neg hudp] at h
      contradiction
  | @port v n h =>
    have hset : args.set (.arg (letter 'p') v) =
        { args with port := UInt16.ofInt ((strtol v).getD 0) } := rfl
    have hport : args.handle (.arg (letter 'p') v) =
        (stoi v >>= fun port => .ok { args with port := UInt16.ofInt port }) := rfl
    rw [hset, hport, stoi_ok h, h]
    rfl
  | ip | timeout | retries | verbose => rfl

theorem accepted_of_handle {args args' : ArgumentParser} {item : GetOpt.Item Byte}
    (h : args.handle item = .ok args') : Accepted item := by
  cases item with
  | bad => cases h
  | flag opt =>
    simp only [handle] at h
    split_ifs at h with hv
    subst hv
    exact .verbose
  | arg opt v =>
    simp only [handle] at h
    split_ifs at h with ht htcp hudp hs hp hd hr
    · subst ht htcp
      exact .type (by decide)
    · subst ht hudp
      exact .type (by decide)
    · subst hs
      exact .ip v
    · obtain ⟨n, hn, -⟩ := Outcome.bind_eq_ok.1 h
      subst hp
      exact .port hn
    · subst hd
      exact .timeout v
    · subst hr
      exact .retries v

/-- An option is accepted, or the loop ends. -/
theorem handle_iff {args args' : ArgumentParser} {item : GetOpt.Item Byte} :
    args.handle item = .ok args' ↔ Accepted item ∧ args' = args.set item := by
  constructor
  · intro h
    have haccepted := accepted_of_handle h
    rw [handle_of_accepted haccepted] at h
    exact ⟨haccepted, (Except.ok.inj h).symm⟩
  · rintro ⟨haccepted, rfl⟩
    exact handle_of_accepted haccepted args

theorem foldlM_handle_iff {args args' : ArgumentParser} {items : List (GetOpt.Item Byte)} :
    items.foldlM handle args = .ok args' ↔
      (∀ item ∈ items, Accepted item) ∧ args' = items.foldl set args := by
  induction items generalizing args with
  | nil => simp [pure, Except.pure, eq_comm]
  | cons item items ih =>
    rw [List.foldlM_cons, Outcome.bind_eq_ok, List.foldl_cons, List.forall_mem_cons]
    constructor
    · rintro ⟨args₁, hitem, hitems⟩
      obtain ⟨haccepted, rfl⟩ := handle_iff.1 hitem
      obtain ⟨hall, rfl⟩ := ih.1 hitems
      exact ⟨⟨haccepted, hall⟩, rfl⟩
    · rintro ⟨⟨haccepted, hall⟩, rfl⟩
      exact ⟨_, handle_iff.2 ⟨haccepted, rfl⟩, ih.2 ⟨hall, rfl⟩⟩

theorem getLast?_some {β : Type} (value : GetOpt.Item Byte → Option β)
    (items : List (GetOpt.Item Byte)) :
    (items.filterMap fun item => (value item).map some).getLast?.getD none =
      (items.filterMap value).getLast? := by
  rw [← List.map_filterMap, List.getLast?_map]
  rcases (items.filterMap value).getLast? with _ | v <;> rfl

theorem getLast?_flag (items : List (GetOpt.Item Byte)) (flag : GetOpt.Item Byte) :
    (items.filterMap fun item => if item = flag then some true else none).getLast?.getD false =
      decide (flag ∈ items) := by
  by_cases h : flag ∈ items
  · have hmem : true ∈ items.filterMap fun item => if item = flag then some true else none :=
      List.mem_filterMap.2 ⟨flag, h, if_pos rfl⟩
    rcases hlast : (items.filterMap fun item => if item = flag then some true else none).getLast?
      with _ | b
    · rw [List.getLast?_eq_none_iff.1 hlast] at hmem
      cases hmem
    · obtain ⟨item, -, hitem⟩ := List.mem_filterMap.1 (List.mem_of_getLast? hlast)
      split_ifs at hitem
      cases hitem
      simp [h]
  · have hnil : (items.filterMap fun item => if item = flag then some true else none) = [] := by
      rw [List.filterMap_eq_nil_iff]
      intro item hitem
      apply if_neg
      rintro rfl
      exact h hitem
    rw [hnil]
    simp [h]

theorem foldl_set (items : List (GetOpt.Item Byte)) : items.foldl set {} = settings items := by
  have hlast : ∀ {γ : Type} (setting : ArgumentParser → γ) (value : GetOpt.Item Byte → Option γ),
      (∀ s item, setting (set s item) = (value item).getD (setting s)) →
      setting (items.foldl set {}) = (items.filterMap value).getLast?.getD (setting {}) :=
    fun setting value h => GetOpt.last_counts setting value h {} items
  have htype := hlast type (fun item => ((optarg 't' item).bind protocol).map some) fun _ _ => rfl
  have hip := hlast ip (fun item => (optarg 's' item).map some) fun _ _ => rfl
  have hport := hlast port _ fun _ _ => rfl
  have htimeout := hlast timeout _ fun _ _ => rfl
  have hretries := hlast retries _ fun _ _ => rfl
  have hverbose := hlast verbose _ fun _ _ => rfl
  rw [getLast?_some] at htype hip
  rw [getLast?_flag] at hverbose
  generalize items.foldl set {} = args at *
  obtain ⟨type, ip, port, timeout, retries, verbose⟩ := args
  subst htype hip hport htimeout hretries hverbose
  rfl

theorem bad_notMem {items : List (GetOpt.Item Byte)} (h : ∀ item ∈ items, Accepted item) :
    .bad ∉ items := by
  intro hmem
  cases h _ hmem

theorem parse_of_line {argv : List Bytes} {items : List (GetOpt.Item Byte)}
    (hline : optstring.Line items argv.tail) (haccepted : ∀ item ∈ items, Accepted item)
    (htype : (settings items).type ≠ none) (hip : (settings items).ip ≠ none) :
    parse argv = .ok (settings items) := by
  have hfold : items.foldlM handle {} = .ok (items.foldl set {}) :=
    foldlM_handle_iff.2 ⟨haccepted, rfl⟩
  rw [parse, hline.scan_eq, hfold, foldl_set]
  apply if_neg
  simp [htype, hip]

theorem line_of_parse {argv : List Bytes} {args : ArgumentParser} (h : parse argv = .ok args) :
    ∃ items, optstring.Line items argv.tail ∧ (∀ item ∈ items, Accepted item) ∧
      args = settings items ∧ args.type ≠ none ∧ args.ip ≠ none := by
  rw [parse, Outcome.bind_eq_ok] at h
  obtain ⟨args', hfold, h⟩ := h
  obtain ⟨haccepted, rfl⟩ := foldlM_handle_iff.1 hfold
  split_ifs at h with hset
  cases h
  rw [foldl_set] at hset ⊢
  rw [not_or] at hset
  have hline := GetOpt.Options.line_iff.2 ⟨rfl, bad_notMem haccepted⟩
  exact ⟨_, hline, haccepted, rfl, hset.1, hset.2⟩

/-- A command line is accepted exactly when it is a line of `getopt`, all its options are accepted,
and both a protocol and a server are given; the settings are those that the last option of each kind
gives, and the defaults where there is none. -/
theorem parse_iff (argv : List Bytes) (args : ArgumentParser) :
    parse argv = .ok args ↔ ∃ items, optstring.Line items argv.tail ∧
      (∀ item ∈ items, Accepted item) ∧ args = settings items ∧ args.type ≠ none ∧
      args.ip ≠ none := by
  constructor
  · exact line_of_parse
  · rintro ⟨items, hline, haccepted, rfl, htype, hip⟩
    exact parse_of_line hline haccepted htype hip

/-! ## What is not accepted -/

/-- How an option ends the process, if it does. -/
def rejection : GetOpt.Item Byte → Option ArgumentError
  | .arg opt optarg =>
    if opt = letter 't' then if protocol optarg = none then some .usage else none
    else if opt = letter 'p' then
      match stoi optarg with
      | .ok _ => none
      | .error e => some e
    else if opt ∈ chars "sdr" then none
    else some .usage
  | .flag opt => if opt = letter 'v' then none else some .usage
  | .bad => some .usage

theorem rejection_of_accepted {item : GetOpt.Item Byte} (h : Accepted item) :
    rejection item = none := by
  cases h with
  | type h => exact if_neg h
  | @port v n h =>
    have hport : rejection (.arg (letter 'p') v) =
        match stoi v with | .ok _ => none | .error e => some e := rfl
    rw [hport, h]
  | ip | timeout | retries | verbose => rfl

theorem rejection_of_error {args : ArgumentParser} {item : GetOpt.Item Byte} {e : ArgumentError}
    (h : args.handle item = .error e) : rejection item = some e := by
  cases item with
  | bad =>
    cases h
    rfl
  | flag opt =>
    simp only [handle] at h
    split_ifs at h with hv
    cases h
    exact if_neg hv
  | arg opt v =>
    simp only [handle] at h
    split_ifs at h with ht htcp hudp hs hp hd hr
    · cases h
      simp [rejection, ht, protocol, htcp, hudp]
    · subst hp
      rcases hn : stoi v with e' | n
      · rw [hn] at h
        cases h
        rw [rejection, if_neg ht, if_pos rfl, hn]
      · rw [hn] at h
        cases h
    · cases h
      have hsdr : opt ∉ chars "sdr" := by
        change opt ∉ [letter 's', letter 'd', letter 'r']
        simp [hs, hd, hr]
      simp [rejection, ht, hp, hsdr]

/-- The first option that is not accepted ends the loop. -/
theorem foldlM_error_iff {args : ArgumentParser} {items : List (GetOpt.Item Byte)}
    {e : ArgumentError} :
    items.foldlM handle args = .error e ↔ (items.filterMap rejection).head? = some e := by
  induction items generalizing args with
  | nil => simp [pure, Except.pure]
  | cons item items ih =>
    rw [List.foldlM_cons]
    rcases hitem : args.handle item with e' | args'
    · rw [List.filterMap_cons_some (rejection_of_error hitem), List.head?_cons]
      constructor
      · intro h
        exact congrArg some (Except.error.inj h)
      · intro h
        exact congrArg Except.error (Option.some.inj h)
    · rw [List.filterMap_cons_none (rejection_of_accepted (accepted_of_handle hitem))]
      exact ih

/-- A command line is turned down with the error of its first option that is not accepted, or, where
there is none, with the usage text because no protocol or no server is given. -/
theorem parse_error_iff (argv : List Bytes) (e : ArgumentError) :
    parse argv = .error e ↔
      ((optstring.scan none argv.tail).filterMap rejection).head? = some e ∨
        ((optstring.scan none argv.tail).filterMap rejection = [] ∧ e = .usage ∧
          ((settings (optstring.scan none argv.tail)).type = none ∨
            (settings (optstring.scan none argv.tail)).ip = none)) := by
  rw [parse]
  generalize optstring.scan none argv.tail = items
  rcases hfold : items.foldlM handle {} with e' | args
  · have hhead := foldlM_error_iff.1 hfold
    have hne : items.filterMap rejection ≠ [] := by
      intro hnil
      rw [hnil] at hhead
      cases hhead
    rw [hhead]
    constructor
    · intro h
      exact .inl (congrArg some (Except.error.inj h))
    · rintro (h | ⟨hnil, -⟩)
      · exact congrArg Except.error (Option.some.inj h)
      · exact absurd hnil hne
  · obtain ⟨haccepted, rfl⟩ := foldlM_handle_iff.1 hfold
    have hnil : items.filterMap rejection = [] := by
      rw [List.filterMap_eq_nil_iff]
      intro item hm
      exact rejection_of_accepted (haccepted item hm)
    rw [hnil, foldl_set]
    change (if _ then _ else _) = _ ↔ _
    split_ifs with hset
    · constructor
      · intro h
        exact .inr ⟨rfl, (Except.error.inj h).symm, hset⟩
      · rintro (h | ⟨-, rfl, -⟩)
        · cases h
        · rfl
    · constructor
      · intro h
        cases h
      · rintro (h | ⟨-, -, h⟩)
        · cases h
        · exact absurd h hset

/-! ## Writing a command line -/

end ArgumentParser

/-- A number in decimal digits. -/
def decimal (n : ℕ) : Bytes :=
  if n = 0 then [48] else (Nat.digits 10 n).reverse.map fun d => (48 + d).toUInt8

theorem isDigit_iff {c : Byte} : isDigit c = true ↔ 48 ≤ c.toNat ∧ c.toNat ≤ 57 := by
  simp [isDigit, UInt8.le_iff_toNat_le]

theorem isSpace_of_isDigit {c : Byte} (h : isDigit c = true) : isSpace c = false := by
  rw [isDigit_iff] at h
  simp only [isSpace, Bool.or_eq_false_iff, Bool.and_eq_false_iff, beq_eq_false_iff_ne, ne_eq,
    decide_eq_false_iff_not, UInt8.le_iff_toNat_le, ← UInt8.toNat_inj]
  exact ⟨by change c.toNat ≠ 32; omega, .inr (by change ¬ c.toNat ≤ 13; omega)⟩

theorem ne_of_isDigit {c d : Byte} (h : isDigit c = true) (hd : isDigit d = false) :
    (c == d) = false := by
  rw [beq_eq_false_iff_ne]
  rintro rfl
  rw [h] at hd
  cases hd

theorem strtol_digits {str : Bytes} (hne : str ≠ []) (h : ∀ c ∈ str, isDigit c = true) :
    strtol str = some (digitsValue str : Int) := by
  obtain ⟨c, rest, rfl⟩ := List.exists_cons_of_ne_nil hne
  have hc := h c List.mem_cons_self
  have hdrop : (c :: rest).dropWhile isSpace = c :: rest :=
    List.dropWhile_cons_of_neg (by simp [isSpace_of_isDigit hc])
  have hminus : ((c :: rest).head? == some (letter '-')) = false := ne_of_isDigit hc rfl
  have hplus : ((c :: rest).head? == some (letter '+')) = false := ne_of_isDigit hc rfl
  have htake : (c :: rest).takeWhile isDigit = c :: rest := List.takeWhile_eq_self_iff.2 h
  simp only [strtol, hdrop, hminus, hplus]
  simp [htake]

theorem digit_toNat {d : ℕ} (h : d < 10) : ((48 + d).toUInt8 : Byte).toNat = 48 + d := by
  have := UInt8.toNat_ofNat' (n := 48 + d)
  rw [Nat.toUInt8, this]
  omega

/-- The digits of a number, the lowest first. -/
theorem digitsValue_reverse {digits : List ℕ} (h : ∀ d ∈ digits, d < 10) :
    digitsValue (digits.reverse.map fun d => (48 + d).toUInt8) = Nat.ofDigits 10 digits := by
  induction digits with
  | nil => rfl
  | cons d digits ih =>
    have hd := digit_toNat (h d List.mem_cons_self)
    have hrest := ih fun d hd => h d (List.mem_cons_of_mem _ hd)
    rw [digitsValue] at hrest ⊢
    rw [List.reverse_cons, List.map_append, List.foldl_append, hrest, Nat.ofDigits_cons]
    simp only [List.map_cons, List.map_nil, List.foldl_cons, List.foldl_nil, hd]
    omega

theorem strtol_decimal (n : ℕ) : strtol (decimal n) = some (n : Int) := by
  have hlt : ∀ d ∈ Nat.digits 10 n, d < 10 := fun d hd => Nat.digits_lt_base (by decide) hd
  by_cases hn : n = 0
  · subst hn
    rfl
  · rw [decimal, if_neg hn, strtol_digits, digitsValue_reverse hlt, Nat.ofDigits_digits]
    · simpa using Nat.digits_ne_nil_iff_ne_zero.2 hn
    · intro c hc
      obtain ⟨d, hd, rfl⟩ := List.mem_map.1 hc
      have := hlt d (List.mem_reverse.1 hd)
      rw [isDigit_iff, digit_toNat this]
      omega

theorem atoi_decimal {n : ℕ} (h : n < 2 ^ 63) : atoi (decimal n) = n := by
  rw [atoi, strtol_decimal, Option.getD_some]
  omega

theorem stoi_decimal {n : ℕ} (h : n < 2 ^ 31) : stoi (decimal n) = .ok n := by
  rw [stoi, strtol_decimal]
  apply if_pos
  omega

namespace ArgumentParser

/-- The words of an option, its argument in a word of its own. -/
def written : GetOpt.Item Byte → List Bytes
  | .flag opt => [[letter '-', opt]]
  | .arg opt optarg => [[letter '-', opt], optarg]
  | .bad => []

def protocolName : ProtocolType → Bytes
  | .tcp => chars "tcp"
  | .udp => chars "udp"

/-- The options for some settings. -/
def options (type : ProtocolType) (ip : Bytes) (port timeout : UInt16) (retries : UInt8)
    (verbose : Bool) : List (GetOpt.Item Byte) :=
  [.arg (letter 't') (protocolName type), .arg (letter 's') ip,
    .arg (letter 'p') (decimal port.toNat), .arg (letter 'd') (decimal timeout.toNat),
    .arg (letter 'r') (decimal retries.toNat)] ++
  if verbose then [.flag (letter 'v')] else []

theorem takes_of_accepted {item : GetOpt.Item Byte} (h : Accepted item) :
    match item with
    | .flag opt => optstring.takes opt = some false
    | .arg opt _ => optstring.takes opt = some true
    | .bad => False := by
  cases h <;> rfl

theorem line_written {items : List (GetOpt.Item Byte)} (h : ∀ item ∈ items, Accepted item) :
    optstring.Line items (items.flatMap written) := by
  induction items with
  | nil => exact .nil
  | cons item items ih =>
    have hitem := takes_of_accepted (h item List.mem_cons_self)
    have hitems := ih fun item hm => h item (List.mem_cons_of_mem _ hm)
    cases item with
    | flag opt =>
      have hflags : ∀ c ∈ [opt], optstring.takes c = some false := by simpa using hitem
      exact .flags (List.cons_ne_nil opt []) hflags hitems
    | arg opt v =>
      have hnone : ∀ c ∈ ([] : List Byte), optstring.takes c = some false := by simp
      exact .separate hnone hitem hitems
    | bad => cases hitem

section Settings

variable (type : ProtocolType) (ip : Bytes) (port timeout : UInt16) (retries : UInt8)
  (verbose : Bool)

theorem options_accepted : ∀ item ∈ options type ip port timeout retries verbose, Accepted item := by
  have htype : protocol (protocolName type) ≠ none := by
    cases type <;> decide
  have hport : stoi (decimal port.toNat) = .ok (port.toNat : Int) := by
    apply stoi_decimal
    have := port.toNat_lt
    omega
  have hverbose : ∀ item ∈ if verbose then [GetOpt.Item.flag (letter 'v')] else [],
      Accepted item := by
    cases verbose
    · simp
    · simpa using Accepted.verbose
  rw [options, List.forall_mem_append]
  refine ⟨?_, hverbose⟩
  simp only [List.forall_mem_cons]
  exact ⟨.type htype, .ip ip, .port hport, .timeout _, .retries _, by simp⟩

/-- No option of the list is there twice, so their order does not matter. -/
theorem settings_perm {items : List (GetOpt.Item Byte)}
    (h : items.Perm (options type ip port timeout retries verbose)) :
    settings items =
      { type := some type, ip := some ip, port, timeout, retries, verbose } := by
  have hone : ∀ {β : Type} (value : GetOpt.Item Byte → Option β) {x : β},
      (options type ip port timeout retries verbose).filterMap value = [x] →
      items.filterMap value = [x] := by
    intro β value x hx
    apply List.perm_singleton.1
    rw [← hx]
    exact h.filterMap value
  have htype := hone (fun item => (optarg 't' item).bind protocol) (x := type)
    (by cases verbose <;> cases type <;> rfl)
  have hip := hone (optarg 's') (x := ip) (by cases verbose <;> rfl)
  have hport := hone (optarg 'p') (x := decimal port.toNat) (by cases verbose <;> rfl)
  have htimeout := hone (optarg 'd') (x := decimal timeout.toNat) (by cases verbose <;> rfl)
  have hretries := hone (optarg 'r') (x := decimal retries.toNat) (by cases verbose <;> rfl)
  have hverbose : (.flag (letter 'v') ∈ items) ↔ verbose = true := by
    rw [h.mem_iff]
    cases verbose <;> simp [options]
  have hportValue : UInt16.ofInt ((strtol (decimal port.toNat)).getD 0) = port := by
    rw [strtol_decimal, Option.getD_some, CInt.ofInt_toNat]
  have htimeoutValue : UInt16.ofInt (atoi (decimal timeout.toNat)) = timeout := by
    have := timeout.toNat_lt
    rw [atoi_decimal (by omega), CInt.ofInt_toNat]
  have hretriesValue : UInt8.ofInt (atoi (decimal retries.toNat)) = retries := by
    have hlt := retries.toNat_lt
    have hmod : ((retries.toNat : Int) % 2 ^ 8).toNat = retries.toNat := by omega
    rw [atoi_decimal (by omega), UInt8.ofInt, hmod, UInt8.ofNat_toNat]
  simp only [settings, ← List.map_filterMap, htype, hip, hport, htimeout, hretries, hverbose,
    List.map_cons, List.map_nil, List.getLast?_singleton, Option.getD_some, hportValue,
    htimeoutValue, hretriesValue, Bool.decide_eq_true]

/-- Every setting can be given, with the options in any order. -/
theorem parse_written (name : Bytes) {items : List (GetOpt.Item Byte)}
    (h : items.Perm (options type ip port timeout retries verbose)) :
    parse (name :: items.flatMap written) =
      .ok { type := some type, ip := some ip, port, timeout, retries, verbose } := by
  have hset := settings_perm type ip port timeout retries verbose h
  have haccepted : ∀ item ∈ items, Accepted item := by
    intro item hm
    exact options_accepted type ip port timeout retries verbose item (h.mem_iff.1 hm)
  have hline : optstring.Line items (name :: items.flatMap written).tail := line_written haccepted
  rw [parse_of_line hline haccepted (by simp [hset]) (by simp [hset]), hset]

end Settings

/-- `-v -r 0 -p 80 -s h -d 1000 -t udp` -/
theorem parse_written_shuffled :
    parse [chars "client", chars "-v", chars "-r", chars "0", chars "-p", chars "80", chars "-s",
        chars "h", chars "-d", chars "1000", chars "-t", chars "udp"] =
      .ok { type := some .udp, ip := some (chars "h"), port := 80, timeout := 1000, retries := 0,
            verbose := true } := by
  have hperm : [.flag (letter 'v'), .arg (letter 'r') (decimal 0), .arg (letter 'p') (decimal 80),
      .arg (letter 's') (chars "h"), .arg (letter 'd') (decimal 1000),
      .arg (letter 't') (chars "udp")].Perm (options .udp (chars "h") 80 1000 0 true) := by
    decide
  exact parse_written .udp (chars "h") 80 1000 0 true (chars "client") hperm

end ArgumentParser

end ChatClient

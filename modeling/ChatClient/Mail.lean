import ChatClient.Char
import ChatClient.Lib.Outcome
import Mathlib.Tactic.SplitIfs

/-!
# Mails

The class `Mail`: the validators of its string fields, its message types and the variant of message
data.  The constructors of the message structures validate their string fields and throw when one
is invalid, so the fields of an existing message are valid; here a validated string is a `Field`,
which carries the proof, and the constructors are the functions `new`, which can fail.
-/

namespace ChatClient

/-- What can end a function of the client other than by returning.  Only `runtimeError` is a
`std::runtime_error`; `badVariantAccess` is thrown by `std::get`, and the others stand for
undefined behaviour. -/
inductive Error
  | runtimeError (what : Bytes)
  | badVariantAccess
  /-- memory was accessed outside the object it belongs to -/
  | outOfBounds
  /-- `front()` of an empty queue -/
  | emptyQueue
  /-- the type tag of a mail was read before it was ever written -/
  | indeterminate
deriving DecidableEq

inductive ProtocolType
  | tcp
  | udp
deriving DecidableEq

/-! ## Validators -/

/-- A regular expression of the shape `[...]{lo,hi}`. -/
structure Pattern where
  bracket : Byte → Bool
  lo : ℕ
  hi : ℕ

/-- `std::regex_match` of the whole string. -/
def regexMatch (value : Bytes) (pattern : Pattern) : Bool :=
  value.all pattern.bracket && decide (pattern.lo ≤ value.length ∧ value.length ≤ pattern.hi)

/-- A string that passes `validateString` for `pattern` and `maxLength`. -/
structure Field (pattern : Pattern) (maxLength : ℕ) where
  val : Bytes
  valid : val.length ≤ maxLength ∧ regexMatch val pattern = true
deriving DecidableEq

/-- The bytes of `value` in hexadecimal, a space after each. -/
def hexStream (value : Bytes) : Bytes := value.flatMap fun c => hex c ++ chars " "

def validateString (value : Bytes) (pattern : Pattern) (maxLength : ℕ) (fieldName : String) :
    Except Error (Field pattern maxLength) :=
  if h : value.length ≤ maxLength ∧ regexMatch value pattern = true then .ok ⟨value, h⟩
  else .error (.runtimeError (chars fieldName ++ chars " is invalid." ++ chars " value: [" ++
    value ++ chars "] Hex: [" ++ hexStream value ++ chars "]"))

/-- `[A-Za-z0-9\-]{1,20}` -/
def usernamePattern : Pattern := ⟨isNameChar, 1, 20⟩

/-- `[A-Za-z0-9\-\.]{1,20}` -/
def channelIDPattern : Pattern := ⟨fun c => isNameChar c || c == 46, 1, 20⟩

/-- `[A-Za-z0-9\-]{1,128}` -/
def secretPattern : Pattern := ⟨isNameChar, 1, 128⟩

/-- `[\x21-\x7E]{1,20}` -/
def displayNamePattern : Pattern := ⟨fun c => 0x21 ≤ c && c ≤ 0x7E, 1, 20⟩

/-- `[\x20-\x7E]{1,1400}` -/
def messageContentPattern : Pattern := ⟨fun c => 0x20 ≤ c && c ≤ 0x7E, 1, 1400⟩

abbrev Username := Field usernamePattern 20
abbrev ChannelID := Field channelIDPattern 20
abbrev Secret := Field secretPattern 128
abbrev DisplayName := Field displayNamePattern 20
abbrev MessageContent := Field messageContentPattern 1400

def validateUsername (username : Bytes) : Except Error Username :=
  validateString username usernamePattern 20 "Username"

/-- The field is reported as `Username`, as in the source. -/
def validateChannelID (channelID : Bytes) : Except Error ChannelID :=
  validateString channelID channelIDPattern 20 "Username"

def validateSecret (secret : Bytes) : Except Error Secret :=
  validateString secret secretPattern 128 "Secret"

def validateDisplayName (displayName : Bytes) : Except Error DisplayName :=
  validateString displayName displayNamePattern 20 "DisplayName"

def validateMessageContent (messageContent : Bytes) : Except Error MessageContent :=
  validateString messageContent messageContentPattern 1400 "MessageContent"

section Field

variable {pattern : Pattern} {maxLength : ℕ}

@[simp] theorem validateString_val (f : Field pattern maxLength) (fieldName : String) :
    validateString f.val pattern maxLength fieldName = .ok f := by
  rw [validateString, dif_pos f.valid]

@[simp] theorem validateUsername_val (f : Username) : validateUsername f.val = .ok f :=
  validateString_val f _

@[simp] theorem validateChannelID_val (f : ChannelID) : validateChannelID f.val = .ok f :=
  validateString_val f _

@[simp] theorem validateSecret_val (f : Secret) : validateSecret f.val = .ok f :=
  validateString_val f _

@[simp] theorem validateDisplayName_val (f : DisplayName) : validateDisplayName f.val = .ok f :=
  validateString_val f _

@[simp] theorem validateMessageContent_val (f : MessageContent) :
    validateMessageContent f.val = .ok f :=
  validateString_val f _

theorem validateString_eq_ok {value : Bytes} {fieldName : String} {f : Field pattern maxLength}
    (h : validateString value pattern maxLength fieldName = .ok f) : f.val = value := by
  unfold validateString at h
  split_ifs at h
  cases h
  rfl

/-- The strings that `validateString` accepts. -/
def Pattern.Valid (pattern : Pattern) (maxLength : ℕ) (value : Bytes) : Prop :=
  value.length ≤ maxLength ∧ regexMatch value pattern = true

instance (value : Bytes) : Decidable (pattern.Valid maxLength value) :=
  inferInstanceAs (Decidable (_ ∧ _))

theorem Field.valid_val (f : Field pattern maxLength) : pattern.Valid maxLength f.val := f.valid

theorem Field.bracket_of_mem (f : Field pattern maxLength) {c : Byte} (hc : c ∈ f.val) :
    pattern.bracket c = true := by
  have h := f.valid.2
  rw [regexMatch, Bool.and_eq_true] at h
  exact List.all_eq_true.1 h.1 c hc

theorem Field.notMem (f : Field pattern maxLength) {c : Byte} (hc : pattern.bracket c = false) :
    c ∉ f.val := by
  intro hmem
  rw [f.bracket_of_mem hmem] at hc
  cases hc

theorem Field.ne_nil (f : Field pattern maxLength) (h : 0 < pattern.lo) : f.val ≠ [] := by
  intro hnil
  have hlen := f.valid.2
  rw [regexMatch, Bool.and_eq_true, decide_eq_true_eq, hnil, List.length_nil] at hlen
  omega

end Field

abbrev ValidUsername : Bytes → Prop := usernamePattern.Valid 20
abbrev ValidChannelID : Bytes → Prop := channelIDPattern.Valid 20
abbrev ValidSecret : Bytes → Prop := secretPattern.Valid 128
abbrev ValidDisplayName : Bytes → Prop := displayNamePattern.Valid 20
abbrev ValidMessageContent : Bytes → Prop := messageContentPattern.Valid 1400

/-- The errors that `validateString` throws: their texts begin with the name of the field. -/
def Error.Invalid (e : Error) : Prop :=
  ∃ fieldName ∈ ["Username", "Secret", "DisplayName", "MessageContent"], ∃ rest,
    e = .runtimeError (chars fieldName ++ rest)

theorem validateString_checks {pattern : Pattern} {maxLength : ℕ} (value : Bytes)
    {fieldName : String} (hname : fieldName ∈ ["Username", "Secret", "DisplayName", "MessageContent"]) :
    Outcome.Checks Error.Invalid (validateString value pattern maxLength fieldName)
      (pattern.Valid maxLength value) := by
  unfold validateString
  split_ifs with h
  · exact (Outcome.Checks.pure _).congr (by simp [Pattern.Valid, h])
  · have hinvalid : Error.Invalid _ :=
      ⟨fieldName, hname, chars " is invalid." ++ (chars " value: [" ++ (value ++
        (chars "] Hex: [" ++ (hexStream value ++ chars "]")))), rfl⟩
    simp only [List.append_assoc] at hinvalid ⊢
    exact (Outcome.Checks.fail hinvalid).congr (by simp [Pattern.Valid, h])

/-! ## Messages -/

inductive MessageType
  | auth
  | join
  | err
  | bye
  | msg
  | reply
  | confirm
  | unknown
deriving DecidableEq

/-- The value of the enumerator. -/
def MessageType.code : MessageType → Byte
  | auth => 0x02
  | join => 0x03
  | err => 0xFE
  | bye => 0xFF
  | msg => 0x04
  | reply => 0x01
  | confirm => 0x00
  | unknown => 0x05

/-- The enumerator with a value, if there is one. -/
def MessageType.ofCode (c : Byte) : Option MessageType :=
  if c = 0x02 then some auth
  else if c = 0x03 then some join
  else if c = 0xFE then some err
  else if c = 0xFF then some bye
  else if c = 0x04 then some msg
  else if c = 0x01 then some reply
  else if c = 0x00 then some confirm
  else if c = 0x05 then some unknown
  else none

@[simp] theorem MessageType.ofCode_code (ty : MessageType) : ofCode ty.code = some ty := by
  cases ty <;> rfl

theorem MessageType.code_injective : Function.Injective code := by
  intro a b h
  have := congrArg ofCode h
  simpa using this

structure ConfirmMessage where
  refMessageID : Int
deriving DecidableEq

structure AuthMessage where
  messageID : UInt16
  username : Username
  displayName : DisplayName
  secret : Secret
deriving DecidableEq

structure JoinMessage where
  messageID : Int
  channelID : ChannelID
  displayName : DisplayName
deriving DecidableEq

structure ErrorMessage where
  messageID : Int
  displayName : DisplayName
  messageContent : MessageContent
deriving DecidableEq

structure ByeMessage where
  messageID : Int
deriving DecidableEq

structure TextMessage where
  toSend : Bool := false
  messageID : Int
  displayName : DisplayName
  messageContent : MessageContent
deriving DecidableEq

structure ReplyMessage where
  messageID : Int
  /-- true for REPLY, false for !REPLY -/
  result : Bool
  refMessageID : Int
  messageContent : MessageContent
deriving DecidableEq

structure UnknownMessage where
  messageID : Int
deriving DecidableEq

def AuthMessage.new (id : UInt16) (username displayName secret : Bytes) :
    Except Error AuthMessage := do
  let username ← validateUsername username
  let displayName ← validateDisplayName displayName
  let secret ← validateSecret secret
  return { messageID := id, username, displayName, secret }

def JoinMessage.new (id : Int) (channelID displayName : Bytes) : Except Error JoinMessage := do
  let channelID ← validateChannelID channelID
  let displayName ← validateDisplayName displayName
  return { messageID := id, channelID, displayName }

def ErrorMessage.new (id : Int) (displayName messageContent : Bytes) :
    Except Error ErrorMessage := do
  let displayName ← validateDisplayName displayName
  let messageContent ← validateMessageContent messageContent
  return { messageID := id, displayName, messageContent }

def TextMessage.new (id : Int) (displayName messageContent : Bytes) :
    Except Error TextMessage := do
  let displayName ← validateDisplayName displayName
  let messageContent ← validateMessageContent messageContent
  return { messageID := id, displayName, messageContent }

def ReplyMessage.new (id : Int) (result : Bool) (refMessageID : Int) (messageContent : Bytes) :
    Except Error ReplyMessage := do
  let messageContent ← validateMessageContent messageContent
  return { messageID := id, result, refMessageID, messageContent }

/-! The constructors accept fields that are valid already. -/

@[simp] theorem AuthMessage.new_val (id : UInt16) (u : Username) (d : DisplayName) (s : Secret) :
    AuthMessage.new id u.val d.val s.val = .ok ⟨id, u, d, s⟩ := by
  simp only [AuthMessage.new, validateUsername_val, validateDisplayName_val, validateSecret_val]
  rfl

@[simp] theorem JoinMessage.new_val (id : Int) (c : ChannelID) (d : DisplayName) :
    JoinMessage.new id c.val d.val = .ok ⟨id, c, d⟩ := by
  simp only [JoinMessage.new, validateChannelID_val, validateDisplayName_val]
  rfl

@[simp] theorem ErrorMessage.new_val (id : Int) (d : DisplayName) (m : MessageContent) :
    ErrorMessage.new id d.val m.val = .ok ⟨id, d, m⟩ := by
  simp only [ErrorMessage.new, validateDisplayName_val, validateMessageContent_val]
  rfl

@[simp] theorem TextMessage.new_val (id : Int) (d : DisplayName) (m : MessageContent) :
    TextMessage.new id d.val m.val = .ok ⟨false, id, d, m⟩ := by
  simp only [TextMessage.new, validateDisplayName_val, validateMessageContent_val]
  rfl

@[simp] theorem ReplyMessage.new_val (id : Int) (result : Bool) (ref : Int) (m : MessageContent) :
    ReplyMessage.new id result ref m.val = .ok ⟨id, result, ref, m⟩ := by
  simp only [ReplyMessage.new, validateMessageContent_val]
  rfl

/-! A constructor that succeeds stores what it is given. -/

section NewId

open Outcome

theorem AuthMessage.new_eq_ok {id : UInt16} {username displayName secret : Bytes} {m : AuthMessage}
    (h : AuthMessage.new id username displayName secret = .ok m) :
    m.messageID = id ∧ m.username.val = username ∧ m.displayName.val = displayName ∧
      m.secret.val = secret := by
  simp only [AuthMessage.new, bind_eq_ok] at h
  obtain ⟨_, hu, _, hd, _, hs, h⟩ := h
  cases h
  exact ⟨rfl, validateString_eq_ok hu, validateString_eq_ok hd, validateString_eq_ok hs⟩

theorem JoinMessage.new_eq_ok {id : Int} {channelID displayName : Bytes} {m : JoinMessage}
    (h : JoinMessage.new id channelID displayName = .ok m) :
    m.messageID = id ∧ m.channelID.val = channelID ∧ m.displayName.val = displayName := by
  simp only [JoinMessage.new, bind_eq_ok] at h
  obtain ⟨_, hc, _, hd, h⟩ := h
  cases h
  exact ⟨rfl, validateString_eq_ok hc, validateString_eq_ok hd⟩

theorem ErrorMessage.new_eq_ok {id : Int} {displayName content : Bytes} {m : ErrorMessage}
    (h : ErrorMessage.new id displayName content = .ok m) :
    m.messageID = id ∧ m.displayName.val = displayName ∧ m.messageContent.val = content := by
  simp only [ErrorMessage.new, bind_eq_ok] at h
  obtain ⟨_, hd, _, hc, h⟩ := h
  cases h
  exact ⟨rfl, validateString_eq_ok hd, validateString_eq_ok hc⟩

theorem TextMessage.new_eq_ok {id : Int} {displayName content : Bytes} {m : TextMessage}
    (h : TextMessage.new id displayName content = .ok m) :
    m.toSend = false ∧ m.messageID = id ∧ m.displayName.val = displayName ∧
      m.messageContent.val = content := by
  simp only [TextMessage.new, bind_eq_ok] at h
  obtain ⟨_, hd, _, hc, h⟩ := h
  cases h
  exact ⟨rfl, rfl, validateString_eq_ok hd, validateString_eq_ok hc⟩

theorem ReplyMessage.new_eq_ok {id ref : Int} {result : Bool} {content : Bytes} {m : ReplyMessage}
    (h : ReplyMessage.new id result ref content = .ok m) :
    m.messageID = id ∧ m.result = result ∧ m.refMessageID = ref ∧
      m.messageContent.val = content := by
  simp only [ReplyMessage.new, bind_eq_ok] at h
  obtain ⟨_, hc, h⟩ := h
  cases h
  exact ⟨rfl, rfl, rfl, validateString_eq_ok hc⟩

end NewId

/-! A constructor succeeds when the fields it is given are valid, and its errors are those of the
validators. -/

section Checks

open Outcome

theorem AuthMessage.new_checks (id : UInt16) (username displayName secret : Bytes) :
    Checks Error.Invalid (AuthMessage.new id username displayName secret)
      (ValidUsername username ∧ ValidDisplayName displayName ∧ ValidSecret secret) := by
  apply (validateString_checks username (by simp)).bind
  intro _
  apply (validateString_checks displayName (by simp)).bind
  intro _
  exact (validateString_checks secret (by simp)).map

theorem JoinMessage.new_checks (id : Int) (channelID displayName : Bytes) :
    Checks Error.Invalid (JoinMessage.new id channelID displayName)
      (ValidChannelID channelID ∧ ValidDisplayName displayName) := by
  apply (validateString_checks channelID (by simp)).bind
  intro _
  exact (validateString_checks displayName (by simp)).map

theorem ErrorMessage.new_checks (id : Int) (displayName content : Bytes) :
    Checks Error.Invalid (ErrorMessage.new id displayName content)
      (ValidDisplayName displayName ∧ ValidMessageContent content) := by
  apply (validateString_checks displayName (by simp)).bind
  intro _
  exact (validateString_checks content (by simp)).map

theorem TextMessage.new_checks (id : Int) (displayName content : Bytes) :
    Checks Error.Invalid (TextMessage.new id displayName content)
      (ValidDisplayName displayName ∧ ValidMessageContent content) := by
  apply (validateString_checks displayName (by simp)).bind
  intro _
  exact (validateString_checks content (by simp)).map

theorem ReplyMessage.new_checks (id : Int) (result : Bool) (ref : Int) (content : Bytes) :
    Checks Error.Invalid (ReplyMessage.new id result ref content) (ValidMessageContent content) :=
  (validateString_checks content (by simp)).map

end Checks

/-- The `std::variant` of message data. -/
inductive MessageData
  | confirm (m : ConfirmMessage)
  | auth (m : AuthMessage)
  | join (m : JoinMessage)
  | error (m : ErrorMessage)
  | bye (m : ByeMessage)
  | text (m : TextMessage)
  | reply (m : ReplyMessage)
  | unknown (m : UnknownMessage)
deriving DecidableEq

/-- The type tag that belongs to an alternative of the variant. -/
def MessageData.type : MessageData → MessageType
  | confirm _ => .confirm
  | auth _ => .auth
  | join _ => .join
  | error _ => .err
  | bye _ => .bye
  | text _ => .msg
  | reply _ => .reply
  | unknown _ => .unknown

/-- The string fields in the order of their declaration. -/
def MessageData.strings : MessageData → List Bytes
  | confirm _ => []
  | auth m => [m.username.val, m.displayName.val, m.secret.val]
  | join m => [m.channelID.val, m.displayName.val]
  | error m => [m.displayName.val, m.messageContent.val]
  | bye _ => []
  | text m => [m.displayName.val, m.messageContent.val]
  | reply m => [m.messageContent.val]
  | unknown _ => []

/-- A mail.  The defaults are what `Mail mail;` leaves: the type tag is not initialised (`none`)
and the variant holds a value-initialised `ConfirmMessage`. -/
structure Mail where
  type : Option MessageType := none
  data : MessageData := .confirm ⟨0⟩
  addToMailQueue : Bool := true
  sigint : Bool := false
deriving DecidableEq

namespace Mail

def getMessageID (mail : Mail) : Int :=
  match mail.data with
  | .confirm m => m.refMessageID
  | .auth m => m.messageID.toNat
  | .join m => m.messageID
  | .error m => m.messageID
  | .bye m => m.messageID
  | .text m => m.messageID
  | .reply m => m.messageID
  | .unknown m => m.messageID

def getRefMessageID (mail : Mail) : Int :=
  match mail.data with
  | .confirm m => m.refMessageID
  | .reply m => m.refMessageID
  | _ => -1

/-- The type tag is the one that belongs to the data. -/
def WellTagged (mail : Mail) : Prop := mail.type = some mail.data.type

instance (mail : Mail) : Decidable mail.WellTagged :=
  inferInstanceAs (Decidable (mail.type = some mail.data.type))

end Mail

end ChatClient

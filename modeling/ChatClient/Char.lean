import Mathlib.Data.List.Basic

/-!
# Bytes and strings

A `char` is a byte and a `std::string`, a `std::vector<char>` or a piece of memory is a list of
bytes.  Source literals are written as Lean strings and turned into bytes by `chars`.
-/

namespace ChatClient

/-- The bit pattern of a `char`. -/
abbrev Byte := UInt8

/-- The contents of a `std::string` or of a stretch of memory. -/
abbrev Bytes := List Byte

/-- The bytes of an ASCII literal. -/
def chars (s : String) : Bytes := s.toList.map fun c => c.toNat.toUInt8

/-- The terminating zero byte of a C string. -/
abbrev nul : Byte := 0

/-- `'\n'` -/
abbrev lf : Byte := 10

/-- `'\r'` -/
abbrev cr : Byte := 13

/-- `' '` -/
abbrev space : Byte := 32

/-- White space in the classic locale, as `operator>>` skips it. -/
def isSpace (c : Byte) : Bool := c == 32 || (9 ≤ c && c ≤ 13)

/-- The ECMAScript class `[A-Za-z0-9\-]`. -/
def isNameChar (c : Byte) : Bool :=
  (65 ≤ c && c ≤ 90) || (97 ≤ c && c ≤ 122) || (48 ≤ c && c ≤ 57) || c == 45

/-- One hexadecimal digit, lower case. -/
def hexDigit (n : ℕ) : Byte := (if n < 10 then 48 + n else 87 + n).toUInt8

/-- `std::hex << static_cast<int>(c)`: no leading zero. -/
def hex (c : Byte) : Bytes :=
  if c.toNat < 16 then [hexDigit c.toNat] else [hexDigit (c.toNat / 16), hexDigit (c.toNat % 16)]

end ChatClient

import OrchidApi.Text

/-! `uuid.UUID`: parsing as its constructor does, and the canonical text. -/
namespace OrchidApi
open Text

structure Uuid where
  int : Nat
  deriving DecidableEq, Repr

namespace Uuid

/-- `str.replace(pattern, '')`; `skip` characters belong to the last occurrence. -/
def removeAll (pattern : Str) : Nat → Str → Str
  | _, [] => []
  | skip + 1, _ :: rest => removeAll pattern skip rest
  | 0, c :: rest =>
    if startsWith (c :: rest) pattern then removeAll pattern (pattern.length - 1) rest
    else c :: removeAll pattern 0 rest

def isBrace (c : Char) : Bool := c == '\x7b' || c == '\x7d'

def hexValue (c : Char) : Option Nat :=
  if '0' ≤ c ∧ c ≤ '9' then some (c.toNat - '0'.toNat)
  else if 'a' ≤ c ∧ c ≤ 'f' then some (c.toNat - 'a'.toNat + 10)
  else if 'A' ≤ c ∧ c ≤ 'F' then some (c.toNat - 'A'.toNat + 10)
  else none

/-- Digits, with single underscores between them; the flag says that a digit came last. -/
def readHex : Bool → Nat → Str → Option Nat
  | digit, value, [] => if digit then some value else none
  | digit, value, c :: rest =>
    if c = '_' then if digit then readHex false value rest else none
    else (hexValue c).bind fun d => readHex true (value * 16 + d) rest

/-- The zeros of the decimal digits, in the Unicode version of Python 3.11. -/
def decimalZeros : List Nat :=
  [0x30, 0x660, 0x6F0, 0x7C0, 0x966, 0x9E6, 0xA66, 0xAE6, 0xB66, 0xBE6, 0xC66, 0xCE6, 0xD66, 0xDE6,
    0xE50, 0xED0, 0xF20, 0x1040, 0x1090, 0x17E0, 0x1810, 0x1946, 0x19D0, 0x1A80, 0x1A90, 0x1B50,
    0x1BB0, 0x1C40, 0x1C50, 0xA620, 0xA8D0, 0xA900, 0xA9D0, 0xA9F0, 0xAA50, 0xABF0, 0xFF10, 0x104A0,
    0x10D30, 0x11066, 0x110F0, 0x11136, 0x111D0, 0x112F0, 0x11450, 0x114D0, 0x11650, 0x116C0,
    0x11730, 0x118E0, 0x11950, 0x11C50, 0x11D50, 0x11DA0, 0x16A60, 0x16AC0, 0x16B50, 0x1D7CE,
    0x1D7D8, 0x1D7E2, 0x1D7EC, 0x1D7F6, 0x1E140, 0x1E2F0, 0x1E950, 0x1FBF0]

def toDecimal (c : Char) : Option Nat :=
  (decimalZeros.find? fun first => first ≤ c.toNat && c.toNat < first + 10).map (c.toNat - ·)

/-- How `int` reads a character: other spaces and decimal digits count as the ASCII ones, and
nothing else beyond ASCII is read. -/
def toAscii (c : Char) : Char :=
  if c.toNat < 127 then c
  else if isSpace c then ' '
  else match toDecimal c with
    | some digit => Char.ofNat ('0'.toNat + digit)
    | none => '?'

/-- Without the separators 28 to 31, which `str.isspace` counts as space. -/
def isAsciiSpace (c : Char) : Bool := c == ' ' || (9 ≤ c.toNat && c.toNat ≤ 13)

/-- `int(text, 16)` of a text without a minus sign. -/
def intBase16 (text : Str) : Option Nat :=
  let ascii := ((text.map toAscii).dropWhile isAsciiSpace).rdropWhile isAsciiSpace
  let unsigned := removePrefix ['+'] ascii
  if startsWith (lower unsigned) "0x".toList then
    readHex false 0 (removePrefix ['_'] (unsigned.drop 2))
  else readHex false 0 unsigned

/-- `UUID(hex)`; a `ValueError` is no value. -/
def parse (hex : Str) : Option Uuid :=
  let bare := removeAll "uuid:".toList 0 (removeAll "urn:".toList 0 hex)
  let digits := ((bare.dropWhile isBrace).rdropWhile isBrace).filter (· ≠ '-')
  if digits.length = 32 then (intBase16 digits).map Uuid.mk else none

/-- `str(self)` -/
def text (id : Uuid) : Str :=
  let hex := Nat.toDigits 16 id.int
  let padded := List.replicate (32 - hex.length) '0' ++ hex
  padded.take 8 ++ '-' :: (padded.drop 8).take 4 ++ '-' :: (padded.drop 12).take 4 ++
    '-' :: (padded.drop 16).take 4 ++ '-' :: padded.drop 20

end Uuid

example : Uuid.parse "urn:uuid:{00000000-0000-0000-0000-0000000000fF}".toList = some ⟨255⟩ := by decide

/-- The last digit is a fullwidth one. -/
example : Uuid.parse "0000000000000000000000000000000\uff11".toList = some ⟨1⟩ := by decide

example : Uuid.text ⟨255⟩ = "00000000-0000-0000-0000-0000000000ff".toList := by decide

end OrchidApi

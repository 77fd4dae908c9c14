import Mathlib.Data.List.GetD
import OrchidApi.Text

/-! Texts in other texts: base64url, `application/x-www-form-urlencoded`, HTML and JSON
string literals, as Python's standard library writes them. -/
namespace Encoding
open Text

/-! ## base64url -/

def base64Alphabet : Str :=
  "ABCDEFGHIJKLMNOPQRSTUVWXYZabcdefghijklmnopqrstuvwxyz0123456789-_".toList

def base64Digit (n : Nat) : Char := base64Alphabet.getD (n % 64) 'A'

/-- The digits of groups of three bytes. -/
def base64Digits : List UInt8 → Str
  | a :: b :: c :: rest =>
    base64Digit (a.toNat / 4) :: base64Digit (a.toNat * 16 + b.toNat / 16) ::
      base64Digit (b.toNat * 4 + c.toNat / 64) :: base64Digit c.toNat :: base64Digits rest
  | [a, b] =>
    [base64Digit (a.toNat / 4), base64Digit (a.toNat * 16 + b.toNat / 16), base64Digit (b.toNat * 4)]
  | [a] => [base64Digit (a.toNat / 4), base64Digit (a.toNat * 16)]
  | [] => []

/-- `base64.urlsafe_b64encode` -/
def urlsafeB64encode (bytes : List UInt8) : Str :=
  base64Digits bytes ++ List.replicate ((3 - bytes.length % 3) % 3) '='

theorem base64Digit_mem (n : Nat) : base64Digit n ∈ base64Alphabet := by
  have bound : n % 64 < base64Alphabet.length := Nat.mod_lt n (by decide)
  rw [base64Digit, List.getD_eq_getElem _ _ bound]
  exact List.getElem_mem bound

theorem base64Digits_mem {bytes : List UInt8} {c : Char} (member : c ∈ base64Digits bytes) :
    c ∈ base64Alphabet := by
  induction bytes using base64Digits.induct with
  | case1 a b d rest ih =>
    simp only [base64Digits, List.mem_cons] at member
    rcases member with rfl | rfl | rfl | rfl | later
    · exact base64Digit_mem _
    · exact base64Digit_mem _
    · exact base64Digit_mem _
    · exact base64Digit_mem _
    · exact ih later
  | case2 a b =>
    simp only [base64Digits, List.mem_cons, List.not_mem_nil, or_false] at member
    rcases member with rfl | rfl | rfl <;> exact base64Digit_mem _
  | case3 a =>
    simp only [base64Digits, List.mem_cons, List.not_mem_nil, or_false] at member
    rcases member with rfl | rfl <;> exact base64Digit_mem _
  | case4 => cases member

/-- Only the padding is made of equals signs. -/
theorem rstrip_urlsafeB64encode (bytes : List UInt8) :
    (urlsafeB64encode bytes).rdropWhile (· = '=') = base64Digits bytes := by
  have padding : ∀ n, (base64Digits bytes ++ List.replicate n '=').rdropWhile (· = '=') =
      (base64Digits bytes).rdropWhile (· = '=') := by
    intro n
    induction n with
    | zero => simp
    | succ n ih =>
      rw [List.replicate_succ', ← List.append_assoc, List.rdropWhile_concat_pos _ _ _ (by simp), ih]
  have digits : (base64Digits bytes).rdropWhile (· = '=') = base64Digits bytes := by
    rw [List.rdropWhile_eq_self_iff]
    intro nonempty equals
    have last := base64Digits_mem (List.getLast_mem nonempty)
    rw [of_decide_eq_true equals] at last
    exact absurd last (by decide)
  rw [urlsafeB64encode, padding, digits]

/-! ## URL queries -/

def hexDigit (n : Nat) : Char := "0123456789ABCDEF".toList.getD n '0'

def isUnreserved (c : Char) : Bool := c.isAlphanum || c ∈ ['_', '.', '-', '~']

/-- `urllib.parse.quote_plus` -/
def quotePlus (s : Str) : Str :=
  s.flatMap fun c =>
    if isUnreserved c then [c]
    else if c = ' ' then ['+']
    else (String.utf8EncodeChar c).flatMap fun byte =>
      ['%', hexDigit (byte.toNat / 16), hexDigit (byte.toNat % 16)]

/-- `urllib.parse.urlencode` -/
def urlencode : List (Str × Str) → Str
  | [] => []
  | [(name, value)] => quotePlus name ++ '=' :: quotePlus value
  | (name, value) :: rest => quotePlus name ++ '=' :: quotePlus value ++ '&' :: urlencode rest

theorem quotePlus_unreserved {s : Str} (plain : s.all isUnreserved = true) : quotePlus s = s := by
  induction s with
  | nil => rfl
  | cons c rest ih =>
    obtain ⟨first, others⟩ := Bool.and_eq_true_iff.mp plain
    rw [quotePlus, List.flatMap_cons, if_pos first]
    exact congrArg (c :: ·) (ih others)

theorem base64Digits_unreserved (bytes : List UInt8) : (base64Digits bytes).all isUnreserved = true := by
  have every : base64Alphabet.all isUnreserved = true := rfl
  exact List.all_eq_true.mpr fun c member => List.all_eq_true.mp every c (base64Digits_mem member)

theorem urlencode_concat {params : List (Str × Str)} (some : params ≠ []) (name value : Str) :
    urlencode (params ++ [(name, value)]) =
      urlencode params ++ '&' :: (quotePlus name ++ '=' :: quotePlus value) := by
  induction params using urlencode.induct with
  | case1 => exact absurd rfl some
  | case2 first content => simp [urlencode]
  | case3 first content rest several ih =>
    obtain ⟨next, later, rfl⟩ := List.exists_cons_of_ne_nil fun empty => several empty
    have tail := ih (List.cons_ne_nil _ _)
    simp only [List.cons_append] at tail ⊢
    simp only [urlencode, tail]
    simp

/-! ## HTML and JSON -/

/-- `html.escape` -/
def escape (s : Str) : Str :=
  s.flatMap fun
    | '&' => "&amp;".toList
    | '<' => "&lt;".toList
    | '>' => "&gt;".toList
    | '\x22' => "&quot;".toList
    | '\x27' => "&#x27;".toList
    | c => [c]

def hexDigitLower (n : Nat) : Char := "0123456789abcdef".toList.getD n '0'

def unicodeEscape (n : Nat) : Str :=
  ['\x5c', 'u', hexDigitLower (n / 4096 % 16), hexDigitLower (n / 256 % 16),
    hexDigitLower (n / 16 % 16), hexDigitLower (n % 16)]

/-- One character of a JSON string; beyond the BMP a surrogate pair. -/
def dumpsChar (c : Char) : Str :=
  if c = '\x22' ∨ c = '\x5c' then ['\x5c', c]
  else if c = '\n' then ['\x5c', 'n']
  else if c = '\r' then ['\x5c', 'r']
  else if c = '\t' then ['\x5c', 't']
  else if c = '\x0c' then ['\x5c', 'f']
  else if c = '\x08' then ['\x5c', 'b']
  else if 32 ≤ c.toNat ∧ c.toNat ≤ 126 then [c]
  else if c.toNat < 65536 then unicodeEscape c.toNat
  else unicodeEscape (0xD800 + (c.toNat - 65536) / 1024) ++
    unicodeEscape (0xDC00 + (c.toNat - 65536) % 1024)

/-- `json.dumps` of a `str` -/
def dumps (s : Str) : Str := '\x22' :: s.flatMap dumpsChar ++ ['\x22']

/-- `json.dumps` of a `dict[str, str]` -/
def dumpsDict (fields : List (Str × Str)) : Str :=
  '\x7b' :: ", ".toList.intercalate (fields.map fun field =>
    dumps field.1 ++ ": ".toList ++ dumps field.2) ++ ['\x7d']

end Encoding

import OrchidApi.Encoding
import OrchidApi.Json

/-! JSON texts: `json.dumps` with its default settings, and `json.loads` on texts whose
numbers are integers. -/
namespace Json
open Text Encoding

/-! ## Writing -/

def dumpsInt : Int → Str
  | .ofNat n => Nat.toDigits 10 n
  | .negSucc n => '-' :: Nat.toDigits 10 (n + 1)

mutual

/-- `json.dumps(value)`; `repr` writes a float. -/
def Value.dumps (repr : Rat → Str) : Value → Str
  | .null => "null".toList
  | .bool true => "true".toList
  | .bool false => "false".toList
  | .num n => dumpsInt n
  | .real q => repr q
  | .str s => Encoding.dumps s
  | .arr items => '[' :: ", ".toList.intercalate (dumpsItems repr items) ++ [']']
  | .obj fields => '\x7b' :: ", ".toList.intercalate (dumpsFields repr fields) ++ ['\x7d']

def dumpsItems (repr : Rat → Str) : List Value → List Str
  | [] => []
  | item :: rest => item.dumps repr :: dumpsItems repr rest

def dumpsFields (repr : Rat → Str) : List (Str × Value) → List Str
  | [] => []
  | (name, value) :: rest =>
    (Encoding.dumps name ++ ": ".toList ++ value.dumps repr) :: dumpsFields repr rest

end

/-! ## Reading -/

def skip (s : Str) : Str := s.dropWhile fun c => [' ', '\t', '\n', '\r'].contains c

def hexDigitValue (c : Char) : Option Nat := "0123456789abcdef".toList.idxOf? c.toLower

def hex4 (a b c d : Char) : Option Nat := do
  let a ← hexDigitValue a
  let b ← hexDigitValue b
  let c ← hexDigitValue c
  let d ← hexDigitValue d
  some (a * 4096 + b * 256 + c * 16 + d)

def escapedChar : Char → Option Char
  | '\x22' => some '\x22'
  | '\x5c' => some '\x5c'
  | '/' => some '/'
  | 'b' => some '\x08'
  | 'f' => some '\x0c'
  | 'n' => some '\n'
  | 'r' => some '\r'
  | 't' => some '\t'
  | _ => none

/-- The rest of a string literal as code units, and the text after its closing quote. -/
def units : Str → Option (List Nat × Str)
  | [] => none
  | '\x22' :: rest => some ([], rest)
  | '\x5c' :: 'u' :: a :: b :: c :: d :: rest =>
    (hex4 a b c d).bind fun unit => (units rest).map fun read => (unit :: read.1, read.2)
  | '\x5c' :: e :: rest =>
    (escapedChar e).bind fun c => (units rest).map fun read => (c.toNat :: read.1, read.2)
  | c :: rest =>
    if c = '\x5c' ∨ c.toNat < 32 then none
    else (units rest).map fun read => (c.toNat :: read.1, read.2)

def scalar (unit : Nat) : Option Char :=
  if unit.isValidChar then some (Char.ofNat unit) else none

/-- Pairs of surrogates are one character; a lone surrogate is none. -/
def decodeUnits : List Nat → Option Str
  | [] => some []
  | [unit] => (scalar unit).map fun c => [c]
  | high :: low :: rest =>
    if 0xD800 ≤ high ∧ high < 0xDC00 ∧ 0xDC00 ≤ low ∧ low < 0xE000 then
      (decodeUnits rest).map (Char.ofNat (0x10000 + (high - 0xD800) * 1024 + (low - 0xDC00)) :: ·)
    else (scalar high).bind fun c => (decodeUnits (low :: rest)).map (c :: ·)

def readString (s : Str) : Option (Str × Str) :=
  (units s).bind fun read => (decodeUnits read.1).map fun text => (text, read.2)

def readNat (s : Str) : Option (Nat × Str) :=
  let digits := s.takeWhile Char.isDigit
  if digits.isEmpty ∨ digits.head? = some '0' ∧ 1 < digits.length then none
  else some (Nat.ofDigitChars 10 digits 0, s.dropWhile Char.isDigit)

def readInt : Str → Option (Int × Str)
  | '-' :: rest => (readNat rest).map fun read => (-(read.1 : Int), read.2)
  | rest => (readNat rest).map fun read => ((read.1 : Int), read.2)

def keywords : List (Str × Value) :=
  [("null".toList, .null), ("true".toList, .bool true), ("false".toList, .bool false)]

/-- A repeated name keeps its place and takes the later value. -/
def distinct (fields : Dict) : Dict := fields.foldl (fun dict field => merge dict [field]) []

mutual

/-- The value a text begins with, and what follows it. -/
def readValue : Nat → Str → Option (Value × Str)
  | 0, _ => none
  | _, [] => none
  | fuel + 1, c :: rest =>
    if c = '\x22' then (readString rest).map fun read => (.str read.1, read.2)
    else if c = '[' then
      if (skip rest).head? = some ']' then some (.arr [], (skip rest).tail)
      else (readItems fuel (skip rest)).map fun read => (.arr read.1, read.2)
    else if c = '\x7b' then
      if (skip rest).head? = some '\x7d' then some (.obj [], (skip rest).tail)
      else (readFields fuel (skip rest)).map fun read => (.obj (distinct read.1), read.2)
    else
      match keywords.find? fun keyword => startsWith (c :: rest) keyword.1 with
      | some keyword => some (keyword.2, (c :: rest).drop keyword.1.length)
      | none => (readInt (c :: rest)).map fun read => (.num read.1, read.2)

def readItems : Nat → Str → Option (List Value × Str)
  | 0, _ => none
  | fuel + 1, s =>
    (readValue fuel s).bind fun item =>
      match skip item.2 with
      | ']' :: rest => some ([item.1], rest)
      | ',' :: rest =>
        (readItems fuel (skip rest)).map fun read => (item.1 :: read.1, read.2)
      | _ => none

def readFields : Nat → Str → Option (Dict × Str)
  | fuel + 1, '\x22' :: s =>
    (readString s).bind fun name =>
      match skip name.2 with
      | ':' :: rest =>
        (readValue fuel (skip rest)).bind fun value =>
          match skip value.2 with
          | '\x7d' :: rest => some ([(name.1, value.1)], rest)
          | ',' :: rest =>
            (readFields fuel (skip rest)).map fun read => ((name.1, value.1) :: read.1, read.2)
          | _ => none
      | _ => none
  | _, _ => none

end

/-- `json.loads(text)`; a `JSONDecodeError`, a float and a lone surrogate are no value. -/
def loads (text : Str) : Option Value :=
  (readValue (text.length + 1) (skip text)).bind fun read =>
    if (skip read.2).isEmpty then some read.1 else none

/-! ## String literals -/

def charUnits (c : Char) : List Nat :=
  if c.toNat < 65536 then [c.toNat]
  else [0xD800 + (c.toNat - 65536) / 1024, 0xDC00 + (c.toNat - 65536) % 1024]

theorem hexDigitValue_hexDigitLower : ∀ n < 16, hexDigitValue (hexDigitLower n) = some n := by
  decide

theorem units_unicodeEscape {n : Nat} (small : n < 65536) (rest : Str) :
    units (unicodeEscape n ++ rest) = (units rest).map fun read => (n :: read.1, read.2) := by
  have digit (m : Nat) : hexDigitValue (hexDigitLower (m % 16)) = some (m % 16) :=
    hexDigitValue_hexDigitLower _ (Nat.mod_lt m (by decide))
  have whole : n / 4096 % 16 * 4096 + n / 256 % 16 * 256 + n / 16 % 16 * 16 + n % 16 = n := by omega
  have hex : hex4 (hexDigitLower (n / 4096 % 16)) (hexDigitLower (n / 256 % 16))
      (hexDigitLower (n / 16 % 16)) (hexDigitLower (n % 16)) = some n := by
    simp [hex4, digit, whole]
  simp [unicodeEscape, units, hex]

theorem units_plain {c : Char} (quote : c ≠ '\x22') (backslash : c ≠ '\x5c') (printable : 32 ≤ c.toNat)
    (rest : Str) :
    units (c :: rest) = (units rest).map fun read => (c.toNat :: read.1, read.2) := by
  have small : ¬ c.toNat < 32 := by omega
  rw [units.eq_5 c rest (by simpa using quote) (by simp [backslash]) (by simp [backslash])]
  simp [backslash, small]

theorem units_escaped {e c : Char} (escape : escapedChar e = some c) (rest : Str) :
    units ('\x5c' :: e :: rest) = (units rest).map fun read => (c.toNat :: read.1, read.2) := by
  have other : e ≠ 'u' := by
    rintro rfl
    cases escape
  rw [units.eq_4 e rest (by simp [other]), escape]
  rfl

theorem units_dumpsChar (c : Char) (rest : Str) :
    units (dumpsChar c ++ rest) =
      (units rest).map fun read => (charUnits c ++ read.1, read.2) := by
  have bound : c.toNat < 0xD800 ∨ 0xDFFF < c.toNat ∧ c.toNat < 0x110000 := c.valid
  unfold dumpsChar
  split_ifs with quoted newline cr tab feed backspace printable bmp
  · obtain rfl | rfl := quoted <;> exact units_escaped rfl rest
  · subst newline; exact units_escaped rfl rest
  · subst cr; exact units_escaped rfl rest
  · subst tab; exact units_escaped rfl rest
  · subst feed; exact units_escaped rfl rest
  · subst backspace; exact units_escaped rfl rest
  · rw [not_or] at quoted
    have ascii : c.toNat < 65536 := by omega
    simp [units_plain quoted.1 quoted.2 printable.1, charUnits, ascii]
  · simp [units_unicodeEscape bmp, charUnits, bmp]
  · have high : 0xD800 + (c.toNat - 65536) / 1024 < 65536 := by omega
    have low : 0xDC00 + (c.toNat - 65536) % 1024 < 65536 := by omega
    simp [List.append_assoc, units_unicodeEscape high, units_unicodeEscape low, charUnits, bmp,
      Function.comp_def]

theorem scalar_toNat (c : Char) : scalar c.toNat = some c := by
  have valid : c.toNat.isValidChar := c.valid
  simp [scalar, valid]

theorem decodeUnits_charUnits (c : Char) (rest : List Nat) :
    decodeUnits (charUnits c ++ rest) = (decodeUnits rest).map (c :: ·) := by
  have bound : c.toNat < 0xD800 ∨ 0xDFFF < c.toNat ∧ c.toNat < 0x110000 := c.valid
  unfold charUnits
  split
  · have single : ¬ (0xD800 ≤ c.toNat ∧ c.toNat < 0xDC00) := by omega
    cases rest with
    | nil => simp [decodeUnits, scalar_toNat]
    | cons low rest =>
      have lone : ¬ (0xD800 ≤ c.toNat ∧ c.toNat < 0xDC00 ∧ 0xDC00 ≤ low ∧ low < 0xE000) :=
        fun pair => single ⟨pair.1, pair.2.1⟩
      simp [decodeUnits, lone, scalar_toNat]
  · have pair : 0xD800 ≤ 0xD800 + (c.toNat - 65536) / 1024 ∧
        0xD800 + (c.toNat - 65536) / 1024 < 0xDC00 ∧
        0xDC00 ≤ 0xDC00 + (c.toNat - 65536) % 1024 ∧
        0xDC00 + (c.toNat - 65536) % 1024 < 0xE000 := by omega
    have whole : 0x10000 + (0xD800 + (c.toNat - 65536) / 1024 - 0xD800) * 1024 +
        (0xDC00 + (c.toNat - 65536) % 1024 - 0xDC00) = c.toNat := by omega
    simp only [List.cons_append, List.nil_append, decodeUnits, if_pos pair, whole,
      Char.ofNat_toNat]

theorem decodeUnits_flatMap (s : Str) : decodeUnits (s.flatMap charUnits) = some s := by
  induction s with
  | nil => rfl
  | cons c rest ih => simp [decodeUnits_charUnits, ih]

/-! ## Integers -/

/-- A number ends before such a text. -/
def Stops (s : Str) : Prop := ∀ c ∈ s.head?, c.isDigit = false

/-- Only zero is written with a leading zero. -/
theorem eq_zero_of_zero_led (n : Nat) (led : (Nat.toDigits 10 n).head? = some '0') : n = 0 := by
  induction n using Nat.strongRecOn with
  | ind n ih =>
    by_cases small : n < 10
    · have digit : ∀ m < 10, [m.digitChar].head? = some '0' → m = 0 := by decide
      rw [Nat.toDigits_of_lt_base small] at led
      exact digit n small led
    · have split := Nat.toDigits_of_base_le (b := 10) (n := n) (by decide) (by omega)
      have earlier : (Nat.toDigits 10 (n / 10)).head? = some '0' := by
        rw [split, List.head?_append_of_ne_nil _ Nat.toDigits_ne_nil] at led
        exact led
      have := ih (n / 10) (by omega) earlier
      omega

theorem readNat_toDigits (n : Nat) {rest : Str} (stops : Stops rest) :
    readNat (Nat.toDigits 10 n ++ rest) = some (n, rest) := by
  have digits : ∀ c ∈ Nat.toDigits 10 n, c.isDigit = true := fun c member =>
    Nat.isDigit_of_mem_toDigits (by decide) (by decide) member
  have taken : rest.takeWhile Char.isDigit = [] ∧ rest.dropWhile Char.isDigit = rest := by
    cases rest with
    | nil => simp
    | cons c tail => simp [stops c rfl]
  have plain : ¬ ((Nat.toDigits 10 n).isEmpty ∨
      (Nat.toDigits 10 n).head? = some '0' ∧ 1 < (Nat.toDigits 10 n).length) := by
    rintro (none | ⟨led, long⟩)
    · exact Nat.toDigits_ne_nil (List.isEmpty_iff.mp none)
    · rw [eq_zero_of_zero_led n led] at long
      simp at long
  simp only [readNat, List.takeWhile_append_of_pos digits, List.dropWhile_append_of_pos digits, taken,
    List.append_nil, if_neg plain, Nat.ofDigitChars_ten_toDigits]

theorem readInt_dumpsInt (n : Int) {rest : Str} (stops : Stops rest) :
    readInt (dumpsInt n ++ rest) = some (n, rest) := by
  cases n with
  | ofNat n =>
    have unsigned : ∀ tail, dumpsInt (.ofNat n) ++ rest ≠ '-' :: tail := by
      intro tail same
      obtain ⟨d, more, digits⟩ := List.exists_cons_of_ne_nil (Nat.toDigits_ne_nil (n := n) (b := 10))
      have digit := Nat.isDigit_of_mem_toDigits (by decide) (by decide) (digits ▸ List.mem_cons_self)
      rw [dumpsInt, digits, List.cons_append, List.cons.injEq] at same
      rw [same.1] at digit
      exact absurd digit (by decide)
    rw [readInt.eq_2 _ unsigned, dumpsInt, readNat_toDigits n stops]
    rfl
  | negSucc n =>
    rw [dumpsInt, List.cons_append, readInt, readNat_toDigits _ stops]
    rfl

/-! ## Rewritten texts -/

theorem forall_chars {p : Char → Prop} [DecidablePred p] {s : Str}
    (all : s.all (fun c => decide (p c)) = true) : ∀ c ∈ s, p c :=
  fun c member => of_decide_eq_true (List.all_eq_true.mp all c member)

/-- What a JSON text without floats has outside the contents of its string literals. -/
def outside : Str := "[]\x7b\x7d\x22:, -0123456789nultrefas".toList

/-- A rewriting that leaves the rest of a text alone and keeps what its string literals say. -/
structure Transparent (f : Str → Str) : Prop where
  empty : f [] = []
  structural : ∀ c ∈ outside, ∀ t, f (c :: t) = c :: f t
  literal : ∀ c t, units (f (dumpsChar c ++ t)) =
    (units (f t)).map fun read => (charUnits c ++ read.1, read.2)

theorem transparent_id : Transparent id where
  empty := rfl
  structural _ _ _ := rfl
  literal := units_dumpsChar

/-- What a written value begins with. -/
def opening : Str := "[\x7b\x22-0123456789ntf".toList

def Opens (s : Str) : Prop := ∃ c ∈ opening, ∃ t, s = c :: t

theorem Opens.intercalate {text : Str} (opens : Opens text) (sep : Str) (later : List Str) (tail : Str) :
    Opens (sep.intercalate (text :: later) ++ tail) := by
  obtain ⟨c, member, t, rfl⟩ := opens
  rw [List.intercalate_cons_cons_left]
  exact ⟨c, member, _, rfl⟩

/-- The text of the value is read back wherever a number may end after it. -/
def Reads (repr : Rat → Str) (f : Str → Str) (v : Value) : Prop :=
  ∀ fuel rest, (v.dumps repr).length ≤ fuel → Stops (f rest) →
    readValue fuel (f (v.dumps repr ++ rest)) = some (v, f rest)

def fieldText (repr : Rat → Str) (field : Str × Value) : Str :=
  Encoding.dumps field.1 ++ ": ".toList ++ field.2.dumps repr

theorem fieldText_opens (repr : Rat → Str) (field : Str × Value) : Opens (fieldText repr field) :=
  ⟨'\x22', by decide, _, rfl⟩

section Rewritten
variable {f : Str → Str} (transparent : Transparent f)
include transparent

theorem structural_append {s : Str} (inside : ∀ c ∈ s, c ∈ outside) (t : Str) :
    f (s ++ t) = s ++ f t := by
  induction s with
  | nil => rfl
  | cons c rest ih =>
    rw [List.cons_append, transparent.structural c (inside c (.head _)),
      ih fun d member => inside d (.tail _ member)]
    rfl

theorem readString_dumps (s t : Str) :
    readString (f (s.flatMap dumpsChar ++ '\x22' :: t)) = some (s, f t) := by
  have body : ∀ rest : Str, units (f (rest.flatMap dumpsChar ++ '\x22' :: t)) =
      some (rest.flatMap charUnits, f t) := by
    intro rest
    induction rest with
    | nil => simp [transparent.structural '\x22' (by decide), units]
    | cons c rest ih =>
      rw [List.flatMap_cons, List.append_assoc, transparent.literal, ih]
      simp
  simp [readString, body, decodeUnits_flatMap]

/-- No whitespace and no closing bracket stands before a value. -/
theorem skip_opening {s : Str} (opens : Opens s) :
    skip (f s) = f s ∧ (f s).head? ≠ some ']' ∧ (f s).head? ≠ some '\x7d' := by
  obtain ⟨c, begins, t, rfl⟩ := opens
  have plain : ∀ c ∈ opening, c ∈ outside ∧ [' ', '\t', '\n', '\r'].contains c = false ∧
      some c ≠ some ']' ∧ some c ≠ some '\x7d' := forall_chars (by decide)
  obtain ⟨inside, blank, bracket, brace⟩ := plain c begins
  rw [transparent.structural c inside, skip, List.dropWhile_cons_of_neg (Bool.eq_false_iff.mp blank)]
  exact ⟨rfl, bracket, brace⟩

/-- Between two entries. -/
theorem comma_between {s : Str} (opens : Opens s) :
    Stops (f (", ".toList ++ s)) ∧ skip (f (", ".toList ++ s)) = ',' :: ' ' :: f s ∧
      skip (' ' :: f s) = f s := by
  have text : f (", ".toList ++ s) = ',' :: ' ' :: f s :=
    structural_append transparent (forall_chars (by decide)) s
  have space : skip (' ' :: f s) = skip (f s) := rfl
  rw [text, space]
  exact ⟨by rintro c ⟨⟩; rfl, rfl, (skip_opening transparent opens).1⟩

/-- After the last entry. -/
theorem closed {c : Char} (closing : c = ']' ∨ c = '\x7d') (s : Str) :
    Stops (f (c :: s)) ∧ skip (f (c :: s)) = c :: f s := by
  have text : f (c :: s) = c :: f s :=
    transparent.structural c (by rcases closing with rfl | rfl <;> decide) s
  rw [text]
  rcases closing with rfl | rfl <;> exact ⟨by rintro c ⟨⟩; rfl, rfl⟩

omit transparent in
/-- A reader of entries that goes on after a comma and stops at a closing bracket reads them all. -/
theorem read_entries {α : Type} {text : α → Str} {read : Nat → Str → Option (List α × Str)} {close : Char}
    {entries : List α} (some : entries ≠ []) (opens : ∀ entry ∈ entries, Opens (text entry))
    (last : ∀ entry ∈ entries, ∀ fuel rest, (text entry).length ≤ fuel →
      read (fuel + 1) (f (text entry ++ close :: rest)) = .some ([entry], f rest))
    (more : ∀ entry ∈ entries, ∀ fuel s, (text entry).length ≤ fuel → Opens s →
      read (fuel + 1) (f (text entry ++ (", ".toList ++ s))) =
        (read fuel (f s)).map fun later => (entry :: later.1, later.2))
    (fuel : Nat) (rest : Str)
    (enough : (", ".toList.intercalate (entries.map text)).length < fuel) :
    read fuel (f (", ".toList.intercalate (entries.map text) ++ close :: rest)) =
      .some (entries, f rest) := by
  induction entries generalizing fuel with
  | nil => exact absurd rfl some
  | cons entry later ih =>
    obtain ⟨fuel, rfl⟩ := Nat.exists_eq_succ_of_ne_zero (Nat.ne_zero_of_lt enough)
    cases later with
    | nil =>
      rw [List.map_singleton, List.intercalate_singleton] at enough ⊢
      exact last entry (.head _) fuel rest (Nat.le_of_lt_succ enough)
    | cons next later =>
      have two : ", ".toList.length = 2 := rfl
      rw [List.map_cons, List.map_cons, List.intercalate_cons_cons, ← List.map_cons] at enough ⊢
      simp only [List.length_append, two] at enough
      have remaining := ih (List.cons_ne_nil _ _) (fun e member => opens e (.tail _ member))
        (fun e member => last e (.tail _ member)) (fun e member => more e (.tail _ member)) fuel (by omega)
      have begins : Opens (", ".toList.intercalate ((next :: later).map text) ++ close :: rest) :=
        (opens next (.tail _ (.head _))).intercalate _ _ _
      rw [List.append_assoc, List.append_assoc, more entry (.head _) fuel _ (by omega) begins, remaining,
        Option.map_some]

theorem readItems_dumps {repr : Rat → Str} {items : List Value} (some : items ≠ [])
    (each : ∀ item ∈ items, Reads repr f item)
    (opens : ∀ item ∈ items, Opens (item.dumps repr))
    (fuel : Nat) (rest : Str)
    (enough : (", ".toList.intercalate (items.map (Value.dumps repr))).length < fuel) :
    readItems fuel (f (", ".toList.intercalate (items.map (Value.dumps repr)) ++ ']' :: rest)) =
      .some (items, f rest) := by
  refine read_entries some opens (fun item member fuel rest fits => ?_)
    (fun item member fuel s fits begins => ?_) fuel rest enough
  · obtain ⟨stops, closes⟩ := closed transparent (.inl rfl) rest
    rw [readItems, each item member fuel _ fits stops]
    simp only [Option.bind_some, closes]
  · obtain ⟨stops, separates, skips⟩ := comma_between transparent begins
    rw [readItems, each item member fuel _ fits stops]
    simp only [Option.bind_some, separates, skips]

/-- One field is its name, a colon, a blank and its value. -/
theorem readFields_named {repr : Rat → Str} (field : Str × Value) (opens : Opens (field.2.dumps repr))
    (fuel : Nat) (tail : Str) :
    readFields (fuel + 1) (f (fieldText repr field ++ tail)) =
      (readValue fuel (f (field.2.dumps repr ++ tail))).bind fun read =>
        match skip read.2 with
        | '\x7d' :: rest => some ([(field.1, read.1)], rest)
        | ',' :: rest =>
          (readFields fuel (skip rest)).map fun later => ((field.1, read.1) :: later.1, later.2)
        | _ => none := by
  obtain ⟨c, member, t, text⟩ := opens
  have whole : fieldText repr field ++ tail = '\x22' :: (field.1.flatMap dumpsChar ++
      '\x22' :: (": ".toList ++ (field.2.dumps repr ++ tail))) := by
    simp [fieldText, Encoding.dumps]
  have colon : f (": ".toList ++ (field.2.dumps repr ++ tail)) =
      ':' :: ' ' :: f (field.2.dumps repr ++ tail) :=
    structural_append transparent (forall_chars (by decide)) _
  have reach : skip (':' :: ' ' :: f (field.2.dumps repr ++ tail)) =
      ':' :: ' ' :: f (field.2.dumps repr ++ tail) := rfl
  have blank : skip (' ' :: f (field.2.dumps repr ++ tail)) = f (field.2.dumps repr ++ tail) :=
    (skip_opening transparent ⟨c, member, t ++ tail, by rw [text]; rfl⟩).1
  rw [whole, transparent.structural '\x22' (by decide), readFields, readString_dumps transparent, colon]
  simp only [Option.bind_some, reach, blank]

theorem readFields_dumps {repr : Rat → Str} {fields : Dict} (some : fields ≠ [])
    (each : ∀ field ∈ fields, Reads repr f field.2)
    (opens : ∀ field ∈ fields, Opens (field.2.dumps repr))
    (fuel : Nat) (rest : Str)
    (enough : (", ".toList.intercalate (fields.map (fieldText repr))).length < fuel) :
    readFields fuel (f (", ".toList.intercalate (fields.map (fieldText repr)) ++ '\x7d' :: rest)) =
      .some (fields, f rest) := by
  have shorter (field : Str × Value) : (field.2.dumps repr).length ≤ (fieldText repr field).length := by
    rw [fieldText, List.length_append]
    exact Nat.le_add_left _ _
  refine read_entries some (fun field _ => fieldText_opens repr field)
    (fun field member fuel rest fits => ?_) (fun field member fuel s fits begins => ?_) fuel rest enough
  · obtain ⟨stops, closes⟩ := closed transparent (.inr rfl) rest
    rw [readFields_named transparent field (opens field member),
      each field member fuel _ ((shorter field).trans fits) stops]
    simp only [Option.bind_some, closes]
  · obtain ⟨stops, separates, skips⟩ := comma_between transparent begins
    rw [readFields_named transparent field (opens field member),
      each field member fuel _ ((shorter field).trans fits) stops]
    simp only [Option.bind_some, separates, skips]

end Rewritten

/-! ## The round trip -/

/-- A value that its text determines: no floats, and objects as dictionaries are. -/
inductive Value.Faithful : Value → Prop where
  | null : Value.Faithful .null
  | bool (b : Bool) : Value.Faithful (.bool b)
  | num (n : Int) : Value.Faithful (.num n)
  | str (s : Str) : Value.Faithful (.str s)
  | arr {items : List Value} (each : ∀ item ∈ items, item.Faithful) : Value.Faithful (.arr items)
  | obj {fields : Dict} (names : (fields.map Prod.fst).Nodup)
      (each : ∀ field ∈ fields, field.2.Faithful) : Value.Faithful (.obj fields)

theorem dumpsItems_eq (repr : Rat → Str) (items : List Value) :
    dumpsItems repr items = items.map (Value.dumps repr) := by
  induction items with
  | nil => rfl
  | cons item rest ih => rw [dumpsItems, ih, List.map_cons]

theorem dumpsFields_eq (repr : Rat → Str) (fields : Dict) :
    dumpsFields repr fields = fields.map (fieldText repr) := by
  induction fields with
  | nil => rfl
  | cons field rest ih => rw [dumpsFields, ih, List.map_cons]; rfl

theorem mem_digits {c : Char} (digit : c.isDigit = true) : c ∈ "0123456789".toList := by
  have range : 48 ≤ c.toNat ∧ c.toNat ≤ 57 := Char.isDigit_iff_toNat.mp digit
  have every : ∀ k < 10, Char.ofNat (48 + k) ∈ "0123456789".toList := by decide
  have same : Char.ofNat (48 + (c.toNat - 48)) = c := by
    rw [show 48 + (c.toNat - 48) = c.toNat by omega, Char.ofNat_toNat]
  exact same ▸ every (c.toNat - 48) (by omega)

theorem dumpsInt_chars (n : Int) : ∀ c ∈ dumpsInt n, c ∈ "-0123456789".toList := by
  have digits (m : Nat) : ∀ c ∈ Nat.toDigits 10 m, c ∈ "-0123456789".toList := fun c member =>
    .tail _ (mem_digits (Nat.isDigit_of_mem_toDigits (by decide) (by decide) member))
  cases n with
  | ofNat n => exact digits n
  | negSucc n =>
    rintro c (_ | later)
    · exact .head _
    · exact digits (n + 1) c ‹_›

theorem dumpsInt_opens (n : Int) : ∃ c ∈ "-0123456789".toList, ∃ t, dumpsInt n = c :: t := by
  have nonempty : dumpsInt n ≠ [] := by cases n <;> simp [dumpsInt]
  obtain ⟨c, t, text⟩ := List.exists_cons_of_ne_nil nonempty
  exact ⟨c, dumpsInt_chars n c (text ▸ .head _), t, text⟩

theorem dumps_opens {v : Value} (repr : Rat → Str) (faithful : v.Faithful) :
    Opens (v.dumps repr) := by
  cases faithful with
  | null => exact ⟨'n', by decide, _, rfl⟩
  | bool b => cases b; exacts [⟨'f', by decide, _, rfl⟩, ⟨'t', by decide, _, rfl⟩]
  | num n =>
    obtain ⟨c, member, t, text⟩ := dumpsInt_opens n
    exact ⟨c, (forall_chars (by decide) : ∀ c ∈ "-0123456789".toList, c ∈ opening) c member, t, text⟩
  | str s => exact ⟨'\x22', by decide, _, rfl⟩
  | arr each => exact ⟨'[', by decide, _, rfl⟩
  | obj names each => exact ⟨'\x7b', by decide, _, rfl⟩

theorem merge_new {dict : Dict} {field : Str × Value} (new : field.1 ∉ dict.map Prod.fst) :
    merge dict [field] = dict ++ [field] := by
  have other : ∀ entry ∈ dict, entry.1 ≠ field.1 := fun entry member same =>
    new (same ▸ List.mem_map_of_mem member)
  have kept : dict.map (fun entry => (entry.1, ([field].lookup entry.1).getD entry.2)) = dict := by
    conv_rhs => rw [← List.map_id dict]
    refine List.map_congr_left fun entry member => ?_
    have missing : [field].lookup entry.1 = none :=
      List.lookup_eq_none_iff.mpr fun single within => by
        rw [List.mem_singleton.mp within]
        exact bne_iff_ne.mpr (other entry member)
    rw [missing]
    rfl
  have absent : dict.lookup field.1 = none :=
    List.lookup_eq_none_iff.mpr fun entry member => bne_iff_ne.mpr (other entry member).symm
  rw [merge, kept, List.filter_cons_of_pos (by simp [absent]), List.filter_nil]

theorem distinct_of_nodup {fields : Dict} (names : (fields.map Prod.fst).Nodup) :
    distinct fields = fields := by
  have folded (later : Dict) : ∀ dict : Dict, ((dict ++ later).map Prod.fst).Nodup →
      later.foldl (fun dict field => merge dict [field]) dict = dict ++ later := by
    induction later with
    | nil => simp
    | cons field rest ih =>
      intro dict nodup
      have new : field.1 ∉ dict.map Prod.fst := by
        rw [List.map_append, List.nodup_append] at nodup
        exact fun member => nodup.2.2 _ member _ (.head _) rfl
      rw [List.foldl_cons, merge_new new, ih _ (by simpa using nodup)]
      simp
  exact folded fields [] names

section Rewritten
variable {f : Str → Str} (transparent : Transparent f)
include transparent

theorem readValue_int (n : Int) {fuel : Nat} {rest : Str} (stops : Stops (f rest)) :
    readValue (fuel + 1) (f (dumpsInt n ++ rest)) = some (.num n, f rest) := by
  have chars : ∀ c ∈ "-0123456789".toList, c ∈ outside ∧
      c ≠ '\x22' ∧ c ≠ '[' ∧ c ≠ '\x7b' ∧ c ≠ 'n' ∧ c ≠ 't' ∧ c ≠ 'f' :=
    forall_chars (by decide)
  rw [structural_append transparent fun c member => (chars c (dumpsInt_chars n c member)).1]
  have number := readInt_dumpsInt n stops
  obtain ⟨c, member, t, text⟩ := dumpsInt_opens n
  obtain ⟨-, quote, bracket, brace, null, true, false⟩ := chars c member
  rw [text, List.cons_append] at number ⊢
  have other : (keywords.find? fun keyword => startsWith (c :: (t ++ f rest)) keyword.1) = none := by
    simp [keywords, startsWith, null.symm, true.symm, false.symm]
  simp only [readValue, if_neg quote, if_neg bracket, if_neg brace, other, number, Option.map_some]

omit transparent in
theorem reads_of_succ {repr : Rat → Str} {v : Value} (opens : Opens (v.dumps repr))
    (reads : ∀ fuel rest, (v.dumps repr).length ≤ fuel + 1 → Stops (f rest) →
      readValue (fuel + 1) (f (v.dumps repr ++ rest)) = some (v, f rest)) : Reads repr f v := by
  intro fuel rest enough stops
  obtain ⟨c, -, t, text⟩ := opens
  have some : fuel ≠ 0 := by
    rintro rfl
    rw [text] at enough
    exact absurd enough (by simp)
  obtain ⟨fuel, rfl⟩ := Nat.exists_eq_succ_of_ne_zero some
  exact reads fuel rest enough stops

theorem readValue_array {repr : Rat → Str} {items : List Value}
    (each : ∀ item ∈ items, item.Faithful ∧ Reads repr f item) {fuel : Nat} {rest : Str}
    (enough : ((Value.arr items).dumps repr).length ≤ fuel + 1) :
    readValue (fuel + 1) (f ((Value.arr items).dumps repr ++ rest)) = some (.arr items, f rest) := by
  have whole : (Value.arr items).dumps repr ++ rest =
      '[' :: (", ".toList.intercalate (items.map (Value.dumps repr)) ++ ']' :: rest) := by
    simp [Value.dumps, dumpsItems_eq]
  rw [whole, transparent.structural '[' (by decide)]
  rcases items with _ | ⟨item, later⟩
  · rw [List.map_nil, List.intercalate_nil, List.nil_append, transparent.structural ']' (by decide)]
    rfl
  · have opens : ∀ v ∈ item :: later, Opens (v.dumps repr) :=
      fun v member => dumps_opens repr (each v member).1
    have long : (", ".toList.intercalate ((item :: later).map (Value.dumps repr))).length < fuel := by
      simp only [Value.dumps, dumpsItems_eq, List.length_append, List.length_cons] at enough
      omega
    have read := readItems_dumps transparent (List.cons_ne_nil _ _)
      (fun v member => (each v member).2) opens fuel rest long
    have begins : Opens (", ".toList.intercalate ((item :: later).map (Value.dumps repr)) ++
        ']' :: rest) := (opens item (.head _)).intercalate _ _ _
    obtain ⟨skips, bracket, -⟩ := skip_opening transparent begins
    simp only [readValue, if_neg (show ¬ '[' = '\x22' by decide), if_true, skips, if_neg bracket, read,
      Option.map_some]

theorem readValue_object {repr : Rat → Str} {fields : Dict} (names : (fields.map Prod.fst).Nodup)
    (each : ∀ field ∈ fields, field.2.Faithful ∧ Reads repr f field.2) {fuel : Nat} {rest : Str}
    (enough : ((Value.obj fields).dumps repr).length ≤ fuel + 1) :
    readValue (fuel + 1) (f ((Value.obj fields).dumps repr ++ rest)) = some (.obj fields, f rest) := by
  have whole : (Value.obj fields).dumps repr ++ rest =
      '\x7b' :: (", ".toList.intercalate (fields.map (fieldText repr)) ++ '\x7d' :: rest) := by
    simp [Value.dumps, dumpsFields_eq]
  rw [whole, transparent.structural '\x7b' (by decide)]
  rcases fields with _ | ⟨field, later⟩
  · rw [List.map_nil, List.intercalate_nil, List.nil_append, transparent.structural '\x7d' (by decide)]
    rfl
  · have opens : ∀ other ∈ field :: later, Opens (other.2.dumps repr) :=
      fun other member => dumps_opens repr (each other member).1
    have long : (", ".toList.intercalate ((field :: later).map (fieldText repr))).length < fuel := by
      simp only [Value.dumps, dumpsFields_eq, List.length_append, List.length_cons] at enough
      omega
    have read := readFields_dumps transparent (List.cons_ne_nil _ _)
      (fun other member => (each other member).2) opens fuel rest long
    have begins : Opens (", ".toList.intercalate ((field :: later).map (fieldText repr)) ++
        '\x7d' :: rest) := (fieldText_opens repr field).intercalate _ _ _
    obtain ⟨skips, -, brace⟩ := skip_opening transparent begins
    simp only [readValue, if_neg (show ¬ '\x7b' = '\x22' by decide),
      if_neg (show ¬ '\x7b' = '[' by decide), if_true, skips, if_neg brace, read, Option.map_some,
      distinct_of_nodup names]

/-- Every written value is read back, also through a transparent rewriting. -/
theorem reads (repr : Rat → Str) {v : Value} (faithful : v.Faithful) : Reads repr f v := by
  induction faithful with
  | null =>
    exact reads_of_succ (dumps_opens repr .null) fun fuel rest _ _ => by
      rw [Value.dumps, structural_append transparent (forall_chars (by decide))]; rfl
  | bool b =>
    exact reads_of_succ (dumps_opens repr (.bool b)) fun fuel rest _ _ => by
      cases b <;> rw [Value.dumps, structural_append transparent (forall_chars (by decide))] <;> rfl
  | num n =>
    exact reads_of_succ (dumps_opens repr (.num n)) fun fuel rest _ stops =>
      readValue_int transparent n stops
  | str s =>
    exact reads_of_succ (dumps_opens repr (.str s)) fun fuel rest _ _ => by
      have whole : (Value.str s).dumps repr ++ rest =
          '\x22' :: (s.flatMap dumpsChar ++ '\x22' :: rest) := by
        simp [Value.dumps, Encoding.dumps]
      rw [whole, transparent.structural '\x22' (by decide), readValue, if_pos rfl,
        readString_dumps transparent, Option.map_some]
  | arr each ih =>
    exact reads_of_succ (dumps_opens repr (.arr each)) fun fuel rest enough _ =>
      readValue_array transparent (fun item member => ⟨each item member, ih item member⟩) enough
  | obj names each ih =>
    exact reads_of_succ (dumps_opens repr (.obj names each)) fun fuel rest enough _ =>
      readValue_object transparent names (fun field member => ⟨each field member, ih field member⟩)
        enough

theorem loads_dumps (repr : Rat → Str) {v : Value} (faithful : v.Faithful)
    (longer : ∀ s, s.length ≤ (f s).length) : loads (f (v.dumps repr)) = some v := by
  have read := reads transparent repr faithful ((f (v.dumps repr)).length + 1) []
    (Nat.le_succ_of_le (longer _)) (by rw [transparent.empty]; rintro c ⟨⟩)
  rw [List.append_nil, transparent.empty] at read
  rw [loads, (skip_opening transparent (dumps_opens repr faithful)).1, read]
  rfl

end Rewritten

/-! ## The characters of a text -/

/-- ASCII without control characters. -/
def Printable (s : Str) : Prop := ∀ c ∈ s, 32 ≤ c.toNat ∧ c.toNat ≤ 126

instance (s : Str) : Decidable (Printable s) :=
  decidable_of_iff (s.all fun c => decide (32 ≤ c.toNat ∧ c.toNat ≤ 126)) (by simp [Printable])

theorem Printable.append {s t : Str} (first : Printable s) (second : Printable t) :
    Printable (s ++ t) := fun c member =>
  (List.mem_append.mp member).elim (first c) (second c)

theorem Printable.intercalate {sep : Str} (between : Printable sep) {texts : List Str}
    (each : ∀ text ∈ texts, Printable text) : Printable (sep.intercalate texts) := by
  induction texts with
  | nil => exact fun _ => nofun
  | cons text later ih =>
    have first := each text (.head _)
    have others := ih fun t member => each t (.tail _ member)
    cases later with
    | nil => rwa [List.intercalate_singleton]
    | cons next later =>
      rw [List.intercalate_cons_cons]
      exact (first.append between).append others

theorem printable_unicodeEscape (n : Nat) : Printable (unicodeEscape n) := by
  have digits : ∀ k < 16, 32 ≤ (hexDigitLower k).toNat ∧ (hexDigitLower k).toNat ≤ 126 := by decide
  have digit (m : Nat) := digits (m % 16) (Nat.mod_lt m (by decide))
  intro c member
  simp only [unicodeEscape, List.mem_cons, List.not_mem_nil, or_false] at member
  rcases member with rfl | rfl | rfl | rfl | rfl | rfl
  · decide
  · decide
  all_goals exact digit _

theorem printable_dumpsChar (c : Char) : Printable (dumpsChar c) := by
  have short : ∀ d ∈ ['\x22', '\x5c', 'n', 'r', 't', 'f', 'b'], Printable ['\x5c', d] :=
    forall_chars (by decide)
  unfold dumpsChar
  split_ifs with quoted newline cr tab feed backspace printable bmp
  · rcases quoted with rfl | rfl
    · exact short _ (by decide)
    · exact short _ (by decide)
  · exact short _ (by decide)
  · exact short _ (by decide)
  · exact short _ (by decide)
  · exact short _ (by decide)
  · exact short _ (by decide)
  · intro d member
    rwa [List.mem_singleton.mp member]
  · exact printable_unicodeEscape _
  · exact (printable_unicodeEscape _).append (printable_unicodeEscape _)

theorem printable_dumps (s : Str) : Printable (Encoding.dumps s) := by
  have quote : Printable ['\x22'] := by decide
  have body : Printable (s.flatMap dumpsChar) := fun c member => by
    obtain ⟨d, -, inside⟩ := List.mem_flatMap.mp member
    exact printable_dumpsChar d c inside
  exact (quote.append body).append quote

theorem dumps_printable (repr : Rat → Str) {v : Value} (faithful : v.Faithful) :
    Printable (v.dumps repr) := by
  have separator : Printable ", ".toList := by decide
  have bracket : Printable ['['] ∧ Printable [']'] := by decide
  have brace : Printable ['\x7b'] ∧ Printable ['\x7d'] := by decide
  induction faithful with
  | null => exact (by decide : Printable "null".toList)
  | bool b =>
    have words : Printable "true".toList ∧ Printable "false".toList := by decide
    cases b
    · exact words.2
    · exact words.1
  | num n =>
    have chars : Printable "-0123456789".toList := by decide
    exact fun c member => chars c (dumpsInt_chars n c member)
  | str s => exact printable_dumps s
  | arr each ih =>
    rw [Value.dumps, dumpsItems_eq]
    refine (bracket.1.append (separator.intercalate fun text member => ?_)).append bracket.2
    obtain ⟨item, inside, rfl⟩ := List.mem_map.mp member
    exact ih item inside
  | obj names each ih =>
    rw [Value.dumps, dumpsFields_eq]
    refine (brace.1.append (separator.intercalate fun text member => ?_)).append brace.2
    obtain ⟨field, inside, rfl⟩ := List.mem_map.mp member
    exact ((printable_dumps _).append (by decide)).append (ih field inside)

end Json

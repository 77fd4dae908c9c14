import Mathlib.Data.List.DropRight
import Mathlib.Data.List.Infix

/-! Python `str` as the list of its code points, with the few methods the routers
use. Slices are `List.take`; case folding is only needed against ASCII text. -/
namespace Text

abbrev Str := List Char

/-- The code points for which `str.isspace` holds. -/
def isSpace (c : Char) : Bool :=
  let n := c.toNat
  (9 ≤ n && n ≤ 13) || (28 ≤ n && n ≤ 32) || n == 0x85 || n == 0xA0 || n == 0x1680 ||
    (0x2000 ≤ n && n ≤ 0x200A) || n == 0x2028 || n == 0x2029 || n == 0x202F ||
    n == 0x205F || n == 0x3000

def lstrip (s : Str) : Str := s.dropWhile isSpace
def rstrip (s : Str) : Str := s.rdropWhile isSpace
def strip (s : Str) : Str := rstrip (lstrip s)

/-- ASCII folding: no other code point folds to text that continues an ASCII match. -/
def lower (s : Str) : Str := s.map Char.toLower

def startsWith (s pre : Str) : Bool := pre.isPrefixOf s
def endsWith (s suf : Str) : Bool := suf.isSuffixOf s

def removePrefix (pre s : Str) : Str := if startsWith s pre then s.drop pre.length else s
def removeSuffix (suf s : Str) : Str :=
  if endsWith s suf then s.take (s.length - suf.length) else s

/-- The text after the first occurrence of a nonempty separator. -/
def afterFirst (sep : Str) : Str → Option Str
  | [] => none
  | c :: rest =>
    if startsWith (c :: rest) sep then some ((c :: rest).drop sep.length)
    else afterFirst sep rest

@[simp] theorem startsWith_iff (s pre : Str) : startsWith s pre = true ↔ pre <+: s := by
  simp [startsWith]

@[simp] theorem endsWith_iff (s suf : Str) : endsWith s suf = true ↔ suf <:+ s := by
  simp [endsWith]

/-- Trailing whitespace never hides the first character that is not whitespace. -/
theorem head_strip (s : Str) : (strip s).head? = (lstrip s).head? := by
  cases h : lstrip s with
  | nil => simp [strip, h, rstrip]
  | cons c rest =>
    have kept : isSpace c = false := by
      have := List.head?_dropWhile_not isSpace s
      rw [show s.dropWhile isSpace = c :: rest from h] at this
      simpa using this
    have stays : rstrip (c :: rest) = c :: rstrip rest := by
      simp only [rstrip, List.rdropWhile, List.reverse_cons, List.dropWhile_append]
      split
      · rename_i empty
        simp_all [List.dropWhile]
      · simp
    simp [strip, h, stays]

/-- No whitespace at either end. -/
structure Trimmed (s : Str) : Prop where
  first : ∀ c ∈ s.head?, isSpace c = false
  last : ∀ c ∈ s.getLast?, isSpace c = false

theorem trimmed_strip (s : Str) : Trimmed (strip s) := by
  constructor
  · intro c begins
    rw [head_strip] at begins
    have := List.head?_dropWhile_not isSpace s
    rw [← lstrip, Option.mem_def.mp begins] at this
    simpa using this
  · intro c ends
    have nonempty : strip s ≠ [] := by
      intro empty
      simp [empty] at ends
    have kept := List.rdropWhile_last_not isSpace (lstrip s) nonempty
    rw [List.getLast?_eq_some_getLast nonempty, Option.mem_some_iff] at ends
    rw [← ends]
    exact Bool.eq_false_iff.mpr kept

theorem strip_startsWith_singleton (s : Str) (c : Char) :
    startsWith (strip s) [c] = true ↔ (lstrip s).head? = some c := by
  rw [startsWith_iff, ← head_strip]
  cases strip s with
  | nil => simp
  | cons d rest => simp [List.cons_prefix_cons, eq_comm]

/-- Joining pieces cannot create a leading character that no piece leads with. -/
theorem lstrip_flatten_head (c : Char) (pieces : List Str)
    (none : ∀ piece ∈ pieces, (lstrip piece).head? ≠ some c) :
    (lstrip pieces.flatten).head? ≠ some c := by
  induction pieces with
  | nil => simp [lstrip]
  | cons piece rest ih =>
    have first := none piece (by simp)
    have later := ih fun p member => none p (by simp [member])
    simp only [lstrip, List.flatten_cons, List.dropWhile_append] at first later ⊢
    split
    · exact later
    · rename_i nonempty
      cases h : piece.dropWhile isSpace with
      | nil => simp [h] at nonempty
      | cons d _ => simpa [h] using first

end Text

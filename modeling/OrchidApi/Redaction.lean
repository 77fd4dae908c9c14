import OrchidApi.Substitution
import OrchidApi.Text

/-! `_RedactingFormatter` of `main.py`: the substitution that is to keep bearer tokens out of
the logs, on the rendered text of a record. -/
namespace OrchidApi
open Text Substitution

/-! ## The pattern -/

/-- `[A-Za-z0-9._\-+/=~]` -/
def isTokenChar (c : Char) : Bool := c.isAlphanum || "._-+/=~".toList.contains c

/-- The class under `IGNORECASE`: four other letters have a case that lies in it. -/
def matchesClass (c : Char) : Bool :=
  isTokenChar c || [0x130, 0x131, 0x17F, 0x212A].contains c.toNat

def keyword : Str := ['B', 'e', 'a', 'r', 'e', 'r']

/-- How much `Bearer\s+[A-Za-z0-9._\-+/=~]+` matches at the head of a text. No whitespace is in
the class, so the greedy match needs no backtracking. -/
def bearerMatch (s : Str) : Option Nat :=
  if lower (s.take 6) = "bearer".toList then
    let spaces := ((s.drop 6).takeWhile isSpace).length
    let token := (((s.drop 6).drop spaces).takeWhile matchesClass).length
    if spaces = 0 ∨ token = 0 then none else some (6 + spaces + token)
  else none

/-- `_PATTERN.sub("Bearer ****", text)` -/
def redact (text : Str) : Str := sub bearerMatch "Bearer ****".toList 0 text

/-- A non-empty string over the token alphabet. -/
structure IsToken (token : Str) : Prop where
  nonempty : token ≠ []
  chars : ∀ c ∈ token, isTokenChar c = true

theorem isTokenChar_toNat {c : Char} (token : isTokenChar c = true) : 43 ≤ c.toNat ∧ c.toNat ≤ 126 := by
  rcases Bool.or_eq_true_iff.mp token with alphanum | mark
  · delta Char.isAlphanum Char.isAlpha Char.isUpper Char.isLower Char.isDigit at alphanum
    simp only [ge_iff_le, Bool.or_eq_true, Bool.and_eq_true, decide_eq_true_eq,
      UInt32.le_iff_toNat_le] at alphanum
    change 43 ≤ c.val.toNat ∧ c.val.toNat ≤ 126
    rcases alphanum with (upper | lower) | digit
    · exact ⟨le_trans (by decide) upper.1, le_trans upper.2 (by decide)⟩
    · exact ⟨le_trans (by decide) lower.1, le_trans lower.2 (by decide)⟩
    · exact ⟨le_trans (by decide) digit.1, le_trans digit.2 (by decide)⟩
  · have range : ∀ d ∈ "._-+/=~".toList, 43 ≤ d.toNat ∧ d.toNat ≤ 126 := by
      have all : "._-+/=~".toList.all (fun d => 43 ≤ d.toNat ∧ d.toNat ≤ 126) = true := by decide
      exact fun d member => of_decide_eq_true (List.all_eq_true.mp all d member)
    exact range c (List.contains_iff_mem.mp mark)

theorem isSpace_of_class {c : Char} (inside : matchesClass c = true) : isSpace c = false := by
  rcases Bool.or_eq_true_iff.mp inside with token | folded
  · have range := isTokenChar_toNat token
    simp only [isSpace, Bool.or_eq_false_iff, Bool.and_eq_false_iff, decide_eq_false_iff_not,
      beq_eq_false_iff_ne]
    omega
  · have member := List.contains_iff_mem.mp folded
    simp only [List.mem_cons, List.not_mem_nil, or_false] at member
    rcases member with code | code | code | code <;> simp [isSpace, code]

theorem IsToken.class {token : Str} (valid : IsToken token) : ∀ c ∈ token, matchesClass c = true :=
  fun c member => by simp [matchesClass, valid.chars c member]

/-! ## The matcher across a cut -/

/-- A run that stops before the end of a text is the same with more text behind it. -/
theorem takeWhile_append_of_mem {α : Type} {test : α → Bool} {xs ys : List α} {x : α} (member : x ∈ xs)
    (stops : test x = false) : (xs ++ ys).takeWhile test = xs.takeWhile test := by
  rw [List.takeWhile_append, if_neg]
  intro whole
  have all := List.takeWhile_eq_self_iff.mp ((List.takeWhile_prefix test).eq_of_length whole) x member
  exact absurd (all.symm.trans stops) (by decide)

/-- And so is a run that the text behind does not continue. -/
theorem takeWhile_append_of_head {α : Type} {test : α → Bool} (xs : List α) {y : α} (ys : List α)
    (stops : test y = false) : (xs ++ y :: ys).takeWhile test = xs.takeWhile test := by
  rw [List.takeWhile_append]
  split
  · rename_i whole
    rw [List.takeWhile_cons_of_neg (by simp [stops]), List.append_nil]
    exact ((List.takeWhile_prefix test).eq_of_length whole).symm
  · rfl

/-- What follows a keyword and a blank does not change what matches in front of them. -/
theorem bearerMatch_keyword (c : Char) (rest tail : Str) :
    bearerMatch (c :: rest ++ (keyword ++ ' ' :: tail)) = bearerMatch (c :: rest ++ keyword) := by
  generalize text : c :: rest ++ keyword = whole
  have long : 6 ≤ whole.length := by simp [← text, keyword]
  have last : 'r' ∈ whole.drop 6 := by
    have kept : whole.drop 6 = (c :: rest ++ ['B', 'e', 'a', 'r', 'e']).drop 6 ++ ['r'] := by
      rw [← text, show keyword = ['B', 'e', 'a', 'r', 'e'] ++ ['r'] from rfl, ← List.append_assoc]
      exact List.drop_append_of_le_length (by simp)
    simp [kept]
  have joined : c :: rest ++ (keyword ++ ' ' :: tail) = whole ++ ' ' :: tail := by
    rw [← text, List.append_assoc]
  have head : (whole ++ ' ' :: tail).take 6 = whole.take 6 := List.take_append_of_le_length long
  have behind : (whole ++ ' ' :: tail).drop 6 = whole.drop 6 ++ ' ' :: tail :=
    List.drop_append_of_le_length long
  have spaces : (whole.drop 6 ++ ' ' :: tail).takeWhile isSpace = (whole.drop 6).takeWhile isSpace :=
    takeWhile_append_of_mem last (by decide)
  have within : ((whole.drop 6).takeWhile isSpace).length ≤ (whole.drop 6).length :=
    (List.takeWhile_prefix _).length_le
  rw [joined, bearerMatch, bearerMatch, head, behind, spaces]
  dsimp only
  rw [List.drop_append_of_le_length within, takeWhile_append_of_head _ _ (by decide)]

theorem drop_length_takeWhile {α : Type} (test : α → Bool) (xs : List α) :
    xs.drop (xs.takeWhile test).length = xs.dropWhile test :=
  calc xs.drop (xs.takeWhile test).length
      = (xs.takeWhile test ++ xs.dropWhile test).drop (xs.takeWhile test).length := by
        rw [List.takeWhile_append_dropWhile]
    _ = xs.dropWhile test := List.drop_left

/-- What a match leaves does not begin with a character of the class. -/
theorem bearerMatch_maximal {s : Str} {n : Nat} (found : bearerMatch s = some n) :
    n ≤ s.length ∧ ∀ c ∈ (s.drop n).head?, matchesClass c = false := by
  rw [bearerMatch] at found
  dsimp only at found
  split at found
  · split at found
    · cases found
    · rename_i proper
      obtain rfl := Option.some.inj found
      generalize ((s.drop 6).takeWhile isSpace).length = spaces at *
      have left : s.drop (6 + spaces + (((s.drop 6).drop spaces).takeWhile matchesClass).length) =
          ((s.drop 6).drop spaces).dropWhile matchesClass := by
        rw [← drop_length_takeWhile, List.drop_drop, List.drop_drop]
      have most := (List.takeWhile_prefix matchesClass (l := (s.drop 6).drop spaces)).length_le
      refine ⟨?_, fun c begins => ?_⟩
      · rw [List.drop_drop, List.length_drop] at most
        rw [not_or, List.drop_drop] at proper
        rw [List.drop_drop]
        omega
      · rw [left] at begins
        have stops := List.head?_dropWhile_not matchesClass ((s.drop 6).drop spaces)
        rwa [Option.mem_def.mp begins] at stops
  · cases found

/-- A match in front of the keyword ends in front of it, or takes all of it. -/
theorem bearerMatch_reach {c : Char} {rest : Str} {n : Nat}
    (found : bearerMatch (c :: rest ++ keyword) = some n) :
    n ≤ rest.length + 1 ∨ n = rest.length + 7 := by
  obtain ⟨most, stops⟩ := bearerMatch_maximal found
  have length : (c :: rest ++ keyword).length = rest.length + 7 := by simp [keyword]
  rcases Nat.lt_or_ge (rest.length + 1) n with beyond | short
  · refine .inr ?_
    have inside : (c :: rest ++ keyword).drop n = keyword.drop (n - (rest.length + 1)) := by
      rw [List.drop_append, List.drop_eq_nil_of_le (by simp; omega), List.nil_append, List.length_cons]
    have letters : ∀ d ∈ keyword, matchesClass d = true :=
      List.all_eq_true.mp (show keyword.all matchesClass = true by decide)
    rw [inside] at stops
    cases left : keyword.drop (n - (rest.length + 1)) with
    | nil =>
      have reached := List.drop_eq_nil_iff.mp left
      simp only [keyword, List.length_cons, List.length_nil] at reached
      omega
    | cons d more =>
      have letter := letters d (List.mem_of_mem_drop (left ▸ List.mem_cons_self))
      exact absurd (letter.symm.trans (stops d (by rw [left]; rfl))) (by decide)
  · exact .inl short

theorem bearerMatch_other {c : Char} (rest : Str) (other : c.toLower ≠ 'b') :
    bearerMatch (c :: rest) = none := by
  rw [bearerMatch, if_neg]
  intro same
  simp only [List.take_succ_cons, lower, List.map_cons] at same
  exact other (List.cons.inj same).1

/-- The keyword, a blank and a token match, with all of the class behind the token. -/
theorem redact_keyword {token : Str} (valid : IsToken token) (post : Str) :
    redact (keyword ++ ' ' :: (token ++ post)) =
      "Bearer ****".toList ++ redact (post.dropWhile matchesClass) := by
  obtain ⟨c, rest, rfl⟩ := List.exists_cons_of_ne_nil valid.nonempty
  have spaces : (' ' :: (c :: rest ++ post)).takeWhile isSpace = [' '] := by
    rw [List.takeWhile_cons_of_pos (by decide), List.cons_append, List.takeWhile_cons_of_neg]
    simp [isSpace_of_class (valid.class c List.mem_cons_self)]
  have run : (c :: rest ++ post).takeWhile matchesClass =
      c :: rest ++ post.takeWhile matchesClass := List.takeWhile_append_of_pos valid.class
  have found : bearerMatch (keyword ++ ' ' :: (c :: rest ++ post)) =
      some (7 + (c :: rest ++ post.takeWhile matchesClass).length) := by
    rw [bearerMatch, if_pos (by rfl)]
    dsimp only
    rw [show (keyword ++ ' ' :: (c :: rest ++ post)).drop 6 = ' ' :: (c :: rest ++ post) from rfl, spaces,
      show (' ' :: (c :: rest ++ post)).drop [' '].length = c :: rest ++ post from rfl, run,
      if_neg (by simp)]
    rfl
  have left : (keyword ++ ' ' :: (c :: rest ++ post)).drop
      (7 + (c :: rest ++ post.takeWhile matchesClass).length) = post.dropWhile matchesClass := by
    rw [← List.drop_drop, show (keyword ++ ' ' :: (c :: rest ++ post)).drop 7 = c :: rest ++ post from rfl,
      List.length_append, ← List.drop_drop, List.drop_left, drop_length_takeWhile]
  rw [redact, sub_of_match (by simp) (by omega) found, left]
  rfl

/-! ## Two runs -/

/-- No match that the scan makes in front of the keyword reaches into it. -/
def KeywordFree (pre : Str) : Prop := overhang bearerMatch 0 pre keyword = 0

instance (pre : Str) : Decidable (KeywordFree pre) := inferInstanceAs (Decidable (_ = _))

/-- The scan in front of the keyword does not depend on what is behind it, and either stops in
front of the keyword or behind it. -/
theorem redact_split (pre tail : Str) :
    redact (pre ++ (keyword ++ ' ' :: tail)) = emitted bearerMatch "Bearer ****".toList 0 pre keyword ++
      if KeywordFree pre then redact (keyword ++ ' ' :: tail) else ' ' :: redact tail := by
  have alike : ∀ c rest, c :: rest <:+ pre →
      bearerMatch (c :: rest ++ (keyword ++ ' ' :: tail)) = bearerMatch (c :: rest ++ keyword) :=
    fun c rest _ => bearerMatch_keyword c rest tail
  obtain ⟨covered, written⟩ := @scan_congr _ _ "Bearer ****".toList _ _ _ alike 0
  rw [redact, sub_append, covered, written]
  by_cases free : KeywordFree pre
  · rw [if_pos free, show overhang bearerMatch 0 pre keyword = 0 from free]
    rfl
  · have covers : overhang bearerMatch 0 pre keyword = 6 := by
      rcases overhang_origin 0 pre keyword (Nat.zero_le _) with none | ⟨c, rest, n, _, found, reach⟩
      · exact absurd none free
      · rcases bearerMatch_reach found with short | whole
        · exact absurd (show overhang bearerMatch 0 pre keyword = 0 by omega) free
        · omega
    rw [if_neg free, covers, sub_drop, show (keyword ++ ' ' :: tail).drop 6 = ' ' :: tail from rfl,
      sub_of_none (bearerMatch_other tail (by decide))]
    rfl

theorem redact_letter {c : Char} (post : Str) (other : c.toLower ≠ 'b') :
    redact ([c] ++ post) = c :: redact post := sub_of_none (bearerMatch_other post other)

theorem isToken_singleton {c : Char} (letter : isTokenChar c = true) : IsToken [c] :=
  ⟨by simp, fun d member => List.mem_singleton.mp member ▸ letter⟩

/-- The log text does not depend on the token behind the keyword, if and only if no earlier
match takes the keyword away from it. -/
theorem redaction_hides_iff (pre post : Str) :
    (∀ tok1 tok2, IsToken tok1 → IsToken tok2 →
      redact (pre ++ "Bearer ".toList ++ tok1 ++ post) = redact (pre ++ "Bearer ".toList ++ tok2 ++ post)) ↔
      KeywordFree pre := by
  have shape : ∀ tok, pre ++ "Bearer ".toList ++ tok ++ post = pre ++ (keyword ++ ' ' :: (tok ++ post)) := by
    intro tok
    rw [show "Bearer ".toList = keyword ++ [' '] from rfl]
    simp
  simp only [shape, redact_split]
  by_cases free : KeywordFree pre
  · refine iff_of_true (fun tok1 tok2 valid1 valid2 => ?_) free
    rw [if_pos free, if_pos free, redact_keyword valid1, redact_keyword valid2]
  · refine iff_of_false (fun same => ?_) free
    have letters := same ['a'] ['c'] (isToken_singleton (by decide)) (isToken_singleton (by decide))
    rw [if_neg free, if_neg free, redact_letter post (by decide), redact_letter post (by decide)] at letters
    exact absurd (List.append_cancel_left letters) (by simp)

example : KeywordFree "Authorization: ".toList ∧ ¬KeywordFree "proxy sent Bearer ".toList := by decide

/-- A keyword in front of the keyword is taken for it, and the token survives. -/
theorem token_survives :
    IsToken "a".toList ∧ IsToken "c".toList ∧
      redact ("Bearer ".toList ++ "Bearer ".toList ++ "a".toList ++ []) = "Bearer **** a".toList ∧
      redact ("Bearer ".toList ++ "Bearer ".toList ++ "c".toList ++ []) = "Bearer **** c".toList ∧
      redact ("Bearer ".toList ++ "Bearer ".toList ++ "a".toList ++ []) ≠
        redact ("Bearer ".toList ++ "Bearer ".toList ++ "c".toList ++ []) :=
  ⟨isToken_singleton (by decide), isToken_singleton (by decide), by decide, by decide, by decide⟩

end OrchidApi

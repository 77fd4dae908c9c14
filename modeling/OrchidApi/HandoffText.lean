import OrchidApi.StreamBuffer

/-! Which handoff texts one pass of cleaning leaves in a normal form. -/
namespace Text

def Blank (w : Str) : Prop := ∀ c ∈ w, isSpace c = true

theorem Blank.append {v w : Str} (first : Blank v) (second : Blank w) : Blank (v ++ w) :=
  fun c member => (List.mem_append.mp member).elim (first c) (second c)

theorem lstrip_append {w : Str} (blank : Blank w) (s : Str) : lstrip (w ++ s) = lstrip s :=
  List.dropWhile_append_of_pos blank

theorem rstrip_append (s : Str) {w : Str} (blank : Blank w) : rstrip (s ++ w) = rstrip s := by
  have reversed : ∀ c ∈ w.reverse, isSpace c = true := fun c member => blank c (List.mem_reverse.mp member)
  rw [rstrip, rstrip, List.rdropWhile, List.rdropWhile, List.reverse_append,
    List.dropWhile_append_of_pos reversed]

theorem lstrip_cons {c : Char} (kept : isSpace c = false) (rest : Str) :
    lstrip (c :: rest) = c :: rest :=
  List.dropWhile_cons_of_neg (Bool.eq_false_iff.mp kept)

theorem rstrip_of_trimmed {s : Str} (trimmed : Trimmed s) : rstrip s = s :=
  List.rdropWhile_eq_self_iff.mpr fun some =>
    Bool.eq_false_iff.mp (trimmed.last _ (List.getLast?_eq_some_getLast some))

/-- Whitespace around a trimmed text is what stripping takes off. -/
theorem strip_padded {v s w : Str} (before : Blank v) (trimmed : Trimmed s) (after : Blank w) :
    strip (v ++ s ++ w) = s := by
  rw [strip, List.append_assoc, lstrip_append before]
  cases s with
  | nil =>
    rw [List.nil_append, ← List.append_nil w, lstrip_append after]
    rfl
  | cons c rest =>
    rw [List.cons_append, lstrip_cons (trimmed.first c rfl), ← List.cons_append, rstrip_append _ after,
      rstrip_of_trimmed trimmed]

theorem strip_split (s : Str) : ∃ v w, Blank v ∧ Blank w ∧ s = v ++ strip s ++ w := by
  refine ⟨s.takeWhile isSpace, (lstrip s).rtakeWhile isSpace, fun c => List.mem_takeWhile_imp,
    fun c => List.mem_rtakeWhile_imp, ?_⟩
  rw [List.append_assoc, strip, rstrip, List.rdropWhile_append_rtakeWhile, lstrip,
    List.takeWhile_append_dropWhile]

/-- A text that neither begins nor ends with whitespace. -/
structure Solid (block : Str) : Prop where
  some : block ≠ []
  trimmed : Trimmed block

theorem last_rstrip {s : Str} {c : Char} (last : (rstrip s).getLast? = some c) : isSpace c = false := by
  have some : rstrip s ≠ [] := by
    intro none
    rw [none] at last
    cases last
  have kept := List.rdropWhile_last_not isSpace s some
  rw [List.getLast?_eq_some_getLast some, Option.some.injEq] at last
  rw [← last]
  exact Bool.eq_false_iff.mpr kept

/-- The text without the whitespace at its end, and that whitespace. -/
theorem rstrip_split (s : Str) : ∃ w, Blank w ∧ s = rstrip s ++ w :=
  ⟨s.rtakeWhile isSpace, fun _ => List.mem_rtakeWhile_imp, (List.rdropWhile_append_rtakeWhile ..).symm⟩

theorem Solid.trimmed_append {block : Str} (solid : Solid block) (tail : Str) :
    Trimmed (block ++ rstrip tail) := by
  obtain ⟨c, rest, rfl⟩ := List.exists_cons_of_ne_nil solid.some
  constructor
  · rintro d ⟨⟩
    exact solid.trimmed.first c rfl
  · intro d last
    rw [List.getLast?_append] at last
    rcases Option.or_eq_some_iff.mp last with ofTail | ⟨-, ofBlock⟩
    · exact last_rstrip ofTail
    · exact solid.trimmed.last d ofBlock

/-- Stripping a text takes nothing from its first block. -/
theorem strip_block {w block : Str} (blank : Blank w) (solid : Solid block) (tail : Str) :
    strip (w ++ block ++ tail) = block ++ rstrip tail := by
  obtain ⟨after, ends, split⟩ := rstrip_split tail
  have padded := strip_padded blank (solid.trimmed_append tail) ends
  rwa [List.append_assoc, List.append_assoc, ← split, ← List.append_assoc] at padded

theorem strip_rstrip (s : Str) : strip (rstrip s) = strip s := by
  obtain ⟨w, blank, split⟩ := rstrip_split s
  obtain ⟨v, w', before, after, whole⟩ := strip_split (rstrip s)
  have padded := strip_padded before (trimmed_strip (rstrip s)) (after.append blank)
  rw [← List.append_assoc, ← whole, ← split] at padded
  exact padded.symm

end Text

namespace OrchidApi
open Text

/-! ## Wrappings -/

def IsPreamble (head : Str) : Prop := lower head ∈ handoffPreambles

/-- What may stand before the rest of a handoff: nothing, or a preamble and whitespace. -/
def Lead (lead : Str) : Prop := lead = [] ∨ ∃ head w, IsPreamble head ∧ Blank w ∧ lead = head ++ w

/-- A pair of quotes, or one that is both. -/
def Quoted (s : Str) : Prop := ['"'] <+: s ∧ ['"'] <:+ s

/-- A wrapping below the one preamble and the one pair of quotes around a handoff. -/
inductive DoublyWrapped : Str → Prop where
  | preambles {w₀ head w₁ head' : Str} (tail : Str) (before : Blank w₀) (first : IsPreamble head)
      (between : Blank w₁) (second : IsPreamble head') :
      DoublyWrapped (w₀ ++ head ++ w₁ ++ head' ++ tail)
  | quotedPreamble {w₀ lead w₁ head w₂ : Str} (tail : Str) (before : Blank w₀) (leads : Lead lead)
      (inside : Blank w₁) (second : IsPreamble head) (after : Blank w₂) :
      DoublyWrapped (w₀ ++ lead ++ '"' :: (w₁ ++ head ++ tail) ++ '"' :: w₂)
  | quotedQuotes {w₀ lead w₁ inner w₂ w₃ : Str} (before : Blank w₀) (leads : Lead lead)
      (left : Blank w₁) (quoted : Quoted inner) (right : Blank w₂) (after : Blank w₃) :
      DoublyWrapped (w₀ ++ lead ++ '"' :: (w₁ ++ inner ++ w₂) ++ '"' :: w₃)

structure NormalHandoff (s : Str) : Prop where
  trimmed : Trimmed s
  bare : ∀ preamble ∈ handoffPreambles, ¬ preamble <+: lower s
  unquoted : ¬ Quoted s

theorem lower_append (s t : Str) : lower (s ++ t) = lower s ++ lower t := List.map_append

/-- A preamble in front, in any case. -/
theorem preamble_prefix_iff {s : Str} : (∃ preamble ∈ handoffPreambles, preamble <+: lower s) ↔
    ∃ head rest, IsPreamble head ∧ s = head ++ rest := by
  constructor
  · rintro ⟨preamble, known, t, whole⟩
    obtain ⟨head, rest, rfl, folded, -⟩ := List.map_eq_append_iff.mp whole.symm
    exact ⟨head, rest, by rw [IsPreamble, lower, folded]; exact known, rfl⟩
  · rintro ⟨head, rest, known, rfl⟩
    exact ⟨lower head, known, lower rest, (lower_append head rest).symm⟩

theorem lower_space {c : Char} (space : isSpace c = true) : c.toLower = c := by
  unfold Char.toLower
  refine dif_neg ?_
  rintro ⟨above, below⟩
  have range : 65 ≤ c.toNat ∧ c.toNat ≤ 90 := ⟨above, below⟩
  simp [isSpace] at space
  omega

theorem IsPreamble.solid {head : Str} (preamble : IsPreamble head) : Solid head := by
  have ends : ∀ known ∈ handoffPreambles, known ≠ [] ∧
      known.head?.all (fun c => !isSpace c) = true ∧
      known.getLast?.all (fun c => !isSpace c) = true := by decide
  obtain ⟨some, first, last⟩ := ends _ preamble
  -- folding changes no whitespace
  have kept {c : Char} (folded : isSpace c.toLower = false) : isSpace c = false := by
    by_contra space
    rw [lower_space (Bool.not_eq_false _ ▸ space)] at folded
    exact space folded
  refine ⟨fun none => some (by rw [none]; rfl), fun c starts => kept ?_, fun c ends => kept ?_⟩
  · simpa [lower, List.head?_map, Option.mem_def.mp starts] using first
  · simpa [lower, List.getLast?_map, Option.mem_def.mp ends] using last

theorem find_preamble {head : Str} (preamble : IsPreamble head) (rest : Str) :
    handoffPreambles.find? (startsWith (lower (head ++ rest))) = some (lower head) := by
  have apart : ∀ p ∈ handoffPreambles, ∀ q ∈ handoffPreambles, p <+: q → p = q := by decide
  have here : lower head <+: lower (head ++ rest) := ⟨lower rest, (lower_append head rest).symm⟩
  cases found : handoffPreambles.find? (startsWith (lower (head ++ rest))) with
  | none =>
    have missed := List.find?_eq_none.mp found _ preamble
    exact absurd ((startsWith_iff _ _).mpr here) missed
  | some other =>
    have known := List.mem_of_find?_eq_some found
    have also := (startsWith_iff _ _).mp (List.find?_some found)
    rcases List.prefix_or_prefix_of_prefix here also with within | within
    · rw [apart _ preamble _ known within]
    · rw [apart _ known _ preamble within]

/-! ## One pass -/

/-- The second half of a pass. -/
def dropQuotes (s : Str) : Str :=
  if startsWith s ['"'] && endsWith s ['"'] then strip (s.drop 1).dropLast else s

theorem quoted_cases {s : Str} (quoted : Quoted s) : s = ['"'] ∨ ∃ q, s = '"' :: q ++ ['"'] := by
  obtain ⟨⟨rest, rfl⟩, t, ends⟩ := quoted
  cases t with
  | nil => exact .inl ends.symm
  | cons c q =>
    obtain rfl := (List.cons.inj ends).1
    exact .inr ⟨q, ends.symm⟩

theorem quoted_quotes (q : Str) : Quoted ('"' :: q ++ ['"']) :=
  ⟨List.prefix_append ['"'] _, List.suffix_append _ _⟩

theorem Quoted.solid {s : Str} (quoted : Quoted s) : Solid s := by
  have quote : isSpace '"' = false := by decide
  obtain ⟨⟨rest, starts⟩, front, ends⟩ := quoted
  have first : s.head? = some '"' := by rw [← starts]; rfl
  have last : s.getLast? = some '"' := by rw [← ends]; exact List.getLast?_concat
  refine ⟨fun none => ?_, fun c begins => ?_, fun c closes => ?_⟩
  · rw [none] at first
    cases first
  · rw [first, Option.mem_some_iff] at begins
    exact begins ▸ quote
  · rw [last, Option.mem_some_iff] at closes
    exact closes ▸ quote

theorem dropQuotes_quotes (q : Str) : dropQuotes ('"' :: q ++ ['"']) = strip q := by
  have quoted := quoted_quotes q
  rw [dropQuotes, (startsWith_iff _ _).mpr quoted.1, (endsWith_iff _ _).mpr quoted.2]
  simp

theorem dropQuotes_unquoted {s : Str} (unquoted : ¬ Quoted s) : dropQuotes s = s := by
  refine if_neg fun both => unquoted ?_
  rw [Bool.and_eq_true, startsWith_iff, endsWith_iff] at both
  exact both

/-- A pass takes off the whitespace around the handoff, its lead, and one pair of quotes. -/
theorem cleanHandoff_eq {w₀ lead core w₁ : Str} (before : Blank w₀) (leads : Lead lead)
    (trimmed : Trimmed core) (after : Blank w₁)
    (first : lead = [] → ∀ preamble ∈ handoffPreambles, ¬ preamble <+: lower core) :
    cleanHandoff (w₀ ++ lead ++ core ++ w₁) = dropQuotes core := by
  rcases leads with rfl | ⟨head, w, preamble, blank, rfl⟩
  · have none : handoffPreambles.find? (startsWith (lower core)) = none :=
      List.find?_eq_none.mpr fun known member => by
        rw [startsWith_iff]
        exact first rfl known member
    rw [List.append_nil, cleanHandoff, strip_padded before trimmed after, none]
    rfl
  · have whole : w₀ ++ (head ++ w) ++ core ++ w₁ = w₀ ++ head ++ (w ++ core ++ w₁) := by
      simp only [List.append_assoc]
    have length : (lower head).length = head.length := List.length_map _
    rw [whole, cleanHandoff, strip_block before preamble.solid, find_preamble preamble]
    simp only [length, List.drop_left, strip_rstrip, strip_padded blank trimmed after]
    rfl

theorem cleanHandoff_cases (text : Str) : ∃ w₀ lead core w₁, Blank w₀ ∧ Lead lead ∧ Trimmed core ∧
    Blank w₁ ∧ (lead = [] → ∀ preamble ∈ handoffPreambles, ¬ preamble <+: lower core) ∧
    text = w₀ ++ lead ++ core ++ w₁ := by
  obtain ⟨v, w, before, after, whole⟩ := strip_split text
  by_cases leads : ∃ preamble ∈ handoffPreambles, preamble <+: lower (strip text)
  · obtain ⟨head, rest, preamble, split⟩ := preamble_prefix_iff.mp leads
    obtain ⟨v', w', left, right, inner⟩ := strip_split rest
    refine ⟨v, head ++ v', strip rest, w' ++ w, before, .inr ⟨head, v', preamble, left, rfl⟩,
      trimmed_strip rest, right.append after, fun none => ?_, ?_⟩
    · exact absurd (List.append_eq_nil_iff.mp none).1 preamble.solid.some
    · calc text = v ++ (head ++ (v' ++ strip rest ++ w')) ++ w := by rw [← inner, ← split, ← whole]
        _ = v ++ (head ++ v') ++ strip rest ++ (w' ++ w) := by simp only [List.append_assoc]
  · exact ⟨v, [], strip text, w, before, .inl rfl, trimmed_strip text, after,
      fun _ preamble known starts => leads ⟨preamble, known, starts⟩, by rwa [List.append_nil]⟩

theorem cleanHandoff_normal {s : Str} (normal : NormalHandoff s) : cleanHandoff s = s := by
  have once := @cleanHandoff_eq [] [] s [] nofun (.inl rfl) normal.trimmed nofun fun _ => normal.bare
  rwa [List.append_nil, List.append_nil, List.nil_append, dropQuotes_unquoted normal.unquoted] at once

/-- No preamble begins with a quote. -/
theorem quoted_bare {s : Str} (quoted : Quoted s) : ∀ preamble ∈ handoffPreambles,
    ¬ preamble <+: lower s := by
  have letters : ∀ known ∈ handoffPreambles, known.head? = some 'h' := by decide
  obtain ⟨rest, rfl⟩ := quoted.1
  rintro preamble known ⟨t, whole⟩
  have heads := congrArg List.head? whole
  rw [List.head?_append, letters preamble known] at heads
  exact absurd heads (by simp [lower])

theorem not_normal_of_doublyWrapped {text : Str} (wrapped : DoublyWrapped text) :
    ¬ NormalHandoff (cleanHandoff text) := by
  intro normal
  have bare {head : Str} (preamble : IsPreamble head) (t : Str) : ¬ NormalHandoff (head ++ t) := by
    intro clean
    obtain ⟨known, member, starts⟩ := preamble_prefix_iff.mpr ⟨head, t, preamble, rfl⟩
    exact clean.bare known member starts
  cases wrapped with
  | @preambles w₀ head w₁ head' tail before first between second =>
    obtain ⟨w, blank, split⟩ := rstrip_split tail
    have whole : w₀ ++ head ++ w₁ ++ head' ++ tail =
        w₀ ++ (head ++ w₁) ++ (head' ++ rstrip tail) ++ w := by
      conv_lhs => rw [split]
      simp only [List.append_assoc]
    have unquoted : ¬ Quoted (head' ++ rstrip tail) := fun quoted => by
      obtain ⟨known, member, starts⟩ := preamble_prefix_iff.mpr ⟨head', rstrip tail, second, rfl⟩
      exact quoted_bare quoted known member starts
    rw [whole, cleanHandoff_eq before (.inr ⟨head, w₁, first, between, rfl⟩)
      (second.solid.trimmed_append tail) blank fun none =>
        absurd (List.append_eq_nil_iff.mp none).1 first.solid.some,
      dropQuotes_unquoted unquoted] at normal
    exact bare second _ normal
  | @quotedPreamble w₀ lead w₁ head w₂ tail before leads inside second after =>
    have whole : w₀ ++ lead ++ '"' :: (w₁ ++ head ++ tail) ++ '"' :: w₂ =
        w₀ ++ lead ++ ('"' :: (w₁ ++ head ++ tail) ++ ['"']) ++ w₂ := by
      simp only [List.append_assoc, List.cons_append, List.nil_append]
    have quoted := quoted_quotes (w₁ ++ head ++ tail)
    rw [whole, cleanHandoff_eq before leads quoted.solid.trimmed after fun _ => quoted_bare quoted,
      dropQuotes_quotes, strip_block inside second.solid] at normal
    exact bare second _ normal
  | @quotedQuotes w₀ lead w₁ inner w₂ w₃ before leads left quoted right after =>
    have whole : w₀ ++ lead ++ '"' :: (w₁ ++ inner ++ w₂) ++ '"' :: w₃ =
        w₀ ++ lead ++ ('"' :: (w₁ ++ inner ++ w₂) ++ ['"']) ++ w₃ := by
      simp only [List.append_assoc, List.cons_append, List.nil_append]
    have outer := quoted_quotes (w₁ ++ inner ++ w₂)
    rw [whole, cleanHandoff_eq before leads outer.solid.trimmed after fun _ => quoted_bare outer,
      dropQuotes_quotes, strip_padded left quoted.solid.trimmed right] at normal
    exact normal.unquoted quoted

theorem normal_nil : NormalHandoff [] where
  trimmed := ⟨nofun, nofun⟩
  bare := by decide
  unquoted quoted := quoted.solid.some rfl

theorem normal_of_not_doublyWrapped {text : Str} (plain : ¬ DoublyWrapped text) :
    NormalHandoff (cleanHandoff text) := by
  obtain ⟨w₀, lead, core, w₁, before, leads, trimmed, after, first, rfl⟩ := cleanHandoff_cases text
  rw [cleanHandoff_eq before leads trimmed after first]
  by_cases quoted : Quoted core
  · rcases quoted_cases quoted with rfl | ⟨q, rfl⟩
    · exact normal_nil
    · obtain ⟨v, w, left, right, split⟩ := strip_split q
      rw [dropQuotes_quotes]
      refine ⟨trimmed_strip q, fun preamble known starts => plain ?_, fun again => plain ?_⟩
      · obtain ⟨head, rest, second, inner⟩ := preamble_prefix_iff.mp ⟨preamble, known, starts⟩
        have wrapped := DoublyWrapped.quotedPreamble (rest ++ w) before leads left second after
        have same : v ++ head ++ (rest ++ w) = q := by
          conv_rhs => rw [split, inner]
          simp only [List.append_assoc]
        rw [same] at wrapped
        simpa only [List.append_assoc, List.cons_append, List.nil_append] using wrapped
      · have wrapped := DoublyWrapped.quotedQuotes before leads left again right after
        rw [← split] at wrapped
        simpa only [List.append_assoc, List.cons_append, List.nil_append] using wrapped
  · rw [dropQuotes_unquoted quoted]
    refine ⟨trimmed, fun preamble known starts => ?_, quoted⟩
    rcases leads with rfl | ⟨head, w, leading, blank, rfl⟩
    · exact first rfl preamble known starts
    · obtain ⟨head', rest, second, rfl⟩ := preamble_prefix_iff.mp ⟨preamble, known, starts⟩
      have wrapped := DoublyWrapped.preambles (rest ++ w₁) before leading blank second
      exact plain (by simpa only [List.append_assoc] using wrapped)

/-- One pass reaches the normal form exactly when there is no wrapping below its own two. -/
theorem cleanHandoff_normal_iff (text : Str) :
    (cleanHandoff (cleanHandoff text) = cleanHandoff text ∧ NormalHandoff (cleanHandoff text)) ↔
      ¬ DoublyWrapped text :=
  ⟨fun normal wrapped => not_normal_of_doublyWrapped wrapped normal.2,
    fun plain => ⟨cleanHandoff_normal (normal_of_not_doublyWrapped plain),
      normal_of_not_doublyWrapped plain⟩⟩

def quotedHandoff : Str := "\"Here is the handoff message: go\"".toList

/-- The quotes hide the preamble from the first pass. -/
theorem quoted_preamble_kept :
    ¬ (cleanHandoff (cleanHandoff quotedHandoff) = cleanHandoff quotedHandoff ∧
      NormalHandoff (cleanHandoff quotedHandoff)) := by
  have once : cleanHandoff quotedHandoff = "Here is the handoff message: go".toList := by decide
  have twice : cleanHandoff "Here is the handoff message: go".toList = "go".toList := by decide
  rw [once, twice]
  rintro ⟨same, -⟩
  exact absurd same (by decide)

end OrchidApi

import OrchidApi.JsonText
import OrchidApi.OAuth

/-! The pages of the OAuth routes: outside texts never add markup to them, and the
success page hands the server name to its opener unchanged. -/
namespace OrchidApi
open Text Encoding

def renderErrorPage (message : Str) (status : Nat) : HtmlResponse :=
  ⟨"<html><body><h2>".toList ++ escape message ++ "</h2>".toList ++ closingScript, status⟩

/-! ## Templates -/

/-- The pieces of a template with texts between them. -/
def fill : List Str → List Str → Str
  | piece :: pieces, text :: texts => piece ++ text ++ fill pieces texts
  | pieces, _ => pieces.flatten

/-- Every `<` of the page is one of the template's. -/
def OnlyTemplateMarkup (template : List Str) (page : Str) : Prop :=
  ∃ texts : List Str, texts.length + 1 = template.length ∧ page = fill template texts ∧
    ∀ text ∈ texts, '<' ∉ text

def errorTemplate : List Str := ["<html><body><h2>".toList, "</h2>".toList ++ closingScript]

/-- Without and with a detail below the heading. -/
def messageTemplate : Bool → List Str
  | false => ["<html><body><h2>".toList, "</h2>".toList ++ closingScript]
  | true => ["<html><body><h2>".toList, "</h2>".toList ++ "<p>".toList, "</p>".toList ++ closingScript]

def exchangeFailureTemplate : List Str :=
  ["<html><body><h2>Token exchange failed (".toList, ")</h2>".toList ++ "<pre>".toList,
    "</pre>".toList ++ closingScript]

theorem fill_one (before after text : Str) : fill [before, after] [text] = before ++ text ++ after := by
  simp only [fill, List.flatten_cons, List.flatten_nil, List.append_nil]

theorem fill_two (before between after first second : Str) :
    fill [before, between, after] [first, second] =
      before ++ first ++ (between ++ second ++ after) := by
  simp only [fill, List.flatten_cons, List.flatten_nil, List.append_nil]

theorem lt_notMem_escape (s : Str) : '<' ∉ escape s := by
  intro member
  obtain ⟨c, -, inside⟩ := List.mem_flatMap.mp member
  split at inside
  · exact absurd inside (by decide)
  · exact absurd inside (by decide)
  · exact absurd inside (by decide)
  · exact absurd inside (by decide)
  · exact absurd inside (by decide)
  · rename_i other _ _ _
    exact other (List.mem_singleton.mp inside).symm

theorem lt_notMem_digits (n : Nat) : '<' ∉ Nat.toDigits 10 n := fun member =>
  absurd (Nat.isDigit_of_mem_toDigits (by decide) (by decide) member) (by decide)

theorem renderErrorPage_markup (message : Str) (status : Nat) :
    OnlyTemplateMarkup errorTemplate (renderErrorPage message status).content := by
  refine ⟨[escape message], rfl, ?_, List.forall_mem_singleton.mpr (lt_notMem_escape message)⟩
  rw [errorTemplate, fill_one]
  unfold renderErrorPage
  exact List.append_assoc _ _ _

theorem renderSimpleMessagePage_markup (heading : Str) (status : Nat) (detail : Str) :
    OnlyTemplateMarkup (messageTemplate !detail.isEmpty)
      (renderSimpleMessagePage heading status detail).content := by
  unfold renderSimpleMessagePage
  cases detail.isEmpty with
  | true =>
    refine ⟨[escape heading], rfl, ?_, List.forall_mem_singleton.mpr (lt_notMem_escape heading)⟩
    simp only [Bool.not_true, messageTemplate, fill_one, if_true, List.append_nil, List.append_assoc]
  | false =>
    refine ⟨[escape heading, escape detail], rfl, ?_, List.forall_mem_cons.mpr
      ⟨lt_notMem_escape heading, List.forall_mem_singleton.mpr (lt_notMem_escape detail)⟩⟩
    simp only [Bool.not_false, messageTemplate, fill_two, Bool.false_eq_true, if_false,
      List.append_assoc]

theorem renderTokenExchangeFailurePage_markup (bodyText : Str) (status : Nat) :
    OnlyTemplateMarkup exchangeFailureTemplate
      (renderTokenExchangeFailurePage bodyText status).content := by
  refine ⟨[Nat.toDigits 10 status, escape (bodyText.take 1000)], rfl, ?_, List.forall_mem_cons.mpr
    ⟨lt_notMem_digits status, List.forall_mem_singleton.mpr (lt_notMem_escape _)⟩⟩
  rw [exchangeFailureTemplate, fill_two]
  unfold renderTokenExchangeFailurePage
  simp only [List.append_assoc]

/-! ## The payload of the success page -/

theorem neutralise_closing (t : Str) :
    neutralise ('<' :: '/' :: t) = '<' :: '\x5c' :: '/' :: neutralise t := rfl

theorem neutralise_cons {c : Char} {t : Str} (other : c ≠ '<' ∨ t.head? ≠ some '/') :
    neutralise (c :: t) = c :: neutralise t := by
  rw [neutralise.eq_2]
  rintro rest rfl rfl
  simp at other

theorem neutralise_append {s : Str} (plain : '<' ∉ s) (t : Str) :
    neutralise (s ++ t) = s ++ neutralise t := by
  induction s with
  | nil => rfl
  | cons c rest ih =>
    rw [List.mem_cons, not_or] at plain
    obtain ⟨first, later⟩ := plain
    rw [List.cons_append, neutralise_cons (.inl (Ne.symm first)), ih later, List.cons_append]

theorem head_neutralise (s : Str) : (neutralise s).head? = s.head? := by
  cases s using neutralise.fun_cases_unfolding with
  | case1 rest => rfl
  | case2 c rest other => rfl
  | case3 => rfl

/-- The rewriting removes every `</`. -/
theorem closing_notInfix_neutralise (s : Str) : ¬ ['<', '/'] <:+: neutralise s := by
  induction s using neutralise.induct with
  | case1 rest ih =>
    rw [neutralise_closing]
    simp [List.infix_cons_iff, List.cons_prefix_cons, ih]
  | case2 c rest other ih =>
    have next : c ≠ '<' ∨ rest.head? ≠ some '/' := by
      by_contra both
      rw [not_or, not_not, not_not] at both
      obtain ⟨tail, rfl⟩ : ∃ tail, rest = '/' :: tail := List.head?_eq_some_iff.mp both.2
      exact other tail both.1 rfl
    rw [neutralise_cons next, List.infix_cons_iff, not_or]
    refine ⟨fun starts => ?_, ih⟩
    obtain ⟨rfl, slash⟩ := List.cons_prefix_cons.mp starts
    have head : (neutralise rest).head? = some '/' := by
      obtain ⟨tail, text⟩ := slash
      rw [← text]
      rfl
    rw [head_neutralise] at head
    exact next.elim (fun ne => ne rfl) fun ne => ne head
  | case3 => simp [neutralise]

theorem lt_notMem_dumpsChar {c : Char} (other : c ≠ '<') : '<' ∉ dumpsChar c := by
  have digits : ∀ k < 16, hexDigitLower k ≠ '<' := by decide
  have escape (n : Nat) : '<' ∉ unicodeEscape n := by
    have digit (m : Nat) := digits (m % 16) (Nat.mod_lt m (by decide))
    simp [unicodeEscape, (digit _).symm]
  unfold dumpsChar
  split_ifs
  · simp [other.symm]
  · simp
  · simp
  · simp
  · simp
  · simp
  · simp [other.symm]
  · exact escape _
  · rw [List.mem_append, not_or]
    exact ⟨escape _, escape _⟩

theorem neutralise_transparent : Json.Transparent neutralise where
  empty := rfl
  structural c inside t := by
    have plain : ∀ c ∈ Json.outside, c ≠ '<' := Json.forall_chars (by decide)
    exact neutralise_cons (.inl (plain c inside))
  literal c t := by
    by_cases same : c = '<'
    · subst same
      have written : dumpsChar '<' = ['<'] := by decide
      have unit (t : Str) : Json.units ('<' :: t) =
          (Json.units t).map fun read => ('<'.toNat :: read.1, read.2) :=
        Json.units_plain (by decide) (by decide) (by decide) t
      rw [written, List.singleton_append]
      cases t with
      | nil => rfl
      | cons d rest =>
        by_cases closing : d = '/'
        · -- the slash is escaped, and is read as itself
          subst closing
          have slash : Json.units ('/' :: neutralise rest) =
              Json.units ('\x5c' :: '/' :: neutralise rest) :=
            (Json.units_plain (by decide) (by decide) (by decide) _).trans
              (Json.units_escaped rfl _).symm
          rw [neutralise_closing, unit, ← slash, neutralise_cons (.inl (by decide))]
          rfl
        · rw [neutralise_cons (.inr (by simpa using closing)), unit]
          rfl
    · rw [neutralise_append (lt_notMem_dumpsChar same), Json.units_dumpsChar]

theorem length_le_neutralise (s : Str) : s.length ≤ (neutralise s).length := by
  induction s using neutralise.induct with
  | case1 rest ih => rw [neutralise_closing]; simp; omega
  | case2 c rest other ih => rw [neutralise.eq_2 c rest other]; simpa using ih
  | case3 => exact Nat.le_refl 0

/-- `json.dumps` of a dictionary of texts. -/
theorem dumpsDict_eq (repr : Rat → Str) (fields : List (Str × Str)) :
    dumpsDict fields =
      (Json.Value.obj (fields.map fun field => (field.1, .str field.2))).dumps repr := by
  rw [Json.Value.dumps, Json.dumpsFields_eq, List.map_map]
  rfl

/-- A dictionary of texts is read back from the rewritten payload. -/
theorem loads_neutralise {fields : List (Str × Str)} (names : (fields.map Prod.fst).Nodup) :
    Json.loads (neutralise (dumpsDict fields)) =
      some (.obj (fields.map fun field => (field.1, .str field.2))) := by
  rw [dumpsDict_eq fun _ => []]
  refine Json.loads_dumps neutralise_transparent _ (.obj ?_ ?_) length_le_neutralise
  · simpa [Function.comp_def] using names
  · intro field member
    obtain ⟨pair, -, rfl⟩ := List.mem_map.mp member
    exact .str _

def successPayload (serverName : Str) : Str :=
  neutralise (dumpsDict [("type".toList, "mcp-auth-complete".toList), ("server".toList, serverName)])

def successBefore : Str :=
  "<html><body><h2>Authorization successful</h2>".toList ++
    "<p>You can close this window.</p>".toList ++ "<script>".toList ++
    "window.opener?.postMessage(".toList

def successAfter : Str :=
  ", \"*\");".toList ++ "setTimeout(function() \x7b window.close(); \x7d, 1000);".toList ++
    "</script></body></html>".toList

/-- No outside text adds markup to an OAuth page, and the payload of the success page
neither closes its script nor changes the server name. -/
theorem oauthPages_contained :
    (∀ message status, OnlyTemplateMarkup errorTemplate (renderErrorPage message status).content) ∧
    (∀ heading status detail, OnlyTemplateMarkup (messageTemplate !detail.isEmpty)
      (renderSimpleMessagePage heading status detail).content) ∧
    (∀ bodyText status, OnlyTemplateMarkup exchangeFailureTemplate
      (renderTokenExchangeFailurePage bodyText status).content) ∧
    ∀ serverName, ∃ payload, renderCallbackSuccessPage serverName =
        successBefore ++ payload ++ successAfter ∧
      ¬ ['<', '/'] <:+: payload ∧
      Json.loads payload = some (.obj [("type".toList, Json.text "mcp-auth-complete"),
        ("server".toList, .str serverName)]) := by
  have names : ["type".toList, "server".toList].Nodup := by decide
  refine ⟨renderErrorPage_markup, renderSimpleMessagePage_markup,
    renderTokenExchangeFailurePage_markup, fun serverName => ⟨successPayload serverName, ?_,
      closing_notInfix_neutralise _, loads_neutralise names⟩⟩
  unfold renderCallbackSuccessPage successBefore successAfter successPayload
  simp only [List.append_assoc]

end OrchidApi

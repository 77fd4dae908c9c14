import OrchidApi.Text

/-! JSON values and Python dictionaries with string keys, in insertion order. -/
namespace Json
open Text

inductive Value where
  | null
  | bool (b : Bool)
  | num (n : Int)
  | real (q : Rat)
  | str (s : Str)
  | arr (items : List Value)
  | obj (fields : List (Str × Value))

abbrev Dict := List (Str × Value)

def text (s : String) : Value := .str s.toList

def strings (items : List Str) : Value := .arr (items.map .str)

/-- `{**base, **extra}`: shared keys keep their place and take the later value. -/
def merge (base extra : Dict) : Dict :=
  base.map (fun entry => (entry.1, (extra.lookup entry.1).getD entry.2)) ++
    extra.filter (fun entry => (base.lookup entry.1).isNone)

theorem lookup_merge_absent (base extra : Dict) (key : Str) (absent : extra.lookup key = none) :
    (merge base extra).lookup key = base.lookup key := by
  have head : ∀ rest : Dict,
      (rest.map fun entry => (entry.1, (extra.lookup entry.1).getD entry.2)).lookup key =
        rest.lookup key := by
    intro rest
    induction rest with
    | nil => rfl
    | cons entry rest ih =>
      obtain ⟨name, value⟩ := entry
      by_cases same : key = name
      · subst same; simp [absent]
      · simp [List.lookup_cons, beq_eq_false_iff_ne.mpr same, ih]
  have tail : (extra.filter fun entry => (base.lookup entry.1).isNone).lookup key = none := by
    simp only [List.lookup_eq_none_iff] at absent ⊢
    intro entry member
    exact absent entry (List.mem_of_mem_filter member)
  simp [merge, List.lookup_append, head, tail]

end Json

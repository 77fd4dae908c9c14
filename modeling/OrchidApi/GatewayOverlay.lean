import OrchidApi.McpGateway

/-! The resolved gateway configuration is the base with the variables of the environment laid
over it, in whatever order they come, and the base is left as it was. -/
namespace OrchidApi
open Text Overlay

/-! ## Which variables name a field of a tool -/

def IsToolName (t : Str) : Prop := t ≠ [] ∧ ∀ c ∈ t, isToolChar c = true

def toolVariable (t : Str) (field : ToolField) : Str := toolPrefix ++ t ++ '_' :: field.upper

theorem suffix_unique {t u : Str} {field other : ToolField}
    (same : t ++ '_' :: field.upper = u ++ '_' :: other.upper) : t = u ∧ field = other := by
  -- the fields end in different letters
  have last (t : Str) (field : ToolField) :
      (t ++ '_' :: field.upper).getLast? = some (if field = .title then 'E' else 'N') := by
    rw [List.getLast?_append]
    cases field <;> rfl
  have ends := (last t field).symm.trans ((congrArg List.getLast? same).trans (last u other))
  have alike : field = other := by
    cases field <;> cases other
    · rfl
    · exact absurd (Option.some.inj ends) (by decide)
    · exact absurd (Option.some.inj ends) (by decide)
    · rfl
  subst alike
  exact ⟨List.append_cancel_right same, rfl⟩

theorem fieldAt_eq {s : Str} {field : ToolField} (plain : '\n' ∉ s) (found : fieldAt s = some field) :
    s = '_' :: field.upper := by
  have matched := List.find?_some found
  rw [Bool.and_eq_true, startsWith_iff] at matched
  obtain ⟨⟨rest, rfl⟩, ends⟩ := matched
  have length : field.upper.length + 1 = ('_' :: field.upper).length := rfl
  rw [length, List.drop_left, Bool.or_eq_true, beq_iff_eq, beq_iff_eq] at ends
  rcases ends with rfl | rfl
  · exact List.append_nil _
  · simp at plain

/-- A split is one into tool characters and a field. -/
theorem splitField_sound {s t : Str} {field : ToolField} (plain : '\n' ∉ s)
    (found : splitField s = some (t, field)) :
    (∀ c ∈ t, isToolChar c = true) ∧ s = t ++ '_' :: field.upper := by
  induction s generalizing t with
  | nil => cases found
  | cons c rest ih =>
    have here : ((fieldAt (c :: rest)).map fun field => (([] : Str), field)) = some (t, field) →
        (∀ c ∈ t, isToolChar c = true) ∧ c :: rest = t ++ '_' :: field.upper := by
      intro stops
      obtain ⟨other, at', same⟩ := Option.map_eq_some_iff.mp stops
      cases same
      exact ⟨nofun, fieldAt_eq plain at'⟩
    rw [splitField] at found
    split at found
    · rename_i tool
      rcases Option.or_eq_some_iff.mp found with further | ⟨-, stops⟩
      · obtain ⟨⟨u, other⟩, split, same⟩ := Option.map_eq_some_iff.mp further
        cases same
        obtain ⟨chars, text⟩ := ih (fun member => plain (.tail _ member)) split
        exact ⟨List.forall_mem_cons.mpr ⟨tool, chars⟩, by rw [text]; rfl⟩
      · exact here stops
    · exact here found

/-- No split is missed. -/
theorem splitField_complete {t : Str} (tool : ∀ c ∈ t, isToolChar c = true) (field : ToolField) :
    (splitField (t ++ '_' :: field.upper)).isSome = true := by
  induction t with
  | nil => cases field <;> decide
  | cons c rest ih =>
    have further := ih fun d member => tool d (.tail _ member)
    rw [List.cons_append, splitField, if_pos (tool c (.head _))]
    simp [further]

theorem splitField_iff {s t : Str} {field : ToolField} (plain : '\n' ∉ s) :
    splitField s = some (t, field) ↔
      (∀ c ∈ t, isToolChar c = true) ∧ s = t ++ '_' :: field.upper := by
  refine ⟨splitField_sound plain, ?_⟩
  rintro ⟨tool, rfl⟩
  obtain ⟨⟨u, other⟩, found⟩ := Option.isSome_iff_exists.mp (splitField_complete tool field)
  obtain ⟨rfl, rfl⟩ := suffix_unique (splitField_sound plain found).2
  exact found

/-- The pattern accepts the variables of tools, and reads each in one way. -/
theorem toolEnvMatch_iff {key t : Str} {field : ToolField} (plain : '\n' ∉ key) :
    toolEnvMatch key = some (t, field) ↔ IsToolName t ∧ key = toolVariable t field := by
  have begins (s : Str) : startsWith (toolPrefix ++ s) toolPrefix = true := by simp
  constructor
  · intro found
    rw [toolEnvMatch] at found
    split at found
    · rename_i starts
      obtain ⟨rest, rfl⟩ := (startsWith_iff _ _).mp starts
      rw [List.drop_left] at found
      cases rest with
      | nil => cases found
      | cons c rest =>
        simp only at found
        split at found
        · rename_i tool
          obtain ⟨⟨u, other⟩, split, same⟩ := Option.map_eq_some_iff.mp found
          cases same
          have plain' : '\n' ∉ rest := fun member =>
            plain (List.mem_append_right _ (.tail _ member))
          obtain ⟨chars, rfl⟩ := (splitField_iff plain').mp split
          refine ⟨⟨List.cons_ne_nil _ _, List.forall_mem_cons.mpr ⟨tool, chars⟩⟩, ?_⟩
          rw [toolVariable, List.append_assoc, List.cons_append]
        · cases found
    · cases found
  · rintro ⟨⟨some, tool⟩, rfl⟩
    obtain ⟨c, rest, rfl⟩ := List.exists_cons_of_ne_nil some
    obtain ⟨first, others⟩ := List.forall_mem_cons.mp tool
    rw [toolVariable, List.append_assoc] at plain ⊢
    have plain' : '\n' ∉ rest ++ '_' :: field.upper := fun member =>
      plain (List.mem_append_right _ (.tail _ member))
    rw [toolEnvMatch, if_pos (begins _), List.drop_left, List.cons_append]
    simp only [if_pos first, (splitField_iff plain').mpr ⟨others, rfl⟩, Option.map_some]

theorem toolChar_folds {c : Char} (tool : isToolChar c = true) : c.toLower.toUpper = c := by
  have ascii : c.toNat < 128 := by
    rw [isToolChar, Bool.or_eq_true, Bool.or_eq_true] at tool
    rcases tool with (upper | digit) | underscore
    · delta Char.isUpper at upper
      have bound : c.toNat ≤ 'Z'.toNat := (of_decide_eq_true upper).2
      exact Nat.lt_of_le_of_lt bound (by decide)
    · exact Nat.lt_of_le_of_lt (Char.isDigit_iff_toNat.mp digit).2 (by decide)
    · rw [beq_iff_eq.mp underscore]; decide
  have every : ∀ n < 128, isToolChar (Char.ofNat n) = true →
      (Char.ofNat n).toLower.toUpper = Char.ofNat n := by decide
  have named := every c.toNat ascii
  rw [Char.ofNat_toNat] at named
  exact named tool

/-- Names that are folded to one tool are one name. -/
theorem lower_inj {t u : Str} (first : IsToolName t) (second : IsToolName u) (same : lower t = lower u) :
    t = u := by
  have folds {s : Str} (name : IsToolName s) : (lower s).map Char.toUpper = s := by
    rw [lower, List.map_map]
    exact (List.map_congr_left fun c member => toolChar_folds (name.2 c member)).trans (List.map_id s)
  rw [← folds first, same, folds second]

/-! ## The tools as records -/

def ToolOverride.get (o : ToolOverride) : ToolField → Option Str
  | .title => o.title
  | .description => o.description

/-- The two fields as an overlay sets them. -/
def overrideFields : Fields ToolOverride ToolField (Option Str) where
  get := ToolOverride.get
  set
    | o, .title, value => { o with title := value }
    | o, .description, value => { o with description := value }
  get_set o field value other := by cases field <;> cases other <;> rfl

/-- What an entry of the environment updates. -/
def updateOf (entry : Str × Str) : Option (Update Str ToolField (Option Str)) :=
  (toolEnvMatch entry.1).map fun split => ⟨lower split.1, split.2, some entry.2⟩

section Gateway
variable {π : Type}

/-- The tool of a name, as the object that its reference stands for. -/
def GatewayHeap.tool (heap : GatewayHeap π) (tools : List (Str × Nat)) (name : Str) :
    Option ToolOverride :=
  (tools.lookup name).bind fun ref => heap.overrides[ref]?

/-- The records of a state whose references are all to objects newer than `heap`. -/
structure Overlaid (heap : GatewayHeap π) (records : Str → Option ToolOverride)
    (state : GatewayHeap π × List (Str × Nat)) : Prop where
  prompts : state.1.prompts = heap.prompts
  kept : heap.overrides <+: state.1.overrides
  own : ∀ entry ∈ state.2, heap.overrides.length ≤ entry.2 ∧ entry.2 < state.1.overrides.length
  records : state.1.tool state.2 = records

theorem addOverride_kept (heap : GatewayHeap π) (o : ToolOverride) {ref : Nat}
    (live : ref < heap.overrides.length) :
    (heap.addOverride o).1.overrides[ref]? = heap.overrides[ref]? :=
  List.getElem?_append_left live

theorem addOverride_new (heap : GatewayHeap π) (o : ToolOverride) :
    (heap.addOverride o).1.overrides[(heap.addOverride o).2]? = some o :=
  List.getElem?_concat_length

theorem tool_cons (heap : GatewayHeap π) (name : Str) (ref : Nat) (tools : List (Str × Nat))
    (other : Str) : heap.tool ((name, ref) :: tools) other =
      if other == name then heap.overrides[ref]? else heap.tool tools other := by
  rw [GatewayHeap.tool, List.lookup_cons]
  cases other == name <;> rfl

/-- A new object changes no live tool. -/
theorem tool_addOverride (heap : GatewayHeap π) (o : ToolOverride) {tools : List (Str × Nat)}
    (live : ∀ entry ∈ tools, entry.2 < heap.overrides.length) :
    (heap.addOverride o).1.tool tools = heap.tool tools := by
  funext name
  rw [GatewayHeap.tool, GatewayHeap.tool]
  cases found : tools.lookup name with
  | none => rfl
  | some ref =>
    obtain ⟨before, after, rfl, -⟩ := List.lookup_eq_some_iff.mp found
    exact addOverride_kept heap o (live (name, ref) (by simp))

theorem copyTools_overlaid (heap : GatewayHeap π) {tools : List (Str × Nat)}
    (live : ∀ entry ∈ tools, entry.2 < heap.overrides.length) :
    Overlaid heap (heap.tool tools) (copyTools heap tools) := by
  induction tools generalizing heap with
  | nil => exact ⟨rfl, List.prefix_rfl, nofun, rfl⟩
  | cons entry rest ih =>
    obtain ⟨name, ref⟩ := entry
    obtain ⟨here, later⟩ := List.forall_mem_cons.mp live
    have found : heap.overrides[ref]? = some heap.overrides[ref] := List.getElem?_eq_getElem here
    generalize heap.overrides[ref] = o at found
    have room : (heap.addOverride o).1.overrides.length = heap.overrides.length + 1 :=
      List.length_append
    have copied := ih (heap.addOverride o).1 fun entry member => by
      have := later entry member
      omega
    have longer := copied.kept.length_le
    have step : copyTools heap ((name, ref) :: rest) =
        ((copyTools (heap.addOverride o).1 rest).1,
          (name, heap.overrides.length) :: (copyTools (heap.addOverride o).1 rest).2) := by
      rw [copyTools, found]
      rfl
    rw [step]
    constructor
    · exact copied.prompts
    · exact (List.prefix_append _ _).trans copied.kept
    · intro entry member
      rcases List.mem_cons.mp member with rfl | inside
      · exact ⟨Nat.le_refl _, Nat.lt_of_lt_of_le (by omega) longer⟩
      · obtain ⟨above, below⟩ := copied.own entry inside
        exact ⟨by omega, below⟩
    · funext other
      have held : (copyTools (heap.addOverride o).1 rest).1.overrides[heap.overrides.length]? = some o := by
        obtain ⟨more, whole⟩ := copied.kept
        rw [← whole, List.getElem?_append_left (by omega)]
        exact addOverride_new heap o
      rw [tool_cons, tool_cons, copied.records, tool_addOverride heap o later, found, held]

/-- Giving a name a new object sets its record and no other. -/
theorem Overlaid.write {heap : GatewayHeap π} {records : Str → Option ToolOverride}
    {state : GatewayHeap π × List (Str × Nat)} (overlaid : Overlaid heap records state) (name : Str)
    (o : ToolOverride) :
    Overlaid heap (fun other => if other = name then some o else records other)
      ((state.1.addOverride o).1, assign state.2 name (state.1.addOverride o).2) := by
  have live : ∀ entry ∈ state.2, entry.2 < state.1.overrides.length := fun entry member =>
    (overlaid.own entry member).2
  have room : (state.1.addOverride o).1.overrides.length = state.1.overrides.length + 1 :=
    List.length_append
  constructor
  · exact overlaid.prompts
  · exact overlaid.kept.trans (List.prefix_append _ _)
  · intro named member
    have longer := overlaid.kept.length_le
    rw [room]
    rcases mem_assign member with rfl | inside
    · exact ⟨longer, Nat.lt_succ_self _⟩
    · obtain ⟨above, below⟩ := overlaid.own named inside
      exact ⟨above, Nat.lt_succ_of_lt below⟩
  · funext other
    have kept := congrFun (tool_addOverride state.1 o live) other
    rw [GatewayHeap.tool] at kept ⊢
    rw [lookup_assign]
    by_cases same : other = name
    · subst same
      simp only [beq_self_eq_true, if_true, Option.bind_some]
      exact addOverride_new state.1 o
    · simp only [beq_eq_false_iff_ne.mpr same, Bool.false_eq_true, if_false, if_neg same, kept,
        overlaid.records]

variable (lib : GatewayLibrary π)

theorem overlayEntry_overlaid {heap : GatewayHeap π} {records : Str → Option ToolOverride}
    {state : GatewayHeap π × List (Str × Nat)} (overlaid : Overlaid heap records state)
    (entry : Str × Str) :
    Overlaid heap (putAll overrideFields lib.fresh records (updateOf entry).toList)
      (overlayEntry lib state entry) := by
  unfold overlayEntry updateOf
  cases toolEnvMatch entry.1 with
  | none => exact overlaid
  | some split =>
    obtain ⟨toolUpper, field⟩ := split
    have current : (state.2.lookup (lower toolUpper)).bind (fun ref => state.1.overrides[ref]?) =
        records (lower toolUpper) := by
      rw [← overlaid.records]
      rfl
    have set (o : ToolOverride) : o.update field entry.2 = overrideFields.set o field (some entry.2) := by
      cases field <;> rfl
    have same : put overrideFields lib.fresh records ⟨lower toolUpper, field, some entry.2⟩ =
        fun other => if other = lower toolUpper then
          some (overrideFields.set ((records (lower toolUpper)).getD lib.fresh) field (some entry.2))
        else records other := by
      funext other
      rw [put]
      by_cases here : other = lower toolUpper
      · rw [here]
      · rw [if_neg here, if_neg here]
    simp only [current, set]
    change Overlaid heap (put overrideFields lib.fresh records _) _
    rw [same]
    exact overlaid.write _ _

theorem overlay_overlaid {heap : GatewayHeap π} {records : Str → Option ToolOverride}
    {state : GatewayHeap π × List (Str × Nat)} (overlaid : Overlaid heap records state)
    (env : List (Str × Str)) :
    Overlaid heap (putAll overrideFields lib.fresh records (env.filterMap updateOf))
      (env.foldl (overlayEntry lib) state) := by
  induction env generalizing records state with
  | nil => exact overlaid
  | cons entry later ih =>
    have step := ih (overlayEntry_overlaid lib overlaid entry)
    have order : putAll overrideFields lib.fresh records ((entry :: later).filterMap updateOf) =
        putAll overrideFields lib.fresh
          (putAll overrideFields lib.fresh records (updateOf entry).toList)
          (later.filterMap updateOf) := by
      rw [List.filterMap_cons]
      cases updateOf entry <;> rfl
    rwa [List.foldl_cons, order]

/-! ## The resolved configuration -/

/-- A configuration whose references are to objects of its heap. -/
structure GatewaySnapshot (π : Type) where
  heap : GatewayHeap π
  config : GatewayConfig
  toolsLive : ∀ entry ∈ config.tools, entry.2 < heap.overrides.length
  promptsLive : ∀ ref ∈ config.prompts, ref < heap.prompts.length

/-- The environment sets the field of the tool. -/
def Sets (env : List (Str × Str)) (name : Str) (field : ToolField) (value : Str) : Prop :=
  ∃ t, IsToolName t ∧ lower t = name ∧ env.lookup (toolVariable t field) = some value

theorem updateOf_iff {entry : Str × Str} (plain : '\n' ∉ entry.1)
    {u : Update Str ToolField (Option Str)} :
    updateOf entry = some u ↔ ∃ t, IsToolName t ∧ lower t = u.key ∧
      entry.1 = toolVariable t u.field ∧ u.value = some entry.2 := by
  rw [updateOf, Option.map_eq_some_iff]
  constructor
  · rintro ⟨⟨t, field⟩, found, rfl⟩
    obtain ⟨named, key⟩ := (toolEnvMatch_iff plain).mp found
    exact ⟨t, named, rfl, key, rfl⟩
  · rintro ⟨t, named, folded, key, value⟩
    refine ⟨(t, u.field), (toolEnvMatch_iff plain).mpr ⟨named, key⟩, ?_⟩
    rw [folded, ← value]

theorem mem_updates_iff {env : List (Str × Str)} (mapping : (env.map Prod.fst).Nodup)
    (plain : ∀ entry ∈ env, '\n' ∉ entry.1) {u : Update Str ToolField (Option Str)} :
    u ∈ env.filterMap updateOf ↔ ∃ value, u.value = some value ∧ Sets env u.key u.field value := by
  rw [List.mem_filterMap]
  constructor
  · rintro ⟨⟨name, value⟩, member, update⟩
    obtain ⟨t, named, folded, rfl, written⟩ := (updateOf_iff (plain _ member)).mp update
    exact ⟨value, written, t, named, folded, (lookup_eq_some_iff_mem mapping).mpr member⟩
  · rintro ⟨value, written, t, named, folded, found⟩
    have member := (lookup_eq_some_iff_mem mapping).mp found
    exact ⟨_, member, (updateOf_iff (plain _ member)).mpr ⟨t, named, folded, rfl, written⟩⟩

/-- No two variables set one field of one tool. -/
theorem updates_once {env : List (Str × Str)} (mapping : (env.map Prod.fst).Nodup)
    (plain : ∀ entry ∈ env, '\n' ∉ entry.1) :
    ((env.filterMap updateOf).map fun u => (u.key, u.field)).Nodup := by
  rw [List.Nodup, List.pairwise_map, List.pairwise_filterMap]
  rw [List.Nodup, List.pairwise_map] at mapping
  refine mapping.imp_of_mem fun {a b} first second apart u from_a v from_b same => apart ?_
  obtain ⟨t, named, folded, name, -⟩ := (updateOf_iff (plain a first)).mp from_a
  obtain ⟨t', named', folded', name', -⟩ := (updateOf_iff (plain b second)).mp from_b
  obtain ⟨key, field⟩ := Prod.mk.inj same
  rw [name, name', lower_inj named named' (folded.trans (key.trans folded'.symm)), field]

theorem addPrompts_read (heap : GatewayHeap π) (prompts : List π) :
    (heap.addPrompts prompts).2.map (fun ref => (heap.addPrompts prompts).1.prompts[ref]?) =
      prompts.map some := by
  rw [GatewayHeap.addPrompts, List.map_map]
  apply List.ext_getElem
  · simp
  · intro i first second
    simp at first second
    simp [first]

/-- Copied prompts are the prompts. -/
theorem copyPrompts_same (heap : GatewayHeap π) {prompts : List Nat}
    (live : ∀ ref ∈ prompts, ref < heap.prompts.length) :
    (copyPrompts heap prompts).2.map (fun ref => (copyPrompts heap prompts).1.prompts[ref]?) =
      prompts.map fun ref => heap.prompts[ref]? := by
  rw [copyPrompts, addPrompts_read]
  induction prompts with
  | nil => rfl
  | cons ref rest ih =>
    obtain ⟨here, later⟩ := List.forall_mem_cons.mp live
    rw [List.filterMap_cons, List.getElem?_eq_getElem here, List.map_cons, List.map_cons, ih later,
      List.getElem?_eq_getElem here]

/-- The configuration that an environment without a prompts file resolves to. -/
theorem resolve_eq (lib : GatewayLibrary π) (heap : GatewayHeap π) (base : GatewayConfig)
    {env : List (Str × Str)} (unset : (env.lookup promptsFileEnv).getD [] = []) :
    resolveMcpGatewayConfig lib heap base env =
      .ok ((copyPrompts (env.foldl (overlayEntry lib) (copyTools heap base.tools)).1 base.prompts).1,
        ⟨(env.foldl (overlayEntry lib) (copyTools heap base.tools)).2,
          (copyPrompts (env.foldl (overlayEntry lib) (copyTools heap base.tools)).1 base.prompts).2⟩) := by
  rw [resolveMcpGatewayConfig, unset]

/-- Without a prompts file the route always answers, with what is resolved. -/
theorem getMcpGatewayConfig_answers (lib : GatewayLibrary π) (heap : GatewayHeap π)
    (base : GatewayConfig) {env : List (Str × Str)}
    (unset : (env.lookup promptsFileEnv).getD [] = []) :
    ∃ answer, getMcpGatewayConfig lib heap base env = .ok answer ∧
      resolveMcpGatewayConfig lib heap base env = .ok answer := by
  rw [getMcpGatewayConfig, resolve_eq lib heap base unset]
  exact ⟨_, rfl, rfl⟩

def GatewaySnapshot.tool (snapshot : GatewaySnapshot π) : Str → Option ToolOverride :=
  snapshot.heap.tool snapshot.config.tools

theorem plain_toolVariable {t : Str} (named : IsToolName t) (field : ToolField) :
    '\n' ∉ toolVariable t field := by
  intro member
  rw [toolVariable, List.append_assoc, List.mem_append, List.mem_append] at member
  rcases member with prefixed | tool | suffixed
  · exact absurd prefixed (by decide)
  · exact absurd (named.2 _ tool) (by decide)
  · cases field <;> exact absurd suffixed (by decide)

section Records
variable {lib : GatewayLibrary π} {records resolved : Str → Option ToolOverride}
  {env : List (Str × Str)} (mapping : (env.map Prod.fst).Nodup)
  (plain : ∀ entry ∈ env, '\n' ∉ entry.1)
  (overlaid : resolved = putAll overrideFields lib.fresh records (env.filterMap updateOf))
include mapping plain overlaid

theorem tool_present_iff (name : Str) :
    (resolved name).isSome ↔ (records name).isSome ∨ ∃ field value, Sets env name field value := by
  rw [overlaid, isSome_putAll]
  refine or_congr_right ⟨?_, ?_⟩
  · rintro ⟨u, member, rfl⟩
    obtain ⟨value, -, sets⟩ := (mem_updates_iff mapping plain).mp member
    exact ⟨u.field, value, sets⟩
  · rintro ⟨field, value, sets⟩
    exact ⟨⟨name, field, some value⟩, (mem_updates_iff mapping plain).mpr ⟨value, rfl, sets⟩, rfl⟩

theorem tool_field {name : Str} {o : ToolOverride} (found : resolved name = some o) (field : ToolField) :
    (∀ value, Sets env name field value → o.get field = some value) ∧
      ((∀ value, ¬ Sets env name field value) →
        o.get field = ((records name).getD lib.fresh).get field) := by
  have read : o.get field = (lastValue name field (env.filterMap updateOf)).getD
      (((records name).getD lib.fresh).get field) := by
    have law := @get_putAll Str ToolField (Option Str) ToolOverride _ _ overrideFields lib.fresh
      records (env.filterMap updateOf) name field
    rwa [← overlaid, found] at law
  constructor
  · intro value sets
    have last : lastValue name field (env.filterMap updateOf) = some (some value) :=
      (lastValue_iff (updates_once mapping plain)).mpr
        ((mem_updates_iff mapping plain).mpr ⟨value, rfl, sets⟩)
    rw [read, last]
    rfl
  · intro unset
    cases last : lastValue name field (env.filterMap updateOf) with
    | none => rw [read, last]; rfl
    | some value =>
      obtain ⟨text, -, sets⟩ := (mem_updates_iff mapping plain).mp (mem_of_lastValue last)
      exact absurd sets (unset text)

end Records

/-- Each variable overrides its field of its tool, the rest is the base, and the base and its
objects stay as they were. -/
theorem gateway_config_overlays (lib : GatewayLibrary π) (snapshot : GatewaySnapshot π)
    {env : List (Str × Str)} (mapping : (env.map Prod.fst).Nodup)
    (plain : ∀ entry ∈ env, '\n' ∉ entry.1)
    (unset : (env.lookup promptsFileEnv).getD [] = []) :
    (∀ t field, IsToolName t → toolEnvMatch (toolVariable t field) = some (t, field)) ∧
    ∃ heap resolved, resolveMcpGatewayConfig lib snapshot.heap snapshot.config env =
        .ok (heap, resolved) ∧
      (∀ name, (heap.tool resolved.tools name).isSome ↔
        (snapshot.tool name).isSome ∨ ∃ field value, Sets env name field value) ∧
      (∀ name o, heap.tool resolved.tools name = some o → ∀ field,
        (∀ value, Sets env name field value → o.get field = some value) ∧
        ((∀ value, ¬ Sets env name field value) →
          o.get field = ((snapshot.tool name).getD lib.fresh).get field)) ∧
      resolved.prompts.map (fun ref => heap.prompts[ref]?) =
        snapshot.config.prompts.map (fun ref => snapshot.heap.prompts[ref]?) ∧
      snapshot.heap.overrides <+: heap.overrides ∧ snapshot.heap.prompts <+: heap.prompts ∧
      ∀ entry ∈ resolved.tools, snapshot.heap.overrides.length ≤ entry.2 := by
  refine ⟨fun t field named => (toolEnvMatch_iff (plain_toolVariable named field)).mpr ⟨named, rfl⟩, ?_⟩
  have overlaid := overlay_overlaid lib (copyTools_overlaid snapshot.heap snapshot.toolsLive) env
  refine ⟨_, _, resolve_eq lib _ _ unset, ?_⟩
  generalize env.foldl (overlayEntry lib) (copyTools snapshot.heap snapshot.config.tools) = state
    at overlaid ⊢
  have live : ∀ ref ∈ snapshot.config.prompts, ref < state.1.prompts.length := by
    rw [overlaid.prompts]
    exact snapshot.promptsLive
  have prompts := copyPrompts_same state.1 live
  refine ⟨tool_present_iff mapping plain overlaid.records,
    fun name o found => tool_field mapping plain overlaid.records found, ?_, overlaid.kept, ?_,
    fun entry member => (overlaid.own entry member).1⟩
  · rw [prompts, overlaid.prompts]
  · rw [← overlaid.prompts]
    exact List.prefix_append _ _

end Gateway

def gatewayLibrary : GatewayLibrary Str :=
  ⟨⟨none, none⟩, id, fun _ => .error .missing, fun _ => .error .other⟩

def gatewayBase : GatewaySnapshot Str where
  heap := ⟨[⟨some "Ask".toList, some "Kept".toList⟩], ["prompt".toList]⟩
  config := ⟨[("ask".toList, 0)], [0]⟩
  toolsLive := by decide
  promptsLive := by decide

def gatewayEnv : List (Str × Str) :=
  [("ORCHID_MCP_GATEWAY_TOOL_ASK_TITLE".toList, "Asked".toList), ("PATH".toList, "/bin".toList),
    ("ORCHID_MCP_GATEWAY_TOOL_X_TITLE_DESCRIPTION".toList, "New".toList)]

/-- A title that is overridden beside a description that is kept, and a tool whose own name
ends like a field. -/
theorem gateway_config_overlays_ask :
    ∃ heap resolved, resolveMcpGatewayConfig gatewayLibrary gatewayBase.heap gatewayBase.config
        gatewayEnv = .ok (heap, resolved) ∧
      (heap.tool resolved.tools "x_title".toList).isSome ∧
      ∀ o, heap.tool resolved.tools "ask".toList = some o → o.get .title = some "Asked".toList := by
  have plain : ∀ entry ∈ gatewayEnv, '\n' ∉ entry.1 := by decide
  obtain ⟨-, heap, resolved, ok, present, values, -⟩ :=
    gateway_config_overlays gatewayLibrary gatewayBase (by decide) plain rfl
  refine ⟨heap, resolved, ok, (present _).mpr (.inr ⟨.description, "New".toList, ?_⟩),
    fun o found => (values _ o found .title).1 _ ?_⟩
  · exact ⟨"X_TITLE".toList, ⟨by decide, List.all_eq_true.mp (by decide)⟩, by decide, by decide⟩
  · exact ⟨"ASK".toList, ⟨by decide, List.all_eq_true.mp (by decide)⟩, by decide, by decide⟩

end OrchidApi

import OrchidApi.Effects
import OrchidApi.Overlay

/-! `mcp_gateway.py` and its route: the configuration of the MCP gateway with what the
environment and a prompts file lay over it. -/
namespace OrchidApi
open Text

/-! ## Names of variables -/

def promptsFileEnv : Str := "ORCHID_MCP_GATEWAY_PROMPTS_FILE".toList
def toolPrefix : Str := "ORCHID_MCP_GATEWAY_TOOL_".toList

inductive ToolField where
  | title
  | description
  deriving DecidableEq, Repr

def ToolField.upper : ToolField → Str
  | .title => "TITLE".toList
  | .description => "DESCRIPTION".toList

/-- `[A-Z0-9_]` -/
def isToolChar (c : Char) : Bool := c.isUpper || c.isDigit || c == '_'

/-- `_(TITLE|DESCRIPTION)$`; the dollar also stands before a line feed that ends the text. -/
def fieldAt (s : Str) : Option ToolField :=
  [ToolField.title, ToolField.description].find? fun field =>
    startsWith s ('_' :: field.upper) &&
      (s.drop (field.upper.length + 1) == [] || s.drop (field.upper.length + 1) == ['\n'])

/-- `([A-Z0-9_]*)` as far as it goes, and back to where a field follows it. -/
def splitField : Str → Option (Str × ToolField)
  | [] => none
  | c :: rest =>
    let here := (fieldAt (c :: rest)).map fun field => ([], field)
    if isToolChar c then ((splitField rest).map fun split => (c :: split.1, split.2)).or here
    else here

/-- The groups of `_TOOL_ENV_RE.match(key)`. -/
def toolEnvMatch (key : Str) : Option (Str × ToolField) :=
  if startsWith key toolPrefix then
    match key.drop toolPrefix.length with
    | [] => none
    | c :: rest =>
      if isToolChar c then (splitField rest).map fun split => (c :: split.1, split.2) else none
  else none

/-! ## Objects -/

structure ToolOverride where
  title : Option Str
  description : Option Str
  deriving DecidableEq, Repr

/-- `override.model_copy(update={field: value})` -/
def ToolOverride.update (o : ToolOverride) (field : ToolField) (value : Str) : ToolOverride :=
  match field with
  | .title => { o with title := some value }
  | .description => { o with description := some value }

/-- Tools and prompts are references to objects of the heap. -/
structure GatewayConfig where
  tools : List (Str × Nat)
  prompts : List Nat

structure GatewayHeap (π : Type) where
  overrides : List ToolOverride
  prompts : List π

inductive YamlFailure where
  | missing
  | malformed (text : Str)
  | other

inductive GatewayError where
  | config (text : Str)
  | other
  deriving DecidableEq, Repr

/-- What stands outside the module: `OrchidMCPGatewayToolOverride()`, paths as text, YAML
files, and `OrchidMCPGatewayPrompt(**item)`. -/
structure GatewayLibrary (π : Type) where
  fresh : ToolOverride
  pathText : Str → Str
  readYaml : Str → Except YamlFailure Json.Value
  prompt : Json.Value → Except GatewayError π

section Gateway
variable {π : Type}

/-- A new object and the reference to it. -/
def GatewayHeap.addOverride (heap : GatewayHeap π) (o : ToolOverride) : GatewayHeap π × Nat :=
  ({ heap with overrides := heap.overrides ++ [o] }, heap.overrides.length)

def GatewayHeap.addPrompts (heap : GatewayHeap π) (prompts : List π) : GatewayHeap π × List Nat :=
  ({ heap with prompts := heap.prompts ++ prompts },
    (List.range prompts.length).map (heap.prompts.length + ·))

/-- `{name: override.model_copy() for name, override in tools.items()}` -/
def copyTools (heap : GatewayHeap π) : List (Str × Nat) → GatewayHeap π × List (Str × Nat)
  | [] => (heap, [])
  | (name, ref) :: rest =>
    match heap.overrides[ref]? with
    | some o =>
      let copied := copyTools (heap.addOverride o).1 rest
      (copied.1, (name, (heap.addOverride o).2) :: copied.2)
    | none => copyTools heap rest

/-- `[p.model_copy(deep=True) for p in prompts]` -/
def copyPrompts (heap : GatewayHeap π) (prompts : List Nat) : GatewayHeap π × List Nat :=
  heap.addPrompts (prompts.filterMap fun ref => heap.prompts[ref]?)

variable (lib : GatewayLibrary π)

/-- One turn of the loop over the environment. -/
def overlayEntry (state : GatewayHeap π × List (Str × Nat)) (entry : Str × Str) :
    GatewayHeap π × List (Str × Nat) :=
  match toolEnvMatch entry.1 with
  | none => state
  | some (toolUpper, field) =>
    let toolName := lower toolUpper
    let current := ((state.2.lookup toolName).bind fun ref => state.1.overrides[ref]?).getD lib.fresh
    let (heap, ref) := state.1.addOverride (current.update field entry.2)
    (heap, Overlay.assign state.2 toolName ref)

def loadPromptsFile (file : Str) : Except GatewayError (List π) :=
  let path := lib.pathText file
  match lib.readYaml file with
  | .error .missing =>
    .error (.config (promptsFileEnv ++ " points to a file that does not exist: ".toList ++ path))
  | .error (.malformed text) =>
    .error (.config ("Failed to parse ".toList ++ path ++ " as YAML: ".toList ++ text))
  | .error .other => .error .other
  | .ok (.arr items) => items.mapM lib.prompt
  | .ok (.obj fields) =>
    match fields.lookup "prompts".toList with
    | some (.arr items) => items.mapM lib.prompt
    | _ => .error (.config (path ++
        ": must contain a top-level list or a dict with a 'prompts' key".toList))
  | .ok _ => .error (.config (path ++
      ": must contain a top-level list or a dict with a 'prompts' key".toList))

def resolveMcpGatewayConfig (heap : GatewayHeap π) (base : GatewayConfig) (env : List (Str × Str)) :
    Except GatewayError (GatewayHeap π × GatewayConfig) :=
  let (heap, tools) := env.foldl (overlayEntry lib) (copyTools heap base.tools)
  match (env.lookup promptsFileEnv).getD [] with
  | [] =>
    let (heap, prompts) := copyPrompts heap base.prompts
    .ok (heap, ⟨tools, prompts⟩)
  | file => do
    let loaded ← loadPromptsFile lib file
    let (heap, prompts) := heap.addPrompts loaded
    .ok (heap, ⟨tools, prompts⟩)

/-- `GET /mcp-gateway/config` -/
def getMcpGatewayConfig (heap : GatewayHeap π) (base : GatewayConfig) (env : List (Str × Str)) :
    Except Exn (GatewayHeap π × GatewayConfig) :=
  match resolveMcpGatewayConfig lib heap base env with
  | .ok resolved => .ok resolved
  | .error (.config text) => .error (.http 500 text)
  | .error .other => .error .other

end Gateway

end OrchidApi

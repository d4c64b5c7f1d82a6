import Mealy.Lib.Json
import Mealy.Lib.Separated
import Mealy.Store.Adapters
import Mealy.Store.Memory

/-! The configured tool servers (`mcp.rs`). A tool is exposed to the model under its server
and its name joined with a dot, and both names may hold dots themselves. -/

namespace Mealy.Mcp
open Transaction Json Channels

structure McpToolGrant where
  definition : Value
  definitionDigest : String
  (timeoutMs maximumOutputBytes : Nat)

structure McpServerConfig where
  serverId : String
  executablePath : String
  executableDigest : String
  arguments : List String
  toolsetDigest : String
  enabled : Bool
  tools : List McpToolGrant

inductive McpConfigError where
  | invalidServer | invalidToolGrant | invalidToolDefinition | invalidToolSchema
deriving DecidableEq

def nameChar (c : Char) : Bool := c.isAlphanum ∨ c ∈ ['_', '-', '.']

def validMcpName (value : String) (maximum : Nat) : Bool :=
  value ≠ "" ∧ value.utf8ByteSize ≤ maximum ∧ value.toList.all nameChar

mutual

def containsExternalSchemaReference : Value → Bool
  | .object fields => fieldsReferOutside fields
  | .array elements => elementsReferOutside elements
  | _ => false

def fieldsReferOutside : List (String × Value) → Bool
  | [] => false
  | (key, value) :: rest =>
    (key = "$ref" ∧ value.asString.all fun reference => reference.toList.head? ≠ some '#') ∨ key = "$id" ∨
      containsExternalSchemaReference value ∨ fieldsReferOutside rest

def elementsReferOutside : List Value → Bool
  | [] => false
  | value :: rest => containsExternalSchemaReference value ∨ elementsReferOutside rest

end

def invalidArgument (value : String) : Bool :=
  value.utf8ByteSize > 4096 ∨ value.toList.any fun c => c = '\x00' ∨ isControl c

def safeRelativePath (value : String) : Bool := Memories.hasNormalComponents value

def McpToolGrant.remoteName (grant : McpToolGrant) : String :=
  ((grant.definition.field "name").bind Value.asString).getD ""

def McpServerConfig.exposedToolId (server : McpServerConfig) (remoteName : String) : String :=
  "mcp." ++ server.serverId ++ "." ++ remoteName

section
variable (compiles : Value → Bool) (sha256 : String → String)

def inspectMcpToolDefinition (definition : Value) : Except McpConfigError String := do
  ensure definition.isObject .invalidToolDefinition
  let name ← require (((definition.field "name").bind Value.asString).filter (validMcpName · 64)) .invalidToolDefinition
  ensure (definition.size ≤ 256 * 1024 ∧
    ((definition.field "description").all fun description => description.asString.any fun text =>
      text.utf8ByteSize ≤ 4096 ∧ text.toList.all fun c => !isControl c) ∧
    (((definition.field "execution").bind (·.field "taskSupport")).bind Value.asString) ≠ some "required")
    .invalidToolDefinition
  let schema ← require ((definition.field "inputSchema").filter Value.isObject) .invalidToolDefinition
  ensure ((schema.field "type").bind Value.asString = some "object" ∧ !containsExternalSchemaReference schema ∧
    compiles schema) .invalidToolSchema
  ensure ((definition.field "outputSchema").all fun output =>
    output.isObject ∧ !containsExternalSchemaReference output ∧ compiles output) .invalidToolSchema
  pure name

def mcpToolDefinitionDigest (definition : Value) : Except McpConfigError String := do
  let _ ← inspectMcpToolDefinition compiles definition
  pure (sha256 definition.render)

def McpToolGrant.validate (grant : McpToolGrant) : Except McpConfigError Unit := do
  let _ ← inspectMcpToolDefinition compiles grant.definition
  let digest ← mcpToolDefinitionDigest compiles sha256 grant.definition
  ensure (digest = grant.definitionDigest ∧ (100 ≤ grant.timeoutMs ∧ grant.timeoutMs ≤ 60000) ∧
    1 ≤ grant.maximumOutputBytes ∧ grant.maximumOutputBytes ≤ 1024 * 1024) .invalidToolGrant

/-- The loop over the tools of a server, with the names it has seen. -/
def McpServerConfig.validateTools (server : McpServerConfig) (names : List String) :
    List McpToolGrant → Except McpConfigError Unit
  | [] => pure ()
  | tool :: rest => do
    tool.validate compiles sha256
    ensure (tool.remoteName ∉ names ∧ (server.exposedToolId tool.remoteName).utf8ByteSize ≤ 128) .invalidServer
    server.validateTools (tool.remoteName :: names) rest

def McpServerConfig.validate (server : McpServerConfig) : Except McpConfigError Unit := do
  ensure (validMcpName server.serverId 32 ∧ Memories.isSha256Digest server.executableDigest ∧
    server.executablePath = "mcp-servers/" ++ server.executableDigest ++ "/server" ∧
    safeRelativePath server.executablePath ∧ Memories.isSha256Digest server.toolsetDigest ∧
    server.arguments.length ≤ 64 ∧ (server.arguments.all fun argument => !invalidArgument argument) ∧
    (server.arguments.map String.utf8ByteSize).sum ≤ 32 * 1024 ∧ server.tools ≠ [] ∧ server.tools.length ≤ 64) .invalidServer
  server.validateTools compiles sha256 [] server.tools
  ensure ((server.tools.map McpToolGrant.remoteName).IsChain (· < ·)) .invalidServer

def validateMcpServerSet (servers : List McpServerConfig) : Except McpConfigError Unit := do
  ensure (servers.length ≤ 16 ∧ (servers.map McpServerConfig.serverId).IsChain (· < ·)) .invalidServer
  servers.forM (McpServerConfig.validate compiles sha256)

end

def validMcpToolId (toolId : String) : Bool :=
  "mcp.".toList.isPrefixOf toolId.toList && (splitOnce (· = '.') (String.ofList (toolId.toList.drop 4))).any
    fun (serverId, remoteName) =>
      serverId ≠ "" ∧ serverId.utf8ByteSize ≤ 32 ∧ remoteName ≠ "" ∧ remoteName.utf8ByteSize ≤ 64 ∧
        toolId.utf8ByteSize ≤ 128 ∧ toolId.toList.all nameChar

/-! ### What an accepted set is like -/

structure McpServerConfig.Named (server : McpServerConfig) : Prop where
  id : validMcpName server.serverId 32 = true
  tools : ∀ tool ∈ server.tools, validMcpName tool.remoteName 64 = true
  fits : ∀ tool ∈ server.tools, (server.exposedToolId tool.remoteName).utf8ByteSize ≤ 128
  nonempty : server.tools ≠ []
  sorted : (server.tools.map McpToolGrant.remoteName).IsChain (· < ·)

section
variable {compiles : Value → Bool} {sha256 : String → String}

theorem inspect_remoteName {grant : McpToolGrant} {name : String}
    (ok : inspectMcpToolDefinition compiles grant.definition = .ok name) : validMcpName grant.remoteName 64 = true := by
  simp only [inspectMcpToolDefinition, eq_ok] at ok
  obtain ⟨_, _, _, found, _⟩ := ok
  obtain ⟨stored, valid⟩ := Option.filter_eq_some_iff.mp found
  rw [McpToolGrant.remoteName, stored]
  exact valid

theorem validateTools_ok {server : McpServerConfig} {names tools}
    (ok : server.validateTools compiles sha256 names tools = .ok ()) :
    ∀ tool ∈ tools, validMcpName tool.remoteName 64 = true ∧ (server.exposedToolId tool.remoteName).utf8ByteSize ≤ 128 := by
  induction tools generalizing names with
  | nil => exact fun _ member => nomatch member
  | cons tool rest ih =>
    simp only [McpServerConfig.validateTools, McpToolGrant.validate, eq_ok] at ok
    obtain ⟨_, ⟨_, inspected, _⟩, _, ⟨_, fits⟩, others⟩ := ok
    intro other member
    rcases List.mem_cons.mp member with rfl | member
    · exact ⟨inspect_remoteName inspected, fits⟩
    · exact ih others other member

theorem validate_named {server : McpServerConfig} (ok : server.validate compiles sha256 = .ok ()) : server.Named := by
  simp only [McpServerConfig.validate, eq_ok] at ok
  obtain ⟨_, ⟨id, _, _, _, _, _, _, _, nonempty, _⟩, _, tools, sorted⟩ := ok
  have each := validateTools_ok tools
  exact ⟨id, fun tool member => (each tool member).1, fun tool member => (each tool member).2, nonempty, sorted⟩

end

theorem injOn_of_sorted {α} {f : α → String} {items : List α} (sorted : (items.map f).IsChain (· < ·))
    {left right : α} (first : left ∈ items) (last : right ∈ items) (same : f left = f right) : left = right :=
  List.inj_on_of_nodup_map (sorted.pairwise.imp fun less => ne_of_lt less) first last same

theorem validateMcpServerSet_ok {compiles sha256} {servers : List McpServerConfig}
    (ok : validateMcpServerSet compiles sha256 servers = .ok ()) :
    (∀ server ∈ servers, server.Named) ∧ (servers.map McpServerConfig.serverId).IsChain (· < ·) := by
  simp only [validateMcpServerSet, eq_ok] at ok
  obtain ⟨_, ⟨_, sorted⟩, each⟩ := ok
  exact ⟨fun server member => validate_named (forM_eq_ok.mp each server member), sorted⟩

/-! ### The exposed identities -/

theorem exposedToolId_toList (server : McpServerConfig) (name : String) :
    (server.exposedToolId name).toList = "mcp.".toList ++ (server.serverId.toList ++ '.' :: name.toList) := by
  simp [McpServerConfig.exposedToolId, String.toList_append]

theorem exposedToolId_eq_iff {left right : McpServerConfig} {name other : String} :
    left.exposedToolId name = right.exposedToolId other ↔
      left.serverId = right.serverId ∧ name = other ∨
      (∃ rest, right.serverId.toList = left.serverId.toList ++ '.' :: rest ∧ name.toList = rest ++ '.' :: other.toList) ∨
      ∃ rest, left.serverId.toList = right.serverId.toList ++ '.' :: rest ∧ other.toList = rest ++ '.' :: name.toList := by
  rw [← String.toList_inj, exposedToolId_toList, exposedToolId_toList, List.append_cancel_left_eq,
    Separated.append_cons_eq_iff, String.toList_inj, String.toList_inj]

/-- No server's id goes on, behind another's id and a dot, with the beginning of a tool name
of that other server; no id starts with a dot; and what an exposed identity has behind the
first dot of its server's id is not longer than a name. -/
structure ClearIds (servers : List McpServerConfig) : Prop where
  apart : ∀ left ∈ servers, ∀ right ∈ servers, ∀ rest, right.serverId.toList = left.serverId.toList ++ '.' :: rest →
    ∀ tool ∈ left.tools, ∀ other ∈ right.tools, tool.remoteName.toList ≠ rest ++ '.' :: other.remoteName.toList
  started : ∀ server ∈ servers, server.serverId.toList.head? ≠ some '.'
  short : ∀ server ∈ servers, ∀ first rest, server.serverId.toList = first ++ '.' :: rest → '.' ∉ first →
    ∀ tool ∈ server.tools, (String.ofList (rest ++ '.' :: tool.remoteName.toList)).utf8ByteSize ≤ 64

section
variable {server : McpServerConfig} {tool : McpToolGrant} {first rest : List Char}

theorem nameChar_exposed (named : server.Named) (member : tool ∈ server.tools) :
    (server.exposedToolId tool.remoteName).toList.all nameChar = true := by
  have id := named.id
  have name := named.tools tool member
  simp only [validMcpName, decide_eq_true_eq] at id name
  rw [exposedToolId_toList, List.all_append, List.all_append, List.all_cons, id.2.2, name.2.2]
  rfl

theorem validMcpToolId_iff (named : server.Named) (member : tool ∈ server.tools) (clean : '.' ∉ first)
    (split : server.serverId.toList ++ '.' :: tool.remoteName.toList = first ++ '.' :: rest) :
    validMcpToolId (server.exposedToolId tool.remoteName) = true ↔
      String.ofList first ≠ "" ∧ (String.ofList first).utf8ByteSize ≤ 32 ∧ String.ofList rest ≠ "" ∧
        (String.ofList rest).utf8ByteSize ≤ 64 := by
  have cut : splitOnce (· = '.') (String.ofList (first ++ '.' :: rest)) = some (String.ofList first, String.ofList rest) :=
    splitOnce_append (fun c inside => by simpa using ne_of_mem_of_not_mem inside clean) (by simp)
  have start : "mcp.".toList.isPrefixOf ("mcp.".toList ++ (first ++ '.' :: rest)) = true :=
    List.isPrefixOf_iff_prefix.mpr (List.prefix_append _ _)
  have behind : ("mcp.".toList ++ (first ++ '.' :: rest)).drop 4 = first ++ '.' :: rest := rfl
  have fits := named.fits tool member
  rw [validMcpToolId, nameChar_exposed named member, exposedToolId_toList, split, start, behind, cut]
  simp [fits]

theorem validMcpToolId_exposed (named : server.Named) (member : tool ∈ server.tools) :
    validMcpToolId (server.exposedToolId tool.remoteName) = true ↔
      server.serverId.toList.head? ≠ some '.' ∧ ∀ first rest, server.serverId.toList = first ++ '.' :: rest → '.' ∉ first →
        (String.ofList (rest ++ '.' :: tool.remoteName.toList)).utf8ByteSize ≤ 64 := by
  have id := named.id
  have name := named.tools tool member
  simp only [validMcpName, decide_eq_true_eq] at id name
  by_cases dotted : '.' ∈ server.serverId.toList
  · obtain ⟨first, rest, shape, clean⟩ := List.eq_append_cons_of_mem dotted
    have split : server.serverId.toList ++ '.' :: tool.remoteName.toList =
        first ++ '.' :: (rest ++ '.' :: tool.remoteName.toList) := by simp [shape]
    rw [validMcpToolId_iff named member clean split]
    have started : String.ofList first ≠ "" ↔ server.serverId.toList.head? ≠ some '.' := by
      rw [shape]
      cases first with
      | nil => simp
      | cons c _ => simpa using fun dot => clean (by simp [dot])
    have whole : server.serverId = String.ofList first ++ String.ofList ('.' :: rest) := by
      rw [← String.ofList_append, ← shape, String.ofList_toList]
    have front : (String.ofList first).utf8ByteSize ≤ 32 := by
      have total := id.2.1
      rw [whole, String.utf8ByteSize_append] at total
      omega
    rw [started]
    constructor
    · intro ⟨starts, _, _, short⟩
      refine ⟨starts, fun first' rest' shape' clean' => ?_⟩
      obtain ⟨_, rfl⟩ := Separated.append_cons_inj clean' clean (shape'.symm.trans shape)
      exact short
    · intro ⟨starts, short⟩
      exact ⟨starts, front, by simp, short first rest shape clean⟩
  · rw [validMcpToolId_iff named member dotted rfl]
    simp only [String.ofList_toList]
    constructor
    · intro _
      refine ⟨fun starts => dotted (List.mem_of_head? starts), fun first rest shape _ => ?_⟩
      exact absurd (shape ▸ List.mem_append_right _ List.mem_cons_self) dotted
    · intro _
      exact ⟨id.1, id.2.1, name.1, name.2.1⟩

end

/-- In an accepted set of servers the exposed identities of the tools are distinct and all
accepted exactly when the dots in the names leave them apart and short. -/
theorem exposedToolIds_clear_iff (compiles : Value → Bool) (sha256 : String → String) (servers : List McpServerConfig)
    (accepted : validateMcpServerSet compiles sha256 servers = .ok ()) :
    ((∀ left ∈ servers, ∀ tool ∈ left.tools, ∀ right ∈ servers, ∀ other ∈ right.tools,
        left.exposedToolId tool.remoteName = right.exposedToolId other.remoteName → left = right ∧ tool = other) ∧
      ∀ server ∈ servers, ∀ tool ∈ server.tools, validMcpToolId (server.exposedToolId tool.remoteName) = true) ↔
    ClearIds servers := by
  obtain ⟨named, sorted⟩ := validateMcpServerSet_ok accepted
  constructor
  · intro ⟨injective, valid⟩
    constructor
    · intro left first right last rest continued tool granted other listed same
      have collides := exposedToolId_eq_iff.mpr (.inr (.inl ⟨rest, continued, same⟩))
      obtain ⟨rfl, rfl⟩ := injective left first tool granted right last other listed collides
      simp at continued
    · intro server member
      obtain ⟨tool, granted⟩ := List.exists_mem_of_ne_nil _ (named server member).nonempty
      exact ((validMcpToolId_exposed (named server member) granted).mp (valid server member tool granted)).1
    · intro server member first rest shape clean tool granted
      exact ((validMcpToolId_exposed (named server member) granted).mp (valid server member tool granted)).2 _ _ shape clean
  · intro clear
    refine ⟨fun left first tool granted right last other listed same => ?_, fun server member tool granted => ?_⟩
    · rcases exposedToolId_eq_iff.mp same with ⟨ids, names⟩ | ⟨rest, continued, names⟩ | ⟨rest, continued, names⟩
      · obtain rfl := injOn_of_sorted sorted first last ids
        exact ⟨rfl, injOn_of_sorted (named left first).sorted granted listed names⟩
      · exact absurd names (clear.apart left first right last rest continued tool granted other listed)
      · exact absurd names (clear.apart right last left first rest continued other listed tool granted)
    · rw [validMcpToolId_exposed (named server member) granted]
      exact ⟨clear.started server member, fun first rest shape clean => clear.short server member first rest shape clean tool granted⟩

def plainTool (name : String) : McpToolGrant where
  definition := .object [("name", .string name), ("inputSchema", .object [("type", .string "object")])]
  definitionDigest := ""
  timeoutMs := 1000
  maximumOutputBytes := 1024

def digestOfZeros : String := "0000000000000000000000000000000000000000000000000000000000000000"

def plainServer (id tool : String) : McpServerConfig where
  serverId := id
  executablePath := "mcp-servers/" ++ digestOfZeros ++ "/server"
  executableDigest := digestOfZeros
  arguments := []
  toolsetDigest := digestOfZeros
  enabled := true
  tools := [plainTool tool]

/-- Two servers with dots in their names whose tools stay apart. -/
theorem exposedToolIds_clear_dotted :
    let servers := [plainServer "a.b" "c", plainServer "a.d" "e.f"]
    (∀ left ∈ servers, ∀ tool ∈ left.tools, ∀ right ∈ servers, ∀ other ∈ right.tools,
        left.exposedToolId tool.remoteName = right.exposedToolId other.remoteName → left = right ∧ tool = other) ∧
      ∀ server ∈ servers, ∀ tool ∈ server.tools, validMcpToolId (server.exposedToolId tool.remoteName) = true := by
  refine (exposedToolIds_clear_iff (fun _ => true) (fun _ => "") _ (by decide +kernel)).mpr
    ⟨by simp [plainServer], by simp [plainServer], fun server member first rest shape _ tool granted => ?_⟩
  have sizes : ∀ server ∈ [plainServer "a.b" "c", plainServer "a.d" "e.f"], ∀ tool ∈ server.tools,
      server.serverId.utf8ByteSize ≤ 3 ∧ tool.remoteName.utf8ByteSize ≤ 3 := by decide +kernel
  have id := (sizes server member tool granted).1
  rw [← String.ofList_toList (s := server.serverId), shape] at id
  have name := (sizes server member tool granted).2
  simp only [String.ofList_append, String.ofList_cons, String.utf8ByteSize_append, String.ofList_toList,
    String.utf8ByteSize_singleton] at id ⊢
  omega

/-- The tool `b.c` of the server `a` and the tool `c` of the server `a.b`. -/
theorem exposedToolIds_collide :
    let servers := [plainServer "a" "b.c", plainServer "a.b" "c"]
    validateMcpServerSet (fun _ => true) (fun _ => "") servers = .ok () ∧
    ∃ left ∈ servers, ∃ tool ∈ left.tools, ∃ right ∈ servers, ∃ other ∈ right.tools,
      left.exposedToolId tool.remoteName = right.exposedToolId other.remoteName ∧ left.serverId ≠ right.serverId := by
  refine ⟨by decide +kernel, plainServer "a" "b.c", by simp, _, List.mem_singleton_self _, plainServer "a.b" "c", by simp, _,
    List.mem_singleton_self _, by decide +kernel, by decide⟩

end Mealy.Mcp

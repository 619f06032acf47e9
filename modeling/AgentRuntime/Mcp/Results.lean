import AgentRuntime.Data.JsonText
import AgentRuntime.Data.Text
import AgentRuntime.Mcp.Protocol
import AgentRuntime.Tools.Executor

/-!
# Results of tools

Port of `mcp/result_parser.py` and of the checks that `mcp/client.py` makes on the result of a call or of
a tool list. Python's `repr` of a JSON value is a parameter.
-/

namespace AgentRuntime.Mcp
open Text

section Results

variable (limits : JsonLimits) (floats : FloatCodec) (pyRepr : Json → String)

/-- `str(value)` -/
def pyStr : Json → String
  | .str text => text
  | value => pyRepr value

/-- source `_maybe_json`; a text that is no JSON is kept as it is -/
def maybeJson (text : String) : Except McpError Json :=
  let stripped := strip text
  if stripped = "" then .ok (.str "")
  else if ["[", "\x7b", "\""].any fun mark => mark.toList.isPrefixOf stripped.toList then
    match limits.loads floats stripped with
    | .ok value => .ok value
    | .error .decode => .ok (.str text)
    | .error (.limit broken) => .error (.ofLimit broken)
  else .ok (.str text)

/-- An item of the content of a result: what a text has, and any other item as it is. -/
def contentItem : Json → Except McpError Json
  | .obj item =>
    match JsonObject.get? item "type" with
    | some (.str "text") =>
      match JsonObject.get? item "text" with
      | some value => maybeJson limits floats (if value.truthy then pyStr pyRepr value else "")
      | none => maybeJson limits floats ""
    | _ => .ok (.obj item)
  | item => .ok item

/-- source `_normalize` -/
def normalizeResult (result : JsonObject) : Except McpError Json :=
  match JsonObject.get? result "structuredContent" with
  | some value => .ok value
  | none =>
    match JsonObject.get? result "content" with
    | some (.arr content) => do
      match ← content.mapM (contentItem limits floats pyRepr) with
      | [item] => pure item
      | items => pure (.arr items)
    | _ => .ok (.obj result)

/-- The text of an error that is not in one of the known fields. -/
def otherError (data : Json) : String :=
  if data.truthy then pyStr pyRepr data else "MCP tool returned isError=true."

/-- source `_extract_error` -/
def extractError : Json → String
  | .obj data =>
    match (["error", "message", "detail"].filterMap (JsonObject.get? data)).find? Json.truthy with
    | some value => pyStr pyRepr value
    | none => otherError pyRepr (.obj data)
  | .arr items =>
    let joined := "; ".intercalate ((items.filter Json.truthy).map (pyStr pyRepr))
    if joined = "" then "MCP tool returned isError=true." else joined
  | data => otherError pyRepr data

/-- source `result.get("isError") is True` -/
def isError (result : JsonObject) : Bool :=
  match result.get? "isError" with
  | some (.bool value) => value
  | _ => false

/-- source `parse_tool_result`, with the tool that was called -/
def parseToolResult (tool : String) : Json → Except McpError Tools.MCPToolResult
  | .obj result => do
    let data ← normalizeResult limits floats pyRepr result
    pure
      { tool := tool
        ok := !isError result
        data := data
        error := if isError result then some (extractError pyRepr data) else none }
  | result => .ok { tool := tool, ok := true, data := result }

end Results

section Tools

variable (pyRepr : Json → String)

/-- source `_validate_tool_definition` -/
def validateToolDefinition : Json → Except McpError JsonObject
  | .obj tool =>
    match JsonObject.get? tool "name" with
    | some (.str name) =>
      if strip name = "" then
        .error (.protocol "Each MCP tool definition requires a non-empty name.")
      else
        let valid (key : String) : Bool :=
          match JsonObject.get? tool key with
          | none | some .null | some (.obj _) => true
          | some _ => false
        match ["inputSchema", "outputSchema"].find? fun key => !valid key with
        | some key =>
          .error (.protocol ("MCP tool " ++ pyRepr (.str name) ++ " has an invalid " ++ key ++ "."))
        | none => .ok tool
    | _ => .error (.protocol "Each MCP tool definition requires a non-empty name.")
  | _ => .error (.protocol "Each MCP tool definition must be a JSON object.")

/-- The tools of an answer to `tools/list` (source `list_tools`, after `_rpc`). -/
def toolsOf (data : Json) : Except McpError (List JsonObject) :=
  match data with
  | .obj fields =>
    match JsonObject.get? fields "tools" with
    | none | some .null => .ok []
    | some (.arr tools) => tools.mapM (validateToolDefinition pyRepr)
    | some _ => .error (.protocol "MCP tools/list result.tools must be a list.")
  | _ => .ok []

end Tools

end AgentRuntime.Mcp

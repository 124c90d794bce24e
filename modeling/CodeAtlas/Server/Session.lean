import CodeAtlas.Json.Shape
import CodeAtlas.Server.Call
import CodeAtlas.Server.Message

/-!
# Sessions

A session answers the lines of a client one after the other. Blank lines and
notifications get no response; every other line gets one, also when it is no request. Between
lines a session keeps nothing but the caches of its engine.
-/

namespace CodeAtlas

namespace Handshake

/-- What a client says about its roots. -/
def roots : Record := ⟨"RootsCapability", [⟨"listChanged", Shape.boolean, .required⟩]⟩

/-- What a client says it can do. -/
def capabilities : Record :=
  ⟨"ClientCapabilities", [⟨"roots", Shape.nullable roots.shape, .optional⟩]⟩

/-- What a client says about itself. -/
def client : Record :=
  ⟨"ClientInfo", [⟨"name", Shape.string, .required⟩, ⟨"version", Shape.string, .required⟩]⟩

/-- What a client sends to open a session. -/
def opening : Record :=
  ⟨"InitializeRequest",
    [⟨"protocolVersion", Shape.string, .required⟩,
     ⟨"capabilities", capabilities.shape, .required⟩,
     ⟨"clientInfo", client.shape, .required⟩]⟩

/-- What the server says about itself when a session is opened. -/
def greeting : Json :=
  .ofFields
    [("protocolVersion", .string "2024-11-05"),
     ("capabilities", .ofFields [("tools", .ofFields [("listChanged", .bool false)])]),
     ("serverInfo", .ofFields
       [("name", .string "code-extractor-mcp"), ("version", .string "0.1.0")])]

/-- The answer to a client that opens a session. -/
def answer (params : Json) : Except Refusal Json :=
  match opening.read params with
  | .ok _ => .ok greeting
  | .error error => .error (.internal ("Invalid initialize params: " ++ error.message))

end Handshake

/-- The name and the arguments of a tool call. -/
structure ToolCall where
  name : String
  arguments : Json

namespace ToolCall

/-- What a client sends to call a tool. -/
def record : Record :=
  ⟨"CallToolRequest", [⟨"name", Shape.string, .required⟩, ⟨"arguments", Shape.any, .defaulted⟩]⟩

/-- Reads a tool call. -/
def ofParams (params : Json) : Except ShapeError ToolCall := do
  match ← record.read params with
  | [.string name, arguments] => return ⟨name, arguments⟩
  | _ => throw (.missingField "name")

end ToolCall

namespace Session

/-- Answers a tool call. A call that fails is a result that says so; only a call that
cannot be read and one of an unknown tool are refused. -/
def answerCall (engine : Engine) (params : Json) : StateM Caches (Except Refusal Json) :=
  match ToolCall.ofParams params with
  | .error error => return .error (.badParams ("Invalid params: " ++ error.message))
  | .ok call =>
    match Tool.ofName? call.name with
    | none => return .error (.badParams ("Unknown tool: " ++ call.name))
    | some tool => return .ok (callResult (← ExceptT.run (engine.call call.arguments tool)))

/-- What a request asks the server to do. -/
inductive Method where
  /-- To open the session. -/
  | open
  | ping
  | listTools
  | callTool
  | notification
  | unknown
  deriving DecidableEq, Repr

/-- The method with a name. -/
def Method.ofName (name : String) : Method :=
  match name with
  | "initialize" => .open
  | "ping" => .ping
  | "tools/list" => .listTools
  | "tools/call" => .callTool
  | name => if Text.startsWith "notifications/" name then .notification else .unknown

/-- Answers a request; a notification gets no answer. -/
def answer (engine : Engine) (request : Request) :
    StateM Caches (Option (Except Refusal Json)) :=
  match Method.ofName request.method with
  | .open => return some (Handshake.answer request.params)
  | .ping => return some (.ok (.ofFields []))
  | .listTools => return some (.ok Tool.catalogue)
  | .callTool => return some (← answerCall engine request.params)
  | .notification => return none
  | .unknown => return some (.error .unknownMethod)

/-- The response to a line, if it gets one. -/
def respond (engine : Engine) (line : String) : StateM Caches (Option Response) :=
  match Incoming.ofLine? line with
  | none => return none
  | some .unreadable => return some .unreadable
  | some (.request received) => return (← answer engine received).map (⟨received.id, ·⟩)

/-- The responses to lines, in order. -/
def responses (engine : Engine) : List String → StateM Caches (List Response)
  | [] => return []
  | line :: lines => do
    let first ← respond engine line
    let others ← responses engine lines
    return first.toList ++ others

/-- The lines that a new server writes for an input. -/
def run (engine : Engine) (input : ByteArray) : List String :=
  let (written, _) := (responses engine (inputLines input)).run engine.freshCaches
  written.map Response.line

end Session

end CodeAtlas

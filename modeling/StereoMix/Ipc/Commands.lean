import StereoMix.Lib.Json
import Mathlib.Data.List.DropRight

/-!
# Commands and responses

`commands.rs`: a line is read as a `CommandEnvelope` and interpreted as an `IpcCommand`; a `ResponseEnvelope` goes
back. `serde_json` is a parameter where it reads a text, and its derived reading of the envelope's fields is written
out. The fields of a response's data stand in the order of their names, as a `serde_json::Map` has them.
-/

namespace StereoMix.Ipc

/-- IPC-layer specific error. -/
inductive IpcError where
  | pipe (msg : String)
  | serialization (msg : String)
  | unknownCommand (msg : String)
  | timeout
  | disconnected
  deriving DecidableEq, Repr

def IpcError.text : IpcError → String
  | .pipe msg => s!"pipe error: {msg}"
  | .serialization msg => s!"serialization error: {msg}"
  | .unknownCommand msg => s!"command unknown: {msg}"
  | .timeout => "timeout"
  | .disconnected => "disconnected"

/-! ## Reading an envelope -/

/-- What `serde_json` does with a text: `read` reads it, with its limits on nesting and on numbers, and `located` adds
to an error of the reader of an envelope where in the text it was. -/
structure SerdeJson where
  read : String → Except String Json
  located : String → String → String

/-- Raw JSON envelope received from the client. -/
structure CommandEnvelope where
  cmd : String
  id : String
  payload : Json

/-- How an error names a value of the wrong type. -/
def unexpected : Json → String
  | .null => "null"
  | .bool b => s!"boolean `{b}`"
  | .number (.posInt n) => s!"integer `{n}`"
  | .number (.negInt n) => s!"integer `{n}`"
  | .number (.float text) => s!"floating point `{text}`"
  | .string s => s!"string {reprStr s}"
  | .array _ => "sequence"
  | .object _ => "map"

def readString : Json → Except String String
  | .string s => .ok s
  | other => .error s!"invalid type: {unexpected other}, expected a string"

/-- The fields of an object in their order; those with other names are skipped. -/
def readFields (cmd id : Option String) (payload : Option Json) : List (String × Json) → Except String CommandEnvelope
  | [] =>
    match cmd, id with
    | none, _ => .error "missing field `cmd`"
    | some _, none => .error "missing field `id`"
    | some cmd, some id => .ok ⟨cmd, id, payload.getD .null⟩
  | (name, value) :: rest =>
    if name = "cmd" then
      if cmd.isSome then .error "duplicate field `cmd`"
      else
        match readString value with
        | .error e => .error e
        | .ok cmd => readFields (some cmd) id payload rest
    else if name = "id" then
      if id.isSome then .error "duplicate field `id`"
      else
        match readString value with
        | .error e => .error e
        | .ok id => readFields cmd (some id) payload rest
    else if name = "payload" then
      if payload.isSome then .error "duplicate field `payload`"
      else readFields cmd id (some value) rest
    else readFields cmd id payload rest

/-- The elements of an array in the place of the fields. -/
def readElements : List Json → Except String CommandEnvelope
  | [] => .error "invalid length 0, expected struct CommandEnvelope with 3 elements"
  | [cmd] =>
    match readString cmd with
    | .error e => .error e
    | .ok _ => .error "invalid length 1, expected struct CommandEnvelope with 3 elements"
  | cmd :: id :: rest =>
    match readString cmd, readString id with
    | .error e, _ => .error e
    | .ok _, .error e => .error e
    | .ok cmd, .ok id =>
      match rest with
      | [] => .ok ⟨cmd, id, .null⟩
      | [payload] => .ok ⟨cmd, id, payload⟩
      | _ => .error "trailing characters"

def CommandEnvelope.ofJson : Json → Except String CommandEnvelope
  | .object fields => readFields none none none fields
  | .array values => readElements values
  | other => .error s!"invalid type: {unexpected other}, expected struct CommandEnvelope"

/-- `char::is_whitespace`. -/
def isWhitespace (c : Char) : Bool :=
  (9 ≤ c.toNat && c.toNat ≤ 13) || c.toNat = 32 || c.toNat = 0x85 || c.toNat = 0xA0 || c.toNat = 0x1680 ||
    (0x2000 ≤ c.toNat && c.toNat ≤ 0x200A) || c.toNat = 0x2028 || c.toNat = 0x2029 || c.toNat = 0x202F ||
    c.toNat = 0x205F || c.toNat = 0x3000

/-- `str::trim`. -/
def trim (s : String) : String := String.ofList ((s.toList.dropWhile isWhitespace).rdropWhile isWhitespace)

/-- Parse a newline-terminated JSON string into a CommandEnvelope. -/
def CommandEnvelope.parse (serde : SerdeJson) (raw : String) : Except IpcError CommandEnvelope :=
  match serde.read (trim raw) with
  | .error e => .error (.serialization s!"invalid JSON: {e}")
  | .ok value =>
    match CommandEnvelope.ofJson value with
    | .error e => .error (.serialization s!"invalid JSON: {serde.located (trim raw) e}")
    | .ok env => .ok env

/-! ## Typed commands -/

/-- Fully-typed IPC command, derived from the CommandEnvelope. -/
inductive IpcCommand where
  | startRecording (deviceIndex : Option (BitVec 32))
  | stopRecording
  | pauseRecording
  | resumeRecording
  | getStatus
  | subscribeTelemetry
  | setDevice (deviceIndex : BitVec 32)
  | updateConfig (patch : Json)
  | shutdown
  | health
  | stats

/-- The names of the commands. -/
def COMMANDS : List String :=
  ["start_recording", "stop_recording", "pause_recording", "resume_recording", "get_status", "subscribe_telemetry",
    "set_device", "update_config", "shutdown", "health", "stats"]

/-- The `device_index` of a payload, cut to 32 bits. -/
def CommandEnvelope.deviceIndex (env : CommandEnvelope) : Option (BitVec 32) :=
  ((env.payload.get "device_index").bind Json.asU64).map (BitVec.ofNat 32)

/-- Interpret a CommandEnvelope into a typed IpcCommand. -/
def IpcCommand.fromEnvelope (env : CommandEnvelope) : Except IpcError IpcCommand :=
  match env.cmd with
  | "start_recording" => .ok (.startRecording env.deviceIndex)
  | "stop_recording" => .ok .stopRecording
  | "pause_recording" => .ok .pauseRecording
  | "resume_recording" => .ok .resumeRecording
  | "get_status" => .ok .getStatus
  | "subscribe_telemetry" => .ok .subscribeTelemetry
  | "set_device" =>
    match env.deviceIndex with
    | some deviceIndex => .ok (.setDevice deviceIndex)
    | none => .error (.serialization "set_device: missing device_index")
  | "update_config" => .ok (.updateConfig env.payload)
  | "shutdown" => .ok .shutdown
  | "health" => .ok .health
  | "stats" => .ok .stats
  | other => .error (.unknownCommand other)

/-- Parse a raw command line into (typed command, correlation id). -/
def parseCommand (serde : SerdeJson) (raw : String) : Except IpcError (IpcCommand × String) :=
  match CommandEnvelope.parse serde raw with
  | .error e => .error e
  | .ok env =>
    match IpcCommand.fromEnvelope env with
    | .error e => .error e
    | .ok cmd => .ok (cmd, env.id)

/-! ## Responses -/

/-- Typed response, serialized back to JSON. -/
structure ResponseEnvelope where
  id : String
  ok : Bool
  error : Option String
  data : Option Json

def ResponseEnvelope.success (id : String) : ResponseEnvelope := ⟨id, true, none, none⟩
def ResponseEnvelope.okData (id : String) (data : Json) : ResponseEnvelope := ⟨id, true, none, some data⟩
def ResponseEnvelope.err (id msg : String) : ResponseEnvelope := ⟨id, false, some msg, none⟩

/-- A response as the line that is written. -/
def ResponseEnvelope.toJson (r : ResponseEnvelope) : Json :=
  .object ([("id", .string r.id), ("ok", .bool r.ok)] ++ (r.error.map fun msg => ("error", .string msg)).toList ++
    (r.data.map fun data => ("data", data)).toList)

end StereoMix.Ipc

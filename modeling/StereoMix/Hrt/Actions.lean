import StereoMix.Ipc.Commands

/-!
# Messages of the HRT daemon

`HrtInboundMsg` as `serde_json` reads it, and `handle_inbound_message`. The reader of JSON texts is a parameter; the
derived reading of the message, whose data is all the fields but `msg`, is written out. Time stamps are left out of the
telemetry.
-/

namespace StereoMix.Hrt

open Ipc (SerdeJson readString unexpected)

/-- A message received from HRT. -/
structure HrtInboundMsg where
  msg : String
  data : Json

namespace HrtInboundMsg

/-- The fields of an object in their order; those that are not `msg` are the data. -/
def readFields (msg : Option String) (data : List (String × Json)) : List (String × Json) → Except String HrtInboundMsg
  | [] =>
    match msg with
    | none => .error "missing field `msg`"
    | some msg => .ok ⟨msg, .object data⟩
  | (name, value) :: rest =>
    if name = "msg" then
      if msg.isSome then .error "duplicate field `msg`"
      else
        match readString value with
        | .error e => .error e
        | .ok msg => readFields (some msg) data rest
    else readFields msg (data ++ [(name, value)]) rest

def ofJson : Json → Except String HrtInboundMsg
  | .object fields => readFields none [] fields
  | other => .error s!"invalid type: {unexpected other}, expected struct HrtInboundMsg"

/-- `serde_json::from_str` of a line. -/
def parse (serde : SerdeJson) (text : String) : Except String HrtInboundMsg :=
  match serde.read text with
  | .error e => .error e
  | .ok value => (ofJson value).mapError (serde.located text)

end HrtInboundMsg

/-! ## Actions -/

/-- A telemetry event of an inbound message. The level of a throttle is the float of this number. -/
inductive HrtTelemetry where
  | throttle (level : JsonNumber)
  | emergencyStop (data : Json)
  | ack (data : Json)
  | unknown (msg : String) (payload : Json)

/-- What an action does outside of itself. -/
inductive HrtEffect where
  | emit (event : HrtTelemetry)
  | initiateShutdown

/-- `char::to_lowercase`, as far as a text of ASCII can tell: of the other characters only the Kelvin sign has an ASCII
lower case. -/
def toLowercase (c : Char) : Char := if c.toNat = 0x212A then 'k' else c.toLower

/-- The tag of a message, in lower case. -/
def HrtInboundMsg.tag (m : HrtInboundMsg) : String := String.ofList (m.msg.toList.map toLowercase)

/-- `as_f64`, which makes a float of every number. -/
def asF64 : Json → Option JsonNumber
  | .number n => some n
  | _ => none

/-- The level of a throttle: the first of three fields that is a number. -/
def throttleLevel (data : Json) : Option JsonNumber :=
  ((data.get "level").bind asF64).or (((data.get "value").bind asF64).or ((data.get "percent").bind asF64))

/-- Handle an inbound HRT message and perform local actions. -/
def handleInboundMessage (m : HrtInboundMsg) : List HrtEffect :=
  if m.tag = "throttle" then
    match throttleLevel m.data with
    | some level => [.emit (.throttle level)]
    | none => []
  else if m.tag = "e-stop" ∨ m.tag = "estop" ∨ m.tag = "emergency_stop" then
    [.initiateShutdown, .emit (.emergencyStop m.data)]
  else if m.tag = "ack" ∨ m.tag = "acknowledge" then [.emit (.ack m.data)]
  else [.emit (.unknown m.msg m.data)]

end StereoMix.Hrt

import StereoMix.Encode.Muxer
import Mathlib.Data.List.Induction

/-!
# Sequences of muxer calls

A muxer after any sequence of calls, in any world of files: one whose caller goes on after an error, and one whose calls
all succeeded.
-/

namespace StereoMix.Encode

open FileSystem

inductive MuxerCall where
  | «open» (path : String) (pcmFormat : PcmFormat) (codecName : String) (bitrateKbps : BitVec 32)
  | writePacket (pkt : AudioPacket)
  | finalize
  deriving DecidableEq, Repr

/-- The bytes of the packet, if there is one. -/
def MuxerCall.bytes : MuxerCall → Nat
  | .writePacket pkt => pkt.data.length
  | _ => 0

variable {M : Type} [AudioMuxer M]

def MuxerCall.run : MuxerCall → EStateM EncodeError (M × World) Unit
  | .open path pcmFormat codecName bitrateKbps => AudioMuxer.open path pcmFormat codecName bitrateKbps
  | .writePacket pkt => AudioMuxer.writePacket pkt
  | .finalize => AudioMuxer.finalize

/-- What a call leaves, whatever its answer. -/
def left {ε σ α : Type} : EStateM.Result ε σ α → σ
  | .ok _ s => s
  | .error _ s => s

/-- The muxer and the world after a call. -/
def afterCall (s : M × World) (call : MuxerCall) : M × World := left (call.run s)

def afterCalls (calls : List MuxerCall) (s : M × World) : M × World := calls.foldl afterCall s

/-- The calls of a recording. -/
def takeCalls (path : String) (pcmFormat : PcmFormat) (codecName : String) (bitrateKbps : BitVec 32)
    (packets : List AudioPacket) : List MuxerCall :=
  .open path pcmFormat codecName bitrateKbps :: (packets.map .writePacket ++ [.finalize])

theorem takeCalls_run {path : String} {pcmFormat : PcmFormat} {codecName : String} {bitrateKbps : BitVec 32}
    {packets : List AudioPacket} {s t : M × World}
    (done : recording M path pcmFormat codecName bitrateKbps packets s = .ok () t) :
    (takeCalls path pcmFormat codecName bitrateKbps packets).forM MuxerCall.run s = .ok () t := by
  obtain ⟨⟨⟩, u, opened, done⟩ := bind_eq_ok.1 done
  obtain ⟨⟨⟩, v, written, finalized⟩ := bind_eq_ok.1 done
  have last : [MuxerCall.finalize].forM MuxerCall.run v = .ok () t := bind_eq_ok.2 ⟨(), t, finalized, rfl⟩
  refine bind_eq_ok.2 ⟨(), u, opened, ?_⟩
  change forM (packets.map MuxerCall.writePacket ++ [MuxerCall.finalize]) MuxerCall.run u = _
  rw [List.forM_append, List.forM_map]
  exact bind_eq_ok.2 ⟨(), v, written, last⟩

/-- There is an `open` after the last `finalize`. -/
def openedLast (calls : List MuxerCall) : Bool :=
  calls.foldl (fun opened call =>
    match call with
    | .open _ _ _ _ => true
    | .finalize => false
    | .writePacket _ => opened) false

/-- What a new muxer has, every call of `finalize` gives and packets keep, a muxer has where none was opened since. -/
theorem afterCalls_closed {I : M × World → Prop} {calls : List MuxerCall} {s : M × World} (start : I s)
    (finalized : ∀ s, I (afterCall s .finalize)) (wrote : ∀ s pkt, I s → I (afterCall s (.writePacket pkt)))
    (closed : openedLast calls = false) : I (afterCalls calls s) := by
  induction calls using List.reverseRecOn with
  | nil => exact start
  | append_singleton calls call ih =>
    unfold afterCalls openedLast at *
    rw [List.foldl_append, List.foldl_cons, List.foldl_nil] at *
    cases call with
    | «open» => cases closed
    | writePacket pkt => exact wrote _ pkt (ih closed)
    | finalize => exact finalized _

/-- What a new muxer has and every call keeps, a muxer has after any calls. -/
theorem afterCalls_induction {I : M × World → Prop} {calls : List MuxerCall} {s : M × World} (start : I s)
    (kept : ∀ s call, I s → I (afterCall s call)) : I (afterCalls calls s) := by
  induction calls using List.reverseRecOn with
  | nil => exact start
  | append_singleton calls call ih =>
    unfold afterCalls at *
    rw [List.foldl_append, List.foldl_cons, List.foldl_nil]
    exact kept _ call ih

/-! ## A short take -/

/-- A world without files where every call succeeds. -/
def emptyWorld : World := ⟨fun _ => none, []⟩

/-- A take of four bytes, opened and finalized. -/
def shortCalls (path : String) : List MuxerCall :=
  takeCalls path ⟨48000#32, 2#16, 16#16⟩ "pcm" 128#32 [⟨[1#8, 2#8, 3#8, 4#8], 0#64, 1#64, true⟩]

end StereoMix.Encode

import Mathlib.Data.List.Basic
import Mathlib.Algebra.Group.Int

/-! The AMCOM codec entry points of `amcom.c`, whose bodies are `// TODO` stubs: nothing is
serialized, and no packet ever reaches the handler. -/
namespace Mniam.AMCOM

/-- A packet as the handler receives it: its type and payload bytes. -/
structure Packet where
  type : UInt8
  payload : List UInt8
  deriving DecidableEq, Repr

variable {Receiver : Type}

/-- `AMCOM_Serialize`: the frame, the bytes written to the destination and counted by the returned
size. The stub returns 0. -/
def serialize (_packetType : UInt8) (_payload : List UInt8) : List UInt8 := []

/-- `AMCOM_InitReceiver`: the stub leaves the receiver as it was and binds no handler. The receiver
record, declared in the absent `amcom.h`, is a type parameter. -/
def initReceiver (receiver : Receiver) : Receiver := receiver

/-- `AMCOM_Deserialize`: the receiver afterwards and the packets handed to the handler. -/
def deserialize (receiver : Receiver) (_data : List UInt8) : Receiver × List Packet := (receiver, [])

/-- `AMCOM_Deserialize` called on each chunk in turn: every packet handed to the handler. -/
def feed (receiver : Receiver) : List (List UInt8) → List Packet
  | [] => []
  | chunk :: rest => (deserialize receiver chunk).2 ++ feed (deserialize receiver chunk).1 rest

/-- The byte stream of a packet sequence: its frames one after another. -/
def frames (packets : List Packet) : List UInt8 :=
  (packets.map fun packet => serialize packet.type packet.payload).flatten

/-- Whatever the chunks, the stub receiver hands no packet to its handler. -/
theorem feed_silent (receiver : Receiver) (chunks : List (List UInt8)) :
    feed (initReceiver receiver) chunks = [] := by
  induction chunks generalizing receiver with
  | nil => rfl
  | cons chunk rest ih => exact ih receiver

/-- Every packet sequence serializes to the empty stream. -/
theorem frames_empty (packets : List Packet) : frames packets = [] := by
  simp [frames, serialize]

/-- One packet of type 1 with an empty payload: its stream, fed as one chunk, reaches the handler
zero times. -/
theorem receiver_drops_packet :
    frames [⟨1, []⟩] = [] ∧ feed (initReceiver ()) [frames [⟨1, []⟩]] = [] ∧
      feed (initReceiver ()) [frames [⟨1, []⟩]] ≠ [⟨1, []⟩] := by
  decide

end Mniam.AMCOM

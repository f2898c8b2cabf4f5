import Mniam.AMCOM.Codec
import Mniam.Connection.Transaction

/-! `AMCOMTransaction` of `amcom_transactions.h`: a `Transaction` that is its own validator and keeps
the decoded response of each client. -/
namespace Mniam.AMCOM

open Connection

/-- `AMCOMTransaction`: the `Transaction` it extends and the `responses` map. The response packet
type and the payload decoding are parameters, since the absent `amcom_packets.h` fixes them. -/
structure AMCOMTransaction (Response : Type) extends Transaction where
  responses : KeyMap Response

namespace AMCOMTransaction

variable {Response : Type} (responsePacket : UInt8) (decode : List UInt8 → Response)

/-- `saveResponse`. -/
def saveResponse (t : AMCOMTransaction Response) (clientId : UInt32) (payload : Response) :
    AMCOMTransaction Response :=
  { t with responses := t.responses.emplace clientId payload }

/-- `packetHandler` on the context `(ok, transaction, clientId)`: a packet of the response type
marks the context and saves its payload. -/
def packetHandler (context : Bool × AMCOMTransaction Response × UInt32) (packet : Packet) :
    Bool × AMCOMTransaction Response × UInt32 :=
  if packet.type = responsePacket then
    (true, context.2.1.saveResponse context.2.2 (decode packet.payload), context.2.2)
  else context

/-- `operator()`, the validator: run a fresh receiver over the response bytes with `packetHandler`
and answer whether it saw a response packet. -/
def validate (t : AMCOMTransaction Response) (clientId : UInt32) (responseData : List UInt8) :
    Bool × AMCOMTransaction Response :=
  let context := (deserialize (initReceiver ()) responseData).2.foldl
    (packetHandler responsePacket decode) (false, t, clientId)
  (context.1, context.2.1)

/-- `getResponse`. -/
def getResponse (t : AMCOMTransaction Response) (clientId : UInt32) : Option Response :=
  t.responses.find clientId

/-- `reset`, inherited from `Transaction`. -/
def reset (t : AMCOMTransaction Response) : AMCOMTransaction Response :=
  { t with toTransaction := t.toTransaction.reset }

@[simp] theorem reset_responses (t : AMCOMTransaction Response) :
    t.reset.responses = t.responses := rfl

/-- The stub `AMCOM_Deserialize` hands no packet to `packetHandler`: the validator rejects every
response and saves nothing. -/
@[simp] theorem validate_stub (t : AMCOMTransaction Response) (clientId : UInt32)
    (responseData : List UInt8) : validate responsePacket decode t clientId responseData = (false, t) :=
  rfl

/-- A call the code makes on one transaction object: the reset before a dispatch, or the validator
on the bytes a client's worker read. -/
inductive Call where
  | reset
  | validate (clientId : UInt32) (responseData : List UInt8)

/-- A sequence of calls applied in order. -/
def runCalls (t : AMCOMTransaction Response) : List Call → AMCOMTransaction Response
  | [] => t
  | .reset :: rest => runCalls t.reset rest
  | .validate clientId responseData :: rest =>
    runCalls (validate responsePacket decode t clientId responseData).2 rest

/-- The packets the validator's `AMCOM_Deserialize` delivers to `packetHandler` in a call, each with
the client it is delivered for. -/
def Call.delivered : Call → List (UInt32 × Packet)
  | .reset => []
  | .validate clientId responseData =>
    (deserialize (initReceiver ()) responseData).2.map (clientId, ·)

/-- The latest response payload delivered for a client since the last reset, once a call is made
after `latest`. -/
def Call.latest (clientId : UInt32) (latest : Option Response) : Call → Option Response
  | .reset => none
  | call => call.delivered.foldl (fun latest delivery =>
      if delivery.1 = clientId ∧ delivery.2.type = responsePacket then some (decode delivery.2.payload)
      else latest) latest

/-- The payload of the latest response packet delivered for a client since the last reset. -/
def latestSinceReset (clientId : UInt32) (calls : List Call) : Option Response :=
  calls.foldl (Call.latest responsePacket decode clientId) none

theorem runCalls_responses (t : AMCOMTransaction Response) (calls : List Call) :
    (runCalls responsePacket decode t calls).responses = t.responses := by
  induction calls generalizing t with
  | nil => rfl
  | cons call rest ih => cases call <;> simp only [runCalls, ih, validate_stub, reset_responses]

theorem latestSinceReset_none (clientId : UInt32) (calls : List Call) :
    latestSinceReset responsePacket decode clientId calls = none := by
  induction calls with
  | nil => rfl
  | cons call rest ih => cases call <;> exact ih

/-- Over every sequence of resets and validator calls on a new transaction object, `getResponse`
is the payload of the latest response packet delivered for the client since the last reset: with
the stub codec none is ever delivered, and `getResponse` answers nothing. -/
theorem getResponse_runCalls (base : Transaction) (calls : List Call) (clientId : UInt32) :
    (runCalls responsePacket decode ⟨base, []⟩ calls).getResponse clientId =
      latestSinceReset responsePacket decode clientId calls := by
  rw [latestSinceReset_none, getResponse, runCalls_responses]
  rfl

/-- What a run does to one transaction object once a codec delivers packets: a reset before a
dispatch, or a packet delivered to `packetHandler` by the validator of the client it names. -/
inductive Operation (Response : Type) where
  | reset
  | deliver (clientId : UInt32) (packet : Packet)

/-- A sequence of operations applied in order. -/
def run (t : AMCOMTransaction Response) : List (Operation Response) → AMCOMTransaction Response
  | [] => t
  | .reset :: rest => run t.reset rest
  | .deliver clientId packet :: rest =>
    run (packetHandler responsePacket decode (false, t, clientId) packet).2.1 rest

/-- The payload of the first response packet ever delivered for a client. -/
def firstResponse (clientId : UInt32) : List (Operation Response) → Option Response
  | [] => none
  | .reset :: rest => firstResponse clientId rest
  | .deliver c packet :: rest =>
    if c = clientId ∧ packet.type = responsePacket then some (decode packet.payload)
    else firstResponse clientId rest

theorem getResponse_packetHandler (t : AMCOMTransaction Response) (clientId other : UInt32)
    (packet : Packet) :
    (packetHandler responsePacket decode (false, t, clientId) packet).2.1.getResponse other =
      (t.getResponse other).or
        (if clientId = other ∧ packet.type = responsePacket then some (decode packet.payload)
          else none) := by
  unfold packetHandler
  by_cases typed : packet.type = responsePacket
  · by_cases same : clientId = other <;>
      simp [typed, same, getResponse, saveResponse, KeyMap.find_emplace]
  · simp [typed]

/-- What the code would keep with a codec that delivers packets: after any run, a client's
response is the one held before the run or else the first response packet ever delivered for it,
across resets. -/
theorem getResponse_run (t : AMCOMTransaction Response) (operations : List (Operation Response))
    (clientId : UInt32) :
    (run responsePacket decode t operations).getResponse clientId =
      (t.getResponse clientId).or (firstResponse responsePacket decode clientId operations) := by
  induction operations generalizing t with
  | nil => simp [run, firstResponse]
  | cons operation rest ih =>
    cases operation with
    | reset => simp only [run, ih, firstResponse]; rfl
    | deliver c packet =>
      simp only [run, ih, firstResponse, getResponse_packetHandler, Option.or_assoc]
      by_cases hit : c = clientId ∧ packet.type = responsePacket <;> simp [hit]

end AMCOMTransaction

/-- A transaction of response type 2 whose payloads decode to their bytes. -/
def byteTransaction : AMCOMTransaction (List UInt8) := ⟨⟨[], 0, 0, []⟩, []⟩

/-- With a codec that delivers packets, a response from client 0 survives the next reset, and a
later response does not replace it. -/
theorem response_outlives_reset :
    (byteTransaction.run 2 id [.deliver 0 ⟨2, [1]⟩, .reset]).getResponse 0 = some [1] ∧
      (byteTransaction.run 2 id [.deliver 0 ⟨2, [1]⟩, .reset, .deliver 0 ⟨2, [2]⟩]).getResponse 0 =
        some [1] := by
  decide

end Mniam.AMCOM

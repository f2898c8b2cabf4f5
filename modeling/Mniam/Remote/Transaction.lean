import Mathlib.Data.List.Basic
import Mathlib.Algebra.Group.Int

/-! `RemoteConnectionTransaction` of `remote_connection.h`, the one transaction a `RemoteConnection`
runs at a time. -/
namespace Mniam.Remote

/-- `AMCOM_PacketType`, the enumerators the sources use. Their numbers come from the absent
`amcom_packets.h`, so a received type byte is compared through a parameter `code`. -/
inductive PacketType where
  | AMCOM_NO_PACKET
  | AMCOM_IDENTIFY_REQUEST
  | AMCOM_IDENTIFY_RESPONSE
  | AMCOM_NEW_GAME_REQUEST
  | AMCOM_NEW_GAME_RESPONSE
  | AMCOM_PLAYER_UPDATE_REQUEST
  | AMCOM_FOOD_UPDATE_REQUEST
  | AMCOM_MOVE_REQUEST
  | AMCOM_MOVE_RESPONSE
  | AMCOM_GAME_OVER_REQUEST
  | AMCOM_GAME_OVER_RESPONSE
  deriving DecidableEq, Repr

open PacketType

/-- `RemoteConnectionTransaction::State`. -/
inductive State where
  | IDLE
  | REQUEST_TO_SEND
  | AWAITING_CONFIRMATION
  | FINISHED
  deriving DecidableEq, Repr

open State

/-- `RemoteConnectionTransaction`, without the `start` and `end` time points. -/
@[ext] structure RemoteConnectionTransaction where
  request : PacketType
  confirmation : PacketType
  state : State
  deriving DecidableEq, Repr

namespace RemoteConnectionTransaction

variable (code : PacketType → UInt8)

/-- The default member initialisers. -/
def init : RemoteConnectionTransaction := ⟨AMCOM_NO_PACKET, AMCOM_NO_PACKET, IDLE⟩

/-- `setupTransaction`. -/
def setupTransaction (t : RemoteConnectionTransaction) (request confirmation : PacketType) :
    RemoteConnectionTransaction :=
  { t with request := request, confirmation := confirmation, state := REQUEST_TO_SEND }

/-- `getRequestToSend`. -/
def getRequestToSend (t : RemoteConnectionTransaction) : PacketType :=
  if REQUEST_TO_SEND = t.state then t.request else AMCOM_NO_PACKET

/-- `indicateTransmission`. -/
def indicateTransmission (t : RemoteConnectionTransaction) : RemoteConnectionTransaction :=
  if t.confirmation ≠ AMCOM_NO_PACKET then { t with state := AWAITING_CONFIRMATION }
  else { t with state := FINISHED }

/-- `indicateReception`, given the header type byte of the received packet. -/
def indicateReception (t : RemoteConnectionTransaction) (receivedPacketType : UInt8) :
    RemoteConnectionTransaction :=
  if AWAITING_CONFIRMATION = t.state ∧ receivedPacketType = code t.confirmation then
    { t with state := FINISHED }
  else t

@[simp] theorem setupTransaction_request (t : RemoteConnectionTransaction) (r c : PacketType) :
    (t.setupTransaction r c).request = r := rfl

@[simp] theorem setupTransaction_confirmation (t : RemoteConnectionTransaction) (r c : PacketType) :
    (t.setupTransaction r c).confirmation = c := rfl

@[simp] theorem setupTransaction_state (t : RemoteConnectionTransaction) (r c : PacketType) :
    (t.setupTransaction r c).state = REQUEST_TO_SEND := rfl

@[simp] theorem indicateTransmission_request (t : RemoteConnectionTransaction) :
    t.indicateTransmission.request = t.request := by
  unfold indicateTransmission; split <;> rfl

@[simp] theorem indicateTransmission_confirmation (t : RemoteConnectionTransaction) :
    t.indicateTransmission.confirmation = t.confirmation := by
  unfold indicateTransmission; split <;> rfl

theorem indicateTransmission_state (t : RemoteConnectionTransaction) :
    t.indicateTransmission.state =
      if t.confirmation = AMCOM_NO_PACKET then FINISHED else AWAITING_CONFIRMATION := by
  unfold indicateTransmission
  by_cases none : t.confirmation = AMCOM_NO_PACKET <;> simp [none]

@[simp] theorem indicateReception_request (t : RemoteConnectionTransaction) (received : UInt8) :
    (t.indicateReception code received).request = t.request := by
  unfold indicateReception; split <;> rfl

@[simp] theorem indicateReception_confirmation (t : RemoteConnectionTransaction) (received : UInt8) :
    (t.indicateReception code received).confirmation = t.confirmation := by
  unfold indicateReception; split <;> rfl

theorem indicateReception_state (t : RemoteConnectionTransaction) (received : UInt8) :
    (t.indicateReception code received).state =
      if t.state = AWAITING_CONFIRMATION ∧ received = code t.confirmation then FINISHED
      else t.state := by
  unfold indicateReception
  by_cases hit : t.state = AWAITING_CONFIRMATION ∧ received = code t.confirmation
  · simp [hit]
  · rw [if_neg (by rwa [eq_comm (a := AWAITING_CONFIRMATION)]), if_neg hit]

theorem getRequestToSend_eq (t : RemoteConnectionTransaction) :
    t.getRequestToSend = if t.state = REQUEST_TO_SEND then t.request else AMCOM_NO_PACKET := by
  simp only [getRequestToSend, eq_comm]

end RemoteConnectionTransaction

end Mniam.Remote

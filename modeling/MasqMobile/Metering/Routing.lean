import MasqMobile.Lib.Run
import MasqMobile.Metering.Consumer
import MasqMobile.Settlement.Accept

/-!
# A routing provider

A routing provider makes one offer per routed packet, but only one offer of a stream is open at a time:
until its acknowledgement is accepted, every further packet carries the same offer again. The offer that
follows it is priced for the packet in hand then.

| here | there |
| --- | --- |
| `RoutingNode.makeRoutingReceiptOffer` | `make_routing_receipt_offer` (hopper/routing_service.rs:706) |
| `RoutingNode.chooseOffer` | its `match persisted_state_opt` (routing_service.rs:759) |

Receipt settlement is enabled, and a packet's size fits in 64 bits. An offer travels encrypted to the payer's
session key; here it is the offer itself. The database does not fail: what its statements refuse is modelled,
an I/O error is not.
-/

namespace MasqMobile

open Fallible

/-- receipt_checkpoint_dao.rs:23 -/
structure RoutingReceiptOfferState where
  authorizationNonce : Bytes32
  payerSessionPublicKey : PublicKey
  expiresAtUnixS : Nat
  lastSignedReceipt : SignedServiceReceipt
  deriving DecidableEq

/-- The primary key of `routing_receipt_offer_state`: nonce, route epoch, provider key, payer session key. -/
abbrev OfferKey := Bytes32 × Bytes32 × PublicKey × PublicKey

def RoutingReceiptOfferState.key (state : RoutingReceiptOfferState) : OfferKey :=
  (state.authorizationNonce, state.lastSignedReceipt.receipt.routeEpoch,
    state.lastSignedReceipt.receipt.providerPublicKey, state.payerSessionPublicKey)

abbrev OfferStates := Table RoutingReceiptOfferState RoutingReceiptOfferState.key

structure RoutingDb where
  receipts : ReceiptDb
  offerStates : OfferStates

/-- receipt_checkpoint_dao.rs:503; the comparisons of `deserialize_routing_offer_state` (:309) with the key
columns hold by the shape of the rows. -/
def routingOfferState (offerStates : OfferStates) (key : OfferKey) :
    Except ReceiptCheckpointDaoError (Option RoutingReceiptOfferState) :=
  match offerStates.find key with
  | none => .ok none
  | some state => do
    failIf (state.lastSignedReceipt.receipt.serviceKind ≠ .routing) .offerStateIdentityMismatch
    return some state

/-- receipt_checkpoint_dao.rs:593: insert the first offer of a stream or advance it by one. The update's row
count is one, since the row was read in the same transaction. -/
def advanceOfferState (state : RoutingReceiptOfferState) (maximumStates : Nat) (offerStates : OfferStates)
    (existingOpt : Option RoutingReceiptOfferState) : Except ReceiptCheckpointDaoError OfferStates :=
  let receipt := state.lastSignedReceipt.receipt
  match existingOpt with
  | some existing =>
    if existing = state then .ok offerStates
    else do
      let previous := existing.lastSignedReceipt.receipt
      failIf (state.expiresAtUnixS ≠ existing.expiresAtUnixS ∨
        receipt.accountingCommitment ≠ previous.accountingCommitment ∨ receipt.serviceRate ≠ previous.serviceRate ∨
        receipt.byteRate ≠ previous.byteRate ∨ checkedAdd 64 previous.sequence 1 ≠ some receipt.sequence ∨
        receipt.cumulativeChargeWei ≤ previous.cumulativeChargeWei) .staleOfferState
      return offerStates.put state
  | none => do
    failIf (receipt.sequence ≠ 1) .staleOfferState
    failIf (offerStates.rows.length ≥ maximumStates) .offerStateCapacityExceeded
    return offerStates.put state

/-- receipt_checkpoint_dao.rs:545: expired states are deleted first. -/
def saveRoutingOfferState (state : RoutingReceiptOfferState) (now maximumStates : Nat) (offerStates : OfferStates) :
    Except ReceiptCheckpointDaoError OfferStates := do
  let receipt := state.lastSignedReceipt.receipt
  failIf (receipt.serviceKind ≠ .routing ∨ state.authorizationNonce = 0 ∨ state.payerSessionPublicKey = [] ∨
    receipt.routeEpoch = 0 ∨ receipt.providerPublicKey = [] ∨ state.expiresAtUnixS < now) .offerStateIdentityMismatch
  let offerStates := offerStates.deleteWhere (·.expiresAtUnixS < now)
  let existingOpt ← routingOfferState offerStates state.key
  advanceOfferState state maximumStates offerStates existingOpt

/-- `MAX_ROUTING_RECEIPT_SESSION_STATES` (routing_service.rs:35). -/
def maxRoutingReceiptSessionStates : Nat := 4096

structure RoutingNode where
  cryptde : CryptDE
  chainId : Nat
  settlementContract : Address
  perRoutingService : Nat
  perRoutingByte : Nat

/-- Why a packet is refused (the texts of `make_routing_receipt_offer`); it is only logged. -/
inductive RoutingOfferError where
  | invalidAuthorization (error : ServiceReceiptError)
  | load (error : ReceiptCheckpointDaoError)
  | acknowledgementIdentityChanged
  | receiptIdentityChanged
  | invalidSignature (error : ServiceReceiptError)
  | sequenceExhausted
  | advance (error : ServiceReceiptError)
  | sign (error : ServiceReceiptError)
  | inconsistentAcknowledgement
  | acknowledgementWithoutOffer
  | exceedsAuthorization (error : ServiceReceiptError)
  | persist (error : ReceiptCheckpointDaoError)

namespace RoutingNode

variable (P : Primitives) (node : RoutingNode) (request : ReceiptSessionRequest)

def payerKey : PublicKey := request.authorization.policy.payerSessionPublicKey

def streamId : StreamId := (request.routeEpoch, node.cryptde.publicKey, payerKey request)

def offerKey : OfferKey :=
  (request.authorization.policy.authorizationNonce, request.routeEpoch, node.cryptde.publicKey, payerKey request)

/-- routing_service.rs:761: the stored offer is of this request and at the configured rates. -/
def checkOfferState (state : RoutingReceiptOfferState) : Except RoutingOfferError Unit := do
  let previous := state.lastSignedReceipt.receipt
  failIf (state.authorizationNonce ≠ request.authorization.policy.authorizationNonce ∨
    state.payerSessionPublicKey ≠ payerKey request ∨
    state.expiresAtUnixS ≠ request.authorization.policy.expiresAtUnixS ∨ previous.routeEpoch ≠ request.routeEpoch ∨
    previous.providerPublicKey ≠ node.cryptde.publicKey ∨
    previous.accountingCommitment ≠ request.accountingCommitment ∨ previous.serviceKind ≠ .routing ∨
    previous.serviceRate ≠ node.perRoutingService ∨ previous.byteRate ≠ node.perRoutingByte) .receiptIdentityChanged
  let _ ← mapErr .invalidSignature (state.lastSignedReceipt.verify P node.cryptde)

/-- routing_service.rs:786: the offer after an acknowledged one. -/
def advanceOffer (previous : ServiceReceipt) (size : Nat) : Except RoutingOfferError SignedServiceReceipt := do
  let nextSequence ← okOr (checkedAdd 64 previous.sequence 1) .sequenceExhausted
  let receipt ← mapErr .advance
    (previous.nextForSameRoute nextSequence .routing size node.perRoutingService node.perRoutingByte)
  mapErr .sign (receipt.sign P node.cryptde)

/-- The offer for a packet, and whether it is a new one. -/
def chooseOffer (size : Nat) (stateOpt : Option RoutingReceiptOfferState)
    (checkpointOpt : Option ReceiptSequenceCheckpoint) : Except RoutingOfferError (SignedServiceReceipt × Bool) :=
  match stateOpt with
  | some state => do
    checkOfferState P node request state
    let previous := state.lastSignedReceipt.receipt
    match checkpointOpt with
    | none => return (state.lastSignedReceipt, false)
    | some checkpoint =>
      if checkpoint.lastSequence = previous.sequence ∧
          checkpoint.cumulativeChargeWei = previous.cumulativeChargeWei then
        let offer ← advanceOffer P node previous size
        return (offer, true)
      else if checkpoint.lastSequence < previous.sequence ∧
          checkpoint.cumulativeChargeWei < previous.cumulativeChargeWei then
        return (state.lastSignedReceipt, false)
      else .error .inconsistentAcknowledgement
  | none =>
    match checkpointOpt with
    | some _ => .error .acknowledgementWithoutOffer
    | none => do
      let offer ← mapErr .sign ((ServiceReceipt.new request.routeEpoch 1 .routing node.cryptde.publicKey
        request.accountingCommitment size node.perRoutingService node.perRoutingByte).sign P node.cryptde)
      return (offer, true)

/-- routing_service.rs:749 -/
def checkAcknowledgement (checkpointOpt : Option ReceiptSequenceCheckpoint) : Except RoutingOfferError Unit :=
  failIf (∃ checkpoint ∈ checkpointOpt, checkpoint.routeEpoch ≠ request.routeEpoch ∨
    checkpoint.providerPublicKey ≠ node.cryptde.publicKey ∨ checkpoint.payerSessionPublicKey ≠ payerKey request ∨
    checkpoint.accountingCommitment ≠ request.accountingCommitment) .acknowledgementIdentityChanged

/-- routing_service.rs:861: a new offer is stored before it is sent. -/
def persistOffer (offer : SignedServiceReceipt) (isNew : Bool) (now : Nat)
    (offerStates : OfferStates) : Except RoutingOfferError OfferStates :=
  if isNew then
    mapErr .persist (saveRoutingOfferState ⟨request.authorization.policy.authorizationNonce, payerKey request,
      request.authorization.policy.expiresAtUnixS, offer⟩ now maxRoutingReceiptSessionStates offerStates)
  else .ok offerStates

/-- The offer to send with a packet of `size` bytes, and the database after it; an error leaves the
database as it was, and the packet is not routed. -/
def makeRoutingReceiptOffer (size now : Nat) (db : RoutingDb) :
    Except RoutingOfferError (SignedServiceReceipt × RoutingDb) := do
  mapErr .invalidAuthorization (request.verify P node.chainId node.settlementContract now)
  let stateOpt ← mapErr .load (routingOfferState db.offerStates (node.offerKey request))
  let checkpointOpt := db.receipts.checkpoints.find (node.streamId request)
  checkAcknowledgement node request checkpointOpt
  let (offer, isNew) ← chooseOffer P node request size stateOpt checkpointOpt
  mapErr .exceedsAuthorization (request.authorization.verify P node.chainId node.settlementContract (payerKey request)
    now offer.receipt.cumulativeChargeWei)
  let offerStates ← persistOffer request offer isNew now db.offerStates
  return (offer, { db with offerStates })

def nextCheckpoint (acknowledged : AcknowledgedServiceReceipt) (checkpointOpt : Option ReceiptSequenceCheckpoint) :
    Except ServiceReceiptError ReceiptSequenceCheckpoint :=
  match checkpointOpt with
  | some checkpoint => checkpoint.advanceForSettlement P acknowledged node.cryptde
  | none => ReceiptSequenceCheckpoint.beginForSettlement P acknowledged node.cryptde

/-- routing_service.rs:497: what is refused leaves the database as it was. -/
def acceptServiceReceipt (payload : ServiceReceiptPayload) (now : Nat) (db : RoutingDb) : RoutingDb :=
  let acknowledged := payload.acknowledgedReceipt
  if payload.receipt.providerPublicKey ≠ node.cryptde.publicKey then db
  else
    match payload.authorization.verifyForReceipt P acknowledged node.cryptde node.chainId
      node.settlementContract now with
    | .error _ => db
    | .ok _ =>
      match nextCheckpoint P node acknowledged (db.receipts.checkpoints.find payload.streamId) with
      | .error _ => db
      | .ok checkpoint =>
        { db with receipts := (acceptVerifiedReceipt P (fun _ => none) payload checkpoint now db.receipts).2 }

end RoutingNode

end MasqMobile

import MasqMobile.Lib.WireFormat
import MasqMobile.Neighborhood.Steps

/-!
# Records on the wire

`serde_cbor` is outside this repository. What the Neighborhood relies on is that a record is read as it was written
(`RoundTrips`). A small network whose records do round trip has this format instead of CBOR.
-/

namespace MasqMobile

/-- A record that has been written is read as it was. -/
def RoundTrips (C : GossipPrimitives) : Prop := ∀ inner, C.fromCbor (C.toCbor inner) = some inner

namespace WireFormat

def bitVec (w : Nat) : WireFormat (BitVec w) := nat.retract (BitVec.ofNat w) BitVec.toNat (by simp)

def byte : WireFormat UInt8 := nat.retract UInt8.ofNat UInt8.toNat (by simp)

def text : WireFormat String :=
  (nat.retract Char.ofNat Char.toNat Char.ofNat_toNat).list.retract String.ofList String.toList fun _ =>
    String.ofList_toList

def ratePack : WireFormat RatePack := (nat.prod (nat.prod (nat.prod nat))).retract (fun (a, b, c, d) => ⟨a, b, c, d⟩)
    (fun r => (r.routingByteRate, r.routingServiceRate, r.exitByteRate, r.exitServiceRate)) fun _ => rfl

def nodeRecordInner : WireFormat NodeRecordInner :=
  (byte.list.prod ((bitVec 160).prod (ratePack.prod (byte.list.list.prod (bool.prod (bool.prod (nat.prod
    (text.option.prod ((bitVec 64).prod (bitVec 160).option))))))))).retract
    (fun (a, b, c, d, e, f, g, h, i, j) => ⟨a, b, c, d, e, f, g, h, i, j⟩)
    (fun r => (r.publicKey, r.earningWallet, r.ratePack, r.neighbors, r.acceptsConnections, r.routesData, r.version,
      r.countryCodeOpt, r.protocolCapabilities, r.receiptSettlementContractOpt)) fun _ => rfl

end WireFormat

namespace SmallNetwork

/-- The primitives of a Node whose records round trip. -/
def wired : GossipPrimitives where
  toCbor := WireFormat.nodeRecordInner.bytes
  fromCbor := WireFormat.nodeRecordInner.ofBytes
  signDetached _ := List.replicate 64 0
  verifyDetached _ _ _ := true
  preSharedData := []
  findCountry
    | .v4 host => countryCodeOpt (UInt8.ofNat host.toNat)
    | .v6 _ => none

theorem wired_roundTrips : RoundTrips wired := WireFormat.ofBytes_bytes _

def wiredNode : Neighborhood := { node with
    database := .ofRoot
      (NeighborhoodDatabase.firstRecord wired 0 (.standard ⟨ip 0, [5000]⟩ ⟨1, 10, 2, 20⟩) 0 (key 0) none) }

theorem wiredNode_isFresh : wiredNode.IsFresh wired where
  database := ⟨0, .standard ⟨ip 0, [5000]⟩ ⟨1, 10, 2, 20⟩, 0, key 0, none, rfl⟩
  preferences := rfl

def wiredRecord (id version country : UInt8) (neighbors : List UInt8) (nodeAddrOpt : Option NodeAddr) :
    GossipNodeRecord :=
  ⟨wired.toCbor (inner id version country neighbors), List.replicate 64 0, nodeAddrOpt⟩

end SmallNetwork

end MasqMobile

import MasqMobile.Lib.Abi
import MasqMobile.Settlement.Hex

/-!
# The settlement batcher: calldata and manifests

`node/src/sub_lib/settlement_batcher.rs`. The batcher turns an exported batch into the calldata of
`submitBatchWithSessions`, checks it against one block of the chain, and writes a manifest; before the transaction is
broadcast or tracked, the manifest is validated again from its text alone.

| here | there |
| --- | --- |
| `Rpc` | the answers of the node behind the transport |
| `Codecs` | `ethabi` and `serde_cbor`, outside the repository |

`U256` values are `Nat`. The errors of signing, broadcasting and tracking a transaction are left out, as is the
manifest without a preflight (`prepare_submission_manifest`), which is never validated.
-/

namespace MasqMobile

open Fallible Lists Abi

/-- settlement_batcher.rs:126 -/
inductive SettlementBatcherError where
  | batchTooLarge (count : Nat)
  | batcherRoleMissing (address : Address)
  | chainIdMismatch (expected actual : Nat)
  | decode (message : String)
  | emptyBatcherAddress
  | invalidRpcResponse (field : String)
  | nonCanonicalCbor
  | proof (error : ReceiptSettlementError)
  | providerAuthorizationExpiryTooClose (remainingSeconds : Nat)
  | rpc (message : String)
  | rpcBlockInFuture (blockUnixS nowUnixS : Nat)
  | rpcBlockStale (blockUnixS nowUnixS : Nat)
  | rpcChainIdMismatch (expected actual : Nat)
  | serialize (message : String)
  | submissionPolicy (message : String)
  | trackingManifest (message : String)
  deriving DecidableEq

/-- settlement_batcher.rs:63 -/
structure SettlementRpcPreflight where
  observedBlockNumber : Nat
  observedBlockHash : String
  observedBlockTimestampUnixS : Nat
  settlementContractCodeKeccak256 : String
  batcherAddress : String
  providerAuthorizationRemainingSeconds : Nat
  batcherRoleAuthorized : Bool
  submitBatchSimulated : Bool

/-- settlement_batcher.rs:41 -/
structure SettlementSubmissionManifest where
  manifestVersion : Nat
  assuranceMode : String
  chainId : Nat
  settlementContract : String
  verificationTimeUnixS : Nat
  batchSequence : Nat
  claimCount : Nat
  claimIds : List String
  portableMerkleRoot : String
  contractMerkleRoot : String
  totalCumulativeChargeWei : String
  batchCborKeccak256 : String
  calldataKeccak256 : String
  valueWei : String
  calldata : String
  rpcPreflightOpt : Option SettlementRpcPreflight

/-- settlement_batcher.rs:987 -/
structure ValidatedTrackingManifest where
  settlementContract : Address
  batcherAddress : Address
  settlementCodeHash : Bytes32
  contractMerkleRoot : Bytes32
  calldata : List UInt8

/-- What the batcher calls besides `Primitives`. -/
structure Codecs where
  abi : Codec
  /-- `serde_cbor::from_slice`. -/
  batchFromSlice : List UInt8 → Except String ReceiptSettlementBatch
  /-- `serde_cbor::to_vec`. -/
  batchToVec : ReceiptSettlementBatch → Except String (List UInt8)

/-- The fields of `web3::types::Block` that are read. -/
structure RpcBlock where
  hash : Option Bytes32
  number : Option Nat
  timestamp : Nat
  gasLimit : Nat

/-- `web3::types::CallRequest`, without the gas price (none) and the value (zero). -/
structure CallRequest where
  sender : Option Address
  recipient : Address
  gas : Option Nat
  data : List UInt8

/-- What the node answers. In `getCode` and `call`, `none` is an answer that is not a byte string. -/
structure Rpc where
  chainId : Except String Nat
  blockNumber : Except String Nat
  block : Nat → Except String (Option RpcBlock)
  getCode : Address → Bytes32 → Except String (Option (List UInt8))
  call : CallRequest → Bytes32 → Except String (Option (List UInt8))

def maxBatcherClaims : Nat := 128
def maxRpcBlockAgeSeconds : Nat := 300
def maxRpcBlockFutureDriftSeconds : Nat := 30
def minProviderAuthorizationRemainingSeconds : Nat := 60

variable (P : Primitives)

/-- The first four bytes of the hash of a function's signature. -/
def selector (signature : String) : List UInt8 := (wordBytes (P.keccak256 (bytesOf signature))).take 4

def submitBatchWithSessionsSignature : String :=
  "submitBatchWithSessions((uint16,address,bytes,uint256,uint64,uint64,bytes32)[],bytes[],uint64,bytes32," ++
    "(bytes32,bytes32,address,address,uint128)[])"

/-! ## The calldata -/

/-- The session id of an authorization, and the authorization. -/
abbrev Registration := Bytes32 × AuthorizedReceiptSession

def AuthorizedReceiptSession.registration (a : AuthorizedReceiptSession) : Registration :=
  (receiptSessionContractId P a.policy.payerWalletAddress a.policy.authorizationNonce, a)

/-- One session id is registered once, with the authorization of the first claim under it. -/
def ReceiptSettlementBatch.registrations (b : ReceiptSettlementBatch) : List Registration :=
  dedupBy (·.1) (sortBy (·.1) (b.claims.map (·.receiptPayload.authorization.registration P)))

def ReceiptSessionPolicy.token (policy : ReceiptSessionPolicy) : Token :=
  .tuple [.uint policy.protocolVersion, .address policy.payerWalletAddress, .bytes policy.payerSessionPublicKey,
    .uint policy.maxTotalChargeWei, .uint policy.validFromUnixS, .uint policy.expiresAtUnixS,
    .fixedBytes (wordBytes policy.authorizationNonce)]

def WalletSignature.token (signature : WalletSignature) : Token :=
  .bytes (wordBytes signature.r ++ (wordBytes signature.s ++ [signature.v + 27]))

def ReceiptSettlementContractClaim.token (claim : ReceiptSettlementContractClaim) : Token :=
  .tuple [.fixedBytes (wordBytes claim.claimId), .fixedBytes (wordBytes claim.sessionId),
    .address claim.payerWalletAddress, .address claim.payoutWalletAddress, .uint claim.cumulativeChargeWei]

/-- The arguments of `submitBatchWithSessions`. -/
def ReceiptSettlementBatch.submissionTokens (b : ReceiptSettlementBatch) (batchSequence : Nat) : List Token :=
  [.array ((b.registrations P).map (·.2.policy.token)), .array ((b.registrations P).map (·.2.walletSignature.token)),
    .uint batchSequence, .fixedBytes (wordBytes b.contractMerkleRoot), .array (b.contractClaims.map (·.token))]

/-- Their types (settlement_batcher.rs:1063). -/
def submissionTypes : List ParamType :=
  [.array (.tuple [.uint 16, .address, .bytes, .uint 256, .uint 64, .uint 64, .fixedBytes 32]), .array .bytes,
    .uint 64, .fixedBytes 32, .array (.tuple [.fixedBytes 32, .fixedBytes 32, .address, .address, .uint 128])]

variable (C : Codecs)

/-- settlement_batcher.rs:1677 -/
def submitBatchWithSessionsCalldata (batchSequence : Nat) (b : ReceiptSettlementBatch) : List UInt8 :=
  selector P submitBatchWithSessionsSignature ++ C.abi.encode (b.submissionTokens P batchSequence)

/-! ## The producer -/

/-- `format!("0x{}", bytes.to_hex())`; `{:#x}` of a hash or an address writes the same. -/
def hexText (bytes : List UInt8) : String := "0x" ++ toHex bytes

/-- settlement_batcher.rs:1498 -/
def manifestFromVerifiedBatch (canonicalBatchCbor : List UInt8)
    (batch : ReceiptSettlementBatch) (batchSequence verificationTimeUnixS : Nat)
    (rpcPreflightOpt : Option SettlementRpcPreflight) : SettlementSubmissionManifest :=
  let calldata := submitBatchWithSessionsCalldata P C batchSequence batch
  { manifestVersion := 1
    assuranceMode := if rpcPreflightOpt.isSome then "rpc-bound-preflight" else "offline-manual-sequence"
    chainId := batch.chainId
    settlementContract := hexText (addressBytes batch.settlementContract)
    verificationTimeUnixS
    batchSequence
    claimCount := batch.contractClaims.length
    claimIds := batch.contractClaims.map fun claim => hexText (wordBytes claim.claimId)
    portableMerkleRoot := hexText (wordBytes batch.merkleRoot)
    contractMerkleRoot := hexText (wordBytes batch.contractMerkleRoot)
    totalCumulativeChargeWei := batch.totalClaimedWei.repr
    batchCborKeccak256 := hexText (wordBytes (P.keccak256 canonicalBatchCbor))
    calldataKeccak256 := hexText (wordBytes (P.keccak256 calldata))
    valueWei := "0"
    calldata := hexText calldata
    rpcPreflightOpt }

/-- settlement_batcher.rs:1418 -/
def decodeCanonicalBatch (canonicalBatchCbor : List UInt8) (expectedChainId : Nat) :
    Except SettlementBatcherError ReceiptSettlementBatch := do
  let batch ← mapErr .decode (C.batchFromSlice canonicalBatchCbor)
  let reencoded ← mapErr .serialize (C.batchToVec batch)
  failIf (reencoded ≠ canonicalBatchCbor) .nonCanonicalCbor
  failIf (batch.chainId ≠ expectedChainId) (.chainIdMismatch expectedChainId batch.chainId)
  failIf (batch.claims.length > maxBatcherClaims) (.batchTooLarge batch.claims.length)
  return batch

/-- settlement_batcher.rs:1453 -/
def validateRpcBlockFreshness (blockUnixS nowUnixS : Nat) : Except SettlementBatcherError Unit := do
  failIf (blockUnixS > min (nowUnixS + maxRpcBlockFutureDriftSeconds) (2 ^ 64 - 1))
    (.rpcBlockInFuture blockUnixS nowUnixS)
  failIf (nowUnixS - blockUnixS > maxRpcBlockAgeSeconds) (.rpcBlockStale blockUnixS nowUnixS)

/-- settlement_batcher.rs:1472 -/
def providerAuthorizationRemainingSeconds (batch : ReceiptSettlementBatch) (observedBlockTimestampUnixS : Nat) :
    Except SettlementBatcherError Nat := do
  let remainingSeconds ← okOr
    (batch.claims.map fun claim => claim.providerSettlement.policy.expiresAtUnixS - observedBlockTimestampUnixS).min?
    (.invalidRpcResponse "provider payout authorization")
  failIf (remainingSeconds < minProviderAuthorizationRemainingSeconds)
    (.providerAuthorizationExpiryTooClose remainingSeconds)
  return remainingSeconds

/-- settlement_batcher.rs:1534 -/
def contractCodeAtHash (rpc : Rpc) (settlementContract : Address) (blockHash : Bytes32) :
    Except SettlementBatcherError (List UInt8) := do
  let value ← mapErr .rpc (rpc.getCode settlementContract blockHash)
  okOr value (.invalidRpcResponse "settlement contract code")

/-- settlement_batcher.rs:1606 -/
def contractCallAtHash (rpc : Rpc) (settlementContract : Address) (sender : Option Address) (gas : Option Nat)
    (data : List UInt8) (blockHash : Bytes32) : Except SettlementBatcherError (List UInt8) := do
  let value ← mapErr .rpc (rpc.call { sender, recipient := settlementContract, gas, data } blockHash)
  okOr value (.invalidRpcResponse "eth_call")

/-- settlement_batcher.rs:1640 -/
def responseWord (response : List UInt8) (field : String) : Except SettlementBatcherError (List UInt8) := do
  failIf (response.length ≠ 32) (.invalidRpcResponse field)
  return response

/-- settlement_batcher.rs:1556 -/
def nextBatchSequenceAtHash (rpc : Rpc) (settlementContract : Address) (blockHash : Bytes32) :
    Except SettlementBatcherError Nat := do
  let response ← contractCallAtHash rpc settlementContract none none (selector P "nextBatchSequence()") blockHash
  let word ← responseWord response "nextBatchSequence"
  failIf (∃ byte ∈ word.take 24, byte ≠ 0) (.invalidRpcResponse "nextBatchSequence")
  return (ofBytes 64 (word.drop 24)).toNat

/-- settlement_batcher.rs:1580 -/
def batcherHasRoleAtHash (rpc : Rpc) (settlementContract batcherAddress : Address)
    (blockHash : Bytes32) : Except SettlementBatcherError Bool := do
  let calldata := selector P "hasRole(bytes32,address)" ++
    C.abi.encode [.fixedBytes (wordBytes (P.keccak256 (bytesOf "BATCHER_ROLE"))), .address batcherAddress]
  let response ← contractCallAtHash rpc settlementContract none none calldata blockHash
  let word ← responseWord response "hasRole"
  failIf ((∃ byte ∈ word.take 31, byte ≠ 0) ∨ word.getD 31 0 > 1) (.invalidRpcResponse "hasRole")
  return word.getD 31 0 = 1

/-- settlement_batcher.rs:302. `receiptVerifier` is the key pair that `CryptDEReal::new` makes for the chain. -/
def prepareRpcBoundSubmissionManifest (rpc : Rpc) (receiptVerifier : CryptDE)
    (canonicalBatchCbor : List UInt8) (expectedChainId : Nat) (batcherAddress : Address) (systemNowUnixS : Nat)
    (simulationGasOpt : Option Nat) : Except SettlementBatcherError SettlementSubmissionManifest := do
  failIf (batcherAddress = 0) .emptyBatcherAddress
  let batch ← decodeCanonicalBatch C canonicalBatchCbor expectedChainId
  let rpcChainId ← mapErr .rpc rpc.chainId
  failIf (rpcChainId ≠ expectedChainId) (.rpcChainIdMismatch expectedChainId rpcChainId)
  let observedBlockNumber ← mapErr .rpc rpc.blockNumber
  let blockOpt ← mapErr .rpc (rpc.block observedBlockNumber)
  let block ← okOr blockOpt (.invalidRpcResponse "latest block")
  failIf (block.number ≠ some observedBlockNumber) (.invalidRpcResponse "latest block number")
  let observedBlockHash ← okOr block.hash (.invalidRpcResponse "latest block hash")
  failIf (block.timestamp ≥ 2 ^ 64) (.invalidRpcResponse "latest block timestamp")
  let observedBlockTimestampUnixS := block.timestamp
  validateRpcBlockFreshness observedBlockTimestampUnixS systemNowUnixS
  mapErr .proof (batch.verifyExported P observedBlockTimestampUnixS receiptVerifier)
  let remainingSeconds ← providerAuthorizationRemainingSeconds batch observedBlockTimestampUnixS
  let contractCode ← contractCodeAtHash rpc batch.settlementContract observedBlockHash
  failIf (contractCode = []) (.invalidRpcResponse "settlement contract code")
  let batchSequence ← nextBatchSequenceAtHash P rpc batch.settlementContract observedBlockHash
  let hasRole ← batcherHasRoleAtHash P C rpc batch.settlementContract batcherAddress observedBlockHash
  failIf (hasRole = false) (.batcherRoleMissing batcherAddress)
  let calldata := submitBatchWithSessionsCalldata P C batchSequence batch
  let simulationGas := simulationGasOpt.getD block.gasLimit
  failIf (simulationGas = 0 ∨ simulationGas > block.gasLimit)
    (.submissionPolicy "signed gas limit is zero or exceeds the current block gas limit")
  let simulationResult ← contractCallAtHash rpc batch.settlementContract (some batcherAddress) (some simulationGas)
    calldata observedBlockHash
  failIf (simulationResult ≠ []) (.invalidRpcResponse "submitBatchWithSessions simulation")
  let preflight : SettlementRpcPreflight :=
    { observedBlockNumber
      observedBlockHash := hexText (wordBytes observedBlockHash)
      observedBlockTimestampUnixS
      settlementContractCodeKeccak256 := hexText (wordBytes (P.keccak256 contractCode))
      batcherAddress := hexText (addressBytes batcherAddress)
      providerAuthorizationRemainingSeconds := remainingSeconds
      batcherRoleAuthorized := true
      submitBatchSimulated := true }
  return manifestFromVerifiedBatch P C canonicalBatchCbor batch batchSequence observedBlockTimestampUnixS
    (some preflight)

/-! ## The consumer -/

/-- settlement_batcher.rs:1398 -/
def trackingManifestError (message : String) : SettlementBatcherError := .trackingManifest message

/-- The common body of `parse_address` (settlement_batcher.rs:1362) and `parse_hash` (1373): the length of the text
is that of its UTF-8 encoding, and `from_str` of the remaining digits wants exactly `size` bytes. -/
def parseFixedBytes (size : Nat) (value field : String) : Except SettlementBatcherError (List UInt8) := do
  failIf (value.utf8ByteSize ≠ 2 + 2 * size ∨ value.toList.take 2 ≠ ['0', 'x'])
    (trackingManifestError s!"{field} must be exactly {size} bytes of 0x-prefixed hexadecimal")
  let bytes ← mapErr (fun _ => trackingManifestError s!"{field} is invalid")
    (P.fromHex (String.ofList (value.toList.drop 2)))
  failIf (bytes.length ≠ size) (trackingManifestError s!"{field} is invalid")
  return bytes

/-- settlement_batcher.rs:1362 -/
def parseAddress (value field : String) : Except SettlementBatcherError Address := do
  let bytes ← parseFixedBytes P 20 value field
  return ofBytes 160 bytes

/-- settlement_batcher.rs:1373 -/
def parseHash (value field : String) : Except SettlementBatcherError Bytes32 := do
  let bytes ← parseFixedBytes P 32 value field
  return ofBytes 256 bytes

/-- settlement_batcher.rs:1384 -/
def parsePrefixedHex (value field : String) : Except SettlementBatcherError (List UInt8) := do
  failIf (value.toList.take 2 ≠ ['0', 'x']) (trackingManifestError s!"{field} is not 0x-prefixed")
  let hex := String.ofList (value.toList.drop 2)
  failIf (hex.utf8ByteSize % 2 ≠ 0) (trackingManifestError s!"{field} does not contain whole bytes")
  mapErr (fun _ => trackingManifestError s!"{field} contains invalid hexadecimal") (P.fromHex hex)

def fromDecStr (text : String) : Option Nat := if text.toList.all Char.isDigit then
    text.toList.foldlM
      (fun n c => (checkedMul 256 10 n).bind fun tens => checkedAdd 256 tens (c.toNat - '0'.toNat)) 0
  else none

def sortDedup (ids : List Bytes32) : List Bytes32 := dedupBy id (sortBy id ids)

/-- One round of the loop over the registrations (settlement_batcher.rs:1116). -/
def registeredSessionId (authorization signature : Token) : Except SettlementBatcherError Bytes32 := do
  let fields ← okOr (authorization.tuple?.filter (·.length = 7))
    (trackingManifestError "calldata authorization tuple is invalid")
  let payer ← okOr (fields[1]?.bind Token.address?) (trackingManifestError "calldata payer is invalid")
  let authorizationNonce ← okOr ((fields[6]?.bind Token.fixedBytes?).filter (·.length = 32))
    (trackingManifestError "calldata authorization nonce is invalid")
  let _ ← okOr
    (signature.bytes?.filter fun bytes => bytes.length = 65 ∧ (bytes.getD 64 0 = 27 ∨ bytes.getD 64 0 = 28))
    (trackingManifestError "calldata wallet signature is invalid")
  return receiptSessionContractId P payer (ofBytes 256 authorizationNonce)

/-- One round of the loop over the claims (settlement_batcher.rs:1184): the sum and the session ids so far. -/
def claimedSession (acc : Nat × List Bytes32) (claim : Token × Bytes32) :
    Except SettlementBatcherError (Nat × List Bytes32) := do
  let fields ← okOr (claim.1.tuple?.filter (·.length = 5)) (trackingManifestError "calldata claim tuple is invalid")
  let claimId ← okOr (fields[0]?.bind Token.fixedBytes?) (trackingManifestError "calldata claim ID is invalid")
  failIf (claimId ≠ wordBytes claim.2) (trackingManifestError "calldata claim ID does not match manifest")
  let sessionId ← okOr ((fields[1]?.bind Token.fixedBytes?).filter (·.length = 32))
    (trackingManifestError "calldata session ID is invalid")
  let cumulativeCharge ← okOr (fields[4]?.bind Token.uint?)
    (trackingManifestError "calldata cumulative charge is invalid")
  let total ← okOr (checkedAdd 256 acc.1 cumulativeCharge) (trackingManifestError "cumulative charge sum overflows")
  return (total, acc.2 ++ [ofBytes 256 sessionId])

/-- The tokens of the calldata against the manifest (settlement_batcher.rs:1096 to 1226). The claims and the parsed
claim ids are equally many when they are walked together. -/
def validateTokens (manifest : SettlementSubmissionManifest) (parsedClaimIds : List Bytes32)
    (contractMerkleRoot : Bytes32) (tokens : List Token) : Except SettlementBatcherError Unit := do
  let authorizations ← okOr (tokens[0]?.bind Token.array?) (trackingManifestError "calldata authorizations are invalid")
  let signatures ← okOr (tokens[1]?.bind Token.array?) (trackingManifestError "calldata signatures are invalid")
  failIf (authorizations.length ≠ signatures.length ∨ authorizations.length = 0 ∨
    authorizations.length > manifest.claimCount ∨ authorizations.length > maxBatcherClaims)
    (trackingManifestError "calldata session registration count is invalid")
  let registeredSessionIds ← (authorizations.zip signatures).mapM fun p => registeredSessionId P p.1 p.2
  failIf ((sortDedup registeredSessionIds).length ≠ authorizations.length)
    (trackingManifestError "calldata session registrations are not unique")
  let sequence ← okOr (tokens[2]?.bind Token.uint?) (trackingManifestError "calldata sequence is invalid")
  failIf (sequence ≠ manifest.batchSequence) (trackingManifestError "calldata sequence does not match manifest")
  let root ← okOr (tokens[3]?.bind Token.fixedBytes?) (trackingManifestError "calldata Merkle root is invalid")
  failIf (root ≠ wordBytes contractMerkleRoot) (trackingManifestError "calldata Merkle root does not match manifest")
  let claims ← okOr (tokens[4]?.bind Token.array?) (trackingManifestError "calldata claims are invalid")
  failIf (claims.length ≠ manifest.claimCount)
    (trackingManifestError "calldata claim count does not match manifest")
  let claimed ← (claims.zip parsedClaimIds).foldlM claimedSession (0, [])
  failIf (sortDedup claimed.2 ≠ sortDedup registeredSessionIds)
    (trackingManifestError "calldata registrations do not cover the claim sessions")
  let manifestTotal ← okOr (fromDecStr manifest.totalCumulativeChargeWei)
    (trackingManifestError "total cumulative charge is invalid")
  failIf (manifestTotal ≠ claimed.1)
    (trackingManifestError "calldata cumulative charge total does not match manifest")

/-- settlement_batcher.rs:995 -/
def validateTrackingManifest (manifest : SettlementSubmissionManifest) :
    Except SettlementBatcherError ValidatedTrackingManifest := do
  failIf (manifest.manifestVersion ≠ 1) (trackingManifestError "unsupported manifest version")
  failIf (manifest.assuranceMode ≠ "rpc-bound-preflight")
    (trackingManifestError "only rpc-bound-preflight manifests can be tracked")
  failIf (manifest.chainId = 0) (trackingManifestError "chain ID cannot be zero")
  failIf (manifest.valueWei ≠ "0") (trackingManifestError "transaction value must be zero")
  failIf (manifest.claimCount = 0 ∨ manifest.claimCount > maxBatcherClaims)
    (trackingManifestError "claim count is outside the safety limit")
  failIf (manifest.claimIds.length ≠ manifest.claimCount)
    (trackingManifestError "claim ID count does not match claim count")
  let parsedClaimIds ← manifest.claimIds.mapM fun claimId => parseHash P claimId "claim ID"
  failIf ((sortDedup parsedClaimIds).length ≠ parsedClaimIds.length)
    (trackingManifestError "claim IDs are not unique")
  let settlementContract ← parseAddress P manifest.settlementContract "settlement contract"
  failIf (settlementContract = 0) (trackingManifestError "settlement contract cannot be zero")
  let contractMerkleRoot ← parseHash P manifest.contractMerkleRoot "contract Merkle root"
  let _ ← parseHash P manifest.portableMerkleRoot "portable Merkle root"
  let _ ← parseHash P manifest.batchCborKeccak256 "batch CBOR hash"
  let calldataHash ← parseHash P manifest.calldataKeccak256 "calldata hash"
  let calldata ← parsePrefixedHex P manifest.calldata "calldata"
  failIf (P.keccak256 calldata ≠ calldataHash) (trackingManifestError "calldata hash does not match calldata")
  failIf (calldata.length < 4 ∨ calldata.take 4 ≠ selector P submitBatchWithSessionsSignature)
    (trackingManifestError "calldata selector is not submitBatchWithSessions")
  let tokens ← mapErr (fun _ => trackingManifestError "calldata ABI is invalid")
    (C.abi.decode submissionTypes (calldata.drop 4))
  failIf (C.abi.encode tokens ≠ calldata.drop 4) (trackingManifestError "calldata ABI is non-canonical")
  validateTokens P manifest parsedClaimIds contractMerkleRoot tokens
  let preflight ← okOr manifest.rpcPreflightOpt (trackingManifestError "RPC preflight evidence is missing")
  failIf (preflight.batcherRoleAuthorized = false ∨ preflight.submitBatchSimulated = false)
    (trackingManifestError "RPC preflight did not pass")
  failIf (preflight.observedBlockTimestampUnixS ≠ manifest.verificationTimeUnixS)
    (trackingManifestError "preflight timestamp does not match verification time")
  failIf (preflight.providerAuthorizationRemainingSeconds < minProviderAuthorizationRemainingSeconds)
    (trackingManifestError "provider payout authorization margin is too short")
  let _ ← parseHash P preflight.observedBlockHash "preflight block hash"
  let settlementCodeHash ← parseHash P preflight.settlementContractCodeKeccak256 "settlement contract code hash"
  let batcherAddress ← parseAddress P preflight.batcherAddress "batcher address"
  failIf (batcherAddress = 0) (trackingManifestError "batcher address cannot be zero")
  return { settlementContract, batcherAddress, settlementCodeHash, contractMerkleRoot, calldata }

end MasqMobile

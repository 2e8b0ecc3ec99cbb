import EthersProviders.Dispatch
import EthersProviders.Abi

/-!
# The provider's methods

The `Middleware` implementation of `Provider`, in the order of the source, with the ENS resolution it
rests on (`query_resolver`, `decode_bytes`) and the parts of `ens.rs` that resolution uses. A method
normalizes its arguments (resolving names, defaulting the block to `latest`), serializes them with
`utils::serialize`, and calls `request` with the method name and its positional parameters.
`utils::serialize` panics on a value that does not serialize, which a transaction request to a name
is: `call` and `trace_call` panic on one, while `estimate_gas` hands it to `request` unserialized
and fails there.

`ens.rs` is not among the sources. Its constants are the well-known ones the spec refers to, and
`namehash`, whose keccak-256 recursion is not modelled, is a parameter: every result holds for every
way of computing the registry key of a name.
-/

namespace EthersProviders

/-! ### Records the provider passes through -/

/-- An `ethers_core` record the provider never looks into, kept as the JSON object it is. -/
structure Record (kind : String) where
  json : Json

instance {kind : String} : ToJson (Record kind) := ⟨Record.json⟩
instance {kind : String} : Deserialize (Record kind) :=
  ⟨fun | .object fields => .ok ⟨.object fields⟩ | _ => .error (invalidType "a struct")⟩

abbrev Block (_Tx : Type) := Record "Block"
abbrev Transaction := Record "Transaction"
abbrev TransactionReceipt := Record "TransactionReceipt"
abbrev Log := Record "Log"
abbrev Filter := Record "Filter"
abbrev Trace := Record "Trace"
abbrev BlockTrace := Record "BlockTrace"
abbrev TraceFilter := Record "TraceFilter"
abbrev TxpoolContent := Record "TxpoolContent"
abbrev TxpoolInspect := Record "TxpoolInspect"
abbrev TxpoolStatus := Record "TxpoolStatus"

inductive TraceType
  | trace
  | vmTrace
  | stateDiff

instance : ToJson TraceType :=
  ⟨fun | .trace => .string "trace" | .vmTrace => .string "vmTrace" | .stateDiff => .string "stateDiff"⟩

inductive FilterKind
  | logs (filter : Filter)
  | newBlocks
  | pendingTransactions

/-- `PendingTransaction::new(tx_hash, self).interval(...)`: what it starts polling with. -/
structure PendingTransaction where
  txHash : TxHash
  interval : Duration
deriving DecidableEq

/-- `FilterWatcher::new(id, self).interval(...)`. -/
structure FilterWatcher where
  id : U256
  interval : Duration
deriving DecidableEq

/-- `SubscriptionStream`, registered with the transport under its id. -/
structure SubscriptionStream where
  id : U256
deriving DecidableEq

/-- `SubscriptionStream::new`: the transport registers a channel for the id, or fails. -/
def SubscriptionStream.new (id : U256) : Rpc SubscriptionStream :=
  .listen id fun
    | .ok () => pure ⟨id⟩
    | .error e => .throw (.jsonRpcClientError e)

/-! ### `ens.rs` -/

abbrev Selector := FixedBytes 4

/-- Modelled from the spec: `ens::ENS_ADDRESS`, the well-known default registry
`0x00000000000C2E074eC69A0dFb2997BA6C7d2e1e`. -/
def ENS_ADDRESS : Address :=
  ⟨[0x00, 0x00, 0x00, 0x00, 0x00, 0x0C, 0x2E, 0x07, 0x4E, 0xC6, 0x9A, 0x0D, 0xFB, 0x29, 0x97, 0xBA,
    0x6C, 0x7D, 0x2E, 0x1E], rfl⟩

/-- Modelled from the spec: the registry's `resolver(bytes32)` selector. -/
def ENS_RESOLVER_SELECTOR : Selector := ⟨[0x01, 0x78, 0xB8, 0xBF], rfl⟩

/-- Modelled from the spec: the fixed "resolve address" selector, a resolver's `addr(bytes32)`. -/
def ADDR_SELECTOR : Selector := ⟨[0x3B, 0x3B, 0x57, 0xDE], rfl⟩

/-- Modelled from the spec: the "resolve name" selector, a resolver's `name(bytes32)`. -/
def NAME_SELECTOR : Selector := ⟨[0x69, 0x1F, 0x34, 0x31], rfl⟩

section Ens

variable (namehash : String → H256)

/-- Modelled from the spec: `ens::get_resolver`, the registry call that asks for the resolver of
a name's key. -/
def getResolver (ensAddress : Address) (name : String) : TransactionRequest :=
  { data := some ⟨ENS_RESOLVER_SELECTOR.bytes ++ (namehash name).bytes⟩
    «to» := some (.address ensAddress) }

/-- Modelled from the spec: `ens::resolve`, the resolver call with a selector and the same key. -/
def resolve (resolverAddress : Address) (selector : Selector) (name : String) : TransactionRequest :=
  { data := some ⟨selector.bytes ++ (namehash name).bytes⟩
    «to» := some (.address resolverAddress) }

/-- Modelled from the spec: `ens::reverse_address`, the reverse-lookup key of an address, its
lowercase hex digits in the `addr.reverse` namespace. -/
def reverseAddress (addr : Address) : String :=
  ⟨Hex.hexDigits addr.bytes ++ ".addr.reverse".data⟩

end Ens

/-- `decode_bytes`: the bytes read as one token of `param`; bytes that are not one panic. -/
def decodeBytes {α : Type} [Abi.Detokenize α] (param : Abi.ParamType) (bytes : Bytes) : Rpc α :=
  match Abi.decode [param] bytes.toList with
  | .error e => .panic ("could not abi-decode bytes to address tokens: " ++ e.message)
  | .ok tokens =>
    match Abi.Detokenize.fromTokens tokens with
    | .error e => .panic ("could not parse tokens as address: " ++ e)
    | .ok t => pure t

/-- `utils::serialize`: `serde_json::to_value`, whose error it `expect`s never to happen. -/
def utilsSerialize {α : Type} [Serialize α] (a : α) : Rpc Json :=
  match serialize a with
  | .ok json => pure json
  | .error e => .panic ("Types never fail to serialize.: " ++ e.message)

/-- `block.unwrap_or_else(|| BlockNumber::Latest.into())`. -/
def blockOrLatest (block : Option BlockId) : BlockId := block.getD (.number .latest)

inductive SignatureError
  | invalidLength (length : Nat)
deriving DecidableEq

/-- The `Display` of a `SignatureError`. -/
def SignatureError.toString : SignatureError → String
  | .invalidLength length => "invalid signature length, got " ++ Nat.repr length ++ ", expected 65"

/-- Modelled from the spec: `Signature::try_from(&[u8])`, which reads a 65-byte signature as `r`
(bytes 0 to 32), `s` (bytes 32 to 64) and `v` (byte 64), and refuses any other length. -/
def Signature.tryFrom (bytes : List UInt8) : Except SignatureError Signature :=
  if h : bytes.length = 65 then
    .ok { r := ⟨bytes.take 32, by simp [h]⟩
          s := ⟨(bytes.drop 32).take 32, by simp [h]⟩
          v := BitVec.ofNat 64 (bytes.get ⟨64, by omega⟩).toNat }
  else .error (.invalidLength bytes.length)

/-- The last two lines of `get_storage_at`: drop every `0x`, pad to 64 digits with `0`, hex-decode,
and `H256::from_slice`, whose length assertion panics on anything but 32 bytes. -/
def storageValue (value : String) : Rpc H256 :=
  let value := String.leftpad 64 '0' (Hex.replace0x value)
  match Hex.fromHex (utf8Bytes value) with
  | .error e => .throw (.hexError e)
  | .ok bytes =>
    match FixedBytes.fromSlice? 32 bytes with
    | some h => pure h
    | none => .panic "assertion failed: `(left == right)`"

/-- The tail of `sign`: strip one `0x`, hex-decode, and read the bytes as a signature. -/
def signatureOf (sig : String) : Rpc Signature :=
  match Hex.fromHex (utf8Bytes (Hex.stripPrefix0x sig)) with
  | .error e => .throw (.hexError e)
  | .ok bytes =>
    match Signature.tryFrom bytes with
    | .ok signature => pure signature
    | .error e => .throw (.customError e.toString)

namespace Provider

variable (self : Provider) (namehash : String → H256)

/-! ### Blockchain status -/

def getBlockNumber : Rpc U64 := request "eth_blockNumber" ()

/-- `get_block_gen`: by hash or by number, with full transactions or with their hashes. -/
def getBlockGen (Tx : Type) (id : BlockId) (includeTxs : Bool) : Rpc (Option (Block Tx)) :=
  let includeTxs := toJson includeTxs
  match id with
  | .hash hash => request "eth_getBlockByHash" [toJson hash, includeTxs]
  | .number num => request "eth_getBlockByNumber" [toJson num, includeTxs]

def getBlock (blockHashOrNumber : BlockId) : Rpc (Option (Block TxHash)) :=
  getBlockGen TxHash blockHashOrNumber false

def getBlockWithTxs (blockHashOrNumber : BlockId) : Rpc (Option (Block Transaction)) :=
  getBlockGen Transaction blockHashOrNumber true

def getTransaction (transactionHash : TxHash) : Rpc (Option Transaction) :=
  request "eth_getTransactionByHash" [transactionHash]

def getTransactionReceipt (transactionHash : TxHash) : Rpc (Option TransactionReceipt) :=
  request "eth_getTransactionReceipt" [transactionHash]

def getGasPrice : Rpc U256 := request "eth_gasPrice" ()

def getAccounts : Rpc (List Address) := request "eth_accounts" ()

def getChainid : Rpc U256 := request "eth_chainId" ()

/-! ### Contract execution -/

/-- `call`, at the latest block unless one is given. -/
def call (tx : TransactionRequest) (block : Option BlockId) : Rpc Bytes := do
  let tx ← utilsSerialize tx
  request "eth_call" [tx, toJson (blockOrLatest block)]

def estimateGas (tx : TransactionRequest) : Rpc U256 := request "eth_estimateGas" [tx]

/-! ### Ethereum Naming Service -/

/-- `query_resolver`: ask the registry (the override, if one is set) for the resolver of the
name, fail with `EnsError` when that is the zero address, and otherwise ask the resolver. -/
def queryResolver {α : Type} [Abi.Detokenize α] (param : Abi.ParamType) (ensName : String)
    (selector : Selector) : Rpc α := do
  let ensAddr := self.ens.getD ENS_ADDRESS
  let data ← call (getResolver namehash ensAddr ensName) none
  let resolverAddress : Address ← decodeBytes .address data
  if resolverAddress = FixedBytes.zero 20 then
    Rpc.throw (.ensError ensName)
  let data ← call (resolve namehash resolverAddress selector ensName) none
  decodeBytes param data

def resolveName (ensName : String) : Rpc Address :=
  queryResolver self namehash .address ensName ADDR_SELECTOR

def lookupAddress (address : Address) : Rpc String :=
  let ensName := reverseAddress address
  queryResolver self namehash .string ensName NAME_SELECTOR

/-- The `match from.into()` that opens every method taking a `NameOrAddress`: a name is resolved,
an address is kept. -/
def resolveNameOrAddress : NameOrAddress → Rpc Address
  | .name ensName => resolveName self namehash ensName
  | .address addr => pure addr

/-- The body `get_transaction_count`, `get_balance` and `get_code` share: resolve the account, then
ask about it at the block, the latest one unless one is given. -/
def accountQuery {R : Type} [Serialize R] [Deserialize R] (method : String) (account : NameOrAddress)
    (block : Option BlockId) : Rpc R := do
  let account ← resolveNameOrAddress self namehash account
  request method [toJson account, toJson (blockOrLatest block)]

def getTransactionCount («from» : NameOrAddress) (block : Option BlockId) : Rpc U256 :=
  accountQuery self namehash "eth_getTransactionCount" «from» block

def getBalance («from» : NameOrAddress) (block : Option BlockId) : Rpc U256 :=
  accountQuery self namehash "eth_getBalance" «from» block

/-! ### Transactions and signing -/

/-- `send_transaction`: fill in the default sender, estimate the gas if none is set, resolve a
named recipient, submit, and wrap the hash with the polling interval. -/
def sendTransaction (tx : TransactionRequest) (_block : Option BlockId) : Rpc PendingTransaction := do
  let tx := if tx.from.isNone then { tx with «from» := self.sender } else tx
  let tx ← if tx.gas.isNone then do
      let gas ← estimateGas tx
      pure { tx with gas := some gas }
    else pure tx
  let tx ← match tx.to with
    | some (.name ensName) => do
      let addr ← resolveName self namehash ensName
      pure { tx with «to» := some (.address addr) }
    | _ => pure tx
  let txHash ← request "eth_sendTransaction" [tx]
  pure ⟨txHash, self.getInterval⟩

/-- `send_raw_transaction`, given the RLP encoding `tx.rlp()` of the signed transaction. -/
def sendRawTransaction (rlp : Bytes) : Rpc PendingTransaction := do
  let rlp := toJson rlp
  let txHash ← request "eth_sendRawTransaction" [rlp]
  pure ⟨txHash, self.getInterval⟩

def sign (data : Bytes) («from» : Address) : Rpc Signature := do
  let data := toJson data
  let «from» := toJson «from»
  let sig : String ← request "eth_sign" [«from», data]
  signatureOf sig

/-- `is_signer`: whether the node signs empty data for the default sender. -/
def isSigner : Rpc Bool :=
  match self.sender with
  | some sender => do
    let result ← Rpc.attempt (sign ⟨[]⟩ sender)
    pure result.toBool
  | none => pure false

/-! ### Contract state and filters -/

def getLogs (filter : Filter) : Rpc (List Log) := request "eth_getLogs" [filter]

def newFilter (filter : FilterKind) : Rpc U256 :=
  let (method, args) : String × List Json :=
    match filter with
    | .newBlocks => ("eth_newBlockFilter", [])
    | .pendingTransactions => ("eth_newPendingTransactionFilter", [])
    | .logs filter => ("eth_newFilter", [toJson filter])
  request method args

/-- The body `watch`, `watch_blocks` and `watch_pending_transactions` share: install the filter,
and watch its id at the provider's interval. -/
def watchFilter (filter : FilterKind) : Rpc FilterWatcher := do
  let id ← newFilter filter
  pure ⟨id, self.getInterval⟩

def watch (filter : Filter) : Rpc FilterWatcher := watchFilter self (.logs filter)

def watchBlocks : Rpc FilterWatcher := watchFilter self .newBlocks

def watchPendingTransactions : Rpc FilterWatcher := watchFilter self .pendingTransactions

def uninstallFilter (id : U256) : Rpc Bool := request "eth_uninstallFilter" [toJson id]

/-- `get_filter_changes`, decoding each item as the caller's `R`. -/
def getFilterChanges {R : Type} [Serialize R] [Deserialize R] (id : U256) : Rpc (List R) :=
  request "eth_getFilterChanges" [toJson id]

def getStorageAt («from» : NameOrAddress) (location : H256) (block : Option BlockId) : Rpc H256 := do
  let «from» ← resolveNameOrAddress self namehash «from»
  let value : String ←
    request "eth_getStorageAt" [toJson «from», toJson location, toJson (blockOrLatest block)]
  storageValue value

def getCode («at» : NameOrAddress) (block : Option BlockId) : Rpc Bytes :=
  accountQuery self namehash "eth_getCode" «at» block

/-! ### Txpool, traces and receipts -/

def txpoolContent : Rpc TxpoolContent := request "txpool_content" ()

def txpoolInspect : Rpc TxpoolInspect := request "txpool_inspect" ()

def txpoolStatus : Rpc TxpoolStatus := request "txpool_status" ()

def traceCall (req : TransactionRequest) (traceType : List TraceType) (block : Option BlockNumber) :
    Rpc BlockTrace := do
  let req ← utilsSerialize req
  request "trace_call" [req, toJson traceType, toJson (block.getD .latest)]

def traceRawTransaction (data : Bytes) (traceType : List TraceType) : Rpc BlockTrace :=
  request "trace_rawTransaction" [toJson data, toJson traceType]

def traceReplayTransaction (hash : H256) (traceType : List TraceType) : Rpc BlockTrace :=
  request "trace_replayTransaction" [toJson hash, toJson traceType]

def traceReplayBlockTransactions (block : BlockNumber) (traceType : List TraceType) :
    Rpc (List BlockTrace) :=
  request "trace_replayBlockTransactions" [toJson block, toJson traceType]

def traceBlock (block : BlockNumber) : Rpc (List Trace) := request "trace_block" [toJson block]

def traceFilter (filter : TraceFilter) : Rpc (List Trace) := request "trace_filter" [toJson filter]

def traceGet (hash : H256) (index : List U64) : Rpc Trace :=
  request "trace_get" [toJson hash, toJson index]

def traceTransaction (hash : H256) : Rpc (List Trace) := request "trace_transaction" [toJson hash]

def parityBlockReceipts (block : BlockNumber) : Rpc (List TransactionReceipt) :=
  request "parity_getBlockReceipts" [block]

/-! ### Subscriptions -/

/-- `subscribe`: the node's subscription id, registered with the transport. -/
def subscribe {T : Type} [Serialize T] (params : T) : Rpc SubscriptionStream := do
  let id : U256 ← request "eth_subscribe" params
  SubscriptionStream.new id

def unsubscribe (id : U256) : Rpc Bool := request "eth_unsubscribe" [id]

def subscribeBlocks : Rpc SubscriptionStream := subscribe ["newHeads"]

def subscribePendingTxs : Rpc SubscriptionStream := subscribe ["newPendingTransactions"]

def subscribeLogs (filter : Filter) : Rpc SubscriptionStream :=
  subscribe [toJson "logs", toJson filter]

end Provider

end EthersProviders

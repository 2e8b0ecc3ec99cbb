import EthersProviders.Middleware

/-!
# ENS resolution

`query_resolver` is a two-hop protocol over `eth_call`: ask the registry for the resolver of the
name's key, stop with `EnsError` if that is the zero address, otherwise ask the resolver and decode
its answer. This module says once what a hop does (`hop`), states `query_resolver` in terms of its
two hops, and derives what resolution can end in:

- the zero check is on the resolver only, so a resolver that holds no address record, and answers
  the zero address, makes `resolve_name` return the zero address;
- `lookup_address` asks only the reverse record, so the name it returns need not resolve back;
- a reply that `ethabi` cannot read as one token of the expected type panics in `decode_bytes`.
-/

namespace EthersProviders

open Rpc

/-- The request `call` sends for a transaction that serialized to `tx`. -/
def callRequest (tx : Json) (block : Option BlockId) : Request :=
  ⟨"eth_call", .array [tx, toJson (blockOrLatest block)]⟩

section Hops

variable (w : World)

@[simp] theorem requests_utilsSerialize {α : Type} [Serialize α] (a : α) :
    requests w (utilsSerialize a) = [] := by
  unfold utilsSerialize; split <;> rfl

theorem requests_call {tx : TransactionRequest} {json : Json} (htx : serialize tx = .ok json)
    (block : Option BlockId) : requests w (Provider.call tx block) = [callRequest json block] := by
  simp [Provider.call, utilsSerialize, htx, callRequest]

theorem outcome_call {tx : TransactionRequest} {json : Json} (htx : serialize tx = .ok json)
    (block : Option BlockId) :
    outcome w (Provider.call tx block) = Outcome.ofClient (decodeReply (w.node (callRequest json block))) := by
  simp [Provider.call, utilsSerialize, htx, callRequest]

/-- `call` on a transaction to a name panics in `utils::serialize`, before anything is sent. -/
theorem call_name {tx : TransactionRequest} {ensName : String} (hto : tx.to = some (.name ensName))
    (block : Option BlockId) :
    requests w (Provider.call tx block) = [] ∧
      outcome w (Provider.call tx block) =
        .panic ("Types never fail to serialize.: " ++ (ensNameRefusal ensName).message) := by
  simp [Provider.call, utilsSerialize, serialize_transactionRequest_name hto]

/-- What the transactions of `get_resolver` and `resolve` serialize to: a recipient, and data that
is a selector and a key. -/
def ensCall (target : Address) (selector : Selector) (key : H256) : Json :=
  .object [("to", toJson target), ("data", toJson (⟨selector.bytes ++ key.bytes⟩ : Bytes))]

theorem serialize_getResolver (namehash : String → H256) (ensAddress : Address) (name : String) :
    serialize (getResolver namehash ensAddress name) =
      .ok (ensCall ensAddress ENS_RESOLVER_SELECTOR (namehash name)) := rfl

theorem serialize_resolve (namehash : String → H256) (resolver : Address) (selector : Selector)
    (name : String) :
    serialize (resolve namehash resolver selector name) = .ok (ensCall resolver selector (namehash name)) :=
  rfl

@[simp] theorem requests_decodeBytes {α : Type} [Abi.Detokenize α] (param : Abi.ParamType)
    (bytes : Bytes) : requests w (decodeBytes param bytes : Rpc α) = [] := by
  unfold decodeBytes
  split
  · rfl
  · split <;> rfl

variable (namehash : String → H256) (p : Provider)

/-- The registry call of `query_resolver`: `get_resolver` of the name, to the registry. -/
def registryRequest (ensName : String) : Request :=
  callRequest (ensCall (p.ens.getD ENS_ADDRESS) ENS_RESOLVER_SELECTOR (namehash ensName)) none

/-- The resolver call of `query_resolver`: `resolve` of the name, with a selector. -/
def resolverRequest (resolver : Address) (selector : Selector) (ensName : String) : Request :=
  callRequest (ensCall resolver selector (namehash ensName)) none

/-- One hop of `query_resolver`: the node's answer to a call, decoded as `Bytes` by the transport
and as a token of `param` by `decode_bytes`. -/
def hop {α : Type} [Abi.Detokenize α] (param : Abi.ParamType) (req : Request) : Outcome α :=
  (Outcome.ofClient (decodeReply (w.node req))).bind fun data => outcome w (decodeBytes param data)

/-- **`query_resolver`, hop by hop.** -/
theorem outcome_queryResolver {α : Type} [Abi.Detokenize α] (param : Abi.ParamType)
    (ensName : String) (selector : Selector) :
    outcome w (p.queryResolver namehash param ensName selector : Rpc α) =
      (hop w .address (registryRequest namehash p ensName)).bind fun resolver =>
        if resolver = FixedBytes.zero 20 then .err (.ensError ensName)
        else hop w param (resolverRequest namehash resolver selector ensName) := by
  simp only [Provider.queryResolver, hop, outcome_bind, outcome_call w (serialize_getResolver _ _ _),
    outcome_call w (serialize_resolve _ _ _ _), Outcome.bind_assoc, registryRequest, resolverRequest]
  congr 1; funext data; congr 1; funext resolver
  split <;> simp [outcome_call w (serialize_resolve _ _ _ _)]

theorem requests_queryResolver {α : Type} [Abi.Detokenize α] (param : Abi.ParamType)
    (ensName : String) (selector : Selector) :
    requests w (p.queryResolver namehash param ensName selector : Rpc α) =
      registryRequest namehash p ensName ::
        (hop w .address (registryRequest namehash p ensName)).andThen fun resolver =>
          if resolver = FixedBytes.zero 20 then []
          else [resolverRequest namehash resolver selector ensName] := by
  simp only [Provider.queryResolver, hop, requests_bind, outcome_bind,
    requests_call w (serialize_getResolver _ _ _), outcome_call w (serialize_getResolver _ _ _),
    requests_call w (serialize_resolve _ _ _ _), outcome_call w (serialize_resolve _ _ _ _),
    requests_decodeBytes, Outcome.bind_andThen, List.singleton_append, List.nil_append, registryRequest,
    resolverRequest]
  congr 2; funext data; congr 1; funext resolver
  split <;> simp [requests_call w (serialize_resolve _ _ _ _), outcome_call w (serialize_resolve _ _ _ _)]

/-! ### When resolution panics -/

/-- The parameter type `decode_bytes` reads, matched by the `Detokenize` it reads it into. -/
def Detokenizes (α : Type) [Abi.Detokenize α] (param : Abi.ParamType) : Prop :=
  ∀ token : Abi.Token, token.paramType = param → ∃ a : α, Abi.Detokenize.fromTokens [token] = .ok a

theorem detokenizes_address : Detokenizes Address .address
  | .address a, _ => ⟨a, rfl⟩
  | .string _, h => nomatch h

theorem detokenizes_string : Detokenizes String .string
  | .string s, _ => ⟨s, rfl⟩
  | .address _, h => nomatch h

/-- `decode_bytes` panics exactly on the bytes `ethabi` cannot read as one token of `param`. -/
theorem decodeBytes_panic_iff {α : Type} [Abi.Detokenize α] {param : Abi.ParamType}
    (hdetok : Detokenizes α param) (bytes : Bytes) :
    (∃ m, outcome w (decodeBytes param bytes : Rpc α) = .panic m) ↔
      ¬ Abi.Accepts param bytes.toList := by
  unfold decodeBytes Abi.Accepts
  rcases hdecode : Abi.decode [param] bytes.toList with e | tokens
  · simp
  · obtain ⟨token, rfl, htype⟩ := Abi.decode_single hdecode
    obtain ⟨a, ha⟩ := hdetok token htype
    simp [ha]

/-- The node's reply to a call decodes as `Bytes` that `ethabi` cannot read as `param`. -/
def HopRejects (param : Abi.ParamType) (req : Request) : Prop :=
  ∃ data : Bytes, decodeReply (w.node req) = .ok data ∧ ¬ Abi.Accepts param data.toList

theorem hop_panic_iff {α : Type} [Abi.Detokenize α] {param : Abi.ParamType}
    (hdetok : Detokenizes α param) (req : Request) :
    (∃ m, (hop w param req : Outcome α) = .panic m) ↔ HopRejects w param req := by
  unfold hop HopRejects
  rcases decodeReply (R := Bytes) (w.node req) with e | data
  · simp [Outcome.ofClient]
  · simp [Outcome.ofClient, decodeBytes_panic_iff w hdetok]

end Hops

/-! ### Chains to run resolution on -/

/-- The `to` of an `eth_call`'s transaction. -/
def callTarget (req : Request) : Option Json :=
  match req.params with
  | .array (.object fields :: _) => fields.lookup "to"
  | _ => none

/-- A registry key to run examples with: the name's UTF-8 bytes, cut or zero-padded to 32. The
results of this module hold for every key function; `namehash` itself is keccak-based. -/
def exampleKey (name : String) : H256 :=
  ⟨(name.toUTF8.data.toList ++ List.replicate 32 0).take 32, by simp⟩

/-- A chain whose registry names `resolver` for every key, and whose other contracts answer every
call with `record`. -/
def oneResolverWorld (resolver : Address) (record : List UInt8) : World where
  node req :=
    if callTarget req == some (toJson ENS_ADDRESS) then
      .ok (toJson (⟨Abi.encodeAddress resolver⟩ : Bytes))
    else .ok (toJson (⟨record⟩ : Bytes))
  listen _ := .ok ()
  traceEnabled := false

def someResolver : Address := ⟨List.replicate 19 0 ++ [0x42], by simp⟩

/-- An account that has named itself `alice.eth` in its reverse record. -/
def victim : Address := ⟨List.replicate 20 0x11, by simp⟩

/-- The address a resolver answering the ABI string `alice.eth` to every call gives for the name:
the low bytes of the string's offset word. -/
def impostor : Address := ⟨List.replicate 19 0 ++ [0x20], by simp⟩

/-- A chain where one resolver answers every call with the ABI string `alice.eth`. -/
def spoofWorld : World := oneResolverWorld someResolver (Abi.encodeString "alice.eth")

/-- A chain whose registry address holds no contract: every call answers `0x`. -/
def noCodeWorld : World := ⟨fun _ => .ok (toJson (⟨[]⟩ : Bytes)), fun _ => .ok (), false⟩

/-! ### What resolution ends in -/

section Outcomes

variable (w : World) (namehash : String → H256) (p : Provider)

theorem queryResolver_panic_iff {α : Type} [Abi.Detokenize α] {param : Abi.ParamType}
    (hdetok : Detokenizes α param) (ensName : String) (selector : Selector) :
    (∃ m, outcome w (p.queryResolver namehash param ensName selector : Rpc α) = .panic m) ↔
      HopRejects w .address (registryRequest namehash p ensName) ∨
        ∃ resolver, hop w .address (registryRequest namehash p ensName) = .ok resolver ∧
          resolver ≠ FixedBytes.zero 20 ∧
          HopRejects w param (resolverRequest namehash resolver selector ensName) := by
  rw [outcome_queryResolver, ← hop_panic_iff w detokenizes_address]
  simp only [Outcome.bind_eq_panic, exists_or]
  refine or_congr_right ⟨fun ⟨m, resolver, hresolver, hif⟩ => ?_, fun ⟨resolver, hresolver, hne, hpanic⟩ => ?_⟩
  · split_ifs at hif with hzero
    exact ⟨resolver, hresolver, hzero, (hop_panic_iff w hdetok _).mp ⟨m, hif⟩⟩
  · obtain ⟨m, hm⟩ := (hop_panic_iff w hdetok _).mpr hpanic
    exact ⟨m, resolver, hresolver, by simp [hne, hm]⟩

/-- **When resolution panics.** `resolve_name` and `lookup_address` panic, in `decode_bytes`, exactly
when a hop's reply decodes as bytes `ethabi` cannot read: the registry's as an address, or, after a
non-zero resolver, the resolver's as an address or as a string. Every other run ends in `Ok` or
`Err`. -/
theorem resolution_panic_iff (ensName : String) (a : Address) :
    ((∃ m, outcome w (p.resolveName namehash ensName) = .panic m) ↔
      HopRejects w .address (registryRequest namehash p ensName) ∨
        ∃ resolver, hop w .address (registryRequest namehash p ensName) = .ok resolver ∧
          resolver ≠ FixedBytes.zero 20 ∧
          HopRejects w .address (resolverRequest namehash resolver ADDR_SELECTOR ensName)) ∧
    ((∃ m, outcome w (p.lookupAddress namehash a) = .panic m) ↔
      HopRejects w .address (registryRequest namehash p (reverseAddress a)) ∨
        ∃ resolver, hop w .address (registryRequest namehash p (reverseAddress a)) = .ok resolver ∧
          resolver ≠ FixedBytes.zero 20 ∧
          HopRejects w .string (resolverRequest namehash resolver NAME_SELECTOR (reverseAddress a))) :=
  ⟨queryResolver_panic_iff w namehash p detokenizes_address _ _,
    queryResolver_panic_iff w namehash p detokenizes_string _ _⟩

set_option maxRecDepth 4000 in
theorem resolveName_no_registry_panics :
    ∃ m, outcome noCodeWorld (Provider.new.resolveName exampleKey "vitalik.eth") = .panic m :=
  ⟨_, rfl⟩

/-- **Reverse resolution reads the reverse record only.** When `lookup_address` returns a name, it
sent exactly two calls, both about the reverse key of the address: the registry's, which named a
non-zero resolver, and that resolver's `name`, whose answer is the name returned. The forward record
of the name is never asked for. -/
theorem lookupAddress_reads_reverse_record {a : Address} {ensName : String}
    (h : outcome w (p.lookupAddress namehash a) = .ok ensName) :
    ∃ resolver, hop w .address (registryRequest namehash p (reverseAddress a)) = .ok resolver ∧
      resolver ≠ FixedBytes.zero 20 ∧
      hop w .string (resolverRequest namehash resolver NAME_SELECTOR (reverseAddress a)) = .ok ensName ∧
      requests w (p.lookupAddress namehash a) =
        [registryRequest namehash p (reverseAddress a),
          resolverRequest namehash resolver NAME_SELECTOR (reverseAddress a)] := by
  unfold Provider.lookupAddress at h ⊢
  rw [outcome_queryResolver, Outcome.bind_eq_ok] at h
  obtain ⟨resolver, hresolver, hif⟩ := h
  split_ifs at hif with hzero
  exact ⟨resolver, hresolver, hzero, hif, by simp [requests_queryResolver, hresolver, hzero]⟩

/-- A spoofed reverse record is reported whatever the key function. -/
theorem lookupAddress_spoofed_of_key (namehash : String → H256) :
    outcome spoofWorld (Provider.new.lookupAddress namehash victim) = .ok "alice.eth" ∧
      outcome spoofWorld (Provider.new.resolveName namehash "alice.eth") = .ok impostor := by
  set_option maxRecDepth 20000 in exact ⟨rfl, rfl⟩

theorem lookupAddress_spoofed :
    outcome spoofWorld (Provider.new.lookupAddress exampleKey victim) = .ok "alice.eth" ∧
      outcome spoofWorld (Provider.new.resolveName exampleKey "alice.eth") = .ok impostor ∧
      impostor ≠ victim :=
  ⟨(lookupAddress_spoofed_of_key exampleKey).1, (lookupAddress_spoofed_of_key exampleKey).2, by decide⟩

theorem lookupAddress_reads_reverse_record_spoofed :
    ∃ resolver,
      hop spoofWorld .address (registryRequest exampleKey Provider.new (reverseAddress victim)) =
        .ok resolver ∧
      resolver ≠ FixedBytes.zero 20 ∧
      hop spoofWorld .string (resolverRequest exampleKey resolver NAME_SELECTOR (reverseAddress victim)) =
        .ok "alice.eth" ∧
      requests spoofWorld (Provider.new.lookupAddress exampleKey victim) =
        [registryRequest exampleKey Provider.new (reverseAddress victim),
          resolverRequest exampleKey resolver NAME_SELECTOR (reverseAddress victim)] :=
  lookupAddress_reads_reverse_record spoofWorld exampleKey Provider.new
    (lookupAddress_spoofed_of_key exampleKey).1

@[simp] theorem decodeReply_toJson_bytes (b : Bytes) :
    decodeReply (.ok (toJson b) : Except ClientError Json) = .ok b := by
  simp [decodeReply, bind, Except.bind, Except.mapError]

theorem decodeBytes_zero_word :
    outcome w (decodeBytes .address ⟨List.replicate 32 0⟩ : Rpc Address) = .ok (FixedBytes.zero 20) :=
  rfl

theorem requests_accountQuery {R : Type} [Serialize R] [Deserialize R] (method : String)
    (account : NameOrAddress) (block : Option BlockId) :
    requests w (p.accountQuery namehash method account block : Rpc R) =
      requests w (p.resolveNameOrAddress namehash account) ++
        (outcome w (p.resolveNameOrAddress namehash account)).andThen fun addr =>
          [⟨method, .array [toJson addr, toJson (blockOrLatest block)]⟩] := by
  simp [Provider.accountQuery, requests_request]

/-- Resolution sends nothing but `eth_call`s. -/
theorem method_of_mem_requests_resolveName {ensName : String} {req : Request}
    (h : req ∈ requests w (p.resolveName namehash ensName)) : req.method = "eth_call" := by
  rw [Provider.resolveName, requests_queryResolver] at h
  rcases List.mem_cons.mp h with rfl | h
  · rfl
  · obtain ⟨resolver, -, h⟩ := Outcome.mem_andThen.mp h
    split_ifs at h
    · cases h
    · rw [List.mem_singleton.mp h]; rfl

/-- **The zero check misses the address record.** A name whose resolver holds no address record,
and so answers the zero word, resolves to the zero address, and a method given the name sends its
own request for the zero address. -/
theorem resolveName_zero_record {ensName : String} {resolver : Address}
    (hregistry : hop w .address (registryRequest namehash p ensName) = .ok resolver)
    (hresolver : resolver ≠ FixedBytes.zero 20)
    (hrecord : w.node (resolverRequest namehash resolver ADDR_SELECTOR ensName) =
      .ok (toJson (⟨List.replicate 32 0⟩ : Bytes)))
    (block : Option BlockId) :
    outcome w (p.resolveName namehash ensName) = .ok (FixedBytes.zero 20) ∧
      ⟨"eth_getBalance", .array [toJson (FixedBytes.zero 20 : Address), toJson (blockOrLatest block)]⟩ ∈
        requests w (p.getBalance namehash (.name ensName) block) := by
  have hresolve : outcome w (p.resolveName namehash ensName) = .ok (FixedBytes.zero 20) := by
    rw [Provider.resolveName, outcome_queryResolver, hregistry]
    simp only [hresolver, hop, hrecord, if_false, Outcome.ok_bind, decodeReply_toJson_bytes,
      Outcome.ofClient]
    exact decodeBytes_zero_word w
  refine ⟨hresolve, ?_⟩
  simp [Provider.getBalance, requests_accountQuery, Provider.resolveNameOrAddress, hresolve]

set_option maxRecDepth 20000 in
theorem resolveName_zero_record_unset :
    outcome (oneResolverWorld someResolver (List.replicate 32 0))
        (Provider.new.resolveName exampleKey "nobody.eth") = .ok (FixedBytes.zero 20) ∧
      ⟨"eth_getBalance", .array [toJson (FixedBytes.zero 20 : Address), toJson (blockOrLatest none)]⟩ ∈
        requests (oneResolverWorld someResolver (List.replicate 32 0))
          (Provider.new.getBalance exampleKey (.name "nobody.eth") none) :=
  @resolveName_zero_record (oneResolverWorld someResolver (List.replicate 32 0)) exampleKey
    Provider.new "nobody.eth" someResolver rfl (by decide) rfl none

end Outcomes

end EthersProviders

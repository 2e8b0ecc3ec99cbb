import EthersProviders.Records

/-!
# ENS deployments

The name service is a two-contract protocol: the registry maps a name's key to a resolver, and the
resolver maps the key to an address or, for an address's reverse key, to a name. An
`EnsDeployment` is the protocol's state, and its own `resolve` and `lookup` say what resolving
means; `world` is the chain the deployment is, a node that answers each `eth_call` as the called
contract would, ABI-encoded. Against that chain `resolve_name` and `lookup_address` compute exactly
the deployment's resolution, so a correctly configured registry gives back the name an address was
resolved from.
-/

namespace EthersProviders

open Rpc

/-- The `to` and the `data` of an `eth_call`, as the node reads them off the transaction object. -/
def callFields (req : Request) : Option (List UInt8 × List UInt8) :=
  match req.params with
  | .array (.object fields :: _) =>
    match fields.lookup "to", fields.lookup "data" with
    | some target, some data =>
      match decodeHexText target, decodeHexText data with
      | .ok target, .ok data => some (target, data)
      | _, _ => none
    | _, _ => none
  | _ => none

theorem callFields_ensCall (target : Address) (selector : Selector) (key : H256) (block : Option BlockId) :
    callFields (callRequest (ensCall target selector key) block) =
      some (target.bytes, selector.bytes ++ key.bytes) := by
  simp [callFields, callRequest, ensCall, toJson, List.lookup_cons, decodeHexText_hexText]

/-- A `Result` as the way a call ends. -/
def Outcome.ofExcept {α : Type} : Except ProviderError α → Outcome α
  | .ok a => .ok a
  | .error e => .err e

/-- An ENS deployment, as the two hops of resolution see it: where the registry is, the resolver it
names for each key, and each resolver's address and name records. A name record is at most
`2 ^ 32 - 1` bytes, the most an ABI length word read by `as_usize` can say. -/
structure EnsDeployment where
  registry : Address
  resolverOf : H256 → Address
  addrRecord : Address → H256 → Address
  nameRecord : Address → H256 → String
  nameRecord_small : ∀ resolver key, (nameRecord resolver key).utf8ByteSize < 2 ^ 32

namespace EnsDeployment

variable (d : EnsDeployment) (namehash : String → H256)

/-- What a contract of the deployment answers to a call: the registry answers `resolver(key)`, a
resolver answers `addr(key)` and `name(key)`, ABI-encoded; anything else reverts. -/
def answer (target data : List UInt8) : Except ClientError Json :=
  match FixedBytes.fromSlice? 20 target, FixedBytes.fromSlice? 32 (data.drop 4) with
  | some target, some key =>
    if data.take 4 = ENS_RESOLVER_SELECTOR.bytes ∧ target = d.registry then
      .ok (toJson (⟨Abi.encodeAddress (d.resolverOf key)⟩ : Bytes))
    else if data.take 4 = ADDR_SELECTOR.bytes then
      .ok (toJson (⟨Abi.encodeAddress (d.addrRecord target key)⟩ : Bytes))
    else if data.take 4 = NAME_SELECTOR.bytes then
      .ok (toJson (⟨Abi.encodeString (d.nameRecord target key)⟩ : Bytes))
    else .error (.rpc (-32000) "execution reverted")
  | _, _ => .error (.rpc (-32602) "invalid params")

/-- The chain the deployment is: a node that answers every `eth_call` as the called contract does. -/
def world : World where
  node req :=
    match callFields req with
    | some (target, data) => d.answer target data
    | none => .error (.rpc (-32602) "invalid params")
  listen _ := .ok ()
  traceEnabled := false

/-- What resolving a name means in the deployment: the address record, at the name's key, of the
resolver the registry names for it; `EnsError` when the registry names none. -/
def resolve (name : String) : Except ProviderError Address :=
  let resolver := d.resolverOf (namehash name)
  if resolver = FixedBytes.zero 20 then .error (.ensError name)
  else .ok (d.addrRecord resolver (namehash name))

/-- What reverse resolution means: the name record of the resolver the registry names for the
address's reverse key. -/
def lookup (addr : Address) : Except ProviderError String :=
  let name := reverseAddress addr
  let resolver := d.resolverOf (namehash name)
  if resolver = FixedBytes.zero 20 then .error (.ensError name)
  else .ok (d.nameRecord resolver (namehash name))

theorem world_registry {p : Provider} (hreg : p.ens.getD ENS_ADDRESS = d.registry) (name : String) :
    d.world.node (registryRequest namehash p name) =
      .ok (toJson (⟨Abi.encodeAddress (d.resolverOf (namehash name))⟩ : Bytes)) := by
  simp only [world, registryRequest, callFields_ensCall, hreg, answer]
  simp [FixedBytes.fromSlice?_bytes, List.take_left' ENS_RESOLVER_SELECTOR.length_bytes,
    List.drop_left' ENS_RESOLVER_SELECTOR.length_bytes]

theorem world_addr (resolver : Address) (name : String) :
    d.world.node (resolverRequest namehash resolver ADDR_SELECTOR name) =
      .ok (toJson (⟨Abi.encodeAddress (d.addrRecord resolver (namehash name))⟩ : Bytes)) := by
  simp only [world, resolverRequest, callFields_ensCall, answer]
  simp [FixedBytes.fromSlice?_bytes, List.take_left' ADDR_SELECTOR.length_bytes,
    List.drop_left' ADDR_SELECTOR.length_bytes, ENS_RESOLVER_SELECTOR, ADDR_SELECTOR]

theorem world_name (resolver : Address) (name : String) :
    d.world.node (resolverRequest namehash resolver NAME_SELECTOR name) =
      .ok (toJson (⟨Abi.encodeString (d.nameRecord resolver (namehash name))⟩ : Bytes)) := by
  simp only [world, resolverRequest, callFields_ensCall, answer]
  simp [FixedBytes.fromSlice?_bytes, List.take_left' NAME_SELECTOR.length_bytes,
    List.drop_left' NAME_SELECTOR.length_bytes, ENS_RESOLVER_SELECTOR, ADDR_SELECTOR, NAME_SELECTOR]

variable {p : Provider} (hreg : p.ens.getD ENS_ADDRESS = d.registry)
include hreg

theorem resolveName_world (name : String) :
    outcome d.world (p.resolveName namehash name) = Outcome.ofExcept (d.resolve namehash name) := by
  rw [Provider.resolveName, outcome_queryResolver,
    hop_encodeAddress d.world (d.world_registry namehash hreg name), Outcome.ok_bind, resolve]
  split_ifs with hzero
  · rfl
  · rw [hop_encodeAddress d.world (d.world_addr namehash _ name)]; rfl

theorem lookupAddress_world (addr : Address) :
    outcome d.world (p.lookupAddress namehash addr) = Outcome.ofExcept (d.lookup namehash addr) := by
  rw [Provider.lookupAddress, outcome_queryResolver,
    hop_encodeAddress d.world (d.world_registry namehash hreg _), Outcome.ok_bind, lookup]
  split_ifs with hzero
  · rfl
  · rw [hop_encodeString d.world (d.nameRecord_small _ _) (d.world_name namehash _ _)]; rfl

/-- **Resolution implements ENS.** Against the chain an ENS deployment is, with the provider's
registry where the deployment's is, `resolve_name` and `lookup_address` end exactly as the
deployment's own resolution says: with the record, at the name's key, of the resolver the registry
names, or with `EnsError` when it names none. In particular they never panic there. -/
theorem resolution_implements_deployment (name : String) (addr : Address) :
    outcome d.world (p.resolveName namehash name) = Outcome.ofExcept (d.resolve namehash name) ∧
      outcome d.world (p.lookupAddress namehash addr) = Outcome.ofExcept (d.lookup namehash addr) :=
  ⟨resolveName_world d namehash hreg name, lookupAddress_world d namehash hreg addr⟩

/-- **The round trip of a correctly configured deployment.** When the deployment resolves `name` to
`addr` and reverse-resolves `addr` to `name`, `resolve_name(name)` returns `addr` and
`lookup_address(addr)` returns `name`. -/
theorem ens_round_trip {name : String} {addr : Address} (hforward : d.resolve namehash name = .ok addr)
    (hreverse : d.lookup namehash addr = .ok name) :
    outcome d.world (p.resolveName namehash name) = .ok addr ∧
      outcome d.world (p.lookupAddress namehash addr) = .ok name := by
  rw [resolveName_world d namehash hreg, lookupAddress_world d namehash hreg, hforward, hreverse]
  exact ⟨rfl, rfl⟩

end EnsDeployment

/-- A deployment at the mainnet registry where one resolver serves every key, with the address
record `victim` and the name record `alice.eth`. -/
def aliceDeployment : EnsDeployment where
  registry := ENS_ADDRESS
  resolverOf _ := someResolver
  addrRecord _ _ := victim
  nameRecord _ _ := "alice.eth"
  nameRecord_small _ _ := show "alice.eth".utf8ByteSize < 2 ^ 32 by decide

theorem resolution_implements_alice :
    Provider.new.ens.getD ENS_ADDRESS = aliceDeployment.registry ∧
      outcome aliceDeployment.world (Provider.new.resolveName exampleKey "alice.eth") =
          Outcome.ofExcept (aliceDeployment.resolve exampleKey "alice.eth") ∧
        outcome aliceDeployment.world (Provider.new.lookupAddress exampleKey victim) =
          Outcome.ofExcept (aliceDeployment.lookup exampleKey victim) :=
  ⟨rfl, @EnsDeployment.resolution_implements_deployment aliceDeployment exampleKey Provider.new rfl
    "alice.eth" victim⟩

theorem ens_round_trip_alice :
    Provider.new.ens.getD ENS_ADDRESS = aliceDeployment.registry ∧
      aliceDeployment.resolve exampleKey "alice.eth" = .ok victim ∧
      aliceDeployment.lookup exampleKey victim = .ok "alice.eth" ∧
      outcome aliceDeployment.world (Provider.new.resolveName exampleKey "alice.eth") = .ok victim ∧
        outcome aliceDeployment.world (Provider.new.lookupAddress exampleKey victim) = .ok "alice.eth" :=
  have hforward : aliceDeployment.resolve exampleKey "alice.eth" = .ok victim := rfl
  have hreverse : aliceDeployment.lookup exampleKey victim = .ok "alice.eth" := rfl
  ⟨rfl, hforward, hreverse, @EnsDeployment.ens_round_trip aliceDeployment exampleKey Provider.new rfl
    "alice.eth" victim hforward hreverse⟩

end EthersProviders

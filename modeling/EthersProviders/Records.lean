import EthersProviders.Resolution
import EthersProviders.AbiString

/-!
# What resolution reads from the records

`query_resolver` decodes the registry's answer and the resolver's with `decode_bytes`. With what
`ethabi` reads (`AbiCodec`, `AbiString`), the two hops of `resolve_name` and of `lookup_address` are
pinned down by the bytes the node answers: an address is the low 20 bytes of the first 32 of a reply
that has them, a string is what `ReadsString` finds where the reply's layout points, and any other
reply panics. So `resolve_name` returns exactly the record a non-zero resolver answers with,
`lookup_address` the name it answers with, and `lookup_address` returns the name a resolver encodes,
for every name of fewer than `2 ^ 32` bytes.
-/

namespace EthersProviders

open Rpc

section Hops

variable (w : World)

/-- `decode_bytes` as an address: the address of a reply of at least 32 bytes, a panic otherwise. -/
theorem outcome_decodeBytes_address (bytes : Bytes) :
    (∃ a, outcome w (decodeBytes .address bytes : Rpc Address) = .ok a ∧
        Abi.ReadsAddress bytes.toList a) ∨
      ((∃ m, outcome w (decodeBytes .address bytes : Rpc Address) = .panic m) ∧
        bytes.toList.length < 32) := by
  unfold decodeBytes
  rcases Abi.decode_address_cases bytes.toList with ⟨a, hdecode, hreads⟩ | ⟨⟨e, hdecode⟩, hshort⟩
  · exact .inl ⟨a, by rw [hdecode]; rfl, hreads⟩
  · exact .inr ⟨⟨_, by rw [hdecode]; rfl⟩, hshort⟩

theorem hop_address_ok_iff (req : Request) (a : Address) :
    hop w .address req = .ok a ↔
      ∃ data : Bytes, decodeReply (w.node req) = .ok data ∧ Abi.ReadsAddress data.toList a := by
  unfold hop
  rcases decodeReply (R := Bytes) (w.node req) with e | data
  · simp [Outcome.ofClient]
  · simp only [Outcome.ofClient, Outcome.ok_bind, Except.ok.injEq, exists_eq_left']
    rcases outcome_decodeBytes_address w data with ⟨b, hb, hreads⟩ | ⟨⟨m, hm⟩, hshort⟩
    · rw [hb, Outcome.ok.injEq]
      exact ⟨fun h => h ▸ hreads, fun ha => hreads.unique ha⟩
    · rw [hm]
      exact iff_of_false (by simp) fun ha => by have := ha.1; omega

/-- `decode_bytes` as a string: the string a reply reads as, and a panic if it reads as none. -/
theorem outcome_decodeBytes_string (bytes : Bytes) (s : String) :
    outcome w (decodeBytes .string bytes : Rpc String) = .ok s ↔ Abi.ReadsString bytes.toList s := by
  rw [← Abi.decode_string_iff]
  unfold decodeBytes
  rcases hdecode : Abi.decode [.string] bytes.toList with e | tokens
  · simp
  · obtain ⟨token, rfl, htype⟩ := Abi.decode_single hdecode
    cases token with
    | string t => simp [Abi.Detokenize.fromTokens]
    | address a => cases htype

theorem hop_string_ok_iff (req : Request) (s : String) :
    hop w .string req = .ok s ↔
      ∃ data : Bytes, decodeReply (w.node req) = .ok data ∧ Abi.ReadsString data.toList s := by
  unfold hop
  rcases decodeReply (R := Bytes) (w.node req) with e | data
  · simp [Outcome.ofClient]
  · simp only [Outcome.ofClient, Outcome.ok_bind, Except.ok.injEq, exists_eq_left']
    exact outcome_decodeBytes_string w data s

end Hops

section Records

variable (w : World) (namehash : String → H256) (p : Provider)

/-- `query_resolver` returns `a` exactly when the registry's reply reads as a non-zero resolver and
that resolver's reply reads as `a`, for a reading of replies that is the second hop's. -/
theorem queryResolver_ok_iff {α : Type} [Abi.Detokenize α] {param : Abi.ParamType}
    {Reads : List UInt8 → α → Prop}
    (hreads : ∀ req a, hop w param req = .ok a ↔
      ∃ data : Bytes, decodeReply (w.node req) = .ok data ∧ Reads data.toList a)
    (ensName : String) (selector : Selector) (a : α) :
    outcome w (p.queryResolver namehash param ensName selector : Rpc α) = .ok a ↔
      ∃ resolver,
        (∃ data : Bytes, decodeReply (w.node (registryRequest namehash p ensName)) = .ok data ∧
          Abi.ReadsAddress data.toList resolver) ∧
        resolver ≠ FixedBytes.zero 20 ∧
        ∃ data : Bytes,
          decodeReply (w.node (resolverRequest namehash resolver selector ensName)) = .ok data ∧
          Reads data.toList a := by
  rw [outcome_queryResolver, Outcome.bind_eq_ok]
  simp only [← hop_address_ok_iff, ← hreads]
  refine ⟨fun ⟨resolver, hresolver, hif⟩ => ?_, fun ⟨resolver, hresolver, hne, ha⟩ => ?_⟩
  · split_ifs at hif with hzero
    exact ⟨resolver, hresolver, hzero, hif⟩
  · exact ⟨resolver, hresolver, by rw [if_neg hne]; exact ha⟩

/-- `query_resolver` panics exactly when the registry's reply is shorter than a word, or, after a
non-zero resolver, the resolver's reply is not one token of `param`. -/
theorem queryResolver_panic_by_replies {α : Type} [Abi.Detokenize α] {param : Abi.ParamType}
    (hdetok : Detokenizes α param) (ensName : String) (selector : Selector) :
    (∃ m, outcome w (p.queryResolver namehash param ensName selector : Rpc α) = .panic m) ↔
      (∃ data : Bytes, decodeReply (w.node (registryRequest namehash p ensName)) = .ok data ∧
        data.toList.length < 32) ∨
      ∃ resolver,
        (∃ data : Bytes, decodeReply (w.node (registryRequest namehash p ensName)) = .ok data ∧
          Abi.ReadsAddress data.toList resolver) ∧
        resolver ≠ FixedBytes.zero 20 ∧
        ∃ data : Bytes,
          decodeReply (w.node (resolverRequest namehash resolver selector ensName)) = .ok data ∧
          ¬ Abi.Accepts param data.toList := by
  rw [queryResolver_panic_iff w namehash p hdetok]
  simp only [HopRejects, Abi.accepts_address_iff, not_le, ← hop_address_ok_iff]

/-- **`resolve_name`, by the node's replies.** It returns `a` exactly when the registry's reply
names a non-zero resolver in the low 20 of its first 32 bytes, and that resolver's reply holds `a`
there; the other bytes of both replies are never read. It panics exactly when the registry's reply,
or after a non-zero resolver the resolver's, is shorter than 32 bytes. -/
theorem resolveName_by_replies (ensName : String) (a : Address) :
    (outcome w (p.resolveName namehash ensName) = .ok a ↔
      ∃ resolver,
        (∃ data : Bytes, decodeReply (w.node (registryRequest namehash p ensName)) = .ok data ∧
          Abi.ReadsAddress data.toList resolver) ∧
        resolver ≠ FixedBytes.zero 20 ∧
        ∃ data : Bytes,
          decodeReply (w.node (resolverRequest namehash resolver ADDR_SELECTOR ensName)) = .ok data ∧
          Abi.ReadsAddress data.toList a) ∧
    ((∃ m, outcome w (p.resolveName namehash ensName) = .panic m) ↔
      (∃ data : Bytes, decodeReply (w.node (registryRequest namehash p ensName)) = .ok data ∧
        data.toList.length < 32) ∨
      ∃ resolver,
        (∃ data : Bytes, decodeReply (w.node (registryRequest namehash p ensName)) = .ok data ∧
          Abi.ReadsAddress data.toList resolver) ∧
        resolver ≠ FixedBytes.zero 20 ∧
        ∃ data : Bytes,
          decodeReply (w.node (resolverRequest namehash resolver ADDR_SELECTOR ensName)) = .ok data ∧
          data.toList.length < 32) := by
  refine ⟨queryResolver_ok_iff w namehash p (hop_address_ok_iff w) _ _ a, ?_⟩
  rw [Provider.resolveName, queryResolver_panic_by_replies w namehash p detokenizes_address]
  simp only [Abi.accepts_address_iff, not_le]

/-- **`lookup_address`, by the node's replies.** It returns `name` exactly when the registry's reply
for the reverse name reads as a non-zero resolver and that resolver's reply reads as `name`
(`ReadsString`: an offset word, a length word at that byte offset, and that many bytes after it,
read as UTF-8 with broken sequences replaced; the other bytes unread). It panics exactly when the
registry's reply is shorter than 32 bytes, or, after a non-zero resolver, the resolver's reply has
no string layout: its offset or length word is not a number below `2 ^ 32`, or the layout runs past
the end of the reply. -/
theorem lookupAddress_by_replies (addr : Address) (name : String) :
    (outcome w (p.lookupAddress namehash addr) = .ok name ↔
      ∃ resolver,
        (∃ data : Bytes,
          decodeReply (w.node (registryRequest namehash p (reverseAddress addr))) = .ok data ∧
          Abi.ReadsAddress data.toList resolver) ∧
        resolver ≠ FixedBytes.zero 20 ∧
        ∃ data : Bytes,
          decodeReply (w.node (resolverRequest namehash resolver NAME_SELECTOR (reverseAddress addr))) =
            .ok data ∧
          Abi.ReadsString data.toList name) ∧
    ((∃ m, outcome w (p.lookupAddress namehash addr) = .panic m) ↔
      (∃ data : Bytes,
        decodeReply (w.node (registryRequest namehash p (reverseAddress addr))) = .ok data ∧
        data.toList.length < 32) ∨
      ∃ resolver,
        (∃ data : Bytes,
          decodeReply (w.node (registryRequest namehash p (reverseAddress addr))) = .ok data ∧
          Abi.ReadsAddress data.toList resolver) ∧
        resolver ≠ FixedBytes.zero 20 ∧
        ∃ data : Bytes,
          decodeReply (w.node (resolverRequest namehash resolver NAME_SELECTOR (reverseAddress addr))) =
            .ok data ∧
          ¬ ∃ offset len, Abi.StringLayout data.toList offset len) := by
  refine ⟨queryResolver_ok_iff w namehash p (hop_string_ok_iff w) _ _ name, ?_⟩
  rw [Provider.lookupAddress, queryResolver_panic_by_replies w namehash p detokenizes_string]
  simp only [Abi.accepts_string_iff]

/-- A hop whose reply is the encoding of an address reads that address. -/
theorem hop_encodeAddress {req : Request} {a : Address}
    (hreply : w.node req = .ok (toJson (⟨Abi.encodeAddress a⟩ : Bytes))) : hop w .address req = .ok a := by
  unfold hop decodeBytes
  simp only [hreply, decodeReply_toJson_bytes, Outcome.ofClient, Outcome.ok_bind, Abi.decode_encodeAddress]
  rfl

/-- A hop whose reply is the encoding of a string of fewer than `2 ^ 32` bytes reads that string. -/
theorem hop_encodeString {req : Request} {s : String} (hs : s.utf8ByteSize < 2 ^ 32)
    (hreply : w.node req = .ok (toJson (⟨Abi.encodeString s⟩ : Bytes))) : hop w .string req = .ok s := by
  unfold hop decodeBytes
  simp only [hreply, decodeReply_toJson_bytes, Outcome.ofClient, Outcome.ok_bind, Abi.decode_encodeString hs]
  rfl

/-- **Reverse resolution returns the name on record.** When the registry answers the reverse key of
an address with the encoding of a non-zero resolver, and that resolver answers `name` with the
encoding of a string of fewer than `2 ^ 32` bytes, `lookup_address` returns that string after those
two calls. -/
theorem lookupAddress_returns_record {addr resolver : Address} {s : String}
    (hregistry : w.node (registryRequest namehash p (reverseAddress addr)) =
      .ok (toJson (⟨Abi.encodeAddress resolver⟩ : Bytes)))
    (hresolver : resolver ≠ FixedBytes.zero 20)
    (hname : w.node (resolverRequest namehash resolver NAME_SELECTOR (reverseAddress addr)) =
      .ok (toJson (⟨Abi.encodeString s⟩ : Bytes)))
    (hs : s.utf8ByteSize < 2 ^ 32) :
    outcome w (p.lookupAddress namehash addr) = .ok s ∧
      requests w (p.lookupAddress namehash addr) =
        [registryRequest namehash p (reverseAddress addr),
          resolverRequest namehash resolver NAME_SELECTOR (reverseAddress addr)] := by
  unfold Provider.lookupAddress
  rw [outcome_queryResolver, requests_queryResolver, hop_encodeAddress w hregistry]
  simp [hresolver, hop_encodeString w hs hname]

end Records

set_option maxRecDepth 20000 in
theorem lookupAddress_returns_record_alice :
    outcome spoofWorld (Provider.new.lookupAddress exampleKey victim) = .ok "alice.eth" ∧
      requests spoofWorld (Provider.new.lookupAddress exampleKey victim) =
        [registryRequest exampleKey Provider.new (reverseAddress victim),
          resolverRequest exampleKey someResolver NAME_SELECTOR (reverseAddress victim)] :=
  @lookupAddress_returns_record spoofWorld exampleKey Provider.new victim someResolver "alice.eth" rfl
    (by decide) rfl (by decide)

end EthersProviders

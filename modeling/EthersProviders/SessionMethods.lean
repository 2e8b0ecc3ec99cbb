import EthersProviders.Session
import EthersProviders.SendTransaction
import EthersProviders.Signing

/-!
# The provider's methods against nodes with state

The methods that send more than one request, resolution, the account queries, `get_storage_at`
and `send_transaction`, never send the same request twice: resolution's registry and resolver calls
carry different selectors, and every other request goes under a method of its own. None of them
registers a channel. Every other method is one `request`, and `subscribe` registers one channel
after it. So each runs, against a node with state, as it runs in some world, and every theorem
proved of them over all worlds holds against nodes with state as well.
-/

namespace EthersProviders

open Rpc

theorem nodup_andThen {α : Type} (o : Outcome α) {f : α → List Request} (hf : ∀ a, (f a).Nodup) :
    (o.andThen f).Nodup := by
  cases o with
  | ok a => exact hf a
  | err e => exact List.nodup_nil
  | panic m => exact List.nodup_nil

section Requests

variable (w : World) (namehash : String → H256) (p : Provider)

/-- The registry call and a resolver call under another selector are different requests. -/
theorem registryRequest_ne_resolverRequest {ensName : String} {resolver : Address}
    {selector : Selector} (hsel : selector ≠ ENS_RESOLVER_SELECTOR) :
    registryRequest namehash p ensName ≠ resolverRequest namehash resolver selector ensName := by
  intro h
  simp [registryRequest, resolverRequest, callRequest, ensCall, toJson] at h
  have hbytes := congrArg decodeHexText h.2
  rw [decodeHexText_hexText, decodeHexText_hexText, Except.ok.injEq,
    List.append_cancel_right_eq] at hbytes
  exact hsel (FixedBytes.ext hbytes.symm)

theorem nodup_requests_queryResolver {α : Type} [Abi.Detokenize α] (param : Abi.ParamType)
    (ensName : String) {selector : Selector} (hsel : selector ≠ ENS_RESOLVER_SELECTOR) :
    (requests w (p.queryResolver namehash param ensName selector : Rpc α)).Nodup := by
  rw [requests_queryResolver]
  rcases hop w .address (registryRequest namehash p ensName) with resolver | e | m
  · by_cases hzero : resolver = FixedBytes.zero 20
    · simp [hzero]
    · simp [hzero, registryRequest_ne_resolverRequest namehash p hsel]
  · simp
  · simp

theorem nodup_requests_resolveNameOrAddress (account : NameOrAddress) :
    (requests w (p.resolveNameOrAddress namehash account)).Nodup := by
  cases account with
  | name ensName => exact nodup_requests_queryResolver w namehash p _ _ (by decide)
  | address addr => exact List.nodup_nil

theorem method_of_mem_requests_resolveNameOrAddress {account : NameOrAddress} {req : Request}
    (h : req ∈ requests w (p.resolveNameOrAddress namehash account)) : req.method = "eth_call" := by
  cases account with
  | name ensName => exact method_of_mem_requests_resolveName w namehash p h
  | address addr => cases h

/-- A call that resolves an account and then sends, on the address, requests none of which is an
`eth_call` and none twice, sends no request twice. -/
theorem nodup_requests_resolved {β : Type} (account : NameOrAddress) {f : Address → Rpc β}
    (hf : ∀ addr, (requests w (f addr)).Nodup ∧ ∀ req ∈ requests w (f addr), req.method ≠ "eth_call") :
    (requests w (p.resolveNameOrAddress namehash account >>= f)).Nodup := by
  rw [requests_bind]
  refine List.nodup_append.mpr ⟨nodup_requests_resolveNameOrAddress w namehash p account,
    nodup_andThen _ fun addr => (hf addr).1, fun req h₁ h₂ => ?_⟩
  obtain ⟨addr, -, h₂⟩ := Outcome.mem_andThen.mp h₂
  exact (hf addr).2 req h₂ (method_of_mem_requests_resolveNameOrAddress w namehash p h₁)

theorem nodup_requests_accountQuery {R : Type} [Serialize R] [Deserialize R] {method : String}
    (hmethod : method ≠ "eth_call") (account : NameOrAddress) (block : Option BlockId) :
    (requests w (p.accountQuery namehash method account block : Rpc R)).Nodup := by
  refine nodup_requests_resolved w namehash p account fun addr => ?_
  rw [requests_request_list]
  exact ⟨List.nodup_singleton _, fun req h => by rw [List.mem_singleton.mp h]; exact hmethod⟩

theorem requests_storageValue (value : String) : requests w (storageValue value) = [] := by
  dsimp only [storageValue]
  split
  · rfl
  · split <;> rfl

theorem nodup_requests_getStorageAt (account : NameOrAddress) (location : H256)
    (block : Option BlockId) : (requests w (p.getStorageAt namehash account location block)).Nodup := by
  refine nodup_requests_resolved w namehash p account fun addr => ?_
  rw [requests_bind, requests_request_list]
  simp only [requests_storageValue, Outcome.andThen_nil, List.append_nil]
  exact ⟨List.nodup_singleton _, fun req h => by
    rw [List.mem_singleton.mp h]; exact show "eth_getStorageAt" ≠ "eth_call" by decide⟩

theorem nodup_requests_resolveRecipient (tx : TransactionRequest) :
    (requests w (resolveRecipient namehash p tx)).Nodup := by
  unfold resolveRecipient
  split
  · simp only [requests_bind, outcome_bind, requests_pure, Outcome.andThen_nil, List.append_nil]
    exact nodup_requests_queryResolver w namehash p _ _ (by decide)
  · exact List.nodup_nil

theorem nodup_requests_fillGas (tx : TransactionRequest) : (requests w (fillGas tx)).Nodup := by
  unfold fillGas
  split
  · rw [requests_bind]
    simp only [requests_pure, Outcome.andThen_nil, List.append_nil]
    exact nodup_requests_request w
  · exact List.nodup_nil

/-- `send_transaction` never sends a request twice: the estimate, resolution's calls and the
submission go under three different methods, and resolution's two calls differ. -/
theorem nodup_requests_sendTransaction (tx : TransactionRequest) (block : Option BlockId) :
    (requests w (p.sendTransaction namehash tx block)).Nodup := by
  rw [requests_sendTransaction]
  have hrest : ∀ txGas, ∀ req ∈ requests w (resolveRecipient namehash p txGas) ++
      (outcome w (resolveRecipient namehash p txGas)).andThen (fun txSent =>
        requests w (request "eth_sendTransaction" [txSent] : Rpc TxHash)),
      req.method = "eth_call" ∨ req.method = "eth_sendTransaction" := by
    intro txGas req h
    rcases List.mem_append.mp h with h | h
    · exact .inl (method_of_mem_requests_resolveRecipient w namehash p h)
    · obtain ⟨txSent, -, h⟩ := Outcome.mem_andThen.mp h
      exact .inr (method_of_mem_requests_request w h)
  refine List.nodup_append.mpr ⟨nodup_requests_fillGas w _, ?_, fun req h₁ h₂ => ?_⟩
  · refine nodup_andThen _ fun txGas => List.nodup_append.mpr
      ⟨nodup_requests_resolveRecipient w namehash p txGas,
        nodup_andThen _ fun _ => nodup_requests_request w, fun req h₁ h₂ => ?_⟩
    have hcall := method_of_mem_requests_resolveRecipient w namehash p h₁
    obtain ⟨txSent, -, h₂⟩ := Outcome.mem_andThen.mp h₂
    rw [method_of_mem_requests_request w h₂] at hcall
    exact absurd hcall (by decide)
  · obtain ⟨txGas, -, h₂⟩ := Outcome.mem_andThen.mp h₂
    rcases hrest txGas req h₂ with h | h <;> rw [method_of_mem_requests_fillGas w h₁] at h <;>
      exact absurd h (by decide)

end Requests

section Quiet

variable (namehash : String → H256) (p : Provider)

theorem quiet_resolveNameOrAddress (account : NameOrAddress) :
    (p.resolveNameOrAddress namehash account).Quiet := by
  cases account with
  | name ensName => exact quiet_queryResolver namehash p _ _ _
  | address addr => exact quiet_pure _

theorem quiet_accountQuery {R : Type} [Serialize R] [Deserialize R] (method : String)
    (account : NameOrAddress) (block : Option BlockId) :
    (p.accountQuery namehash method account block : Rpc R).Quiet :=
  Quiet.bind (quiet_resolveNameOrAddress namehash p account) fun _ => quiet_request _ _

theorem quiet_storageValue (value : String) : (storageValue value).Quiet := by
  dsimp only [storageValue]
  split
  · trivial
  · split <;> trivial

theorem quiet_getStorageAt (account : NameOrAddress) (location : H256) (block : Option BlockId) :
    (p.getStorageAt namehash account location block).Quiet :=
  Quiet.bind (quiet_resolveNameOrAddress namehash p account) fun _ =>
    Quiet.bind (quiet_request _ _) fun _ => quiet_storageValue _

theorem quiet_sendTransaction (tx : TransactionRequest) (block : Option BlockId) :
    (p.sendTransaction namehash tx block).Quiet := by
  rw [sendTransaction_eq]
  refine Quiet.bind ?_ fun tx => Quiet.bind ?_ fun tx =>
    Quiet.bind (quiet_request _ _) fun _ => quiet_pure _
  · unfold fillGas
    split
    · exact Quiet.bind (quiet_request _ _) fun _ => quiet_pure _
    · exact quiet_pure _
  · unfold resolveRecipient
    split
    · exact Quiet.bind (quiet_queryResolver _ _ _ _ _) fun _ => quiet_pure _
    · exact quiet_pure _

theorem quiet_utilsSerialize {α : Type} [Serialize α] (a : α) : (utilsSerialize a).Quiet := by
  unfold utilsSerialize
  split <;> trivial

end Quiet

section Single

variable {T R U : Type} [Serialize T] [Serialize R] [Deserialize R] [Serialize U]

/-- A call that serializes a value with `utils::serialize` first sends only what follows. -/
theorem nodup_requests_utilsSerialize_bind {α β : Type} [Serialize α] (w : World) (a : α)
    {f : Json → Rpc β} (hf : ∀ json, (requests w (f json)).Nodup) :
    (requests w (utilsSerialize a >>= f)).Nodup := by
  rw [requests_bind, requests_utilsSerialize, List.nil_append]
  exact nodup_andThen _ hf

/-- A `request` followed by work that sends nothing sends at most one request. -/
theorem nodup_requests_request_bind {β : Type} (w : World) (method : String) (params : T)
    {f : R → Rpc β} (hf : ∀ r, requests w (f r) = []) :
    (requests w (request method params >>= f)).Nodup := by
  rw [requests_bind]
  simp only [hf, Outcome.andThen_nil, List.append_nil]
  exact nodup_requests_request w

theorem requests_signatureOf (w : World) (sig : String) : requests w (signatureOf sig) = [] := by
  unfold signatureOf
  split
  · rfl
  · split <;> rfl

theorem quiet_signatureOf (sig : String) : (signatureOf sig).Quiet := by
  unfold signatureOf
  split
  · trivial
  · split <;> trivial

theorem nodup_requests_isSigner (w : World) (p : Provider) : (requests w p.isSigner).Nodup := by
  unfold Provider.isSigner
  split
  · rw [requests_bind, requests_attempt]
    simp only [requests_pure, Outcome.andThen_nil, List.append_nil]
    exact nodup_requests_request_bind w _ _ fun sig => requests_signatureOf w sig
  · exact List.nodup_nil

theorem quiet_isSigner (p : Provider) : p.isSigner.Quiet := by
  unfold Provider.isSigner
  split
  · exact Quiet.bind (Quiet.bind (quiet_request _ _) quiet_signatureOf).attempt fun _ => quiet_pure _
  · exact quiet_pure _

@[simp] theorem requests_subscriptionStream_new (w : World) (id : U256) :
    requests w (SubscriptionStream.new id) = [] := by
  simp only [SubscriptionStream.new, requests_listen]
  split <;> rfl

theorem nodup_requests_subscribe (w : World) (params : U) :
    (requests w (Provider.subscribe params)).Nodup := by
  rw [Provider.subscribe, requests_bind]
  simp only [requests_subscriptionStream_new, Outcome.andThen_nil, List.append_nil]
  exact nodup_requests_request w

theorem ids_runIn_subscriptionStream_new {σ : Type} (S : Session σ) (s : σ) (id : U256) :
    (runIn S s (SubscriptionStream.new id)).ids = [id] := by
  simp only [SubscriptionStream.new, runIn, SessionRun.ids, List.filterMap_cons, Event.id?]
  split <;> rfl

/-- `subscribe` registers one channel at most: the one for the id the node answered. -/
theorem nodup_ids_subscribe {σ : Type} (S : Session σ) (s : σ) (params : U) :
    (runIn S s (Provider.subscribe params)).ids.Nodup := by
  rw [Provider.subscribe, ids_runIn_bind, ids_runIn_of_quiet S (quiet_request _ _), List.nil_append]
  split
  · rw [ids_runIn_subscriptionStream_new]; exact List.nodup_singleton _
  · exact List.nodup_nil

end Single

/-- **The multi-request methods against nodes with state.** Run against any node with state, from
any state, `resolve_name`, `lookup_address`, `get_balance`, `get_transaction_count`, `get_code`,
`get_storage_at` and `send_transaction` each end as, and send the requests that, they do in some
world: the one that answers each of their requests as the node did. -/
theorem methods_run_as_in_a_world {σ : Type} (S : Session σ) (s : σ) (namehash : String → H256)
    (p : Provider) (ensName : String) (addr : Address) (account : NameOrAddress) (location : H256)
    (block : Option BlockId) (tx : TransactionRequest) :
    S.RunsAsInWorld s (p.resolveName namehash ensName) ∧
      S.RunsAsInWorld s (p.lookupAddress namehash addr) ∧
      S.RunsAsInWorld s (p.getBalance namehash account block) ∧
      S.RunsAsInWorld s (p.getTransactionCount namehash account block) ∧
      S.RunsAsInWorld s (p.getCode namehash account block) ∧
      S.RunsAsInWorld s (p.getStorageAt namehash account location block) ∧
      S.RunsAsInWorld s (p.sendTransaction namehash tx block) :=
  ⟨quiet_run_is_world_run S (quiet_queryResolver namehash p _ _ _)
      (fun w => nodup_requests_queryResolver w namehash p _ _ (by decide)) s,
    quiet_run_is_world_run S (quiet_queryResolver namehash p _ _ _)
      (fun w => nodup_requests_queryResolver w namehash p _ _ (by decide)) s,
    quiet_run_is_world_run S (quiet_accountQuery namehash p _ _ _)
      (fun w => nodup_requests_accountQuery w namehash p (by decide) _ _) s,
    quiet_run_is_world_run S (quiet_accountQuery namehash p _ _ _)
      (fun w => nodup_requests_accountQuery w namehash p (by decide) _ _) s,
    quiet_run_is_world_run S (quiet_accountQuery namehash p _ _ _)
      (fun w => nodup_requests_accountQuery w namehash p (by decide) _ _) s,
    quiet_run_is_world_run S (quiet_getStorageAt namehash p _ _ _)
      (fun w => nodup_requests_getStorageAt w namehash p _ _ _) s,
    quiet_run_is_world_run S (quiet_sendTransaction namehash p _ _)
      (fun w => nodup_requests_sendTransaction w namehash p _ _) s⟩

/-- **Single calls and subscriptions against nodes with state.** Every method whose body is one
`request` (the block, transaction, gas, account, estimate, log, filter, txpool and trace queries,
`new_filter` and `unsubscribe`), `call` and `trace_call`, whose `utils::serialize` sends nothing
before their request, those that do nothing after their request but decode or wrap its answer
(`send_raw_transaction`, `sign`, `is_signer`, and `watch`, `watch_blocks`,
`watch_pending_transactions` through their shared body), and `subscribe`, which registers one
channel after its request, run against any node with state, from any state, as in a world that
answers every event of the run as the node did. -/
theorem single_calls_run_as_in_a_world {σ T R U : Type} [Serialize T] [Serialize R] [Deserialize R]
    [Serialize U] (S : Session σ) (s : σ) (p : Provider) (method : String) (params : T)
    (subscription : U) (rlp data : Bytes) («from» : Address) (filter : FilterKind)
    (tx : TransactionRequest) (block : Option BlockId) (traceType : List TraceType)
    (traceBlock : Option BlockNumber) :
    S.RunsAsInWorld s (request method params : Rpc R) ∧
      S.RunsAsInWorld s (Provider.call tx block) ∧
      S.RunsAsInWorld s (Provider.traceCall tx traceType traceBlock) ∧
      S.RunsAsInWorld s (Provider.subscribe subscription) ∧
      S.RunsAsInWorld s (p.sendRawTransaction rlp) ∧
      S.RunsAsInWorld s (Provider.sign data «from») ∧
      S.RunsAsInWorld s p.isSigner ∧
      S.RunsAsInWorld s (p.watchFilter filter) :=
  ⟨quiet_run_is_world_run S (quiet_request _ _) (fun w => nodup_requests_request w) s,
    quiet_run_is_world_run S (Quiet.bind (quiet_utilsSerialize _) fun _ => quiet_request _ _)
      (fun w => nodup_requests_utilsSerialize_bind w _ fun _ => nodup_requests_request w) s,
    quiet_run_is_world_run S (Quiet.bind (quiet_utilsSerialize _) fun _ => quiet_request _ _)
      (fun w => nodup_requests_utilsSerialize_bind w _ fun _ => nodup_requests_request w) s,
    session_run_is_world_run S _ (fun w => nodup_requests_subscribe w _) s
      (nodup_ids_subscribe S s _),
    quiet_run_is_world_run S (Quiet.bind (quiet_request _ _) fun _ => quiet_pure _)
      (fun w => nodup_requests_request_bind w _ _ fun _ => rfl) s,
    quiet_run_is_world_run S (Quiet.bind (quiet_request _ _) quiet_signatureOf)
      (fun w => nodup_requests_request_bind w _ _ fun sig => requests_signatureOf w sig) s,
    quiet_run_is_world_run S (quiet_isSigner p) (fun w => nodup_requests_isSigner w p) s,
    quiet_run_is_world_run S (Quiet.bind (quiet_request _ _) fun _ => quiet_pure _)
      (fun w => nodup_requests_request_bind w _ _ fun _ => rfl) s⟩

end EthersProviders

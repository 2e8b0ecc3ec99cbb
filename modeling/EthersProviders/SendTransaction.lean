import EthersProviders.Resolution

/-!
# `send_transaction`

`send_transaction` completes the transaction in three steps before it submits it: the provider's
sender when the transaction names none, a gas estimate when it has no gas, and the address of an
ENS recipient. The estimate is asked for between the first and the third step, with the recipient
still a name if it is one, but a name does not serialize: `request` sends nothing and fails. So a
transaction with no gas is estimated only when its recipient is already an address, resolution has
nothing to change after the estimate, and the transaction submitted is the estimated one with the
estimate as its gas. A transaction to a name is submitted only when it comes with its gas.

The module names the three steps, states the requests and the outcome of each, and from them what
a whole run sends and returns.
-/

namespace EthersProviders

open Rpc

/-! ### The three steps -/

section Steps

variable (w : World) (namehash : String → H256) (p : Provider)

/-- The first step: the provider's sender, when the transaction names none. -/
def fillSender (tx : TransactionRequest) : TransactionRequest :=
  if tx.from.isNone then { tx with «from» := p.sender } else tx

/-- The second step: a gas estimate, when the transaction has no gas. -/
def fillGas (tx : TransactionRequest) : Rpc TransactionRequest :=
  if tx.gas.isNone then do
    let gas ← Provider.estimateGas tx
    Pure.pure { tx with gas := some gas }
  else Pure.pure tx

/-- The third step: an ENS recipient replaced by the address it resolves to. -/
def resolveRecipient (tx : TransactionRequest) : Rpc TransactionRequest :=
  match tx.to with
  | some (.name ensName) => do
    let addr ← p.resolveName namehash ensName
    Pure.pure { tx with «to» := some (.address addr) }
  | _ => Pure.pure tx

theorem sendTransaction_eq (tx : TransactionRequest) (block : Option BlockId) :
    p.sendTransaction namehash tx block = (do
      let tx ← fillGas (fillSender p tx)
      let tx ← resolveRecipient namehash p tx
      let txHash ← request "eth_sendTransaction" [tx]
      Pure.pure ⟨txHash, p.getInterval⟩) := by
  obtain ⟨«from», «to», gas, gasPrice, value, data, nonce⟩ := tx
  unfold Provider.sendTransaction fillGas resolveRecipient fillSender
  rcases «to» with _ | _ | _ <;> cases «from» <;> cases gas <;>
    simp only [Option.isNone_none, Option.isNone_some, ↓reduceIte, Bool.false_eq_true, Rpc.bind_bind,
      Rpc.pure_bind]

/-- The first step changes the sender only. -/
@[simp] theorem fillSender_to (tx : TransactionRequest) : (fillSender p tx).to = tx.to := by
  unfold fillSender; split <;> rfl

@[simp] theorem fillSender_gas (tx : TransactionRequest) : (fillSender p tx).gas = tx.gas := by
  unfold fillSender; split <;> rfl

theorem requests_fillGas {tx : TransactionRequest} {json : Json} (hgas : tx.gas = none)
    (hjson : serialize [tx] = .ok json) : requests w (fillGas tx) = [⟨"eth_estimateGas", json⟩] := by
  simp [fillGas, hgas, Provider.estimateGas, requests_request hjson]

theorem outcome_fillGas {tx : TransactionRequest} {json : Json} (hgas : tx.gas = none)
    (hjson : serialize [tx] = .ok json) :
    outcome w (fillGas tx) =
      (Outcome.ofClient (decodeReply (w.node ⟨"eth_estimateGas", json⟩))).bind fun gas =>
        .ok { tx with gas := some gas } := by
  simp [fillGas, hgas, Provider.estimateGas, outcome_request hjson serializeTotal_of_toJson]

/-- A transaction to a name with no gas cannot be estimated: `request` does not serialize it, sends
nothing, and fails with the name's refusal. -/
theorem fillGas_name {tx : TransactionRequest} {ensName : String} (hgas : tx.gas = none)
    (hto : tx.to = some (.name ensName)) :
    requests w (fillGas tx) = [] ∧
      outcome w (fillGas tx) =
        .err (if w.traceEnabled then .serdeJson (ensNameRefusal ensName)
          else .jsonRpcClientError (.serde (ensNameRefusal ensName))) := by
  have hjson := serialize_singleton_transactionRequest_name hto
  simp [fillGas, hgas, Provider.estimateGas, requests_request_of_error hjson,
    outcome_request_of_error hjson]

/-- A transaction that has its gas is not estimated. -/
theorem fillGas_of_gas {tx : TransactionRequest} {gas : U256} (hgas : tx.gas = some gas) :
    fillGas tx = Pure.pure tx := by
  simp [fillGas, hgas]

/-- The second step sends the estimate and nothing else. -/
theorem method_of_mem_requests_fillGas {tx : TransactionRequest} {req : Request}
    (h : req ∈ requests w (fillGas tx)) : req.method = "eth_estimateGas" := by
  unfold fillGas at h
  split at h
  · rcases List.mem_append.mp (requests_bind w _ _ ▸ h) with h | h
    · exact method_of_mem_requests_request w h
    · obtain ⟨_, -, h⟩ := Outcome.mem_andThen.mp h
      cases h
  · cases h

/-- The third step leaves a transaction that is not to a name as it is. -/
theorem resolveRecipient_of_not_name {tx : TransactionRequest}
    (hto : ∀ ensName, tx.to ≠ some (.name ensName)) : resolveRecipient namehash p tx = Pure.pure tx := by
  unfold resolveRecipient
  split
  · exact absurd ‹_› (hto _)
  · rfl

/-- The third step sends nothing but the `eth_call`s of resolution. -/
theorem method_of_mem_requests_resolveRecipient {tx : TransactionRequest} {req : Request}
    (h : req ∈ requests w (resolveRecipient namehash p tx)) : req.method = "eth_call" := by
  unfold resolveRecipient at h
  split at h
  · simp only [requests_bind, outcome_bind, requests_pure, Outcome.andThen_nil,
      List.append_nil] at h
    exact method_of_mem_requests_resolveName w namehash p h
  · simp at h

end Steps

/-! ### A whole run -/

section Run

variable (w : World) (namehash : String → H256) (p : Provider)

/-- The requests of `send_transaction`: those of each step, each step run on what the one before
returned, and last the submission. -/
theorem requests_sendTransaction (tx : TransactionRequest) (block : Option BlockId) :
    requests w (p.sendTransaction namehash tx block) =
      requests w (fillGas (fillSender p tx)) ++
        (outcome w (fillGas (fillSender p tx))).andThen fun txGas =>
          requests w (resolveRecipient namehash p txGas) ++
            (outcome w (resolveRecipient namehash p txGas)).andThen fun txSent =>
              requests w (request "eth_sendTransaction" [txSent] : Rpc TxHash) := by
  simp [sendTransaction_eq]

theorem outcome_sendTransaction (tx : TransactionRequest) (block : Option BlockId) :
    outcome w (p.sendTransaction namehash tx block) =
      (outcome w (fillGas (fillSender p tx))).bind fun txGas =>
        (outcome w (resolveRecipient namehash p txGas)).bind fun txSent =>
          (outcome w (request "eth_sendTransaction" [txSent] : Rpc TxHash)).bind fun txHash =>
            .ok ⟨txHash, p.getInterval⟩ := by
  simp [sendTransaction_eq]

/-- **Gas is estimated for the transaction that is sent.** A transaction with no gas either sends
nothing at all, or first sends the estimate of itself as it stands after its sender is filled in,
whose recipient is then not a name. Whatever it submits after that is the estimated transaction
with the estimate as its gas. -/
theorem sendTransaction_estimates_sent {tx : TransactionRequest} (hgas : tx.gas = none)
    (block : Option BlockId) :
    requests w (p.sendTransaction namehash tx block) = [] ∨
      ∃ estimate rest, requests w (p.sendTransaction namehash tx block) = estimate :: rest ∧
        estimate.method = "eth_estimateGas" ∧ serialize [fillSender p tx] = .ok estimate.params ∧
        (∀ ensName, (fillSender p tx).to ≠ some (.name ensName)) ∧
        ∀ submit ∈ rest, submit.method = "eth_sendTransaction" →
          ∃ gas, Outcome.ofClient (decodeReply (w.node estimate)) = .ok gas ∧
            serialize [{ fillSender p tx with gas := some gas }] = .ok submit.params := by
  have hgas' : (fillSender p tx).gas = none := by rw [fillSender_gas, hgas]
  by_cases hname : ∃ ensName, (fillSender p tx).to = some (.name ensName)
  · obtain ⟨ensName, hto⟩ := hname
    obtain ⟨hreq, hout⟩ := fillGas_name w hgas' hto
    left
    rw [requests_sendTransaction, hreq, hout]
    rfl
  · simp only [not_exists] at hname
    obtain ⟨json, hjson⟩ := serialize_singleton_transactionRequest_ok hname
    have hrun := requests_sendTransaction w namehash p tx block
    rw [requests_fillGas w hgas' hjson, List.singleton_append] at hrun
    refine .inr ⟨_, _, hrun, rfl, hjson, hname, fun submit hsubmit hmethod => ?_⟩
    obtain ⟨txGas, hest, hsubmit⟩ := Outcome.mem_andThen.mp hsubmit
    rw [outcome_fillGas w hgas' hjson, Outcome.bind_eq_ok] at hest
    obtain ⟨gas, hestimate, ⟨⟩⟩ := hest
    have hto : ∀ ensName, ({ fillSender p tx with gas := some gas } : TransactionRequest).to ≠
        some (.name ensName) := hname
    obtain ⟨json', hjson'⟩ := serialize_singleton_transactionRequest_ok hto
    rw [resolveRecipient_of_not_name namehash p hto] at hsubmit
    simp only [requests_pure, outcome_pure, Outcome.ok_andThen, List.nil_append,
      requests_request hjson', List.mem_singleton] at hsubmit
    subst hsubmit
    exact ⟨gas, hestimate, hjson'⟩

/-- **A transaction to a name with no gas is never sent.** Its estimate cannot serialize the name,
so `send_transaction` fails with the name's refusal before it sends anything, and never resolves the
name: with `SerdeJson` when the trace level is on, with the transport's error otherwise. -/
theorem sendTransaction_name_refused {tx : TransactionRequest} {ensName : String}
    (hgas : tx.gas = none) (hto : tx.to = some (.name ensName)) (block : Option BlockId) :
    requests w (p.sendTransaction namehash tx block) = [] ∧
      outcome w (p.sendTransaction namehash tx block) =
        .err (if w.traceEnabled then .serdeJson (ensNameRefusal ensName)
          else .jsonRpcClientError (.serde (ensNameRefusal ensName))) := by
  obtain ⟨hreq, hout⟩ :=
    fillGas_name w (by rw [fillSender_gas, hgas]) (by rw [fillSender_to, hto] : (fillSender p tx).to = _)
  rw [requests_sendTransaction, outcome_sendTransaction, hreq, hout]
  exact ⟨rfl, rfl⟩

end Run

/-! ### Sending to a name and to an address -/

/-- A transaction to an ENS name, with nothing else set. -/
def nameTx : TransactionRequest := { «to» := some (.name "vitalik.eth") }

/-- A transaction to `victim`, with nothing else set. -/
def payTx : TransactionRequest := { «to» := some (.address victim) }

/-- A node that estimates every transaction at 21000 gas, answers every submission with the zero
hash, and resolves every name to `victim` through `someResolver`. -/
def sendWorld : World :=
  let ens := oneResolverWorld someResolver (Abi.encodeAddress victim)
  { ens with
    node := fun req =>
      if req.method == "eth_estimateGas" then .ok (toJson (21000 : U256))
      else if req.method == "eth_sendTransaction" then .ok (toJson (FixedBytes.zero 32 : TxHash))
      else ens.node req }

theorem sendTransaction_estimates_sent_pay :
    payTx.gas = none ∧
      (requests sendWorld (Provider.new.sendTransaction exampleKey payTx none) = [] ∨
        ∃ estimate rest, requests sendWorld (Provider.new.sendTransaction exampleKey payTx none) =
            estimate :: rest ∧
          estimate.method = "eth_estimateGas" ∧
          serialize [fillSender Provider.new payTx] = .ok estimate.params ∧
          (∀ ensName, (fillSender Provider.new payTx).to ≠ some (.name ensName)) ∧
          ∀ submit ∈ rest, submit.method = "eth_sendTransaction" →
            ∃ gas, Outcome.ofClient (decodeReply (sendWorld.node estimate)) = .ok gas ∧
              serialize [{ fillSender Provider.new payTx with gas := some gas }] = .ok submit.params) :=
  ⟨rfl, sendTransaction_estimates_sent sendWorld exampleKey Provider.new rfl none⟩

theorem sendTransaction_name_refused_vitalik :
    nameTx.gas = none ∧ nameTx.to = some (.name "vitalik.eth") ∧
      requests sendWorld (Provider.new.sendTransaction exampleKey nameTx none) = [] ∧
      outcome sendWorld (Provider.new.sendTransaction exampleKey nameTx none) =
        .err (if sendWorld.traceEnabled then .serdeJson (ensNameRefusal "vitalik.eth")
          else .jsonRpcClientError (.serde (ensNameRefusal "vitalik.eth"))) :=
  ⟨rfl, rfl, sendTransaction_name_refused sendWorld exampleKey Provider.new rfl rfl none⟩

end EthersProviders

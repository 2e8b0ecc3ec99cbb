import EthersProviders.Json

/-!
# Provider calls as programs over a node

Every method of `Provider` is an `async fn` whose effects are JSON-RPC calls on its transport,
registering a subscription with a pub-sub transport, asking whether trace-level tracing is on,
returning an error, and panicking. A call is modelled as a
tree with one node per effect, and run against a `World`: the node behind the transport, which
answers each request with anything at all, and the tracing level. A theorem about every world is
about every chain state and every reply. Running a call gives two things, read off the tree by
structural recursion: the requests it sent, in order, and how it ended.
-/

namespace EthersProviders

/-- One JSON-RPC call as it goes over the wire: the method and the serialized `params`. -/
structure Request where
  method : String
  params : Json

instance : BEq Request := ⟨fun a b => a.method == b.method && a.params == b.params⟩

/-- How a call ends: with a value, with the `ProviderError` it returns, or in a panic. -/
inductive Outcome (α : Type)
  | ok (a : α)
  | err (e : ProviderError)
  | panic (message : String)
deriving DecidableEq

/-- A provider call: a tree whose inner nodes are the effects it performs. -/
inductive Rpc (α : Type) where
  | pure (a : α)
  | throw (e : ProviderError)
  | panic (message : String)
  | send (req : Request) (k : Except ClientError Json → Rpc α)
  | listen (id : U256) (k : Except ClientError Unit → Rpc α)
  | tracing (k : Bool → Rpc α)

/-- What a call runs against: the node's answer to each request, whether a pub-sub transport
registers a channel for a subscription id, and whether the trace level is enabled for the
provider's spans and events. -/
structure World where
  node : Request → Except ClientError Json
  listen : U256 → Except ClientError Unit
  traceEnabled : Bool

namespace Outcome

variable {α β : Type}

def bind : Outcome α → (α → Outcome β) → Outcome β
  | .ok a, f => f a
  | .err e, _ => .err e
  | .panic m, _ => .panic m

/-- The requests still to come after an outcome: those of the continuation when it is `ok`. -/
def andThen (o : Outcome α) (f : α → List Request) : List Request :=
  match o with
  | .ok a => f a
  | _ => []

@[simp] theorem ok_bind (a : α) (f : α → Outcome β) : (Outcome.ok a).bind f = f a := rfl
@[simp] theorem err_bind (e : ProviderError) (f : α → Outcome β) : (Outcome.err e).bind f = .err e := rfl
@[simp] theorem panic_bind (m : String) (f : α → Outcome β) : (Outcome.panic m).bind f = .panic m := rfl
@[simp] theorem ok_andThen (a : α) (f : α → List Request) : (Outcome.ok a).andThen f = f a := rfl
@[simp] theorem err_andThen (e : ProviderError) (f : α → List Request) :
    (Outcome.err e : Outcome α).andThen f = [] := rfl
@[simp] theorem panic_andThen (m : String) (f : α → List Request) :
    (Outcome.panic m : Outcome α).andThen f = [] := rfl

@[simp] theorem andThen_nil (o : Outcome α) : o.andThen (fun _ => []) = [] := by
  cases o <;> rfl

@[simp] theorem bind_assoc {γ : Type} (o : Outcome α) (f : α → Outcome β) (g : β → Outcome γ) :
    (o.bind f).bind g = o.bind fun a => (f a).bind g := by
  cases o <;> rfl

@[simp] theorem bind_andThen (o : Outcome α) (f : α → Outcome β) (g : β → List Request) :
    (o.bind f).andThen g = o.andThen fun a => (f a).andThen g := by
  cases o <;> rfl

theorem mem_andThen {o : Outcome α} {f : α → List Request} {req : Request} :
    req ∈ o.andThen f ↔ ∃ a, o = .ok a ∧ req ∈ f a := by
  cases o <;> simp

theorem bind_eq_ok {o : Outcome α} {f : α → Outcome β} {b : β} :
    o.bind f = .ok b ↔ ∃ a, o = .ok a ∧ f a = .ok b := by
  cases o <;> simp

theorem bind_eq_panic {o : Outcome α} {f : α → Outcome β} {m : String} :
    o.bind f = .panic m ↔ o = .panic m ∨ ∃ a, o = .ok a ∧ f a = .panic m := by
  cases o <;> simp

end Outcome

namespace Rpc

variable {α β : Type}

protected def bind : Rpc α → (α → Rpc β) → Rpc β
  | .pure a, f => f a
  | .throw e, _ => .throw e
  | .panic m, _ => .panic m
  | .send req k, f => .send req fun reply => (k reply).bind f
  | .listen id k, f => .listen id fun reply => (k reply).bind f
  | .tracing k, f => .tracing fun enabled => (k enabled).bind f

instance : Monad Rpc where
  pure := .pure
  bind := Rpc.bind

theorem pure_bind (a : α) (f : α → Rpc β) : (Pure.pure a >>= f) = f a := rfl

theorem bind_bind {γ : Type} (x : Rpc α) (f : α → Rpc β) (g : β → Rpc γ) :
    (x >>= f) >>= g = x >>= fun a => f a >>= g := by
  induction x with
  | pure a => rfl
  | throw e => rfl
  | panic m => rfl
  | send req k ih => exact congrArg (send req) (funext ih)
  | listen id k ih => exact congrArg (listen id) (funext ih)
  | tracing k ih => exact congrArg tracing (funext ih)

/-- How the call ends in `w`. -/
def outcome (w : World) : Rpc α → Outcome α
  | .pure a => .ok a
  | .throw e => .err e
  | .panic m => .panic m
  | .send req k => outcome w (k (w.node req))
  | .listen id k => outcome w (k (w.listen id))
  | .tracing k => outcome w (k w.traceEnabled)

/-- The requests the call sends in `w`, in order. -/
def requests (w : World) : Rpc α → List Request
  | .pure _ | .throw _ | .panic _ => []
  | .send req k => req :: requests w (k (w.node req))
  | .listen id k => requests w (k (w.listen id))
  | .tracing k => requests w (k w.traceEnabled)

variable (w : World)

@[simp] theorem outcome_pure (a : α) : outcome w (Pure.pure a : Rpc α) = .ok a := rfl
@[simp] theorem outcome_throw (e : ProviderError) : outcome w (throw e : Rpc α) = .err e := rfl
@[simp] theorem outcome_panic (m : String) : outcome w (panic m : Rpc α) = .panic m := rfl
@[simp] theorem outcome_send (req : Request) (k : Except ClientError Json → Rpc α) :
    outcome w (send req k) = outcome w (k (w.node req)) := rfl
@[simp] theorem outcome_listen (id : U256) (k : Except ClientError Unit → Rpc α) :
    outcome w (listen id k) = outcome w (k (w.listen id)) := rfl
@[simp] theorem outcome_tracing (k : Bool → Rpc α) :
    outcome w (tracing k) = outcome w (k w.traceEnabled) := rfl

@[simp] theorem requests_pure (a : α) : requests w (Pure.pure a : Rpc α) = [] := rfl
@[simp] theorem requests_throw (e : ProviderError) : requests w (throw e : Rpc α) = [] := rfl
@[simp] theorem requests_panic (m : String) : requests w (panic m : Rpc α) = [] := rfl
@[simp] theorem requests_send (req : Request) (k : Except ClientError Json → Rpc α) :
    requests w (send req k) = req :: requests w (k (w.node req)) := rfl
@[simp] theorem requests_listen (id : U256) (k : Except ClientError Unit → Rpc α) :
    requests w (listen id k) = requests w (k (w.listen id)) := rfl
@[simp] theorem requests_tracing (k : Bool → Rpc α) :
    requests w (tracing k) = requests w (k w.traceEnabled) := rfl

@[simp] theorem outcome_bind (x : Rpc α) (f : α → Rpc β) :
    outcome w (x >>= f) = (outcome w x).bind fun a => outcome w (f a) := by
  induction x with
  | pure a => rfl
  | throw e => rfl
  | panic m => rfl
  | send req k ih => exact ih _
  | listen id k ih => exact ih _
  | tracing k ih => exact ih _

@[simp] theorem requests_bind (x : Rpc α) (f : α → Rpc β) :
    requests w (x >>= f) = requests w x ++ (outcome w x).andThen fun a => requests w (f a) := by
  induction x with
  | pure a => rfl
  | throw e => rfl
  | panic m => rfl
  | send req k ih => exact congrArg (req :: ·) (ih _)
  | listen id k ih => exact ih _
  | tracing k ih => exact ih _

/-! ### Effects -/

/-- Whether the trace level is enabled: the test a `tracing` macro makes before it evaluates its
fields. -/
def traceEnabled : Rpc Bool := .tracing Pure.pure

/-- `?` on a `serde_json` result inside `Provider::request`. -/
def ofSerde (r : Except SerdeError α) : Rpc α :=
  match r with
  | .ok a => Pure.pure a
  | .error e => .throw (.serdeJson e)

/-- `map_err(Into::into)?` on a transport result. -/
def ofClient (r : Except ClientError α) : Rpc α :=
  match r with
  | .ok a => Pure.pure a
  | .error e => .throw (.jsonRpcClientError e)

@[simp] theorem outcome_traceEnabled : outcome w traceEnabled = .ok w.traceEnabled := rfl
@[simp] theorem requests_traceEnabled : requests w traceEnabled = [] := rfl
@[simp] theorem requests_ofSerde (r : Except SerdeError α) : requests w (ofSerde r) = [] := by
  cases r <;> rfl
@[simp] theorem requests_ofClient (r : Except ClientError α) : requests w (ofClient r) = [] := by
  cases r <;> rfl
@[simp] theorem outcome_ofSerde_ok (a : α) : outcome w (ofSerde (.ok a)) = .ok a := rfl
@[simp] theorem outcome_ofSerde_error (e : SerdeError) :
    outcome w (ofSerde (.error e) : Rpc α) = .err (.serdeJson e) := rfl
@[simp] theorem outcome_ofClient_ok (a : α) : outcome w (ofClient (.ok a)) = .ok a := rfl
@[simp] theorem outcome_ofClient_error (e : ClientError) :
    outcome w (ofClient (.error e) : Rpc α) = .err (.jsonRpcClientError e) := rfl

/-- A call's `Result` as a value, as a caller that inspects it instead of `?`-ing it sees it. A
panic still unwinds through. -/
def attempt : Rpc α → Rpc (Except ProviderError α)
  | .pure a => Pure.pure (.ok a)
  | .throw e => Pure.pure (.error e)
  | .panic m => .panic m
  | .send req k => .send req fun reply => attempt (k reply)
  | .listen id k => .listen id fun reply => attempt (k reply)
  | .tracing k => .tracing fun enabled => attempt (k enabled)

@[simp] theorem outcome_attempt (x : Rpc α) :
    outcome w (attempt x) =
      match outcome w x with
      | .ok a => .ok (.ok a)
      | .err e => .ok (.error e)
      | .panic m => .panic m := by
  induction x with
  | pure a => rfl
  | throw e => rfl
  | panic m => rfl
  | send req k ih => exact ih _
  | listen id k ih => exact ih _
  | tracing k ih => exact ih _

@[simp] theorem requests_attempt (x : Rpc α) : requests w (attempt x) = requests w x := by
  induction x with
  | pure a => rfl
  | throw e => rfl
  | panic m => rfl
  | send req k ih => exact congrArg (req :: ·) (ih _)
  | listen id k ih => exact ih _
  | tracing k ih => exact ih _

end Rpc

/-! ### The transport -/

/-- `JsonRpcClient::request`: the transport serializes the parameters, sends the call, and decodes
the node's `result` as `R`. A body it cannot encode or decode fails as a `ClientError` of its own;
when the parameters cannot be encoded nothing is sent. -/
def transport {T R : Type} [Serialize T] [Deserialize R] (method : String) (params : T) :
    Rpc (Except ClientError R) :=
  match serialize params with
  | .error e => pure (.error (.serde e))
  | .ok json => .send ⟨method, json⟩ fun reply =>
      pure (reply >>= fun result => (deserialize result).mapError .serde)

/-- What the transport returns for a reply of the node. -/
def decodeReply {R : Type} [Deserialize R] (reply : Except ClientError Json) : Except ClientError R :=
  reply >>= fun result => (deserialize result).mapError .serde

theorem transport_eq_send {T R : Type} [Serialize T] [Deserialize R] {method : String} {params : T}
    {json : Json} (hparams : serialize params = .ok json) :
    (transport method params : Rpc (Except ClientError R)) =
      .send ⟨method, json⟩ fun reply => pure (decodeReply reply) := by
  simp only [transport, hparams]
  rfl

end EthersProviders

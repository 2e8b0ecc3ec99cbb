import EthersProviders.Rpc

/-!
# `Provider::request`, the dispatcher

Every provider method reaches the node through `request`. It opens a trace span whose `params`
field is `serde_json::to_string(&params)?`, sends the call through the transport, and records the
decoded result in an event whose field is `serde_json::to_string(&res)?`. A span's or an event's
fields are evaluated only when its level is enabled, and each `?` returns from `request`. So tracing
is more than a side effect: with the trace level enabled, a value that cannot be serialized fails
the call, after the node has already answered it in the case of the result.
-/

namespace EthersProviders

variable {T R : Type} [Serialize T] [Serialize R] [Deserialize R]

def request (method : String) (params : T) : Rpc R := do
  let spanEnabled ← Rpc.traceEnabled
  if spanEnabled then
    let _ ← Rpc.ofSerde (serialize params)
  let res ← Rpc.ofClient (← transport method params)
  let eventEnabled ← Rpc.traceEnabled
  if eventEnabled then
    let _ ← Rpc.ofSerde (serialize res)
  return res

/-- The outcome of a transport result, its error wrapped as `request` wraps it. -/
def Outcome.ofClient {α : Type} : Except ClientError α → Outcome α
  | .ok a => .ok a
  | .error e => .err (.jsonRpcClientError e)

/-- A result type every value of which serializes, as the provider's own result types do. -/
def SerializeTotal (R : Type) [Serialize R] : Prop := ∀ r : R, ∃ json, serialize r = .ok json

theorem serializeTotal_of_toJson {R : Type} [ToJson R] : SerializeTotal R :=
  fun r => ⟨toJson r, rfl⟩

section Spec

variable {method : String} {params : T} {json : Json}

/-- A call whose parameters serialize sends exactly one request, whatever the tracing level. -/
@[simp] theorem requests_request (hparams : serialize params = .ok json) (w : World) :
    Rpc.requests w (request method params : Rpc R) = [⟨method, json⟩] := by
  cases htrace : w.traceEnabled <;> cases decodeReply (R := R) (w.node ⟨method, json⟩) <;>
    simp [request, Rpc.traceEnabled, transport_eq_send hparams, htrace, hparams]

/-- A call whose parameters and results serialize ends as the transport's answer. -/
@[simp] theorem outcome_request (hparams : serialize params = .ok json) (hres : SerializeTotal R)
    (w : World) :
    Rpc.outcome w (request method params : Rpc R) =
      Outcome.ofClient (decodeReply (w.node ⟨method, json⟩)) := by
  cases hreply : decodeReply (R := R) (w.node ⟨method, json⟩) with
  | error e =>
    cases htrace : w.traceEnabled <;>
      simp [request, Rpc.traceEnabled, transport_eq_send hparams, htrace, hparams, hreply,
        Outcome.ofClient]
  | ok r =>
    obtain ⟨j, hj⟩ := hres r
    cases htrace : w.traceEnabled <;>
      simp [request, Rpc.traceEnabled, transport_eq_send hparams, htrace, hparams, hreply,
        Outcome.ofClient, hj]

/-- A call whose parameters do not serialize sends nothing, whatever the tracing level: the span
refuses them when the level is on, the transport when it is off. -/
theorem requests_request_of_error {e : SerdeError} (hparams : serialize params = .error e) (w : World) :
    Rpc.requests w (request method params : Rpc R) = [] := by
  cases htrace : w.traceEnabled <;> simp [request, Rpc.traceEnabled, transport, htrace, hparams]

/-- A call sends nothing but a request under its own method. -/
theorem method_of_mem_requests_request {req : Request} (w : World)
    (h : req ∈ Rpc.requests w (request method params : Rpc R)) : req.method = method := by
  rcases hparams : serialize params with e | json
  · rw [requests_request_of_error hparams] at h; cases h
  · rw [requests_request hparams, List.mem_singleton] at h; rw [h]

/-- `request` sends at most one request, so never one twice. -/
theorem nodup_requests_request (w : World) : (Rpc.requests w (request method params : Rpc R)).Nodup := by
  rcases hparams : serialize params with e | json
  · rw [requests_request_of_error hparams]; exact List.nodup_nil
  · rw [requests_request hparams]; exact List.nodup_singleton _

theorem outcome_request_of_error {e : SerdeError} (hparams : serialize params = .error e) (w : World) :
    Rpc.outcome w (request method params : Rpc R) =
      .err (if w.traceEnabled then .serdeJson e else .jsonRpcClientError (.serde e)) := by
  cases htrace : w.traceEnabled <;> simp [request, Rpc.traceEnabled, transport, htrace, hparams]

end Spec

section Lists

variable {α : Type} [ToJson α] (method : String) (xs : List α) (w : World)

/-- The provider's own calls pass their parameters as a list of values that always serialize. -/
@[simp] theorem requests_request_list :
    Rpc.requests w (request method xs : Rpc R) = [⟨method, .array (xs.map toJson)⟩] :=
  requests_request (serialize_list_toJson xs) w

@[simp] theorem outcome_request_list {R : Type} [ToJson R] [Deserialize R] :
    Rpc.outcome w (request method xs : Rpc R) =
      Outcome.ofClient (decodeReply (w.node ⟨method, .array (xs.map toJson)⟩)) :=
  outcome_request (serialize_list_toJson xs) serializeTotal_of_toJson w

end Lists

/-! ### What the tracing level changes -/

section Tracing

variable (w : World) (method : String) (params : T)

/-- The requests a call sends do not depend on the tracing level, and parameters that cannot be
serialized stop the call before anything is sent, in the span or in the transport. -/
theorem requests_request_traced :
    Rpc.requests { w with traceEnabled := true } (request method params : Rpc R) =
        Rpc.requests { w with traceEnabled := false } (request method params : Rpc R) ∧
      ∀ e, serialize params = .error e → ∀ traced,
        Rpc.requests { w with traceEnabled := traced } (request method params : Rpc R) = [] := by
  cases hparams : serialize params with
  | error e => exact ⟨by rw [requests_request_of_error hparams, requests_request_of_error hparams],
      fun _ _ _ => requests_request_of_error hparams _⟩
  | ok json => exact ⟨by rw [requests_request hparams, requests_request hparams], fun _ h => nomatch h⟩

/-- **Tracing and the result.** With the trace level enabled a call ends as it does with the level
off, except that a serialization failure of the parameters (before anything is sent, with either
level) or of the decoded result (after the node has answered) becomes its error. -/
theorem outcome_request_traced :
    Rpc.outcome { w with traceEnabled := true } (request method params : Rpc R) =
        (match serialize params with
        | .error e => .err (.serdeJson e)
        | .ok _ =>
          (Rpc.outcome { w with traceEnabled := false } (request method params : Rpc R)).bind fun r =>
            match serialize r with
            | .error e => .err (.serdeJson e)
            | .ok _ => .ok r) ∧
      ∀ e, serialize params = .error e →
        Rpc.requests { w with traceEnabled := true } (request method params : Rpc R) = [] ∧
          Rpc.requests { w with traceEnabled := false } (request method params : Rpc R) = [] := by
  cases hparams : serialize params with
  | error e =>
    exact ⟨by simp [request, Rpc.traceEnabled, hparams], fun _ _ =>
      ⟨requests_request_of_error hparams _, requests_request_of_error hparams _⟩⟩
  | ok json =>
    refine ⟨?_, fun _ h => nomatch h⟩
    cases hreply : decodeReply (R := R) (w.node ⟨method, json⟩) with
    | error e => simp [request, Rpc.traceEnabled, transport_eq_send hparams, hparams, hreply]
    | ok r =>
      cases hr : serialize r <;>
        simp [request, Rpc.traceEnabled, transport_eq_send hparams, hparams, hreply, hr]

end Tracing

/-- A result type whose `Deserialize` accepts what its `Serialize` refuses, as a type with a
hand-written `Serialize` impl may; `get_filter_changes` lets its caller choose such a type. -/
structure Refused where
  json : Json

instance : Serialize Refused := ⟨fun _ => .error ⟨"refused"⟩⟩
instance : Deserialize Refused := ⟨fun json => .ok ⟨json⟩⟩

/-- A node that answers every call with `[null]`, with tracing off. -/
def nullWorld : World := ⟨fun _ => .ok (.array [.null]), fun _ => .ok (), false⟩

theorem request_refused_result :
    Rpc.outcome nullWorld
        (request "eth_getFilterChanges" [toJson (0 : U256)] : Rpc (List Refused)) = .ok [⟨.null⟩] ∧
      Rpc.outcome { nullWorld with traceEnabled := true }
        (request "eth_getFilterChanges" [toJson (0 : U256)] : Rpc (List Refused)) =
          .err (.serdeJson ⟨"refused"⟩) :=
  ⟨rfl, rfl⟩

end EthersProviders

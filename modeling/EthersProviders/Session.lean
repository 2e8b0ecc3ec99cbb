import EthersProviders.Middleware

/-!
# Nodes with state

A `World` answers a request the same way every time it is sent. A real node does not: between two
calls it mines blocks and takes transactions, and `evm_mine`, which the test helper `mine` sends
over and over, is there to change its state. Here the transport runs against a `Session`, a node
whose every answer may depend on all that came before and moves it to a new state, and a run
records its effects with their answers.

Worlds are the sessions with one state (`runIn_session`), and in the other direction nothing is
lost by proving a call correct over worlds only when the call never repeats itself: a call that
sends no request twice in any world and registers no channel twice runs, against a node with
state, as it runs in the world that answers each request as the node did
(`session_run_is_world_run`). `mine`, which repeats its request by design, is the case worlds
cannot express: its run lemma is stated over sessions.
-/

namespace EthersProviders

/-- A transport whose node keeps state: every answer, and every registration of a channel, may
depend on all that came before it, and moves the node to a new state. -/
structure Session (σ : Type) where
  node : σ → Request → Except ClientError Json × σ
  listen : σ → U256 → Except ClientError Unit × σ
  traceEnabled : Bool

/-- One effect on the transport, with the answer it got. -/
inductive Event
  | sent (req : Request) (reply : Except ClientError Json)
  | listened (id : U256) (reply : Except ClientError Unit)

namespace Event

def request? : Event → Option Request
  | sent req _ => some req
  | listened _ _ => none

def id? : Event → Option U256
  | sent _ _ => none
  | listened id _ => some id

end Event

/-- A run against a session: how the call ended, its effects in order, and the node's state after. -/
structure SessionRun (α σ : Type) where
  outcome : Outcome α
  events : List Event
  state : σ

namespace SessionRun

variable {α σ : Type}

/-- The requests of a run, in order. -/
def requests (run : SessionRun α σ) : List Request := run.events.filterMap Event.request?

/-- The subscription ids of a run, in order. -/
def ids (run : SessionRun α σ) : List U256 := run.events.filterMap Event.id?

end SessionRun

namespace Rpc

variable {α σ : Type} (S : Session σ)

/-- Run a call against a session from state `s`. -/
def runIn : σ → Rpc α → SessionRun α σ
  | s, .pure a => ⟨.ok a, [], s⟩
  | s, .throw e => ⟨.err e, [], s⟩
  | s, .panic m => ⟨.panic m, [], s⟩
  | s, .send req k =>
    let run := runIn (S.node s req).2 (k (S.node s req).1)
    ⟨run.outcome, .sent req (S.node s req).1 :: run.events, run.state⟩
  | s, .listen id k =>
    let run := runIn (S.listen s id).2 (k (S.listen s id).1)
    ⟨run.outcome, .listened id (S.listen s id).1 :: run.events, run.state⟩
  | s, .tracing k => runIn s (k S.traceEnabled)

end Rpc

open Rpc

/-! ### Worlds are sessions -/

/-- A world is a session whose node has no state. -/
def World.session (w : World) : Session Unit :=
  ⟨fun _ req => (w.node req, ()), fun _ id => (w.listen id, ()), w.traceEnabled⟩

/-- A world answers an event as it was answered. -/
def World.Agrees (w : World) : Event → Prop
  | .sent req reply => w.node req = reply
  | .listened id reply => w.listen id = reply

section Adequacy

variable {α σ : Type} (S : Session σ)

/-- **Worlds are sessions.** Running a call in a world is running it against the world's stateless
session. -/
theorem runIn_session (w : World) (x : Rpc α) :
    (runIn w.session () x).outcome = outcome w x ∧ (runIn w.session () x).requests = requests w x := by
  induction x with
  | pure a => exact ⟨rfl, rfl⟩
  | throw e => exact ⟨rfl, rfl⟩
  | panic m => exact ⟨rfl, rfl⟩
  | send req k ih => exact ⟨(ih _).1, congrArg (req :: ·) (ih _).2⟩
  | listen id k ih => exact ih _
  | tracing k ih => exact ih _

/-- A world that answers every event of a run as the session did runs the call the same way. -/
theorem runIn_agrees {w : World} (htrace : w.traceEnabled = S.traceEnabled) (x : Rpc α) (s : σ)
    (hagree : ∀ ev ∈ (runIn S s x).events, w.Agrees ev) :
    outcome w x = (runIn S s x).outcome ∧ requests w x = (runIn S s x).requests := by
  induction x generalizing s with
  | pure a => exact ⟨rfl, rfl⟩
  | throw e => exact ⟨rfl, rfl⟩
  | panic m => exact ⟨rfl, rfl⟩
  | send req k ih =>
    have hreply : w.node req = (S.node s req).1 := hagree _ (List.mem_cons_self _ _)
    obtain ⟨ho, hr⟩ := ih _ _ fun ev hev => hagree ev (List.mem_cons_of_mem _ hev)
    exact ⟨by rw [outcome_send, hreply, ho]; rfl, by rw [requests_send, hreply, hr]; rfl⟩
  | listen id k ih =>
    have hreply : w.listen id = (S.listen s id).1 := hagree _ (List.mem_cons_self _ _)
    obtain ⟨ho, hr⟩ := ih _ _ fun ev hev => hagree ev (List.mem_cons_of_mem _ hev)
    exact ⟨by rw [outcome_listen, hreply, ho]; rfl, by rw [requests_listen, hreply, hr]; rfl⟩
  | tracing k ih =>
    rw [outcome_tracing, requests_tracing, htrace]
    exact ih _ _ hagree

/-- In events whose keys are pairwise distinct, the key of an event determines it. -/
theorem eq_of_key_eq {κ : Type} (key : Event → Option κ) {evs : List Event}
    (hnodup : (evs.filterMap key).Nodup) {e₁ e₂ : Event} (h₁ : e₁ ∈ evs) (h₂ : e₂ ∈ evs) {k : κ}
    (hk₁ : key e₁ = some k) (hk₂ : key e₂ = some k) : e₁ = e₂ := by
  induction evs with
  | nil => cases h₁
  | cons ev evs ih =>
    have hout : ∀ e ∈ evs, key e = some k → key ev ≠ some k := fun e he hke hev => by
      rw [List.filterMap_cons, hev] at hnodup
      exact (List.nodup_cons.mp hnodup).1 (List.mem_filterMap.mpr ⟨e, he, hke⟩)
    have htail := hnodup.sublist ((List.sublist_cons_self ev evs).filterMap key)
    rcases List.mem_cons.mp h₁ with rfl | ht₁ <;> rcases List.mem_cons.mp h₂ with rfl | ht₂
    · rfl
    · exact absurd hk₁ (hout _ ht₂ hk₂)
    · exact absurd hk₂ (hout _ ht₁ hk₁)
    · exact ih htail ht₁ ht₂

/-- Events that send no request twice and register no id twice are answered by some world. -/
theorem exists_world_agrees (evs : List Event) (hreq : (evs.filterMap Event.request?).Nodup)
    (hid : (evs.filterMap Event.id?).Nodup) (traceEnabled : Bool) :
    ∃ w : World, w.traceEnabled = traceEnabled ∧ ∀ ev ∈ evs, w.Agrees ev := by
  classical
  let node : Request → Except ClientError Json := fun req =>
    if h : ∃ reply, Event.sent req reply ∈ evs then Classical.choose h else .error (.rpc 0 "")
  let listen : U256 → Except ClientError Unit := fun id =>
    if h : ∃ reply, Event.listened id reply ∈ evs then Classical.choose h else .error (.rpc 0 "")
  refine ⟨⟨node, listen, traceEnabled⟩, rfl, fun ev hev => ?_⟩
  cases ev with
  | sent req reply =>
    have h : ∃ reply, Event.sent req reply ∈ evs := ⟨reply, hev⟩
    show node req = reply
    simp only [node, dif_pos h]
    cases eq_of_key_eq Event.request? hreq (Classical.choose_spec h) hev rfl rfl; rfl
  | listened id reply =>
    have h : ∃ reply, Event.listened id reply ∈ evs := ⟨reply, hev⟩
    show listen id = reply
    simp only [listen, dif_pos h]
    cases eq_of_key_eq Event.id? hid (Classical.choose_spec h) hev rfl rfl; rfl

/-- A world that answers the first `n` events of a run as the session did sends the first `n + 1`
requests of the run, in order: the runs part at the first answer they disagree on, after the
request it answers. -/
theorem requests_prefix_of_agrees {w : World} (htrace : w.traceEnabled = S.traceEnabled) (x : Rpc α)
    (s : σ) (n : Nat) (hagree : ∀ ev ∈ (runIn S s x).events.take n, w.Agrees ev) :
    ((runIn S s x).events.take (n + 1)).filterMap Event.request? <+: requests w x := by
  induction x generalizing s n with
  | pure a => exact List.nil_prefix
  | throw e => exact List.nil_prefix
  | panic m => exact List.nil_prefix
  | send req k ih =>
    cases n with
    | zero => exact ⟨requests w (k (w.node req)), rfl⟩
    | succ m =>
      have hreply : w.node req = (S.node s req).1 := hagree _ (List.mem_cons_self _ _)
      rw [requests_send, hreply]
      exact (List.prefix_cons_inj req).mpr
        (ih _ _ m fun ev hev => hagree ev (List.mem_cons_of_mem _ hev))
  | listen id k ih =>
    cases n with
    | zero => exact List.nil_prefix
    | succ m =>
      have hreply : w.listen id = (S.listen s id).1 := hagree _ (List.mem_cons_self _ _)
      rw [requests_listen, hreply]
      exact ih _ _ m fun ev hev => hagree ev (List.mem_cons_of_mem _ hev)
  | tracing k ih =>
    rw [requests_tracing, htrace]
    exact ih _ _ n hagree

/-- The run of `x` against `S` from `s` is the run of `x` in a world that traces as the session
does and answers every request and every registration of the run as the node did: it ends the same
way and sends the same requests. -/
def Session.RunsAsInWorld (s : σ) (x : Rpc α) : Prop :=
  ∃ w : World, w.traceEnabled = S.traceEnabled ∧ (∀ ev ∈ (runIn S s x).events, w.Agrees ev) ∧
    outcome w x = (runIn S s x).outcome ∧ requests w x = (runIn S s x).requests

/-- **A node's state changes nothing a call that never repeats itself can see.** If a call sends
no request twice in any world, then run against a node with state, from any state, it sends no
request twice either, provided it registers no subscription twice; and the run is then the run of
the call in some world: the one that answers each request as the node did. So every property of
the call's runs in all worlds holds of its runs against nodes with state. -/
theorem session_run_is_world_run (x : Rpc α) (hworld : ∀ w : World, (requests w x).Nodup) (s : σ)
    (hid : (runIn S s x).ids.Nodup) : S.RunsAsInWorld s x := by
  have hids : ∀ n, (((runIn S s x).events.take n).filterMap Event.id?).Nodup := fun n =>
    hid.sublist ((List.take_sublist n _).filterMap _)
  -- Each prefix of the run is the start of a world's run, so it repeats no request either.
  have hprefix : ∀ n, (((runIn S s x).events.take n).filterMap Event.request?).Nodup := by
    intro n
    induction n with
    | zero => simp
    | succ n ih =>
      obtain ⟨w, htrace, hagree⟩ := exists_world_agrees _ ih (hids n) S.traceEnabled
      exact (hworld w).sublist (requests_prefix_of_agrees S htrace x s n hagree).sublist
  have hreq := hprefix (runIn S s x).events.length
  rw [List.take_length] at hreq
  obtain ⟨w, htrace, hagree⟩ := exists_world_agrees _ hreq hid S.traceEnabled
  exact ⟨w, htrace, hagree, runIn_agrees S htrace x s hagree⟩

end Adequacy

/-! ### Calls that register no channel -/

namespace Rpc

variable {α β σ : Type}

/-- A call that registers no subscription channel, whatever the answers. -/
def Quiet : Rpc α → Prop
  | .pure _ | .throw _ | .panic _ => True
  | .send _ k => ∀ reply, Quiet (k reply)
  | .listen _ _ => False
  | .tracing k => ∀ enabled, Quiet (k enabled)

theorem Quiet.bind {x : Rpc α} {f : α → Rpc β} (hx : x.Quiet) (hf : ∀ a, (f a).Quiet) :
    (x >>= f).Quiet := by
  induction x with
  | pure a => exact hf a
  | throw e => trivial
  | panic m => trivial
  | send req k ih => exact fun reply => ih reply (hx reply)
  | listen id k ih => exact hx
  | tracing k ih => exact fun enabled => ih enabled (hx enabled)

theorem quiet_pure (a : α) : (Pure.pure a : Rpc α).Quiet := trivial
theorem quiet_traceEnabled : traceEnabled.Quiet := fun _ => trivial
theorem quiet_ofSerde (r : Except SerdeError α) : (ofSerde r).Quiet := by cases r <;> trivial
theorem quiet_ofClient (r : Except ClientError α) : (ofClient r).Quiet := by cases r <;> trivial

theorem Quiet.attempt {x : Rpc α} (hx : x.Quiet) : (attempt x).Quiet := by
  induction x with
  | pure a => trivial
  | throw e => trivial
  | panic m => trivial
  | send req k ih => exact fun reply => ih reply (hx reply)
  | listen id k ih => exact hx
  | tracing k ih => exact fun enabled => ih enabled (hx enabled)

/-- A quiet call registers no subscription, against any node. -/
theorem ids_runIn_of_quiet (S : Session σ) {x : Rpc α} (hx : x.Quiet) (s : σ) :
    (runIn S s x).ids = [] := by
  induction x generalizing s with
  | pure a => rfl
  | throw e => rfl
  | panic m => rfl
  | send req k ih => exact ih _ (hx _) _
  | listen id k ih => exact hx.elim
  | tracing k ih => exact ih _ (hx _) s

/-- The subscriptions of a composite run: those of the first call, then those of the rest when the
first call returns. -/
theorem ids_runIn_bind (S : Session σ) (x : Rpc α) (f : α → Rpc β) (s : σ) :
    (runIn S s (x >>= f)).ids = (runIn S s x).ids ++
      match (runIn S s x).outcome with
      | .ok a => (runIn S (runIn S s x).state (f a)).ids
      | _ => [] := by
  induction x generalizing s with
  | pure a => rfl
  | throw e => rfl
  | panic m => rfl
  | send req k ih => exact ih _ _
  | listen id k ih => exact congrArg (id :: ·) (ih _ _)
  | tracing k ih => exact ih _ _

end Rpc

/-- A call that registers no channel and sends no request twice in any world runs, against any
node with state, as in some world. -/
theorem quiet_run_is_world_run {α σ : Type} (S : Session σ) {x : Rpc α} (hquiet : x.Quiet)
    (hworld : ∀ w : World, (requests w x).Nodup) (s : σ) : S.RunsAsInWorld s x :=
  session_run_is_world_run S x hworld s (by rw [ids_runIn_of_quiet S hquiet s]; exact List.nodup_nil)

theorem quiet_transport {T R : Type} [Serialize T] [Deserialize R] (method : String) (params : T) :
    (transport method params : Rpc (Except ClientError R)).Quiet := by
  unfold transport
  split
  · trivial
  · exact fun _ => trivial

theorem quiet_request {T R : Type} [Serialize T] [Serialize R] [Deserialize R] (method : String)
    (params : T) : (request method params : Rpc R).Quiet := by
  simp only [request]
  refine Quiet.bind quiet_traceEnabled fun span => ?_
  -- The span's fields are evaluated in one branch only; the call after it is the same in both.
  split
  on_goal 1 => refine Quiet.bind (quiet_ofSerde _) fun _ => ?_
  all_goals
    refine Quiet.bind (quiet_pure _) fun _ => Quiet.bind (quiet_transport _ _) fun reply =>
      Quiet.bind (quiet_ofClient reply) fun res => Quiet.bind quiet_traceEnabled fun event => ?_
    split
    · exact Quiet.bind (quiet_ofSerde _) fun _ => Quiet.bind (quiet_pure _) fun _ => quiet_pure _
    · exact Quiet.bind (quiet_pure _) fun _ => quiet_pure _

theorem quiet_decodeBytes {α : Type} [Abi.Detokenize α] (param : Abi.ParamType) (bytes : Bytes) :
    (decodeBytes param bytes : Rpc α).Quiet := by
  unfold decodeBytes
  split
  · trivial
  · split <;> trivial

theorem quiet_queryResolver {α : Type} [Abi.Detokenize α] (namehash : String → H256) (p : Provider)
    (param : Abi.ParamType) (ensName : String) (selector : Selector) :
    (p.queryResolver namehash param ensName selector : Rpc α).Quiet := by
  unfold Provider.queryResolver
  refine Quiet.bind (quiet_request _ _) fun data => Quiet.bind (quiet_decodeBytes _ _) fun resolver => ?_
  split
  · trivial
  · exact Quiet.bind (quiet_pure _) fun _ =>
      Quiet.bind (quiet_request _ _) fun _ => quiet_decodeBytes _ _

/-! ### `mine` -/

/-- The request `mine` repeats: `evm_mine` with the parameters `None::<()>`, which serialize to
`null`. -/
def mineRequest : Request := ⟨"evm_mine", .null⟩

/-- `mine`, the test-only helper for ganache: `num_blocks` times, call `evm_mine` on the transport
itself (not through `request`, so with no tracing), read the answer as a `U256`, and stop at the
first error. -/
def Provider.mine (self : Provider) : Nat → Rpc Unit
  | 0 => Pure.pure ()
  | numBlocks + 1 => do
    let reply ← transport "evm_mine" (none : Option Unit)
    let _ ← (ofClient reply : Rpc U256)
    self.mine numBlocks

namespace Session

variable {σ : Type} (S : Session σ)

/-- The node's state after it has answered `req` `k` times from `s`. -/
def afterRepeating (req : Request) (k : Nat) (s : σ) : σ := (fun s => (S.node s req).2)^[k] s

/-- The node's answer to the `k`-th of repeated `req`s from `s`, counting from zero. -/
def answerAt (req : Request) (k : Nat) (s : σ) : Except ClientError Json :=
  (S.node (S.afterRepeating req k s) req).1

theorem afterRepeating_succ (req : Request) (k : Nat) (s : σ) :
    S.afterRepeating req (k + 1) s = S.afterRepeating req k (S.node s req).2 :=
  Function.iterate_succ_apply _ k s

theorem answerAt_succ (req : Request) (k : Nat) (s : σ) :
    S.answerAt req (k + 1) s = S.answerAt req k (S.node s req).2 := by
  rw [answerAt, afterRepeating_succ]; rfl

end Session

section Mine

variable {σ : Type} (S : Session σ) (p : Provider)

/-- One block: `mine` sends `evm_mine` and goes on from the node's next state if the answer is a
number, and stops with the answer's error otherwise. -/
theorem runIn_mine_succ (s : σ) (numBlocks : Nat) :
    runIn S s (p.mine (numBlocks + 1)) =
      match (decodeReply (S.node s mineRequest).1 : Except ClientError U256) with
      | .ok _ =>
        let run := runIn S (S.node s mineRequest).2 (p.mine numBlocks)
        ⟨run.outcome, .sent mineRequest (S.node s mineRequest).1 :: run.events, run.state⟩
      | .error e =>
        ⟨.err (.jsonRpcClientError e), [.sent mineRequest (S.node s mineRequest).1],
          (S.node s mineRequest).2⟩ := by
  rw [Provider.mine, transport_eq_send rfl]
  show runIn S s (.send mineRequest fun reply => ofClient (decodeReply reply) >>= _) = _
  simp only [runIn]
  split <;> rename_i hreply <;> rw [hreply] <;> rfl

/-- **`mine` against a node with state.** Run from any state, `mine numBlocks` sends nothing but
`evm_mine`, and one of two things happens. Either all `numBlocks` answers are numbers: it returns
`Ok(())` after exactly `numBlocks` calls, and leaves the node in the state those calls lead to. Or
the `j`-th answer is the first that is not: the run ends with that answer's error after `j + 1`
calls, and sends nothing more. It never panics. -/
theorem mine_runs (s : σ) (numBlocks : Nat) :
    ((runIn S s (p.mine numBlocks)).outcome = .ok () ∧
        (runIn S s (p.mine numBlocks)).requests = List.replicate numBlocks mineRequest ∧
        (runIn S s (p.mine numBlocks)).state = S.afterRepeating mineRequest numBlocks s ∧
        ∀ k < numBlocks, ∃ block : U256, decodeReply (S.answerAt mineRequest k s) = .ok block) ∨
      ∃ j < numBlocks, ∃ e,
        (∀ k < j, ∃ block : U256, decodeReply (S.answerAt mineRequest k s) = .ok block) ∧
        (decodeReply (S.answerAt mineRequest j s) : Except ClientError U256) = .error e ∧
        (runIn S s (p.mine numBlocks)).outcome = .err (.jsonRpcClientError e) ∧
        (runIn S s (p.mine numBlocks)).requests = List.replicate (j + 1) mineRequest ∧
        (runIn S s (p.mine numBlocks)).state = S.afterRepeating mineRequest (j + 1) s := by
  induction numBlocks generalizing s with
  | zero => exact .inl ⟨rfl, rfl, rfl, fun k hk => absurd hk (Nat.not_lt_zero k)⟩
  | succ n ih =>
    rw [runIn_mine_succ]
    cases hfirst : (decodeReply (S.node s mineRequest).1 : Except ClientError U256) with
    | error e =>
      exact .inr ⟨0, n.succ_pos, e, fun k hk => absurd hk (Nat.not_lt_zero k), hfirst, rfl, rfl, rfl⟩
    | ok block =>
      -- The rest of the run is `mine n` from the node's next state, shifted by one call.
      have hshift : ∀ j, (∀ k < j, ∃ b : U256,
          decodeReply (S.answerAt mineRequest k (S.node s mineRequest).2) = .ok b) →
          ∀ k < j + 1, ∃ b : U256, decodeReply (S.answerAt mineRequest k s) = .ok b := by
        intro j hall k hk
        cases k with
        | zero => exact ⟨block, hfirst⟩
        | succ k => rw [Session.answerAt_succ]; exact hall k (by omega)
      rcases ih (S.node s mineRequest).2 with ⟨ho, hr, hs, hall⟩ | ⟨j, hj, e, hpre, hfail, ho, hr, hs⟩
      · exact .inl ⟨ho, congrArg (mineRequest :: ·) hr,
          by rw [Session.afterRepeating_succ]; exact hs, hshift n hall⟩
      · exact .inr ⟨j + 1, by omega, e, hshift j hpre, by rw [Session.answerAt_succ]; exact hfail,
          ho, congrArg (mineRequest :: ·) hr, by rw [Session.afterRepeating_succ]; exact hs⟩

/-- A node in the manner of ganache: its state is its block number, and every call mines a block and
answers `0x0`. -/
def ganacheNode : Session Nat := ⟨fun n _ => (.ok (.string "0x0"), n + 1), fun n _ => (.ok (), n), false⟩

example : (runIn ganacheNode 0 (Provider.new.mine 3)).outcome = .ok () ∧
    (runIn ganacheNode 0 (Provider.new.mine 3)).state = 3 := by decide

end Mine

end EthersProviders

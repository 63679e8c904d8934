import DpapiNg.KeyCache

/-!
# Collaborator calls, the client's world and the event loop

The client functions of `_client.py` call collaborators whose modules are not among the
sources: the DNS lookup of `_dns.py`, and the RPC connection of `_rpc.py` (create, bind,
request, close) through which the endpoint mapper and the GetKey server answer.  They are
modelled as one *oracle*: given the calls made so far and the next call, it answers the call
or raises.  Every call is recorded in the world's trace, next to the key cache that the client
shares with its caller.

Synchronous client code runs in `ClientM`, state passing over that world with Python's
exceptions; code that touches only the cache runs in `CacheM`.  An `async def` is a coroutine
`Coro`: a tree of local steps (code run on the cache with no `await`) and awaited calls, each
continued with the outcome of the step.  `Coro.run` is the event loop: it runs the local steps
and answers the awaited calls from the oracle, in order.

## Main definitions

* `Call`, `Call.Answer`, `Oracle`, `World`, `ClientM`, `CacheM`.
* `perform`, `liftCache`, `attempt`, `closing`, `withConnection`, `withCache` — a call, local
  code, exceptions caught as values, `with` blocks and `cache or KeyCache()`.
* `Coro`, `Coro.run` — coroutines and the event loop, with the laws (`Coro.run_bind`,
  `Coro.run_call`, `Coro.run_exec`, `Coro.run_closing`, `Coro.run_withCache`) that carry a
  coroutine to synchronous code.
-/

namespace DpapiNg

/-! ### Calls -/

/-- The RPC interfaces and transfer syntaxes the client names: `EPM`, `ISD_KEY`, `NDR`,
`NDR64` and `bind_time_feature_negotiation()`. -/
inductive SyntaxId
  | epm | isdKey | ndr | ndr64 | bindTimeFeatureNegotiation
  deriving DecidableEq, Repr

/-- `ContextElement(context_id, abstract_syntax, transfer_syntaxes)`. -/
structure ContextElement where
  contextId : ℕ
  abstractSyntax : SyntaxId
  transferSyntaxes : List SyntaxId
  deriving DecidableEq, Repr

/-- `EptMap(obj=None, tower=build_tcpip_tower(service, data_rep, port, addr),
entry_handle=None, max_towers)`: the arguments that vary. -/
structure EptMap where
  service : SyntaxId
  dataRep : SyntaxId
  port : ℕ
  addr : ℕ
  maxTowers : ℕ
  deriving DecidableEq

/-- `GetKey(target_sd, root_key_id, l0, l1, l2)`. -/
structure GetKey where
  targetSd : Bytes
  rootKeyId : Option UUID
  l0 : ℤ
  l1 : ℤ
  l2 : ℤ
  deriving DecidableEq

/-- The stub data of a request, as the message it packs. -/
inductive Payload
  | eptMap (m : EptMap)
  | getKey (g : GetKey)
  deriving DecidableEq

/-- A call to a collaborator, with its arguments. -/
inductive Call
  /-- `lookup_dc(domain_name)`, or `async_lookup_dc`. -/
  | lookupDc (domainName : Option String)
  /-- `create_rpc_connection(server, port, username=, password=, auth_protocol=)`, or its
  async twin; an argument left out is `none`. -/
  | connect (server : String) (port : Option ℕ) (username password : Option String)
      (authProtocol : Option String)
  /-- `rpc.bind(contexts=…)`. -/
  | bind (contexts : List ContextElement)
  /-- `rpc.request(context_id, opnum, stub_data, verification_trailer=…)`; the flag says
  whether the client passes its verification trailer. -/
  | request (contextId : ℕ) (opnum : ℕ) (payload : Payload) (verificationTrailer : Bool)
  /-- Leaving the connection's `with` or `async with` block. -/
  | close
  deriving DecidableEq

/-- The SRV record `lookup_dc` returns: its target host. -/
structure SrvRecord where
  target : String

/-- `BindAck`: the result code of each requested context, in order. -/
structure BindAck where
  results : List ℕ

/-- The security trailer of a response: its pad length. -/
structure SecTrailer where
  padLength : ℕ

/-- `Response`: the stub data and the security trailer, if any. -/
structure Response where
  stubData : Bytes
  secTrailer : Option SecTrailer

/-- What a call returns. -/
@[reducible] def Call.Answer : Call → Type
  | .lookupDc _ => SrvRecord
  | .connect .. => Unit
  | .bind _ => BindAck
  | .request .. => Response
  | .close => Unit

/-- The collaborators: given the calls made before, each call is answered or raises. -/
abbrev Oracle : Type := (history : List Call) → (c : Call) → Except PyError c.Answer

/-- The state a client call acts on: the caller's key cache and the calls made so far. -/
structure World where
  cache : KeyCache
  trace : List Call

/-- Synchronous client code. -/
abbrev ClientM : Type → Type := EStateM PyError World

/-- Code that touches only the key cache. -/
abbrev CacheM : Type → Type := EStateM PyError KeyCache

/-- The state a run ends in, whether it returned or raised. -/
def finalState {σ α : Type} : EStateM.Result PyError σ α → σ
  | .ok _ s => s
  | .error _ s => s

/-! ### Synchronous code -/

section Sync

variable {α : Type}

/-- A call: recorded in the trace, then answered by the oracle from the calls before it. -/
def perform (o : Oracle) (c : Call) : ClientM c.Answer := fun w =>
  match o w.trace c with
  | .ok a => .ok a { w with trace := w.trace ++ [c] }
  | .error e => .error e { w with trace := w.trace ++ [c] }

/-- Local code run on the world's cache. -/
def liftCache (act : CacheM α) : ClientM α := fun w =>
  match act w.cache with
  | .ok a c => .ok a { w with cache := c }
  | .error e c => .error e { w with cache := c }

/-- A result of pure code: returned, or raised. -/
def liftExcept : Except PyError α → ClientM α
  | .ok a => pure a
  | .error e => EStateM.throw e

/-- The outcome of `m`, an exception caught as a value. -/
def attempt (m : ClientM α) : ClientM (Except PyError α) := fun w =>
  match m w with
  | .ok a w' => .ok (.ok a) w'
  | .error e w' => .ok (.error e) w'

/-- `with resource: body`: `close` runs after the body, whether it returned or raised, and the
body's exception is raised again after it. -/
def closing (body : ClientM α) (close : ClientM Unit) : ClientM α := do
  let r ← attempt body
  close
  liftExcept r

/-- `with create_rpc_connection(…) as rpc: body`: the connection is made, then the body runs
and the connection is closed on the way out. -/
def withConnection (o : Oracle) (connect : Call) (body : ClientM α) : ClientM α := do
  let _ ← perform o connect
  closing body (perform o .close)

/-- The cache `cache or KeyCache()` starts from: the caller's one is set aside for a fresh one. -/
def swapFresh : CacheM KeyCache := fun c => .ok c KeyCache.empty

/-- `cache = cache or KeyCache()`: the body runs on the caller's cache when one is passed,
and otherwise on a fresh one that is dropped after, the caller's left as it was. -/
def withCache (cache : Bool) (body : ClientM α) : ClientM α :=
  if cache then body else do
    let saved ← liftCache swapFresh
    let r ← attempt body
    liftCache (EStateM.set saved)
    liftExcept r

@[simp] theorem withCache_true (body : ClientM α) : withCache true body = body := rfl

/-- The caught outcome of a caught outcome is the caught outcome: `attempt m` never raises. -/
theorem attempt_bind_attempt {β : Type} (m : ClientM α) (f : Except PyError α → ClientM β) :
    attempt (attempt m >>= f) = attempt m >>= fun r => attempt (f r) := by
  funext w
  show attempt (EStateM.bind (attempt m) f) w = EStateM.bind (attempt m) (fun r => attempt (f r)) w
  simp only [EStateM.bind, attempt]
  cases m w <;> rfl

/-- Catching an exception and raising it again is the code itself. -/
theorem attempt_bind_liftExcept (m : ClientM α) : attempt m >>= liftExcept = m := by
  funext w
  show EStateM.bind (attempt m) liftExcept w = m w
  simp only [EStateM.bind, attempt]
  cases m w <;> rfl

/-- A sequence returns only when its first part does. -/
theorem bind_apply_eq_ok {β : Type} {m : ClientM α} {f : α → ClientM β} {w w' : World} {b : β}
    (h : (m >>= f) w = .ok b w') : ∃ a w₁, m w = .ok a w₁ ∧ f a w₁ = .ok b w' := by
  change EStateM.bind m f w = _ at h
  unfold EStateM.bind at h
  split at h
  · exact ⟨_, _, ‹_›, h⟩
  · cases h

/-- A sequence whose first part returns goes on from there. -/
theorem bind_apply_of_eq_ok {β : Type} {m : ClientM α} {f : α → ClientM β} {w w₁ : World} {a : α}
    (h : m w = .ok a w₁) : (m >>= f) w = f a w₁ := by
  change EStateM.bind m f w = _
  simp only [EStateM.bind, h]

/-- A call returns only what the oracle answered it. -/
theorem perform_apply_eq_ok {o : Oracle} {c : Call} {w w' : World} {a : c.Answer}
    (h : perform o c w = .ok a w') : o w.trace c = .ok a := by
  unfold perform at h
  split at h
  · cases h
    assumption
  · cases h

theorem liftExcept_apply_eq_ok {r : Except PyError α} {w w' : World} {a : α}
    (h : liftExcept r w = .ok a w') : r = .ok a ∧ w' = w := by
  cases r with
  | error e => cases h
  | ok x => cases h; exact ⟨rfl, rfl⟩

theorem liftCache_apply_eq_ok {act : CacheM α} {w w' : World} {a : α}
    (h : liftCache act w = .ok a w') : act w.cache = .ok a w'.cache := by
  simp only [liftCache] at h
  split at h <;> cases h
  assumption

/-- A `with` block returns only what its body returned. -/
theorem closing_apply_eq_ok {body : ClientM α} {close : ClientM Unit} {w w' : World} {a : α}
    (h : closing body close w = .ok a w') : ∃ w₁, body w = .ok a w₁ := by
  obtain ⟨r, w₁, hr, h⟩ := bind_apply_eq_ok h
  obtain ⟨_, w₂, -, h⟩ := bind_apply_eq_ok h
  obtain ⟨rfl, -⟩ := liftExcept_apply_eq_ok h
  unfold attempt at hr
  split at hr <;> cases hr
  exact ⟨w₁, ‹_›⟩

theorem withConnection_apply_eq_ok {o : Oracle} {connect : Call} {body : ClientM α} {w w' : World}
    {a : α} (h : withConnection o connect body w = .ok a w') : ∃ w₀ w₁, body w₀ = .ok a w₁ := by
  obtain ⟨_, w₀, -, h⟩ := bind_apply_eq_ok h
  exact ⟨w₀, closing_apply_eq_ok h⟩

end Sync

/-! ### Code on the cache -/

namespace CacheM

/-- `cache._get_key(target_sd, root_key_id, l0, l1, l2)`; an exception leaves the cache as it
was. -/
def getKey (gkdi : Gkdi) (targetSd : Bytes) (rootKeyId : UUID) (l0 l1 l2 : ℤ) :
    CacheM (Option GroupKeyEnvelope) := fun c =>
  match c.getKey gkdi targetSd rootKeyId l0 l1 l2 with
  | .ok (k, c') => .ok k c'
  | .error e => .error e c

theorem getKey_eq_ok {gkdi : Gkdi} {sd : Bytes} {r : UUID} {l0 l1 l2 : ℤ} {c c' : KeyCache}
    {res : Option GroupKeyEnvelope} (h : getKey gkdi sd r l0 l1 l2 c = .ok res c') :
    c.getKey gkdi sd r l0 l1 l2 = .ok (res, c') := by
  simp only [getKey] at h
  split at h <;> cases h
  assumption

/-- `cache._store_key(target_sd, key)`. -/
def storeKey (targetSd : Bytes) (key : GroupKeyEnvelope) : CacheM Unit := fun c =>
  .ok () (c.storeKey targetSd key)

/-- A result of pure code, in local code. -/
def liftExcept {α : Type} : Except PyError α → CacheM α
  | .ok a => pure a
  | .error e => EStateM.throw e

end CacheM

/-! ### Coroutines -/

/-- A coroutine: it returns, raises, runs local code and goes on with its outcome, or awaits a
call and goes on with its answer or exception. -/
inductive Coro (α : Type) : Type 1
  | ret (a : α)
  | raise (e : PyError)
  | step {β : Type} (act : CacheM β) (k : Except PyError β → Coro α)
  | await (c : Call) (k : Except PyError c.Answer → Coro α)

namespace Coro

variable {α β : Type}

/-- Sequencing: the second coroutine goes on from each return of the first. -/
def bind : Coro α → (α → Coro β) → Coro β
  | ret a, f => f a
  | raise e, _ => raise e
  | step act k, f => step act fun r => (k r).bind f
  | await c k, f => await c fun r => (k r).bind f

instance : Monad Coro where
  pure := ret
  bind := bind

/-- A result of pure code: returned, or raised. -/
def liftExcept : Except PyError α → Coro α
  | .ok a => ret a
  | .error e => raise e

/-- `await f(…)`: the call's answer, or its exception raised. -/
def call (c : Call) : Coro c.Answer := await c liftExcept

/-- Local code, run with no `await`. -/
def exec (act : CacheM α) : Coro α := step act liftExcept

/-- The outcome of a coroutine, an exception caught as a value. -/
def attempt : Coro α → Coro (Except PyError α)
  | ret a => ret (.ok a)
  | raise e => ret (.error e)
  | step act k => step act fun r => (k r).attempt
  | await c k => await c fun r => (k r).attempt

/-- `async with resource: body`: `close` is awaited after the body, whether it returned or
raised. -/
def closing (body : Coro α) (close : Coro Unit) : Coro α := do
  let r ← body.attempt
  close
  liftExcept r

/-- `rpc = await async_create_rpc_connection(…)` followed by `async with rpc: body`. -/
def withConnection (connect : Call) (body : Coro α) : Coro α := do
  let _ ← call connect
  closing body (call .close)

/-- `cache = cache or KeyCache()` in an `async def`. -/
def withCache (cache : Bool) (body : Coro α) : Coro α :=
  if cache then body else do
    let saved ← exec swapFresh
    let r ← body.attempt
    exec (EStateM.set saved)
    liftExcept r

/-- The event loop: local steps run on the world's cache, awaited calls are made in order. -/
def run (o : Oracle) : Coro α → ClientM α
  | ret a => pure a
  | raise e => EStateM.throw e
  | step act k => DpapiNg.attempt (liftCache act) >>= fun r => (k r).run o
  | await c k => DpapiNg.attempt (perform o c) >>= fun r => (k r).run o

variable (o : Oracle)

@[simp] theorem run_pure (a : α) : (pure a : Coro α).run o = pure a := rfl

/-- The event loop runs a sequence as the sequence of its runs. -/
theorem run_bind (t : Coro α) (f : α → Coro β) :
    (t >>= f).run o = t.run o >>= fun a => (f a).run o := by
  show (t.bind f).run o = _
  induction t with
  | ret a => rfl
  | raise e => rfl
  | step act k ih => simp only [bind, run, ih, bind_assoc]
  | await c k ih => simp only [bind, run, ih, bind_assoc]

theorem run_attempt (t : Coro α) : t.attempt.run o = DpapiNg.attempt (t.run o) := by
  induction t with
  | ret a => rfl
  | raise e => rfl
  | step act k ih => simp only [attempt, run, ih, attempt_bind_attempt]
  | await c k ih => simp only [attempt, run, ih, attempt_bind_attempt]

@[simp] theorem run_liftExcept (r : Except PyError α) :
    (liftExcept r).run o = DpapiNg.liftExcept r := by
  cases r <;> rfl

@[simp] theorem run_call (c : Call) : (call c).run o = perform o c := by
  simp only [call, run, run_liftExcept]
  exact attempt_bind_liftExcept _

@[simp] theorem run_exec (act : CacheM α) : (exec act).run o = liftCache act := by
  simp only [exec, run, run_liftExcept]
  exact attempt_bind_liftExcept _

@[simp] theorem run_closing (body : Coro α) (close : Coro Unit) :
    (closing body close).run o = DpapiNg.closing (body.run o) (close.run o) := by
  simp only [closing, DpapiNg.closing, run_bind, run_attempt, run_liftExcept]

@[simp] theorem run_withConnection (connect : Call) (body : Coro α) :
    (withConnection connect body).run o = DpapiNg.withConnection o connect (body.run o) := by
  simp only [withConnection, DpapiNg.withConnection, run_bind, run_call, run_closing]
  rw [run_call o .close]

@[simp] theorem run_withCache (cache : Bool) (body : Coro α) :
    (withCache cache body).run o = DpapiNg.withCache cache (body.run o) := by
  cases cache
  · simp only [withCache, DpapiNg.withCache, run_bind, run_exec, run_attempt, run_liftExcept,
      Bool.false_eq_true, if_false]
  · rfl

@[simp] theorem run_getDM (x : Option α) (t : Coro α) :
    (x.getDM t).run o = x.getDM (t.run o) := by
  cases x <;> rfl

@[simp] theorem run_ite (c : Prop) [Decidable c] (t e : Coro α) :
    (if c then t else e).run o = if c then t.run o else e.run o :=
  apply_ite _ _ _ _

end Coro

end DpapiNg

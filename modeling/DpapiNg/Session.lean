import DpapiNg.SharedCache

/-!
# The RPC conversation

Each RPC connection of `_client.py` follows one pattern: `create_rpc_connection`, a `bind` of
the connection's contexts, the check of the acknowledgement by `_process_bind_result`, one
request on the context the client wants, and the close that leaving the `with` block makes on
every way out.  `Session` is the client's side of that conversation as an automaton: a DNS
lookup happens outside any connection, one connection is open at a time, it is bound once, a
request goes only to a context the server accepted in the connection's bind acknowledgement,
and only an open connection is closed.  `sessionOf` replays a trace of calls through it, each
call with the answer the collaborators gave it.

`Triple pre m post err` is a Hoare triple over the client's world with a postcondition for each
way out of `m`: `post a` when it returns `a`, `err` when it raises.  Its rules for sequencing,
calls, caught exceptions and the `with` block carry each connection through the automaton;
between connections, the conversation at rest is an invariant (`Keeps`) of the entry points.

## Main definitions

* `acceptedContexts` — the contexts a bind acknowledgement accepts.
* `Session`, `Session.next`, `sessionOf` — the automaton, and the session a trace leaves.
* `Triple` — Hoare triples over the client's world.
* `getKeyRequests`, `AsksOnly` — the GetKey requests of a trace, and that those after a point
  are all for one key.

## Main results

* `processBindResult_eq` — `_process_bind_result` in closed form: it accepts exactly the
  contexts `acceptedContexts` names, and raises `IndexError` for an accepted result past the
  end of the request.
* `clientRun_keeps_protocol` — every run of client calls from a conversation at rest leaves it
  at rest, and breaks the protocol at no call, whatever the collaborators answer.
* `entry_points_ask_only_for_their_key` — an entry point asks the domain controller for the key
  its blob names, or for the current key of its security descriptor, and for nothing else.
-/

namespace DpapiNg

/-! ### The automaton -/

/-- The ids of the requested contexts whose result in the acknowledgement is `ACCEPTANCE`. -/
def acceptedContexts (contexts : List ContextElement) (ack : BindAck) : List ℕ :=
  (contexts.zip ack.results).filterMap fun p =>
    if p.2 = acceptance then some p.1.contextId else none

/-- Where the client is in its RPC conversation. -/
inductive Session
  /-- No connection is open. -/
  | idle
  /-- A connection is open and not bound. -/
  | connected
  /-- The connection is bound, and the server accepted the contexts `accepted`. -/
  | bound (accepted : List ℕ)
  deriving DecidableEq

/-- One call of the conversation with its outcome: the session after it, or `none` when the
call breaks the protocol. -/
def Session.next : Session → (c : Call) → Except PyError c.Answer → Option Session
  | .idle, .lookupDc _, _ => some .idle
  | .idle, .connect .., .ok _ => some .connected
  | .idle, .connect .., .error _ => some .idle
  | .connected, .bind contexts, .ok ack => some (.bound (acceptedContexts contexts ack))
  | .connected, .bind _, .error _ => some .connected
  | .bound accepted, .request contextId .., _ =>
    if contextId ∈ accepted then some (.bound accepted) else none
  | .connected, .close, _ => some .idle
  | .bound _, .close, _ => some .idle
  | _, _, _ => none

/-- The session after the calls `cs`, each answered by the oracle from the calls before it,
`history` first. -/
def Session.replay (o : Oracle) : Option Session → List Call → List Call → Option Session
  | s, _, [] => s
  | s, history, c :: cs => replay o (s.bind fun s => s.next c (o history c)) (history ++ [c]) cs

/-- The session a trace of calls leaves the conversation in, from rest. -/
def sessionOf (o : Oracle) (trace : List Call) : Option Session :=
  Session.replay o (some .idle) [] trace

/-- The calls of `_sync_get_key`'s first connection are accepted, and a request before any
bind is not. -/
example : sessionOf sampleOracle [.connect "dc" none none none none, .bind epmContexts,
      .request 0 EptMap.opnum (.eptMap eptMapIsdKey) false, .close] = some .idle ∧
    sessionOf sampleOracle [.connect "dc" none none none none,
      .request 0 EptMap.opnum (.eptMap eptMapIsdKey) false] = none := by
  decide

/-- An open connection. -/
def Session.IsOpen (s : Session) : Prop := s ≠ .idle

theorem Session.replay_append_singleton (o : Oracle) (s : Option Session) (history cs : List Call)
    (c : Call) :
    replay o s history (cs ++ [c]) =
      (replay o s history cs).bind fun s' => s'.next c (o (history ++ cs) c) := by
  induction cs generalizing s history with
  | nil => simp [replay]
  | cons c' cs ih =>
    show replay o _ (history ++ [c']) (cs ++ [c]) = (replay o _ (history ++ [c']) cs).bind _
    rw [ih, List.append_assoc, List.singleton_append]

/-- The step lemma of the replay: a call made after a trace moves the session by one step. -/
theorem sessionOf_append_singleton (o : Oracle) (trace : List Call) (c : Call) :
    sessionOf o (trace ++ [c]) = (sessionOf o trace).bind fun s => s.next c (o trace c) := by
  simp only [sessionOf, Session.replay_append_singleton, List.nil_append]

/-- The walk of `_process_bind_result` over the acknowledgement from index `idx`: it raises
`IndexError` when a result past the requested contexts is `ACCEPTANCE`, and otherwise returns
the ids `acceptedContexts` reads. -/
theorem acceptedIds_eq (contexts : List ContextElement) (idx : ℕ) (results : List ℕ) :
    acceptedIds contexts idx results =
      if acceptance ∈ results.drop (contexts.length - idx) then
        .error (.indexError "list index out of range")
      else .ok (acceptedContexts (contexts.drop idx) ⟨results⟩) := by
  induction results generalizing idx with
  | nil => simp [acceptedIds, acceptedContexts]
  | cons r rs ih =>
    unfold acceptedIds
    rw [ih]
    cases hctx : contexts[idx]? with
    | none =>
      have hlen : contexts.length ≤ idx := List.getElem?_eq_none_iff.1 hctx
      rw [List.drop_eq_nil_of_le hlen, @List.drop_eq_nil_of_le _ contexts (idx + 1) (by omega),
        Nat.sub_eq_zero_of_le hlen, @Nat.sub_eq_zero_of_le contexts.length (idx + 1) (by omega)]
      by_cases hr : r = acceptance
      · simp [hr]
      · simp [hr, Ne.symm hr, acceptedContexts]
    | some ctx =>
      obtain ⟨hlt, hget⟩ := List.getElem?_eq_some_iff.1 hctx
      rw [List.drop_eq_getElem_cons hlt, hget,
        show contexts.length - idx = contexts.length - (idx + 1) + 1 by omega, List.drop_succ_cons]
      by_cases hr : r = acceptance
      · simp only [hr, if_true]
        split <;> simp [acceptedContexts]
      · simp [hr, acceptedContexts]

/-- The desired context of a bind that `_process_bind_result` accepts is among the contexts
the server accepted. -/
theorem mem_acceptedContexts_of_processBindResult {contexts : List ContextElement}
    {ack : BindAck} {d : ℕ} (h : processBindResult contexts ack d = .ok ()) :
    d ∈ acceptedContexts contexts ack := by
  simp only [processBindResult, bind_eq_ok, acceptedIds_eq] at h
  obtain ⟨ids, hids, h⟩ := h
  split at hids
  · cases hids
  · cases hids
    split at h
    · exact ‹d ∈ _›
    · cases h

/-- **`_process_bind_result`.**  It raises `IndexError` exactly when the acknowledgement accepts
a result past the requested contexts; otherwise it returns exactly when the desired context is
among those the server accepted, and else raises `ValueError`. -/
theorem processBindResult_eq (contexts : List ContextElement) (ack : BindAck) (d : ℕ) :
    processBindResult contexts ack d =
      if acceptance ∈ ack.results.drop contexts.length then
        .error (.indexError "list index out of range")
      else if d ∈ acceptedContexts contexts ack then .ok ()
      else .error (.valueError "Failed to bind to desired context") := by
  obtain ⟨results⟩ := ack
  simp only [processBindResult, acceptedIds_eq, Nat.sub_zero, List.drop_zero]
  split_ifs <;> simp only [ok_bind, error_bind, if_pos, if_neg, *] <;> rfl

theorem Session.isOpen_connected : Session.connected.IsOpen := fun h => nomatch h

theorem Session.isOpen_bound (accepted : List ℕ) : (Session.bound accepted).IsOpen :=
  fun h => nomatch h

/-- Closing an open connection brings the conversation to rest, whatever the close answers. -/
theorem Session.next_close {s : Session} (hs : s.IsOpen) (r : Except PyError Unit) :
    s.next .close r = some .idle := by
  cases s with
  | idle => exact absurd rfl hs
  | connected => rfl
  | bound => rfl

/-! ### Hoare triples over the client's world -/

/-- Run from a world satisfying `pre`, `m` ends in a world satisfying `post a` when it returns
`a`, and in one satisfying `err` when it raises. -/
def Triple {α : Type} (pre : World → Prop) (m : ClientM α) (post : α → World → Prop)
    (err : World → Prop) : Prop :=
  ∀ w, pre w → match m w with
    | .ok a w' => post a w'
    | .error _ w' => err w'

namespace Triple

variable {α β : Type} {P : World → Prop} {E : World → Prop}

/-- Sequencing, through the postcondition `Q` of the first part. -/
theorem bind {m : ClientM α} {f : α → ClientM β} {R : β → World → Prop} (Q : α → World → Prop)
    (hm : Triple P m Q E) (hf : ∀ a, Triple (Q a) (f a) R E) : Triple P (m >>= f) R E := by
  intro w hw
  have h := hm w hw
  show match EStateM.bind m f w with | .ok b w' => R b w' | .error _ w' => E w'
  unfold EStateM.bind
  cases hmw : m w with
  | ok a w₁ =>
    rw [hmw] at h
    exact hf a w₁ h
  | error e w₁ =>
    rw [hmw] at h
    exact h

/-- A result of pure code: the postcondition of the value it returns, or the error
condition. -/
theorem liftExcept {Q : α → World → Prop} {r : Except PyError α}
    (hok : ∀ a, r = .ok a → ∀ w, P w → Q a w) (herr : ∀ w, P w → E w) :
    Triple P (DpapiNg.liftExcept r) Q E := by
  intro w hw
  cases r with
  | ok a => exact hok a rfl w hw
  | error e => exact herr w hw

/-- Code whose exception is caught never raises. -/
theorem attempt {m : ClientM α} {R : World → Prop} (h : Triple P m (fun _ => R) R) :
    Triple P (DpapiNg.attempt m) (fun _ => R) E := by
  intro w hw
  have := h w hw
  unfold DpapiNg.attempt
  cases hmw : m w with
  | ok a w' => rw [hmw] at this; exact this
  | error e w' => rw [hmw] at this; exact this

/-- A triple with one condition on every way out is an invariant. -/
theorem keeps {m : ClientM α} (h : Triple P m (fun _ => P) P) : Keeps P m := by
  intro w hw
  have := h w hw
  revert this
  cases m w <;> exact id

end Triple

/-! ### Properties of the calls made so far -/

section Trace

variable {α : Type} (Q : List Call → Prop)

/-- `cache or KeyCache()` makes no call. -/
theorem keeps_withCache_trace (cache : Bool) {body : ClientM α}
    (h : Keeps (fun w : World => Q w.trace) body) :
    Keeps (fun w : World => Q w.trace) (withCache cache body) := by
  cases cache
  · exact keeps_bind (keeps_liftCache_trace _) fun _ => keeps_bind (keeps_attempt h) fun _ =>
      keeps_bind (keeps_liftCache_trace _) fun _ => keeps_liftExcept _
  · exact h

/-- A connection keeps a property of the calls that its connect, its body and its close
keep. -/
theorem keeps_withConnection_trace (o : Oracle) (connect : Call) {body : ClientM α}
    (hconnect : Keeps (fun w : World => Q w.trace) (perform o connect))
    (hclose : Keeps (fun w : World => Q w.trace) (perform o .close))
    (h : Keeps (fun w : World => Q w.trace) body) :
    Keeps (fun w : World => Q w.trace) (withConnection o connect body) :=
  keeps_bind hconnect fun _ => keeps_bind (keeps_attempt h) fun r =>
    keeps_bind hclose fun _ => keeps_liftExcept r

end Trace

/-! ### The conversation of the client -/

section Protocol

variable (o : Oracle)

/-- The calls made so far leave the conversation in a session satisfying `S`. -/
def InSession (S : Session → Prop) (w : World) : Prop := ∃ s, sessionOf o w.trace = some s ∧ S s

/-- A call moves the session by the automaton's step on the call's outcome. -/
theorem triple_perform {c : Call} {S : Session → Prop} {Q : c.Answer → Session → Prop}
    {E : Session → Prop}
    (h : ∀ s, S s → ∀ r, ∃ s', s.next c r = some s' ∧
      match r with
      | .ok a => Q a s'
      | .error _ => E s') :
    Triple (InSession o S) (perform o c) (fun a => InSession o (Q a)) (InSession o E) := by
  rintro w ⟨s, hs, hS⟩
  obtain ⟨s', hnext, hQ⟩ := h s hS (o w.trace c)
  have hsession : sessionOf o (w.trace ++ [c]) = some s' := by
    rw [sessionOf_append_singleton, hs]
    exact hnext
  unfold perform
  revert hQ
  cases o w.trace c <;> exact fun hQ => ⟨s', hsession, hQ⟩

theorem keeps_liftCache_session {α : Type} (S : Session → Prop) (act : CacheM α) :
    Keeps (InSession o S) (liftCache act) :=
  @keeps_liftCache_trace _ (fun t => ∃ s, sessionOf o t = some s ∧ S s) act

theorem keeps_withCache_session {α : Type} {S : Session → Prop} (cache : Bool) {body : ClientM α}
    (h : Keeps (InSession o S) body) : Keeps (InSession o S) (withCache cache body) :=
  keeps_withCache_trace (fun t => ∃ s, sessionOf o t = some s ∧ S s) cache h

/-- The body of each connection: a bind of the contexts, the check of the acknowledgement, and
a request on the desired context, from a fresh connection to an open one. -/
theorem triple_bindThenRequest {α : Type} (contexts : List ContextElement) (d opnum : ℕ)
    (p : Payload) (vt : Bool) (g : Response → Except PyError α) :
    Triple (InSession o (· = .connected))
      (do
        let ack ← perform o (.bind contexts)
        liftExcept (processBindResult contexts ack d)
        let resp ← perform o (.request d opnum p vt)
        liftExcept (g resp))
      (fun _ => InSession o Session.IsOpen) (InSession o Session.IsOpen) := by
  refine Triple.bind (fun ack => InSession o (· = .bound (acceptedContexts contexts ack)))
    (triple_perform o fun s hs r => ?_) fun ack => ?_
  · subst hs
    cases r
    exacts [⟨_, rfl, Session.isOpen_connected⟩, ⟨_, rfl, rfl⟩]
  let accepted := acceptedContexts contexts ack
  refine Triple.bind (fun _ => InSession o fun s => s = .bound accepted ∧ d ∈ accepted)
    (Triple.liftExcept (fun _ h _ ⟨s, hs, hS⟩ => ⟨s, hs, hS, mem_acceptedContexts_of_processBindResult h⟩)
      fun _ ⟨s, hs, hS⟩ => ⟨s, hs, hS ▸ Session.isOpen_bound _⟩) fun _ => ?_
  refine Triple.bind (fun _ => InSession o (· = .bound accepted))
    (triple_perform o fun s hs r => ?_) fun resp => ?_
  · obtain ⟨rfl, hd⟩ := hs
    cases r
    exacts [⟨_, if_pos hd, Session.isOpen_bound _⟩, ⟨_, if_pos hd, rfl⟩]
  exact Triple.liftExcept (fun _ _ _ ⟨s, hs, hS⟩ => ⟨s, hs, hS ▸ Session.isOpen_bound _⟩)
    fun _ ⟨s, hs, hS⟩ => ⟨s, hs, hS ▸ Session.isOpen_bound _⟩

/-- A connection from rest: opened, its body run from `connected` to an open session, and
closed on every way out, back at rest. -/
theorem keeps_withConnection_session {α : Type} (server : String) (port : Option ℕ)
    (username password authProtocol : Option String) {body : ClientM α}
    (hbody : Triple (InSession o (· = .connected)) body (fun _ => InSession o Session.IsOpen)
      (InSession o Session.IsOpen)) :
    Keeps (InSession o (· = .idle))
      (withConnection o (.connect server port username password authProtocol) body) := by
  refine Triple.keeps (Triple.bind (fun _ => InSession o (· = .connected))
    (triple_perform o fun s hs r => ?_) fun _ => ?_)
  · subst hs
    cases r <;> exact ⟨_, rfl, rfl⟩
  refine Triple.bind (fun _ => InSession o Session.IsOpen) (Triple.attempt hbody) fun r => ?_
  refine Triple.bind (fun _ => InSession o (· = .idle))
    (triple_perform o fun s hs r => ⟨_, Session.next_close hs r, by cases r <;> rfl⟩) fun _ => ?_
  exact Triple.liftExcept (fun _ _ _ h => h) fun _ h => h

section EntryPoints

variable (gkdi : Gkdi) (crypto : Crypto) (epm : Epm)

theorem keeps_serverOrLookup_session (server domainName : Option String) :
    Keeps (InSession o (· = .idle)) (serverOrLookup o server domainName) :=
  keeps_getDM (keeps_bind (Triple.keeps (triple_perform o fun s hs r => by
    subst hs
    cases r <;> exact ⟨_, rfl, rfl⟩)) fun _ => keeps_pure _)

theorem keeps_syncGetKey_session (server : String) (sd : Bytes) (rootKeyId : Option UUID)
    (l0 l1 l2 : ℤ) (username password : Option String) (authProtocol : String) :
    Keeps (InSession o (· = .idle))
      (syncGetKey gkdi epm o server sd rootKeyId l0 l1 l2 username password authProtocol) :=
  keeps_bind (keeps_withConnection_session o _ _ _ _ _ (triple_bindThenRequest o _ _ _ _ _ _))
    fun _ => keeps_withConnection_session o _ _ _ _ _ (triple_bindThenRequest o _ _ _ _ _ _)

/-- The store of an entry point, guarded by `is_public_key`, then its result. -/
theorem keeps_unless_isPublicKey_session {α : Type} (sd : Bytes) (rk : GroupKeyEnvelope)
    (r : Except PyError α) :
    Keeps (InSession o (· = .idle)) (show ClientM α from do
      unless rk.isPublicKey do liftCache (CacheM.storeKey sd rk)
      liftExcept r) :=
  keeps_unless_isPublicKey_trace (fun t => ∃ s, sessionOf o t = some s ∧ s = .idle) sd rk r

theorem keeps_ncryptUnprotectSecret_session (data : Bytes)
    (server username password : Option String) (authProtocol : String) (cache : Bool) :
    Keeps (InSession o (· = .idle))
      (ncryptUnprotectSecret gkdi crypto epm o data server username password authProtocol cache) :=
  keeps_bind (keeps_liftExcept _) fun _ => keeps_withCache_session o cache <|
    keeps_bind (keeps_liftCache_session o _ _) fun _ =>
      keeps_bind (keeps_getDM (keeps_bind (keeps_serverOrLookup_session o _ _) fun _ =>
        keeps_syncGetKey_session o gkdi epm _ _ _ _ _ _ _ _ _)) fun rk =>
          keeps_unless_isPublicKey_session o _ rk _

theorem keeps_ncryptProtectSecret_session (timeNs : ℕ) (data : Bytes)
    (protectionDescriptor : String) (rootKeyIdentifier : Option UUID)
    (server domainName username password : Option String) (authProtocol : String) (cache : Bool) :
    Keeps (InSession o (· = .idle)) (ncryptProtectSecret gkdi crypto epm o timeNs data
      protectionDescriptor rootKeyIdentifier server domainName username password authProtocol
      cache) :=
  keeps_bind (keeps_liftExcept _) fun _ => keeps_withCache_session o cache <|
    keeps_bind (keeps_bind (keeps_liftCache_session o _ _) fun _ =>
      keeps_getDM (keeps_bind (keeps_serverOrLookup_session o _ _) fun _ =>
        keeps_syncGetKey_session o gkdi epm _ _ _ _ _ _ _ _ _)) fun rk =>
          keeps_unless_isPublicKey_session o _ rk _

/-- The step lemma: every client call leaves a conversation at rest at rest. -/
theorem ClientOp.keeps_exec_session (op : ClientOp) :
    Keeps (InSession o (· = .idle)) (op.exec gkdi crypto epm o) := by
  cases op with
  | loadKey key r v ka kp sa sp pri pub =>
    exact keeps_liftCache_session o _ (modify fun c => c.loadKey gkdi key r v ka kp sa sp pri pub)
  | protect =>
    exact keeps_bind (keeps_ncryptProtectSecret_session o gkdi crypto epm _ _ _ _ _ _ _ _ _ _)
      fun _ => keeps_pure _
  | unprotect =>
    exact keeps_bind (keeps_ncryptUnprotectSecret_session o gkdi crypto epm _ _ _ _ _ _)
      fun _ => keeps_pure _
  | asyncProtect =>
    refine keeps_bind ?_ fun _ => keeps_pure _
    rw [run_asyncNcryptProtectSecret]
    exact keeps_ncryptProtectSecret_session o gkdi crypto epm _ _ _ _ _ _ _ _ _ _
  | asyncUnprotect =>
    refine keeps_bind ?_ fun _ => keeps_pure _
    rw [run_asyncNcryptUnprotectSecret]
    exact keeps_ncryptUnprotectSecret_session o gkdi crypto epm _ _ _ _ _ _

/-- **The client keeps to the RPC protocol.**  From a conversation at rest, every run of
`load_key` and of the four entry points, synchronous or `async`, with or without the caller's
cache, leaves the conversation at rest and breaks the protocol at no call, whatever the
collaborators answer and wherever a call raises: a DNS lookup only outside a connection, one
connection open at a time, bound once before its request, each request on a context the server
accepted in that connection's bind, and every connection that opened closed again. -/
theorem clientRun_keeps_protocol (ops : List ClientOp) {w : World}
    (h : sessionOf o w.trace = some .idle) :
    sessionOf o (ClientOp.run gkdi crypto epm o ops w).trace = some .idle := by
  obtain ⟨s, hs, rfl⟩ :=
    ClientOp.keeps_run (ClientOp.keeps_exec_session o gkdi crypto epm) ops ⟨_, h, rfl⟩
  exact hs

end EntryPoints

/-- A protect through GetKey and an unprotect without the cache, from an empty trace. -/
theorem clientRun_keeps_protocol_sample :
    let ops := [ClientOp.protect 0 [1, 2, 3] "S-1-5-18" none (some "dc") none none none "negotiate"
      true, ClientOp.unprotect [] none none none "negotiate" false]
    sessionOf sampleOracle [] = some .idle ∧
      sessionOf sampleOracle
        (ClientOp.run sampleGkdi sampleCrypto sampleEpm sampleOracle ops ⟨KeyCache.empty, []⟩).trace =
        some .idle :=
  ⟨rfl, clientRun_keeps_protocol sampleOracle sampleGkdi sampleCrypto sampleEpm _ rfl⟩

end Protocol

/-! ### What the client asks GetKey for -/

/-- The GetKey request a call makes, if it makes one. -/
def Call.getKey? : Call → Option GetKey
  | .request _ _ (.getKey g) _ => some g
  | _ => none

/-- The GetKey requests among the calls, in order. -/
def getKeyRequests (cs : List Call) : List GetKey := cs.filterMap Call.getKey?

/-- The calls made after `t` ask GetKey for `g` and for nothing else. -/
def AsksOnly (t : List Call) (g : GetKey) (trace : List Call) : Prop :=
  ∃ suffix, trace = t ++ suffix ∧ ∀ g' ∈ getKeyRequests suffix, g' = g

section Asks

variable (o : Oracle) (t : List Call) (g : GetKey)

theorem keeps_perform_asksOnly (c : Call) (hc : ∀ g', c.getKey? = some g' → g' = g) :
    Keeps (fun w : World => AsksOnly t g w.trace) (perform o c) := by
  rintro w ⟨suffix, hw, hs⟩
  have hstep : AsksOnly t g (w.trace ++ [c]) := by
    refine ⟨suffix ++ [c], by rw [hw, List.append_assoc], fun g' hg' => ?_⟩
    simp only [getKeyRequests, List.filterMap_append, List.mem_append] at hg'
    rcases hg' with hg' | hg'
    · exact hs g' hg'
    · obtain ⟨c', hc', hget⟩ := List.mem_filterMap.1 hg'
      exact hc g' (List.mem_singleton.1 hc' ▸ hget)
  unfold perform
  cases o w.trace c <;> exact hstep

variable (gkdi : Gkdi) (crypto : Crypto) (epm : Epm)

/-- `_sync_get_key` asks GetKey for its arguments and for nothing else. -/
theorem keeps_syncGetKey_asksOnly (server : String) (sd : Bytes) (rootKeyId : Option UUID)
    (l0 l1 l2 : ℤ) (username password : Option String) (authProtocol : String) :
    Keeps (fun w : World => AsksOnly t ⟨sd, rootKeyId, l0, l1, l2⟩ w.trace)
      (syncGetKey gkdi epm o server sd rootKeyId l0 l1 l2 username password authProtocol) := by
  have hcall : ∀ c, (∀ g', c.getKey? = some g' → g' = ⟨sd, rootKeyId, l0, l1, l2⟩) →
      Keeps (fun w : World => AsksOnly t ⟨sd, rootKeyId, l0, l1, l2⟩ w.trace) (perform o c) :=
    keeps_perform_asksOnly o t _
  have hnone : ∀ c, c.getKey? = none →
      Keeps (fun w : World => AsksOnly t ⟨sd, rootKeyId, l0, l1, l2⟩ w.trace) (perform o c) :=
    fun c hc => hcall c fun _ h => nomatch hc.symm.trans h
  exact keeps_bind (keeps_withConnection_trace _ o _ (hnone _ rfl) (hnone _ rfl)
    (keeps_bind (hnone _ rfl) fun _ => keeps_bind (keeps_liftExcept _) fun _ =>
      keeps_bind (hnone _ rfl) fun _ => keeps_liftExcept _)) fun _ =>
    keeps_withConnection_trace _ o _ (hnone _ rfl) (hnone _ rfl)
      (keeps_bind (hnone _ rfl) fun _ => keeps_bind (keeps_liftExcept _) fun _ =>
        keeps_bind (hcall _ fun _ h => (Option.some.inj h).symm) fun _ => keeps_liftExcept _)

/-- The lookup of the domain controller asks GetKey for nothing. -/
theorem keeps_serverOrLookup_asksOnly (server domainName : Option String) :
    Keeps (fun w : World => AsksOnly t g w.trace) (serverOrLookup o server domainName) :=
  keeps_getDM (keeps_bind (keeps_perform_asksOnly o t g _ fun _ h => nomatch h) fun _ =>
    keeps_pure _)

/-- **The client asks GetKey only for the key it needs.**  Whatever the collaborators answer
and whether it returns or raises, `ncrypt_unprotect_secret` of a blob asks GetKey only for the
blob's target security descriptor, root key id and `(l0, l1, l2)`, and `ncrypt_protect_secret`
for a SID string only for the SID's target security descriptor, the root key id it was given
and `(-1, -1, -1)`. -/
theorem entry_points_ask_only_for_their_key (w : World) :
    (∀ data server username password authProtocol cache (b : DPAPINGBlob),
      DPAPINGBlob.unpack data = .ok b →
      ∃ suffix, (finalState (ncryptUnprotectSecret gkdi crypto epm o data server username
          password authProtocol cache w)).trace = w.trace ++ suffix ∧
        ∀ g ∈ getKeyRequests suffix, g = ⟨b.securityDescriptor,
          some b.keyIdentifier.rootKeyIdentifier, b.keyIdentifier.l0, b.keyIdentifier.l1,
          b.keyIdentifier.l2⟩) ∧
    ∀ timeNs data s rootKeyIdentifier server domainName username password authProtocol cache sd,
      targetSecurityDescriptor s = .ok sd →
      ∃ suffix, (finalState (ncryptProtectSecret gkdi crypto epm o timeNs data s
          rootKeyIdentifier server domainName username password authProtocol cache w)).trace =
          w.trace ++ suffix ∧
        ∀ g ∈ getKeyRequests suffix, g = ⟨sd, rootKeyIdentifier, -1, -1, -1⟩ := by
  have hstart : ∀ g, AsksOnly w.trace g w.trace := fun _ => ⟨[], by simp, by simp [getKeyRequests]⟩
  refine ⟨fun data server username password auth cache b hb => ?_,
    fun timeNs data s r server domain username password auth cache sd hsd => ?_⟩
  · have hblob : liftExcept (DPAPINGBlob.unpack data) w = .ok b w := by rw [hb]; rfl
    unfold ncryptUnprotectSecret
    rw [bind_apply_of_eq_ok hblob]
    exact keeps_withCache_trace _ cache (keeps_bind (keeps_liftCache_trace _) fun _ =>
      keeps_bind (keeps_getDM (keeps_bind (keeps_serverOrLookup_asksOnly o _ _ _ _) fun _ =>
        keeps_syncGetKey_asksOnly o _ gkdi epm _ _ _ _ _ _ _ _ _)) fun rk =>
          keeps_unless_isPublicKey_trace _ _ rk _) w (hstart _)
  · have hsd' : liftExcept (targetSecurityDescriptor s) w = .ok sd w := by rw [hsd]; rfl
    unfold ncryptProtectSecret
    rw [bind_apply_of_eq_ok hsd']
    exact keeps_withCache_trace _ cache (keeps_bind (keeps_bind (keeps_liftCache_trace _) fun _ =>
      keeps_getDM (keeps_bind (keeps_serverOrLookup_asksOnly o _ _ _ _) fun _ =>
        keeps_syncGetKey_asksOnly o _ gkdi epm _ _ _ _ _ _ _ _ _)) fun rk =>
          keeps_unless_isPublicKey_trace _ _ rk _) w (hstart _)

end Asks

set_option maxRecDepth 8000 in
/-- A blob protected for SYSTEM under `sampleEnvelope`, unprotected; and a protect for
SYSTEM. -/
theorem entry_points_ask_only_for_their_key_sample :
    let sd := (targetSecurityDescriptor "S-1-5-18").toOption.getD []
    let blob := (encryptBlob sampleGkdi sampleCrypto [1, 2, 3] sampleEnvelope sd
      "S-1-5-18").toOption.getD []
    let w : World := ⟨KeyCache.empty, []⟩
    (∃ suffix, (finalState (ncryptUnprotectSecret sampleGkdi sampleCrypto sampleEpm sampleOracle
        blob none none none "negotiate" true w)).trace = suffix ∧
      ∀ g ∈ getKeyRequests suffix, g = ⟨sd, some sampleEnvelope.rootKeyIdentifier,
        sampleEnvelope.l0, sampleEnvelope.l1, sampleEnvelope.l2⟩) ∧
    ∃ suffix, (finalState (ncryptProtectSecret sampleGkdi sampleCrypto sampleEpm sampleOracle 0
        [1, 2, 3] "S-1-5-18" none (some "dc") none none none "negotiate" true w)).trace = suffix ∧
      ∀ g ∈ getKeyRequests suffix, g = ⟨sd, none, -1, -1, -1⟩ := by
  intro sd blob w
  obtain ⟨_, _, _, _, _, _, _, _, hparams, _, hnew, _, hpack⟩ :=
    encryptBlob_eq_ok sampleGkdi sampleCrypto
      (show encryptBlob sampleGkdi sampleCrypto [1, 2, 3] sampleEnvelope sd "S-1-5-18" = .ok blob
        by decide)
  have hsd : targetSecurityDescriptor "S-1-5-18" = .ok sd := by decide
  have hunpack := DPAPINGBlob.unpack_of_pack_eq_ok isValidOid_aes256Wrap isValidOid_aes256Gcm rfl
    (by simpa using hparams) hsd hpack
  cases hnew
  exact ⟨(entry_points_ask_only_for_their_key sampleOracle sampleGkdi sampleCrypto sampleEpm w).1
      blob none none none "negotiate" true _ hunpack,
    (entry_points_ask_only_for_their_key sampleOracle sampleGkdi sampleCrypto sampleEpm w).2 0
      [1, 2, 3] "S-1-5-18" none (some "dc") none none none "negotiate" true sd hsd⟩

end DpapiNg

import DpapiNg.Session

/-!
# Where the client sends its credentials

`_sync_get_key` talks to a domain controller over two connections.  The first goes to the
endpoint mapper with no credentials, `create_rpc_connection(server)`, and its `ept_map` request
asks where the ISD_KEY interface listens; `_process_ept_map_result` reads the port of the first
TCP floor of the answer.  The second goes to that port of the same server and carries the
caller's username, password and authentication protocol; it makes the GetKey request.

`ConnectsAsMapped` says this of a whole trace of calls, each answered by the collaborators from
the calls before it: a connection without a port carries no credentials, and a connection with
a port goes to a port that the same server's endpoint mapper named earlier in the trace, in
answer to an `ept_map` request on the mapper's own connection.  Every run of client calls keeps
it, whatever the collaborators answer (`clientRun_connects_as_mapped`).

A connection's body returns a value that the next connection uses, so the proof carries the
port from one to the other by Hoare triples (`Triple`), and the calls that only extend the
trace by invariants (`Keeps`).

## Main definitions

* `eptMapRequest`, `mapperConnect` — the endpoint mapper's request and connection.
* `MapperNamed` — the trace shows the endpoint mapper of a server naming a port.
* `ConnectOk`, `ConnectsAsMapped` — the condition on a call made after a trace, and on every
  call of a trace.
-/

namespace DpapiNg

/-- `rpc.request(0, ept_map.opnum, ept_map.pack())` with `ept_map = _EPT_MAP_ISD_KEY`. -/
abbrev eptMapRequest : Call := .request 0 EptMap.opnum (.eptMap eptMapIsdKey) false

/-- `create_rpc_connection(server)`: the connection to the endpoint mapper. -/
abbrev mapperConnect (server : String) : Call := .connect server none none none none

/-- Whether a call opens a connection. -/
def Call.isConnect : Call → Bool
  | .connect .. => true
  | _ => false

section Mapped

variable (o : Oracle) (epm : Epm)

/-- The last connection the trace opened went to the endpoint mapper of `server`. -/
def MapperOpened (server : String) (calls : List Call) : Prop :=
  ∃ k < calls.length, calls[k]? = some (mapperConnect server) ∧
    ∀ c ∈ calls.drop (k + 1), c.isConnect = false

/-- On a connection to the endpoint mapper of `server`, with no other connection opened in
between, the trace made an `ept_map` request, answered with `resp`. -/
def MapperAnswered (server : String) (resp : Response) (calls : List Call) : Prop :=
  ∃ k j, k < j ∧ j < calls.length ∧ calls[k]? = some (mapperConnect server) ∧
    (∀ c ∈ (calls.take j).drop (k + 1), c.isConnect = false) ∧
    calls[j]? = some eptMapRequest ∧ o (calls.take j) eptMapRequest = .ok resp

/-- The endpoint mapper of `server` named the port `port`: `_process_ept_map_result` reads it
from the answer to an `ept_map` request of the calls. -/
def MapperNamed (server : String) (port : ℕ) (calls : List Call) : Prop :=
  ∃ resp, MapperAnswered o server resp calls ∧ processEptMapResult epm resp = .ok port

/-- A call made after the calls keeps to the mapper: a connection without a port carries no
credentials, and a connection with a port goes to a port the server's endpoint mapper named. -/
def ConnectOk (calls : List Call) : Call → Prop
  | .connect _ none username password authProtocol =>
    username = none ∧ password = none ∧ authProtocol = none
  | .connect server (some port) _ _ _ => MapperNamed o epm server port calls
  | _ => True

/-- Every call of the calls keeps to the mapper, after the calls before it. -/
def ConnectsAsMapped (calls : List Call) : Prop :=
  ∀ i (h : i < calls.length), ConnectOk o epm (calls.take i) calls[i]

variable {o epm}

/-! ### The trace only grows -/

/-- A call that opens no connection leaves the last connection as it was. -/
theorem MapperOpened.append_singleton {server : String} {t : List Call} {c : Call}
    (h : MapperOpened server t) (hc : c.isConnect = false) : MapperOpened server (t ++ [c]) := by
  obtain ⟨k, hk, hkc, hnone⟩ := h
  refine ⟨k, by rw [List.length_append]; omega, by rwa [List.getElem?_append_left hk], ?_⟩
  rw [List.drop_append_of_le_length hk]
  intro c' hc'
  rcases List.mem_append.1 hc' with h' | h'
  · exact hnone c' h'
  · rwa [List.mem_singleton.1 h']

theorem MapperAnswered.append {server : String} {resp : Response} {t : List Call} (s : List Call)
    (h : MapperAnswered o server resp t) : MapperAnswered o server resp (t ++ s) := by
  obtain ⟨k, j, hkj, hj, hk, hnone, hreq, hresp⟩ := h
  have htake : (t ++ s).take j = t.take j := List.take_append_of_le_length hj.le
  refine ⟨k, j, hkj, by rw [List.length_append]; omega, ?_, by rwa [htake], ?_, by rwa [htake]⟩
  · rwa [List.getElem?_append_left (hkj.trans hj)]
  · rwa [List.getElem?_append_left hj]

theorem MapperNamed.append {server : String} {port : ℕ} {t : List Call} (s : List Call)
    (h : MapperNamed o epm server port t) : MapperNamed o epm server port (t ++ s) :=
  let ⟨resp, hresp, hport⟩ := h
  ⟨resp, hresp.append s, hport⟩

theorem connectsAsMapped_nil : ConnectsAsMapped o epm [] :=
  fun _ h => absurd h (Nat.not_lt_zero _)

/-- The step lemma of the trace: a call that keeps to the mapper after it keeps the trace
so. -/
theorem ConnectsAsMapped.append_singleton {t : List Call} {c : Call}
    (h : ConnectsAsMapped o epm t) (hc : ConnectOk o epm t c) :
    ConnectsAsMapped o epm (t ++ [c]) := by
  intro i hi
  rw [List.length_append, List.length_singleton] at hi
  rcases Nat.lt_or_ge i t.length with hlt | hge
  · rw [List.take_append_of_le_length hlt.le, List.getElem_append_left hlt]
    exact h i hlt
  · obtain rfl : i = t.length := by omega
    rw [List.take_left' rfl, List.getElem_concat_length t c _ rfl]
    exact hc

/-! ### Rules for the calls -/

/-- A call appended to the trace: from `P` of the trace before it to `Q` of its answer and the
trace after it, or `E` of the trace after it when it raises. -/
theorem triple_perform_trace {c : Call} {P : List Call → Prop} {Q : c.Answer → List Call → Prop}
    {E : List Call → Prop} (hok : ∀ t a, P t → o t c = .ok a → Q a (t ++ [c]))
    (herr : ∀ t, P t → E (t ++ [c])) :
    Triple (P ·.trace) (perform o c) (fun a w => Q a w.trace) (E ·.trace) := by
  intro w hw
  unfold perform
  cases h : o w.trace c with
  | ok a => exact hok _ a hw h
  | error e => exact herr _ hw

/-- A call that keeps to the mapper after every trace satisfying `M`, and keeps `M`, keeps the
trace to the mapper and `M`. -/
theorem keeps_perform_mapped {M : List Call → Prop} (c : Call)
    (hc : ∀ t, M t → ConnectOk o epm t c ∧ M (t ++ [c])) :
    Keeps (fun w : World => ConnectsAsMapped o epm w.trace ∧ M w.trace) (perform o c) :=
  Triple.keeps (triple_perform_trace (P := fun t => ConnectsAsMapped o epm t ∧ M t)
    (Q := fun _ t => ConnectsAsMapped o epm t ∧ M t) (E := fun t => ConnectsAsMapped o epm t ∧ M t)
    (fun t _ h _ => ⟨h.1.append_singleton (hc t h.2).1, (hc t h.2).2⟩)
    fun t h => ⟨h.1.append_singleton (hc t h.2).1, (hc t h.2).2⟩)

/-- A call that keeps to the mapper after every trace keeps the trace to the mapper. -/
theorem keeps_perform_not_connect (c : Call) (hc : ∀ t, ConnectOk o epm t c) :
    Keeps (fun w : World => ConnectsAsMapped o epm w.trace) (perform o c) := by
  intro w hw
  exact (keeps_perform_mapped (M := fun _ => True) c (fun t _ => ⟨hc t, trivial⟩) w
    ⟨hw, trivial⟩).1

namespace Triple

variable {α : Type} {P : World → Prop}

/-- A caught exception as a value: the postcondition of what `m` returned, or the error
condition of `m`. -/
theorem attempt_value {m : ClientM α} {Q : α → World → Prop} {E E' : World → Prop}
    (h : Triple P m Q E) :
    Triple P (DpapiNg.attempt m) (fun r w => match r with | .ok a => Q a w | .error _ => E w) E' := by
  intro w hw
  have := h w hw
  unfold DpapiNg.attempt
  cases hm : m w <;> rw [hm] at this <;> exact this

theorem of_keeps {m : ClientM α} (h : Keeps P m) : Triple P m (fun _ => P) P := by
  intro w hw
  have := h w hw
  revert this
  cases m w <;> exact id

theorem weaken {m : ClientM α} {Q Q' : α → World → Prop} {E E' : World → Prop}
    (h : Triple P m Q E) (hQ : ∀ a w, Q a w → Q' a w) (hE : ∀ w, E w → E' w) :
    Triple P m Q' E' := by
  intro w hw
  have := h w hw
  revert this
  cases m w
  exacts [hQ _ _, hE _]

end Triple

/-- The close on the way out of a connection keeps the trace to the mapper, and a property of
the body's result that calls never break. -/
theorem triple_closing {α : Type} {body : ClientM α} {P : World → Prop}
    {Q : α → List Call → Prop} (hQ : ∀ a t, Q a t → Q a (t ++ [.close]))
    (h : Triple P body (fun a w => ConnectsAsMapped o epm w.trace ∧ Q a w.trace)
      (ConnectsAsMapped o epm ·.trace)) :
    Triple P (closing body (perform o .close))
      (fun a w => ConnectsAsMapped o epm w.trace ∧ Q a w.trace) (ConnectsAsMapped o epm ·.trace) := by
  refine Triple.bind _ (Triple.attempt_value h) fun r => ?_
  cases r with
  | ok a =>
    dsimp only
    refine Triple.bind (fun _ w => ConnectsAsMapped o epm w.trace ∧ Q a w.trace)
      (Triple.weaken (Triple.of_keeps (keeps_perform_mapped .close fun t h => ⟨trivial, hQ a t h⟩))
        (fun _ _ h => h) fun _ h => h.1) fun _ => ?_
    exact Triple.liftExcept (fun _ h _ hw => by cases h; exact hw) fun _ hw => hw.1
  | error e =>
    dsimp only
    refine Triple.bind (fun _ w => ConnectsAsMapped o epm w.trace)
      (Triple.of_keeps (keeps_perform_not_connect .close fun _ => trivial)) fun _ => ?_
    exact Triple.liftExcept (fun _ h => nomatch h) fun _ hw => hw

/-! ### `_sync_get_key` -/

section GetKey

variable (gkdi : Gkdi)

/-- The connection to the endpoint mapper keeps the trace to the mapper, and returns a port
the mapper named. -/
theorem triple_mapperConnection (server : String) :
    Triple (ConnectsAsMapped o epm ·.trace)
      (withConnection o (mapperConnect server) do
        let contextId := (epmContexts.get ⟨0, by decide⟩).contextId
        let ack ← perform o (.bind epmContexts)
        liftExcept (processBindResult epmContexts ack contextId)
        let resp ← perform o eptMapRequest
        liftExcept (processEptMapResult epm resp))
      (fun port w => ConnectsAsMapped o epm w.trace ∧ MapperNamed o epm server port w.trace)
      (ConnectsAsMapped o epm ·.trace) := by
  let Opened (w : World) := ConnectsAsMapped o epm w.trace ∧ MapperOpened server w.trace
  refine Triple.bind (fun _ => Opened) (triple_perform_trace
    (P := ConnectsAsMapped o epm) (Q := fun _ t => ConnectsAsMapped o epm t ∧ MapperOpened server t)
    (E := ConnectsAsMapped o epm)
    (fun t _ h _ => ⟨h.append_singleton ⟨rfl, rfl, rfl⟩, t.length, by simp, by simp, by simp⟩)
    fun t h => h.append_singleton ⟨rfl, rfl, rfl⟩) fun _ => ?_
  refine triple_closing (fun _ _ h => h.append [.close]) ?_
  -- the bind and its check, on the mapper's connection
  refine Triple.bind (fun _ => Opened) (Triple.weaken (Triple.of_keeps
    (keeps_perform_mapped (.bind epmContexts) fun _ h => ⟨trivial, h.append_singleton rfl⟩))
    (fun _ _ h => h) fun _ h => h.1) fun ack => ?_
  refine Triple.bind (fun _ => Opened) (Triple.liftExcept (fun _ _ _ h => h) fun _ h => h.1)
    fun _ => ?_
  -- the `ept_map` request, and the port read from its answer
  refine Triple.bind (fun resp w => ConnectsAsMapped o epm w.trace ∧
      MapperAnswered o server resp w.trace)
    (triple_perform_trace (c := eptMapRequest)
      (P := fun t => ConnectsAsMapped o epm t ∧ MapperOpened server t)
      (Q := fun resp t => ConnectsAsMapped o epm t ∧ MapperAnswered o server resp t)
      (E := ConnectsAsMapped o epm) (fun t _ h hresp => ⟨h.1.append_singleton trivial, ?_⟩)
      fun _ h => h.1.append_singleton trivial) fun resp => ?_
  · obtain ⟨k, hk, hkc, hnone⟩ := h.2
    exact ⟨k, t.length, hk, by simp, by rwa [List.getElem?_append_left hk],
      by rwa [List.take_left' rfl], by simp, by rwa [List.take_left' rfl]⟩
  exact Triple.liftExcept (fun _ hport _ h => ⟨h.1, _, h.2, hport⟩) fun _ h => h.1

/-- `_sync_get_key` keeps the trace to the mapper: its first connection carries no
credentials, and its second goes to the port the first one's endpoint mapper named. -/
theorem keeps_syncGetKey_mapped (server : String) (sd : Bytes) (rootKeyId : Option UUID)
    (l0 l1 l2 : ℤ) (username password : Option String) (authProtocol : String) :
    Keeps (ConnectsAsMapped o epm ·.trace)
      (syncGetKey gkdi epm o server sd rootKeyId l0 l1 l2 username password authProtocol) := by
  refine Triple.keeps (Triple.bind _ (triple_mapperConnection server) fun port => ?_)
  -- the second connection goes to the port the mapper named, and its calls keep that
  have hcall : ∀ c, (∀ t, MapperNamed o epm server port t → ConnectOk o epm t c) →
      Keeps (fun w : World => ConnectsAsMapped o epm w.trace ∧ MapperNamed o epm server port w.trace)
        (perform o c) :=
    fun c hc => keeps_perform_mapped c fun t h => ⟨hc t h, h.append [c]⟩
  refine Triple.weaken (Triple.of_keeps ?_) (fun _ _ h => h.1) fun _ h => h.1
  exact keeps_withConnection_trace (fun t => ConnectsAsMapped o epm t ∧ MapperNamed o epm server port t)
    o (.connect server (some port) username password (some authProtocol)) (hcall _ fun _ h => h)
    (hcall .close fun _ _ => trivial)
    (keeps_bind (hcall (.bind isdKeyContexts) fun _ _ => trivial) fun _ =>
      keeps_bind (keeps_liftExcept _) fun _ =>
        keeps_bind (hcall (.request _ GetKey.opnum (.getKey _) true) fun _ _ => trivial) fun _ =>
          keeps_liftExcept _)

end GetKey

end Mapped

/-! ### Runs of client calls -/

section Runs

variable (gkdi : Gkdi) (crypto : Crypto) (epm : Epm) (o : Oracle)

/-- Every client call keeps a property of the calls made so far that the DNS lookup and
`_sync_get_key` keep: the rest of an entry point makes no call. -/
theorem ClientOp.keeps_exec_of_calls (Q : List Call → Prop)
    (hlookup : ∀ domainName, Keeps (Q ·.trace) (perform o (.lookupDc domainName)))
    (hget : ∀ server sd rootKeyId l0 l1 l2 username password authProtocol,
      Keeps (Q ·.trace)
        (syncGetKey gkdi epm o server sd rootKeyId l0 l1 l2 username password authProtocol))
    (op : ClientOp) : Keeps (Q ·.trace) (op.exec gkdi crypto epm o) := by
  have hserver : ∀ server domainName, Keeps (Q ·.trace) (serverOrLookup o server domainName) :=
    fun _ _ => keeps_getDM (keeps_bind (hlookup _) fun _ => keeps_pure _)
  have hprotect : ∀ t data pd r server domain user pass auth cache,
      Keeps (Q ·.trace)
        (ncryptProtectSecret gkdi crypto epm o t data pd r server domain user pass auth cache) :=
    fun _ _ _ _ _ _ _ _ _ cache =>
      keeps_bind (keeps_liftExcept _) fun _ => keeps_withCache_trace Q cache <|
        keeps_bind (keeps_bind (keeps_liftCache_trace _) fun _ =>
          keeps_getDM (keeps_bind (hserver _ _) fun _ => hget _ _ _ _ _ _ _ _ _)) fun rk =>
            keeps_unless_isPublicKey_trace Q _ rk _
  have hunprotect : ∀ data server user pass auth cache,
      Keeps (Q ·.trace)
        (ncryptUnprotectSecret gkdi crypto epm o data server user pass auth cache) :=
    fun _ _ _ _ _ cache =>
      keeps_bind (keeps_liftExcept _) fun _ => keeps_withCache_trace Q cache <|
        keeps_bind (keeps_liftCache_trace _) fun _ =>
          keeps_bind (keeps_getDM (keeps_bind (hserver _ _) fun _ => hget _ _ _ _ _ _ _ _ _))
            fun rk => keeps_unless_isPublicKey_trace Q _ rk _
  cases op with
  | loadKey key r v ka kp sa sp pri pub =>
    exact keeps_liftCache_trace (Q := Q) (modify fun c => c.loadKey gkdi key r v ka kp sa sp pri pub)
  | protect => exact keeps_bind (hprotect _ _ _ _ _ _ _ _ _ _) fun _ => keeps_pure _
  | unprotect => exact keeps_bind (hunprotect _ _ _ _ _ _) fun _ => keeps_pure _
  | asyncProtect =>
    rw [ClientOp.exec, run_asyncNcryptProtectSecret]
    exact keeps_bind (hprotect _ _ _ _ _ _ _ _ _ _) fun _ => keeps_pure _
  | asyncUnprotect =>
    rw [ClientOp.exec, run_asyncNcryptUnprotectSecret]
    exact keeps_bind (hunprotect _ _ _ _ _ _) fun _ => keeps_pure _

/-- **Credentials go only where the endpoint mapper points.**  Over any run of `load_key` and
of the four entry points, synchronous or `async`, with or without the caller's cache, whatever
the collaborators answer and wherever a call raises, a trace that keeps to the mapper stays so:
every connection without a port carries no username, password or authentication protocol, and
every connection with a port goes to a server whose endpoint mapper, asked earlier in the
trace, answered with that port as the first TCP floor of its towers. -/
theorem clientRun_connects_as_mapped (ops : List ClientOp) {w : World}
    (h : ConnectsAsMapped o epm w.trace) :
    ConnectsAsMapped o epm (ClientOp.run gkdi crypto epm o ops w).trace :=
  ClientOp.keeps_run (ClientOp.keeps_exec_of_calls gkdi crypto epm o _
    (fun _ => keeps_perform_not_connect _ fun _ => by trivial)
    (keeps_syncGetKey_mapped gkdi)) ops h

end Runs

/-- A protect through GetKey with credentials and an unprotect without the cache, from an empty
trace. -/
theorem clientRun_connects_as_mapped_sample :
    let ops := [ClientOp.protect 0 [1, 2, 3] "S-1-5-18" none (some "dc") none (some "user")
      (some "secret") "kerberos" true, ClientOp.unprotect [] none none none "negotiate" false]
    ConnectsAsMapped sampleOracle sampleEpm [] ∧
      ConnectsAsMapped sampleOracle sampleEpm
        (ClientOp.run sampleGkdi sampleCrypto sampleEpm sampleOracle ops ⟨KeyCache.empty, []⟩).trace := by
  intro ops
  -- the run itself is not evaluated
  clear_value ops
  exact ⟨connectsAsMapped_nil, clientRun_connects_as_mapped sampleGkdi sampleCrypto sampleEpm
    sampleOracle ops connectsAsMapped_nil⟩

end DpapiNg

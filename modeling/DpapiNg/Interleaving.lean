import DpapiNg.ClientRuns

/-!
# `async` entry points run together on one cache

`async_ncrypt_protect_secret` and `async_ncrypt_unprotect_secret` are coroutines, and a caller
may run several of them at once on one event loop, all with its cache.  Their steps then
interleave: between two steps of one coroutine, the others may call the collaborators and read
and write the cache.  `Coro.interleave` is that event loop: at each turn of a schedule, the
coroutine it names takes one step, a local step on the shared world or an awaited call.  It
switches between coroutines at every step, not only at an `await`, so every interleaving the
Python event loop can produce is one of its runs.

`Coro.StepsKeep P t` says that every local step `t` may still take keeps the property `P` of
the cache.  Each `async` entry point called with the caller's cache has it for every property
that the cache calls keep (`AsyncCall.stepsKeep`); one step of a coroutine keeps it and `P`
(`Coro.StepsKeep.advance`), so every interleaved run does (`Coro.stepsKeep_interleave`).

* `interleaved_calls_refine_cacheRun` — under any schedule, the shared cache goes through a
  run of cache calls none of which stores a public key.
* `interleaved_calls_keep_slots` — no update is lost: under any schedule, a full slot stays
  full and never lower.
-/

namespace DpapiNg

namespace Coro

variable {α β : Type}

/-! ### Coroutines whose local steps keep a property of the cache -/

/-- Every local step the coroutine may still take keeps `P` of the cache. -/
inductive StepsKeep (P : KeyCache → Prop) : Coro α → Prop
  | ret (a : α) : StepsKeep P (ret a)
  | raise (e : PyError) : StepsKeep P (raise e)
  | step {β : Type} {act : CacheM β} {k : Except PyError β → Coro α} :
      Keeps P act → (∀ r, StepsKeep P (k r)) → StepsKeep P (step act k)
  | await {c : Call} {k : Except PyError c.Answer → Coro α} :
      (∀ r, StepsKeep P (k r)) → StepsKeep P (await c k)

variable {P : KeyCache → Prop}

theorem StepsKeep.bind {t : Coro α} {f : α → Coro β} (ht : StepsKeep P t)
    (hf : ∀ a, StepsKeep P (f a)) : StepsKeep P (t >>= f) := by
  show StepsKeep P (t.bind f)
  induction ht with
  | ret a => exact hf a
  | raise e => exact .raise e
  | step hact _ ih => exact .step hact ih
  | await _ ih => exact .await ih

theorem StepsKeep.attempt {t : Coro α} (ht : StepsKeep P t) : StepsKeep P t.attempt := by
  induction ht with
  | ret a => exact .ret _
  | raise e => exact .ret _
  | step hact _ ih => exact .step hact ih
  | await _ ih => exact .await ih

theorem stepsKeep_liftExcept (r : Except PyError α) : StepsKeep P (liftExcept r) := by
  cases r
  exacts [.raise _, .ret _]

theorem stepsKeep_call (c : Call) : StepsKeep P (call c) := .await stepsKeep_liftExcept

theorem stepsKeep_exec {act : CacheM α} (h : Keeps P act) : StepsKeep P (exec act) :=
  .step h stepsKeep_liftExcept

theorem stepsKeep_getDM {x : Option α} {t : Coro α} (ht : StepsKeep P t) :
    StepsKeep P (x.getDM t) := by
  cases x
  exacts [ht, .ret _]

theorem stepsKeep_withConnection (connect : Call) {body : Coro α} (h : StepsKeep P body) :
    StepsKeep P (withConnection connect body) :=
  (stepsKeep_call connect).bind fun _ => h.attempt.bind fun _ =>
    (stepsKeep_call _).bind fun _ => stepsKeep_liftExcept _

/-! ### The event loop -/

/-- The coroutine resumed with the outcome of its step, and the world after it. -/
def resume (k : Except PyError β → Coro α) : EStateM.Result PyError World β → Coro α × World
  | .ok a w => (k (.ok a), w)
  | .error e w => (k (.error e), w)

/-- One step of a coroutine on the world: its next local step or awaited call, and what is left
of it; `none` once it has returned or raised. -/
def advance (o : Oracle) : Coro α → World → Option (Coro α × World)
  | ret _, _ => none
  | raise _, _ => none
  | step act k, w => some (resume k (liftCache act w))
  | await c k, w => some (resume k (perform o c w))

/-- The event loop running a pool of coroutines on one world: at each turn of the schedule the
coroutine it names takes one step; a turn that names no coroutine, or one that has finished,
passes. -/
def interleave (o : Oracle) : List ℕ → List (Coro α) → World → List (Coro α) × World
  | [], cs, w => (cs, w)
  | i :: sched, cs, w =>
    match cs[i]?.bind fun c => c.advance o w with
    | some (c', w') => interleave o sched (cs.set i c') w'
    | none => interleave o sched cs w

variable (o : Oracle)

/-- The step lemma: one step of a coroutine whose steps keep `P` keeps `P` of the cache, and
what is left of the coroutine still keeps it. -/
theorem StepsKeep.advance {c : Coro α} (hc : StepsKeep P c) {w w' : World} {c' : Coro α}
    (hw : P w.cache) (h : c.advance o w = some (c', w')) : StepsKeep P c' ∧ P w'.cache := by
  cases hc with
  | ret => cases h
  | raise => cases h
  | step hact hk =>
    have hcache := keeps_liftCache hact w hw
    simp only [Coro.advance, Option.some.injEq] at h
    revert hcache h
    unfold resume
    cases liftCache _ w <;> exact fun hcache h => by cases h; exact ⟨hk _, hcache⟩
  | @await c k hk =>
    have hcache := keeps_perform o c w hw
    simp only [Coro.advance, Option.some.injEq] at h
    revert hcache h
    unfold resume
    cases perform o _ w <;> exact fun hcache h => by cases h; exact ⟨hk _, hcache⟩

/-- The run lemma: under any schedule, a pool of coroutines whose steps keep `P` keeps `P` of
the cache. -/
theorem stepsKeep_interleave (sched : List ℕ) {cs : List (Coro α)} {w : World}
    (hcs : ∀ c ∈ cs, StepsKeep P c) (hw : P w.cache) :
    (∀ c ∈ (interleave o sched cs w).1, StepsKeep P c) ∧ P (interleave o sched cs w).2.cache := by
  induction sched generalizing cs w with
  | nil => exact ⟨hcs, hw⟩
  | cons i sched ih =>
    simp only [interleave]
    split
    · rename_i c' w' h
      obtain ⟨c, hc, hadv⟩ := Option.bind_eq_some.1 h
      obtain ⟨hc', hw'⟩ := (hcs c (List.getElem?_mem hc)).advance o hw hadv
      exact ih (fun d hd => (List.mem_or_eq_of_mem_set hd).elim (hcs d) fun e => e ▸ hc') hw'
    · exact ih hcs hw

end Coro

/-! ### The `async` entry points with the caller's cache -/

/-- An `async` entry point called with the caller's cache, with its arguments and, for
`protect`, the time. -/
inductive AsyncCall
  /-- `async_ncrypt_protect_secret(…, cache=cache)`. -/
  | protect (timeNs : ℕ) (data : Bytes) (protectionDescriptor : String)
      (rootKeyIdentifier : Option UUID) (server domainName username password : Option String)
      (authProtocol : String)
  /-- `async_ncrypt_unprotect_secret(…, cache=cache)`. -/
  | unprotect (data : Bytes) (server username password : Option String) (authProtocol : String)

namespace AsyncCall

variable (gkdi : Gkdi) (crypto : Crypto) (epm : Epm)

/-- The coroutine of the call. -/
def coro : AsyncCall → Coro Bytes
  | protect t data pd r server domain user pass auth =>
    asyncNcryptProtectSecret gkdi crypto epm t data pd r server domain user pass auth true
  | unprotect data server user pass auth =>
    asyncNcryptUnprotectSecret gkdi crypto epm data server user pass auth true

variable {P : KeyCache → Prop}

theorem stepsKeep_asyncGetKey (server : String) (sd : Bytes) (rootKeyId : Option UUID)
    (l0 l1 l2 : ℤ) (username password : Option String) (authProtocol : String) :
    Coro.StepsKeep P
      (asyncGetKey gkdi epm server sd rootKeyId l0 l1 l2 username password authProtocol) :=
  (Coro.stepsKeep_withConnection _ ((Coro.stepsKeep_call _).bind fun _ =>
      (Coro.stepsKeep_liftExcept _).bind fun _ => (Coro.stepsKeep_call _).bind fun _ =>
        Coro.stepsKeep_liftExcept _)).bind fun _ =>
    Coro.stepsKeep_withConnection _ ((Coro.stepsKeep_call _).bind fun _ =>
      (Coro.stepsKeep_liftExcept _).bind fun _ => (Coro.stepsKeep_call _).bind fun _ =>
        Coro.stepsKeep_liftExcept _)

theorem stepsKeep_asyncServerOrLookup (server domainName : Option String) :
    Coro.StepsKeep P (asyncServerOrLookup server domainName) :=
  Coro.stepsKeep_getDM ((Coro.stepsKeep_call _).bind fun _ => .ret _)

variable {gkdi} (hP : CacheInvariant gkdi P)
include hP

/-- The store of an entry point, guarded by `is_public_key`, then its result. -/
theorem stepsKeep_unless_isPublicKey {α : Type} (sd : Bytes) (rk : GroupKeyEnvelope)
    (r : Except PyError α) :
    Coro.StepsKeep P (show Coro α from do
      unless rk.isPublicKey do Coro.exec (CacheM.storeKey sd rk)
      Coro.liftExcept r) := by
  by_cases hpub : rk.isPublicKey
  · simp only [hpub, if_true]
    exact (Coro.StepsKeep.ret _).bind fun _ => Coro.stepsKeep_liftExcept _
  · simp only [hpub, Bool.false_eq_true, if_false]
    exact (Coro.stepsKeep_exec (keeps_storeKey hP sd (by simpa using hpub))).bind fun _ =>
      Coro.stepsKeep_liftExcept _

/-- Each `async` entry point called with the caller's cache takes only steps that keep an
invariant of the cache calls. -/
theorem stepsKeep (call : AsyncCall) : Coro.StepsKeep P (call.coro gkdi crypto epm) := by
  cases call with
  | protect =>
    exact (Coro.stepsKeep_liftExcept _).bind fun _ =>
      ((Coro.stepsKeep_exec (keeps_getProtectionGkeFromCache hP _ _ _)).bind fun _ =>
        Coro.stepsKeep_getDM ((stepsKeep_asyncServerOrLookup _ _).bind fun _ =>
          stepsKeep_asyncGetKey gkdi epm _ _ _ _ _ _ _ _ _)).bind fun rk =>
        stepsKeep_unless_isPublicKey hP _ rk _
  | unprotect =>
    exact (Coro.stepsKeep_liftExcept _).bind fun _ =>
      (Coro.stepsKeep_exec (keeps_getKey hP _ _ _ _ _)).bind fun _ =>
        (Coro.stepsKeep_getDM ((stepsKeep_asyncServerOrLookup _ _).bind fun _ =>
          stepsKeep_asyncGetKey gkdi epm _ _ _ _ _ _ _ _ _)).bind fun rk =>
        stepsKeep_unless_isPublicKey hP _ rk _

/-- The run lemma: under any schedule, `async` entry points run together on the caller's cache
keep every invariant of the cache calls. -/
theorem invariant_interleave (o : Oracle) (sched : List ℕ) (calls : List AsyncCall) {w : World}
    (hw : P w.cache) :
    P (Coro.interleave o sched (calls.map (coro gkdi crypto epm)) w).2.cache :=
  (Coro.stepsKeep_interleave o sched (fun _ hc => by
    obtain ⟨call, -, rfl⟩ := List.mem_map.1 hc
    exact stepsKeep crypto epm hP call) hw).2

end AsyncCall

section Interleaved

variable (gkdi : Gkdi) (crypto : Crypto) (epm : Epm) (o : Oracle)

/-- **Interleaved calls are cache calls.**  However the event loop interleaves any number of
`async_ncrypt_protect_secret` and `async_ncrypt_unprotect_secret` calls on the caller's cache,
whatever the collaborators answer and wherever a call raises, the cache goes through a run of
`load_key`, `_get_key` and `_store_key` calls none of which stores a public key. -/
theorem interleaved_calls_refine_cacheRun (sched : List ℕ) (calls : List AsyncCall) (w : World) :
    ∃ cacheOps : List KeyCache.CacheOp, (∀ op ∈ cacheOps, op.storesPublicKey = false) ∧
      (Coro.interleave o sched (calls.map (AsyncCall.coro gkdi crypto epm)) w).2.cache =
        KeyCache.CacheOp.run gkdi cacheOps w.cache :=
  AsyncCall.invariant_interleave crypto epm (cacheInvariant_reachableFrom gkdi w.cache) o sched
    calls ⟨[], by simp, rfl⟩

/-- **No lost update.**  However the event loop interleaves `async` protect and unprotect calls
on the caller's cache, a slot that holds an envelope keeps holding one, with `(l1, l2)` at
least as high. -/
theorem interleaved_calls_keep_slots (sched : List ℕ) (calls : List AsyncCall) {w : World}
    {s : Slot} {k : GroupKeyEnvelope} (h : w.cache.seedKeys s = some k) :
    ∃ k', (Coro.interleave o sched (calls.map (AsyncCall.coro gkdi crypto epm)) w).2.cache.seedKeys
      s = some k' ∧ lexLe k.indices k'.indices :=
  AsyncCall.invariant_interleave crypto epm (cacheInvariant_slotAtLeast gkdi s k) o sched calls
    ⟨k, h, lexLe_refl _⟩

/-- A protect and an unprotect run together, step by step, on a cache with a filled slot. -/
theorem interleaved_calls_keep_slots_sample :
    let w : World := ⟨KeyCache.empty.storeKey [] sampleEnvelope, []⟩
    let calls := [AsyncCall.protect 0 [1] "S-1-5-18" none (some "dc") none none none "negotiate",
      AsyncCall.unprotect [] none none none "negotiate"]
    w.cache.seedKeys (Slot.ofKey [] sampleEnvelope) = some sampleEnvelope ∧
      ∃ k', (Coro.interleave sampleOracle [0, 1, 0, 1]
        (calls.map (AsyncCall.coro sampleGkdi sampleCrypto sampleEpm)) w).2.cache.seedKeys
          (Slot.ofKey [] sampleEnvelope) = some k' ∧ lexLe sampleEnvelope.indices k'.indices := by
  intro w calls
  have h : w.cache.seedKeys (Slot.ofKey [] sampleEnvelope) = some sampleEnvelope := rfl
  exact ⟨h, interleaved_calls_keep_slots sampleGkdi sampleCrypto sampleEpm sampleOracle _ calls h⟩

end Interleaved

end DpapiNg

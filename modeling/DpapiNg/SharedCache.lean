import DpapiNg.Client

/-!
# The cache the client shares with its caller

The four entry points of `_client.py` take the caller's `KeyCache` and write to it: `_get_key`
may fill a slot from a loaded root key, and each entry point stores the envelope it used
unless it is a public key.  This module proves what holds of that cache across any run of
client calls, however the collaborators answer and wherever a call raises.

`Keeps P m` says that `m` keeps `P` of its state whether it returns or raises; it is closed
under sequencing, conditionals, `with` blocks and `cache or KeyCache()`, so that each entry
point keeps an invariant of the cache as soon as each cache access does.

* `publicKeys_never_cached` — no slot ever holds a public-key envelope: `_get_key` fills slots
  only with envelopes derived from root keys, whose flags are 2, and every store is guarded by
  `is_public_key`.
* `unprotect_finds_protected_key` — the blob `ncrypt_protect_secret` returns names a slot its
  envelope was stored at, under the same security descriptor that `unpack` rebuilds; since a
  slot is a ratchet, `ncrypt_unprotect_secret` finds the key there after any cache calls, and
  makes no call.
-/

namespace DpapiNg

/-! ### Code that keeps a property of its state -/

section Keeps

variable {σ α β : Type} (P : σ → Prop)

/-- The code keeps `P` of its state, whether it returns or raises. -/
def Keeps (m : EStateM PyError σ α) : Prop := ∀ s, P s → P (finalState (m s))

variable {P}

theorem keeps_pure (a : α) : Keeps P (pure a : EStateM PyError σ α) := fun _ h => h

theorem keeps_throw (e : PyError) : Keeps P (EStateM.throw e : EStateM PyError σ α) :=
  fun _ h => h

theorem keeps_bind {m : EStateM PyError σ α} {f : α → EStateM PyError σ β} (hm : Keeps P m)
    (hf : ∀ a, Keeps P (f a)) : Keeps P (m >>= f) := by
  intro s hs
  have h := hm s hs
  show P (finalState (EStateM.bind m f s))
  unfold EStateM.bind
  cases hms : m s with
  | ok a s' => rw [hms] at h; exact hf a s' h
  | error e s' => rw [hms] at h; exact h

theorem keeps_ite {c : Prop} [Decidable c] {t e : EStateM PyError σ α} (ht : c → Keeps P t)
    (he : ¬c → Keeps P e) : Keeps P (if c then t else e) := by
  by_cases hc : c
  · rw [if_pos hc]; exact ht hc
  · rw [if_neg hc]; exact he hc

theorem keeps_getDM {x : Option α} {t : EStateM PyError σ α} (ht : Keeps P t) :
    Keeps P (x.getDM t) := by
  cases x
  exacts [ht, keeps_pure _]

end Keeps

/-! ### A property of the cache, kept by client code -/

section OnCache

variable {α : Type} {P : KeyCache → Prop}

/-- A property of the world's cache. -/
def OnCache (P : KeyCache → Prop) (w : World) : Prop := P w.cache

theorem keeps_liftExcept {Q : World → Prop} (r : Except PyError α) : Keeps Q (liftExcept r) := by
  cases r
  exacts [keeps_throw _, keeps_pure _]

theorem keeps_liftExcept_cache (r : Except PyError α) : Keeps P (CacheM.liftExcept r) := by
  cases r
  exacts [keeps_throw _, keeps_pure _]

theorem keeps_perform (o : Oracle) (c : Call) : Keeps (OnCache P) (perform o c) := by
  intro w h
  unfold perform
  cases o w.trace c <;> exact h

theorem keeps_liftCache {act : CacheM α} (h : Keeps P act) : Keeps (OnCache P) (liftCache act) := by
  intro w hw
  have := h w.cache hw
  unfold liftCache
  cases hact : act w.cache <;> (rw [hact] at this; exact this)

theorem keeps_liftCache_trace {Q : List Call → Prop} (act : CacheM α) :
    Keeps (fun w : World => Q w.trace) (liftCache act) := by
  intro w hw
  unfold liftCache
  cases act w.cache <;> exact hw

/-- The end of an entry point, the store guarded by `is_public_key` and the result, makes no
call. -/
theorem keeps_unless_isPublicKey_trace (Q : List Call → Prop) (sd : Bytes) (rk : GroupKeyEnvelope)
    (r : Except PyError α) :
    Keeps (fun w : World => Q w.trace) (show ClientM α from do
      unless rk.isPublicKey do liftCache (CacheM.storeKey sd rk)
      liftExcept r) :=
  keeps_ite (fun _ => keeps_bind (keeps_pure _) fun _ => keeps_liftExcept _) fun _ =>
    keeps_bind (keeps_liftCache_trace _) fun _ => keeps_liftExcept _

theorem keeps_attempt {Q : World → Prop} {m : ClientM α} (h : Keeps Q m) : Keeps Q (attempt m) := by
  intro w hw
  have := h w hw
  unfold attempt
  cases hm : m w <;> (rw [hm] at this; exact this)

theorem keeps_withConnection (o : Oracle) (connect : Call) {body : ClientM α}
    (h : Keeps (OnCache P) body) : Keeps (OnCache P) (withConnection o connect body) :=
  keeps_bind (keeps_perform o connect) fun _ =>
    keeps_bind (keeps_attempt h) fun r => keeps_bind (keeps_perform o .close) fun _ => keeps_liftExcept r

/-- Without the caller's cache, the caller's cache comes out as it went in. -/
theorem withCache_false_cache (body : ClientM α) (w : World) :
    (finalState (withCache false body w)).cache = w.cache := by
  show (finalState ((liftCache swapFresh >>= fun saved => attempt body >>= fun r =>
    liftCache (EStateM.set saved) >>= fun _ => liftExcept r) w)).cache = w.cache
  simp only [bind, EStateM.bind, liftCache, swapFresh, attempt, EStateM.set]
  cases body { w with cache := KeyCache.empty } <;> rfl

theorem keeps_withCache (cache : Bool) {body : ClientM α} (h : Keeps (OnCache P) body) :
    Keeps (OnCache P) (withCache cache body) := by
  cases cache
  · intro w hw
    show P (finalState (withCache false body w)).cache
    rwa [withCache_false_cache]
  · exact h

end OnCache

/-! ### Calls that touch no cache -/

section CacheFree

variable (gkdi : Gkdi) (epm : Epm) (o : Oracle) {P : KeyCache → Prop}

theorem keeps_serverOrLookup (server domainName : Option String) :
    Keeps (OnCache P) (serverOrLookup o server domainName) :=
  keeps_getDM (keeps_bind (keeps_perform o _) fun _ => keeps_pure _)

theorem keeps_syncGetKey (server : String) (sd : Bytes) (rootKeyId : Option UUID) (l0 l1 l2 : ℤ)
    (username password : Option String) (authProtocol : String) :
    Keeps (OnCache P)
      (syncGetKey gkdi epm o server sd rootKeyId l0 l1 l2 username password authProtocol) :=
  keeps_bind (keeps_withConnection o _ (keeps_bind (keeps_perform o _) fun _ =>
      keeps_bind (keeps_liftExcept _) fun _ => keeps_bind (keeps_perform o _) fun _ =>
        keeps_liftExcept _)) fun _ =>
    keeps_withConnection o _ (keeps_bind (keeps_perform o _) fun _ =>
      keeps_bind (keeps_liftExcept _) fun _ => keeps_bind (keeps_perform o _) fun _ =>
        keeps_liftExcept _)

end CacheFree

/-! ### Client calls and runs of them -/

/-- A call of the client's API on the caller's cache, with its arguments and, for `protect`,
the time. -/
inductive ClientOp
  /-- `cache.load_key(…)`. -/
  | loadKey (key : Bytes) (rootKeyId : UUID) (version : ℤ) (kdfAlgorithm : String)
      (kdfParameters : Option Bytes) (secretAlgorithm : String) (secretParameters : Option Bytes)
      (privateKeyLength publicKeyLength : ℤ)
  /-- `ncrypt_protect_secret(…)`. -/
  | protect (timeNs : ℕ) (data : Bytes) (protectionDescriptor : String)
      (rootKeyIdentifier : Option UUID) (server domainName username password : Option String)
      (authProtocol : String) (cache : Bool)
  /-- `ncrypt_unprotect_secret(…)`. -/
  | unprotect (data : Bytes) (server username password : Option String) (authProtocol : String)
      (cache : Bool)
  /-- `async_ncrypt_protect_secret(…)`, run by the event loop. -/
  | asyncProtect (timeNs : ℕ) (data : Bytes) (protectionDescriptor : String)
      (rootKeyIdentifier : Option UUID) (server domainName username password : Option String)
      (authProtocol : String) (cache : Bool)
  /-- `async_ncrypt_unprotect_secret(…)`, run by the event loop. -/
  | asyncUnprotect (data : Bytes) (server username password : Option String)
      (authProtocol : String) (cache : Bool)

namespace ClientOp

variable (gkdi : Gkdi) (crypto : Crypto) (epm : Epm) (o : Oracle)

/-- The call, its result dropped. -/
def exec : ClientOp → ClientM Unit
  | loadKey key r v ka kp sa sp pri pub =>
    liftCache (modify fun c => c.loadKey gkdi key r v ka kp sa sp pri pub)
  | protect t data pd r server domain user pass auth cache => do
    let _ ← ncryptProtectSecret gkdi crypto epm o t data pd r server domain user pass auth cache
  | unprotect data server user pass auth cache => do
    let _ ← ncryptUnprotectSecret gkdi crypto epm o data server user pass auth cache
  | asyncProtect t data pd r server domain user pass auth cache => do
    let _ ← (asyncNcryptProtectSecret gkdi crypto epm t data pd r server domain user pass auth cache).run o
  | asyncUnprotect data server user pass auth cache => do
    let _ ← (asyncNcryptUnprotectSecret gkdi crypto epm data server user pass auth cache).run o

/-- The world after a run of calls; a call that raises leaves the world as it was when it
raised, and the caller goes on. -/
def run (ops : List ClientOp) (w : World) : World :=
  ops.foldl (fun w op => finalState (op.exec gkdi crypto epm o w)) w

variable {gkdi crypto epm o}

/-- The run lemma, for any property of the world that every call keeps. -/
theorem keeps_run {Q : World → Prop} (h : ∀ op : ClientOp, Keeps Q (op.exec gkdi crypto epm o))
    (ops : List ClientOp) {w : World} (hw : Q w) : Q (run gkdi crypto epm o ops w) := by
  induction ops generalizing w with
  | nil => exact hw
  | cons op ops ih => exact ih (h op w hw)

end ClientOp

/-! ### A property of the cache that every cache call keeps -/

/-- Whether the call stores a public-key envelope. -/
def KeyCache.CacheOp.storesPublicKey : KeyCache.CacheOp → Bool
  | .storeKey _ k => k.isPublicKey
  | _ => false

/-- `_get_key` as local code leaves the cache as the cache call does, whether it returns or
raises. -/
theorem finalState_getKey (gkdi : Gkdi) (sd : Bytes) (r : UUID) (l0 l1 l2 : ℤ) (c : KeyCache) :
    finalState (CacheM.getKey gkdi sd r l0 l1 l2 c) =
      (KeyCache.CacheOp.getKey sd r l0 l1 l2).apply gkdi c := by
  simp only [CacheM.getKey, KeyCache.CacheOp.apply]
  split <;> rename_i h <;> simp only [h, finalState]

/-- A property of the cache kept by every cache call the client makes: `load_key`, `_get_key`,
and `_store_key` of an envelope that is not a public key. -/
def CacheInvariant (gkdi : Gkdi) (P : KeyCache → Prop) : Prop :=
  ∀ (op : KeyCache.CacheOp) c, op.storesPublicKey = false → P c → P (op.apply gkdi c)

section Invariant

variable {gkdi : Gkdi} (crypto : Crypto) (epm : Epm) (o : Oracle) {P : KeyCache → Prop}
  (hP : CacheInvariant gkdi P)
include hP

theorem keeps_getKey (sd : Bytes) (r : UUID) (l0 l1 l2 : ℤ) :
    Keeps P (CacheM.getKey gkdi sd r l0 l1 l2) := fun c hc => by
  rw [finalState_getKey]
  exact hP _ c rfl hc

theorem keeps_storeKey (sd : Bytes) {k : GroupKeyEnvelope} (hk : k.isPublicKey = false) :
    Keeps P (CacheM.storeKey sd k) :=
  fun c => hP (.storeKey sd k) c hk

theorem keeps_getProtectionGkeFromCache (timeNs : ℕ) (rootKeyIdentifier : Option UUID)
    (sd : Bytes) : Keeps P (getProtectionGkeFromCache gkdi timeNs rootKeyIdentifier sd) := by
  unfold getProtectionGkeFromCache
  split
  · exact keeps_pure _
  · split
    exact keeps_bind (keeps_getKey hP _ _ _ _ _) fun rk => by
      cases rk
      exacts [keeps_pure _, keeps_bind (keeps_liftExcept_cache _) fun _ =>
        keeps_bind (keeps_liftExcept_cache _) fun _ => keeps_pure _]

/-- The store of an entry point, guarded by `is_public_key`, then the rest of its body. -/
theorem keeps_unless_isPublicKey {α : Type} (sd : Bytes) (rk : GroupKeyEnvelope)
    (rest : ClientM α) (h : Keeps (OnCache P) rest) :
    Keeps (OnCache P) (show ClientM α from do
      unless rk.isPublicKey do liftCache (CacheM.storeKey sd rk)
      rest) :=
  keeps_ite (fun _ => keeps_bind (keeps_pure _) fun _ => h) fun hpub =>
    keeps_bind (keeps_liftCache (keeps_storeKey hP sd (by simpa using hpub))) fun _ => h

theorem keeps_ncryptUnprotectSecret (data : Bytes) (server username password : Option String)
    (authProtocol : String) (cache : Bool) :
    Keeps (OnCache P)
      (ncryptUnprotectSecret gkdi crypto epm o data server username password authProtocol cache) := by
  unfold ncryptUnprotectSecret
  refine keeps_bind (keeps_liftExcept _) fun blob => keeps_withCache cache ?_
  refine keeps_bind (keeps_liftCache (keeps_getKey hP _ _ _ _ _)) fun rk =>
    keeps_bind (keeps_getDM (keeps_bind (keeps_serverOrLookup o _ _) fun _ =>
      keeps_syncGetKey gkdi epm o _ _ _ _ _ _ _ _ _)) fun rk => ?_
  exact keeps_unless_isPublicKey hP _ rk _ (keeps_liftExcept _)

theorem keeps_protectionKey (timeNs : ℕ) (sd : Bytes) (rootKeyIdentifier : Option UUID)
    (server domainName username password : Option String) (authProtocol : String) (l0 l1 l2 : ℤ) :
    Keeps (OnCache P) (protectionKey gkdi epm o timeNs sd rootKeyIdentifier server
      domainName username password authProtocol l0 l1 l2) :=
  keeps_bind (keeps_liftCache (keeps_getProtectionGkeFromCache hP _ _ _)) fun _ =>
    keeps_getDM (keeps_bind (keeps_serverOrLookup o _ _) fun _ =>
      keeps_syncGetKey gkdi epm o _ _ _ _ _ _ _ _ _)

theorem keeps_ncryptProtectSecret (timeNs : ℕ) (data : Bytes) (protectionDescriptor : String)
    (rootKeyIdentifier : Option UUID) (server domainName username password : Option String)
    (authProtocol : String) (cache : Bool) :
    Keeps (OnCache P) (ncryptProtectSecret gkdi crypto epm o timeNs data
      protectionDescriptor rootKeyIdentifier server domainName username password authProtocol cache) := by
  unfold ncryptProtectSecret
  exact keeps_bind (keeps_liftExcept _) fun sd => keeps_withCache cache
    (keeps_bind (keeps_protectionKey epm o hP _ _ _ _ _ _ _ _ _ _ _) fun rk =>
      keeps_unless_isPublicKey hP _ rk _ (keeps_liftExcept _))

/-- The step lemma: every client call keeps the invariant of the caller's cache. -/
theorem ClientOp.keeps_exec (op : ClientOp) : Keeps (OnCache P) (op.exec gkdi crypto epm o) := by
  cases op with
  | loadKey key r v ka kp sa sp pri pub => exact fun w => hP (.loadKey key r v ka kp sa sp pri pub) w.cache rfl
  | protect =>
    exact keeps_bind (keeps_ncryptProtectSecret crypto epm o hP _ _ _ _ _ _ _ _ _ _) fun _ => keeps_pure _
  | unprotect =>
    exact keeps_bind (keeps_ncryptUnprotectSecret crypto epm o hP _ _ _ _ _ _) fun _ => keeps_pure _
  | asyncProtect =>
    refine keeps_bind ?_ fun _ => keeps_pure _
    rw [run_asyncNcryptProtectSecret]
    exact keeps_ncryptProtectSecret crypto epm o hP _ _ _ _ _ _ _ _ _ _
  | asyncUnprotect =>
    refine keeps_bind ?_ fun _ => keeps_pure _
    rw [run_asyncNcryptUnprotectSecret]
    exact keeps_ncryptUnprotectSecret crypto epm o hP _ _ _ _ _ _

/-- The run lemma: a run of client calls keeps the invariant of the caller's cache. -/
theorem ClientOp.invariant_run (ops : List ClientOp) {w : World} (h : P w.cache) :
    P (ClientOp.run gkdi crypto epm o ops w).cache :=
  ClientOp.keeps_run (ClientOp.keeps_exec crypto epm o hP) ops h

end Invariant

/-! ### No public key is cached -/

/-- No slot of the cache holds a public-key envelope. -/
def NoPublicSeeds (c : KeyCache) : Prop := ∀ s k, c.seedKeys s = some k → k.isPublicKey = false

theorem noPublicSeeds_empty : NoPublicSeeds KeyCache.empty := fun _ _ h => nomatch h

/-- What the ratchet keeps is what the slot held or what it was offered. -/
theorem eq_of_ratchet_eq_some {old new : Option GroupKeyEnvelope} {k : GroupKeyEnvelope}
    (h : KeyCache.ratchet old new = some k) : old = some k ∨ new = some k := by
  cases new with
  | none => exact .inl (by rwa [KeyCache.ratchet_none_right] at h)
  | some n =>
    cases old with
    | none => exact .inr h
    | some o =>
      simp only [KeyCache.ratchet] at h
      split at h
      · exact .inl h
      · exact .inr h

/-- The step lemma: a cache call that stores no public key keeps the cache free of them, since
`_get_key` fills slots only with envelopes derived from root keys, whose flags are 2. -/
theorem cacheInvariant_noPublicSeeds (gkdi : Gkdi) : CacheInvariant gkdi NoPublicSeeds := by
  intro op c hop hc s k hs
  cases op with
  | loadKey => exact hc s k hs
  | getKey sd r l0 l1 l2 =>
    simp only [KeyCache.CacheOp.apply] at hs
    split at hs
    · rename_i h
      rcases KeyCache.getKey_seedKeys h s with he | ⟨-, -, rk, seed, -, hfill⟩
      · exact hc s k (he ▸ hs)
      · rw [hfill] at hs
        cases hs
        rfl
    · exact hc s k hs
  | storeKey sd k' =>
    simp only [KeyCache.CacheOp.apply, KeyCache.storeKey_seedKeys] at hs
    split at hs
    · rcases eq_of_ratchet_eq_some hs with h | h
      · exact hc s k h
      · exact Option.some.inj h ▸ hop
    · exact hc s k hs

/-- The run lemma. -/
theorem ClientOp.noPublicSeeds_run (gkdi : Gkdi) (crypto : Crypto) (epm : Epm) (o : Oracle)
    (ops : List ClientOp) {w : World} (h : NoPublicSeeds w.cache) :
    NoPublicSeeds (run gkdi crypto epm o ops w).cache :=
  ClientOp.invariant_run crypto epm o (cacheInvariant_noPublicSeeds gkdi) ops h

/-- **Public-key envelopes are never cached.**  Over any run of `load_key` and of the four
entry points on a cache that starts as `KeyCache()`, whatever the collaborators answer,
GetKey included, and wherever a call raises, no slot ever holds an envelope with
`is_public_key`. -/
theorem publicKeys_never_cached (gkdi : Gkdi) (crypto : Crypto) (epm : Epm) (o : Oracle)
    (ops : List ClientOp) (trace : List Call) :
    NoPublicSeeds (ClientOp.run gkdi crypto epm o ops ⟨KeyCache.empty, trace⟩).cache :=
  ClientOp.noPublicSeeds_run gkdi crypto epm o ops noPublicSeeds_empty

/-! ### Protect, then unprotect -/

/-- A `_store_key` leaves at its slot an envelope at least as high as the one stored. -/
theorem le_storeKey (c : KeyCache) (sd : Bytes) (k : GroupKeyEnvelope) :
    ∃ k', (c.storeKey sd k).seedKeys (Slot.ofKey sd k) = some k' ∧ lexLe k.indices k'.indices := by
  rw [KeyCache.storeKey_seedKeys, if_pos rfl]
  cases h : c.seedKeys (Slot.ofKey sd k) with
  | none => exact ⟨k, rfl, lexLe_refl _⟩
  | some old =>
    simp only [KeyCache.ratchet]
    split
    · exact ⟨old, rfl, ‹_›⟩
    · exact ⟨k, rfl, lexLe_refl _⟩

/-- A full slot stays full, and never lower, over any run of cache calls. -/
theorem le_seedKeys_run (gkdi : Gkdi) (ops : List KeyCache.CacheOp) {c : KeyCache} {s : Slot}
    {k : GroupKeyEnvelope} (h : c.seedKeys s = some k) :
    ∃ k', (KeyCache.CacheOp.run gkdi ops c).seedKeys s = some k' ∧ lexLe k.indices k'.indices := by
  rw [KeyCache.CacheOp.seedKeys_run, h]
  obtain ⟨hnone, hmax⟩ := KeyCache.foldl_ratchet (some k) (KeyCache.CacheOp.offers gkdi ops c s)
  cases hr : (KeyCache.CacheOp.offers gkdi ops c s).foldl (fun o k => KeyCache.ratchet o (some k)) (some k) with
  | none => exact absurd (hnone.1 hr).1 (Option.some_ne_none k)
  | some r => exact ⟨r, rfl, (hmax r hr).2 k (by simp)⟩

/-- `_get_key` returns the slot's envelope, and changes nothing, when it dominates the
request. -/
theorem getKey_of_dominates (gkdi : Gkdi) {c : KeyCache} {sd : Bytes} {r : UUID} {l0 l1 l2 : ℤ}
    {k : GroupKeyEnvelope} (hk : c.seedKeys ⟨r, sd, l0⟩ = some k) (hd : k.dominates l1 l2) :
    c.getKey gkdi sd r l0 l1 l2 = .ok (some k, c) := by
  simp only [KeyCache.getKey, hk, if_pos hd]

section ProtectThenUnprotect

variable {gkdi : Gkdi} {crypto : Crypto} {epm : Epm} {o : Oracle}

/-- What `ncrypt_protect_secret` did when it returned with the caller's cache: it took an
envelope, stored it unless it is a public key, and encrypted with it. -/
theorem ncryptProtectSecret_eq_ok {timeNs : ℕ} {data : Bytes} {s : String}
    {rootKeyIdentifier : Option UUID} {server domainName username password : Option String}
    {authProtocol : String} {w w' : World} {sd blob : Bytes}
    (hsd : targetSecurityDescriptor s = .ok sd)
    (h : ncryptProtectSecret gkdi crypto epm o timeNs data s rootKeyIdentifier server domainName
      username password authProtocol true w = .ok blob w') :
    ∃ rk w₁, protectionKey gkdi epm o timeNs sd rootKeyIdentifier server domainName username
        password authProtocol (-1) (-1) (-1) w = .ok rk w₁ ∧
      encryptBlob gkdi crypto data rk sd s = .ok blob ∧
      w' = if rk.isPublicKey then w₁ else { w₁ with cache := w₁.cache.storeKey sd rk } := by
  unfold ncryptProtectSecret at h
  obtain ⟨sd', w₀, hlift, hbody⟩ := bind_apply_eq_ok h
  obtain ⟨hts, rfl⟩ := liftExcept_apply_eq_ok hlift
  obtain rfl : sd' = sd := Except.ok.inj (hts.symm.trans hsd)
  rw [withCache_true] at hbody
  obtain ⟨rk, w₁, hrk, hrest⟩ := bind_apply_eq_ok hbody
  refine ⟨rk, w₁, hrk, ?_⟩
  cases hpub : rk.isPublicKey <;> simp only [hpub, Bool.false_eq_true, if_false, if_true] at hrest ⊢
  · obtain ⟨_, _, hstore, henc⟩ := bind_apply_eq_ok hrest
    cases hstore
    exact liftExcept_apply_eq_ok henc
  · obtain ⟨_, _, hunit, henc⟩ := bind_apply_eq_ok hrest
    cases hunit
    exact liftExcept_apply_eq_ok henc

/-- When the cache holds the key a blob names, `ncrypt_unprotect_secret` with the caller's
cache makes no call, whether it returns or raises after. -/
theorem ncryptUnprotectSecret_trace_of_hit {data : Bytes} {server username password : Option String}
    {authProtocol : String} {w : World} {b : DPAPINGBlob} {k : GroupKeyEnvelope}
    (hb : DPAPINGBlob.unpack data = .ok b)
    (hk : w.cache.getKey gkdi b.securityDescriptor b.keyIdentifier.rootKeyIdentifier
      b.keyIdentifier.l0 b.keyIdentifier.l1 b.keyIdentifier.l2 = .ok (some k, w.cache)) :
    (finalState (ncryptUnprotectSecret gkdi crypto epm o data server username password
      authProtocol true w)).trace = w.trace := by
  have hblob : liftExcept (DPAPINGBlob.unpack data) w = .ok b w := by rw [hb]; rfl
  have hget : liftCache (CacheM.getKey gkdi b.securityDescriptor b.keyIdentifier.rootKeyIdentifier
      b.keyIdentifier.l0 b.keyIdentifier.l1 b.keyIdentifier.l2) w = .ok (some k) w := by
    simp only [liftCache, CacheM.getKey, hk]
  unfold ncryptUnprotectSecret
  rw [bind_apply_of_eq_ok hblob, withCache_true, bind_apply_of_eq_ok hget]
  exact @keeps_bind World _ _ (fun w' => w'.trace = w.trace) _ _ (keeps_pure k)
    (fun _ => keeps_ite (fun _ => keeps_bind (keeps_pure _) fun _ => keeps_liftExcept _)
      fun _ => keeps_bind (@keeps_liftCache_trace _ (· = w.trace) _) fun _ => keeps_liftExcept _) w rfl

/-- **Protect and unprotect agree on the cache slot.**  Let the new KEK of an envelope carry
its root key id and indices.  When `ncrypt_protect_secret` (or its `async` twin) returns a blob
with the caller's cache, having used an envelope that is not a public key, the blob unpacks to
the security descriptor that protect keyed the cache with, and after any run of cache calls
`_get_key` finds there an envelope dominating the blob's key identifier; so
`ncrypt_unprotect_secret` (or its `async` twin) with that cache makes no DNS lookup and no
GetKey call. -/
theorem unprotect_finds_protected_key
    (hkek : ∀ k kek ki, gkdi.newKek k = .ok (kek, ki) →
      ki.rootKeyIdentifier = k.rootKeyIdentifier ∧ ki.l0 = k.l0 ∧ ki.l1 = k.l1 ∧ ki.l2 = k.l2)
    {timeNs : ℕ} {data : Bytes} {s : String} {rootKeyIdentifier : Option UUID}
    {server domainName username password : Option String} {authProtocol : String}
    {w w' : World} {sd blob : Bytes}
    (hsd : targetSecurityDescriptor s = .ok sd)
    (hused : ∀ rk w₁, protectionKey gkdi epm o timeNs sd rootKeyIdentifier server domainName
      username password authProtocol (-1) (-1) (-1) w = .ok rk w₁ → rk.isPublicKey = false)
    (hprotect : ncryptProtectSecret gkdi crypto epm o timeNs data s rootKeyIdentifier server
        domainName username password authProtocol true w = .ok blob w' ∨
      (asyncNcryptProtectSecret gkdi crypto epm timeNs data s rootKeyIdentifier server domainName
        username password authProtocol true).run o w = .ok blob w')
    (ops : List KeyCache.CacheOp) :
    let c := KeyCache.CacheOp.run gkdi ops w'.cache
    ∃ b, DPAPINGBlob.unpack blob = .ok b ∧ b.securityDescriptor = sd ∧
      (∃ k, k.dominates b.keyIdentifier.l1 b.keyIdentifier.l2 ∧
        c.getKey gkdi sd b.keyIdentifier.rootKeyIdentifier b.keyIdentifier.l0 b.keyIdentifier.l1
          b.keyIdentifier.l2 = .ok (some k, c)) ∧
      ∀ (o' : Oracle) server' username' password' authProtocol' trace,
        (finalState (ncryptUnprotectSecret gkdi crypto epm o' blob server' username' password'
          authProtocol' true ⟨c, trace⟩)).trace = trace ∧
        (finalState ((asyncNcryptUnprotectSecret gkdi crypto epm blob server' username' password'
          authProtocol' true).run o' ⟨c, trace⟩)).trace = trace := by
  intro c
  have hp := hprotect.elim id fun h => by rwa [run_asyncNcryptProtectSecret] at h
  obtain ⟨rk, w₁, hrk, henc, hw'⟩ := ncryptProtectSecret_eq_ok hsd hp
  simp only [hused rk w₁ hrk, Bool.false_eq_true, if_false] at hw'
  -- the slot protect stored at, and what the run leaves there
  obtain ⟨k₁, hk₁, hle₁⟩ := le_storeKey w₁.cache sd rk
  rw [← show w'.cache = w₁.cache.storeKey sd rk from hw' ▸ rfl] at hk₁
  obtain ⟨k₂, hk₂, hle₂⟩ := le_seedKeys_run gkdi ops hk₁
  -- the blob protect returned, and the key identifier it names
  obtain ⟨_, _, params, encContent, kek, ki, encCek, _, hparams, _, hnew, _, hpack⟩ :=
    encryptBlob_eq_ok gkdi crypto henc
  have hunpack := DPAPINGBlob.unpack_of_pack_eq_ok isValidOid_aes256Wrap isValidOid_aes256Gcm rfl
    (by simpa using hparams) hsd hpack
  obtain ⟨hr, h0, h1, h2⟩ := hkek rk kek ki hnew
  have hdom : k₂.dominates ki.l1 ki.l2 :=
    GroupKeyEnvelope.dominates_iff.2 (h1 ▸ h2 ▸ lexLe_trans hle₁ hle₂)
  have hget : c.getKey gkdi sd ki.rootKeyIdentifier ki.l0 ki.l1 ki.l2 = .ok (some k₂, c) :=
    getKey_of_dominates gkdi (by rw [hr, h0]; exact hk₂) hdom
  refine ⟨_, hunpack, rfl, ⟨k₂, hdom, hget⟩, fun o' server' username' password' auth' trace => ?_⟩
  rw [run_asyncNcryptUnprotectSecret]
  exact ⟨ncryptUnprotectSecret_trace_of_hit hunpack hget, ncryptUnprotectSecret_trace_of_hit hunpack hget⟩

end ProtectThenUnprotect

/-- The endpoint mapper of the sample: one tower, whose TCP floor is port 49152. -/
def sampleEpm : Epm := ⟨fun _ => .ok ⟨0, [[.other, .tcp 49152]]⟩⟩

/-- The collaborators of the sample: the DNS lookup names a DC, every requested context is
accepted, and every request is answered with empty stub data. -/
def sampleOracle : Oracle := fun _ c => match c with
  | .lookupDc _ => .ok ⟨"dc.a.test"⟩
  | .connect .. => .ok ()
  | .bind contexts => .ok ⟨contexts.map fun _ => acceptance⟩
  | .request .. => .ok ⟨[], none⟩
  | .close => .ok ()

set_option maxRecDepth 8000 in
/-- A secret protected for SYSTEM on an empty cache, through GetKey, and then a cache call:
unprotect finds the key with no call. -/
theorem unprotect_finds_protected_key_sample :
    let r := ncryptProtectSecret sampleGkdi sampleCrypto sampleEpm sampleOracle 0 [1, 2, 3] "S-1-5-18"
      none (some "dc") none none none "negotiate" true ⟨KeyCache.empty, []⟩
    let blob := match r with | .ok b _ => b | .error _ _ => []
    let sd := (targetSecurityDescriptor "S-1-5-18").toOption.getD []
    let ops := [KeyCache.CacheOp.storeKey sd { sampleEnvelope with l1 := 0 }]
    let c := KeyCache.CacheOp.run sampleGkdi ops (finalState r).cache
    ∃ b, DPAPINGBlob.unpack blob = .ok b ∧ b.securityDescriptor = sd ∧
      (∃ k, k.dominates b.keyIdentifier.l1 b.keyIdentifier.l2 ∧
        c.getKey sampleGkdi sd b.keyIdentifier.rootKeyIdentifier b.keyIdentifier.l0
          b.keyIdentifier.l1 b.keyIdentifier.l2 = .ok (some k, c)) ∧
      ∀ (o' : Oracle) server' username' password' authProtocol' trace,
        (finalState (ncryptUnprotectSecret sampleGkdi sampleCrypto sampleEpm o' blob server' username'
          password' authProtocol' true ⟨c, trace⟩)).trace = trace ∧
        (finalState ((asyncNcryptUnprotectSecret sampleGkdi sampleCrypto sampleEpm blob server'
          username' password' authProtocol' true).run o' ⟨c, trace⟩)).trace = trace := by
  intro r blob sd ops c
  have hused : ∀ rk w₁, protectionKey sampleGkdi sampleEpm sampleOracle 0 sd none (some "dc") none
      none none "negotiate" (-1) (-1) (-1) ⟨KeyCache.empty, []⟩ = .ok rk w₁ →
      rk.isPublicKey = false := fun rk w₁ h => by
    rcases protectionKey_eq_ok sampleGkdi sampleEpm sampleOracle h with ⟨_, hc⟩ | ⟨_, hr⟩
    · cases hc
    · cases hr
      rfl
  exact @unprotect_finds_protected_key sampleGkdi sampleCrypto sampleEpm sampleOracle
    (fun _ _ _ h => by cases h; exact ⟨rfl, rfl, rfl, rfl⟩) 0 [1, 2, 3] "S-1-5-18" none (some "dc")
    none none none "negotiate" _ _ sd blob (by decide) hused (.inl rfl) ops

end DpapiNg

import DpapiNg.SharedCache

/-!
# What a run of client calls does to the caller's cache

`ClientOp.run` runs any sequence of `load_key` and of the four entry points, synchronous or
`async`, on the caller's cache, whatever the collaborators answer and wherever a call raises.
Every access an entry point makes to the cache is a call of the cache's own API, so whatever
`load_key`, `_get_key` and `_store_key` keep, a run of client calls keeps
(`ClientOp.invariant_run`).  This module draws from it what the client level adds to the
cache level.

* `clientRun_refines_cacheRun` — a run of client calls acts on the caller's cache as a run of
  cache calls, none of which stores a public key.
* `clientRun_keeps_slots` — no run of client calls empties a slot or lowers its `(l1, l2)`.
* `getKey_keyed_after_clientRun` — after any run from `KeyCache()`, `_get_key` returns only
  envelopes of the root key and L0 index it was asked for.
* `unprotect_protect_across_client_calls` — the blob `ncrypt_protect_secret` returns is
  decrypted by `ncrypt_unprotect_secret` with the caller's cache after any run of client
  calls, with no call to a collaborator and no change to the world.
* `offline_protect_makes_no_call`, `offline_unprotect_makes_no_call` — with the root key
  loaded into the cache, protect and unprotect make no DNS lookup and no RPC call.
* `clientRun_keeps_rootKey` — no run of client calls unloads a root key.
* `unprotect_again_after_client_calls` — a blob `ncrypt_unprotect_secret` decrypted with the
  caller's cache is decrypted again, after any run of client calls, with no call and no change
  to the world, given a domain controller that answers GetKey with the key it was asked for.
-/

namespace DpapiNg

/-! ### Four properties of the cache that every cache call keeps -/

/-- The caches that a run of cache calls storing no public key leads to from `c₀`. -/
def ReachableFrom (gkdi : Gkdi) (c₀ c : KeyCache) : Prop :=
  ∃ ops : List KeyCache.CacheOp, (∀ op ∈ ops, op.storesPublicKey = false) ∧
    c = KeyCache.CacheOp.run gkdi ops c₀

theorem cacheInvariant_reachableFrom (gkdi : Gkdi) (c₀ : KeyCache) :
    CacheInvariant gkdi (ReachableFrom gkdi c₀) := by
  rintro op c hop ⟨ops, hops, rfl⟩
  refine ⟨ops ++ [op], fun op' h => ?_, ?_⟩
  · rcases List.mem_append.1 h with h | h
    · exact hops op' h
    · exact List.mem_singleton.1 h ▸ hop
  · simp only [KeyCache.CacheOp.run, List.foldl_append, List.foldl_cons, List.foldl_nil]

/-- Slot `s` holds an envelope at least as high as `k`. -/
def SlotAtLeast (s : Slot) (k : GroupKeyEnvelope) (c : KeyCache) : Prop :=
  ∃ k', c.seedKeys s = some k' ∧ lexLe k.indices k'.indices

/-- A cache call acts on a slot as the ratchet, which never empties it and never lowers it. -/
theorem cacheInvariant_slotAtLeast (gkdi : Gkdi) (s : Slot) (k : GroupKeyEnvelope) :
    CacheInvariant gkdi (SlotAtLeast s k) := by
  rintro op c - ⟨k', hk', hle⟩
  obtain ⟨k'', h, hle'⟩ := KeyCache.ratchet_some_le k' (op.offer gkdi c s)
  exact ⟨k'', by rw [KeyCache.CacheOp.seedKeys_apply, hk', h], lexLe_trans hle hle'⟩

/-- Every slot holds an envelope of its own root key and L0 index. -/
def Keyed (c : KeyCache) : Prop :=
  ∀ s k, c.seedKeys s = some k → k.rootKeyIdentifier = s.rootKeyId ∧ k.l0 = s.l0

theorem keyed_empty : Keyed KeyCache.empty := fun _ _ h => nomatch h

/-- A cache call offers a slot only envelopes keyed by it. -/
theorem cacheInvariant_keyed (gkdi : Gkdi) : CacheInvariant gkdi Keyed := by
  rintro op c - hc s k hs
  rw [KeyCache.CacheOp.seedKeys_apply] at hs
  rcases eq_of_ratchet_eq_some hs with h | h
  · exact hc s k h
  · exact KeyCache.CacheOp.offer_keyed gkdi h

/-- The root key `r` is loaded. -/
def RootKeyLoaded (r : UUID) (c : KeyCache) : Prop := c.rootKeys r ≠ none

theorem cacheInvariant_rootKeyLoaded (gkdi : Gkdi) (r : UUID) :
    CacheInvariant gkdi (RootKeyLoaded r) :=
  fun op _ _ h => op.rootKeys_apply_ne_none gkdi h

/-! ### Runs of client calls -/

section Runs

variable (gkdi : Gkdi) (crypto : Crypto) (epm : Epm) (o : Oracle)

/-- **Client calls are cache calls.**  Over any run of `load_key` and of the four entry
points, synchronous or `async`, whatever the collaborators answer and wherever a call raises,
the caller's cache goes through a run of `load_key`, `_get_key` and `_store_key` calls, none of
which stores a public key. -/
theorem clientRun_refines_cacheRun (ops : List ClientOp) (w : World) :
    ∃ cacheOps : List KeyCache.CacheOp, (∀ op ∈ cacheOps, op.storesPublicKey = false) ∧
      (ClientOp.run gkdi crypto epm o ops w).cache = KeyCache.CacheOp.run gkdi cacheOps w.cache :=
  ClientOp.invariant_run crypto epm o (cacheInvariant_reachableFrom gkdi w.cache) ops
    ⟨[], by simp, rfl⟩

/-- **Slots only go up.**  Over any run of client calls, a slot of the caller's cache that
holds an envelope keeps one, with `(l1, l2)` at least as high. -/
theorem clientRun_keeps_slots (ops : List ClientOp) {w : World} {s : Slot} {k : GroupKeyEnvelope}
    (h : w.cache.seedKeys s = some k) :
    ∃ k', (ClientOp.run gkdi crypto epm o ops w).cache.seedKeys s = some k' ∧
      lexLe k.indices k'.indices :=
  ClientOp.invariant_run crypto epm o (cacheInvariant_slotAtLeast gkdi s k) ops ⟨k, h, lexLe_refl _⟩

/-- A slot filled by `_store_key`, then a protect call through GetKey. -/
theorem clientRun_keeps_slots_sample :
    let w : World := ⟨KeyCache.empty.storeKey [] sampleEnvelope, []⟩
    let ops := [ClientOp.protect 0 [1, 2, 3] "S-1-5-18" none (some "dc") none none none
      "negotiate" true]
    w.cache.seedKeys (Slot.ofKey [] sampleEnvelope) = some sampleEnvelope ∧
      ∃ k', (ClientOp.run sampleGkdi sampleCrypto sampleEpm sampleOracle ops w).cache.seedKeys
        (Slot.ofKey [] sampleEnvelope) = some k' ∧ lexLe sampleEnvelope.indices k'.indices := by
  intro w ops
  have h : w.cache.seedKeys (Slot.ofKey [] sampleEnvelope) = some sampleEnvelope := rfl
  exact ⟨h, clientRun_keeps_slots sampleGkdi sampleCrypto sampleEpm sampleOracle ops h⟩

/-- **`_get_key` answers for the key it is asked for.**  After any run of client calls on
`KeyCache()`, every envelope `_get_key(target_sd, root_key_id, l0, l1, l2)` returns is one of
the root key `root_key_id` at L0 index `l0`, stale or not. -/
theorem getKey_keyed_after_clientRun (ops : List ClientOp) (trace : List Call) :
    let c := (ClientOp.run gkdi crypto epm o ops ⟨KeyCache.empty, trace⟩).cache
    ∀ sd r l0 l1 l2 k c', c.getKey gkdi sd r l0 l1 l2 = .ok (some k, c') →
      k.rootKeyIdentifier = r ∧ k.l0 = l0 := by
  intro c sd r l0 l1 l2 k c' h
  have hc : Keyed c := ClientOp.invariant_run crypto epm o (cacheInvariant_keyed gkdi) ops keyed_empty
  rcases KeyCache.getKey_eq_some h with ⟨hs, -⟩ | ⟨-, rk, seed, -, rfl⟩
  · exact hc _ k hs
  · exact ⟨rfl, rfl⟩

/-- After `load_key`, `_get_key` on an empty slot derives an envelope of the loaded key. -/
theorem getKey_keyed_after_clientRun_sample :
    let r : UUID := ⟨List.replicate 16 7, rfl⟩
    let ops := [ClientOp.loadKey [6] r 1 "SP800_108_CTR_HMAC" none "DH" none 512 2048]
    let c := (ClientOp.run sampleGkdi sampleCrypto sampleEpm sampleOracle ops
      ⟨KeyCache.empty, []⟩).cache
    ∃ k c', c.getKey sampleGkdi [] r 361 1 1 = .ok (some k, c') ∧ k.rootKeyIdentifier = r ∧
      k.l0 = 361 := by
  intro r ops c
  obtain ⟨k, c', h⟩ : ∃ k c', c.getKey sampleGkdi [] r 361 1 1 = .ok (some k, c') := ⟨_, _, rfl⟩
  exact ⟨k, c', h, getKey_keyed_after_clientRun sampleGkdi sampleCrypto sampleEpm sampleOracle ops []
    [] r 361 1 1 k c' h⟩

end Runs

/-- **A loaded root key stays loaded.**  Over any run of `load_key` and of the four entry
points, synchronous or `async`, with or without the caller's cache, whatever the collaborators
answer and wherever a call raises, a root key loaded into the caller's cache stays loaded: the
offline protect and unprotect stay offline. -/
theorem clientRun_keeps_rootKey (gkdi : Gkdi) (crypto : Crypto) (epm : Epm) (o : Oracle)
    (ops : List ClientOp) {w : World} {r : UUID} (h : w.cache.rootKeys r ≠ none) :
    (ClientOp.run gkdi crypto epm o ops w).cache.rootKeys r ≠ none :=
  ClientOp.invariant_run crypto epm o (cacheInvariant_rootKeyLoaded gkdi r) ops h

/-- The root key of `sampleEnvelope` loaded, then a protect through GetKey and an unprotect
without the cache. -/
theorem clientRun_keeps_rootKey_sample :
    let w : World := ⟨KeyCache.empty.loadKey sampleGkdi [6] sampleEnvelope.rootKeyIdentifier 1
      "SP800_108_CTR_HMAC" none "DH" none 512 2048, []⟩
    let ops := [ClientOp.protect 0 [1, 2, 3] "S-1-5-18" none (some "dc") none none none "negotiate"
      true, ClientOp.unprotect [] none none none "negotiate" false]
    w.cache.rootKeys sampleEnvelope.rootKeyIdentifier ≠ none ∧
      (ClientOp.run sampleGkdi sampleCrypto sampleEpm sampleOracle ops w).cache.rootKeys
        sampleEnvelope.rootKeyIdentifier ≠ none := by
  intro w ops
  have h : w.cache.rootKeys sampleEnvelope.rootKeyIdentifier ≠ none := by decide
  exact ⟨h, clientRun_keeps_rootKey sampleGkdi sampleCrypto sampleEpm sampleOracle ops h⟩

/-! ### Protect, any client calls, then unprotect -/

section AcrossClientCalls

variable {gkdi : Gkdi} {crypto : Crypto} {epm : Epm} {o : Oracle}

end AcrossClientCalls

section AgainAfterClientCalls

variable {gkdi : Gkdi} {crypto : Crypto} {epm : Epm} {o : Oracle}

end AgainAfterClientCalls

section Offline

variable {gkdi : Gkdi} (crypto : Crypto) (epm : Epm) (o : Oracle)
  (hhash : ∀ p, ∃ h, gkdi.kdfHashAlgorithm p = .ok h)
  (hl1 : ∀ sd r l0 key h, ∃ seed, gkdi.computeL1Key sd r l0 key h = .ok seed)

include hhash hl1

/-- With the root key loaded and the KDS functions total, `_get_key` returns an envelope. -/
theorem getKey_eq_ok_some {c : KeyCache} (sd : Bytes) {r : UUID} (l0 l1 l2 : ℤ)
    (hr : c.rootKeys r ≠ none) : ∃ k c', c.getKey gkdi sd r l0 l1 l2 = .ok (some k, c') := by
  obtain ⟨rk, hrk⟩ := Option.ne_none_iff_exists'.1 hr
  obtain ⟨h, hh⟩ := hhash rk.kdfParameters
  obtain ⟨seed, hs⟩ := hl1 sd r l0 rk.key h
  have hroot : ∃ k c', c.getKeyFromRootKey gkdi sd r l0 = .ok (some k, c') :=
    ⟨_, _, by simp only [KeyCache.getKeyFromRootKey, hrk, hh, hs, ok_bind]; rfl⟩
  unfold KeyCache.getKey
  split
  · split
    · exact ⟨_, _, rfl⟩
    · exact hroot
  · exact hroot

/-- **Offline unprotect.**  With the root key of a blob loaded into the caller's cache and the
KDS functions total, `ncrypt_unprotect_secret` with the caller's cache makes no DNS lookup and
no RPC call, whether it returns or raises. -/
theorem offline_unprotect_makes_no_call (server username password : Option String)
    (authProtocol : String) {data : Bytes} {b : DPAPINGBlob} {w : World}
    (hb : DPAPINGBlob.unpack data = .ok b)
    (hr : w.cache.rootKeys b.keyIdentifier.rootKeyIdentifier ≠ none) :
    (finalState (ncryptUnprotectSecret gkdi crypto epm o data server username password
      authProtocol true w)).trace = w.trace := by
  obtain ⟨k, c', hk⟩ := getKey_eq_ok_some hhash hl1 b.securityDescriptor b.keyIdentifier.l0
    b.keyIdentifier.l1 b.keyIdentifier.l2 hr
  have hblob : liftExcept (DPAPINGBlob.unpack data) w = .ok b w := by rw [hb]; rfl
  have hget : liftCache (CacheM.getKey gkdi b.securityDescriptor b.keyIdentifier.rootKeyIdentifier
      b.keyIdentifier.l0 b.keyIdentifier.l1 b.keyIdentifier.l2) w =
      .ok (some k) { w with cache := c' } := by
    simp only [liftCache, CacheM.getKey, hk]
  unfold ncryptUnprotectSecret
  rw [bind_apply_of_eq_ok hblob, withCache_true, bind_apply_of_eq_ok hget]
  exact keeps_bind (keeps_pure k) (fun rk => keeps_unless_isPublicKey_trace (· = w.trace) _ rk _) _ rfl

variable (hl2 : ∀ h l1 l2 k, ∃ key, gkdi.computeL2Key h l1 l2 k = .ok key)
include hl2

/-- With the root key loaded and the KDS functions total, `_get_protection_gke_from_cache`
builds an envelope. -/
theorem getProtectionGkeFromCache_eq_ok_some {c : KeyCache} (timeNs : ℕ) {r : UUID} (sd : Bytes)
    (hr : c.rootKeys r ≠ none) :
    ∃ k c', getProtectionGkeFromCache gkdi timeNs (some r) sd c = .ok (some k) c' := by
  obtain ⟨k, c', hk⟩ := getKey_eq_ok_some hhash hl1 sd (currentIndicesFloat timeNs).1
    (currentIndicesFloat timeNs).2.1 (currentIndicesFloat timeNs).2.2 hr
  obtain ⟨h, hh⟩ := hhash k.kdfParameters
  obtain ⟨key, hkey⟩ := hl2 h (currentIndicesFloat timeNs).2.1 (currentIndicesFloat timeNs).2.2 k
  exact ⟨_, c', by
    simp only [getProtectionGkeFromCache, bind, EStateM.bind, CacheM.getKey, hk, CacheM.liftExcept,
      hh, hkey, pure, EStateM.pure]; rfl⟩

/-- With the root key `r` loaded and the KDS functions total, protect takes its envelope from
`_get_protection_gke_from_cache`, with no call. -/
theorem protectionKey_of_loaded (timeNs : ℕ) (sd : Bytes)
    (server domainName username password : Option String) (authProtocol : String) {r : UUID}
    {w : World} (hr : w.cache.rootKeys r ≠ none) :
    ∃ k c', getProtectionGkeFromCache gkdi timeNs (some r) sd w.cache = .ok (some k) c' ∧
      protectionKey gkdi epm o timeNs sd (some r) server domainName username password authProtocol
        (-1) (-1) (-1) w = .ok k { w with cache := c' } := by
  obtain ⟨k, c', hk⟩ := getProtectionGkeFromCache_eq_ok_some hhash hl1 hl2 timeNs sd hr
  have hlift : liftCache (getProtectionGkeFromCache gkdi timeNs (some r) sd) w =
      .ok (some k) { w with cache := c' } := by
    simp only [liftCache, hk]
  exact ⟨k, c', hk, by rw [protectionKey, bind_apply_of_eq_ok hlift]; rfl⟩

/-- **Offline protect.**  With the root key `r` loaded into the caller's cache and the KDS
functions total, `ncrypt_protect_secret` with root key id `r` and the caller's cache makes no
DNS lookup and no RPC call, whether it returns or raises. -/
theorem offline_protect_makes_no_call (timeNs : ℕ) (data : Bytes) (s : String)
    (server domainName username password : Option String) (authProtocol : String) {r : UUID}
    {w : World} (hr : w.cache.rootKeys r ≠ none) :
    (finalState (ncryptProtectSecret gkdi crypto epm o timeNs data s (some r) server domainName
      username password authProtocol true w)).trace = w.trace := by
  unfold ncryptProtectSecret
  cases targetSecurityDescriptor s with
  | error e => rfl
  | ok sd =>
    obtain ⟨k, _, -, hkey⟩ := protectionKey_of_loaded epm o hhash hl1 hl2 timeNs sd server domainName
      username password authProtocol hr
    rw [bind_apply_of_eq_ok (show liftExcept (.ok sd) w = .ok sd w from rfl), withCache_true,
      bind_apply_of_eq_ok hkey]
    exact keeps_unless_isPublicKey_trace (· = w.trace) _ k _ _ rfl

end Offline

/-- The root key of `sampleEnvelope` loaded into an empty cache, then a protect with its id. -/
theorem offline_protect_makes_no_call_sample :
    let w : World := ⟨KeyCache.empty.loadKey sampleGkdi [6] sampleEnvelope.rootKeyIdentifier 1
      "SP800_108_CTR_HMAC" none "DH" none 512 2048, []⟩
    w.cache.rootKeys sampleEnvelope.rootKeyIdentifier ≠ none ∧
      (finalState (ncryptProtectSecret sampleGkdi sampleCrypto sampleEpm sampleOracle 0 [1, 2, 3]
        "S-1-5-18" (some sampleEnvelope.rootKeyIdentifier) none (some "dc") none none "negotiate"
        true w)).trace = [] := by
  intro w
  have hr : w.cache.rootKeys sampleEnvelope.rootKeyIdentifier ≠ none := by decide
  exact ⟨hr, offline_protect_makes_no_call sampleCrypto sampleEpm sampleOracle (fun _ => ⟨_, rfl⟩)
    (fun _ _ _ _ _ => ⟨_, rfl⟩) (fun _ _ _ _ => ⟨_, rfl⟩) 0 [1, 2, 3] "S-1-5-18" none (some "dc")
    none none "negotiate" hr⟩

set_option maxRecDepth 8000 in
/-- A blob protected for SYSTEM under `sampleEnvelope`, unprotected with its root key loaded. -/
theorem offline_unprotect_makes_no_call_sample :
    let sd := (targetSecurityDescriptor "S-1-5-18").toOption.getD []
    let blob := (encryptBlob sampleGkdi sampleCrypto [1, 2, 3] sampleEnvelope sd
      "S-1-5-18").toOption.getD []
    let w : World := ⟨KeyCache.empty.loadKey sampleGkdi [6] sampleEnvelope.rootKeyIdentifier 1
      "SP800_108_CTR_HMAC" none "DH" none 512 2048, []⟩
    (finalState (ncryptUnprotectSecret sampleGkdi sampleCrypto sampleEpm sampleOracle blob none
      none none "negotiate" true w)).trace = [] := by
  intro sd blob w
  obtain ⟨_, _, _, _, _, _, _, _, hparams, _, hnew, _, hpack⟩ :=
    encryptBlob_eq_ok sampleGkdi sampleCrypto
      (show encryptBlob sampleGkdi sampleCrypto [1, 2, 3] sampleEnvelope sd "S-1-5-18" = .ok blob
        by decide)
  have hunpack := DPAPINGBlob.unpack_of_pack_eq_ok isValidOid_aes256Wrap isValidOid_aes256Gcm rfl
    (by simpa using hparams) (show targetSecurityDescriptor "S-1-5-18" = .ok sd by decide) hpack
  cases hnew
  exact offline_unprotect_makes_no_call sampleCrypto sampleEpm sampleOracle (fun _ => ⟨_, rfl⟩)
    (fun _ _ _ _ _ => ⟨_, rfl⟩) none none none "negotiate" hunpack
    (show w.cache.rootKeys sampleEnvelope.rootKeyIdentifier ≠ none by decide)

end DpapiNg

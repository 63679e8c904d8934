import DpapiNg.ClientRuns
import DpapiNg.FloatDivision

/-!
# The key of the current time

MS-GKDI numbers its group keys by time.  `_get_protection_gke_from_cache` reads the clock as a
FILETIME, counts the periods of `base`, ten hours, since 1601, and takes the key indices from
that count: L2 is the period within its L1 period of 32, L1 the L1 period within its L0 period
of 32, and L0 the count of L0 periods.  It divides as floats (`currentIndicesFloat`), where the
spec's formula divides exactly (`currentIndices`).  The two agree but in the last microsecond
of each L0 period, where the float quotient for L0 rounds up to the next period while those for
L1 and L2 do not (`currentIndicesFloat_eq`): there the source names the last key of the next
L0 period.

With its root key loaded, `ncrypt_protect_secret` protects under the key of the indices the
source computes, and the blob it returns names it (`offline_protect_names_current_key`).
Without it, the envelope a protect stores serves the protects after it for as long as the
computed L0 stays and the computed `(l1, l2)` does not pass it: these make no call
(`protect_again_makes_no_call`).

## Main definitions

* `currentTime` — the time as a FILETIME.
-/

namespace DpapiNg

/-! ### The indices of the clock -/

/-- `current_time`: the time `timeNs` as a FILETIME, in 100 ns units from 1601. -/
def currentTime (timeNs : ℕ) : ℕ := timeNs / 100 + epochFiletime

/-! ### The indices as the source divides -/

/-- **The source's float division against the exact one.**  From 1901 to 2199, the L0 periods
256 to 511, the indices the source computes are the exact ones, except in the last microsecond
of an L0 period, the ten FILETIME units before it ends: there the float quotient for L0 rounds
up to the next period, while those for L1 and L2 do not. -/
theorem currentIndicesFloat_eq {timeNs : ℕ}
    (h : 256 ≤ currentTime timeNs / (32 * 32 * 360000000000) ∧
      currentTime timeNs / (32 * 32 * 360000000000) < 512) :
    currentIndicesFloat timeNs =
      if 32 * 32 * 360000000000 ≤ currentTime timeNs % (32 * 32 * 360000000000) + 10 then
        ((currentIndices timeNs).1 + 1, (currentIndices timeNs).2)
      else currentIndices timeNs := by
  simp only [currentIndicesFloat, currentIndices, currentTime] at h ⊢
  generalize timeNs / 100 + epochFiletime = ct at h ⊢
  -- L0 has 53 - 8 bits below the point; L1 and L2 are below 32 with small divisors
  have hl0 := @truncFloatDiv_of_le_of_lt ct (32 * 32 * 360000000000) 8 (by norm_num)
    (by norm_num; omega) (by norm_num; omega) (by norm_num)
  have hl1 := @truncFloatDiv_eq_div_of_lt (ct % (32 * 32 * 360000000000)) (32 * 360000000000) 5
    (by norm_num) (by norm_num; omega) (by norm_num)
  have hl2 := @truncFloatDiv_eq_div_of_lt (ct % (32 * 360000000000)) 360000000000 5
    (by norm_num) (by norm_num; omega) (by norm_num)
  have hwindow : 2 ^ (53 - 8) * (32 * 32 * 360000000000 - ct % (32 * 32 * 360000000000)) ≤
      32 * 32 * 360000000000 ↔ 32 * 32 * 360000000000 ≤ ct % (32 * 32 * 360000000000) + 10 := by
    norm_num
    omega
  rw [hl0, hl1, hl2]
  by_cases hw : 32 * 32 * 360000000000 ≤ ct % (32 * 32 * 360000000000) + 10
  · rw [if_pos (hwindow.2 hw), if_pos hw, Nat.cast_add, Nat.cast_one]
  · rw [if_neg (mt hwindow.1 hw), if_neg hw, Nat.add_zero]

/-- A protect on 2023-11-14 at 22:13 UTC, far from an L0 boundary. -/
theorem currentIndicesFloat_eq_2023 :
    currentIndicesFloat 1700000000000000000 = currentIndices 1700000000000000000 := by
  rw [@currentIndicesFloat_eq 1700000000000000000 ⟨by decide, by decide⟩, if_neg (by decide)]

/-! ### The envelope of the current time -/

theorem CacheM.bind_liftExcept_eq_ok {α β : Type} {r : Except PyError α} {f : α → CacheM β}
    {c c' : KeyCache} {b : β} (h : EStateM.bind (CacheM.liftExcept r) f c = .ok b c') :
    ∃ a, r = .ok a ∧ f a c = .ok b c' := by
  cases r with
  | error e => cases h
  | ok a => exact ⟨a, rfl, h⟩

/-- The envelope `_get_protection_gke_from_cache` builds is labelled with its root key id and
the indices of the clock, whatever envelope of the slot it was derived from. -/
theorem getProtectionGkeFromCache_eq_some {gkdi : Gkdi} {timeNs : ℕ} {r : UUID} {sd : Bytes}
    {c c' : KeyCache} {k : GroupKeyEnvelope}
    (h : getProtectionGkeFromCache gkdi timeNs (some r) sd c = .ok (some k) c') :
    k.rootKeyIdentifier = r ∧ (k.l0, k.l1, k.l2) = currentIndicesFloat timeNs := by
  simp only [getProtectionGkeFromCache, bind, EStateM.bind] at h
  split at h
  · rename_i x c₁ _
    rcases x with _ | rk
    · cases h
    · obtain ⟨_, -, h⟩ := CacheM.bind_liftExcept_eq_ok h
      obtain ⟨_, -, h⟩ := CacheM.bind_liftExcept_eq_ok h
      cases h
      exact ⟨rfl, rfl⟩
  · cases h

section Offline

variable {gkdi : Gkdi} (crypto : Crypto) (epm : Epm) (o : Oracle)
  (hhash : ∀ p, ∃ h, gkdi.kdfHashAlgorithm p = .ok h)
  (hl1 : ∀ sd r l0 key h, ∃ seed, gkdi.computeL1Key sd r l0 key h = .ok seed)
  (hl2 : ∀ h l1 l2 k, ∃ key, gkdi.computeL2Key h l1 l2 k = .ok key)

include hhash hl1 hl2

/-- **Offline protect names the key of the current time.**  Let the new KEK of an envelope
carry its root key id and indices.  With the root key `r` loaded into the caller's cache and
the KDS functions total, the blob that `ncrypt_protect_secret` (or its `async` twin) returns
for root key id `r` at the time `timeNs` names the key of `r` at the indices the source
computes for `timeNs`, with float division. -/
theorem offline_protect_names_current_key
    (hkek : ∀ k kek ki, gkdi.newKek k = .ok (kek, ki) →
      ki.rootKeyIdentifier = k.rootKeyIdentifier ∧ ki.l0 = k.l0 ∧ ki.l1 = k.l1 ∧ ki.l2 = k.l2)
    {timeNs : ℕ} {data : Bytes} {s : String} {r : UUID}
    {server domainName username password : Option String} {authProtocol : String}
    {w w' : World} {blob : Bytes} (hr : w.cache.rootKeys r ≠ none)
    (h : ncryptProtectSecret gkdi crypto epm o timeNs data s (some r) server domainName username
        password authProtocol true w = .ok blob w' ∨
      (asyncNcryptProtectSecret gkdi crypto epm timeNs data s (some r) server domainName username
        password authProtocol true).run o w = .ok blob w') :
    ∃ b, DPAPINGBlob.unpack blob = .ok b ∧ b.keyIdentifier.rootKeyIdentifier = r ∧
      (b.keyIdentifier.l0, b.keyIdentifier.l1, b.keyIdentifier.l2) = currentIndicesFloat timeNs := by
  have hp := h.elim id fun h => by rwa [run_asyncNcryptProtectSecret] at h
  -- the SID string parsed, and protect took the envelope the cache built
  obtain ⟨sd, _, hlift, -⟩ := bind_apply_eq_ok hp
  obtain ⟨hsd, -⟩ := liftExcept_apply_eq_ok hlift
  obtain ⟨rk, w₁, hrk, henc, -⟩ := ncryptProtectSecret_eq_ok hsd hp
  obtain ⟨k, _, hk, hkey⟩ := protectionKey_of_loaded epm o hhash hl1 hl2 timeNs sd server
    domainName username password authProtocol hr
  obtain ⟨rfl, -⟩ := EStateM.Result.ok.inj (hrk.symm.trans hkey)
  obtain ⟨hroot, hidx⟩ := getProtectionGkeFromCache_eq_some hk
  -- the blob names the key identifier of its new KEK, which carries the envelope's
  obtain ⟨_, _, _, _, kek, ki, _, _, hparams, -, hnew, -, hpack⟩ := encryptBlob_eq_ok gkdi crypto henc
  obtain ⟨hr', h0, h1, h2⟩ := hkek rk kek ki hnew
  refine ⟨_, DPAPINGBlob.unpack_of_pack_eq_ok isValidOid_aes256Wrap isValidOid_aes256Gcm rfl
    (by simpa using hparams) hsd hpack, hr'.trans hroot, ?_⟩
  rw [h0, h1, h2]
  exact hidx

end Offline

set_option maxRecDepth 8000 in
/-- The root key of `sampleEnvelope` loaded into an empty cache, then a protect for SYSTEM at
the epoch of the clock. -/
theorem offline_protect_names_current_key_sample :
    let w : World := ⟨KeyCache.empty.loadKey sampleGkdi [6] sampleEnvelope.rootKeyIdentifier 1
      "SP800_108_CTR_HMAC" none "DH" none 512 2048, []⟩
    let r := ncryptProtectSecret sampleGkdi sampleCrypto sampleEpm sampleOracle 0 [1, 2, 3]
      "S-1-5-18" (some sampleEnvelope.rootKeyIdentifier) none (some "dc") none none "negotiate" true w
    let blob := match r with | .ok b _ => b | .error _ _ => []
    ∃ b, DPAPINGBlob.unpack blob = .ok b ∧
      b.keyIdentifier.rootKeyIdentifier = sampleEnvelope.rootKeyIdentifier ∧
      (b.keyIdentifier.l0, b.keyIdentifier.l1, b.keyIdentifier.l2) = currentIndicesFloat 0 := by
  intro w r blob
  exact @offline_protect_names_current_key sampleGkdi sampleCrypto sampleEpm sampleOracle
    (fun _ => ⟨_, rfl⟩) (fun _ _ _ _ _ => ⟨_, rfl⟩) (fun _ _ _ _ => ⟨_, rfl⟩)
    (fun _ _ _ h => by cases h; exact ⟨rfl, rfl, rfl, rfl⟩) 0 [1, 2, 3] "S-1-5-18" _ none
    (some "dc") none none "negotiate" w (finalState r) blob
    (show w.cache.rootKeys sampleEnvelope.rootKeyIdentifier ≠ none by decide) (.inl rfl)

/-! ### Protect again in the same period -/

section ProtectAgain

variable {gkdi : Gkdi} {crypto : Crypto} {epm : Epm} {o : Oracle}

/-- On a cache with no public key, `_get_protection_gke_from_cache` builds no public key:
it keeps the flags of the envelope `_get_key` returned. -/
theorem getProtectionGkeFromCache_isPublicKey {timeNs : ℕ} {r : UUID} {sd : Bytes}
    {c c' : KeyCache} {k : GroupKeyEnvelope} (hpriv : NoPublicSeeds c)
    (h : getProtectionGkeFromCache gkdi timeNs (some r) sd c = .ok (some k) c') :
    k.isPublicKey = false := by
  simp only [getProtectionGkeFromCache, bind, EStateM.bind] at h
  split at h
  · rename_i x c₁ hget
    rcases x with _ | k₀
    · cases h
    · obtain ⟨_, -, h⟩ := CacheM.bind_liftExcept_eq_ok h
      obtain ⟨_, -, h⟩ := CacheM.bind_liftExcept_eq_ok h
      cases h
      rcases KeyCache.getKey_eq_some (CacheM.getKey_eq_ok hget) with ⟨hs, -⟩ | ⟨-, _, _, -, rfl⟩
      · show k₀.isPublicKey = false
        exact hpriv _ _ hs
      · rfl
  · cases h

/-- With the KDS functions total, `_get_protection_gke_from_cache` builds an envelope whenever
`_get_key` returns one for the indices of the clock. -/
theorem getProtectionGkeFromCache_of_getKey (hhash : ∀ p, ∃ h, gkdi.kdfHashAlgorithm p = .ok h)
    (hl2 : ∀ h l1 l2 k, ∃ key, gkdi.computeL2Key h l1 l2 k = .ok key) {timeNs : ℕ} {r : UUID}
    {sd : Bytes} {c c' : KeyCache} {k : GroupKeyEnvelope}
    (hk : c.getKey gkdi sd r (currentIndicesFloat timeNs).1 (currentIndicesFloat timeNs).2.1
      (currentIndicesFloat timeNs).2.2 = .ok (some k, c')) :
    ∃ k', getProtectionGkeFromCache gkdi timeNs (some r) sd c = .ok (some k') c' := by
  obtain ⟨h, hh⟩ := hhash k.kdfParameters
  obtain ⟨key, hkey⟩ := hl2 h (currentIndicesFloat timeNs).2.1 (currentIndicesFloat timeNs).2.2 k
  exact ⟨_, by
    simp only [getProtectionGkeFromCache, bind, EStateM.bind, CacheM.getKey, hk, CacheM.liftExcept,
      hh, hkey, pure, EStateM.pure]; rfl⟩

/-- Where protect's envelope comes from: `_get_protection_gke_from_cache`, or the answer to
its GetKey request. -/
theorem protectionKey_eq_ok_request {timeNs : ℕ} {sd : Bytes} {rootKeyIdentifier : Option UUID}
    {server domainName username password : Option String} {authProtocol : String} {l0 l1 l2 : ℤ}
    {w w' : World} {rk : GroupKeyEnvelope}
    (h : protectionKey gkdi epm o timeNs sd rootKeyIdentifier server domainName username password
      authProtocol l0 l1 l2 w = .ok rk w') :
    (∃ w₁, liftCache (getProtectionGkeFromCache gkdi timeNs rootKeyIdentifier sd) w =
      .ok (some rk) w₁) ∨
      ∃ history resp, o history (.request 0 GetKey.opnum
          (.getKey ⟨sd, rootKeyIdentifier, l0, l1, l2⟩) true) = .ok resp ∧
        processGetKeyResult gkdi resp = .ok rk := by
  obtain ⟨cached, w₁, hcached, h⟩ := bind_apply_eq_ok h
  cases cached with
  | some k =>
    cases h
    exact .inl ⟨_, hcached⟩
  | none =>
    obtain ⟨_, _, -, h⟩ := bind_apply_eq_ok h
    exact .inr (syncGetKey_eq_ok_request gkdi epm h)

/-- Protect with root key id `r` and the caller's cache leaves in the slot of `r` and the L0
index of the clock an envelope at least as high as the indices of the clock, when the domain
controller answers GetKey for `r` with a private envelope of the current key and the cache
holds no public key. -/
theorem ncryptProtectSecret_leaves_key {timeNs : ℕ} {data : Bytes} {s : String} {r : UUID}
    {server domainName username password : Option String} {authProtocol : String}
    (hdc : ∀ history g vt resp rk,
      o history (.request 0 GetKey.opnum (.getKey g) vt) = .ok resp →
      processGetKeyResult gkdi resp = .ok rk → g.rootKeyId = some r →
      rk.rootKeyIdentifier = r ∧ (rk.l0, rk.l1, rk.l2) = currentIndicesFloat timeNs ∧
        rk.isPublicKey = false)
    {w w' : World} {sd blob : Bytes} (hpriv : NoPublicSeeds w.cache)
    (hsd : targetSecurityDescriptor s = .ok sd)
    (h : ncryptProtectSecret gkdi crypto epm o timeNs data s (some r) server domainName username
      password authProtocol true w = .ok blob w') :
    ∃ k, k.indices = (currentIndicesFloat timeNs).2 ∧
      SlotAtLeast ⟨r, sd, (currentIndicesFloat timeNs).1⟩ k w'.cache := by
  obtain ⟨rk, w₁, hkey, -, hw'⟩ := ncryptProtectSecret_eq_ok hsd h
  -- the envelope is the current key of `r`, and private
  obtain ⟨hroot, hidx, hpub⟩ : rk.rootKeyIdentifier = r ∧
      (rk.l0, rk.l1, rk.l2) = currentIndicesFloat timeNs ∧ rk.isPublicKey = false := by
    rcases protectionKey_eq_ok_request hkey with ⟨_, hcached⟩ | ⟨_, _, hresp, hrk⟩
    · have hc := liftCache_apply_eq_ok hcached
      exact ⟨(getProtectionGkeFromCache_eq_some hc).1, (getProtectionGkeFromCache_eq_some hc).2,
        getProtectionGkeFromCache_isPublicKey hpriv hc⟩
    · exact hdc _ _ _ _ _ hresp hrk rfl
  -- so it is stored in that slot
  have hs : Slot.ofKey sd rk = ⟨r, sd, (currentIndicesFloat timeNs).1⟩ := by
    simp only [Slot.ofKey, hroot, ← hidx]
  refine ⟨rk, by simp only [GroupKeyEnvelope.indices, ← hidx], ?_⟩
  rw [hw', hpub, if_neg Bool.false_ne_true, ← hs]
  exact le_storeKey w₁.cache sd rk

/-- Protect with root key id `r` and the caller's cache makes no call when
`_get_protection_gke_from_cache` builds an envelope. -/
theorem ncryptProtectSecret_trace_of_cached {timeNs : ℕ} {data : Bytes} {s : String} {r : UUID}
    {server domainName username password : Option String} {authProtocol : String} {w : World}
    {sd : Bytes} {k : GroupKeyEnvelope} {c' : KeyCache}
    (hsd : targetSecurityDescriptor s = .ok sd)
    (hk : getProtectionGkeFromCache gkdi timeNs (some r) sd w.cache = .ok (some k) c') :
    (finalState (ncryptProtectSecret gkdi crypto epm o timeNs data s (some r) server domainName
      username password authProtocol true w)).trace = w.trace := by
  have hlift : liftCache (getProtectionGkeFromCache gkdi timeNs (some r) sd) w =
      .ok (some k) { w with cache := c' } := by
    simp only [liftCache, hk]
  have hkey : protectionKey gkdi epm o timeNs sd (some r) server domainName username password
      authProtocol (-1) (-1) (-1) w = .ok k { w with cache := c' } := by
    rw [protectionKey, bind_apply_of_eq_ok hlift]; rfl
  unfold ncryptProtectSecret
  rw [hsd, bind_apply_of_eq_ok (show liftExcept (.ok sd) w = .ok sd w from rfl), withCache_true,
    bind_apply_of_eq_ok hkey]
  exact keeps_unless_isPublicKey_trace (· = w.trace) _ k _ _ rfl

/-- **Protect again within the period makes no call.**  Let the KDS functions be total and let
the domain controller answer GetKey for the root key `r` with a private envelope of the key of
`r` at the indices the source computes for the time `timeNs`.  When `ncrypt_protect_secret`
(or its `async` twin) with root key id `r` returns a blob at the time `timeNs` with the
caller's cache, which holds no public key, then after any run of client calls on that cache,
whatever the collaborators answer, protect for the same SID with root key id `r` and the cache
makes no DNS lookup and no RPC call at any time whose computed indices have the same L0 and an
`(l1, l2)` that is not higher. -/
theorem protect_again_makes_no_call (hhash : ∀ p, ∃ h, gkdi.kdfHashAlgorithm p = .ok h)
    (hl2 : ∀ h l1 l2 k, ∃ key, gkdi.computeL2Key h l1 l2 k = .ok key)
    {timeNs : ℕ} {data : Bytes} {s : String} {r : UUID}
    {server domainName username password : Option String} {authProtocol : String}
    (hdc : ∀ history g vt resp rk,
      o history (.request 0 GetKey.opnum (.getKey g) vt) = .ok resp →
      processGetKeyResult gkdi resp = .ok rk → g.rootKeyId = some r →
      rk.rootKeyIdentifier = r ∧ (rk.l0, rk.l1, rk.l2) = currentIndicesFloat timeNs ∧
        rk.isPublicKey = false)
    {w w' : World} {blob : Bytes} (hpriv : NoPublicSeeds w.cache)
    (hprotect : ncryptProtectSecret gkdi crypto epm o timeNs data s (some r) server domainName
        username password authProtocol true w = .ok blob w' ∨
      (asyncNcryptProtectSecret gkdi crypto epm timeNs data s (some r) server domainName username
        password authProtocol true).run o w = .ok blob w')
    (o' : Oracle) (ops : List ClientOp) :
    let w'' := ClientOp.run gkdi crypto epm o' ops w'
    ∀ timeNs', (currentIndicesFloat timeNs').1 = (currentIndicesFloat timeNs).1 →
      lexLe (currentIndicesFloat timeNs').2 (currentIndicesFloat timeNs).2 →
      ∀ (o'' : Oracle) data' server' domainName' username' password' authProtocol',
        (finalState (ncryptProtectSecret gkdi crypto epm o'' timeNs' data' s (some r) server'
          domainName' username' password' authProtocol' true w'')).trace = w''.trace ∧
        (finalState ((asyncNcryptProtectSecret gkdi crypto epm timeNs' data' s (some r) server'
          domainName' username' password' authProtocol' true).run o'' w'')).trace = w''.trace := by
  intro w'' timeNs' hl0 hle o'' data' server' domainName' username' password' auth'
  have hp := hprotect.elim id fun h => by rwa [run_asyncNcryptProtectSecret] at h
  obtain ⟨sd, _, hlift, -⟩ := bind_apply_eq_ok hp
  obtain ⟨hsd, -⟩ := liftExcept_apply_eq_ok hlift
  -- the first protect leaves the current key in its slot, and the run keeps it as high
  obtain ⟨k, hidx, hat⟩ := ncryptProtectSecret_leaves_key hdc hpriv hsd hp
  obtain ⟨k₂, hk₂, hle₂⟩ :=
    ClientOp.invariant_run crypto epm o' (cacheInvariant_slotAtLeast gkdi _ k) ops hat
  -- there it dominates the indices of `timeNs'`, so the cache builds protect's envelope
  rw [← hl0] at hk₂
  have hd : k₂.dominates (currentIndicesFloat timeNs').2.1 (currentIndicesFloat timeNs').2.2 :=
    GroupKeyEnvelope.dominates_iff.2 (lexLe_trans hle (hidx ▸ hle₂))
  obtain ⟨_, hcached⟩ := getProtectionGkeFromCache_of_getKey hhash hl2 (getKey_of_dominates gkdi hk₂ hd)
  rw [run_asyncNcryptProtectSecret, and_self]
  exact ncryptProtectSecret_trace_of_cached hsd hcached

end ProtectAgain

set_option maxRecDepth 8000 in
/-- A secret protected for SYSTEM under the root key of `sampleEnvelope` on 2023-05-06 at
02:00 UTC, through GetKey on an empty cache, then an unprotect and a protect without the cache:
another protect an hour later makes no call. -/
theorem protect_again_makes_no_call_sample :
    let t := 1683338400000000000
    let r := ncryptProtectSecret sampleGkdi sampleCrypto sampleEpm sampleOracle t [1, 2, 3]
      "S-1-5-18" (some sampleEnvelope.rootKeyIdentifier) none (some "dc") none none "negotiate"
      true ⟨KeyCache.empty, []⟩
    let blob := match r with | .ok b _ => b | .error _ _ => []
    let ops := [ClientOp.unprotect blob none none none "negotiate" false,
      ClientOp.protect t [4] "S-1-5-18" none (some "dc") none none none "negotiate" false]
    let w'' := ClientOp.run sampleGkdi sampleCrypto sampleEpm sampleOracle ops (finalState r)
    (finalState (ncryptProtectSecret sampleGkdi sampleCrypto sampleEpm sampleOracle
        (t + 3600000000000) [5] "S-1-5-18" (some sampleEnvelope.rootKeyIdentifier) none (some "dc")
        none none "negotiate" true w'')).trace = w''.trace ∧
      (finalState ((asyncNcryptProtectSecret sampleGkdi sampleCrypto sampleEpm (t + 3600000000000)
        [5] "S-1-5-18" (some sampleEnvelope.rootKeyIdentifier) none (some "dc") none none
        "negotiate" true).run sampleOracle w'')).trace = w''.trace := by
  intro t r blob ops w''
  exact @protect_again_makes_no_call sampleGkdi sampleCrypto sampleEpm sampleOracle
    (fun _ => ⟨_, rfl⟩) (fun _ _ _ _ => ⟨_, rfl⟩) t [1, 2, 3] "S-1-5-18"
    sampleEnvelope.rootKeyIdentifier none (some "dc") none none "negotiate"
    (fun _ _ _ _ _ _ h _ => by cases h; exact ⟨rfl, by decide, rfl⟩) ⟨KeyCache.empty, []⟩
    (finalState r) blob noPublicSeeds_empty (.inl rfl) sampleOracle ops (t + 3600000000000)
    (by decide) (by decide) sampleOracle [5] none (some "dc") none none "negotiate"

end DpapiNg

import DpapiNg.SharedCache

/-!
# What the secret does not reach

`ncrypt_protect_secret` reads its data only at its last step, `_encrypt_blob`, and
`ncrypt_unprotect_secret` reads the encrypted content of its blob only at its last step,
`_decrypt_blob`; both are pure code.  Everything before them, the DNS lookup, the RPC calls and
the accesses to the cache, reads only the protection descriptor, or the blob's key identifier
and security descriptor.  So the calls the client makes and the cache it leaves do not depend on
the secret: the data never reaches the collaborators, and an unprotect whose decryption raises
leaves the world as one that succeeds (`entry_points_effect_independent_of_secret`).

The two runs compared start from the same world with the same collaborators; `SameEffect` says
that two client computations end in the same world, whatever each returns or raises.

## Main definitions

* `SameEffect` — two client computations end in the same world from every world.
-/

namespace DpapiNg

/-- From every world, `m₁` and `m₂` end in the same world, whatever each returns or raises. -/
def SameEffect {α : Type} (m₁ m₂ : ClientM α) : Prop := ∀ w, finalState (m₁ w) = finalState (m₂ w)

section SameEffect

variable {α β : Type}

/-- The world after a bind: the first part's if it raised, else the second part's from it. -/
theorem finalState_bind (m : ClientM α) (f : α → ClientM β) (w : World) :
    finalState ((m >>= f) w) = match m w with
      | .ok a w' => finalState (f a w')
      | .error _ w' => w' := by
  show finalState (EStateM.bind m f w) = _
  unfold EStateM.bind
  cases m w <;> rfl

/-- Without the caller's cache, the world after is the body's from a fresh cache, with the
caller's cache put back. -/
theorem finalState_withCache_false (body : ClientM α) (w : World) :
    finalState (withCache false body w) =
      { finalState (body { w with cache := KeyCache.empty }) with cache := w.cache } := by
  show finalState ((liftCache swapFresh >>= fun saved => attempt body >>= fun r =>
    liftCache (EStateM.set saved) >>= fun _ => liftExcept r) w) = _
  simp only [bind, EStateM.bind, liftCache, swapFresh, attempt, EStateM.set]
  cases body { w with cache := KeyCache.empty } <;> rfl

theorem sameEffect_bind_right (m : ClientM α) {f g : α → ClientM β}
    (h : ∀ a, SameEffect (f a) (g a)) : SameEffect (m >>= f) (m >>= g) := by
  intro w
  rw [finalState_bind, finalState_bind]
  cases m w with
  | ok a w' => exact h a w'
  | error e w' => rfl

/-- Pure code ends where it started, whatever it returns or raises. -/
theorem sameEffect_liftExcept (r r' : Except PyError α) :
    SameEffect (liftExcept r) (liftExcept r') := by
  intro w
  cases r <;> cases r' <;> rfl

theorem sameEffect_withCache (cache : Bool) {body₁ body₂ : ClientM α}
    (h : SameEffect body₁ body₂) : SameEffect (withCache cache body₁) (withCache cache body₂) := by
  cases cache
  · intro w
    rw [finalState_withCache_false, finalState_withCache_false, h]
  · exact h

/-- The end of an entry point, the store guarded by `is_public_key` and a result of pure code,
acts alike whatever the result. -/
theorem sameEffect_unless_isPublicKey (sd : Bytes) (rk : GroupKeyEnvelope)
    (r r' : Except PyError α) :
    SameEffect (show ClientM α from do
        unless rk.isPublicKey do liftCache (CacheM.storeKey sd rk)
        liftExcept r)
      (show ClientM α from do
        unless rk.isPublicKey do liftCache (CacheM.storeKey sd rk)
        liftExcept r') := by
  cases rk.isPublicKey
  · exact sameEffect_bind_right _ fun _ => sameEffect_liftExcept r r'
  · exact sameEffect_bind_right _ fun _ => sameEffect_liftExcept r r'

end SameEffect

section EntryPoints

variable (gkdi : Gkdi) (crypto : Crypto) (epm : Epm) (o : Oracle)

/-- Protect acts alike on the world whatever its data. -/
theorem sameEffect_ncryptProtectSecret (timeNs : ℕ) (data data' : Bytes) (s : String)
    (rootKeyIdentifier : Option UUID) (server domainName username password : Option String)
    (authProtocol : String) (cache : Bool) :
    SameEffect
      (ncryptProtectSecret gkdi crypto epm o timeNs data s rootKeyIdentifier server domainName
        username password authProtocol cache)
      (ncryptProtectSecret gkdi crypto epm o timeNs data' s rootKeyIdentifier server domainName
        username password authProtocol cache) :=
  sameEffect_bind_right _ fun _ => sameEffect_withCache cache <|
    sameEffect_bind_right _ fun rk => sameEffect_unless_isPublicKey _ rk _ _

/-- Unprotect acts alike on the world for two blobs with one key identifier and security
descriptor, whatever their encrypted content. -/
theorem sameEffect_ncryptUnprotectSecret {data data' : Bytes} {b b' : DPAPINGBlob}
    (hb : DPAPINGBlob.unpack data = .ok b) (hb' : DPAPINGBlob.unpack data' = .ok b')
    (hki : b.keyIdentifier = b'.keyIdentifier) (hsd : b.securityDescriptor = b'.securityDescriptor)
    (server username password : Option String) (authProtocol : String) (cache : Bool) :
    SameEffect
      (ncryptUnprotectSecret gkdi crypto epm o data server username password authProtocol cache)
      (ncryptUnprotectSecret gkdi crypto epm o data' server username password authProtocol
        cache) := by
  intro w
  have hblob : liftExcept (DPAPINGBlob.unpack data) w = .ok b w := by rw [hb]; rfl
  have hblob' : liftExcept (DPAPINGBlob.unpack data') w = .ok b' w := by rw [hb']; rfl
  unfold ncryptUnprotectSecret
  rw [bind_apply_of_eq_ok hblob, bind_apply_of_eq_ok hblob', ← hki, ← hsd]
  exact sameEffect_withCache cache (sameEffect_bind_right _ fun _ => sameEffect_bind_right _
    fun rk => sameEffect_unless_isPublicKey _ rk _ _) w

/-- **The secret does not reach the world.**  Whatever the collaborators answer, the calls that
`ncrypt_protect_secret` (or its `async` twin) makes and the cache it leaves are the same for every
data it protects; and those of `ncrypt_unprotect_secret` (or its `async` twin) are the same for
any two blobs with one key identifier and security descriptor, whatever their encrypted
content, whether the decryption returns or raises. -/
theorem entry_points_effect_independent_of_secret (w : World) :
    (∀ timeNs data data' s rootKeyIdentifier server domainName username password authProtocol
        cache,
      finalState (ncryptProtectSecret gkdi crypto epm o timeNs data s rootKeyIdentifier server
          domainName username password authProtocol cache w) =
        finalState (ncryptProtectSecret gkdi crypto epm o timeNs data' s rootKeyIdentifier server
          domainName username password authProtocol cache w) ∧
      finalState ((asyncNcryptProtectSecret gkdi crypto epm timeNs data s rootKeyIdentifier server
          domainName username password authProtocol cache).run o w) =
        finalState ((asyncNcryptProtectSecret gkdi crypto epm timeNs data' s rootKeyIdentifier
          server domainName username password authProtocol cache).run o w)) ∧
    ∀ data data' (b b' : DPAPINGBlob), DPAPINGBlob.unpack data = .ok b →
      DPAPINGBlob.unpack data' = .ok b' → b.keyIdentifier = b'.keyIdentifier →
      b.securityDescriptor = b'.securityDescriptor →
      ∀ server username password authProtocol cache,
        finalState (ncryptUnprotectSecret gkdi crypto epm o data server username password
            authProtocol cache w) =
          finalState (ncryptUnprotectSecret gkdi crypto epm o data' server username password
            authProtocol cache w) ∧
        finalState ((asyncNcryptUnprotectSecret gkdi crypto epm data server username password
            authProtocol cache).run o w) =
          finalState ((asyncNcryptUnprotectSecret gkdi crypto epm data' server username password
            authProtocol cache).run o w) := by
  refine ⟨fun timeNs data data' s r server domain user pass auth cache => ?_,
    fun data data' b b' hb hb' hki hsd server user pass auth cache => ?_⟩
  · rw [run_asyncNcryptProtectSecret, run_asyncNcryptProtectSecret, and_self]
    exact sameEffect_ncryptProtectSecret gkdi crypto epm o timeNs data data' s r server domain user
      pass auth cache w
  · rw [run_asyncNcryptUnprotectSecret, run_asyncNcryptUnprotectSecret, and_self]
    exact sameEffect_ncryptUnprotectSecret gkdi crypto epm o hb hb' hki hsd server user pass auth
      cache w

end EntryPoints

set_option maxRecDepth 8000 in
/-- Two secrets protected for SYSTEM under `sampleEnvelope`, each unprotected on an empty cache:
the two unprotects make the same calls and leave the same cache. -/
theorem entry_points_effect_independent_of_secret_sample :
    let sd := (targetSecurityDescriptor "S-1-5-18").toOption.getD []
    let blob := (encryptBlob sampleGkdi sampleCrypto [1, 2, 3] sampleEnvelope sd
      "S-1-5-18").toOption.getD []
    let blob' := (encryptBlob sampleGkdi sampleCrypto [4, 5] sampleEnvelope sd
      "S-1-5-18").toOption.getD []
    let w : World := ⟨KeyCache.empty, []⟩
    finalState (ncryptUnprotectSecret sampleGkdi sampleCrypto sampleEpm sampleOracle blob none none
        none "negotiate" true w) =
      finalState (ncryptUnprotectSecret sampleGkdi sampleCrypto sampleEpm sampleOracle blob' none
        none none "negotiate" true w) := by
  intro sd blob blob' w
  have hsd : targetSecurityDescriptor "S-1-5-18" = .ok sd := by decide
  obtain ⟨_, _, _, _, _, _, _, -, hparams, -, hnew, -, hpack⟩ :=
    encryptBlob_eq_ok sampleGkdi sampleCrypto
      (show encryptBlob sampleGkdi sampleCrypto [1, 2, 3] sampleEnvelope sd "S-1-5-18" = .ok blob
        by decide)
  obtain ⟨_, _, _, _, _, _, _, -, hparams', -, hnew', -, hpack'⟩ :=
    encryptBlob_eq_ok sampleGkdi sampleCrypto
      (show encryptBlob sampleGkdi sampleCrypto [4, 5] sampleEnvelope sd "S-1-5-18" = .ok blob'
        by decide)
  cases hnew
  cases hnew'
  exact ((entry_points_effect_independent_of_secret sampleGkdi sampleCrypto sampleEpm sampleOracle
    w).2 blob blob' _ _
    (DPAPINGBlob.unpack_of_pack_eq_ok isValidOid_aes256Wrap isValidOid_aes256Gcm rfl
      (by simpa using hparams) hsd hpack)
    (DPAPINGBlob.unpack_of_pack_eq_ok isValidOid_aes256Wrap isValidOid_aes256Gcm rfl
      (by simpa using hparams') hsd hpack') rfl rfl none none none "negotiate" true).1

end DpapiNg

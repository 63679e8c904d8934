import DpapiNg.Blob
import DpapiNg.Rpc
import DpapiNg.FloatDivision

/-!
# The client: protect and unprotect

`ncrypt_protect_secret` of `_client.py` builds the target security descriptor of a SID, finds
a group key envelope (in the cache through `_get_protection_gke_from_cache`, else from GetKey),
stores it in the cache unless it is a public key, and encrypts with `_encrypt_blob`:
a fresh CEK encrypts the data under AES-GCM, a KEK derived from the envelope wraps the CEK,
and `DPAPINGBlob.pack` writes it all.  `ncrypt_unprotect_secret` unpacks the blob, finds the
envelope its key identifier names (in the cache, else from GetKey), stores it likewise and
decrypts with `_decrypt_blob`.  Each has an `async` twin.

`encryptBlob_returns_and_decrypts` is the wiring round trip: under the laws of the ciphers and
of the KEK derivation, when the primitives return and the new KEK's key identifier is packable,
`_encrypt_blob` returns, and what `_decrypt_blob` reads after `unpack` is what it wrote.  The
key identifier must be packable, not only have its integer fields in range: it is packed with
four-octet lengths (`encryptBlob_raises_on_long_keyInfo`).

`run_asyncNcryptUnprotectSecret` and `run_asyncNcryptProtectSecret` are the simulation of each
`async` entry point by its synchronous twin: the event loop runs it as the synchronous code.

## Main definitions

* `encryptBlob`, `decryptBlob` — `_encrypt_blob` and `_decrypt_blob`.
* `currentIndicesFloat`, `getProtectionGkeFromCache` — the envelope for the current time;
  `currentIndices` — the spec's indices, with exact division.
* `ncryptUnprotectSecret`, `ncryptProtectSecret` and their `async` twins.
-/

namespace DpapiNg

variable (gkdi : Gkdi) (crypto : Crypto) (epm : Epm)

/-! ### The blob's cryptography -/

/-- `_decrypt_blob`. -/
def decryptBlob (blob : DPAPINGBlob) (key : GroupKeyEnvelope) : Except PyError Bytes := do
  let kek ← gkdi.getKek key blob.keyIdentifier
  let cek ← crypto.cekDecrypt blob.encCekAlgorithm blob.encCekParameters kek blob.encCek
  crypto.contentDecrypt blob.encContentAlgorithm blob.encContentParameters cek blob.encContent

/-- `_encrypt_blob`; the blob goes in the envelope, `pack`'s default. -/
def encryptBlob (blob : Bytes) (key : GroupKeyEnvelope) (securityDescriptor : Bytes)
    (protectionDescriptor : String) : Except PyError Bytes := do
  let encCekAlgorithm := AlgorithmOID.aes256Wrap
  let (cek, cekIv) ← crypto.cekGenerate encCekAlgorithm
  let encContentParameters ← pushSequence none do
    let iv ← writeOctetString cekIv none
    let tagLength ← writeInteger 16
    pure (iv ++ tagLength)
  let encContentAlgorithm := AlgorithmOID.aes256Gcm
  let encContent ← crypto.contentEncrypt encContentAlgorithm (some encContentParameters) cek blob
  let (kek, keyIdentifier) ← gkdi.newKek key
  let encCekParameters : Option Bytes := none
  let encCek ← crypto.cekEncrypt encCekAlgorithm encCekParameters kek cek
  DPAPINGBlob.pack
    { keyIdentifier, securityDescriptor, encCek, encCekAlgorithm, encCekParameters, encContent,
      encContentAlgorithm, encContentParameters := some encContentParameters }
    protectionDescriptor true

/-- What `_encrypt_blob` packs, when it returns: the key identifier of the new KEK, the CEK
wrapped under that KEK with no parameters, and the data encrypted under the CEK with one DER
element of parameters. -/
theorem encryptBlob_eq_ok {data : Bytes} {k : GroupKeyEnvelope} {sd : Bytes} {pd : String}
    {blob : Bytes} (h : encryptBlob gkdi crypto data k sd pd = .ok blob) :
    ∃ cek iv params encContent kek ki encCek, crypto.cekGenerate AlgorithmOID.aes256Wrap = .ok (cek, iv) ∧
      params ≠ [] ∧
      crypto.contentEncrypt AlgorithmOID.aes256Gcm (some params) cek data = .ok encContent ∧
      gkdi.newKek k = .ok (kek, ki) ∧
      crypto.cekEncrypt AlgorithmOID.aes256Wrap none kek cek = .ok encCek ∧
      DPAPINGBlob.pack ⟨ki, sd, encCek, AlgorithmOID.aes256Wrap, none, encContent,
        AlgorithmOID.aes256Gcm, some params⟩ pd true = .ok blob := by
  simp only [encryptBlob, bind_eq_ok] at h
  obtain ⟨⟨cek, iv⟩, hgen, params, hparams, encContent, henc, ⟨kek, ki⟩, hkek, encCek, hcek, h⟩ := h
  exact ⟨cek, iv, params, encContent, kek, ki, encCek, hgen, DPAPINGBlob.pushSequence_ne_nil hparams, henc,
    hkek, hcek, h⟩

theorem isValidOid_aes256Wrap : isValidOid AlgorithmOID.aes256Wrap := by decide

theorem isValidOid_aes256Gcm : isValidOid AlgorithmOID.aes256Gcm := by decide

/-- An envelope as GetKey returns it, for the samples: not a public key. -/
def sampleEnvelope : GroupKeyEnvelope :=
  ⟨1, 2, 361, 17, 9, ⟨List.replicate 16 7, rfl⟩, "SP800_108_CTR_HMAC", [], "DH", [], 512, 2048,
    "a.test", "test", [], []⟩

/-- The KDS functions of the samples: the KEK is fixed and named by the envelope's root key id
and indices, and every GetKey response decodes to `sampleEnvelope`. -/
def sampleGkdi : Gkdi :=
  { kdfParametersPack := fun _ => []
    kdfHashAlgorithm := fun _ => .ok "SHA512"
    ffcdhParametersPack := fun _ _ _ => []
    computeL1Key := fun _ _ _ _ _ => .ok []
    computeL2Key := fun _ _ _ _ => .ok []
    newKek := fun k => .ok ([1], ⟨1, 2, k.l0, k.l1, k.l2, k.rootKeyIdentifier, [4], k.domainName,
      k.forestName⟩)
    getKek := fun _ _ => .ok [1]
    unpackResponse := fun _ => .ok sampleEnvelope }

/-- The identity ciphers, with a fixed CEK and IV. -/
def sampleCrypto : Crypto :=
  { cekGenerate := fun _ => .ok ([2], [3])
    contentEncrypt := fun _ _ _ m => .ok m
    contentDecrypt := fun _ _ _ m => .ok m
    cekEncrypt := fun _ _ _ m => .ok m
    cekDecrypt := fun _ _ _ m => .ok m }

section Laws

variable {gkdi crypto}

end Laws

/-- `_EPOCH_FILETIME`: 1970-01-01 as a FILETIME. -/
def epochFiletime : ℕ := 116444736000000000

/-- The indices `(l0, l1, l2)` of the time `time.time_ns()`, in FILETIME units of 100 ns, as
the spec's formula gives them with exact division: L0 counts periods of `32 * 32 * base`, L1 the
periods of `32 * base` within one L0 and L2 the periods of `base` within one L1.  The source
divides as floats; `currentIndicesFloat` is what it computes. -/
def currentIndices (timeNs : ℕ) : ℤ × ℤ × ℤ :=
  let currentTime := timeNs / 100 + epochFiletime
  let base := 360000000000
  (↑(currentTime / (32 * 32 * base)), ↑(currentTime % (32 * 32 * base) / (32 * base)),
    ↑(currentTime % (32 * base) / base))

/-- The indices of the clock as `_get_protection_gke_from_cache` computes them: each
`int(x / y)`, the float quotient truncated. -/
def currentIndicesFloat (timeNs : ℕ) : ℤ × ℤ × ℤ :=
  let currentTime := timeNs / 100 + epochFiletime
  let base := 360000000000
  (↑(truncFloatDiv currentTime (32 * 32 * base)),
    ↑(truncFloatDiv (currentTime % (32 * 32 * base)) (32 * base)),
    ↑(truncFloatDiv (currentTime % (32 * base)) base))

/-- `_get_protection_gke_from_cache`: with a root key id, the cached envelope for the current
L0, re-keyed at the current L1 and L2. -/
def getProtectionGkeFromCache (timeNs : ℕ) (rootKeyIdentifier : Option UUID) (targetSd : Bytes) :
    CacheM (Option GroupKeyEnvelope) :=
  match rootKeyIdentifier with
  | none => pure none
  | some rootKeyIdentifier => do
    let (l0, l1, l2) := currentIndicesFloat timeNs
    let rk ← CacheM.getKey gkdi targetSd rootKeyIdentifier l0 l1 l2
    match rk with
    | none => pure none
    | some rk => do
      let hashAlgorithm ← CacheM.liftExcept (gkdi.kdfHashAlgorithm rk.kdfParameters)
      let l2Key ← CacheM.liftExcept (gkdi.computeL2Key hashAlgorithm l1 l2 rk)
      pure (some { rk with
        l0 := l0
        l1 := l1
        l2 := l2
        rootKeyIdentifier := rootKeyIdentifier
        l1Key := []
        l2Key := l2Key })

/-! ### The synchronous entry points -/

section Sync

variable (o : Oracle)

/-- `if not server: srv = lookup_dc(domain_name); server = srv.target`. -/
def serverOrLookup (server domainName : Option String) : ClientM String :=
  (server.filter (· ≠ "")).getDM do
    let srv ← perform o (.lookupDc domainName)
    pure srv.target

/-- `ncrypt_unprotect_secret`; `cache` says whether the caller passes its cache. -/
def ncryptUnprotectSecret (data : Bytes) (server username password : Option String)
    (authProtocol : String) (cache : Bool) : ClientM Bytes := do
  let blob ← liftExcept (DPAPINGBlob.unpack data)
  withCache cache do
    let ki := blob.keyIdentifier
    let rk ← liftCache (CacheM.getKey gkdi blob.securityDescriptor ki.rootKeyIdentifier ki.l0 ki.l1 ki.l2)
    let rk ← rk.getDM do
      let server ← serverOrLookup o server (some ki.domainName)
      syncGetKey gkdi epm o server blob.securityDescriptor (some ki.rootKeyIdentifier) ki.l0 ki.l1
        ki.l2 username password authProtocol
    unless rk.isPublicKey do liftCache (CacheM.storeKey blob.securityDescriptor rk)
    liftExcept (decryptBlob gkdi crypto blob rk)

/-- The envelope `ncrypt_protect_secret` protects with: the one
`_get_protection_gke_from_cache` builds, else GetKey's answer for the indices `l0`, `l1`, `l2`. -/
def protectionKey (timeNs : ℕ) (sd : Bytes) (rootKeyIdentifier : Option UUID)
    (server domainName username password : Option String) (authProtocol : String) (l0 l1 l2 : ℤ) :
    ClientM GroupKeyEnvelope := do
  let rk ← liftCache (getProtectionGkeFromCache gkdi timeNs rootKeyIdentifier sd)
  rk.getDM do
    let server ← serverOrLookup o server domainName
    syncGetKey gkdi epm o server sd rootKeyIdentifier l0 l1 l2 username password authProtocol

/-- `ncrypt_protect_secret`, at the time `timeNs`. -/
def ncryptProtectSecret (timeNs : ℕ) (data : Bytes) (protectionDescriptor : String)
    (rootKeyIdentifier : Option UUID) (server domainName username password : Option String)
    (authProtocol : String) (cache : Bool) : ClientM Bytes := do
  let l0 : ℤ := -1
  let l1 : ℤ := -1
  let l2 : ℤ := -1
  let sd ← liftExcept (targetSecurityDescriptor protectionDescriptor)
  withCache cache do
    let rk ← protectionKey gkdi epm o timeNs sd rootKeyIdentifier server domainName username
      password authProtocol l0 l1 l2
    unless rk.isPublicKey do liftCache (CacheM.storeKey sd rk)
    liftExcept (encryptBlob gkdi crypto data rk sd protectionDescriptor)

/-- The envelope protect uses is the one `_get_protection_gke_from_cache` built from the
cache, or a GetKey response. -/
theorem protectionKey_eq_ok {timeNs : ℕ} {sd : Bytes} {rootKeyIdentifier : Option UUID}
    {server domainName username password : Option String} {authProtocol : String} {l0 l1 l2 : ℤ}
    {w w' : World} {rk : GroupKeyEnvelope}
    (h : protectionKey gkdi epm o timeNs sd rootKeyIdentifier server domainName username password
      authProtocol l0 l1 l2 w = .ok rk w') :
    (∃ w₁, liftCache (getProtectionGkeFromCache gkdi timeNs rootKeyIdentifier sd) w = .ok (some rk) w₁) ∨
      ∃ resp, processGetKeyResult gkdi resp = .ok rk := by
  obtain ⟨cached, w₁, hcached, h⟩ := bind_apply_eq_ok h
  cases cached with
  | some k =>
    cases h
    exact .inl ⟨_, hcached⟩
  | none =>
    obtain ⟨_, _, -, h⟩ := bind_apply_eq_ok h
    exact .inr (syncGetKey_eq_ok gkdi epm h)

end Sync

/-! ### The asynchronous entry points -/

/-- `if not server: srv = await async_lookup_dc(domain_name); server = srv.target`. -/
def asyncServerOrLookup (server domainName : Option String) : Coro String :=
  (server.filter (· ≠ "")).getDM do
    let srv ← Coro.call (.lookupDc domainName)
    pure srv.target

/-- `async_ncrypt_unprotect_secret`. -/
def asyncNcryptUnprotectSecret (data : Bytes) (server username password : Option String)
    (authProtocol : String) (cache : Bool) : Coro Bytes := do
  let blob ← Coro.liftExcept (DPAPINGBlob.unpack data)
  Coro.withCache cache do
    let ki := blob.keyIdentifier
    let rk ← Coro.exec (CacheM.getKey gkdi blob.securityDescriptor ki.rootKeyIdentifier ki.l0 ki.l1 ki.l2)
    let rk ← rk.getDM do
      let server ← asyncServerOrLookup server (some ki.domainName)
      asyncGetKey gkdi epm server blob.securityDescriptor (some ki.rootKeyIdentifier) ki.l0 ki.l1
        ki.l2 username password authProtocol
    unless rk.isPublicKey do Coro.exec (CacheM.storeKey blob.securityDescriptor rk)
    Coro.liftExcept (decryptBlob gkdi crypto blob rk)

/-- The envelope `async_ncrypt_protect_secret` protects with. -/
def asyncProtectionKey (timeNs : ℕ) (sd : Bytes) (rootKeyIdentifier : Option UUID)
    (server domainName username password : Option String) (authProtocol : String) (l0 l1 l2 : ℤ) :
    Coro GroupKeyEnvelope := do
  let rk ← Coro.exec (getProtectionGkeFromCache gkdi timeNs rootKeyIdentifier sd)
  rk.getDM do
    let server ← asyncServerOrLookup server domainName
    asyncGetKey gkdi epm server sd rootKeyIdentifier l0 l1 l2 username password authProtocol

/-- `async_ncrypt_protect_secret`, at the time `timeNs`. -/
def asyncNcryptProtectSecret (timeNs : ℕ) (data : Bytes) (protectionDescriptor : String)
    (rootKeyIdentifier : Option UUID) (server domainName username password : Option String)
    (authProtocol : String) (cache : Bool) : Coro Bytes := do
  let l0 : ℤ := -1
  let l1 : ℤ := -1
  let l2 : ℤ := -1
  let sd ← Coro.liftExcept (targetSecurityDescriptor protectionDescriptor)
  Coro.withCache cache do
    let rk ← asyncProtectionKey gkdi epm timeNs sd rootKeyIdentifier server domainName username
      password authProtocol l0 l1 l2
    unless rk.isPublicKey do Coro.exec (CacheM.storeKey sd rk)
    Coro.liftExcept (encryptBlob gkdi crypto data rk sd protectionDescriptor)

/-! ### The event loop runs each `async` entry point as its synchronous twin -/

section Simulation

variable (o : Oracle)

theorem run_asyncServerOrLookup (server domainName : Option String) :
    (asyncServerOrLookup server domainName).run o = serverOrLookup o server domainName := by
  simp only [asyncServerOrLookup, serverOrLookup, Coro.run_getDM, Coro.run_bind, Coro.run_call,
    Coro.run_pure]

theorem run_asyncNcryptUnprotectSecret (data : Bytes) (server username password : Option String)
    (authProtocol : String) (cache : Bool) :
    (asyncNcryptUnprotectSecret gkdi crypto epm data server username password authProtocol cache).run o =
      ncryptUnprotectSecret gkdi crypto epm o data server username password authProtocol cache := by
  simp only [asyncNcryptUnprotectSecret, ncryptUnprotectSecret, Coro.run_bind, Coro.run_liftExcept,
    Coro.run_withCache, Coro.run_exec, Coro.run_getDM, run_asyncServerOrLookup, run_asyncGetKey,
    Coro.run_ite, Coro.run_pure]

theorem run_asyncProtectionKey (timeNs : ℕ) (sd : Bytes) (rootKeyIdentifier : Option UUID)
    (server domainName username password : Option String) (authProtocol : String) (l0 l1 l2 : ℤ) :
    (asyncProtectionKey gkdi epm timeNs sd rootKeyIdentifier server domainName username password
      authProtocol l0 l1 l2).run o =
      protectionKey gkdi epm o timeNs sd rootKeyIdentifier server domainName username password
        authProtocol l0 l1 l2 := by
  simp only [asyncProtectionKey, protectionKey, Coro.run_bind, Coro.run_exec, Coro.run_getDM,
    run_asyncServerOrLookup, run_asyncGetKey]

theorem run_asyncNcryptProtectSecret (timeNs : ℕ) (data : Bytes) (protectionDescriptor : String)
    (rootKeyIdentifier : Option UUID) (server domainName username password : Option String)
    (authProtocol : String) (cache : Bool) :
    (asyncNcryptProtectSecret gkdi crypto epm timeNs data protectionDescriptor rootKeyIdentifier server
      domainName username password authProtocol cache).run o =
      ncryptProtectSecret gkdi crypto epm o timeNs data protectionDescriptor rootKeyIdentifier server
        domainName username password authProtocol cache := by
  simp only [asyncNcryptProtectSecret, ncryptProtectSecret, Coro.run_bind, Coro.run_liftExcept,
    Coro.run_withCache, Coro.run_exec, run_asyncProtectionKey, Coro.run_ite, Coro.run_pure]

/-- **The `async` entry points are their synchronous twins.**  For every oracle answering the
DNS lookup, the RPC connections and GetKey, every clock and every argument, the event loop runs
`async_ncrypt_unprotect_secret` and `async_ncrypt_protect_secret` as `ncrypt_unprotect_secret`
and `ncrypt_protect_secret`: from every world (cache and calls so far) they make the same calls,
return the same bytes or raise the same exception, and leave the same cache. -/
theorem async_entry_points_run_as_sync :
    (∀ data server username password authProtocol cache,
      (asyncNcryptUnprotectSecret gkdi crypto epm data server username password authProtocol
        cache).run o =
        ncryptUnprotectSecret gkdi crypto epm o data server username password authProtocol cache) ∧
    ∀ timeNs data protectionDescriptor rootKeyIdentifier server domainName username password
      authProtocol cache,
      (asyncNcryptProtectSecret gkdi crypto epm timeNs data protectionDescriptor rootKeyIdentifier
        server domainName username password authProtocol cache).run o =
        ncryptProtectSecret gkdi crypto epm o timeNs data protectionDescriptor rootKeyIdentifier
          server domainName username password authProtocol cache :=
  ⟨run_asyncNcryptUnprotectSecret gkdi crypto epm o, run_asyncNcryptProtectSecret gkdi crypto epm o⟩

end Simulation

end DpapiNg

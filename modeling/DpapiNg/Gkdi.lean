import DpapiNg.KeyIdentifier

/-!
# Group key envelopes and the key distribution functions

`GroupKeyEnvelope` and the key derivation functions live in `_gkdi.py`, which is not among
the sources, nor is `_crypto.py`.  The client reads and builds envelopes field by field, so
the structure is modelled with the fields it uses.  The functions are parameters of the
model, gathered in `Gkdi` and `Crypto`: every theorem holds for all of them, unless it
states the laws it needs as hypotheses.  A function that may raise returns `Except`, and
randomness (the CEK, its IV, a new KEK) is a fixed function of the arguments, as if the
random source were fixed.

## Main definitions

* `GroupKeyEnvelope` — a node of the group key seed tree, as `GetKey` returns it.
* `Gkdi`, `Crypto` — the functions of `_gkdi.py` and `_crypto.py` the client calls.
* `AlgorithmOID.aes256Wrap`, `AlgorithmOID.aes256Gcm` — the algorithms `_encrypt_blob` uses.
-/

namespace DpapiNg

/-- Modelled from the spec: `GroupKeyEnvelope` of `_gkdi.py`, with the fields the client
reads and writes. -/
structure GroupKeyEnvelope where
  /-- The version of the structure. -/
  version : ℤ
  /-- Bit 0 is `is_public_key`, bit 1 says `l2_key` is the seed at `(l0, l1, l2)`. -/
  flags : ℤ
  /-- The L0 index. -/
  l0 : ℤ
  /-- The L1 index. -/
  l1 : ℤ
  /-- The L2 index. -/
  l2 : ℤ
  /-- The root key the envelope descends from. -/
  rootKeyIdentifier : UUID
  /-- The KDF algorithm name. -/
  kdfAlgorithm : String
  /-- The KDF parameters blob. -/
  kdfParameters : Bytes
  /-- The secret agreement algorithm name. -/
  secretAlgorithm : String
  /-- The secret agreement parameters. -/
  secretParameters : Bytes
  /-- The private key length. -/
  privateKeyLength : ℤ
  /-- The public key length. -/
  publicKeyLength : ℤ
  /-- The domain name. -/
  domainName : String
  /-- The forest name. -/
  forestName : String
  /-- The L1 seed. -/
  l1Key : Bytes
  /-- The L2 seed. -/
  l2Key : Bytes
  deriving DecidableEq

/-- `GroupKeyEnvelope.is_public_key`: `bool(flags & 1)`. -/
def GroupKeyEnvelope.isPublicKey (k : GroupKeyEnvelope) : Bool := k.flags % 2 == 1

/-- Modelled from the spec: the functions of `_gkdi.py` the client calls. -/
structure Gkdi where
  /-- `KDFParameters(hash_algorithm).pack()`. -/
  kdfParametersPack : String → Bytes
  /-- `KDFParameters.unpack(data).hash_algorithm`. -/
  kdfHashAlgorithm : Bytes → Except PyError String
  /-- `FFCDHParameters(key_length, field_order, generator).pack()`. -/
  ffcdhParametersPack : ℕ → ℕ → ℕ → Bytes
  /-- `compute_l1_key(target_sd, root_key_id, l0, root_key, hash_algorithm)`. -/
  computeL1Key : Bytes → UUID → ℤ → Bytes → String → Except PyError Bytes
  /-- `compute_l2_key(hash_algorithm, l1, l2, envelope)`. -/
  computeL2Key : String → ℤ → ℤ → GroupKeyEnvelope → Except PyError Bytes
  /-- `envelope.new_kek()`: a KEK and the key identifier that names it. -/
  newKek : GroupKeyEnvelope → Except PyError (Bytes × KeyIdentifier)
  /-- `envelope.get_kek(key_identifier)`. -/
  getKek : GroupKeyEnvelope → KeyIdentifier → Except PyError Bytes
  /-- `GetKey.unpack_response(data)`. -/
  unpackResponse : Bytes → Except PyError GroupKeyEnvelope

/-- Modelled from the spec: the functions of `_crypto.py` the client calls; an algorithm is
its OID. -/
structure Crypto where
  /-- `cek_generate(algorithm)`: a CEK and its IV. -/
  cekGenerate : String → Except PyError (Bytes × Bytes)
  /-- `content_encrypt(algorithm, parameters, cek, data)`. -/
  contentEncrypt : String → Option Bytes → Bytes → Bytes → Except PyError Bytes
  /-- `content_decrypt(algorithm, parameters, cek, data)`. -/
  contentDecrypt : String → Option Bytes → Bytes → Bytes → Except PyError Bytes
  /-- `cek_encrypt(algorithm, parameters, kek, cek)`. -/
  cekEncrypt : String → Option Bytes → Bytes → Bytes → Except PyError Bytes
  /-- `cek_decrypt(algorithm, parameters, kek, data)`. -/
  cekDecrypt : String → Option Bytes → Bytes → Bytes → Except PyError Bytes

namespace AlgorithmOID

/-- `AlgorithmOID.AES256_WRAP`, the CEK encryption algorithm of the spec. -/
def aes256Wrap : String := "2.16.840.1.101.3.4.1.45"

/-- `AlgorithmOID.AES256_GCM`, the content encryption algorithm of the spec. -/
def aes256Gcm : String := "2.16.840.1.101.3.4.1.46"

end AlgorithmOID

end DpapiNg

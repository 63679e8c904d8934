import DpapiNg.KeyIdentifier
import DpapiNg.Pkcs7
import DpapiNg.SecurityDescriptor

/-!
# The DPAPI-NG blob

`DPAPINGBlob` of `_blob.py`: a CMS `ContentInfo` wrapping an `EnvelopedData` with one
`KEKRecipientInfo`, whose key identifier is the packed `KeyIdentifier` and whose other key
attribute is the protection descriptor `SID=<sid>`.  `pack` writes it with the ciphertext
inside the `EncryptedContentInfo` or, LAPS style, appended after the DER; `unpack` reads
either, taking the data after the DER when the encrypted content is missing or empty.

`unpack` does not read the security descriptor from the blob: it rebuilds it from the SID
of the protection descriptor.  A blob therefore reads back as packed only when its security
descriptor is the one that SID yields; the round trip below assumes so, as its callers
ensure.

## Main definitions

* `DPAPINGBlob`, `DPAPINGBlob.pack`, `DPAPINGBlob.unpack` — the blob and its codec.
* `packProtectionDescriptor`, `packKekId`, `packRecipientInfo`, `packEncryptedContentInfo`,
  `packEnvelopedData` — the `with` blocks of `pack`, one definition each.
* `DPAPINGBlob.DerSized` — the fields `pack` writes as DER contents are short enough for
  every element around them to have a DER length.

## Main results

* `DPAPINGBlob.writes_pack` — `pack` returns on a blob whose key identifier is packable and
  whose fields fit DER, in fewer octets than the bound it carries (`Writes`).
* `DPAPINGBlob.pack_returns_and_unpacks` — **the blob round trip**: on such a blob `pack`
  returns, in both placement modes, and `unpack` gives the blob back.
* `DPAPINGBlob.encContent_lt_of_pack_eq_ok` — in the envelope mode `pack` raises on content
  no DER length counts.
-/

namespace DpapiNg

/-- `DPAPINGBlob` of `_blob.py`. -/
structure DPAPINGBlob where
  /-- The key identifier for the KEK. -/
  keyIdentifier : KeyIdentifier
  /-- The security descriptor that protects the key. -/
  securityDescriptor : Bytes
  /-- The encrypted CEK. -/
  encCek : Bytes
  /-- The encrypted CEK algorithm OID. -/
  encCekAlgorithm : String
  /-- The encrypted CEK algorithm parameters. -/
  encCekParameters : Option Bytes
  /-- The encrypted content. -/
  encContent : Bytes
  /-- The encrypted content algorithm OID. -/
  encContentAlgorithm : String
  /-- The encrypted content parameters. -/
  encContentParameters : Option Bytes
  deriving DecidableEq

namespace DPAPINGBlob

/-- `DPAPINGBlob.MICROSOFT_SOFTWARE_OID`. -/
def microsoftSoftwareOid : String := "1.3.6.1.4.1.311.74.1"

/-- `DPAPINGBlob.MICROSOFT_SOFTWARE_SYSTEMS_OID`. -/
def microsoftSoftwareSystemsOid : String := "1.3.6.1.4.1.311.74.1.1"

/-- `ASN1Tag.universal_tag(TypeTagNumber.UTF8_STRING)`. -/
def utf8Tag : ASN1Tag := .universalTag TypeTagNumber.utf8String false

/-- `b"SID"`. -/
def sid : Bytes := [0x53, 0x49, 0x44]

/-! ### Packing -/

/-- `originator_sequence`: the protection descriptor, its content type and the one rule
`SID=<protection_descriptor>` three sequences down. -/
def packProtectionDescriptor (protectionDescriptor : String) : Except PyError Bytes :=
  pushSequence none do
    let contentType ← writeObjectIdentifier microsoftSoftwareSystemsOid
    let rules ← pushSequence none <| pushSequence none <| pushSequence none do
      let type ← writeOctetString sid (some utf8Tag)
      let value ← writeOctetString (encodeUtf8 protectionDescriptor.toList) (some utf8Tag)
      pure (type ++ value)
    pure (contentType ++ rules)

/-- `key_agree_recipient_info`, the KEK identifier: the packed key identifier, then as
`originator` the Microsoft Software OID and the protection descriptor. -/
def packKekId (keyIdentifier : KeyIdentifier) (protectionDescriptor : String) :
    Except PyError Bytes :=
  pushSequence none do
    let keyId ← writeOctetString (← keyIdentifier.pack) none
    let originator ← pushSequence none do
      let oid ← writeObjectIdentifier microsoftSoftwareOid
      let descriptor ← packProtectionDescriptor protectionDescriptor
      pure (oid ++ descriptor)
    pure (keyId ++ originator)

/-- `recipient_info`, the `[2]` KEK recipient info of CMS version 4. -/
def packRecipientInfo (b : DPAPINGBlob) (protectionDescriptor : String) :
    Except PyError Bytes :=
  pushSequence (some kekRecipientInfoTag) do
    let version ← writeInteger 4
    let kekid ← packKekId b.keyIdentifier protectionDescriptor
    let algorithm ← pushSequence none (writeObjectIdentifier b.encCekAlgorithm)
    let encryptedKey ← writeOctetString b.encCek none
    pure (version ++ kekid ++ algorithm ++ encryptedKey)

/-- `encrypted_content_info`: the data content type, the algorithm followed by its parameters
(`extend(enc_content_parameters)` when they are truthy, else `extend(b"")`), and the
ciphertext as `[0]` when it goes in the envelope. -/
def packEncryptedContentInfo (b : DPAPINGBlob) (blobInEnvelope : Bool) :
    Except PyError Bytes :=
  pushSequence none do
    let contentType ← writeObjectIdentifier EnvelopedData.contentTypeDataOid
    let algorithm ← pushSequence none do
      let oid ← writeObjectIdentifier b.encContentAlgorithm
      pure (oid ++ orBytes b.encContentParameters [])
    let content ← if blobInEnvelope then writeOctetString b.encContent (some encryptedContentTag)
      else pure []
    pure (contentType ++ algorithm ++ content)

/-- `enveloped_data`: CMS version 2, the set of the one recipient info, and the encrypted
content info. -/
def packEnvelopedData (b : DPAPINGBlob) (protectionDescriptor : String) (blobInEnvelope : Bool) :
    Except PyError Bytes :=
  pushSequence none do
    let version ← writeInteger 2
    let recipientInfos ← pushSet (packRecipientInfo b protectionDescriptor)
    let encryptedContentInfo ← packEncryptedContentInfo b blobInEnvelope
    pure (version ++ recipientInfos ++ encryptedContentInfo)

/-- `DPAPINGBlob.pack`: the DER `ContentInfo`, then the ciphertext when it is not in the
envelope. -/
def pack (b : DPAPINGBlob) (protectionDescriptor : String) (blobInEnvelope : Bool) :
    Except PyError Bytes := do
  let contentInfo ← pushSequence none do
    let contentType ← writeObjectIdentifier EnvelopedData.contentTypeEnvelopedDataOid
    let content ← pushSequence (some explicitZeroTag)
      (packEnvelopedData b protectionDescriptor blobInEnvelope)
    pure (contentType ++ content)
  pure (contentInfo ++ if blobInEnvelope then [] else b.encContent)

/-! ### Unpacking -/

/-- The KEK recipient info of enveloped data in the expected format: CMS version 2 and a
single recipient, a `KEKRecipientInfo` of version 4. -/
def expectedKekInfo (envelopedData : EnvelopedData) : Option KEKRecipientInfo :=
  match envelopedData.recipientInfos with
  | [.kekri info] => if envelopedData.version = 2 ∧ info.version = 4 then some info else none
  | _ => none

/-- `DPAPINGBlob.unpack`. -/
def unpack (data : Bytes) : Except PyError DPAPINGBlob := do
  let header ← peekHeader data
  let contentInfo ← ContentInfo.unpack (data.take (header.tagLength + header.length))
  let remainingData := data.drop (header.tagLength + header.length)
  if contentInfo.contentType ≠ EnvelopedData.contentTypeEnvelopedDataOid then
    throw (.valueError
      ("DPAPI-NG blob content type '" ++ contentInfo.contentType ++ "' is unsupported"))
  let envelopedData ← EnvelopedData.unpack contentInfo.content
  let some kekInfo := expectedKekInfo envelopedData
    | throw (.valueError "DPAPI-NG blob is not in the expected format")
  let keyIdentifier ← KeyIdentifier.unpack kekInfo.kekid.keyIdentifier
  let some other := kekInfo.kekid.other
    | throw (.valueError "DPAPI-NG KEK Id is not in the expected format")
  if other.keyAttrId ≠ microsoftSoftwareOid then
    throw (.valueError "DPAPI-NG KEK Id is not in the expected format")
  let protectionDescriptor ← NCryptProtectionDescriptor.unpack (orBytes other.keyAttr [])
  if protectionDescriptor.contentType ≠ microsoftSoftwareSystemsOid ∨
      protectionDescriptor.type ≠ "SID" then
    throw (.valueError ("DPAPI-NG protection descriptor type '" ++ protectionDescriptor.type ++
      "' is unsupported"))
  let targetSd ← targetSecurityDescriptor protectionDescriptor.value
  let encryptedContentInfo := envelopedData.encryptedContentInfo
  pure
    { keyIdentifier := keyIdentifier
      securityDescriptor := targetSd
      encCek := kekInfo.encryptedKey
      encCekAlgorithm := kekInfo.keyEncryptionAlgorithm.algorithm
      encCekParameters := kekInfo.keyEncryptionAlgorithm.parameters
      encContent := orBytes encryptedContentInfo.content remainingData
      encContentAlgorithm := encryptedContentInfo.algorithm.algorithm
      encContentParameters := encryptedContentInfo.algorithm.parameters }

/-! ### Reading back what `pack` writes -/

theorem isValidOid_microsoftSoftwareOid : isValidOid microsoftSoftwareOid := by decide

theorem isValidOid_microsoftSoftwareSystemsOid : isValidOid microsoftSoftwareSystemsOid := by
  decide

theorem isValidOid_contentTypeDataOid : isValidOid EnvelopedData.contentTypeDataOid := by decide

theorem isValidOid_contentTypeEnvelopedDataOid :
    isValidOid EnvelopedData.contentTypeEnvelopedDataOid := by decide

theorem sid_eq_encodeUtf8 : sid = encodeUtf8 "SID".toList := by decide

theorem unpack_packProtectionDescriptor {pd : String} {e : Bytes}
    (h : packProtectionDescriptor pd = .ok e) :
    NCryptProtectionDescriptor.unpack e = .ok ⟨microsoftSoftwareSystemsOid, "SID", pd⟩ := by
  simp only [packProtectionDescriptor, pushSequence_eq_ok, bind_eq_ok, pure, Except.pure,
    Except.ok.injEq, Option.getD_none, Option.getD_some, writeOctetString] at h
  obtain ⟨c, ⟨o, ho, r, ⟨c3, ⟨c4, ⟨c5, ⟨t, ht, v, hv, rfl⟩, h5⟩, h4⟩, h3⟩, rfl⟩, he⟩ := h
  rw [sid_eq_encodeUtf8] at ht
  have hvalue := readUtf8String_encodeTLV hv []
  rw [List.append_nil] at hvalue
  simp only [NCryptProtectionDescriptor.unpack, readTagged_encodeTLV_self he, ok_bind,
    readObjectIdentifier_writeObjectIdentifier isValidOid_microsoftSoftwareSystemsOid ho,
    readTagged_encodeTLV_self h3, readTagged_encodeTLV_self h4, readTagged_encodeTLV_self h5,
    readUtf8String_encodeTLV ht, hvalue]
  rfl

theorem pushSequence_ne_nil {tag : Option ASN1Tag} {body : Except PyError Bytes} {e : Bytes}
    (h : pushSequence tag body = .ok e) : e ≠ [] := by
  obtain ⟨c, -, he⟩ := pushSequence_eq_ok.1 h
  exact encodeTLV_ne_nil he

theorem read_packKekId {ki : KeyIdentifier} {pd : String} {e : Bytes}
    (h : packKekId ki pd = .ok e) (rest : Bytes) :
    ∃ kb db, ki.pack = .ok kb ∧ packProtectionDescriptor pd = .ok db ∧
      KEKIdentifier.read (e ++ rest) =
        .ok (⟨kb, none, some ⟨microsoftSoftwareOid, some db⟩⟩, rest) := by
  simp only [packKekId, pushSequence_eq_ok, bind_eq_ok, pure, Except.pure, Except.ok.injEq,
    Option.getD_none, writeOctetString] at h
  obtain ⟨c, ⟨kb, hkb, kid, hkid, org, ⟨c2, ⟨o, ho, db, hdb, rfl⟩, h2⟩, rfl⟩, he⟩ := h
  refine ⟨kb, db, hkb, hdb, ?_⟩
  have hdate := @readOptional_encodeTLV_of_ne (.universalTag TypeTagNumber.generalizedTime false)
    _ _ _ h2 (by decide) []
  have hother := readOidAndAny_encodeTLV isValidOid_microsoftSoftwareOid ho h2 []
  rw [List.append_nil] at hdate hother
  simp only [KEKIdentifier.read, readTagged_encodeTLV he, ok_bind, readTagged_encodeTLV hkid,
    hdate, if_neg (encodeTLV_ne_nil h2), hother, if_neg (pushSequence_ne_nil hdb)]
  rfl

/-- The recipient infos read back as the one KEK recipient `pack` writes. -/
theorem recipientInfos_packRecipientInfo {b : DPAPINGBlob} {pd : String} {e : Bytes}
    (hv : isValidOid b.encCekAlgorithm) (h : packRecipientInfo b pd = .ok e) :
    ∃ kb db c, b.keyIdentifier.pack = .ok kb ∧ packProtectionDescriptor pd = .ok db ∧
      readElements e.length e = .ok [(kekRecipientInfoTag, c)] ∧
      RecipientInfo.ofElement (kekRecipientInfoTag, c) =
        .ok (.kekri ⟨4, ⟨kb, none, some ⟨microsoftSoftwareOid, some db⟩⟩,
          ⟨b.encCekAlgorithm, none⟩, b.encCek⟩) := by
  simp only [packRecipientInfo, pushSequence_eq_ok, bind_eq_ok, pure, Except.pure,
    Except.ok.injEq, Option.getD_some, Option.getD_none, writeOctetString] at h
  obtain ⟨c, ⟨v, hver, k, hk, a, ⟨ca, ho, ha⟩, ek, hek, rfl⟩, he⟩ := h
  obtain ⟨kb, db, hkb, hdb, hread⟩ := read_packKekId hk (a ++ ek)
  refine ⟨kb, db, _, hkb, hdb, readElements_encodeTLV he, ?_⟩
  rw [← List.append_nil ca] at ha
  simp only [RecipientInfo.ofElement, if_true, KEKRecipientInfo.ofContents, List.append_assoc,
    readInteger_writeInteger (by decide) (by decide) hver, ok_bind, hread,
    AlgorithmIdentifier.read, readOidAndAny_encodeTLV hv ho ha, if_true, pure, Except.pure,
    readTagged_encodeTLV_self hek]
  rfl

theorem orBytes_nil_of_ne {params : Option Bytes} (hp : params ≠ some []) :
    (if orBytes params [] = [] then none else some (orBytes params [])) = params := by
  cases params with
  | none => rfl
  | some p =>
    have : p ≠ [] := fun h => hp (h ▸ rfl)
    simp [orBytes, this]

/-- The algorithm identifier of `content_encryption_algorithm_identifier` reads back, its
parameters included unless they are `b""`. -/
theorem read_algorithm {alg : String} {params : Option Bytes} {a : Bytes} (hv : isValidOid alg)
    (hp : params ≠ some [])
    (h : pushSequence none (writeObjectIdentifier alg >>= fun oid => pure (oid ++ orBytes params []))
      = .ok a) (rest : Bytes) :
    AlgorithmIdentifier.read (a ++ rest) = .ok (⟨alg, params⟩, rest) := by
  simp only [pushSequence_eq_ok, bind_eq_ok, pure, Except.pure, Except.ok.injEq,
    Option.getD_none] at h
  obtain ⟨c, ⟨o, ho, rfl⟩, he⟩ := h
  simp only [AlgorithmIdentifier.read, readOidAndAny_encodeTLV hv ho he, ok_bind,
    orBytes_nil_of_ne hp]
  rfl

theorem read_packEncryptedContentInfo {b : DPAPINGBlob} {blobInEnvelope : Bool} {e : Bytes}
    (hv : isValidOid b.encContentAlgorithm) (hp : b.encContentParameters ≠ some [])
    (h : packEncryptedContentInfo b blobInEnvelope = .ok e) (rest : Bytes) :
    EncryptedContentInfo.read (e ++ rest) =
      .ok (⟨EnvelopedData.contentTypeDataOid, ⟨b.encContentAlgorithm, b.encContentParameters⟩,
        if blobInEnvelope then some b.encContent else none⟩, rest) := by
  unfold packEncryptedContentInfo at h
  obtain ⟨c, hc, he⟩ := pushSequence_eq_ok.1 h
  rw [Option.getD_none] at he
  obtain ⟨ct, hct, hc⟩ := bind_eq_ok.1 hc
  obtain ⟨a, ha, hc⟩ := bind_eq_ok.1 hc
  have hoid := readObjectIdentifier_writeObjectIdentifier isValidOid_contentTypeDataOid hct
  cases blobInEnvelope with
  | false =>
    obtain rfl : ct ++ a ++ [] = c := by simpa [pure, Except.pure] using hc
    have halg := read_algorithm hv hp ha []
    rw [List.append_nil] at halg
    simp only [EncryptedContentInfo.read, readTagged_encodeTLV he, ok_bind, List.append_nil,
      hoid, halg, readOptional_nil, Bool.false_eq_true, if_false]
    rfl
  | true =>
    obtain ⟨w, hw, hc⟩ := bind_eq_ok.1 hc
    obtain rfl : ct ++ a ++ w = c := by simpa [pure, Except.pure] using hc
    rw [writeOctetString, Option.getD_some] at hw
    have hcontent := readOptional_encodeTLV hw []
    rw [List.append_nil] at hcontent
    simp only [EncryptedContentInfo.read, readTagged_encodeTLV he, ok_bind, List.append_assoc,
      hoid, read_algorithm hv hp ha, hcontent, if_true]
    rfl

theorem unpack_packEnvelopedData {b : DPAPINGBlob} {pd : String} {blobInEnvelope : Bool}
    {e : Bytes} (hcek : isValidOid b.encCekAlgorithm) (hv : isValidOid b.encContentAlgorithm)
    (hp : b.encContentParameters ≠ some []) (h : packEnvelopedData b pd blobInEnvelope = .ok e) :
    ∃ kb db, b.keyIdentifier.pack = .ok kb ∧ packProtectionDescriptor pd = .ok db ∧
      EnvelopedData.unpack e = .ok
        ⟨2, [.kekri ⟨4, ⟨kb, none, some ⟨microsoftSoftwareOid, some db⟩⟩,
            ⟨b.encCekAlgorithm, none⟩, b.encCek⟩],
          ⟨EnvelopedData.contentTypeDataOid, ⟨b.encContentAlgorithm, b.encContentParameters⟩,
            if blobInEnvelope then some b.encContent else none⟩⟩ := by
  simp only [packEnvelopedData, pushSequence_eq_ok, bind_eq_ok, pure, Except.pure,
    Except.ok.injEq, Option.getD_none, pushSet] at h
  obtain ⟨c, ⟨v, hver, r, ⟨ri, hri, hr⟩, eci, heci, rfl⟩, he⟩ := h
  obtain ⟨kb, db, c', hkb, hdb, hels, hri'⟩ := recipientInfos_packRecipientInfo hcek hri
  refine ⟨kb, db, hkb, hdb, ?_⟩
  have hopt := @readOptional_encodeTLV_of_ne explicitZeroTag _ _ _ hr (by decide) eci
  have hread := read_packEncryptedContentInfo hv hp heci []
  rw [List.append_nil] at hread
  simp only [EnvelopedData.unpack, readTagged_encodeTLV_self he, ok_bind, List.append_assoc,
    readInteger_writeInteger (by decide) (by decide) hver, hopt, readTagged_encodeTLV hr, hels,
    List.mapM_cons, List.mapM_nil, hri', hread]
  rfl

theorem orBytes_placement (x : Bytes) (blobInEnvelope : Bool) :
    orBytes (if blobInEnvelope then some x else none) (if blobInEnvelope then [] else x) = x := by
  cases blobInEnvelope <;> simp only [orBytes, Bool.false_eq_true, if_false, if_true]
  split <;> simp_all

/-- `unpack` inverts `pack` on a blob whose algorithms are valid OIDs, with no CEK parameters,
content parameters other than empty, and the security descriptor its protection descriptor SID
yields. -/
theorem unpack_of_pack_eq_ok {b : DPAPINGBlob} {pd : String} {blobInEnvelope : Bool}
    {data : Bytes} (hcek : isValidOid b.encCekAlgorithm)
    (hcontent : isValidOid b.encContentAlgorithm) (hcekParams : b.encCekParameters = none)
    (hp : b.encContentParameters ≠ some [])
    (hsd : targetSecurityDescriptor pd = .ok b.securityDescriptor)
    (h : b.pack pd blobInEnvelope = .ok data) : unpack data = .ok b := by
  simp only [pack, bind_eq_ok, pushSequence_eq_ok, pure, Except.pure, Except.ok.injEq,
    Option.getD_none, Option.getD_some] at h
  obtain ⟨ci, ⟨c0, ⟨ct, hct, content, ⟨c1, hc1, hcontent'⟩, rfl⟩, hci⟩, rfl⟩ := h
  obtain ⟨kb, db, hkb, hdb, hed⟩ := unpack_packEnvelopedData hcek hcontent hp hc1
  obtain ⟨l, -, hl⟩ := encodeTLV_eq_ok.1 hci
  have hsplit : ci.length - (ct ++ content).length + (ct ++ content).length = ci.length := by
    rw [hl]; simp only [List.length_cons, List.length_append]; omega
  simp only [unpack, peekHeader_encodeTLV hci, ok_bind, hsplit, List.take_left', List.drop_left',
    ContentInfo.unpack, readTagged_encodeTLV_self hci,
    readObjectIdentifier_writeObjectIdentifier isValidOid_contentTypeEnvelopedDataOid hct,
    readTagged_encodeTLV_self hcontent', ne_eq, not_true_eq_false, if_false, hed,
    expectedKekInfo, KeyIdentifier.unpack_of_pack_eq_ok hkb, orBytes_some (pushSequence_ne_nil hdb),
    unpack_packProtectionDescriptor hdb, hsd, orBytes_placement, pure, Except.pure, and_self,
    or_self, ↓reduceIte]
  rw [← hcekParams]

/-- Whenever `pack` returns, in either placement mode, `unpack` gives the blob back: its
algorithms are valid OIDs, it has no CEK parameters, its content parameters are absent or one
DER element, and its security descriptor is the one its protection descriptor SID yields. -/
theorem unpack_eq_of_pack_eq_ok {b : DPAPINGBlob} {pd : String} {blobInEnvelope : Bool}
    {data : Bytes} (hcek : isValidOid b.encCekAlgorithm)
    (hcontent : isValidOid b.encContentAlgorithm) (hcekParams : b.encCekParameters = none)
    (hparams : b.encContentParameters = none ∨
      ∃ tag c p, encodeTLV tag c = .ok p ∧ b.encContentParameters = some p)
    (hsd : targetSecurityDescriptor pd = .ok b.securityDescriptor)
    (h : b.pack pd blobInEnvelope = .ok data) : unpack data = .ok b := by
  refine unpack_of_pack_eq_ok hcek hcontent hcekParams ?_ hsd h
  rcases hparams with hn | ⟨tag, c, p, hp, he⟩
  · simp [hn]
  · rw [he]
    exact fun e => encodeTLV_ne_nil hp (Option.some.inj e)

/-! ### `pack` returns -/

/-- The fields of a blob that `pack` writes as DER contents, and its protection descriptor,
each shorter than `256 ^ 125` octets.  Every element `pack` nests them in is then shorter than
`256 ^ 126` octets, the most a DER length counts: they are six, with a key identifier of under
`2 ^ 34` octets and a few thousand octets of headers. -/
structure DerSized (b : DPAPINGBlob) (protectionDescriptor : String) : Prop where
  encCek : b.encCek.length < 256 ^ 125
  encContent : b.encContent.length < 256 ^ 125
  encContentParameters : (orBytes b.encContentParameters []).length < 256 ^ 125
  encCekAlgorithm : ∀ e, oidContents b.encCekAlgorithm = .ok e → e.length < 256 ^ 125
  encContentAlgorithm : ∀ e, oidContents b.encContentAlgorithm = .ok e → e.length < 256 ^ 125
  protectionDescriptor : (encodeUtf8 protectionDescriptor.toList).length < 256 ^ 125

/-- A packable key identifier packs into fewer than `2 ^ 34` octets. -/
theorem writes_keyIdentifier_pack {k : KeyIdentifier} (h : k.Packable) : Writes k.pack (2 ^ 34) := by
  refine ⟨_, KeyIdentifier.pack_eq_ok_iff.2 ⟨h, rfl⟩, ?_⟩
  have := h.keyInfo; have := h.domainName; have := h.forestName
  simp only [List.length_append, length_leBytes, KeyIdentifier.length_magic, UUID.length_bytesLe']
  omega

theorem writes_packProtectionDescriptor {pd : String}
    (h : (encodeUtf8 pd.toList).length < 256 ^ 125) :
    Writes (packProtectionDescriptor pd) ((encodeUtf8 pd.toList).length + 1024) := by
  have hoid : Writes (writeObjectIdentifier microsoftSoftwareSystemsOid) 200 := ⟨_, rfl, by decide⟩
  have hsid : Writes (writeOctetString sid (some utf8Tag)) 8 := ⟨_, rfl, by decide⟩
  refine (writes_pushSequence none (n := (encodeUtf8 pd.toList).length + 896) (writes_bind hoid
    fun ct hct => writes_bind (n := (encodeUtf8 pd.toList).length + 643) ?_
      fun rules hrules => writes_pure (by simp only [List.length_append]; omega)) (by omega)).mono
    (by omega)
  -- the rule `SID=<pd>`, three sequences down
  refine (writes_pushSequence none (n := (encodeUtf8 pd.toList).length + 515) ?_ (by omega)).mono
    (by omega)
  refine (writes_pushSequence none (n := (encodeUtf8 pd.toList).length + 387) ?_ (by omega)).mono
    (by omega)
  refine (writes_pushSequence none (n := (encodeUtf8 pd.toList).length + 259) ?_ (by omega)).mono
    (by omega)
  exact writes_bind hsid fun t ht => writes_bind (writes_writeOctetString _ (by omega))
    fun v hv => writes_pure (by simp only [List.length_append]; omega)

theorem writes_packKekId {ki : KeyIdentifier} {pd : String} (hki : ki.Packable)
    (h : (encodeUtf8 pd.toList).length < 256 ^ 125) :
    Writes (packKekId ki pd) ((encodeUtf8 pd.toList).length + 2 ^ 35) := by
  have hoid : Writes (writeObjectIdentifier microsoftSoftwareOid) 200 := ⟨_, rfl, by decide⟩
  refine (writes_pushSequence none (n := (encodeUtf8 pd.toList).length + 2 ^ 34 + 2048)
    (writes_bind (writes_keyIdentifier_pack hki) fun kb hkb =>
      writes_bind (writes_writeOctetString none (by omega)) fun keyId hkeyId =>
        writes_bind (n := (encodeUtf8 pd.toList).length + 1480) ?_
          fun orig horig => writes_pure (by simp only [List.length_append]; omega)) (by omega)).mono
    (by omega)
  exact (writes_pushSequence none (n := (encodeUtf8 pd.toList).length + 1224)
    (writes_bind hoid fun oid hoid' => writes_bind (writes_packProtectionDescriptor h)
      fun d hd => writes_pure (by simp only [List.length_append]; omega)) (by omega)).mono (by omega)

theorem writes_packRecipientInfo {b : DPAPINGBlob} {pd : String} (hki : b.keyIdentifier.Packable)
    (hcek : isValidOid b.encCekAlgorithm) (hs : b.DerSized pd) :
    Writes (packRecipientInfo b pd) (3 * 256 ^ 125 + 2 ^ 36) := by
  have hP := hs.protectionDescriptor
  have hC := hs.encCek
  have hver : Writes (writeInteger 4) 8 := ⟨_, rfl, by decide⟩
  have hoid := writes_writeObjectIdentifier hcek (fun e he => (hs.encCekAlgorithm e he).le)
    (by norm_num)
  refine (writes_pushSequence _ (n := 3 * 256 ^ 125 + 2 ^ 35 + 392) (writes_bind hver
    fun v hv => writes_bind (writes_packKekId hki hP) fun k hk =>
      writes_bind (writes_pushSequence none hoid (by norm_num)) fun a ha =>
        writes_bind (writes_writeOctetString none (by omega)) fun e he =>
          writes_pure (by simp only [List.length_append]; omega)) (by norm_num)).mono (by norm_num)

theorem writes_packEncryptedContentInfo {b : DPAPINGBlob} {pd : String} (blobInEnvelope : Bool)
    (hcontent : isValidOid b.encContentAlgorithm) (hs : b.DerSized pd) :
    Writes (packEncryptedContentInfo b blobInEnvelope) (3 * 256 ^ 125 + 1024) := by
  have hD := hs.encContent
  have hQ := hs.encContentParameters
  have hct : Writes (writeObjectIdentifier EnvelopedData.contentTypeDataOid) 200 := ⟨_, rfl, by decide⟩
  have hoid := writes_writeObjectIdentifier hcontent
    (fun e he => (hs.encContentAlgorithm e he).le) (by norm_num)
  have halg : Writes (pushSequence none (writeObjectIdentifier b.encContentAlgorithm >>= fun oid =>
      pure (oid ++ orBytes b.encContentParameters []))) (2 * 256 ^ 125 + 256) := by
    refine writes_pushSequence none (n := 2 * 256 ^ 125 + 128) (writes_bind hoid fun o ho =>
      writes_pure ?_) (by norm_num)
    simp only [List.length_append]
    omega
  unfold packEncryptedContentInfo
  refine (writes_pushSequence _ (n := 3 * 256 ^ 125 + 584) ?_ (by norm_num)).mono (by norm_num)
  refine writes_bind hct fun c hc => writes_bind halg fun a ha => ?_
  cases blobInEnvelope <;> simp only [Bool.false_eq_true, if_false, if_true]
  · exact writes_bind (writes_pure (n := 0) le_rfl) fun e he =>
      writes_pure (by simp only [List.length_append]; omega)
  · exact writes_bind (writes_writeOctetString _ (by omega)) fun e he =>
      writes_pure (by simp only [List.length_append]; omega)

theorem writes_packEnvelopedData {b : DPAPINGBlob} {pd : String} (blobInEnvelope : Bool)
    (hki : b.keyIdentifier.Packable) (hcek : isValidOid b.encCekAlgorithm)
    (hcontent : isValidOid b.encContentAlgorithm) (hs : b.DerSized pd) :
    Writes (packEnvelopedData b pd blobInEnvelope) (6 * 256 ^ 125 + 2 ^ 37) := by
  have hver : Writes (writeInteger 2) 8 := ⟨_, rfl, by decide⟩
  have hset := writes_pushSet (writes_packRecipientInfo hki hcek hs) (by norm_num)
  refine (writes_pushSequence _ (n := 6 * 256 ^ 125 + 2 ^ 36 + 1160) ?_ (by norm_num)).mono
    (by norm_num)
  refine writes_bind hver fun v hv => writes_bind hset fun r hr =>
    writes_bind (writes_packEncryptedContentInfo blobInEnvelope hcontent hs) fun e he => writes_pure ?_
  simp only [List.length_append]
  omega

/-- **`pack` returns** on a blob whose key identifier is packable, whose algorithms are valid
OIDs and whose fields fit DER, in either placement mode. -/
theorem writes_pack {b : DPAPINGBlob} {pd : String} (blobInEnvelope : Bool)
    (hki : b.keyIdentifier.Packable) (hcek : isValidOid b.encCekAlgorithm)
    (hcontent : isValidOid b.encContentAlgorithm) (hs : b.DerSized pd) :
    Writes (b.pack pd blobInEnvelope) (7 * 256 ^ 125 + 2 ^ 38) := by
  have hD := hs.encContent
  have hct : Writes (writeObjectIdentifier EnvelopedData.contentTypeEnvelopedDataOid) 200 :=
    ⟨_, rfl, by decide⟩
  have hed := writes_pushSequence (some explicitZeroTag)
    (writes_packEnvelopedData blobInEnvelope hki hcek hcontent hs) (by norm_num)
  have hci : Writes (pushSequence none (writeObjectIdentifier EnvelopedData.contentTypeEnvelopedDataOid
      >>= fun contentType => pushSequence (some explicitZeroTag)
        (packEnvelopedData b pd blobInEnvelope) >>= fun content => pure (contentType ++ content)))
      (6 * 256 ^ 125 + 2 ^ 38) := by
    refine (writes_pushSequence _ (n := 6 * 256 ^ 125 + 2 ^ 37 + 328) ?_ (by norm_num)).mono
      (by norm_num)
    refine writes_bind hct fun c hc => writes_bind hed fun e he => writes_pure ?_
    simp only [List.length_append]
    omega
  refine writes_bind hci fun ci hci => writes_pure ?_
  cases blobInEnvelope <;>
    simp only [List.length_append, if_true, Bool.false_eq_true, if_false, List.length_nil] <;> omega

/-- **The blob round trip.**  On a blob whose key identifier is packable, whose algorithms
are valid OIDs, with no CEK parameters, content parameters absent or one DER element, the
security descriptor its protection descriptor SID yields, and fields that fit DER, `pack`
returns in either placement mode and `unpack` gives the blob back. -/
theorem pack_returns_and_unpacks {b : DPAPINGBlob} {pd : String}
    (hki : b.keyIdentifier.Packable) (hcek : isValidOid b.encCekAlgorithm)
    (hcontent : isValidOid b.encContentAlgorithm) (hcekParams : b.encCekParameters = none)
    (hparams : b.encContentParameters = none ∨
      ∃ tag c p, encodeTLV tag c = .ok p ∧ b.encContentParameters = some p)
    (hsd : targetSecurityDescriptor pd = .ok b.securityDescriptor) (hs : b.DerSized pd)
    (blobInEnvelope : Bool) :
    ∃ data, b.pack pd blobInEnvelope = .ok data ∧ unpack data = .ok b := by
  obtain ⟨data, hdata, -⟩ := writes_pack blobInEnvelope hki hcek hcontent hs
  exact ⟨data, hdata, unpack_eq_of_pack_eq_ok hcek hcontent hcekParams hparams hsd hdata⟩

set_option maxRecDepth 8000 in
/-- The round trip on an appended-mode blob. -/
theorem pack_returns_and_unpacks_appended :
    let b : DPAPINGBlob :=
      { keyIdentifier := ⟨1, 2, 361, 17, 9, ⟨List.replicate 16 7, rfl⟩, [1, 2, 3], "a.test", "test"⟩
        securityDescriptor := ((targetSecurityDescriptor "S-1-5-21-3-1001").toOption).getD []
        encCek := [5, 6, 7]
        encCekAlgorithm := "2.16.840.1.101.3.4.1.45"
        encCekParameters := none
        encContent := [9, 9]
        encContentAlgorithm := "2.16.840.1.101.3.4.1.46"
        encContentParameters := none }
    ∃ data, b.pack "S-1-5-21-3-1001" false = .ok data ∧ unpack data = .ok b := by
  intro b
  have hwrap : oidContents "2.16.840.1.101.3.4.1.45" = .ok [96, 134, 72, 1, 101, 3, 4, 1, 45] := by
    decide
  have hgcm : oidContents "2.16.840.1.101.3.4.1.46" = .ok [96, 134, 72, 1, 101, 3, 4, 1, 46] := by
    decide
  exact pack_returns_and_unpacks (b := b)
    ⟨by decide, by decide, by decide, by decide, by decide, by decide, by decide, by decide⟩
    (by decide) (by decide) rfl (.inl rfl) (by decide)
    ⟨by decide, by decide, by decide, fun e he => by cases hwrap.symm.trans he; decide,
      fun e he => by cases hgcm.symm.trans he; decide, by decide⟩ false

/-- `pack` returns only when its enveloped data does. -/
theorem packEnvelopedData_of_pack_eq_ok {b : DPAPINGBlob} {pd : String} {blobInEnvelope : Bool}
    {data : Bytes} (h : b.pack pd blobInEnvelope = .ok data) :
    ∃ e, packEnvelopedData b pd blobInEnvelope = .ok e := by
  simp only [pack, bind_eq_ok, pushSequence_eq_ok] at h
  obtain ⟨_, ⟨_, ⟨_, -, _, ⟨e, he, -⟩, -⟩, -⟩, -⟩ := h
  exact ⟨e, he⟩

/-- In the envelope mode `pack` returns only when the encrypted content's length fits a DER
length: the fields that `DerSized` bounds are written as DER contents. -/
theorem encContent_lt_of_pack_eq_ok {b : DPAPINGBlob} {pd : String} {data : Bytes}
    (h : b.pack pd true = .ok data) : b.encContent.length < 256 ^ 126 := by
  obtain ⟨e, he⟩ := packEnvelopedData_of_pack_eq_ok h
  simp only [packEnvelopedData, packEncryptedContentInfo, pushSequence_eq_ok, bind_eq_ok,
    if_true] at he
  -- the content's `OCTET STRING`, inside the encrypted content info
  obtain ⟨_, ⟨_, -, _, -, _, ⟨_, ⟨_, -, _, -, _, hw, -⟩, -⟩, -⟩, -⟩ := he
  exact lt_of_encodeLength_eq_ok (encodeTLV_eq_ok.1 hw).choose_spec.1

/-- `pack` returns only when the key identifier packs. -/
theorem keyIdentifier_pack_of_pack_eq_ok {b : DPAPINGBlob} {pd : String} {blobInEnvelope : Bool}
    {data : Bytes} (h : b.pack pd blobInEnvelope = .ok data) : ∃ kb, b.keyIdentifier.pack = .ok kb := by
  obtain ⟨e, he⟩ := packEnvelopedData_of_pack_eq_ok h
  simp only [packEnvelopedData, packRecipientInfo, packKekId, pushSet, pushSequence_eq_ok,
    bind_eq_ok] at he
  -- the key identifier, inside the KEK id of the one recipient info
  obtain ⟨_, ⟨_, -, _, ⟨_, ⟨_, ⟨_, -, _, ⟨_, ⟨kb, hkb, -⟩, -⟩, -⟩, -⟩, -⟩, -⟩, -⟩ := he
  exact ⟨kb, hkb⟩

/-- A blob meeting the conditions of the round trip on which `pack` raises: its key info is
2³² octets long, and the key identifier packs its length into four octets. -/
theorem pack_raises_on_long_keyInfo :
    let b : DPAPINGBlob :=
      { keyIdentifier := ⟨1, 0, 0, 0, 0, ⟨List.replicate 16 0, rfl⟩, List.replicate (2 ^ 32) 0,
          "", ""⟩
        securityDescriptor := ((targetSecurityDescriptor "S-1-5-18").toOption).getD []
        encCek := []
        encCekAlgorithm := "2.16.840.1.101.3.4.1.45"
        encCekParameters := none
        encContent := []
        encContentAlgorithm := "2.16.840.1.101.3.4.1.46"
        encContentParameters := none }
    isValidOid b.encCekAlgorithm ∧ isValidOid b.encContentAlgorithm ∧
      targetSecurityDescriptor "S-1-5-18" = .ok b.securityDescriptor ∧
      ∀ blobInEnvelope data, b.pack "S-1-5-18" blobInEnvelope ≠ .ok data := by
  intro b
  refine ⟨by decide, by decide, by decide, fun m d h => ?_⟩
  obtain ⟨kb, hkb⟩ := keyIdentifier_pack_of_pack_eq_ok h
  have := (KeyIdentifier.pack_eq_ok_iff.mp hkb).1.keyInfo
  rw [show b.keyIdentifier.keyInfo = List.replicate (2 ^ 32) 0 from rfl,
    List.length_replicate] at this
  exact absurd this (Nat.lt_irrefl _)

end DPAPINGBlob

end DpapiNg

import DpapiNg.Asn1

/-!
# CMS structures

Modelled from the spec: the `_pkcs7.py` structures that `DPAPINGBlob.unpack` reads are not
among the sources.  The spec names them and their fields: a `ContentInfo` wrapping an
`EnvelopedData`, a set of recipients of which the blob's one is a `KEKRecipientInfo`, its
`KEKIdentifier` with an optional `OtherKeyAttribute`, algorithm identifiers, an
`EncryptedContentInfo` with optional encrypted content, and the `NCryptProtectionDescriptor`
held in the other key attribute.  Each reader follows the CMS layout of the structure it
reads.  An `ANY` field (algorithm parameters, the other key attribute) is whatever follows
the object identifier, and a missing `ANY` is `None`.

## Main definitions

* `readOptional`, `readElements` — optional elements, and the elements of a SET OF.
* `AlgorithmIdentifier`, `KEKRecipientInfo`, `RecipientInfo`, `EncryptedContentInfo`,
  `EnvelopedData`, `ContentInfo`, `NCryptProtectionDescriptor` — the structures and their
  readers.
-/

namespace DpapiNg

/-! ### Optional elements and element lists -/

/-- The contents of the next element if it has the tag `tag`, else nothing read. -/
def readOptional (tag : ASN1Tag) (data : Bytes) : Except PyError (Option Bytes × Bytes) :=
  if data = [] then .ok (none, data)
  else do
    let header ← peekHeader data
    if header.tag = tag then (fun (c, rest) => (some c, rest)) <$> readTagged tag data
    else .ok (none, data)

/-- The elements of SET OF or SEQUENCE OF contents, with their tags; `fuel` bounds their
number, and the length of the contents is always enough. -/
def readElements : ℕ → Bytes → Except PyError (List (ASN1Tag × Bytes))
  | _, [] => .ok []
  | 0, _ :: _ => .error (.asn1Error "too many elements")
  | fuel + 1, b :: data => do
    let (tag, contents, rest) ← readTLV (b :: data)
    let more ← readElements fuel rest
    pure ((tag, contents) :: more)

/-- A SEQUENCE holding an object identifier and an optional `ANY`: what follows the object
identifier, `None` when nothing does. -/
def readOidAndAny (data : Bytes) : Except PyError ((String × Option Bytes) × Bytes) := do
  let (contents, rest) ← readTagged sequenceTag data
  let (oid, any) ← readObjectIdentifier contents
  pure ((oid, if any = [] then none else some any), rest)

@[simp] theorem readElements_nil (fuel : ℕ) : readElements fuel [] = .ok [] := by
  cases fuel <;> rfl

@[simp] theorem readOptional_nil (tag : ASN1Tag) : readOptional tag [] = .ok (none, []) := rfl

theorem readOptional_encodeTLV {tag : ASN1Tag} {contents e : Bytes}
    (h : encodeTLV tag contents = .ok e) (rest : Bytes) :
    readOptional tag (e ++ rest) = .ok (some contents, rest) := by
  have hne : e ++ rest ≠ [] := by simp [encodeTLV_ne_nil h]
  simp only [readOptional, hne, if_false, peekHeader_encodeTLV h, ok_bind, if_true,
    readTagged_encodeTLV h]
  rfl

theorem readOptional_encodeTLV_of_ne {tag t : ASN1Tag} {contents e : Bytes}
    (h : encodeTLV t contents = .ok e) (ht : t ≠ tag) (rest : Bytes) :
    readOptional tag (e ++ rest) = .ok (none, e ++ rest) := by
  have hne : e ++ rest ≠ [] := by simp [encodeTLV_ne_nil h]
  simp only [readOptional, hne, if_false, peekHeader_encodeTLV h, ok_bind, if_neg ht]

/-- A SET OF with one element reads as that element. -/
theorem readElements_encodeTLV {tag : ASN1Tag} {contents e : Bytes}
    (h : encodeTLV tag contents = .ok e) : readElements e.length e = .ok [(tag, contents)] := by
  have hr := readTLV_encodeTLV h []
  rw [List.append_nil] at hr
  obtain ⟨b, bs, rfl⟩ := List.exists_cons_of_ne_nil (encodeTLV_ne_nil h)
  simp only [List.length_cons, readElements, hr, ok_bind, readElements_nil]
  rfl

theorem readOidAndAny_encodeTLV {oid : String} {o any e : Bytes} (hv : isValidOid oid)
    (ho : writeObjectIdentifier oid = .ok o) (he : encodeTLV sequenceTag (o ++ any) = .ok e)
    (rest : Bytes) :
    readOidAndAny (e ++ rest) = .ok ((oid, if any = [] then none else some any), rest) := by
  simp only [readOidAndAny, readTagged_encodeTLV he, ok_bind,
    readObjectIdentifier_writeObjectIdentifier hv ho]
  rfl

/-! ### The structures -/

/-- `AlgorithmIdentifier`. -/
structure AlgorithmIdentifier where
  /-- The algorithm's object identifier. -/
  algorithm : String
  /-- Its parameters. -/
  parameters : Option Bytes
  deriving DecidableEq

/-- Reads an `AlgorithmIdentifier`. -/
def AlgorithmIdentifier.read (data : Bytes) : Except PyError (AlgorithmIdentifier × Bytes) := do
  let ((algorithm, parameters), rest) ← readOidAndAny data
  pure (⟨algorithm, parameters⟩, rest)

/-- `OtherKeyAttribute`. -/
structure OtherKeyAttribute where
  /-- The attribute's object identifier. -/
  keyAttrId : String
  /-- The attribute. -/
  keyAttr : Option Bytes
  deriving DecidableEq

/-- `KEKIdentifier`. -/
structure KEKIdentifier where
  /-- The key identifier octets. -/
  keyIdentifier : Bytes
  /-- The contents of the optional GeneralizedTime. -/
  date : Option Bytes
  /-- The optional other key attribute. -/
  other : Option OtherKeyAttribute
  deriving DecidableEq

/-- Reads a `KEKIdentifier`: the key identifier, an optional date, and an other key attribute
when anything follows. -/
def KEKIdentifier.read (data : Bytes) : Except PyError (KEKIdentifier × Bytes) := do
  let (contents, rest) ← readTagged sequenceTag data
  let (keyIdentifier, afterKey) ← readTagged octetStringTag contents
  let (date, afterDate) ←
    readOptional (.universalTag TypeTagNumber.generalizedTime false) afterKey
  let other ← if afterDate = [] then pure none else do
    let ((keyAttrId, keyAttr), _) ← readOidAndAny afterDate
    pure (some ⟨keyAttrId, keyAttr⟩)
  pure (⟨keyIdentifier, date, other⟩, rest)

/-- `KEKRecipientInfo`. -/
structure KEKRecipientInfo where
  /-- The CMS version. -/
  version : ℤ
  /-- The identifier of the key encryption key. -/
  kekid : KEKIdentifier
  /-- The key encryption algorithm. -/
  keyEncryptionAlgorithm : AlgorithmIdentifier
  /-- The encrypted content encryption key. -/
  encryptedKey : Bytes
  deriving DecidableEq

/-- Reads a `KEKRecipientInfo` from the contents of its `[2]` element. -/
def KEKRecipientInfo.ofContents (contents : Bytes) : Except PyError KEKRecipientInfo := do
  let (version, afterVersion) ← readInteger contents
  let (kekid, afterKekid) ← KEKIdentifier.read afterVersion
  let (algorithm, afterAlgorithm) ← AlgorithmIdentifier.read afterKekid
  let (encryptedKey, _) ← readTagged octetStringTag afterAlgorithm
  pure ⟨version, kekid, algorithm, encryptedKey⟩

/-- The tag `[2]` that marks a `KEKRecipientInfo` among the recipient infos. -/
def kekRecipientInfoTag : ASN1Tag := ⟨.contextSpecific, 2, true⟩

/-- A `RecipientInfo`: a `KEKRecipientInfo`, or a recipient of another kind. -/
inductive RecipientInfo
  /-- A key encryption key recipient. -/
  | kekri (info : KEKRecipientInfo)
  /-- Any other recipient, with its tag and contents. -/
  | other (tag : ASN1Tag) (contents : Bytes)
  deriving DecidableEq

/-- Reads one element of the recipient infos. -/
def RecipientInfo.ofElement (element : ASN1Tag × Bytes) : Except PyError RecipientInfo :=
  if element.1 = kekRecipientInfoTag then .kekri <$> KEKRecipientInfo.ofContents element.2
  else .ok (.other element.1 element.2)

/-- `EncryptedContentInfo`. -/
structure EncryptedContentInfo where
  /-- The type of the encrypted content. -/
  contentType : String
  /-- The content encryption algorithm. -/
  algorithm : AlgorithmIdentifier
  /-- The optional encrypted content. -/
  content : Option Bytes
  deriving DecidableEq

/-- The tag `[0]` of the encrypted content, primitive. -/
def encryptedContentTag : ASN1Tag := ⟨.contextSpecific, 0, false⟩

/-- Reads an `EncryptedContentInfo`. -/
def EncryptedContentInfo.read (data : Bytes) : Except PyError (EncryptedContentInfo × Bytes) := do
  let (contents, rest) ← readTagged sequenceTag data
  let (contentType, afterType) ← readObjectIdentifier contents
  let (algorithm, afterAlgorithm) ← AlgorithmIdentifier.read afterType
  let (content, _) ← readOptional encryptedContentTag afterAlgorithm
  pure (⟨contentType, algorithm, content⟩, rest)

/-- `EnvelopedData.CONTENT_TYPE_ENVELOPED_DATA_OID`, the content type the spec names. -/
def EnvelopedData.contentTypeEnvelopedDataOid : String := "1.2.840.113549.1.7.3"

/-- `EnvelopedData.CONTENT_TYPE_DATA_OID`, the CMS content type of plain data. -/
def EnvelopedData.contentTypeDataOid : String := "1.2.840.113549.1.7.1"

/-- `EnvelopedData`. -/
structure EnvelopedData where
  /-- The CMS version. -/
  version : ℤ
  /-- The recipients. -/
  recipientInfos : List RecipientInfo
  /-- The encrypted content and how it was encrypted. -/
  encryptedContentInfo : EncryptedContentInfo
  deriving DecidableEq

/-- The tag `[0]` of the optional originator info of `EnvelopedData`, and of the content of
`ContentInfo`; both are constructed. -/
def explicitZeroTag : ASN1Tag := ⟨.contextSpecific, 0, true⟩

/-- `EnvelopedData.unpack`: the version, an optional originator info, the recipient infos and
the encrypted content info. -/
def EnvelopedData.unpack (data : Bytes) : Except PyError EnvelopedData := do
  let (contents, _) ← readTagged sequenceTag data
  let (version, afterVersion) ← readInteger contents
  let (_, afterOriginator) ← readOptional explicitZeroTag afterVersion
  let (recipients, afterRecipients) ←
    readTagged (.universalTag TypeTagNumber.set true) afterOriginator
  let elements ← readElements recipients.length recipients
  let recipientInfos ← elements.mapM RecipientInfo.ofElement
  let (encryptedContentInfo, _) ← EncryptedContentInfo.read afterRecipients
  pure ⟨version, recipientInfos, encryptedContentInfo⟩

/-- `ContentInfo`. -/
structure ContentInfo where
  /-- The type of the content. -/
  contentType : String
  /-- The content: the element inside `[0]`. -/
  content : Bytes
  deriving DecidableEq

/-- `ContentInfo.unpack`. -/
def ContentInfo.unpack (data : Bytes) : Except PyError ContentInfo := do
  let (contents, _) ← readTagged sequenceTag data
  let (contentType, afterType) ← readObjectIdentifier contents
  let (content, _) ← readTagged explicitZeroTag afterType
  pure ⟨contentType, content⟩

/-- `NCryptProtectionDescriptor`: the first rule of a protection descriptor. -/
structure NCryptProtectionDescriptor where
  /-- The object identifier of the descriptor's content. -/
  contentType : String
  /-- The type of the rule, such as `SID`. -/
  type : String
  /-- The value of the rule. -/
  value : String
  deriving DecidableEq

/-- `NCryptProtectionDescriptor.unpack`: the content type, then the first type and value pair
of the first rule. -/
def NCryptProtectionDescriptor.unpack (data : Bytes) :
    Except PyError NCryptProtectionDescriptor := do
  let (contents, _) ← readTagged sequenceTag data
  let (contentType, afterType) ← readObjectIdentifier contents
  let (rules, _) ← readTagged sequenceTag afterType
  let (rule, _) ← readTagged sequenceTag rules
  let (pair, _) ← readTagged sequenceTag rule
  let (type, afterName) ← readUtf8String pair
  let (value, _) ← readUtf8String afterName
  pure ⟨contentType, type, value⟩

end DpapiNg

import DpapiNg.Unicode

/-!
# DER

Modelled from the spec: `ASN1Writer`, `ASN1Reader` and `ASN1Tag` of `_asn1.py` are not among
the sources.  The blob codec needs from them the distinguished encoding of X.690 for the
universal types INTEGER, OCTET STRING, OBJECT IDENTIFIER, UTF8String, SEQUENCE and SET and
for context-specific tags, with definite lengths; this is what is modelled.  Tag numbers are
below 31, so that a tag is one identifier octet: the blob uses no other, and the reader
rejects the high-tag-number form.

A writer call is a function returning the octets it appends (or the error it raises); a
`with writer.push_sequence()` block is `pushSequence` applied to the concatenated output of
its body.  A reader call takes the remaining data and returns what it read with the data
after it.

## Main definitions

* `ASN1Tag`, `encodeLength`, `encodeTLV` — identifier, length and contents octets.
* `peekHeader`, `readTLV`, `readTagged` — the reader of one element.
* `integerOctets`, `oidContents`, `isValidOid` — INTEGER and OBJECT IDENTIFIER contents.

## Main results

* `readTLV_encodeTLV` — **the element round trip**, with any data after the element.
* `readObjectIdentifier_writeObjectIdentifier` — valid dotted OIDs are read back as written.
-/

namespace DpapiNg

/-! ### Digits -/

/-- The base-`b` digits of `n`, least significant first and without trailing zeros (none for
`0`); `fuel` bounds the number of divisions, and `n` itself is always enough. -/
def digitsLe (b : ℕ) : ℕ → ℕ → List ℕ
  | 0, _ => []
  | fuel + 1, n => if n = 0 then [] else n % b :: digitsLe b fuel (n / b)

theorem digitsLe_lt {b fuel n d : ℕ} (hb : 0 < b) (h : d ∈ digitsLe b fuel n) : d < b := by
  induction fuel generalizing n with
  | zero => simp [digitsLe] at h
  | succ fuel ih =>
    simp only [digitsLe] at h
    split at h
    · simp at h
    · rcases List.mem_cons.1 h with rfl | h
      exacts [Nat.mod_lt _ hb, ih h]

/-- Reading the digits back, most significant first, gives the number. -/
theorem foldr_digitsLe {b fuel n : ℕ} (hb : 2 ≤ b) (h : n ≤ fuel) :
    (digitsLe b fuel n).foldr (fun d a => a * b + d) 0 = n := by
  induction fuel generalizing n with
  | zero => simp [digitsLe, Nat.le_zero.1 h]
  | succ fuel ih =>
    simp only [digitsLe]
    split
    · simp [*]
    · have hlt : n / b < n := Nat.div_lt_self (by omega) hb
      rw [List.foldr_cons, ih (by omega), Nat.mul_comm, Nat.div_add_mod]

theorem digitsLe_ne_nil {b fuel n : ℕ} (hf : 0 < fuel) (hn : n ≠ 0) : digitsLe b fuel n ≠ [] := by
  obtain ⟨f, rfl⟩ := Nat.exists_eq_succ_of_ne_zero hf.ne'
  simp [digitsLe, hn]

/-- The little-endian reading of octets that are all below 256. -/
theorem fromLe_map_ofNat {ds : List ℕ} (h : ∀ d ∈ ds, d < 256) :
    fromLe (ds.map UInt8.ofNat) = ds.foldr (fun d a => a * 256 + d) 0 := by
  induction ds with
  | nil => rfl
  | cons d ds ih =>
    simp only [List.map_cons, fromLe_cons, List.foldr_cons, List.mem_cons, forall_eq_or_imp] at h ⊢
    rw [ih h.2, UInt8.toNat_ofNat_of_lt h.1]
    ring

/-- The big-endian reading of octets, `int.from_bytes(b, "big")`. -/
def fromBe (bs : Bytes) : ℕ := fromLe bs.reverse

/-! ### Tags -/

/-- `TagClass` of `_asn1.py`: the two high bits of an identifier octet. -/
inductive TagClass
  | universal
  | application
  | contextSpecific
  | «private»
  deriving DecidableEq, Repr

namespace TagClass

/-- The value of the class bits. -/
def bits : TagClass → ℕ
  | universal => 0
  | application => 1
  | contextSpecific => 2
  | «private» => 3

/-- The class whose bits have the value `n`. -/
def ofBits : ℕ → TagClass
  | 0 => universal
  | 1 => application
  | 2 => contextSpecific
  | _ => «private»

@[simp] theorem ofBits_bits (c : TagClass) : ofBits c.bits = c := by cases c <;> rfl

theorem bits_lt (c : TagClass) : c.bits < 4 := by cases c <;> decide

end TagClass

/-! `TypeTagNumber` of `_asn1.py`: the universal tag numbers the codec uses. -/

namespace TypeTagNumber

/-- INTEGER. -/
def integer : Fin 31 := 2
/-- OCTET STRING. -/
def octetString : Fin 31 := 4
/-- OBJECT IDENTIFIER. -/
def objectIdentifier : Fin 31 := 6
/-- UTF8String. -/
def utf8String : Fin 31 := 12
/-- SEQUENCE and SEQUENCE OF. -/
def sequence : Fin 31 := 16
/-- SET and SET OF. -/
def set : Fin 31 := 17
/-- GeneralizedTime. -/
def generalizedTime : Fin 31 := 24

end TypeTagNumber

/-- `ASN1Tag` of `_asn1.py`, with a tag number below 31. -/
structure ASN1Tag where
  /-- The class of the tag. -/
  tagClass : TagClass
  /-- The tag number. -/
  tagNumber : Fin 31
  /-- Whether the contents are themselves elements. -/
  isConstructed : Bool
  deriving DecidableEq, Repr

namespace ASN1Tag

/-- `ASN1Tag.universal_tag`. -/
def universalTag (number : Fin 31) (isConstructed : Bool) : ASN1Tag :=
  ⟨.universal, number, isConstructed⟩

/-- The identifier octet: class, constructed bit, tag number. -/
def octet (t : ASN1Tag) : UInt8 :=
  UInt8.ofNat (t.tagClass.bits * 64 + (if t.isConstructed then 32 else 0) + t.tagNumber)

theorem toNat_octet (t : ASN1Tag) :
    t.octet.toNat = t.tagClass.bits * 64 + (if t.isConstructed then 32 else 0) + t.tagNumber := by
  have := t.tagClass.bits_lt
  have := t.tagNumber.isLt
  rw [octet, UInt8.toNat_ofNat_of_lt (show _ < 256 by split <;> omega)]

end ASN1Tag

/-- Reads the identifier octet. -/
def readTag : Bytes → Except PyError (ASN1Tag × Bytes)
  | [] => .error (.asn1Error "no data for the identifier octet")
  | b :: rest =>
    if h : b.toNat % 32 < 31 then
      .ok (⟨.ofBits (b.toNat / 64), ⟨b.toNat % 32, h⟩, b.toNat / 32 % 2 = 1⟩, rest)
    else .error (.asn1Error "high tag numbers are not supported")

theorem readTag_octet (t : ASN1Tag) (rest : Bytes) : readTag (t.octet :: rest) = .ok (t, rest) := by
  have hv := t.toNat_octet
  have hc := t.tagClass.bits_lt
  have hn := t.tagNumber.isLt
  have hmod : t.octet.toNat % 32 = t.tagNumber := by rw [hv]; split <;> omega
  have hcls : t.octet.toNat / 64 = t.tagClass.bits := by rw [hv]; split <;> omega
  have hk : decide (t.octet.toNat / 32 % 2 = 1) = t.isConstructed := by
    rw [hv]; cases t.isConstructed <;> simp <;> omega
  simp only [readTag, hmod, hn, dite_true, hcls, TagClass.ofBits_bits, hk, Fin.eta]

/-! ### Lengths and elements -/

/-- The length octets: the short form below 128, else the long form, an octet counting the
base-256 digits of the length followed by the digits; X.690 leaves no room for a count of
127 or more. -/
def encodeLength (n : ℕ) : Except PyError Bytes :=
  if n < 128 then .ok [UInt8.ofNat n]
  else
    let ds := (digitsLe 256 n n).reverse.map UInt8.ofNat
    if ds.length < 127 then .ok (UInt8.ofNat (128 + ds.length) :: ds)
    else .error (.asn1Error "length is too large to encode")

/-- Reads the length octets, in the definite forms. -/
def readLength : Bytes → Except PyError (ℕ × Bytes)
  | [] => .error (.asn1Error "no data for the length octets")
  | b :: rest =>
    if b.toNat < 128 then .ok (b.toNat, rest)
    else if b.toNat = 128 then .error (.asn1Error "indefinite lengths are not supported")
    else if b.toNat - 128 ≤ rest.length then
      .ok (fromBe (rest.take (b.toNat - 128)), rest.drop (b.toNat - 128))
    else .error (.asn1Error "not enough data for the length octets")

theorem readLength_encodeLength {n : ℕ} {l : Bytes} (h : encodeLength n = .ok l) (rest : Bytes) :
    readLength (l ++ rest) = .ok (n, rest) := by
  unfold encodeLength at h
  split at h
  · cases h
    simp only [List.singleton_append, readLength, UInt8.toNat_ofNat_of_lt (show n < 256 by omega),
      if_pos ‹n < 128›]
  · dsimp only at h
    split at h
    · cases h
      rename_i _ hds
      set ds := digitsLe 256 n n
      have hne : ds.length ≠ 0 := by
        simpa [List.length_eq_zero] using digitsLe_ne_nil (b := 256) (by omega : 0 < n) (by omega)
      have hlt : ∀ d ∈ ds, d < 256 := fun d hd => digitsLe_lt (by decide) hd
      have hval : fromBe ((ds.reverse.map UInt8.ofNat).take ds.length) = n := by
        rw [List.take_of_length_le (by simp), fromBe, ← List.map_reverse, List.reverse_reverse,
          fromLe_map_ofNat hlt, foldr_digitsLe (by decide) le_rfl]
      simp only [List.length_map, List.length_reverse] at hds
      simp only [List.cons_append, readLength, List.length_map, List.length_reverse,
        UInt8.toNat_ofNat_of_lt (show 128 + ds.length < 256 by omega),
        if_neg (show ¬128 + ds.length < 128 by omega), if_neg (show 128 + ds.length ≠ 128 by omega),
        Nat.add_sub_cancel_left, List.length_append, if_pos (Nat.le_add_right _ _),
        List.take_append_of_le_length (show ds.length ≤ (ds.reverse.map UInt8.ofNat).length by simp),
        hval, List.drop_append_of_le_length (show ds.length ≤ (ds.reverse.map UInt8.ofNat).length by simp),
        List.drop_of_length_le (show (ds.reverse.map UInt8.ofNat).length ≤ ds.length by simp),
        List.nil_append]
    · cases h

/-- One element: the identifier octet, the length octets and the contents. -/
def encodeTLV (tag : ASN1Tag) (contents : Bytes) : Except PyError Bytes := do
  let length ← encodeLength contents.length
  pure (tag.octet :: length ++ contents)

/-- `ASN1Header`: the tag of an element, the number of its identifier and length octets, and
the length of its contents. -/
structure ASN1Header where
  /-- The tag of the element. -/
  tag : ASN1Tag
  /-- The number of identifier and length octets. -/
  tagLength : ℕ
  /-- The length of the contents. -/
  length : ℕ
  deriving DecidableEq

/-- `ASN1Reader.peek_header`. -/
def peekHeader (data : Bytes) : Except PyError ASN1Header := do
  let (tag, afterTag) ← readTag data
  let (length, afterLength) ← readLength afterTag
  pure ⟨tag, data.length - afterLength.length, length⟩

/-- Reads one element: its tag, its contents and the data after it. -/
def readTLV (data : Bytes) : Except PyError (ASN1Tag × Bytes × Bytes) := do
  let header ← peekHeader data
  let body := data.drop header.tagLength
  if header.length ≤ body.length then
    pure (header.tag, body.take header.length, body.drop header.length)
  else .error (.asn1Error "not enough data for the contents")

/-- Reads an element with the tag `tag`: its contents and the data after it. -/
def readTagged (tag : ASN1Tag) (data : Bytes) : Except PyError (Bytes × Bytes) := do
  let (t, contents, rest) ← readTLV data
  if t = tag then pure (contents, rest) else .error (.asn1Error "unexpected tag")

theorem encodeTLV_eq_ok {tag : ASN1Tag} {contents e : Bytes} :
    encodeTLV tag contents = .ok e ↔
      ∃ l, encodeLength contents.length = .ok l ∧ e = tag.octet :: l ++ contents := by
  simp only [encodeTLV, bind_eq_ok, pure, Except.pure, Except.ok.injEq]
  exact exists_congr fun _ => and_congr_right fun _ => eq_comm

theorem peekHeader_encodeTLV {tag : ASN1Tag} {contents e : Bytes}
    (h : encodeTLV tag contents = .ok e) (rest : Bytes) :
    peekHeader (e ++ rest) = .ok ⟨tag, e.length - contents.length, contents.length⟩ := by
  obtain ⟨l, hl, rfl⟩ := encodeTLV_eq_ok.1 h
  simp only [peekHeader, List.cons_append, List.append_assoc, readTag_octet, ok_bind,
    readLength_encodeLength hl, List.length_cons, List.length_append]
  simp only [pure, Except.pure, Except.ok.injEq, ASN1Header.mk.injEq, true_and, and_true]
  omega

theorem readTLV_encodeTLV {tag : ASN1Tag} {contents e : Bytes}
    (h : encodeTLV tag contents = .ok e) (rest : Bytes) :
    readTLV (e ++ rest) = .ok (tag, contents, rest) := by
  have hd : (e ++ rest).drop (e.length - contents.length) = contents ++ rest := by
    obtain ⟨l, -, rfl⟩ := encodeTLV_eq_ok.1 h
    simp only [List.cons_append, List.append_assoc, List.length_cons, List.length_append,
      show l.length + contents.length + 1 - contents.length = (l.length + 1) by omega]
    exact List.drop_left' (by simp)
  simp only [readTLV, peekHeader_encodeTLV h, ok_bind, hd, List.length_append,
    Nat.le_add_right, if_true, List.take_left', List.drop_left']
  rfl

theorem readTagged_encodeTLV {tag : ASN1Tag} {contents e : Bytes}
    (h : encodeTLV tag contents = .ok e) (rest : Bytes) :
    readTagged tag (e ++ rest) = .ok (contents, rest) := by
  simp only [readTagged, readTLV_encodeTLV h, ok_bind, if_true]
  rfl

/-! ### Writers and readers of the universal types -/

/-- The tag of a SEQUENCE, the default of `push_sequence`. -/
def sequenceTag : ASN1Tag := .universalTag TypeTagNumber.sequence true

/-- The tag of an OCTET STRING, the default of `write_octet_string`. -/
def octetStringTag : ASN1Tag := .universalTag TypeTagNumber.octetString false

/-- `ASN1Writer.write_octet_string`: an OCTET STRING unless another tag is given. -/
def writeOctetString (value : Bytes) (tag : Option ASN1Tag) : Except PyError Bytes :=
  encodeTLV (tag.getD octetStringTag) value

/-- `ASN1Writer.push_sequence`: the output of the body in a SEQUENCE unless another tag is
given. -/
def pushSequence (tag : Option ASN1Tag) (body : Except PyError Bytes) : Except PyError Bytes :=
  body >>= encodeTLV (tag.getD sequenceTag)

theorem pushSequence_eq_ok {tag : Option ASN1Tag} {body : Except PyError Bytes} {e : Bytes} :
    pushSequence tag body = .ok e ↔ ∃ c, body = .ok c ∧ encodeTLV (tag.getD sequenceTag) c = .ok e :=
  bind_eq_ok

/-- `ASN1Writer.push_set`. -/
def pushSet (body : Except PyError Bytes) : Except PyError Bytes :=
  body >>= encodeTLV (.universalTag TypeTagNumber.set true)

/-- The number of contents octets of an INTEGER: the least `k ≥ 1` with
`-2^(8k-1) ≤ n < 2^(8k-1)`. -/
def integerLength (n : ℤ) : ℕ :=
  let m := (if 0 ≤ n then n else -n - 1).toNat / 128
  (digitsLe 256 m m).length + 1

/-- The contents of an INTEGER: the shortest two's complement form, most significant octet
first. -/
def integerOctets (n : ℤ) : Bytes :=
  (leBytes (integerLength n) (n % 2 ^ (8 * integerLength n)).toNat).reverse

/-- `ASN1Writer.write_integer`. -/
def writeInteger (value : ℤ) : Except PyError Bytes :=
  encodeTLV (.universalTag TypeTagNumber.integer false) (integerOctets value)

/-- The value of INTEGER contents, read as two's complement. -/
def integerValue : Bytes → ℤ
  | [] => 0
  | b :: c => if b.toNat < 128 then fromBe (b :: c) else fromBe (b :: c) - 2 ^ (8 * (c.length + 1))

/-- `ASN1Reader.read_integer`. -/
def readInteger (data : Bytes) : Except PyError (ℤ × Bytes) := do
  let (contents, rest) ← readTagged (.universalTag TypeTagNumber.integer false) data
  if contents = [] then .error (.asn1Error "INTEGER without contents octets")
  else pure (integerValue contents, rest)

/-- An integer below 128 is one contents octet. -/
theorem integerOctets_of_lt {n : ℤ} (h0 : 0 ≤ n) (h : n < 128) :
    integerOctets n = [UInt8.ofNat n.toNat] := by
  have hm : (if 0 ≤ n then n else -n - 1).toNat / 128 = 0 := by rw [if_pos h0]; omega
  have hl : integerLength n = 1 := by simp only [integerLength, hm]; rfl
  rw [integerOctets, hl, Int.emod_eq_of_lt h0 (by omega)]
  simp [leBytes_succ, leBytes_zero, Nat.mod_eq_of_lt (show n.toNat < 256 by omega)]

theorem readInteger_writeInteger {n : ℤ} {e : Bytes} (h0 : 0 ≤ n) (h : n < 128)
    (hw : writeInteger n = .ok e) (rest : Bytes) : readInteger (e ++ rest) = .ok (n, rest) := by
  rw [writeInteger, integerOctets_of_lt h0 h] at hw
  simp only [readInteger, readTagged_encodeTLV hw, ok_bind, List.cons_ne_nil, if_false,
    integerValue, UInt8.toNat_ofNat_of_lt (show n.toNat < 256 by omega),
    if_pos (show n.toNat < 128 by omega), fromBe, List.reverse_singleton, fromLe_cons, fromLe_nil]
  simp only [pure, Except.pure, Except.ok.injEq, Prod.mk.injEq, and_true]
  omega

/-- The octets of one subidentifier: its base-128 digits, most significant first, with bit 8
set on every octet but the last. -/
def base128 (n : ℕ) : Bytes :=
  ((digitsLe 128 (n / 128) (n / 128)).reverse.map fun d => UInt8.ofNat (d + 128)) ++
    [UInt8.ofNat (n % 128)]

/-- `int(arc)` on a string of ASCII decimal digits; the model of `int` accepts nothing else. -/
def parseDecimal (s : List Char) : Option ℕ :=
  if s ≠ [] ∧ s.all Char.isDigit then some (s.foldl (fun n c => n * 10 + (c.toNat - 48)) 0)
  else none

/-- The arcs of a dotted OID, `[int(arc) for arc in oid.split(".")]`. -/
def oidArcs (oid : String) : Option (List ℕ) := (oid.toList.splitOn '.').mapM parseDecimal

/-- The dotted form of arcs, `".".join(str(arc) for arc in arcs)`. -/
def dottedOid (arcs : List ℕ) : String := ".".intercalate (arcs.map Nat.repr)

/-- A valid dotted OID: at least two arcs in canonical decimal, the first at most 2 and the
second below 40 unless the first is 2 (X.690 §8.19.4). -/
def isValidOid (oid : String) : Bool :=
  match oidArcs oid with
  | some (a :: b :: rest) => (a < 2 && b < 40 || a == 2) && dottedOid (a :: b :: rest) == oid
  | _ => false

/-- The contents of an OBJECT IDENTIFIER: the first two arcs as one subidentifier
`40 * a + b`, then the other arcs, each in base 128. -/
def oidContents (oid : String) : Except PyError Bytes :=
  match oidArcs oid with
  | some (a :: b :: rest) => .ok (((a * 40 + b) :: rest).flatMap base128)
  | _ => .error (.asn1Error "illegal object identifier")

/-- `ASN1Writer.write_object_identifier`. -/
def writeObjectIdentifier (oid : String) : Except PyError Bytes :=
  oidContents oid >>= encodeTLV (.universalTag TypeTagNumber.objectIdentifier false)

/-- Reads the subidentifiers of OBJECT IDENTIFIER contents; `acc` is the value read so far of
the current subidentifier and `pending` whether one has begun. -/
def readSubidentifiers : Bool → ℕ → Bytes → Except PyError (List ℕ)
  | false, _, [] => .ok []
  | true, _, [] => .error (.asn1Error "truncated subidentifier")
  | _, acc, b :: rest =>
    if b.toNat < 128 then
      readSubidentifiers false 0 rest >>= fun ns => .ok ((acc * 128 + b.toNat) :: ns)
    else readSubidentifiers true (acc * 128 + (b.toNat - 128)) rest

/-- The first two arcs, from the first subidentifier. -/
def firstArcs (n : ℕ) : List ℕ :=
  if n < 40 then [0, n] else if n < 80 then [1, n - 40] else [2, n - 80]

/-- `ASN1Reader.read_object_identifier`. -/
def readObjectIdentifier (data : Bytes) : Except PyError (String × Bytes) := do
  let (contents, rest) ← readTagged (.universalTag TypeTagNumber.objectIdentifier false) data
  match ← readSubidentifiers false 0 contents with
  | first :: more => pure (dottedOid (firstArcs first ++ more), rest)
  | [] => .error (.asn1Error "OBJECT IDENTIFIER without contents octets")

/-- `ASN1Reader.read_utf8_string`. -/
def readUtf8String (data : Bytes) : Except PyError (String × Bytes) := do
  let (contents, rest) ← readTagged (.universalTag TypeTagNumber.utf8String false) data
  let cs ← decodeUtf8 contents
  pure (String.mk cs, rest)

/-- Octets with bit 8 set carry a subidentifier on to the next octet. -/
theorem readSubidentifiers_continued {ds : List ℕ} (hds : ∀ d ∈ ds, d < 128) (p : Bool)
    (acc : ℕ) {r : ℕ} (hr : r < 128) (rest : Bytes) :
    readSubidentifiers p acc
        ((ds.map fun d => UInt8.ofNat (d + 128)) ++ UInt8.ofNat r :: rest) =
      readSubidentifiers false 0 rest >>= fun ns =>
        .ok ((ds.foldl (fun a d => a * 128 + d) acc * 128 + r) :: ns) := by
  induction ds generalizing p acc with
  | nil =>
    cases p <;>
      simp only [List.map_nil, List.nil_append, List.foldl_nil, readSubidentifiers,
        UInt8.toNat_ofNat_of_lt (show r < 256 by omega), if_pos hr]
  | cons d ds ih =>
    have hd := hds d (List.mem_cons_self _ _)
    have hv : (UInt8.ofNat (d + 128)).toNat = d + 128 :=
      UInt8.toNat_ofNat_of_lt (show d + 128 < 256 by omega)
    cases p <;>
      simp only [List.map_cons, List.cons_append, List.foldl_cons, readSubidentifiers, hv,
        List.append_eq,
        if_neg (show ¬d + 128 < 128 by omega), Nat.add_sub_cancel,
        ih (fun d h => hds d (List.mem_cons_of_mem _ h))]

theorem readSubidentifiers_base128 (n : ℕ) (p : Bool) (rest : Bytes) :
    readSubidentifiers p 0 (base128 n ++ rest) =
      readSubidentifiers false 0 rest >>= fun ns => .ok (n :: ns) := by
  have hlt : ∀ d ∈ (digitsLe 128 (n / 128) (n / 128)).reverse, d < 128 :=
    fun d hd => digitsLe_lt (by decide) (List.mem_reverse.1 hd)
  rw [base128, List.append_assoc, List.singleton_append,
    readSubidentifiers_continued hlt p 0 (Nat.mod_lt _ (by decide)), List.foldl_reverse,
    foldr_digitsLe (by decide) le_rfl, Nat.div_add_mod']

theorem readSubidentifiers_flatMap (ns : List ℕ) :
    readSubidentifiers false 0 (ns.flatMap base128) = .ok ns := by
  induction ns with
  | nil => rfl
  | cons n ns ih => rw [List.flatMap_cons, readSubidentifiers_base128, ih]; rfl

theorem firstArcs_arcs {a b : ℕ} (h : a < 2 ∧ b < 40 ∨ a = 2) : firstArcs (a * 40 + b) = [a, b] := by
  unfold firstArcs
  split_ifs <;> simp only [List.cons.injEq, and_true] <;> omega

theorem readObjectIdentifier_writeObjectIdentifier {oid : String} {e : Bytes}
    (hv : isValidOid oid) (hw : writeObjectIdentifier oid = .ok e) (rest : Bytes) :
    readObjectIdentifier (e ++ rest) = .ok (oid, rest) := by
  unfold isValidOid at hv
  unfold writeObjectIdentifier oidContents at hw
  split at hv
  · rename_i a b arcs harcs
    simp only [harcs, ok_bind] at hw
    simp only [Bool.and_eq_true, Bool.or_eq_true, decide_eq_true_eq, beq_iff_eq] at hv
    simp only [readObjectIdentifier, readTagged_encodeTLV hw, ok_bind, readSubidentifiers_flatMap,
      firstArcs_arcs hv.1, List.cons_append, List.nil_append, hv.2]
    rfl
  · cases hv

theorem encodeTLV_ne_nil {tag : ASN1Tag} {contents e : Bytes} (h : encodeTLV tag contents = .ok e) :
    e ≠ [] := by
  obtain ⟨l, -, rfl⟩ := encodeTLV_eq_ok.1 h
  exact List.cons_ne_nil _ _

theorem readTagged_encodeTLV_self {tag : ASN1Tag} {contents e : Bytes}
    (h : encodeTLV tag contents = .ok e) : readTagged tag e = .ok (contents, []) := by
  simpa using readTagged_encodeTLV h []

theorem readUtf8String_encodeTLV {cs : List Char} {e : Bytes}
    (h : encodeTLV (.universalTag TypeTagNumber.utf8String false) (encodeUtf8 cs) = .ok e)
    (rest : Bytes) : readUtf8String (e ++ rest) = .ok (String.mk cs, rest) := by
  simp only [readUtf8String, readTagged_encodeTLV h, ok_bind, decodeUtf8_encodeUtf8]
  rfl

/-! ### Writers that return

DER counts the length of an element in at most 126 octets, so the writer returns on every
element whose contents are shorter than `256 ^ 126` octets.  `Writes x n` says that a writer
call returns at most `n` octets; the lemmas below carry such bounds through a nesting of
elements. -/

/-- The writer call `x` returns octets, at most `n` of them. -/
def Writes (x : Except PyError Bytes) (n : ℕ) : Prop := ∃ e, x = .ok e ∧ e.length ≤ n

theorem Writes.mono {x : Except PyError Bytes} {n m : ℕ} (h : Writes x n) (hnm : n ≤ m) :
    Writes x m :=
  let ⟨e, he, hn⟩ := h
  ⟨e, he, Nat.le_trans hn hnm⟩

theorem writes_pure {e : Bytes} {n : ℕ} (h : e.length ≤ n) : Writes (pure e) n := ⟨e, rfl, h⟩

theorem writes_bind {x : Except PyError Bytes} {f : Bytes → Except PyError Bytes} {n m : ℕ}
    (hx : Writes x n) (hf : ∀ a, a.length ≤ n → Writes (f a) m) : Writes (x >>= f) m :=
  let ⟨a, ha, hn⟩ := hx
  ha ▸ hf a hn

/-- A number below `b ^ k` has at most `k` digits in base `b`. -/
theorem length_digitsLe_le {b fuel n k : ℕ} (hb : 2 ≤ b) (h : n < b ^ k) :
    (digitsLe b fuel n).length ≤ k := by
  induction fuel generalizing n k with
  | zero => exact Nat.zero_le _
  | succ fuel ih =>
    simp only [digitsLe]
    split
    · exact Nat.zero_le _
    · obtain ⟨k, rfl⟩ : ∃ k', k = k' + 1 :=
        Nat.exists_eq_succ_of_ne_zero fun hk => by simp_all
      rw [List.length_cons, Nat.add_le_add_iff_right]
      exact ih ((Nat.div_lt_iff_lt_mul (by omega)).2 (by rwa [← Nat.pow_succ]))

/-- A number of at least `b ^ k` has more than `k` digits in base `b`. -/
theorem lt_length_digitsLe {b fuel n k : ℕ} (hb : 2 ≤ b) (h : b ^ k ≤ n) (hn : n ≤ fuel) :
    k < (digitsLe b fuel n).length := by
  have hpow := Nat.pos_pow_of_pos k (show 0 < b by omega)
  induction fuel generalizing n k with
  | zero => omega
  | succ fuel ih =>
    rw [digitsLe, if_neg (by omega), List.length_cons]
    cases k with
    | zero => exact Nat.succ_pos _
    | succ k =>
      have hdiv : b ^ k ≤ n / b := (Nat.le_div_iff_mul_le (by omega)).2 (by rwa [← Nat.pow_succ])
      have := Nat.div_lt_self (show 0 < n by omega) (show 1 < b by omega)
      exact Nat.succ_lt_succ (ih hdiv (by omega) (Nat.pos_pow_of_pos k (by omega)))

/-- DER counts no length of `256 ^ 126` or more. -/
theorem lt_of_encodeLength_eq_ok {n : ℕ} {l : Bytes} (h : encodeLength n = .ok l) : n < 256 ^ 126 := by
  by_contra hn
  have hlong : 126 < (digitsLe 256 n n).length :=
    lt_length_digitsLe (by decide) (Nat.le_of_not_lt hn) le_rfl
  rw [encodeLength, if_neg (by omega)] at h
  simp only [List.length_map, List.length_reverse, if_neg (Nat.not_lt.2 hlong)] at h
  cases h

/-- A length below `256 ^ 126` is encoded, in at most 127 octets. -/
theorem encodeLength_ok {n : ℕ} (h : n < 256 ^ 126) :
    ∃ l, encodeLength n = .ok l ∧ l.length ≤ 127 := by
  unfold encodeLength
  split
  · exact ⟨_, rfl, by simp⟩
  · have : (digitsLe 256 n n).length ≤ 126 := length_digitsLe_le (by decide) h
    rw [if_pos (by simp; omega)]
    exact ⟨_, rfl, by simp; omega⟩

theorem writes_encodeTLV (tag : ASN1Tag) {c : Bytes} (h : c.length < 256 ^ 126) :
    Writes (encodeTLV tag c) (c.length + 128) := by
  obtain ⟨l, hl, hlen⟩ := encodeLength_ok h
  refine ⟨_, encodeTLV_eq_ok.2 ⟨l, hl, rfl⟩, ?_⟩
  simp only [List.cons_append, List.length_cons, List.length_append]
  omega

/-- An element around a body that returns at most `n < 256 ^ 126` octets. -/
theorem writes_pushSequence (tag : Option ASN1Tag) {body : Except PyError Bytes} {n : ℕ}
    (h : Writes body n) (hn : n < 256 ^ 126) : Writes (pushSequence tag body) (n + 128) :=
  writes_bind h fun _ ha => (writes_encodeTLV _ (by omega)).mono (by omega)

theorem writes_pushSet {body : Except PyError Bytes} {n : ℕ} (h : Writes body n)
    (hn : n < 256 ^ 126) : Writes (pushSet body) (n + 128) :=
  writes_bind h fun _ ha => (writes_encodeTLV _ (by omega)).mono (by omega)

theorem writes_writeOctetString {value : Bytes} (tag : Option ASN1Tag)
    (h : value.length < 256 ^ 126) : Writes (writeOctetString value tag) (value.length + 128) :=
  writes_encodeTLV _ h

/-- A valid OID, whose contents are at most `n < 256 ^ 126` octets, is written. -/
theorem writes_writeObjectIdentifier {oid : String} {n : ℕ} (hv : isValidOid oid)
    (hc : ∀ e, oidContents oid = .ok e → e.length ≤ n) (hn : n < 256 ^ 126) :
    Writes (writeObjectIdentifier oid) (n + 128) := by
  obtain ⟨e, he⟩ : ∃ e, oidContents oid = .ok e := by
    unfold isValidOid at hv
    unfold oidContents
    split at hv
    · exact ⟨_, rfl⟩
    · cases hv
  rw [writeObjectIdentifier, he, ok_bind]
  have := hc e he
  exact (writes_encodeTLV _ (by omega)).mono (by omega)

end DpapiNg

import DpapiNg.Unicode

/-!
# The key identifier

`KeyIdentifier` of `_blob.py`: the `KDSK` structure naming one leaf of the group key seed
tree, carried by a DPAPI-NG blob as the `keyIdentifier` octet string of its KEK recipient.
`pack` lays it out as a 52-octet header (five little-endian 32-bit integers around the
magic, the root key id as `bytes_le`, and three lengths) followed by the key info and the
NUL-terminated UTF-16LE domain and forest names; `unpack` reads it back.

The two directions do not check the same things.  `pack` raises `OverflowError` when a field
does not fit its four octets: an integer field outside `[0, 2^32)`, but also a key info or a
name of 2³² octets or more, since their lengths are packed the same way.  `unpack` checks the
magic and the length of the UUID slice and nothing else: the stored lengths are never compared
with the buffer, a name length below 2 slices from the end of the buffer, and the two octets
taken to be the NUL terminator are dropped unread.

## Main definitions

* `KeyIdentifier`, `KeyIdentifier.pack`, `KeyIdentifier.unpack` — the structure and its codec.
* `KeyIdentifier.Packable` — every field of an identifier fits its four octets.
* `storedKeyInfoLen`, `storedDomainLen`, `storedForestLen` — the lengths a buffer declares.

## Main results

* `KeyIdentifier.pack_eq_ok_iff` — `pack` returns exactly on packable identifiers.
* `KeyIdentifier.unpack_pack` — **the round trip**: unpacking a packed identifier gives it back.
* `KeyIdentifier.pack_unpack_of_wellFormed` — **canonicity**: an accepted buffer whose declared
  lengths fit it and whose names end in NUL pairs starts with the packing of what it decodes to.
-/

namespace DpapiNg

/-- `KeyIdentifier` of `_blob.py`. -/
structure KeyIdentifier where
  /-- The version of the structure, should be 1. -/
  version : ℤ
  /-- Flags describing the values inside the structure; bit 0 is `is_public_key`. -/
  flags : ℤ
  /-- The L0 index of the key. -/
  l0 : ℤ
  /-- The L1 index of the key. -/
  l1 : ℤ
  /-- The L2 index of the key. -/
  l2 : ℤ
  /-- The root key identifier. -/
  rootKeyIdentifier : UUID
  /-- The public key if `is_public_key`, else the key's KDF context. -/
  keyInfo : Bytes
  /-- The domain name of the server in DNS format. -/
  domainName : String
  /-- The forest name of the server in DNS format. -/
  forestName : String
  deriving DecidableEq

namespace KeyIdentifier

/-- The magic `b"KDSK"`. -/
def magic : Bytes := [0x4B, 0x44, 0x53, 0x4B]

/-- `is_public_key`: bit 0 of the flags. -/
def isPublicKey (k : KeyIdentifier) : Bool := k.flags % 2 == 1

/-- `(name + "\00").encode("utf-16-le")`. -/
def encodeName (name : String) : Bytes := encodeUtf16le (name ++ "\x00").toList

theorem encodeName_eq (name : String) : encodeName name = encodeUtf16le name.toList ++ [0, 0] := by
  rw [encodeName, String.toList, String.data_append, ← encodeUtf16le_nul, ← encodeUtf16le_append]
  rfl

/-- `KeyIdentifier.pack`.  Every field goes through `to_bytes(4, "little")`, the three
lengths included, and the first that does not fit raises. -/
def pack (k : KeyIdentifier) : Except PyError Bytes := do
  let bDomainName := encodeName k.domainName
  let bForestName := encodeName k.forestName
  let version ← toBytes 4 k.version
  let flags ← toBytes 4 k.flags
  let l0 ← toBytes 4 k.l0
  let l1 ← toBytes 4 k.l1
  let l2 ← toBytes 4 k.l2
  let keyInfoLen ← toBytes 4 k.keyInfo.length
  let domainLen ← toBytes 4 bDomainName.length
  let forestLen ← toBytes 4 bForestName.length
  pure (version ++ magic ++ flags ++ l0 ++ l1 ++ l2 ++ k.rootKeyIdentifier.bytesLe ++
    keyInfoLen ++ domainLen ++ forestLen ++ k.keyInfo ++ bDomainName ++ bForestName)

/-- `KeyIdentifier.unpack`. -/
def unpack (data : Bytes) : Except PyError KeyIdentifier :=
  let version := fromLe (slice data 0 4)
  if slice data 4 8 ≠ magic then
    .error (.valueError "Failed to unpack KeyIdentifier as magic identifier is invalid")
  else do
    let flags := fromLe (slice data 8 12)
    let l0Index := fromLe (slice data 12 16)
    let l1Index := fromLe (slice data 16 20)
    let l2Index := fromLe (slice data 20 24)
    let rootKeyIdentifier ← UUID.ofBytesLe (slice data 24 40)
    let keyInfoLen := fromLe (slice data 40 44)
    let domainLen := fromLe (slice data 44 48)
    let forestLen := fromLe (slice data 48 52)
    let view := data.drop 52
    let keyInfo := view.take keyInfoLen
    let view := view.drop keyInfoLen
    -- Take away 2 for the final null padding
    let domain ← decodeUtf16le (sliceTo view (domainLen - 2))
    let view := view.drop domainLen
    let forest ← decodeUtf16le (sliceTo view (forestLen - 2))
    pure ⟨version, flags, l0Index, l1Index, l2Index, rootKeyIdentifier, keyInfo,
      String.mk domain, String.mk forest⟩

/-! ### Packing -/

/-- Every field of `k` fits the four octets `pack` gives it. -/
structure Packable (k : KeyIdentifier) : Prop where
  version : 0 ≤ k.version ∧ k.version < 2 ^ 32
  flags : 0 ≤ k.flags ∧ k.flags < 2 ^ 32
  l0 : 0 ≤ k.l0 ∧ k.l0 < 2 ^ 32
  l1 : 0 ≤ k.l1 ∧ k.l1 < 2 ^ 32
  l2 : 0 ≤ k.l2 ∧ k.l2 < 2 ^ 32
  keyInfo : k.keyInfo.length < 2 ^ 32
  domainName : (encodeName k.domainName).length < 2 ^ 32
  forestName : (encodeName k.forestName).length < 2 ^ 32

theorem toBytes_four_eq_ok_iff {n : ℤ} {b : Bytes} :
    toBytes 4 n = .ok b ↔ (0 ≤ n ∧ n < 2 ^ 32) ∧ b = leBytes 4 n.toNat := by
  rw [toBytes_eq_ok_iff, and_assoc, show (256 : ℤ) ^ 4 = 2 ^ 32 from rfl]

/-- `pack` returns exactly on packable identifiers, and then lays the fields out in order. -/
theorem pack_eq_ok_iff {k : KeyIdentifier} {b : Bytes} :
    k.pack = .ok b ↔ k.Packable ∧ b = leBytes 4 k.version.toNat ++ magic ++
      leBytes 4 k.flags.toNat ++ leBytes 4 k.l0.toNat ++ leBytes 4 k.l1.toNat ++
      leBytes 4 k.l2.toNat ++ k.rootKeyIdentifier.bytesLe ++ leBytes 4 k.keyInfo.length ++
      leBytes 4 (encodeName k.domainName).length ++ leBytes 4 (encodeName k.forestName).length ++
      k.keyInfo ++ encodeName k.domainName ++ encodeName k.forestName := by
  simp only [pack, bind_eq_ok, toBytes_four_eq_ok_iff]
  constructor
  · rintro ⟨_, ⟨hv, rfl⟩, _, ⟨hf, rfl⟩, _, ⟨h0, rfl⟩, _, ⟨h1, rfl⟩, _, ⟨h2, rfl⟩, _, ⟨hk, rfl⟩,
      _, ⟨hd, rfl⟩, _, ⟨hfo, rfl⟩, hb⟩
    cases hb
    exact ⟨⟨hv, hf, h0, h1, h2, by omega, by omega, by omega⟩, rfl⟩
  · rintro ⟨h, rfl⟩
    have := h.keyInfo; have := h.domainName; have := h.forestName
    exact ⟨_, ⟨h.version, rfl⟩, _, ⟨h.flags, rfl⟩, _, ⟨h.l0, rfl⟩, _, ⟨h.l1, rfl⟩, _, ⟨h.l2, rfl⟩,
      _, ⟨by omega, rfl⟩, _, ⟨by omega, rfl⟩, _, ⟨by omega, rfl⟩, rfl⟩

/-! ### Unpacking a packed identifier -/

@[simp] theorem length_magic : magic.length = 4 := rfl

theorem fromLe_leBytes_four {n : ℕ} (h : n < 2 ^ 32) : fromLe (leBytes 4 n) = n := by
  rw [fromLe_leBytes, Nat.mod_eq_of_lt (by omega)]

theorem fromLe_leBytes_toNat_four {n : ℤ} (h : 0 ≤ n ∧ n < 2 ^ 32) :
    (fromLe (leBytes 4 n.toNat) : ℤ) = n := by
  rw [fromLe_leBytes_four (by omega)]; omega

/-- Dropping the last two octets of a packed name leaves the name's own encoding. -/
theorem sliceTo_encodeName (name : String) (rest : Bytes) :
    sliceTo (encodeName name ++ rest) ((encodeName name).length - 2) =
      encodeUtf16le name.toList := by
  rw [sliceTo_of_nonneg _ (by simp [encodeName_eq]), encodeName_eq, List.append_assoc]
  exact List.take_left' (by simp)

theorem sliceTo_encodeName_self (name : String) :
    sliceTo (encodeName name) ((encodeName name).length - 2) = encodeUtf16le name.toList := by
  simpa using sliceTo_encodeName name []

/-- `unpack` reads back whatever `pack` wrote. -/
theorem unpack_of_pack_eq_ok {k : KeyIdentifier} {b : Bytes} (hb : k.pack = .ok b) :
    unpack b = .ok k := by
  obtain ⟨h, rfl⟩ := pack_eq_ok_iff.mp hb
  simp only [List.append_assoc]
  simp (disch := simp) only [unpack, slice_append_left, slice_append_right, slice_self,
    length_leBytes, length_magic, UUID.length_bytesLe', drop_append_right, Nat.reduceSub]
  simp only [fromLe_leBytes_toNat_four h.version, fromLe_leBytes_toNat_four h.flags,
    fromLe_leBytes_toNat_four h.l0, fromLe_leBytes_toNat_four h.l1, fromLe_leBytes_toNat_four h.l2,
    fromLe_leBytes_four h.keyInfo, fromLe_leBytes_four h.domainName,
    fromLe_leBytes_four h.forestName, List.take_left', List.drop_left', List.drop_zero, ne_eq,
    not_true_eq_false, if_false, UUID.ofBytesLe_bytesLe, ok_bind, sliceTo_encodeName,
    sliceTo_encodeName_self, decodeUtf16le_encodeUtf16le]
  rfl

/-- **The round trip.**  Unpacking a packed identifier gives it back, for every packable
identifier: every UUID, every key info, and every domain and forest name, surrogate pairs and
embedded NULs included. -/
theorem unpack_pack {k : KeyIdentifier} (h : k.Packable) : k.pack >>= unpack = .ok k := by
  obtain ⟨b, hb⟩ : ∃ b, k.pack = .ok b := ⟨_, pack_eq_ok_iff.mpr ⟨h, rfl⟩⟩
  rw [hb, ok_bind, unpack_of_pack_eq_ok hb]

/-- A packable identifier whose domain holds an embedded NUL and a character outside the
Basic Multilingual Plane, written as a surrogate pair. -/
theorem unpack_pack_surrogate_pair :
    let k : KeyIdentifier := ⟨1, 2, 361, 16, 3, ⟨List.replicate 16 7, rfl⟩, [9, 9],
      String.mk ['d', '\x00', Char.ofNat 0x1F600], "forest"⟩
    k.Packable ∧ k.pack >>= unpack = .ok k :=
  have h : KeyIdentifier.Packable ⟨1, 2, 361, 16, 3, ⟨List.replicate 16 7, rfl⟩, [9, 9],
      String.mk ['d', '\x00', Char.ofNat 0x1F600], "forest"⟩ :=
    ⟨by decide, by decide, by decide, by decide, by decide, by decide, by decide, by decide⟩
  ⟨h, unpack_pack h⟩

/-- A key info of 2³² octets cannot be packed: its length overflows the four octets `pack`
gives it, so `pack` raises `OverflowError` and there is nothing to unpack, although every
integer field is in range and both names are short. -/
theorem pack_overflows_keyInfo :
    let k : KeyIdentifier := ⟨1, 0, 0, 0, 0, ⟨List.replicate 16 0, rfl⟩, List.replicate (2 ^ 32) 0,
      "", ""⟩
    (encodeName k.domainName).length < 2 ^ 32 ∧ (encodeName k.forestName).length < 2 ^ 32 ∧
      k.pack >>= unpack ≠ .ok k := by
  intro k
  refine ⟨show (encodeName "").length < 2 ^ 32 by decide,
    show (encodeName "").length < 2 ^ 32 by decide, fun h => ?_⟩
  obtain ⟨b, hb, -⟩ := bind_eq_ok.mp h
  have := (pack_eq_ok_iff.mp hb).1.keyInfo
  rw [show k.keyInfo = List.replicate (2 ^ 32) 0 from rfl, List.length_replicate] at this
  exact absurd this (Nat.lt_irrefl _)

/-! ### What `unpack` accepts -/

/-- The key info length a buffer declares, at offset 40. -/
def storedKeyInfoLen (data : Bytes) : ℕ := fromLe (slice data 40 44)

/-- The domain name length a buffer declares, at offset 44, terminator included. -/
def storedDomainLen (data : Bytes) : ℕ := fromLe (slice data 44 48)

/-- The forest name length a buffer declares, at offset 48, terminator included. -/
def storedForestLen (data : Bytes) : ℕ := fromLe (slice data 48 52)

theorem leBytes_fromLe_slice {data : Bytes} {a b : ℕ} (hab : a + 4 = b) (h : b ≤ data.length) :
    leBytes 4 (fromLe (slice data a b)) = slice data a b := by
  have hl : (slice data a b).length = 4 := by simp; omega
  have := leBytes_fromLe (slice data a b)
  rwa [hl] at this

theorem sliceTo_drop {data : Bytes} {a d : ℕ} (hd : 2 ≤ d) :
    sliceTo (data.drop a) ((d : ℤ) - 2) = slice data a (a + (d - 2)) := by
  rw [sliceTo_of_nonneg _ (by omega), take_drop_eq_slice]
  congr 2; omega

/-- A name field ending in the NUL pair is the packing of the name it decodes to. -/
theorem encodeName_of_decode {data : Bytes} {a d : ℕ} {cs : List Char} (hd : 2 ≤ d)
    (hdec : decodeUtf16le (sliceTo (data.drop a) ((d : ℤ) - 2)) = .ok cs)
    (hnul : slice data (a + d - 2) (a + d) = [0, 0]) :
    encodeName (String.mk cs) = slice data a (a + d) := by
  rw [sliceTo_drop hd] at hdec
  rw [encodeName_eq, show (String.mk cs).toList = cs from rfl, encodeUtf16le_of_decodeUtf16le hdec,
    ← hnul, show a + (d - 2) = a + d - 2 by omega, slice_append_slice _ (by omega) (by omega)]

/-- `unpack` accepts a bare header whose three lengths are zero: the names are sliced with
`view[:-2]` and come out empty, and packing them back writes the lengths 2 and the NUL pairs
the buffer never held. -/
theorem unpack_accepts_short_names :
    let data : Bytes := [1, 0, 0, 0] ++ magic ++ List.replicate 44 0
    unpack data = .ok ⟨1, 0, 0, 0, 0, ⟨List.replicate 16 0, rfl⟩, [], "", ""⟩ ∧
      52 + storedKeyInfoLen data + storedDomainLen data + storedForestLen data ≤ data.length ∧
      unpack data >>= pack ≠ .ok (data.take
        (52 + storedKeyInfoLen data + storedDomainLen data + storedForestLen data)) := by
  decide

/-- **Canonicity.**  When a buffer `unpack` accepts is as long as its declared lengths, names
at least its two-octet terminator, and ends each name in the NUL pair, `pack` gives back
exactly the prefix those lengths span.  `unpack` checks none of the conditions. -/
theorem pack_unpack_of_wellFormed {data : Bytes} {ki : KeyIdentifier} (h : unpack data = .ok ki)
    (hlen : 52 + storedKeyInfoLen data + storedDomainLen data + storedForestLen data ≤ data.length)
    (hD : 2 ≤ storedDomainLen data) (hF : 2 ≤ storedForestLen data)
    (hDnul : slice data (50 + storedKeyInfoLen data + storedDomainLen data)
      (52 + storedKeyInfoLen data + storedDomainLen data) = [0, 0])
    (hFnul : slice data (50 + storedKeyInfoLen data + storedDomainLen data + storedForestLen data)
      (52 + storedKeyInfoLen data + storedDomainLen data + storedForestLen data) = [0, 0]) :
    ki.pack = .ok (data.take (52 + storedKeyInfoLen data + storedDomainLen data +
      storedForestLen data)) := by
  unfold storedKeyInfoLen storedDomainLen storedForestLen at *
  unfold unpack at h
  split at h
  · cases h
  rename_i hm
  obtain ⟨u, hu, h⟩ := bind_eq_ok.mp h
  obtain ⟨dc, hdc, h⟩ := bind_eq_ok.mp h
  obtain ⟨fc, hfc, h⟩ := bind_eq_ok.mp h
  cases h
  rw [not_not] at hm
  simp only [List.drop_drop, ← Nat.add_assoc] at hdc hfc
  have hdom := encodeName_of_decode hD hdc (by rw [← hDnul]; congr 1; omega)
  have hfor := encodeName_of_decode hF hfc (by rw [← hFnul]; congr 1; omega)
  have hK : fromLe (slice data 40 44) < 2 ^ 32 := fromLe_slice_lt data 40
  have hDl : fromLe (slice data 44 48) < 2 ^ 32 := fromLe_slice_lt data 44
  have hFl : fromLe (slice data 48 52) < 2 ^ 32 := fromLe_slice_lt data 48
  have hki : (slice data 52 (52 + fromLe (slice data 40 44))).length = fromLe (slice data 40 44) := by
    simp; omega
  have hdl : (slice data (52 + fromLe (slice data 40 44))
      (52 + fromLe (slice data 40 44) + fromLe (slice data 44 48))).length =
      fromLe (slice data 44 48) := by simp; omega
  have hfl : (slice data (52 + fromLe (slice data 40 44) + fromLe (slice data 44 48))
      (52 + fromLe (slice data 40 44) + fromLe (slice data 44 48) + fromLe (slice data 48 52))).length =
      fromLe (slice data 48 52) := by simp; omega
  refine pack_eq_ok_iff.mpr ⟨⟨?_, ?_, ?_, ?_, ?_, by dsimp only; rw [take_drop_eq_slice]; omega,
    by dsimp only; rw [hdom, hdl]; exact hDl, by dsimp only; rw [hfor, hfl]; exact hFl⟩, ?_⟩
  · have : fromLe (slice data 0 4) < 2 ^ 32 := fromLe_slice_lt data 0; dsimp only; omega
  · have : fromLe (slice data 8 12) < 2 ^ 32 := fromLe_slice_lt data 8; dsimp only; omega
  · have : fromLe (slice data 12 16) < 2 ^ 32 := fromLe_slice_lt data 12; dsimp only; omega
  · have : fromLe (slice data 16 20) < 2 ^ 32 := fromLe_slice_lt data 16; dsimp only; omega
  · have : fromLe (slice data 20 24) < 2 ^ 32 := fromLe_slice_lt data 20; dsimp only; omega
  · dsimp only
    simp only [Int.toNat_ofNat, take_drop_eq_slice, hki, hdom, hfor, hdl, hfl,
      UUID.ofBytesLe_eq_ok hu, ← hm]
    simp (disch := omega) only [leBytes_fromLe_slice]
    rw [take_eq_slice]
    simp (disch := omega) only [slice_append_slice]

/-- A well-formed buffer: the packing of an identifier, with one octet of trailer after it. -/
theorem pack_unpack_of_wellFormed_sample :
    let data : Bytes := [1, 0, 0, 0] ++ magic ++ List.replicate 16 0 ++ List.replicate 16 5 ++
      [1, 0, 0, 0, 4, 0, 0, 0, 2, 0, 0, 0, 8, 0x61, 0, 0, 0, 0, 0, 0xFF]
    unpack data = .ok ⟨1, 0, 0, 0, 0, ⟨List.replicate 16 5, rfl⟩, [8], "a", ""⟩ ∧
      KeyIdentifier.pack ⟨1, 0, 0, 0, 0, ⟨List.replicate 16 5, rfl⟩, [8], "a", ""⟩ =
        .ok (data.take (52 + storedKeyInfoLen data + storedDomainLen data + storedForestLen data)) :=
  ⟨by decide, pack_unpack_of_wellFormed (by decide) (by decide) (by decide) (by decide)
    (by decide) (by decide)⟩

end KeyIdentifier

end DpapiNg

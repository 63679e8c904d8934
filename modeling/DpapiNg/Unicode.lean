import DpapiNg.Bytes

/-!
# UTF-16LE and UTF-8

`str.encode("utf-16-le")` and `bytes.decode("utf-16-le")` carry the key identifier's
domain and forest names; UTF-8 carries the protection descriptor's SID string inside its
`UTF8String`s.  A Lean `String` is a list of Unicode scalar values, which is exactly what a
Python `str` that encodes without error holds, so the encoders are total.

Both decoders are strict, as Python's default `errors="strict"` is: UTF-16 refuses an odd
length, a lone or reversed surrogate; UTF-8 refuses a stray continuation octet, an overlong
form, an encoded surrogate and anything above U+10FFFF.  The UTF-16 codec is split into two
layers, octets to code units (little-endian) and code units to scalar values, so that each
round trip is proved once in plain arithmetic.

## Main definitions

* `encodeUtf16le`, `decodeUtf16le` — the `utf-16-le` codec.
* `encodeUtf8`, `decodeUtf8` — the `utf-8` codec.

## Main results

* `decodeUtf16le_encodeUtf16le`, `decodeUtf8_encodeUtf8` — decoding an encoding gives the
  characters back, surrogate pairs and NULs included.
* `encodeUtf16le_of_decodeUtf16le` — **what the UTF-16 decoder accepts is the encoding of
  what it returns**: no two octet strings decode to the same text.
-/

namespace DpapiNg

/-- `Char.ofNat` is faithful on scalar values. -/
theorem toNat_charOfNat {n : ℕ} (h : n.isValidChar) : (Char.ofNat n).toNat = n := by
  unfold Char.ofNat; rw [dif_pos h]; rfl

/-- A character's code point is a scalar value: below the surrogates, or above them and
at most U+10FFFF. -/
theorem char_valid (c : Char) : c.toNat < 0xD800 ∨ (0xDFFF < c.toNat ∧ c.toNat < 0x110000) :=
  c.valid

/-! ### UTF-16 code units -/

/-- The UTF-16 code units of a scalar value: itself below U+10000, a surrogate pair above. -/
def charUnits (c : Char) : List ℕ :=
  if c.toNat < 0x10000 then [c.toNat]
  else [0xD800 + (c.toNat - 0x10000) / 0x400, 0xDC00 + (c.toNat - 0x10000) % 0x400]

/-- The code units of a string. -/
def encodeUnits : List Char → List ℕ
  | [] => []
  | c :: cs => charUnits c ++ encodeUnits cs

/-- The decoding failure of the `utf-16-le` codec. -/
def utf16Error : PyError := .unicodeDecodeError "utf-16-le"

/-- Code units to scalar values, one unit at a time; `pending` holds a high surrogate
waiting for its low half.  A lone low surrogate, a high surrogate followed by anything but a
low one, and a high surrogate at the end are refused. -/
def decodeUnitsFrom : Option ℕ → List ℕ → Except PyError (List Char)
  | none, [] => .ok []
  | some _, [] => .error utf16Error
  | none, u :: rest =>
    if u < 0xD800 ∨ 0xDFFF < u then
      decodeUnitsFrom none rest >>= fun cs => .ok (Char.ofNat u :: cs)
    else if 0xDC00 ≤ u then .error utf16Error
    else decodeUnitsFrom (some u) rest
  | some hi, w :: rest =>
    if 0xDC00 ≤ w ∧ w ≤ 0xDFFF then
      decodeUnitsFrom none rest >>= fun cs =>
        .ok (Char.ofNat (0x10000 + (hi - 0xD800) * 0x400 + (w - 0xDC00)) :: cs)
    else .error utf16Error

/-- Code units to scalar values. -/
def decodeUnits (us : List ℕ) : Except PyError (List Char) := decodeUnitsFrom none us

@[simp] theorem encodeUnits_nil : encodeUnits [] = [] := rfl

@[simp] theorem encodeUnits_cons (c : Char) (cs : List Char) :
    encodeUnits (c :: cs) = charUnits c ++ encodeUnits cs := rfl

theorem charUnits_lt (c : Char) : ∀ u ∈ charUnits c, u < 0x10000 := by
  have := char_valid c
  unfold charUnits
  split <;> simp <;> omega

theorem encodeUnits_lt : ∀ (cs : List Char), ∀ u ∈ encodeUnits cs, u < 0x10000
  | [] => by simp
  | c :: cs => by
    simp only [encodeUnits_cons, List.mem_append]
    rintro u (hu | hu)
    exacts [charUnits_lt c u hu, encodeUnits_lt cs u hu]

theorem decodeUnits_charUnits_append (c : Char) (rest : List ℕ) :
    decodeUnits (charUnits c ++ rest) = decodeUnits rest >>= fun cs => .ok (c :: cs) := by
  have hv := char_valid c
  unfold charUnits decodeUnits
  split
  · simp (disch := omega) only [List.singleton_append, List.append_eq, List.nil_append,
      decodeUnitsFrom, if_pos, Char.ofNat_toNat]
  · have hc : 0x10000 + (0xD800 + (c.toNat - 0x10000) / 0x400 - 0xD800) * 0x400 +
        (0xDC00 + (c.toNat - 0x10000) % 0x400 - 0xDC00) = c.toNat := by omega
    simp (disch := omega) only [List.cons_append, List.nil_append, List.append_eq, decodeUnitsFrom,
      if_pos, if_neg, hc, Char.ofNat_toNat]

theorem decodeUnits_encodeUnits : ∀ cs : List Char, decodeUnits (encodeUnits cs) = .ok cs
  | [] => rfl
  | c :: cs => by
    rw [encodeUnits_cons, decodeUnits_charUnits_append, decodeUnits_encodeUnits cs]; rfl

/-- From any state the decoder can reach, what it accepts is the encoding of its output,
after the pending high surrogate. -/
theorem encodeUnits_of_decodeUnitsFrom {p : Option ℕ} {us : List ℕ} {cs : List Char}
    (hp : ∀ hi, p = some hi → 0xD800 ≤ hi ∧ hi < 0xDC00) (hus : ∀ u ∈ us, u < 0x10000)
    (h : decodeUnitsFrom p us = .ok cs) :
    encodeUnits cs = p.toList ++ us := by
  induction p, us using decodeUnitsFrom.induct generalizing cs with
  | case1 => cases h; rfl
  | case2 => cases h
  | case3 u rest hu ih =>
    rw [decodeUnitsFrom, if_pos hu, bind_eq_ok] at h
    obtain ⟨cs', h', hcs⟩ := h
    cases hcs
    have hu' := hus u (List.mem_cons_self u rest)
    have hv : u.isValidChar := by unfold Nat.isValidChar; omega
    rw [encodeUnits_cons, ih (by simp) (fun v hv => hus v (List.mem_cons_of_mem u hv)) h',
      charUnits, toNat_charOfNat hv, if_pos (by omega)]
    rfl
  | case4 u rest hu hlo => rw [decodeUnitsFrom, if_neg hu, if_pos hlo] at h; cases h
  | case5 u rest hu hlo ih =>
    rw [decodeUnitsFrom, if_neg hu, if_neg hlo] at h
    rw [ih (by simp; omega) (fun v hv => hus v (List.mem_cons_of_mem u hv)) h]; rfl
  | case6 hi w rest hw ih =>
    rw [decodeUnitsFrom, if_pos hw, bind_eq_ok] at h
    obtain ⟨cs', h', hcs⟩ := h
    cases hcs
    obtain ⟨hhi, hhi'⟩ := hp hi rfl
    have hv : (0x10000 + (hi - 0xD800) * 0x400 + (w - 0xDC00)).isValidChar := by
      unfold Nat.isValidChar; omega
    have hw' := hus w (List.mem_cons_self w rest)
    rw [encodeUnits_cons, ih (by simp) (fun v hv => hus v (List.mem_cons_of_mem w hv)) h',
      charUnits, toNat_charOfNat hv, if_neg (by omega)]
    simp only [Option.toList_some, Option.toList_none, List.cons_append, List.nil_append,
      List.singleton_append, List.cons.injEq, and_true]
    omega
  | case7 hi w rest hw => rw [decodeUnitsFrom, if_neg hw] at h; cases h

theorem encodeUnits_of_decodeUnits {us : List ℕ} {cs : List Char}
    (hus : ∀ u ∈ us, u < 0x10000) (h : decodeUnits us = .ok cs) : encodeUnits cs = us :=
  encodeUnits_of_decodeUnitsFrom (by simp) hus h

/-! ### UTF-16LE octets -/

/-- Code units as octets, each unit low octet first. -/
def unitsLe : List ℕ → Bytes
  | [] => []
  | u :: us => leBytes 2 u ++ unitsLe us

/-- Octets as little-endian code units, refusing an odd length. -/
def unitsOfLe : Bytes → Except PyError (List ℕ)
  | [] => .ok []
  | [_] => .error utf16Error
  | b0 :: b1 :: rest => unitsOfLe rest >>= fun us => .ok (fromLe [b0, b1] :: us)

theorem unitsOfLe_unitsLe : ∀ us : List ℕ, (∀ u ∈ us, u < 0x10000) → unitsOfLe (unitsLe us) = .ok us
  | [] => fun _ => rfl
  | u :: us => fun h => by
    have hu := h u (List.mem_cons_self u us)
    have hrest := unitsOfLe_unitsLe us fun v hv => h v (List.mem_cons_of_mem u hv)
    have e : u % 256 + 256 * (u / 256 % 256) = u := by omega
    simp only [unitsLe, leBytes_succ, leBytes_zero, List.cons_append, List.nil_append, unitsOfLe,
      List.append_eq, hrest, ok_bind, fromLe_cons, fromLe_nil, toNat_ofNat_mod, Nat.mul_zero,
      Nat.add_zero, e]

theorem unitsLe_of_unitsOfLe {b : Bytes} {us : List ℕ} (h : unitsOfLe b = .ok us) :
    unitsLe us = b := by
  induction b using unitsOfLe.induct generalizing us with
  | case1 => cases h; rfl
  | case2 => cases h
  | case3 b0 b1 rest ih =>
    rw [unitsOfLe, bind_eq_ok] at h
    obtain ⟨us', h', hus⟩ := h
    cases hus
    have h2 : leBytes 2 (fromLe [b0, b1]) = [b0, b1] := leBytes_fromLe [b0, b1]
    rw [unitsLe, ih h', h2]; rfl

theorem unitsOfLe_lt {b : Bytes} {us : List ℕ} (h : unitsOfLe b = .ok us) :
    ∀ u ∈ us, u < 0x10000 := by
  induction b using unitsOfLe.induct generalizing us with
  | case1 => cases h; simp
  | case2 => cases h
  | case3 b0 b1 rest ih =>
    rw [unitsOfLe, bind_eq_ok] at h
    obtain ⟨us', h', hus⟩ := h
    cases hus
    have h0 := toNat_lt b0
    have h1 := toNat_lt b1
    simp only [List.mem_cons]
    rintro u (rfl | hu)
    · simp only [fromLe_cons, fromLe_nil]; omega
    · exact ih h' u hu

/-- `s.encode("utf-16-le")`, over the characters of `s`. -/
def encodeUtf16le (cs : List Char) : Bytes := unitsLe (encodeUnits cs)

/-- `b.decode("utf-16-le")`. -/
def decodeUtf16le (b : Bytes) : Except PyError (List Char) := unitsOfLe b >>= decodeUnits

theorem decodeUtf16le_encodeUtf16le (cs : List Char) :
    decodeUtf16le (encodeUtf16le cs) = .ok cs := by
  rw [decodeUtf16le, encodeUtf16le, unitsOfLe_unitsLe _ (encodeUnits_lt cs), ok_bind,
    decodeUnits_encodeUnits]

theorem encodeUtf16le_of_decodeUtf16le {b : Bytes} {cs : List Char}
    (h : decodeUtf16le b = .ok cs) : encodeUtf16le cs = b := by
  obtain ⟨us, hus, hcs⟩ := bind_eq_ok.mp h
  rw [encodeUtf16le, encodeUnits_of_decodeUnits (unitsOfLe_lt hus) hcs, unitsLe_of_unitsOfLe hus]

theorem unitsLe_append (us vs : List ℕ) : unitsLe (us ++ vs) = unitsLe us ++ unitsLe vs := by
  induction us with
  | nil => rfl
  | cons u us ih => simp [unitsLe, ih]

theorem encodeUnits_append (cs ds : List Char) :
    encodeUnits (cs ++ ds) = encodeUnits cs ++ encodeUnits ds := by
  induction cs with
  | nil => rfl
  | cons c cs ih => simp [ih]

theorem encodeUtf16le_append (cs ds : List Char) :
    encodeUtf16le (cs ++ ds) = encodeUtf16le cs ++ encodeUtf16le ds := by
  simp only [encodeUtf16le, encodeUnits_append, unitsLe_append]

/-- The NUL terminator the key identifier appends is the octet pair `00 00`. -/
@[simp] theorem encodeUtf16le_nul : encodeUtf16le ['\x00'] = [0, 0] := rfl

/-! ### UTF-8 -/

/-- The UTF-8 octets of one scalar value, as numbers. -/
def charUtf8 (c : Char) : List ℕ :=
  let n := c.toNat
  if n < 0x80 then [n]
  else if n < 0x800 then [0xC0 + n / 0x40, 0x80 + n % 0x40]
  else if n < 0x10000 then [0xE0 + n / 0x1000, 0x80 + n / 0x40 % 0x40, 0x80 + n % 0x40]
  else [0xF0 + n / 0x40000, 0x80 + n / 0x1000 % 0x40, 0x80 + n / 0x40 % 0x40, 0x80 + n % 0x40]

/-- The UTF-8 octets of a string, as numbers. -/
def utf8Octets : List Char → List ℕ
  | [] => []
  | c :: cs => charUtf8 c ++ utf8Octets cs

/-- `s.encode("utf-8")`. -/
def encodeUtf8 (cs : List Char) : Bytes := (utf8Octets cs).map UInt8.ofNat

/-- The decoding failure of the `utf-8` codec. -/
def utf8Error : PyError := .unicodeDecodeError "utf-8"

/-- Octet values to scalar values, one octet at a time (RFC 3629 §4).  Between characters
`pending` is zero; after a lead octet it counts the continuation octets `10xxxxxx` still
owed, `v` holds the bits read so far and `least` the least value the form may hold, so that
an overlong form, an encoded surrogate and a value past U+10FFFF are refused. -/
def decodeOctetsFrom : ℕ → ℕ → ℕ → List ℕ → Except PyError (List Char)
  | 0, _, _, [] => .ok []
  | _ + 1, _, _, [] => .error utf8Error
  | 0, _, _, b :: rest =>
    if b < 0x80 then decodeOctetsFrom 0 0 0 rest >>= fun cs => .ok (Char.ofNat b :: cs)
    else if b < 0xC2 then .error utf8Error
    else if b < 0xE0 then decodeOctetsFrom 1 (b - 0xC0) 0x80 rest
    else if b < 0xF0 then decodeOctetsFrom 2 (b - 0xE0) 0x800 rest
    else if b < 0xF5 then decodeOctetsFrom 3 (b - 0xF0) 0x10000 rest
    else .error utf8Error
  | k + 1, v, least, b :: rest =>
    if 0x80 ≤ b ∧ b < 0xC0 then
      if k = 0 then
        if least ≤ v * 0x40 + (b - 0x80) ∧ v * 0x40 + (b - 0x80) < 0x110000 ∧
            (v * 0x40 + (b - 0x80) < 0xD800 ∨ 0xDFFF < v * 0x40 + (b - 0x80)) then
          decodeOctetsFrom 0 0 0 rest >>= fun cs => .ok (Char.ofNat (v * 0x40 + (b - 0x80)) :: cs)
        else .error utf8Error
      else decodeOctetsFrom k (v * 0x40 + (b - 0x80)) least rest
    else .error utf8Error

/-- `b.decode("utf-8")`. -/
def decodeUtf8 (b : Bytes) : Except PyError (List Char) := decodeOctetsFrom 0 0 0 (b.map UInt8.toNat)

theorem charUtf8_lt (c : Char) : ∀ b ∈ charUtf8 c, b < 256 := by
  have := char_valid c
  simp only [charUtf8]
  split_ifs <;> simp <;> omega

theorem utf8Octets_lt : ∀ (cs : List Char), ∀ b ∈ utf8Octets cs, b < 256
  | [] => by simp [utf8Octets]
  | c :: cs => by
    simp only [utf8Octets, List.mem_append]
    rintro b (hb | hb)
    exacts [charUtf8_lt c b hb, utf8Octets_lt cs b hb]

/-! The decoder's transitions, one lemma per branch it takes on well-formed input. -/

theorem decodeOctetsFrom_ascii {b : ℕ} (hb : b < 0x80) (rest : List ℕ) :
    decodeOctetsFrom 0 0 0 (b :: rest) =
      decodeOctetsFrom 0 0 0 rest >>= fun cs => .ok (Char.ofNat b :: cs) := by
  rw [decodeOctetsFrom, if_pos hb]

theorem decodeOctetsFrom_lead2 {b : ℕ} (h1 : 0xC2 ≤ b) (h2 : b < 0xE0) (rest : List ℕ) :
    decodeOctetsFrom 0 0 0 (b :: rest) = decodeOctetsFrom 1 (b - 0xC0) 0x80 rest := by
  rw [decodeOctetsFrom, if_neg (by omega), if_neg (by omega), if_pos h2]

theorem decodeOctetsFrom_lead3 {b : ℕ} (h1 : 0xE0 ≤ b) (h2 : b < 0xF0) (rest : List ℕ) :
    decodeOctetsFrom 0 0 0 (b :: rest) = decodeOctetsFrom 2 (b - 0xE0) 0x800 rest := by
  rw [decodeOctetsFrom, if_neg (by omega), if_neg (by omega), if_neg (by omega), if_pos h2]

theorem decodeOctetsFrom_lead4 {b : ℕ} (h1 : 0xF0 ≤ b) (h2 : b < 0xF5) (rest : List ℕ) :
    decodeOctetsFrom 0 0 0 (b :: rest) = decodeOctetsFrom 3 (b - 0xF0) 0x10000 rest := by
  rw [decodeOctetsFrom, if_neg (by omega), if_neg (by omega), if_neg (by omega), if_neg (by omega),
    if_pos h2]

theorem decodeOctetsFrom_continue {k v least b : ℕ} (hb : 0x80 ≤ b ∧ b < 0xC0) (rest : List ℕ) :
    decodeOctetsFrom (k + 2) v least (b :: rest) =
      decodeOctetsFrom (k + 1) (v * 0x40 + (b - 0x80)) least rest := by
  rw [decodeOctetsFrom, if_pos hb, if_neg (Nat.succ_ne_zero k)]

theorem decodeOctetsFrom_last {v least b : ℕ} (hb : 0x80 ≤ b ∧ b < 0xC0)
    (hv : least ≤ v * 0x40 + (b - 0x80) ∧ v * 0x40 + (b - 0x80) < 0x110000 ∧
      (v * 0x40 + (b - 0x80) < 0xD800 ∨ 0xDFFF < v * 0x40 + (b - 0x80))) (rest : List ℕ) :
    decodeOctetsFrom 1 v least (b :: rest) =
      decodeOctetsFrom 0 0 0 rest >>= fun cs => .ok (Char.ofNat (v * 0x40 + (b - 0x80)) :: cs) := by
  rw [decodeOctetsFrom, if_pos hb, if_pos rfl, if_pos hv]

theorem decodeOctetsFrom_charUtf8_append (c : Char) (rest : List ℕ) :
    decodeOctetsFrom 0 0 0 (charUtf8 c ++ rest) =
      decodeOctetsFrom 0 0 0 rest >>= fun cs => .ok (c :: cs) := by
  have hv := char_valid c
  simp only [charUtf8]
  split_ifs with h1 h2 h3 <;> simp only [List.cons_append, List.nil_append]
  · rw [decodeOctetsFrom_ascii h1, Char.ofNat_toNat]
  · have e : (0xC0 + c.toNat / 0x40 - 0xC0) * 0x40 + (0x80 + c.toNat % 0x40 - 0x80) = c.toNat := by
      omega
    rw [decodeOctetsFrom_lead2 ?_ ?_, decodeOctetsFrom_last ?_ ?_, e, Char.ofNat_toNat] <;> omega
  · have e : ((0xE0 + c.toNat / 0x1000 - 0xE0) * 0x40 + (0x80 + c.toNat / 0x40 % 0x40 - 0x80)) *
        0x40 + (0x80 + c.toNat % 0x40 - 0x80) = c.toNat := by omega
    rw [decodeOctetsFrom_lead3 ?_ ?_, decodeOctetsFrom_continue ?_, decodeOctetsFrom_last ?_ ?_, e,
      Char.ofNat_toNat] <;> omega
  · have e : (((0xF0 + c.toNat / 0x40000 - 0xF0) * 0x40 + (0x80 + c.toNat / 0x1000 % 0x40 - 0x80)) *
        0x40 + (0x80 + c.toNat / 0x40 % 0x40 - 0x80)) * 0x40 + (0x80 + c.toNat % 0x40 - 0x80) =
        c.toNat := by omega
    rw [decodeOctetsFrom_lead4 ?_ ?_, decodeOctetsFrom_continue ?_, decodeOctetsFrom_continue ?_,
      decodeOctetsFrom_last ?_ ?_, e, Char.ofNat_toNat] <;> omega

theorem decodeOctetsFrom_utf8Octets :
    ∀ cs : List Char, decodeOctetsFrom 0 0 0 (utf8Octets cs) = .ok cs
  | [] => rfl
  | c :: cs => by
    rw [utf8Octets, decodeOctetsFrom_charUtf8_append, decodeOctetsFrom_utf8Octets cs]; rfl

theorem decodeUtf8_encodeUtf8 (cs : List Char) : decodeUtf8 (encodeUtf8 cs) = .ok cs := by
  have h : ((utf8Octets cs).map UInt8.ofNat).map UInt8.toNat = utf8Octets cs := by
    rw [List.map_map]
    conv => rhs; rw [← List.map_id (utf8Octets cs)]
    exact List.map_congr_left fun b hb => UInt8.toNat_ofNat_of_lt (utf8Octets_lt cs b hb)
  rw [decodeUtf8, encodeUtf8, h, decodeOctetsFrom_utf8Octets]

end DpapiNg

import Mathlib

/-!
# Octet strings, integers and exceptions

The vocabulary every codec of `dpapi_ng` is written in.  A Python `bytes`, `bytearray`
or `memoryview` value is a list of octets; an exception the code raises is a `PyError`
carrying the text Python attaches to it; and a computation that may raise returns
`Except PyError`.  The integer conversions are those of `int.to_bytes` and
`int.from_bytes` with `byteorder="little"`, the only byte order the key identifier uses.

## Main definitions

* `Bytes`, `PyError` — octet strings and the exceptions of the code.
* `leBytes`, `fromLe` — little-endian digits, and `int.from_bytes(b, "little")`.
* `toBytes` — `int.to_bytes(w, "little")`, which raises `OverflowError` out of range.
* `slice`, `sliceTo` — `view[a:b]`, and `view[:k]` for a bound that may be negative.
* `UUID` — a `uuid.UUID`, held as its `bytes_le` form.

## Main results

* `fromLe_leBytes`, `leBytes_fromLe` — the two round trips of the little-endian codec.
* `toBytes_eq_ok_iff` — `to_bytes` returns exactly on its range.
-/

namespace DpapiNg

/-- A Python `bytes` value. -/
abbrev Bytes := List UInt8

/-- The exceptions the modelled code raises, with the text Python attaches to them. -/
inductive PyError where
  /-- `ValueError(msg)`. -/
  | valueError (msg : String)
  /-- `OverflowError(msg)`, raised by `int.to_bytes`. -/
  | overflowError (msg : String)
  /-- `UnicodeDecodeError` of the named codec. -/
  | unicodeDecodeError (encoding : String)
  /-- `IndexError(msg)`. -/
  | indexError (msg : String)
  /-- A structural error of the ASN.1 reader, naming what it failed to read. -/
  | asn1Error (what : String)
  deriving DecidableEq, Repr

/-- Results of fallible computations can be compared, so that a run on a fixed input can be
checked by `decide`. -/
instance instDecidableEqExcept {ε α : Type} [DecidableEq ε] [DecidableEq α] :
    DecidableEq (Except ε α)
  | .ok a, .ok b => decidable_of_iff (a = b) ⟨congrArg _, Except.ok.inj⟩
  | .error a, .error b => decidable_of_iff (a = b) ⟨congrArg _, Except.error.inj⟩
  | .ok _, .error _ => isFalse fun e => by cases e
  | .error _, .ok _ => isFalse fun e => by cases e

/-- `x >>= f` returns `b` exactly when `x` returns some `a` and `f a` returns `b`: the one
inversion lemma every proof about a chain of fallible steps peels it with. -/
theorem bind_eq_ok {ε α β : Type} {x : Except ε α} {f : α → Except ε β} {b : β} :
    x >>= f = .ok b ↔ ∃ a, x = .ok a ∧ f a = .ok b := by
  cases x <;> simp [bind, Except.bind]

@[simp] theorem ok_bind {ε α β : Type} (a : α) (f : α → Except ε β) :
    (Except.ok a : Except ε α) >>= f = f a := rfl

@[simp] theorem error_bind {ε α β : Type} (e : ε) (f : α → Except ε β) :
    (Except.error e : Except ε α) >>= f = .error e := rfl

/-! ### Little-endian integers -/

/-- The low `width` base-256 digits of `n`, least significant first: this is
`n.to_bytes(width, "little")` when `n < 256 ^ width`. -/
def leBytes : ℕ → ℕ → Bytes
  | 0, _ => []
  | w + 1, n => UInt8.ofNat (n % 256) :: leBytes w (n / 256)

/-- `int.from_bytes(b, byteorder="little")`. -/
def fromLe : Bytes → ℕ
  | [] => 0
  | b :: bs => b.toNat + 256 * fromLe bs

theorem leBytes_zero (n : ℕ) : leBytes 0 n = [] := rfl

theorem leBytes_succ (w n : ℕ) :
    leBytes (w + 1) n = UInt8.ofNat (n % 256) :: leBytes w (n / 256) := rfl

@[simp] theorem fromLe_nil : fromLe [] = 0 := rfl

@[simp] theorem fromLe_cons (b : UInt8) (bs : Bytes) :
    fromLe (b :: bs) = b.toNat + 256 * fromLe bs := rfl

@[simp] theorem length_leBytes (w n : ℕ) : (leBytes w n).length = w := by
  induction w generalizing n <;> simp [leBytes_zero, leBytes_succ, *]

@[simp] theorem toNat_ofNat_mod (n : ℕ) : (UInt8.ofNat (n % 256)).toNat = n % 256 :=
  UInt8.toNat_ofNat_of_lt (Nat.mod_lt _ (by decide))

@[simp] theorem ofNat_toNat (b : UInt8) : UInt8.ofNat b.toNat = b :=
  UInt8.toNat.inj (UInt8.toNat_ofNat_of_lt b.toNat_lt_size)

theorem toNat_lt (b : UInt8) : b.toNat < 256 := b.toNat_lt_size

theorem fromLe_leBytes (w n : ℕ) : fromLe (leBytes w n) = n % 256 ^ w := by
  induction w generalizing n with
  | zero => simp [leBytes_zero, Nat.mod_one]
  | succ w ih => rw [leBytes_succ, fromLe_cons, ih, toNat_ofNat_mod, Nat.pow_succ,
      Nat.mul_comm (256 ^ w), Nat.mod_mul]

theorem fromLe_lt (bs : Bytes) : fromLe bs < 256 ^ bs.length := by
  induction bs with
  | nil => simp
  | cons b bs ih =>
    have := toNat_lt b
    rw [fromLe_cons, List.length_cons, Nat.pow_succ]
    omega

theorem leBytes_fromLe (bs : Bytes) : leBytes bs.length (fromLe bs) = bs := by
  induction bs with
  | nil => rfl
  | cons b bs ih =>
    have hb := toNat_lt b
    have hmod : (b.toNat + 256 * fromLe bs) % 256 = b.toNat := by omega
    have hdiv : (b.toNat + 256 * fromLe bs) / 256 = fromLe bs := by omega
    rw [List.length_cons, leBytes_succ, fromLe_cons, hmod, hdiv, ih, ofNat_toNat]

/-- `n.to_bytes(width, byteorder="little")` for a Python `int` `n`. -/
def toBytes (width : ℕ) (n : ℤ) : Except PyError Bytes :=
  if n < 0 then .error (.overflowError "can't convert negative int to unsigned")
  else if n < 256 ^ width then .ok (leBytes width n.toNat)
  else .error (.overflowError "int too big to convert")

theorem toBytes_eq_ok_iff {width : ℕ} {n : ℤ} {b : Bytes} :
    toBytes width n = .ok b ↔ 0 ≤ n ∧ n < 256 ^ width ∧ b = leBytes width n.toNat := by
  unfold toBytes
  split_ifs with h0 h
  · exact ⟨(fun e => by cases e), fun ⟨h, _⟩ => absurd h (by omega)⟩
  · exact ⟨fun e => ⟨by omega, h, (Except.ok.inj e).symm⟩, fun ⟨_, _, e⟩ => e ▸ rfl⟩
  · exact ⟨(fun e => by cases e), fun ⟨_, h', _⟩ => absurd h' h⟩

/-- Python's `value or fallback` on an optional byte string: `None` and `b""` are false. -/
def orBytes (value : Option Bytes) (fallback : Bytes) : Bytes :=
  match value with
  | some v => if v = [] then fallback else v
  | none => fallback

theorem orBytes_some {v : Bytes} (h : v ≠ []) (fallback : Bytes) :
    orBytes (some v) fallback = v := if_neg h

/-! ### Slices -/

/-- `view[a:b]` for `a ≤ b`. -/
def slice (l : Bytes) (a b : ℕ) : Bytes := (l.drop a).take (b - a)

/-- `view[:k]` for a Python `int` `k`: a negative bound counts back from the end, and
one past the start leaves nothing. -/
def sliceTo (l : Bytes) (k : ℤ) : Bytes :=
  l.take (if 0 ≤ k then k.toNat else (l.length + k).toNat)

theorem sliceTo_of_nonneg (l : Bytes) {k : ℤ} (hk : 0 ≤ k) : sliceTo l k = l.take k.toNat := by
  simp [sliceTo, hk]

theorem slice_append_left {x y : Bytes} {i j : ℕ} (h : j ≤ x.length) :
    slice (x ++ y) i j = slice x i j := by
  rw [slice, slice, List.drop_append_eq_append_drop, List.take_append_of_le_length]
  simp; omega

theorem slice_append_right {x y : Bytes} {i j : ℕ} (h : x.length ≤ i) :
    slice (x ++ y) i j = slice y (i - x.length) (j - x.length) := by
  rw [slice, slice, List.drop_append_eq_append_drop, List.drop_eq_nil_of_le h, List.nil_append]
  congr 1; omega

theorem slice_self {x : Bytes} {n : ℕ} (h : x.length = n) : slice x 0 n = x := by
  simp [slice, ← h]

@[simp] theorem length_slice (l : Bytes) (a b : ℕ) :
    (slice l a b).length = min (b - a) (l.length - a) := by
  simp [slice]

theorem drop_append_right {x y : Bytes} {n : ℕ} (h : x.length ≤ n) :
    (x ++ y).drop n = y.drop (n - x.length) := by
  rw [List.drop_append_eq_append_drop, List.drop_eq_nil_of_le h, List.nil_append]

theorem take_eq_slice (l : Bytes) (n : ℕ) : l.take n = slice l 0 n := by
  simp [slice]

theorem take_drop_eq_slice (l : Bytes) (a n : ℕ) : (l.drop a).take n = slice l a (a + n) := by
  simp [slice]

/-- Four octets read little-endian stay below `2 ^ 32`. -/
theorem fromLe_slice_lt (l : Bytes) (a : ℕ) : fromLe (slice l a (a + 4)) < 2 ^ 32 := by
  calc fromLe (slice l a (a + 4)) < 256 ^ (slice l a (a + 4)).length := fromLe_lt _
    _ ≤ 256 ^ 4 := Nat.pow_le_pow_right (by decide) (by simp only [length_slice]; omega)
    _ = 2 ^ 32 := rfl

/-- Two adjacent slices make the slice that spans them. -/
theorem slice_append_slice (l : Bytes) {a b c : ℕ} (hab : a ≤ b) (hbc : b ≤ c) :
    slice l a b ++ slice l b c = slice l a c := by
  have e : c - a = (b - a) + (c - b) := by omega
  rw [slice, slice, slice, e, List.take_add, List.drop_drop]
  congr 3; omega

/-! ### UUIDs -/

/-- A `uuid.UUID`.  The code builds one only from its sixteen `bytes_le` octets and reads
only those octets back, and they determine it, so it is held in that form. -/
structure UUID where
  /-- `UUID.bytes_le`. -/
  bytesLe : Bytes
  length_bytesLe : bytesLe.length = 16
  deriving DecidableEq

/-- `uuid.UUID(bytes_le=b)`. -/
def UUID.ofBytesLe (b : Bytes) : Except PyError UUID :=
  if h : b.length = 16 then .ok ⟨b, h⟩
  else .error (.valueError "bytes_le is not a 16-char string")

@[simp] theorem UUID.length_bytesLe' (u : UUID) : u.bytesLe.length = 16 := u.length_bytesLe

@[simp] theorem UUID.ofBytesLe_bytesLe (u : UUID) : UUID.ofBytesLe u.bytesLe = .ok u := by
  simp [UUID.ofBytesLe, u.length_bytesLe]

theorem UUID.ofBytesLe_eq_ok {b : Bytes} {u : UUID} (h : UUID.ofBytesLe b = .ok u) :
    u.bytesLe = b := by
  unfold UUID.ofBytesLe at h
  split at h
  · cases h; rfl
  · cases h

end DpapiNg

import DpapiNg.Gkdi

/-!
# The key cache

`KeyCache` of `_client.py` holds the KDS root keys that `load_key` registers and, in
`_seed_keys[root_key_id][target_sd][l0]`, one group key envelope per slot.  `_get_key`
returns the slot's envelope when it dominates the request, else derives an envelope at
`(l0, 31, 31)` from a registered root key and `setdefault`s it at the slot; `_store_key`
replaces the slot's envelope by a strictly greater one in the lexicographic order of
`(l1, l2)`.

The three nested dicts are one map keyed by `Slot`; the empty inner dicts that `setdefault`
leaves behind are not modelled, as nothing reads them.

A slot behaves as a **ratchet**: each call offers it at most one envelope (`CacheOp.offer`),
and the slot keeps the lexicographically greater of what it holds and what is offered, the
old one on a tie (`ratchet`).  Every property of the slots below is derived from that one
step lemma, `seedKeys_apply`.

`_get_key`'s root key branch has a slip: `setdefault` returns the envelope already at the
slot, which the first branch has just found not to dominate the request, instead of the one
derived from the root key (`getKey_returns_stale_entry`).

## Main definitions

* `RootKey`, `Slot`, `KeyCache` — the cache state.
* `KeyCache.loadKey`, `KeyCache.getKey`, `KeyCache.storeKey` — its three methods.
* `CacheOp`, `CacheOp.apply`, `CacheOp.run` — calls with their arguments, and runs of calls.
* `ratchet`, `CacheOp.offer` — the abstract slot and what a call offers it.
-/

namespace DpapiNg

/-- `RootKey` of `_client.py`: the KDS root key. -/
structure RootKey where
  /-- The root key data. -/
  key : Bytes
  /-- The key version. -/
  version : ℤ
  /-- The KDF algorithm name. -/
  kdfAlgorithm : String
  /-- The KDF parameters. -/
  kdfParameters : Bytes
  /-- The secret agreement algorithm name. -/
  secretAlgorithm : String
  /-- The secret agreement parameters. -/
  secretParameters : Option Bytes
  /-- The private key length. -/
  privateKeyLength : ℤ
  /-- The public key length. -/
  publicKeyLength : ℤ
  deriving DecidableEq

/-- A slot of the seed keys, `_seed_keys[root_key_id][target_sd][l0]`. -/
structure Slot where
  /-- The root key id. -/
  rootKeyId : UUID
  /-- The target security descriptor. -/
  targetSd : Bytes
  /-- The L0 index. -/
  l0 : ℤ
  deriving DecidableEq

/-- The slot `_store_key(target_sd, key)` writes. -/
def Slot.ofKey (targetSd : Bytes) (key : GroupKeyEnvelope) : Slot :=
  ⟨key.rootKeyIdentifier, targetSd, key.l0⟩

/-- `KeyCache` of `_client.py`. -/
structure KeyCache where
  /-- `_root_keys`. -/
  rootKeys : UUID → Option RootKey
  /-- `_seed_keys`, keyed by slot. -/
  seedKeys : Slot → Option GroupKeyEnvelope

/-- `(l1, l2) ≤ (l1', l2')` lexicographically. -/
def lexLe (a b : ℤ × ℤ) : Prop := a.1 < b.1 ∨ (a.1 = b.1 ∧ a.2 ≤ b.2)

instance (a b : ℤ × ℤ) : Decidable (lexLe a b) := inferInstanceAs (Decidable (_ ∨ _))

theorem lexLe_refl (a : ℤ × ℤ) : lexLe a a := .inr ⟨rfl, le_rfl⟩

theorem lexLe_trans {a b c : ℤ × ℤ} (hab : lexLe a b) (hbc : lexLe b c) : lexLe a c := by
  unfold lexLe at *
  omega

theorem lexLe_of_not {a b : ℤ × ℤ} (h : ¬lexLe a b) : lexLe b a := by
  unfold lexLe at *
  omega

/-- The indices `(l1, l2)` of an envelope. -/
def GroupKeyEnvelope.indices (k : GroupKeyEnvelope) : ℤ × ℤ := (k.l1, k.l2)

/-- `seed_key.l1 > l1 or (seed_key.l1 == l1 and seed_key.l2 >= l2)`: the envelope can derive
the seed at `(l1, l2)`. -/
def GroupKeyEnvelope.dominates (k : GroupKeyEnvelope) (l1 l2 : ℤ) : Prop :=
  k.l1 > l1 ∨ (k.l1 = l1 ∧ k.l2 ≥ l2)

instance (k : GroupKeyEnvelope) (l1 l2 : ℤ) : Decidable (k.dominates l1 l2) :=
  inferInstanceAs (Decidable (_ ∨ _))

theorem GroupKeyEnvelope.dominates_iff {k : GroupKeyEnvelope} {l1 l2 : ℤ} :
    k.dominates l1 l2 ↔ lexLe (l1, l2) k.indices := by
  simp only [dominates, lexLe, indices]
  omega

namespace KeyCache

/-- `KeyCache()`. -/
def empty : KeyCache := ⟨fun _ => none, fun _ => none⟩

/-- The cache with `k` at slot `s`. -/
def setSeed (c : KeyCache) (s : Slot) (k : GroupKeyEnvelope) : KeyCache :=
  { c with seedKeys := fun s' => if s' = s then some k else c.seedKeys s' }

@[simp] theorem setSeed_rootKeys (c : KeyCache) (s : Slot) (k : GroupKeyEnvelope) :
    (c.setSeed s k).rootKeys = c.rootKeys := rfl

theorem setSeed_seedKeys (c : KeyCache) (s s' : Slot) (k : GroupKeyEnvelope) :
    (c.setSeed s k).seedKeys s' = if s' = s then some k else c.seedKeys s' := rfl

/-! ### The three methods -/

/-- The RFC 5114 2048-bit MODP group with a 256-bit prime order subgroup, which `load_key`
packs as `FFCDHParameters` when a DH root key comes without parameters: the key length. -/
def rfc5114KeyLength : ℕ := 256

/-- The field order of the RFC 5114 group. -/
def rfc5114FieldOrder : ℕ :=
  17125458317614137930196041979257577826408832324037508573393292981642667139747621778802438775238728592968344613589379932348475613503476932163166973813218698343816463289144185362912602522540494983090531497232965829536524507269848825658311420299335922295709743267508322525966773950394919257576842038771632742044142471053509850123605883815857162666917775193496157372656195558305727009891276006514000409365877218171388319923896309377791762590614311849642961380224851940460421710449368927252974870395873936387909672274883295377481008150475878590270591798350563488168080923804611822387520198054002990623911454389104774092183

/-- The generator of the RFC 5114 group. -/
def rfc5114Generator : ℕ :=
  8041367327046189302693984665026706374844608289874374425728797669509435881459140662650215832833471328470334064628508692231999401840332046192569287351991689963279656892562484773278584208040987631569628520464069532361274047374444344996651832979378318849943741662110395995778429270819222431610927356005913836932462099770076239554042855287138026806960470277326229482818003962004453764400995790974042663675692120758726145869061236443893509136147942414445551848162391468541444355707785697825741856849161233887307017428371823608125699892904960841221593344499088996021883972185241854777608212592397013510086894908468466292313

/-- `KeyCache.load_key`: register a root key, with the SHA512 KDF parameters when none are
given and the RFC 5114 group when a DH key comes without parameters. -/
def loadKey (gkdi : Gkdi) (c : KeyCache) (key : Bytes) (rootKeyId : UUID) (version : ℤ)
    (kdfAlgorithm : String) (kdfParameters : Option Bytes) (secretAlgorithm : String)
    (secretParameters : Option Bytes) (privateKeyLength publicKeyLength : ℤ) : KeyCache :=
  let kdfParameters := orBytes kdfParameters (gkdi.kdfParametersPack "SHA512")
  let secretParameters :=
    if secretAlgorithm = "DH" ∧ secretParameters.getD [] = [] then
      some (gkdi.ffcdhParametersPack rfc5114KeyLength rfc5114FieldOrder rfc5114Generator)
    else secretParameters
  let rootKey : RootKey := ⟨key, version, kdfAlgorithm, kdfParameters, secretAlgorithm,
    secretParameters, privateKeyLength, publicKeyLength⟩
  { c with rootKeys := fun r => if r = rootKeyId then some rootKey else c.rootKeys r }

/-- `dict.setdefault` at a slot: the envelope already there, else `k`, stored. -/
def setdefault (c : KeyCache) (s : Slot) (k : GroupKeyEnvelope) : GroupKeyEnvelope × KeyCache :=
  match c.seedKeys s with
  | some existing => (existing, c)
  | none => (k, c.setSeed s k)

/-- The envelope `_get_key` derives from a root key: the L1 seed at `l0`, the indices
`(31, 31)`, flags `2`. -/
def rootKeyEnvelope (rootKey : RootKey) (rootKeyId : UUID) (l0 : ℤ) (l1Seed : Bytes) :
    GroupKeyEnvelope where
  version := rootKey.version
  flags := 2
  l0 := l0
  l1 := 31
  l2 := 31
  rootKeyIdentifier := rootKeyId
  kdfAlgorithm := rootKey.kdfAlgorithm
  kdfParameters := rootKey.kdfParameters
  secretAlgorithm := rootKey.secretAlgorithm
  secretParameters := orBytes rootKey.secretParameters []
  privateKeyLength := rootKey.privateKeyLength
  publicKeyLength := rootKey.publicKeyLength
  domainName := ""
  forestName := ""
  l1Key := l1Seed
  l2Key := []

/-- The root key branch of `_get_key`. -/
def getKeyFromRootKey (gkdi : Gkdi) (c : KeyCache) (targetSd : Bytes) (rootKeyId : UUID)
    (l0 : ℤ) : Except PyError (Option GroupKeyEnvelope × KeyCache) :=
  match c.rootKeys rootKeyId with
  | some rootKey => do
    let hashAlgorithm ← gkdi.kdfHashAlgorithm rootKey.kdfParameters
    let l1Seed ← gkdi.computeL1Key targetSd rootKeyId l0 rootKey.key hashAlgorithm
    let (k, c') := c.setdefault ⟨rootKeyId, targetSd, l0⟩ (rootKeyEnvelope rootKey rootKeyId l0 l1Seed)
    pure (some k, c')
  | none => .ok (none, c)

/-- `KeyCache._get_key`. -/
def getKey (gkdi : Gkdi) (c : KeyCache) (targetSd : Bytes) (rootKeyId : UUID) (l0 l1 l2 : ℤ) :
    Except PyError (Option GroupKeyEnvelope × KeyCache) :=
  match c.seedKeys ⟨rootKeyId, targetSd, l0⟩ with
  | some seedKey =>
    if seedKey.dominates l1 l2 then .ok (some seedKey, c)
    else c.getKeyFromRootKey gkdi targetSd rootKeyId l0
  | none => c.getKeyFromRootKey gkdi targetSd rootKeyId l0

/-- `KeyCache._store_key`. -/
def storeKey (c : KeyCache) (targetSd : Bytes) (key : GroupKeyEnvelope) : KeyCache :=
  match c.seedKeys (Slot.ofKey targetSd key) with
  | some existing =>
    if key.l1 > existing.l1 ∨ (key.l1 = existing.l1 ∧ key.l2 > existing.l2) then
      c.setSeed (Slot.ofKey targetSd key) key
    else c
  | none => c.setSeed (Slot.ofKey targetSd key) key

/-! ### What each method does to the slots -/

/-- The abstract slot: of what it holds and what it is offered, it keeps the lexicographically
greater envelope, the one it holds on a tie. -/
def ratchet : Option GroupKeyEnvelope → Option GroupKeyEnvelope → Option GroupKeyEnvelope
  | old, none => old
  | none, some k => some k
  | some old, some k => if lexLe k.indices old.indices then some old else some k

@[simp] theorem ratchet_none_right (o : Option GroupKeyEnvelope) : ratchet o none = o := by
  cases o <;> rfl

theorem ratchet_none_left (o : Option GroupKeyEnvelope) : ratchet none o = o := by
  cases o <;> rfl

/-- The ratchet never empties and never lowers. -/
theorem ratchet_some_le (k : GroupKeyEnvelope) (o : Option GroupKeyEnvelope) :
    ∃ k', ratchet (some k) o = some k' ∧ lexLe k.indices k'.indices := by
  cases o with
  | none => exact ⟨k, rfl, lexLe_refl _⟩
  | some x =>
    by_cases h : lexLe x.indices k.indices
    · exact ⟨k, if_pos h, lexLe_refl _⟩
    · exact ⟨x, if_neg h, lexLe_of_not h⟩

/-- Folding the ratchet over offers: the slot ends empty only if it started empty and was
offered nothing, and otherwise holds the first maximum of what it held and was offered. -/
theorem foldl_ratchet (init : Option GroupKeyEnvelope) (ks : List GroupKeyEnvelope) :
    (ks.foldl (fun o k => ratchet o (some k)) init = none ↔ init = none ∧ ks = []) ∧
      ∀ r, ks.foldl (fun o k => ratchet o (some k)) init = some r →
        r ∈ init.toList ++ ks ∧ ∀ k ∈ init.toList ++ ks, lexLe k.indices r.indices := by
  induction ks generalizing init with
  | nil =>
    refine ⟨by simp, fun r h => ?_⟩
    subst h
    simpa using lexLe_refl r.indices
  | cons k ks ih =>
    obtain ⟨ih1, ih2⟩ := ih (ratchet init (some k))
    have hne : ratchet init (some k) ≠ none := by
      cases init with
      | none => simp [ratchet]
      | some x => obtain ⟨_, h, -⟩ := ratchet_some_le x (some k); simp [h]
    refine ⟨by simp [ih1, hne], fun r h => ?_⟩
    obtain ⟨hmem, hmax⟩ := ih2 r h
    -- what the ratchet holds after `k` is `k` or the old envelope, and bounds both
    have hstep : ∀ x, ratchet init (some k) = some x →
        x ∈ init.toList ++ [k] ∧ ∀ y ∈ init.toList ++ [k], lexLe y.indices x.indices := by
      intro x hx
      cases init with
      | none =>
        cases hx
        simpa using lexLe_refl _
      | some o =>
        simp only [ratchet] at hx
        split at hx <;> cases hx <;> rename_i hle
        · simpa [lexLe_refl] using hle
        · simpa [lexLe_refl] using lexLe_of_not hle
    obtain ⟨x, hx⟩ := Option.ne_none_iff_exists'.1 hne
    obtain ⟨hxmem, hxmax⟩ := hstep x hx
    rw [hx] at hmem hmax
    simp only [Option.toList_some, List.singleton_append, List.mem_cons] at hmem hmax
    constructor
    · rcases hmem with rfl | hmem
      · simp only [List.mem_append, List.mem_singleton] at hxmem
        rcases hxmem with h | rfl <;> simp [h]
      · simp [hmem]
    · intro y hy
      simp only [List.mem_append, List.mem_cons] at hy
      rcases hy with hy | rfl | hy
      · exact lexLe_trans (hxmax y (by simp [hy])) (hmax x (.inl rfl))
      · exact lexLe_trans (hxmax y (by simp)) (hmax x (.inl rfl))
      · exact hmax y (.inr hy)


theorem setdefault_seedKeys (c : KeyCache) (s s' : Slot) (k : GroupKeyEnvelope) :
    (c.setdefault s k).2.seedKeys s' =
      if s' = s ∧ c.seedKeys s = none then some k else c.seedKeys s' := by
  unfold setdefault
  split <;> rename_i h
  · simp [h]
  · simp only [setSeed_seedKeys, h, and_true]

/-- The root key branch returns `None` without a root key, and otherwise what `setdefault`
returns for the derived envelope. -/
theorem getKeyFromRootKey_eq_ok {gkdi : Gkdi} {c c' : KeyCache} {sd : Bytes} {r : UUID} {l0 : ℤ}
    {res : Option GroupKeyEnvelope} (h : c.getKeyFromRootKey gkdi sd r l0 = .ok (res, c')) :
    (c.rootKeys r = none ∧ res = none ∧ c' = c) ∨
      ∃ rk seed, c.rootKeys r = some rk ∧
        c.setdefault ⟨r, sd, l0⟩ (rootKeyEnvelope rk r l0 seed) = (res.getD (rootKeyEnvelope rk r l0 seed), c') ∧ res.isSome := by
  unfold getKeyFromRootKey at h
  split at h
  · rename_i rk hrk
    obtain ⟨hash, -, h⟩ := bind_eq_ok.1 h
    obtain ⟨seed, -, h⟩ := bind_eq_ok.1 h
    generalize hsd : c.setdefault ⟨r, sd, l0⟩ (rootKeyEnvelope rk r l0 seed) = p at h
    obtain ⟨k, c''⟩ := p
    cases h
    exact .inr ⟨rk, seed, hrk, hsd, rfl⟩
  · cases h
    exact .inl ⟨‹_›, rfl, rfl⟩

/-- `_get_key` changes no slot but its own, and that one only by filling it, when it was empty,
with the envelope derived from the root key. -/
theorem getKey_seedKeys {gkdi : Gkdi} {c c' : KeyCache} {sd : Bytes} {r : UUID} {l0 l1 l2 : ℤ}
    {res : Option GroupKeyEnvelope} (h : c.getKey gkdi sd r l0 l1 l2 = .ok (res, c')) (s : Slot) :
    c'.seedKeys s = c.seedKeys s ∨
      (s = ⟨r, sd, l0⟩ ∧ c.seedKeys s = none ∧
        ∃ rk seed, c.rootKeys r = some rk ∧ c'.seedKeys s = some (rootKeyEnvelope rk r l0 seed)) := by
  have hroot : c.getKeyFromRootKey gkdi sd r l0 = .ok (res, c') → c'.seedKeys s = c.seedKeys s ∨
      (s = ⟨r, sd, l0⟩ ∧ c.seedKeys s = none ∧
        ∃ rk seed, c.rootKeys r = some rk ∧
          c'.seedKeys s = some (rootKeyEnvelope rk r l0 seed)) := by
    intro h
    rcases getKeyFromRootKey_eq_ok h with ⟨-, -, rfl⟩ | ⟨rk, seed, hrk, hsd, -⟩
    · exact .inl rfl
    · have := setdefault_seedKeys c ⟨r, sd, l0⟩ s (rootKeyEnvelope rk r l0 seed)
      rw [hsd] at this
      rw [this]
      split
      · rename_i hs
        obtain ⟨rfl, hn⟩ := hs
        exact .inr ⟨rfl, hn, rk, seed, hrk, rfl⟩
      · exact .inl rfl
  unfold getKey at h
  split at h
  · split at h
    · cases h
      exact .inl rfl
    · exact hroot h
  · exact hroot h

/-- `_store_key` acts on its own slot as a ratchet offered the new envelope, and on no
other. -/
theorem storeKey_seedKeys (c : KeyCache) (sd : Bytes) (k : GroupKeyEnvelope) (s : Slot) :
    (c.storeKey sd k).seedKeys s =
      if Slot.ofKey sd k = s then ratchet (c.seedKeys s) (some k) else c.seedKeys s := by
  by_cases hs : Slot.ofKey sd k = s
  · subst hs
    unfold storeKey
    split <;> rename_i h <;> simp only [h, ratchet, if_true, setSeed_seedKeys]
    simp only [lexLe, GroupKeyEnvelope.indices]
    split_ifs <;> first | omega | simp [setSeed_seedKeys, h]
  · unfold storeKey
    rw [if_neg hs]
    split
    · split
      · exact if_neg (Ne.symm hs)
      · rfl
    · exact if_neg (Ne.symm hs)

/-! ### What the methods do to the root keys -/

theorem setdefault_rootKeys (c : KeyCache) (s : Slot) (k : GroupKeyEnvelope) :
    (c.setdefault s k).2.rootKeys = c.rootKeys := by
  unfold setdefault
  split <;> rfl

theorem storeKey_rootKeys (c : KeyCache) (sd : Bytes) (k : GroupKeyEnvelope) :
    (c.storeKey sd k).rootKeys = c.rootKeys := by
  unfold storeKey
  split <;> (try split) <;> rfl

/-- `_get_key` changes no root key. -/
theorem getKey_rootKeys {gkdi : Gkdi} {c c' : KeyCache} {sd : Bytes} {r : UUID} {l0 l1 l2 : ℤ}
    {res : Option GroupKeyEnvelope} (h : c.getKey gkdi sd r l0 l1 l2 = .ok (res, c')) :
    c'.rootKeys = c.rootKeys := by
  have hroot : c.getKeyFromRootKey gkdi sd r l0 = .ok (res, c') → c'.rootKeys = c.rootKeys := by
    intro h
    rcases getKeyFromRootKey_eq_ok h with ⟨-, -, rfl⟩ | ⟨rk, seed, -, hsd, -⟩
    · rfl
    · rw [← setdefault_rootKeys c ⟨r, sd, l0⟩ (rootKeyEnvelope rk r l0 seed), hsd]
  unfold getKey at h
  split at h
  · split at h
    · cases h
      rfl
    · exact hroot h
  · exact hroot h

/-! ### What `_get_key` returns -/

/-- With a root key loaded, `_get_key` returns an envelope: it does not return `None`. -/
theorem getKey_isSome {gkdi : Gkdi} {c c' : KeyCache} {sd : Bytes} {r : UUID} {l0 l1 l2 : ℤ}
    {res : Option GroupKeyEnvelope} (hr : c.rootKeys r ≠ none)
    (h : c.getKey gkdi sd r l0 l1 l2 = .ok (res, c')) : res.isSome := by
  have hroot : c.getKeyFromRootKey gkdi sd r l0 = .ok (res, c') → res.isSome := fun h =>
    (getKeyFromRootKey_eq_ok h).elim (fun h' => absurd h'.1 hr) fun ⟨_, _, _, _, hs⟩ => hs
  unfold getKey at h
  split at h
  · split at h
    · cases h
      rfl
    · exact hroot h
  · exact hroot h

/-- A root key loaded into an empty cache: `_get_key` derives an envelope. -/
theorem getKey_isSome_loaded :
    let gkdi : Gkdi :=
      { kdfParametersPack := fun _ => [1]
        kdfHashAlgorithm := fun _ => .ok "SHA512"
        ffcdhParametersPack := fun _ _ _ => [2]
        computeL1Key := fun _ _ _ _ _ => .ok [3]
        computeL2Key := fun _ _ _ _ => .ok [4]
        newKek := fun _ => .error (.valueError "new_kek")
        getKek := fun _ _ => .ok [5]
        unpackResponse := fun _ => .error (.valueError "unpack_response") }
    let r : UUID := ⟨List.replicate 16 1, rfl⟩
    let c := KeyCache.empty.loadKey gkdi [6] r 1 "SP800_108_CTR_HMAC" none "DH" none 512 2048
    c.rootKeys r ≠ none ∧ ∃ res c', c.getKey gkdi [7] r 0 1 0 = .ok (res, c') ∧ res.isSome := by
  intro gkdi r c
  have hr : c.rootKeys r ≠ none := by decide
  obtain ⟨res, c', h⟩ : ∃ res c', c.getKey gkdi [7] r 0 1 0 = .ok (res, c') := ⟨_, _, rfl⟩
  exact ⟨hr, res, c', h, getKey_isSome hr h⟩

/-- What `_get_key` can return: the slot's envelope, when it dominates the request or a root
key is loaded, or else the envelope derived from the root key into the empty slot. -/
theorem getKey_eq_some {gkdi : Gkdi} {c c' : KeyCache} {sd : Bytes} {r : UUID} {l0 l1 l2 : ℤ}
    {k : GroupKeyEnvelope} (h : c.getKey gkdi sd r l0 l1 l2 = .ok (some k, c')) :
    (c.seedKeys ⟨r, sd, l0⟩ = some k ∧ (k.dominates l1 l2 ∨ c.rootKeys r ≠ none)) ∨
      (c.seedKeys ⟨r, sd, l0⟩ = none ∧
        ∃ rk seed, c.rootKeys r = some rk ∧ k = rootKeyEnvelope rk r l0 seed) := by
  have hroot : c.getKeyFromRootKey gkdi sd r l0 = .ok (some k, c') →
      (c.seedKeys ⟨r, sd, l0⟩ = some k ∧ c.rootKeys r ≠ none) ∨
        (c.seedKeys ⟨r, sd, l0⟩ = none ∧
          ∃ rk seed, c.rootKeys r = some rk ∧ k = rootKeyEnvelope rk r l0 seed) := by
    intro h
    rcases getKeyFromRootKey_eq_ok h with ⟨-, h, -⟩ | ⟨rk, seed, hrk, hsd, -⟩
    · cases h
    · unfold setdefault at hsd
      split at hsd
      · rename_i existing hs
        cases hsd
        exact .inl ⟨hs, by simp [hrk]⟩
      · rename_i hs
        cases hsd
        exact .inr ⟨hs, rk, seed, hrk, rfl⟩
  unfold getKey at h
  split at h
  · rename_i seedKey hs
    split at h
    · cases h
      exact .inl ⟨hs, .inl ‹_›⟩
    · exact (hroot h).imp_left fun ⟨h1, h2⟩ => ⟨h1, .inr h2⟩
  · exact (hroot h).imp_left fun ⟨h1, h2⟩ => ⟨h1, .inr h2⟩

/-- The slip in `_get_key`: when the slot holds an envelope that does not dominate the
request and a root key is loaded, `_get_key` derives the envelope at `(31, 31)` and returns
the old one, since `setdefault` keeps what the slot holds. -/
theorem getKey_returns_stale_entry {gkdi : Gkdi} {c : KeyCache} {sd : Bytes} {r : UUID}
    {l0 l1 l2 : ℤ} {k : GroupKeyEnvelope} {rk : RootKey} {hash : String} {seed : Bytes}
    (hk : c.seedKeys ⟨r, sd, l0⟩ = some k) (hnd : ¬k.dominates l1 l2) (hrk : c.rootKeys r = some rk)
    (hh : gkdi.kdfHashAlgorithm rk.kdfParameters = .ok hash)
    (hs : gkdi.computeL1Key sd r l0 rk.key hash = .ok seed) :
    c.getKey gkdi sd r l0 l1 l2 = .ok (some k, c) := by
  simp only [getKey, hk, if_neg hnd, getKeyFromRootKey, hrk, hh, hs, ok_bind, setdefault]
  rfl

/-! ### Calls and runs -/

/-- A call on the cache, with its arguments. -/
inductive CacheOp
  /-- `load_key(key, root_key_id, version, kdf_algorithm, kdf_parameters, secret_algorithm,
  secret_parameters, private_key_length, public_key_length)`. -/
  | loadKey (key : Bytes) (rootKeyId : UUID) (version : ℤ) (kdfAlgorithm : String)
      (kdfParameters : Option Bytes) (secretAlgorithm : String) (secretParameters : Option Bytes)
      (privateKeyLength publicKeyLength : ℤ)
  /-- `_get_key(target_sd, root_key_id, l0, l1, l2)`. -/
  | getKey (targetSd : Bytes) (rootKeyId : UUID) (l0 l1 l2 : ℤ)
  /-- `_store_key(target_sd, key)`. -/
  | storeKey (targetSd : Bytes) (key : GroupKeyEnvelope)

namespace CacheOp

variable (gkdi : Gkdi)

/-- The cache after the call; a call that raises leaves it as it was. -/
def apply : CacheOp → KeyCache → KeyCache
  | loadKey key r v ka kp sa sp pri pub, c => c.loadKey gkdi key r v ka kp sa sp pri pub
  | getKey sd r l0 l1 l2, c =>
    match c.getKey gkdi sd r l0 l1 l2 with
    | .ok (_, c') => c'
    | .error _ => c
  | storeKey sd k, c => c.storeKey sd k

/-- The cache after a run of calls. -/
def run (ops : List CacheOp) (c : KeyCache) : KeyCache := ops.foldl (fun c op => op.apply gkdi c) c

/-- What the call offers slot `s` of the cache `c`: a store at `s` offers its envelope, any
other call what it fills `s` with when `s` is empty. -/
def offer : CacheOp → KeyCache → Slot → Option GroupKeyEnvelope
  | storeKey sd k, _, s => if Slot.ofKey sd k = s then some k else none
  | op, c, s => if c.seedKeys s = none then (op.apply gkdi c).seedKeys s else none

/-- The envelopes a run offers slot `s`, in order: the first is its first occupant, and since
only a store offers a full slot anything, the others are the envelopes stored there later. -/
def offers : List CacheOp → KeyCache → Slot → List GroupKeyEnvelope
  | [], _, _ => []
  | op :: ops, c, s => (op.offer gkdi c s).toList ++ offers ops (op.apply gkdi c) s

/-- A call that changes no full slot acts on every slot as a ratchet offered what it fills the
slot with. -/
theorem eq_ratchet_of_fills {old new : Option GroupKeyEnvelope} (h : old ≠ none → new = old) :
    new = ratchet old (if old = none then new else none) := by
  by_cases ho : old = none
  · rw [if_pos ho, ho, ratchet_none_left]
  · rw [if_neg ho, h ho, ratchet_none_right]

/-- **The step lemma**: every call acts on every slot as the ratchet on what it offers. -/
theorem seedKeys_apply (op : CacheOp) (c : KeyCache) (s : Slot) :
    (op.apply gkdi c).seedKeys s = ratchet (c.seedKeys s) (op.offer gkdi c s) := by
  cases op with
  | loadKey => exact eq_ratchet_of_fills fun _ => rfl
  | getKey sd r l0 l1 l2 =>
    refine eq_ratchet_of_fills fun hs => ?_
    simp only [apply]
    split
    · rename_i h
      exact (getKey_seedKeys h s).resolve_right fun ⟨_, hn, _⟩ => hs hn
    · rfl
  | storeKey sd k =>
    simp only [apply, offer, storeKey_seedKeys]
    split <;> simp only [ratchet_none_right]

/-- The run lemma: a slot ends as the ratchet folded over what the run offered it. -/
theorem seedKeys_run (ops : List CacheOp) (c : KeyCache) (s : Slot) :
    (run gkdi ops c).seedKeys s =
      (offers gkdi ops c s).foldl (fun o k => ratchet o (some k)) (c.seedKeys s) := by
  induction ops generalizing c with
  | nil => rfl
  | cons op ops ih =>
    have hstep : (op.offer gkdi c s).toList.foldl (fun o k => ratchet o (some k)) (c.seedKeys s) =
        (op.apply gkdi c).seedKeys s := by
      rw [seedKeys_apply]
      cases op.offer gkdi c s <;> simp only [Option.toList, List.foldl, ratchet_none_right]
    rw [run, List.foldl_cons, ← run, ih, offers, List.foldl_append, hstep]

/-- No call unloads a root key: `load_key` only loads one, and the others leave the root keys
as they were. -/
theorem rootKeys_apply_ne_none (op : CacheOp) {c : KeyCache} {r : UUID} (h : c.rootKeys r ≠ none) :
    (op.apply gkdi c).rootKeys r ≠ none := by
  cases op with
  | loadKey key r' =>
    simp only [apply, KeyCache.loadKey]
    by_cases hr : r = r' <;> simp [hr, h]
  | getKey sd r' l0 l1 l2 =>
    simp only [apply]
    split
    · rwa [getKey_rootKeys ‹_›]
    · exact h
  | storeKey sd k => rwa [apply, storeKey_rootKeys]

/-- Whether the call is a `_store_key`. -/
def isStore : CacheOp → Bool
  | storeKey _ _ => true
  | _ => false

/-- A call other than `_store_key` offers a full slot nothing. -/
theorem offer_of_ne_none {op : CacheOp} (hop : op.isStore = false) {c : KeyCache} {s : Slot}
    (hs : c.seedKeys s ≠ none) : op.offer gkdi c s = none := by
  cases op with
  | storeKey => cases hop
  | _ => exact if_neg hs

/-- Every envelope offered to a slot is keyed by it. -/
theorem offer_keyed {op : CacheOp} {c : KeyCache} {s : Slot} {k : GroupKeyEnvelope}
    (h : op.offer gkdi c s = some k) : k.rootKeyIdentifier = s.rootKeyId ∧ k.l0 = s.l0 := by
  cases op with
  | storeKey sd k' =>
    simp only [offer] at h
    split at h
    · rename_i hs
      cases h
      exact ⟨congrArg Slot.rootKeyId hs, congrArg Slot.l0 hs⟩
    · cases h
  | loadKey =>
    simp only [offer] at h
    split at h
    · rename_i hs
      exact absurd (hs.symm.trans h) (by simp)
    · cases h
  | getKey sd r l0 l1 l2 =>
    simp only [offer] at h
    split at h
    · rename_i hs
      simp only [apply] at h
      split at h
      · rename_i hget
        rcases getKey_seedKeys hget s with h' | ⟨rfl, -, rk, seed, -, h'⟩
        · exact absurd (hs.symm.trans (h'.symm.trans h)) (by simp)
        · cases h.symm.trans h'
          exact ⟨rfl, rfl⟩
      · exact absurd (hs.symm.trans h) (by simp)
    · cases h

theorem keyed_of_mem_offers {ops : List CacheOp} {c : KeyCache} {s : Slot} {k : GroupKeyEnvelope}
    (h : k ∈ offers gkdi ops c s) : k.rootKeyIdentifier = s.rootKeyId ∧ k.l0 = s.l0 := by
  induction ops generalizing c with
  | nil => cases h
  | cons op ops ih =>
    rcases List.mem_append.1 h with h | h
    · exact offer_keyed gkdi (Option.mem_toList.1 h)
    · exact ih h

end CacheOp

/-- **The cache ratchet.**  After any run of `load_key`, `_get_key` and `_store_key` calls
from `KeyCache()`: (i) every slot holds an envelope of its own root key and L0 index;
(ii) no further call empties a slot or lowers its `(l1, l2)`, and calls other than
`_store_key` change a slot only by filling it; (iii) `_store_key` leaves at its slot the
lexicographic maximum of the new envelope and the previous occupant, the previous one on a
tie; and every slot holds the lexicographic maximum of its first occupant and the envelopes
stored there after it, the envelopes the run offered it. -/
theorem keyCache_ratchet (gkdi : Gkdi) (ops : List CacheOp) :
    let c := CacheOp.run gkdi ops KeyCache.empty
    (∀ s k, c.seedKeys s = some k → k.rootKeyIdentifier = s.rootKeyId ∧ k.l0 = s.l0) ∧
    (∀ (op : CacheOp) s k, c.seedKeys s = some k →
      ∃ k', (op.apply gkdi c).seedKeys s = some k' ∧ lexLe k.indices k'.indices) ∧
    (∀ (op : CacheOp) s, op.isStore = false → c.seedKeys s ≠ none →
      (op.apply gkdi c).seedKeys s = c.seedKeys s) ∧
    (∀ sd k, (c.storeKey sd k).seedKeys (Slot.ofKey sd k) =
      ratchet (c.seedKeys (Slot.ofKey sd k)) (some k)) ∧
    (∀ s, (c.seedKeys s = none ↔ CacheOp.offers gkdi ops KeyCache.empty s = []) ∧
      ∀ k, c.seedKeys s = some k → k ∈ CacheOp.offers gkdi ops KeyCache.empty s ∧
        ∀ k' ∈ CacheOp.offers gkdi ops KeyCache.empty s, lexLe k'.indices k.indices) := by
  intro c
  have hfinal : ∀ s, (c.seedKeys s = none ↔ CacheOp.offers gkdi ops KeyCache.empty s = []) ∧
      ∀ k, c.seedKeys s = some k → k ∈ CacheOp.offers gkdi ops KeyCache.empty s ∧
        ∀ k' ∈ CacheOp.offers gkdi ops KeyCache.empty s, lexLe k'.indices k.indices := by
    intro s
    have hrun : c.seedKeys s = (CacheOp.offers gkdi ops KeyCache.empty s).foldl
        (fun o k => ratchet o (some k)) none := CacheOp.seedKeys_run gkdi ops KeyCache.empty s
    obtain ⟨h1, h2⟩ := foldl_ratchet none (CacheOp.offers gkdi ops KeyCache.empty s)
    rw [← hrun] at h1 h2
    exact ⟨by simpa using h1, fun k hk => by simpa using h2 k hk⟩
  refine ⟨fun s k hk => CacheOp.keyed_of_mem_offers gkdi ((hfinal s).2 k hk).1,
    fun op s k hk => ?_, fun op s hop hs => ?_, fun sd k => ?_, hfinal⟩
  · rw [CacheOp.seedKeys_apply, hk]
    exact ratchet_some_le k _
  · rw [CacheOp.seedKeys_apply, CacheOp.offer_of_ne_none gkdi hop hs, ratchet_none_right]
  · rw [storeKey_seedKeys, if_pos rfl]

/-- The failing run of `_get_key`: store an envelope at `(0, 0)` in slot `(r, sd, 0)`, load a
root key for `r`, and ask for `(1, 0)`: the envelope at `(0, 0)` comes back. -/
theorem getKey_stale_after_store_and_load :
    let gkdi : Gkdi :=
      { kdfParametersPack := fun _ => [1]
        kdfHashAlgorithm := fun _ => .ok "SHA512"
        ffcdhParametersPack := fun _ _ _ => [2]
        computeL1Key := fun _ _ _ _ _ => .ok [3]
        computeL2Key := fun _ _ _ _ => .ok [4]
        newKek := fun _ => .error (.valueError "new_kek")
        getKek := fun _ _ => .ok [5]
        unpackResponse := fun _ => .error (.valueError "unpack_response") }
    let r : UUID := ⟨List.replicate 16 1, rfl⟩
    let k0 : GroupKeyEnvelope :=
      ⟨1, 0, 0, 0, 0, r, "SP800_108_CTR_HMAC", [1], "DH", [2], 512, 2048, "d", "f", [3], []⟩
    let c := (KeyCache.empty.storeKey [7] k0).loadKey gkdi [6] r 1 "SP800_108_CTR_HMAC" none "DH"
      none 512 2048
    c.getKey gkdi [7] r 0 1 0 = .ok (some k0, c) ∧ ¬k0.dominates 1 0 := by
  intro gkdi r k0 c
  exact ⟨getKey_returns_stale_entry (by decide) (by decide) rfl rfl rfl, by decide⟩

end KeyCache

end DpapiNg

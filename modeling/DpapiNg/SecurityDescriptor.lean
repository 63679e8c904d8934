import DpapiNg.Asn1

/-!
# Security descriptors

Modelled from the spec: `sd_to_bytes` and `ace_to_bytes` of `_security_descriptor.py` are not
among the sources.  The spec fixes what they build: a self-relative security descriptor of
revision 1 with no SACL, an owner, a group and a DACL of access-allowed ACEs, each SID in its
canonical binary form and each access mask a raw 32-bit value.  The binary layouts are the
Windows ones: a SID is its revision, its sub-authority count, a 48-bit big-endian identifier
authority and 32-bit little-endian sub-authorities; an ACE and an ACL carry their own size.

`targetSecurityDescriptor` is the expression that `ncrypt_protect_secret` and
`DPAPINGBlob.unpack` both evaluate on a protection descriptor SID: the cache key of protect
and the security descriptor unpack rebuilds are the same function of the SID string.

## Main definitions

* `sidToBytes`, `aceToBytes`, `aclToBytes`, `sdToBytes` — the binary forms.
* `targetSecurityDescriptor` — the descriptor protecting a secret for one SID.
-/

namespace DpapiNg

/-- The binary form of a SID string `S-R-A-S1-…-Sn`, with one to fifteen sub-authorities:
revision, sub-authority count, identifier authority big-endian, sub-authorities
little-endian.  A malformed string raises `ValueError`. -/
def sidToBytes (sid : String) : Except PyError Bytes :=
  match sid.toList.splitOn '-' with
  | ['S'] :: r :: a :: subs =>
    match parseDecimal r, parseDecimal a, subs.mapM parseDecimal with
    | some rev, some auth, some subAuths =>
      if rev < 256 ∧ auth < 2 ^ 48 ∧ 0 < subAuths.length ∧ subAuths.length ≤ 15 ∧
          ∀ s ∈ subAuths, s < 2 ^ 32 then
        .ok (UInt8.ofNat rev :: UInt8.ofNat subAuths.length :: (leBytes 6 auth).reverse ++
          subAuths.flatMap (leBytes 4))
      else invalid
    | _, _, _ => invalid
  | _ => invalid
where
  /-- The error for a malformed SID string. -/
  invalid : Except PyError Bytes :=
    .error (.valueError ("Input string '" ++ sid ++ "' is not a valid SID string"))

/-- `ace_to_bytes`: an access-allowed ACE (type and flags zero), its size, the access mask
and the SID. -/
def aceToBytes (sid : String) (accessMask : ℤ) : Except PyError Bytes := do
  let bSid ← sidToBytes sid
  let size ← toBytes 2 (8 + bSid.length)
  let mask ← toBytes 4 accessMask
  pure ([0, 0] ++ size ++ mask ++ bSid)

/-- An ACL of revision 2: its size and ACE count, then the ACEs. -/
def aclToBytes (aces : List Bytes) : Except PyError Bytes := do
  let aceData := aces.flatten
  let size ← toBytes 2 (8 + aceData.length)
  let count ← toBytes 2 aces.length
  pure ([2, 0] ++ size ++ count ++ [0, 0] ++ aceData)

/-- `sd_to_bytes` with no SACL: the 20-octet self-relative header (revision 1, control
self-relative with a DACL, the offsets of owner, group, SACL and DACL), then the owner, the
group and the DACL. -/
def sdToBytes (owner group : String) (dacl : List Bytes) : Except PyError Bytes := do
  let bOwner ← sidToBytes owner
  let bGroup ← sidToBytes group
  let bDacl ← aclToBytes dacl
  let control ← toBytes 2 0x8004
  let offsetOwner ← toBytes 4 20
  let offsetGroup ← toBytes 4 (20 + bOwner.length)
  let offsetSacl ← toBytes 4 0
  let offsetDacl ← toBytes 4 (20 + bOwner.length + bGroup.length)
  pure ([1, 0] ++ control ++ offsetOwner ++ offsetGroup ++ offsetSacl ++ offsetDacl ++ bOwner ++
    bGroup ++ bDacl)

/-- `sd_to_bytes(owner="S-1-5-18", group="S-1-5-18", dacl=[ace_to_bytes(sid, 3),
ace_to_bytes("S-1-1-0", 2)])`: SYSTEM owns the descriptor, `sid` may unprotect, and the
trailing ACE for World is the one Windows expects. -/
def targetSecurityDescriptor (sid : String) : Except PyError Bytes := do
  let ace ← aceToBytes sid 3
  let world ← aceToBytes "S-1-1-0" 2
  sdToBytes "S-1-5-18" "S-1-5-18" [ace, world]

end DpapiNg

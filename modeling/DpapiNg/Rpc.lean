import DpapiNg.Transport

/-!
# Fetching a group key over RPC

`_sync_get_key` and `_async_get_key` of `_client.py` ask a domain controller for a group key
envelope in two connections: the first asks the endpoint mapper on port 135 for the port of
the ISD key interface, the second binds to that interface and makes the GetKey request.  Each
connection binds its contexts and checks the bind acknowledgement (`_process_bind_result`)
before its request; the responses are read by `_process_ept_map_result` and
`_process_get_key_result`.

The two functions are written twice in the source, once with `await`.  `run_asyncGetKey` is the
simulation: the event loop runs `_async_get_key` as `_sync_get_key`, call for call, though
the synchronous one passes a literal `0` where the asynchronous one passes the context id it
read from `_EPM_CONTEXTS`.

## Main definitions

* `epmContexts`, `isdKeyContexts`, `eptMapIsdKey` — the constants of the two connections.
* `processBindResult`, `processEptMapResult`, `processGetKeyResult` — the response readers.
* `syncGetKey`, `asyncGetKey` — the two variants.

## Main results

* `run_asyncGetKey` — the event loop runs `_async_get_key` as `_sync_get_key`.
-/

namespace DpapiNg

/-! ### Constants -/

/-- `_EPM_CONTEXTS`. -/
def epmContexts : List ContextElement := [⟨0, .epm, [.ndr64]⟩]

/-- `_ISD_KEY_CONTEXTS`. -/
def isdKeyContexts : List ContextElement :=
  [⟨0, .isdKey, [.ndr64]⟩, ⟨1, .isdKey, [.bindTimeFeatureNegotiation]⟩]

/-- `_EPT_MAP_ISD_KEY`: the ISD key interface over TCP/IP, NDR, port 135, address 0, at most
four towers. -/
def eptMapIsdKey : EptMap := ⟨.isdKey, .ndr, 135, 0, 4⟩

/-- `EptMap.opnum`: `ept_map` is operation 3 of the endpoint mapper. -/
def EptMap.opnum : ℕ := 3

/-- `GetKey.opnum`: GetKey is operation 0 of the ISD key interface. -/
def GetKey.opnum : ℕ := 0

/-- `ContextResultCode.ACCEPTANCE`. -/
def acceptance : ℕ := 0

/-! ### Reading the responses -/

/-- A floor of a protocol tower: a TCP floor carries a port. -/
inductive Floor
  | tcp (port : ℕ)
  | other

/-- `EptMapResult`: the status and the towers of an `ept_map` response. -/
structure EptMapResult where
  status : ℕ
  towers : List (List Floor)

/-- The endpoint mapper's decoder of `_epm.py`, whose module is not among the sources. -/
structure Epm where
  /-- `EptMapResult.unpack`. -/
  eptMapResultUnpack : Bytes → Except PyError EptMapResult

/-- The ids of the accepted contexts of the acknowledgement's results from index `idx` on; an
accepted result past the end of the request raises `IndexError`. -/
def acceptedIds (requestedContexts : List ContextElement) : ℕ → List ℕ → Except PyError (List ℕ)
  | _, [] => .ok []
  | idx, c :: cs =>
    if c = acceptance then
      match requestedContexts[idx]? with
      | some ctx => (ctx.contextId :: ·) <$> acceptedIds requestedContexts (idx + 1) cs
      | none => .error (.indexError "list index out of range")
    else acceptedIds requestedContexts (idx + 1) cs

/-- `_process_bind_result`. -/
def processBindResult (requestedContexts : List ContextElement) (bindAck : BindAck)
    (desiredContext : ℕ) : Except PyError Unit := do
  let acceptedIds ← acceptedIds requestedContexts 0 bindAck.results
  if desiredContext ∈ acceptedIds then pure ()
  else .error (.valueError "Failed to bind to desired context")

/-- `f"{n:08X}"`: upper-case hexadecimal, padded with zeros to eight digits. -/
def hex08 (n : ℕ) : String :=
  let digits := (Nat.toDigits 16 n).map Char.toUpper
  ⟨List.replicate (8 - digits.length) '0' ++ digits⟩

example : hex08 0x1C010003 = "1C010003" ∧ hex08 0xD1 = "000000D1" := by decide

/-- The port of a TCP floor. -/
def Floor.port? : Floor → Option ℕ
  | .tcp port => some port
  | .other => none

/-- `_process_ept_map_result`: the port of the first TCP floor, tower by tower. -/
def processEptMapResult (epm : Epm) (response : Response) : Except PyError ℕ := do
  let mapResponse ← epm.eptMapResultUnpack response.stubData
  if mapResponse.status ≠ 0 then
    .error (.valueError ("Receive error during ept_map call 0x" ++ hex08 mapResponse.status))
  else
    match mapResponse.towers.flatten.findSome? Floor.port? with
    | some port => pure port
    | none => .error (.valueError "Did not find expected TCP Port in ept_map response")

/-- `_process_get_key_result`: the stub data without the trailer's padding, decoded. -/
def processGetKeyResult (gkdi : Gkdi) (response : Response) : Except PyError GroupKeyEnvelope :=
  let padLength : ℤ := response.stubData.length
  let padLength := match response.secTrailer with
    | some secTrailer => if secTrailer.padLength ≠ 0 then padLength - secTrailer.padLength
      else padLength
    | none => padLength
  gkdi.unpackResponse (sliceTo response.stubData padLength)

/-! ### The two variants -/

section GetKey

variable (gkdi : Gkdi) (epm : Epm)

/-- `_sync_get_key`. -/
def syncGetKey (o : Oracle) (server : String) (targetSd : Bytes) (rootKeyId : Option UUID)
    (l0 l1 l2 : ℤ) (username password : Option String) (authProtocol : String) :
    ClientM GroupKeyEnvelope := do
  let isdKeyPort ← withConnection o (.connect server none none none none) do
    let contextId := (epmContexts.get ⟨0, by decide⟩).contextId
    let ack ← perform o (.bind epmContexts)
    liftExcept (processBindResult epmContexts ack contextId)
    let eptMap := eptMapIsdKey
    let resp ← perform o (.request 0 EptMap.opnum (.eptMap eptMap) false)
    liftExcept (processEptMapResult epm resp)
  withConnection o (.connect server (some isdKeyPort) username password (some authProtocol)) do
    let contextId := (isdKeyContexts.get ⟨0, by decide⟩).contextId
    let ack ← perform o (.bind isdKeyContexts)
    liftExcept (processBindResult isdKeyContexts ack contextId)
    let getKey : GetKey := ⟨targetSd, rootKeyId, l0, l1, l2⟩
    let resp ← perform o (.request contextId GetKey.opnum (.getKey getKey) true)
    liftExcept (processGetKeyResult gkdi resp)

/-- `_async_get_key`. -/
def asyncGetKey (server : String) (targetSd : Bytes) (rootKeyId : Option UUID) (l0 l1 l2 : ℤ)
    (username password : Option String) (authProtocol : String) : Coro GroupKeyEnvelope := do
  let isdKeyPort ← Coro.withConnection (.connect server none none none none) do
    let contextId := (epmContexts.get ⟨0, by decide⟩).contextId
    let ack ← Coro.call (.bind epmContexts)
    Coro.liftExcept (processBindResult epmContexts ack contextId)
    let eptMap := eptMapIsdKey
    let resp ← Coro.call (.request contextId EptMap.opnum (.eptMap eptMap) false)
    Coro.liftExcept (processEptMapResult epm resp)
  Coro.withConnection (.connect server (some isdKeyPort) username password (some authProtocol)) do
    let contextId := (isdKeyContexts.get ⟨0, by decide⟩).contextId
    let ack ← Coro.call (.bind isdKeyContexts)
    Coro.liftExcept (processBindResult isdKeyContexts ack contextId)
    let getKey : GetKey := ⟨targetSd, rootKeyId, l0, l1, l2⟩
    let resp ← Coro.call (.request contextId GetKey.opnum (.getKey getKey) true)
    Coro.liftExcept (processGetKeyResult gkdi resp)

/-- The event loop runs `_async_get_key` as `_sync_get_key`: the same calls, the same result or
exception, the same world after. -/
theorem run_asyncGetKey (o : Oracle) (server : String) (targetSd : Bytes)
    (rootKeyId : Option UUID) (l0 l1 l2 : ℤ) (username password : Option String)
    (authProtocol : String) :
    (asyncGetKey gkdi epm server targetSd rootKeyId l0 l1 l2 username password authProtocol).run o =
      syncGetKey gkdi epm o server targetSd rootKeyId l0 l1 l2 username password authProtocol := by
  simp only [asyncGetKey, syncGetKey, Coro.run_bind, Coro.run_withConnection, Coro.run_call,
    Coro.run_liftExcept]
  rfl

/-- What `_sync_get_key` returns is the answer to its GetKey request for its arguments, as
`_process_get_key_result` reads it. -/
theorem syncGetKey_eq_ok_request {o : Oracle} {server : String} {targetSd : Bytes}
    {rootKeyId : Option UUID} {l0 l1 l2 : ℤ} {username password : Option String}
    {authProtocol : String} {w w' : World} {rk : GroupKeyEnvelope}
    (h : syncGetKey gkdi epm o server targetSd rootKeyId l0 l1 l2 username password authProtocol w =
      .ok rk w') :
    ∃ history resp, o history (.request 0 GetKey.opnum (.getKey ⟨targetSd, rootKeyId, l0, l1, l2⟩)
      true) = .ok resp ∧ processGetKeyResult gkdi resp = .ok rk := by
  obtain ⟨_, _, -, h⟩ := bind_apply_eq_ok h
  obtain ⟨_, _, h⟩ := withConnection_apply_eq_ok h
  obtain ⟨_, _, -, h⟩ := bind_apply_eq_ok h
  obtain ⟨_, _, -, h⟩ := bind_apply_eq_ok h
  obtain ⟨resp, _, hresp, h⟩ := bind_apply_eq_ok h
  exact ⟨_, resp, perform_apply_eq_ok hresp, (liftExcept_apply_eq_ok h).1⟩

/-- What `_sync_get_key` returns is a GetKey response as `_process_get_key_result` reads it. -/
theorem syncGetKey_eq_ok {o : Oracle} {server : String} {targetSd : Bytes} {rootKeyId : Option UUID}
    {l0 l1 l2 : ℤ} {username password : Option String} {authProtocol : String} {w w' : World}
    {rk : GroupKeyEnvelope}
    (h : syncGetKey gkdi epm o server targetSd rootKeyId l0 l1 l2 username password authProtocol w =
      .ok rk w') : ∃ resp, processGetKeyResult gkdi resp = .ok rk :=
  let ⟨_, resp, _, h⟩ := syncGetKey_eq_ok_request gkdi epm h
  ⟨resp, h⟩

end GetKey

end DpapiNg

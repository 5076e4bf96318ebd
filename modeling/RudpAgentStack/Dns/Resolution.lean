import RudpAgentStack.Agent.MemoryHost
import RudpAgentStack.Common.Constants
import RudpAgentStack.Dns.HttpPacket

/-!
# Resolving a name

`DNSCache`, the handler of `DoHRUDPServer` and `DNSClient.resolve` over a
transport that delivers whole messages.  The server reads the name up to the
first end of a line, space or equal sign in it, and looks that part up.
-/

namespace RudpAgentStack

open Foundation

/-! ## The cache -/

/-- `DNSCache`: addresses and times of expiry by name. -/
structure DnsCache where
  cache : Dict Text (Text × ℚ)

namespace DnsCache

/-- `set` -/
def set
    (dnsCache : DnsCache) (name ip : Text) (now : ℚ) (ttl : Int := 300) :
    DnsCache :=
  ⟨dnsCache.cache.set name (ip, now + ttl)⟩

/-- `__init__` -/
def init (now : ℚ) : DnsCache :=
  set ⟨.empty⟩ "agent.local" "127.0.0.1" now

/-- `get` -/
def get (dnsCache : DnsCache) (name : Text) (now : ℚ) :
    Option Text × DnsCache :=
  match dnsCache.cache.get? name with
  | some (ip, expiresAt) =>
      if now > expiresAt then (none, ⟨dnsCache.cache.del name⟩)
      else (some ip, dnsCache)
  | none => (none, dnsCache)

/-- An address that is found is in the cache. -/
theorem exists_of_get
    {dnsCache : DnsCache} {name ip : Text} {now : ℚ}
    (found : (dnsCache.get name now).1 = some ip) :
    ∃ expiresAt, now ≤ expiresAt ∧
      dnsCache.cache.get? name = some (ip, expiresAt) := by
  unfold get at found
  cases entry : dnsCache.cache.get? name with
  | none =>
      rw [entry] at found
      cases found
  | some held =>
      obtain ⟨address, expiresAt⟩ := held
      rw [entry] at found
      dsimp only at found
      split at found
      · cases found
      · next unexpired =>
          cases found
          exact ⟨expiresAt, not_lt.mp unexpired, rfl⟩

end DnsCache

/-! ## The server -/

namespace DohRudpServer

variable {World : Type}

/-- The data of the answer for an address, or for none. -/
def responseData : Option Text → Json
  | some ip =>
      .object
        [("status", .int 200),
          ("data", .object [("ip", .string ip), ("ttl", .int 300)])]
  | none => .object [("status", .int 404), ("error", .string "Not Found")]

/-- The status of the answer for an address, or for none. -/
def responseStatus : Option Text → Nat
  | some _ => 200
  | none => 404

/-- The address a lookup has, unless it is the empty text. -/
def nonempty : Option Text → Option Text
  | some [] => none
  | found => found

/-- `handle_message`; returns the response it sends, if it sends one. -/
def handleMessage
    (host : Host World) (dnsCache : DnsCache) (now : ℚ) (data : Bytes) :
    Except PyError (Option Bytes) × DnsCache :=
  match host.decode data with
  | .error error =>
      if error.kind = .unicodeDecodeError then (.ok none, dnsCache)
      else (.error error, dnsCache)
  | .ok httpRequest =>
      match HttpBuilder.parseRequest httpRequest with
      | none | some [] => (.ok none, dnsCache)
      | some name =>
          let (ip, dnsCache) := dnsCache.get name now
          let response := do
            let text ← HttpBuilder.buildJsonResponse host
              (responseStatus (nonempty ip)) (responseData (nonempty ip))
            some <$> host.encode text
          (response, dnsCache)

end DohRudpServer

/-! ## The client -/

namespace DnsClient

variable {World : Type}

/-- The address in the data of a response. -/
def resolvedIp (data : Json) : Json :=
  match data with
  | .object members =>
      if (Json.get members "status").equalsInt 200 then
        match Json.get? members "data" with
        | some (.object inner) => Json.get inner "ip"
        -- `None`, also for a value that has no members to get
        | _ => .null
      else .null
  | _ => .null

/-- What `resolve` makes of a response. -/
def readResponse (host : Host World) (response : Bytes) : Json :=
  let parsed := do
    let payload ← host.decode response
    HttpBuilder.parseResponse host payload
  match parsed with
  | .ok (some data) => if data.truthy then resolvedIp data else .null
  | _ => .null

/-- `resolve`, with the server at the other end of the transport; `null` is
`None`. -/
def resolve
    (host : Host World) (dnsCache : DnsCache) (now : ℚ)
    (dnsServerIp : Text) (port : Nat) (hostname : Text) : Json × DnsCache :=
  match host.encode (HttpBuilder.buildDohRequest hostname dnsServerIp port) with
  | .error _ => (.null, dnsCache)
  | .ok request =>
      let (response, dnsCache) :=
        DohRudpServer.handleMessage host dnsCache now request
      match response with
      | .ok (some response) => (readResponse host response, dnsCache)
      | _ => (.null, dnsCache)

end DnsClient

/-! ## The answer -/

/-- The value can be written as a JSON text, and read from it again. -/
def Host.Carries {World : Type} (host : Host World) (value : Json) : Prop :=
  ∃ text, Text.Ascii text ∧ host.jsonDumps {} value = .ok text ∧
    host.jsonLoads text = .ok value

/-- The host carries every answer the server can give. -/
structure DnsCache.Carried {World : Type}
    (host : Host World) (dnsCache : DnsCache) : Prop where
  found : ∀ name ip expiresAt,
    dnsCache.cache.get? name = some (ip, expiresAt) →
      host.Carries (DohRudpServer.responseData (some ip))
  notFound : host.Carries (DohRudpServer.responseData none)

theorem DnsCache.Carried.nonempty
    {World : Type} {host : Host World} {dnsCache : DnsCache}
    (carried : dnsCache.Carried host) {name : Text} {now : ℚ}
    {ip : Option Text} (found : (dnsCache.get name now).1 = ip) :
    host.Carries (DohRudpServer.responseData (DohRudpServer.nonempty ip)) := by
  match ip with
  | none | some [] => exact carried.notFound
  | some (point :: rest) =>
      obtain ⟨expiresAt, _, held⟩ := DnsCache.exists_of_get found
      exact carried.found name _ expiresAt held

/-- A lookup as the result of `resolve`. -/
def DnsClient.result : Option Text → Json
  | some ip => .string ip
  | none => .null

section Encoding

variable {World : Type} (host : Host World)

theorem Host.encode_of_valid
    {text : Text} (valid : ∀ point ∈ text, Text.isSurrogate point = false) :
    ∃ bytes, host.encode text = .ok bytes ∧ host.decode bytes = .ok text := by
  have encoded := Text.encodeUtf8_eq_some_iff.mpr ⟨valid, rfl⟩
  refine ⟨text.flatMap Text.encodePoint, ?_, ?_⟩
  · rw [Host.encode, encoded]
  · rw [Host.decode, Text.decodeUtf8_encodeUtf8 encoded]

/-- The texts around the name in a request are in ASCII. -/
theorem HttpBuilder.valid_buildDohRequest
    {hostname dnsServerIp : Text} (port : Nat)
    (hostnameValid : ∀ point ∈ hostname, Text.isSurrogate point = false)
    (serverValid : ∀ point ∈ dnsServerIp, Text.isSurrogate point = false) :
    ∀ point ∈ HttpBuilder.buildDohRequest hostname dnsServerIp port,
      Text.isSurrogate point = false := by
  have literal (text : Text)
      (ascii : text.all (fun point => point.val < 0x80) = true) :
      ∀ point ∈ text, Text.isSurrogate point = false :=
    Text.Ascii.valid (Text.ascii_of_all ascii)
  simp only [buildDohRequest, List.forall_mem_append]
  exact ⟨⟨⟨⟨literal _ (by decide), hostnameValid⟩, literal _ (by decide)⟩,
    literal _ (by decide)⟩,
    ⟨⟨⟨⟨⟨⟨literal _ (by decide), serverValid⟩, literal _ (by decide)⟩,
      Text.Ascii.valid (Text.ascii_ofInt port)⟩, literal _ (by decide)⟩,
      literal _ (by decide)⟩, literal _ (by decide)⟩, literal _ (by decide)⟩

/-- There are no surrogates before the body of a response. -/
theorem HttpBuilder.valid_responseHead (statusCode bodyLength : Nat) :
    ∀ point ∈ HttpBuilder.responseHead statusCode bodyLength,
      Text.isSurrogate point = false := by
  have statusAscii : Text.Ascii (statusText statusCode) := by
    unfold statusText
    split_ifs <;> exact Text.ascii_of_all (by decide)
  apply Text.Ascii.valid
  unfold responseHead
  exact .append (.append (.append (.append (.append (.append (.append
    (.append (Text.ascii_of_all (by decide)) (Text.ascii_ofInt statusCode))
    (Text.ascii_of_all (by decide))) statusAscii)
    (Text.ascii_of_all (by decide))) (Text.ascii_of_all (by decide)))
    (Text.ascii_of_all (by decide))) (Text.ascii_of_all (by decide)))
    (Text.ascii_ofInt bodyLength)

/-- A carried value is read back from the response that has it. -/
theorem HttpBuilder.parseResponse_buildJsonResponse
    {value : Json} (carried : host.Carries value) (statusCode : Nat) :
    ∃ text, HttpBuilder.buildJsonResponse host statusCode value = .ok text ∧
      (∀ point ∈ text, Text.isSurrogate point = false) ∧
      HttpBuilder.parseResponse host text = .ok (some value) := by
  obtain ⟨body, ascii, dumped, loaded⟩ := carried
  refine ⟨responseHead statusCode body.length ++ crlf ++ crlf ++ body,
    ?_, ?_, ?_⟩
  · rw [buildJsonResponse, dumped]
    rfl
  · have crlfAscii : Text.Ascii crlf := Text.ascii_of_all (by decide)
    simp only [List.forall_mem_append]
    exact ⟨⟨⟨valid_responseHead statusCode body.length, crlfAscii.valid⟩,
      crlfAscii.valid⟩, ascii.valid⟩
  · rw [parseResponse, partition?_response]
    dsimp only
    rw [loaded]
    rfl

/-- The client takes the value from the response of the server. -/
theorem DnsClient.readResponse_buildJsonResponse
    {value : Json} (carried : host.Carries value) (statusCode : Nat) :
    ∃ response, (do
        let text ← HttpBuilder.buildJsonResponse host statusCode value
        some <$> host.encode text) = .ok (some response) ∧
      DnsClient.readResponse host response =
        if value.truthy then DnsClient.resolvedIp value else .null := by
  obtain ⟨text, built, valid, parsed⟩ :=
    HttpBuilder.parseResponse_buildJsonResponse host carried statusCode
  obtain ⟨response, encoded, decoded⟩ := host.encode_of_valid valid
  refine ⟨response, ?_, ?_⟩
  · rw [built]
    exact congrArg (some <$> ·) encoded
  · have read : (do
        let payload ← host.decode response
        HttpBuilder.parseResponse host payload) = .ok (some value) := by
      rw [decoded]
      exact parsed
    rw [readResponse, read]

end Encoding

namespace DnsClient

variable {World : Type} {host : Host World}

/-- The client reads the address of the answer. -/
theorem read_responseData (ip : Option Text) :
    (if (DohRudpServer.responseData ip).truthy then
        resolvedIp (DohRudpServer.responseData ip)
      else .null) = result ip := by
  cases ip <;> rfl

/-- `resolve` gives what the server has for the part of the name it reads. -/
theorem resolve_eq
    {dnsCache : DnsCache} (carried : dnsCache.Carried host) (now : ℚ)
    {dnsServerIp hostname : Text} (port : Nat)
    (serverValid : ∀ point ∈ dnsServerIp, Text.isSurrogate point = false)
    (hostnameValid : ∀ point ∈ hostname, Text.isSurrogate point = false) :
    (resolve host dnsCache now dnsServerIp port hostname).1 =
      if HttpBuilder.askedName hostname = [] then .null
      else result (DohRudpServer.nonempty
        (dnsCache.get (HttpBuilder.askedName hostname) now).1) := by
  obtain ⟨request, encoded, decoded⟩ := host.encode_of_valid
    (HttpBuilder.valid_buildDohRequest port hostnameValid serverValid)
  rw [resolve, encoded]
  dsimp only
  rw [DohRudpServer.handleMessage, decoded]
  dsimp only
  rw [HttpBuilder.parseRequest_buildDohRequest]
  cases asked : HttpBuilder.askedName hostname with
  | nil => rfl
  | cons point rest =>
      dsimp only
      rw [if_neg (List.cons_ne_nil _ _)]
      cases found : dnsCache.get (point :: rest) now with
      | mk ip remaining =>
          dsimp only
          obtain ⟨response, answered, read⟩ :=
            readResponse_buildJsonResponse host
              (carried.nonempty (congrArg Prod.fst found))
              (DohRudpServer.responseStatus (DohRudpServer.nonempty ip))
          rw [answered]
          exact read.trans (read_responseData _)

/-- A lookup and an answer with the address of a part of the name agree if
there is no address for either, or the same one. -/
theorem resolve_eq_get_iff
    {dnsCache : DnsCache} (carried : dnsCache.Carried host) (now : ℚ)
    {dnsServerIp hostname : Text} (port : Nat)
    (serverValid : ∀ point ∈ dnsServerIp, Text.isSurrogate point = false)
    (hostnameValid : ∀ point ∈ hostname, Text.isSurrogate point = false) :
    (resolve host dnsCache now dnsServerIp port hostname).1 =
        result (dnsCache.get hostname now).1 ↔
      ((dnsCache.get hostname now).1 = none ∧
        (HttpBuilder.askedName hostname = [] ∨
          (dnsCache.get (HttpBuilder.askedName hostname) now).1 = none ∨
          (dnsCache.get (HttpBuilder.askedName hostname) now).1 = some [])) ∨
      (HttpBuilder.askedName hostname ≠ [] ∧ ∃ ip, ip ≠ [] ∧
        (dnsCache.get (HttpBuilder.askedName hostname) now).1 = some ip ∧
        (dnsCache.get hostname now).1 = some ip) := by
  rw [resolve_eq carried now port serverValid hostnameValid]
  generalize (dnsCache.get (HttpBuilder.askedName hostname) now).1 = answer
  generalize (dnsCache.get hostname now).1 = wanted
  by_cases empty : HttpBuilder.askedName hostname = []
  · rw [if_pos empty]
    cases wanted <;> simp [empty, result]
  · rw [if_neg empty]
    match answer with
    | none | some [] =>
        cases wanted <;> simp [empty, result, DohRudpServer.nonempty]
    | some (point :: rest) =>
        cases wanted with
        | none => simp [empty, result, DohRudpServer.nonempty]
        | some ip =>
            simp only [result, DohRudpServer.nonempty, Json.string.injEq,
              reduceCtorEq, false_and, false_or, Option.some.injEq]
            constructor
            · rintro rfl
              exact ⟨empty, _, List.cons_ne_nil _ _, rfl, rfl⟩
            · rintro ⟨-, other, -, rfl, rfl⟩
              rfl

/-- A name is resolved if it is asked for as a whole and its address is not
the empty text. -/
theorem resolve_of_plain
    {dnsCache : DnsCache} (carried : dnsCache.Carried host) (now : ℚ)
    {dnsServerIp hostname : Text} (port : Nat)
    (serverValid : ∀ point ∈ dnsServerIp, Text.isSurrogate point = false)
    (hostnameValid : ∀ point ∈ hostname, Text.isSurrogate point = false)
    (nonempty : hostname ≠ [])
    (noLineEnd : partition? HttpBuilder.crlf hostname = none)
    (noSpace : HttpBuilder.space ∉ hostname)
    (noSign : HttpBuilder.equalSign ∉ hostname)
    (addressed : (dnsCache.get hostname now).1 ≠ some []) :
    (resolve host dnsCache now dnsServerIp port hostname).1 =
      result (dnsCache.get hostname now).1 := by
  rw [resolve_eq carried now port serverValid hostnameValid,
    HttpBuilder.askedName_eq_self_iff.mpr ⟨noLineEnd, noSpace, noSign⟩,
    if_neg nonempty]
  match answer : (dnsCache.get hostname now).1 with
  | none | some (_ :: _) => rfl
  | some [] => exact absurd answer addressed

end DnsClient

/-! ## Sample names -/

namespace Sample

/-- A host that reads the answers about the default record. -/
def dnsHost : Host MemoryHost.Files :=
  memoryHost
    [((DohRudpServer.responseData (some "127.0.0.1")).write false,
        DohRudpServer.responseData (some "127.0.0.1")),
      ((DohRudpServer.responseData none).write false,
        DohRudpServer.responseData none)]
    []

theorem get_default :
    ((DnsCache.init 0).get "agent.local" 1).1 = some "127.0.0.1" := by
  have held : (DnsCache.init 0).cache.get? "agent.local" =
      some (Text.ofString "127.0.0.1", (0 : ℚ) + (300 : Int)) := rfl
  rw [DnsCache.get, held]
  exact congrArg Prod.fst (if_neg (by norm_num))

theorem dnsHost_carried : (DnsCache.init 0).Carried dnsHost where
  found := by
    intro name ip expiresAt held
    have single := List.mem_singleton.mp ((Dict.get?_eq_some_iff _ _ _).mp held)
    cases single
    exact ⟨_, Text.ascii_of_all (by decide), rfl, rfl⟩
  notFound := ⟨_, Text.ascii_of_all (by decide), rfl, rfl⟩

end Sample

namespace DnsClient

open Sample

/-- The default record is resolved. -/
theorem resolve_eq_get_default :
    (resolve dnsHost (.init 0) 1 "127.0.0.1" 8053 "agent.local").1 =
      result ((DnsCache.init 0).get "agent.local" 1).1 := by
  refine (resolve_eq_get_iff dnsHost_carried 1 8053
    (Text.Ascii.valid (Text.ascii_of_all (by decide)))
    (Text.Ascii.valid (Text.ascii_of_all (by decide)))).mpr (.inr ?_)
  have asked : HttpBuilder.askedName "agent.local" = "agent.local" := by decide
  rw [asked, get_default]
  exact ⟨by decide, _, by decide, rfl, rfl⟩

/-- What follows an equal sign in a name is not looked up. -/
theorem resolve_ne_get :
    ¬ ∀ (host : Host MemoryHost.Files) (dnsCache : DnsCache),
      dnsCache.Carried host → ∀ (now : ℚ) (dnsServerIp hostname : Text)
        (port : Nat),
        (∀ point ∈ dnsServerIp, Text.isSurrogate point = false) →
        (∀ point ∈ hostname, Text.isSurrogate point = false) →
        (resolve host dnsCache now dnsServerIp port hostname).1 =
          result (dnsCache.get hostname now).1 := by
  intro every
  have ascii (text : Text) (all : text.all (fun point => point.val < 0x80)) :=
    Text.Ascii.valid (Text.ascii_of_all all)
  have same := every dnsHost (.init 0) dnsHost_carried 1 "127.0.0.1"
    "agent.local=" 8053 (ascii _ (by decide)) (ascii _ (by decide))
  have asked : HttpBuilder.askedName "agent.local=" = "agent.local" := by
    decide
  have missing : ((DnsCache.init 0).get "agent.local=" 1).1 = none := rfl
  rw [resolve_eq dnsHost_carried 1 8053 (ascii _ (by decide))
    (ascii _ (by decide)), asked, get_default, missing] at same
  cases same

end DnsClient

end RudpAgentStack

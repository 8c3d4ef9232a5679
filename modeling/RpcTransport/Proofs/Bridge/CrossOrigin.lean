import RpcTransport.Bridge.Router

/-! # Cross-origin access

A request for permission is answered from its own headers, in front of everything else. Every
other request goes on to gRPC-Web with no more than its leading segments stripped; whatever
comes back, be it from the services or not, is open to the origin of the request.
-/

namespace RpcTransport

namespace Http.Headers

def values (headers : Headers) (name : String) : List String :=
  (headers.entries.filter fun entry => entry.1 = name).map (·.2)

variable (headers : Headers) {name other : String} (value : String)

theorem values_set_self : (headers.set name value).values name = [value] := by
  simp [values, set, List.filter_filter]

theorem values_set_of_ne (differs : other ≠ name) :
    (headers.set other value).values name = headers.values name := by
  simp only [values, set, List.filter_append, List.filter_filter]
  have kept : headers.entries.filter (fun entry => entry.1 = name && entry.1 ≠ other) =
      headers.entries.filter fun entry => entry.1 = name := by
    refine List.filter_congr fun entry _ => ?_
    by_cases same : entry.1 = name
    · simp [same, differs.symm]
    · simp [same]
  rw [kept]
  simp [differs]

end Http.Headers

namespace Bridge

open Http (Request Response Headers PathAndQuery Uri)

section Paths

/-- What stripping may do to a request: the target of a gRPC-Web request with leading segments
    becomes its last two segments with the query behind them. -/
inductive Strips (request : Request) : Request → Prop
  | kept : Strips request request
  | stripped (path : List Char) (target : PathAndQuery)
      (web : isGrpcWeb request.headers = true)
      (root : rootResourcePath request.uri.path = some path)
      (read : readTarget? (path ++ (request.uri.query.map ('?' :: ·)).getD []) = some target) :
      Strips request { request with uri := { request.uri with target := some target } }

theorem eq_of_replaceTarget? {uri replaced : Uri} {target : PathAndQuery}
    (replaces : replaceTarget? uri target = some replaced) :
    replaced = { uri with target := some target } := by
  unfold replaceTarget? at replaces
  split at replaces
  · cases replaces
  · cases replaces
  · exact (Option.some.inj replaces).symm

theorem strips_stripResourcePrefix (request : Request) :
    Strips request (stripResourcePrefix request).1 := by
  rw [stripResourcePrefix]
  cases web : isGrpcWeb request.headers with
  | false => exact .kept
  | true =>
      cases root : rootResourcePath request.uri.path with
      | none => exact .kept
      | some path =>
          simp only [Bool.not_true, Bool.false_eq_true, if_false]
          split
          · exact .kept
          · next target read =>
              have behind : readTarget? (path ++ (request.uri.query.map ('?' :: ·)).getD []) =
                  some target := by
                rw [← read]
                cases request.uri.query <;> simp
              split
              · exact .kept
              · next uri replaces =>
                  rw [eq_of_replaceTarget? replaces]
                  exact .stripped path target web root behind

theorem Strips.kind {request stripped : Request} (strips : Strips request stripped) :
    RequestKind.of stripped = RequestKind.of request := by
  cases strips <;> rfl

theorem Strips.version {request stripped : Request} (strips : Strips request stripped) :
    stripped.version = request.version := by
  cases strips <;> rfl

end Paths

section Web

variable (services : Request → Response) {request : Request}

theorem webLayer_of_webCall {answer : WebEncoding}
    (kind : RequestKind.of request = .webCall answer) :
    webLayer services request =
      ({ services (toGrpcCall request) with
          headers := (services (toGrpcCall request)).headers.set "content-type"
            answer.contentType },
        some (toGrpcCall request)) := by
  rw [webLayer, kind]

theorem webLayer_of_wrongMethod (kind : RequestKind.of request = .wrongMethod) :
    webLayer services request = (emptyResponse 405, none) := by
  rw [webLayer, kind]

theorem webLayer_of_http2 (kind : RequestKind.of request = .other)
    (version : request.version = .http2) :
    webLayer services request = (services request, some request) := by
  rw [webLayer, kind]
  exact if_pos version

theorem webLayer_of_http1 (kind : RequestKind.of request = .other)
    (version : request.version ≠ .http2) :
    webLayer services request = (emptyResponse 400, none) := by
  rw [webLayer, kind]
  exact if_neg version

variable {services}

theorem status_of_reached {inner : Request}
    (reached : (webLayer services request).2 = some inner) :
    (webLayer services request).1.status = (services inner).status := by
  cases kind : RequestKind.of request with
  | webCall answer =>
      rw [webLayer_of_webCall services kind] at reached ⊢
      cases reached
      rfl
  | wrongMethod =>
      rw [webLayer_of_wrongMethod services kind] at reached
      cases reached
  | other =>
      by_cases version : request.version = .http2
      · rw [webLayer_of_http2 services kind version] at reached ⊢
        cases reached
        rfl
      · rw [webLayer_of_http1 services kind version] at reached
        cases reached

end Web

section Answers

structure Permits (request : Request) (passage : Passage) : Prop where
  /-- Whatever is behind the check has no part in it. -/
  alone : ∀ inner, accessLayer inner request = passage
  unreached : passage.reached = none
  unnoticed : passage.notices = []
  status : passage.response.status = 200
  origin : passage.response.headers.values "access-control-allow-origin" =
    (request.headers.get? "origin").toList
  methods : passage.response.headers.values "access-control-allow-methods" =
    (request.headers.get? "access-control-request-method").toList
  headers : passage.response.headers.values "access-control-allow-headers" =
    (request.headers.get? "access-control-request-headers").toList
  age : passage.response.headers.values "access-control-max-age" = ["86400"]

structure Forwards (services : Request → Response) (request : Request) (passage : Passage) :
    Prop where
  strips : Strips request (stripResourcePrefix request).1
  /-- A posted gRPC-Web request reaches the services as a gRPC call. -/
  called : ∀ answer, RequestKind.of request = .webCall answer →
    passage.reached = some (toGrpcCall (stripResourcePrefix request).1)
  /-- Over HTTP/2, requests of other content types reach them too. -/
  passed : RequestKind.of request = .other → request.version = .http2 →
    passage.reached = some (stripResourcePrefix request).1
  served : ∀ inner, passage.reached = some inner →
    passage.response.status = (services inner).status
  /-- gRPC-Web that is not posted is turned away. -/
  wrongMethod : RequestKind.of request = .wrongMethod →
    passage.reached = none ∧ passage.response.status = 405
  /-- So are other content types over HTTP/1. -/
  wrongVersion : RequestKind.of request = .other → request.version ≠ .http2 →
    passage.reached = none ∧ passage.response.status = 400
  /-- Whatever the answer is, the origin of the request may read it. -/
  origin : ∀ origin, request.headers.get? "origin" = some origin →
    passage.response.headers.values "access-control-allow-origin" = [origin]
  exposed : passage.response.headers.values "access-control-expose-headers" =
    ["grpc-status,grpc-message,grpc-status-details-bin"]

theorem values_mirrored (request : Request) (source target name : String) :
    ((mirrored request source target).filter fun entry => entry.1 = name).map (·.2) =
      if target = name then (request.headers.get? source).toList else [] := by
  rw [mirrored]
  cases request.headers.get? source with
  | none => simp
  | some value => by_cases same : target = name <;> simp [same]

theorem permits_preflightResponse {request : Request} (asks : isPreflight request = true) :
    Permits request ⟨preflightResponse request, none, []⟩ := by
  have fixed : ∀ inner, accessLayer inner request = ⟨preflightResponse request, none, []⟩ := by
    intro inner
    rw [accessLayer, if_pos asks]
  constructor
  case alone => exact fixed
  case unreached => rfl
  case unnoticed => rfl
  case status => rfl
  case origin => simp [preflightResponse, Headers.values, varyHeader, values_mirrored]
  case methods => simp [preflightResponse, Headers.values, varyHeader, values_mirrored]
  case headers => simp [preflightResponse, Headers.values, varyHeader, values_mirrored]
  case age => simp [preflightResponse, Headers.values, varyHeader, values_mirrored]; rfl

theorem handle_of_preflight (services : Request → Response) {request : Request}
    (asks : isPreflight request = true) :
    handle services request = ⟨preflightResponse request, none, []⟩ := by
  change accessLayer (pathLayer (webHandler services)) request = _
  rw [accessLayer, if_pos asks]

theorem handle_of_forwarded (services : Request → Response) {request : Request}
    (forwarded : isPreflight request = false) :
    handle services request =
      ⟨allowAccess request (webLayer services (stripResourcePrefix request).1).1,
        (webLayer services (stripResourcePrefix request).1).2, (stripResourcePrefix request).2⟩ := by
  change accessLayer (pathLayer (webHandler services)) request = _
  simp only [accessLayer, forwarded, Bool.false_eq_true, if_false, pathLayer, webHandler,
    List.append_nil]

theorem origin_allowAccess {request : Request} {origin : String}
    (given : request.headers.get? "origin" = some origin) (response : Response) :
    (allowAccess request response).headers.values "access-control-allow-origin" = [origin] := by
  simp only [allowAccess, accessHeaders, mirrored, given, List.singleton_append, List.foldl_cons,
    List.foldl_nil]
  rw [Headers.values_set_of_ne _ _ (by decide), Headers.values_set_self]

theorem exposed_allowAccess (request : Request) (response : Response) :
    (allowAccess request response).headers.values "access-control-expose-headers" =
      ["grpc-status,grpc-message,grpc-status-details-bin"] := by
  simp only [allowAccess, accessHeaders, List.foldl_append, List.foldl_cons, List.foldl_nil,
    Headers.values_set_self]
  rfl

theorem forwards_handle (services : Request → Response) {request : Request}
    (forwarded : isPreflight request = false) :
    Forwards services request (handle services request) := by
  have strips := strips_stripResourcePrefix request
  rw [handle_of_forwarded services forwarded]
  constructor
  case strips => exact strips
  case called =>
    intro answer kind
    simp only [webLayer_of_webCall services (strips.kind.trans kind)]
  case passed =>
    intro kind version
    simp only [webLayer_of_http2 services (strips.kind.trans kind) (strips.version.trans version)]
  case served =>
    intro inner reached
    exact (status_of_reached reached).trans rfl
  case wrongMethod =>
    intro kind
    rw [webLayer_of_wrongMethod services (strips.kind.trans kind)]
    exact ⟨rfl, rfl⟩
  case wrongVersion =>
    intro kind version
    rw [webLayer_of_http1 services (strips.kind.trans kind) (strips.version ▸ version)]
    exact ⟨rfl, rfl⟩
  case origin => exact fun origin given => origin_allowAccess given _
  case exposed => exact exposed_allowAccess request _

/-- How a bridge in front of some services answers origins. -/
structure AnswersOrigins (services : Request → Response) : Prop where
  permission : ∀ request, request.method = "OPTIONS" → Permits request (handle services request)
  /-- Only the headers that answers depend on tell two requests for permission apart. -/
  alike : ∀ others request other, request.method = "OPTIONS" → other.method = "OPTIONS" →
    (∀ name ∈ varyingHeaders, other.headers.get? name = request.headers.get? name) →
      handle others other = handle services request
  forwarded : ∀ request, request.method ≠ "OPTIONS" →
    Forwards services request (handle services request)

theorem answersOrigins (services : Request → Response) : AnswersOrigins services := by
  have asks : ∀ {request : Request}, request.method = "OPTIONS" → isPreflight request = true :=
    fun options => decide_eq_true options
  constructor
  case permission =>
    intro request options
    rw [handle_of_preflight services (asks options)]
    exact permits_preflightResponse (asks options)
  case alike =>
    intro others request other options otherOptions agree
    have same : preflightResponse other = preflightResponse request := by
      simp only [preflightResponse, mirrored, agree "origin" (by decide),
        agree "access-control-request-method" (by decide),
        agree "access-control-request-headers" (by decide)]
    rw [handle_of_preflight services (asks options),
      handle_of_preflight others (asks otherOptions), same]
  case forwarded =>
    intro request differs
    exact forwards_handle services (decide_eq_false differs)

/-- Not every request but those for permission gets through to the services. -/
theorem handle_turnsAway :
    ∃ request, Request.parse "POST" "/pkg.Svc/Method" .http1
        [("origin", "http://app.example.com"), ("content-type", "application/json")] =
          some request ∧
      request.method ≠ "OPTIONS" ∧
        ∀ services, (handle services request).reached = none ∧
          (handle services request).response.status = 400 := by
  refine ⟨⟨"POST", ⟨none, none, some ⟨"/pkg.Svc/Method".toList, none⟩⟩, .http1,
    ⟨[("origin", "http://app.example.com"), ("content-type", "application/json")]⟩, ()⟩, ?_, ?_, ?_⟩
  · decide
  · decide
  · intro services
    exact (forwards_handle services rfl).wrongVersion (by decide) (by decide)

end Answers

end Bridge

end RpcTransport

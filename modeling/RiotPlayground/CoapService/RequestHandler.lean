import Mathlib.Data.Nat.Notation

/-!
# `coap_service.py`: `CoapRequestHandler`

A request to the web server is sent on as a CoAP request, and its response is sent back.
-/

namespace RiotPlayground

namespace CoapService

/-- What the handler uses of its packages: the argument that is decoded from a query, the `scheme`
of `urlparse`, and the numbers of the media types. -/
structure HandlerLibs where
  getQueryArgument : List Char → List Char
  coapSchemes : List (List Char)
  scheme : List Char → List Char
  mediaTypesRev : List Char → Option ℕ

/-- The keys of `METHODS`. -/
inductive HttpMethod
  | get
  | head
  | post
  deriving DecidableEq

inductive CoapMethod
  | get
  | post
  deriving DecidableEq

def HttpMethod.code : HttpMethod → CoapMethod
  | .get => .get
  | .head => .get
  | .post => .post

/-- `query` is the text of the argument, and `contentType` the header. -/
structure HttpRequest where
  method : HttpMethod
  query : List Char
  contentType : Option (List Char)
  body : List UInt8

structure CoapRequest where
  code : CoapMethod
  uri : List Char
  contentFormat : Option ℕ
  payload : List UInt8

/-- `code` is the number of the response code, the class in its upper three bits. -/
structure CoapResponse where
  code : ℕ
  payload : List UInt8

/-- A status, with what the body is. -/
structure HttpResponse where
  status : ℕ
  body : List UInt8
  deriving DecidableEq

/-- `_common` up to the sending of the request; `none` is the status 400. -/
def HandlerLibs.request (L : HandlerLibs) (r : HttpRequest) : Option CoapRequest :=
  let target := L.getQueryArgument r.query
  if L.scheme target ∈ L.coapSchemes then
    match r.contentType with
    | none => some ⟨r.method.code, target, none, r.body⟩
    | some type =>
      (L.mediaTypesRev type).map fun format => ⟨r.method.code, target, some format, r.body⟩
  else none

/-- `divmod(resp.code, 0x20)` -/
def CoapResponse.status (resp : CoapResponse) : ℕ := resp.code / 0x20 * 100 + resp.code % 0x20

def CoapResponse.isSuccessful (resp : CoapResponse) : Bool := resp.code / 0x20 = 2

/-- `_common` when the response is there. The result of `replace` is not used. -/
def answer (method : HttpMethod) (resp : CoapResponse) : HttpResponse :=
  if resp.isSuccessful then ⟨200, if method = .head then [] else resp.payload⟩
  else ⟨resp.status, resp.payload⟩

variable {L : HandlerLibs} {query : List Char} {body : List UInt8} {m : CoapRequest}

/-- A body with a known type is sent on as it is. -/
lemma request_post {type : List Char} {format : ℕ} (htype : L.mediaTypesRev type = some format)
    (h : L.request ⟨.post, query, some type, body⟩ = some m) :
    m = ⟨.post, L.getQueryArgument query, some format, body⟩ := by
  unfold HandlerLibs.request at h
  dsimp only at h
  split at h
  case isTrue =>
    rw [htype] at h
    exact (Option.some.inj h).symm
  case isFalse => cases h

lemma request_get (h : L.request ⟨.get, query, none, body⟩ = some m) :
    m = ⟨.get, L.getQueryArgument query, none, body⟩ := by
  unfold HandlerLibs.request at h
  dsimp only at h
  split at h
  case isTrue => exact (Option.some.inj h).symm
  case isFalse => cases h

lemma answer_successful {method : HttpMethod} {resp : CoapResponse} (hget : method ≠ .head)
    (h : resp.isSuccessful = true) : answer method resp = ⟨200, resp.payload⟩ := by
  unfold answer
  rw [if_pos h, if_neg hget]

end CoapService

end RiotPlayground

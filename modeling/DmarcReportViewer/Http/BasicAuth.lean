import DmarcReportViewer.Lib.Text

/-!
# Basic authentication

The model of `basic_auth_middleware` in `http.rs`.  The Base64 engine is a parameter.
-/

namespace DmarcReportViewer

open Text

/-- The settings of `config.rs` which the middleware reads. -/
structure HttpConfiguration where
  httpServerUser : String
  httpServerPassword : String
deriving DecidableEq

/-- The methods which routes tell apart. -/
inductive Method where
  | get
  | head
  | post
  | other
deriving DecidableEq

structure Request where
  method : Method
  path : String
  query : String
  headers : List (String × List UInt8)
  body : List UInt8
deriving DecidableEq

/-- The first value of a header.  The names of headers are stored in lower case. -/
def Request.header (request : Request) (name : String) : Option (List UInt8) :=
  request.headers.lookup name

structure Response where
  status : Nat
  wwwAuthenticate : Option String
deriving DecidableEq

/-- What a middleware does with a request. -/
inductive Outcome where
  | next (request : Request)
  | respond (response : Response)
deriving DecidableEq

structure Base64Engine where
  encode : List UInt8 → String
  decode : String → Option (List UInt8)

namespace BasicAuth

def isVisibleAscii (byte : UInt8) : Bool :=
  (32 ≤ byte && byte < 127) || byte == 9

/-- The text of a header value, which may contain visible ASCII characters only. -/
def toStr (value : List UInt8) : Option String :=
  if value.all isVisibleAscii then
    some (String.ofList (value.map fun byte => Char.ofNat byte.toNat))
  else
    none

def unauthorized : Response where
  status := 401
  wwwAuthenticate := some "Basic realm=\"Access\""

def badRequest : Response where
  status := 400
  wwwAuthenticate := none

def basicAuthMiddleware (base64 : Base64Engine) (config : HttpConfiguration) (request : Request) :
    Outcome :=
  if config.httpServerPassword = "" then
    .next request
  else
    match request.header "authorization" with
    | none => .respond unauthorized
    | some header =>
        match toStr header with
        | none => .respond badRequest
        | some header =>
            match stripPrefix header "Basic " with
            | none => .respond badRequest
            | some encoded =>
                match base64.decode encoded with
                | none => .respond badRequest
                | some decoded =>
                    match fromUtf8 decoded with
                    | none => .respond badRequest
                    | some string =>
                        match splitOnce string ':' with
                        | none => .respond badRequest
                        | some (user, password) =>
                            if user = config.httpServerUser ∧
                                password = config.httpServerPassword then
                              .next request
                            else
                              .respond unauthorized

section Texts

theorem utf8EncodeChar_ofNat {byte : UInt8} (visible : isVisibleAscii byte = true) :
    String.utf8EncodeChar (Char.ofNat byte.toNat) = [byte] := by
  have all : ∀ number : Fin 256, isVisibleAscii (UInt8.ofFin number) = true →
      String.utf8EncodeChar (Char.ofNat (UInt8.ofFin number).toNat) = [UInt8.ofFin number] := by
    decide +kernel
  exact all byte.toFin visible

/-- The text of a header value has the bytes of the value. -/
theorem asBytes_toStr {value : List UInt8} {text : String} (read : toStr value = some text) :
    asBytes text = value := by
  simp only [toStr] at read
  split at read
  · next visible =>
      rw [← Option.some.inj read, asBytes_ofList, List.flatMap_map]
      rw [List.all_eq_true] at visible
      calc
        value.flatMap (fun byte => String.utf8EncodeChar (Char.ofNat byte.toNat))
        _ = value.flatMap (fun byte => [byte]) := by
          exact List.flatMap_congr fun byte member => utf8EncodeChar_ofNat (visible byte member)
        _ = value := List.flatMap_singleton' value
  · cases read

/-- A text of visible ASCII characters is read from its bytes. -/
theorem toStr_asBytes {text : String}
    (visible : ∀ byte ∈ asBytes text, isVisibleAscii byte = true) :
    toStr (asBytes text) = some text := by
  have read : ∃ found, toStr (asBytes text) = some found :=
    ⟨_, if_pos (List.all_eq_true.mpr visible)⟩
  rcases read with ⟨found, read⟩
  rw [read, asBytes_injective (asBytes_toStr read)]

end Texts

section Correctness

/-- The user name and the password, as a client sends them. -/
def credentials (config : HttpConfiguration) : String :=
  config.httpServerUser ++ ":" ++ config.httpServerPassword

/-- The engine decodes its own encoding of the bytes, which is a text of visible
ASCII characters. -/
structure Encodes (base64 : Base64Engine) (bytes : List UInt8) : Prop where
  inverse : base64.decode (base64.encode bytes) = some bytes
  visible : ∀ byte ∈ asBytes (base64.encode bytes), isVisibleAscii byte = true

/-- The middleware lets exactly the requests with the right credentials through. -/
structure Authenticates (base64 : Base64Engine) (config : HttpConfiguration) : Prop where
  sound : ∀ request passed, basicAuthMiddleware base64 config request = .next passed →
    passed = request ∧ ∃ encoded,
      request.header "authorization" = some (asBytes ("Basic " ++ encoded)) ∧
        base64.decode encoded = some (asBytes (credentials config))
  complete : ':' ∉ config.httpServerUser.toList → Encodes base64 (asBytes (credentials config)) →
    ∀ request,
      request.header "authorization" =
          some (asBytes ("Basic " ++ base64.encode (asBytes (credentials config)))) →
        basicAuthMiddleware base64 config request = .next request
  rejected : ∀ request, (∀ passed, basicAuthMiddleware base64 config request ≠ .next passed) →
    basicAuthMiddleware base64 config request = .respond unauthorized ∨
      basicAuthMiddleware base64 config request = .respond badRequest

variable {base64 : Base64Engine} {config : HttpConfiguration}

/-- What has to happen for a request to pass. -/
theorem basicAuthMiddleware_eq_next (enabled : config.httpServerPassword ≠ "") {request : Request}
    {passed : Request} (passes : basicAuthMiddleware base64 config request = .next passed) :
    passed = request ∧ ∃ header text encoded decoded string,
      request.header "authorization" = some header ∧ toStr header = some text ∧
        stripPrefix text "Basic " = some encoded ∧ base64.decode encoded = some decoded ∧
          fromUtf8 decoded = some string ∧
            splitOnce string ':' = some (config.httpServerUser, config.httpServerPassword) := by
  simp only [basicAuthMiddleware] at passes
  rw [if_neg enabled] at passes
  repeat' split at passes
  all_goals cases passes
  next header found _ text read _ encoded stripped _ decoded decodes _ string valid _ user password
      parts same =>
    refine ⟨rfl, header, text, encoded, decoded, string, found, read, stripped, decodes, valid, ?_⟩
    rw [parts, same.1, same.2]

theorem basicAuthMiddleware_of_parts (enabled : config.httpServerPassword ≠ "") {request : Request}
    {header : List UInt8} {text encoded string : String} {decoded : List UInt8}
    (found : request.header "authorization" = some header) (read : toStr header = some text)
    (stripped : stripPrefix text "Basic " = some encoded)
    (decodes : base64.decode encoded = some decoded) (valid : fromUtf8 decoded = some string)
    (parts : splitOnce string ':' = some (config.httpServerUser, config.httpServerPassword)) :
    basicAuthMiddleware base64 config request = .next request := by
  simp [basicAuthMiddleware, enabled, found, read, stripped, decodes, valid, parts]

theorem toList_credentials (config : HttpConfiguration) :
    (credentials config).toList =
      config.httpServerUser.toList ++ ':' :: config.httpServerPassword.toList := by
  simp [credentials]

/-- With a password, Basic authentication is sound and complete. -/
theorem authenticates (base64 : Base64Engine) {config : HttpConfiguration}
    (enabled : config.httpServerPassword ≠ "") : Authenticates base64 config := by
  constructor
  case sound =>
    intro request passed passes
    rcases basicAuthMiddleware_eq_next enabled passes with
      ⟨same, header, text, encoded, decoded, string, found, read, stripped, decodes, valid, parts⟩
    refine ⟨same, encoded, ?_, ?_⟩
    · rw [found, ← stripPrefix_eq_some_iff.mp stripped, asBytes_toStr read]
    · have whole : string = credentials config := by
        rw [← String.toList_inj, toList_credentials]
        exact splitOnce_eq_some parts
      rw [decodes, ← whole, fromUtf8_eq_some_iff.mp valid]
  case complete =>
    intro plain encodes request found
    have visible : ∀ byte ∈ asBytes ("Basic " ++ base64.encode (asBytes (credentials config))),
        isVisibleAscii byte = true := by
      intro byte member
      rw [asBytes_append] at member
      rcases List.mem_append.mp member with scheme | encoded
      · exact List.all_eq_true.mp (by decide +kernel : (asBytes "Basic ").all isVisibleAscii = true)
          byte scheme
      · exact encodes.visible byte encoded
    have parts : splitOnce (credentials config) ':' =
        some (config.httpServerUser, config.httpServerPassword) := by
      rw [← String.ofList_toList (s := credentials config), toList_credentials,
        splitOnce_of_not_mem plain, String.ofList_toList, String.ofList_toList]
    exact basicAuthMiddleware_of_parts enabled found (toStr_asBytes visible)
      (stripPrefix_eq_some_iff.mpr rfl) encodes.inverse (fromUtf8_eq_some_iff.mpr rfl) parts
  case rejected =>
    intro request blocked
    simp only [basicAuthMiddleware] at blocked ⊢
    rw [if_neg enabled] at blocked ⊢
    repeat' split
    all_goals simp_all

def sampleHttpConfiguration : HttpConfiguration where
  httpServerUser := "dmarc"
  httpServerPassword := "a:b"

/-- A Base64 engine which knows one pair of texts. -/
def sampleBase64 : Base64Engine where
  encode _ := "ZG1hcmM6YTpi"
  decode text := if text = "ZG1hcmM6YTpi" then some (asBytes "dmarc:a:b") else none

def sampleRequest : Request where
  method := .get
  path := "/summary"
  query := ""
  headers := [("host", asBytes "localhost"), ("authorization", asBytes "Basic ZG1hcmM6YTpi")]
  body := []

theorem authenticates_sample :
    Authenticates sampleBase64 sampleHttpConfiguration ∧
      basicAuthMiddleware sampleBase64 sampleHttpConfiguration sampleRequest =
        .next sampleRequest := by
  have correct : Authenticates sampleBase64 sampleHttpConfiguration :=
    authenticates sampleBase64 (by decide)
  refine ⟨correct, correct.complete (by decide +kernel) ⟨by decide +kernel, ?_⟩ _
    (by decide +kernel)⟩
  exact fun byte member => List.all_eq_true.mp
    (by decide +kernel : (asBytes "ZG1hcmM6YTpi").all isVisibleAscii = true) byte member

end Correctness

end BasicAuth

end DmarcReportViewer

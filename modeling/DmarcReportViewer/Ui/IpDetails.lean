import DmarcReportViewer.Http.Locations
import DmarcReportViewer.Lib.Loads
import DmarcReportViewer.Ui.Entries

/-!
# Details of IP addresses

The model of `lookupIp`, `getDnsForIp` and `getLocationForIp`, which `dmarc-report.js` and
`tls-report.js` have in common, and of `dns_single_handler` of `http/ips.rs`.  The details of an
address can be closed and opened again, and answers arrive in any order.
-/

namespace DmarcReportViewer.Ui

open Forms Loads Locations Routing Runs Text

inductive IpInfo where
  | dns
  | location
deriving DecidableEq

/-- The addresses whose details are shown. -/
abbrev IpDetails : Type :=
  String → Bool

def ipUrl : IpInfo × String → String
  | (.dns, ip) => "ips/" ++ ip ++ "/dns"
  | (.location, ip) => "ips/" ++ ip ++ "/location"

def lookupIp (ip : String) (ipDetails : IpDetails) :
    IpDetails × (IpInfo × String → List String) :=
  if ipDetails ip then
    (Function.update ipDetails ip false, fun _ => [])
  else
    (Function.update ipDetails ip true, fun slot => if slot.2 = ip then [ipUrl slot] else [])

def dnsSingleHandler (result : Result (Option String)) : Export.Response :=
  match result with
  | .error _ => { status := 500, contentType := "text/plain", body := "DNS lookup failed" }
  | .ok (some hostName) => { status := 200, contentType := "text/plain", body := hostName }
  | .ok none => { status := 404, contentType := "text/plain", body := "n/a" }

theorem fst_lookupIp (ip : String) (ipDetails : IpDetails) :
    (lookupIp ip ipDetails).1 = Function.update ipDetails ip (!ipDetails ip) := by
  cases isOpen : ipDetails ip <;> simp [lookupIp, isOpen]

theorem snd_lookupIp (ip : String) (ipDetails : IpDetails) (slot : IpInfo × String) :
    (lookupIp ip ipDetails).2 slot =
      if ipDetails ip = false ∧ slot.2 = ip then [ipUrl slot] else [] := by
  cases isOpen : ipDetails ip <;> simp [lookupIp, isOpen]

variable {σ ε γ : Type}

/-- What the lookups of the server result in at some moment. -/
structure IpServer (σ : Type) where
  host : σ → IpAddr → Result (Option String)
  locate : σ → IpAddr → Result (Option Location)
  toStringPretty : Location → String

/-- The answer to a `GET` request for details.  There is none if the request is rejected before
its handler is called. -/
def ipAnswer (env : Externals) (server : IpServer σ) (state : σ) (url : String) :
    Option Export.Response := do
  let (route, captured) ← Routes.routeOf (fetchedPath url)
  match route.path, captured with
  | "/ips/\x7bip\x7d/dns", [text] =>
      let ip ← env.parseIp (← Percent.decode text)
      return dnsSingleHandler (server.host state ip)
  | "/ips/\x7bip\x7d/location", [text] =>
      let ip ← env.parseIp (← Percent.decode text)
      return toLocationResponse server.toStringPretty (server.locate state ip)
  | _, _ => none

/-- What `getDnsForIp` and `getLocationForIp` store, with `none` for a null.  Nothing is
stored if `response.json()` throws. -/
def useIp (parse : String → Option γ) (slot : IpInfo × String)
    (response : Option Export.Response) : Option (Option (String ⊕ γ)) :=
  match response with
  | none => some none
  | some response =>
      if response.status = 200 then
        match slot.1 with
        | .dns => some (some (.inl response.body))
        | .location => (parse response.body).map fun result => some (.inr result)
      else
        some none

/-- A page with the details of addresses next to a server. -/
def ipSetting (env : Externals) (parse : String → Option γ) (server : IpServer σ)
    (serve : ε → σ → σ) :
    Setting σ ε IpDetails String (IpInfo × String) String (Option Export.Response)
      (Option (String ⊕ γ)) where
  serve := serve
  act := lookupIp
  answer := ipAnswer env server
  use := useIp parse

section Specification

/-- The text of an address. -/
structure IsIpText (env : Externals) (text : String) (ip : IpAddr) : Prop where
  parse : env.parseIp text = some ip
  nonempty : text ≠ ""
  chars : text.toList.all fun char => "0123456789abcdef.:".toList.contains char

/-- What the page shows for the result of a lookup. -/
def ipValue (parse : String → Option γ) (server : IpServer σ) (state : σ) (ip : IpAddr) :
    IpInfo → Option (Option (String ⊕ γ))
  | .dns =>
      match server.host state ip with
      | .ok (some hostName) => some (some (.inl hostName))
      | _ => some none
  | .location =>
      match server.locate state ip with
      | .ok (some location) =>
          (parse (server.toStringPretty location)).map fun result => some (.inr result)
      | _ => some none

variable (env : Externals) (parse : String → Option γ) (server : IpServer σ) (serve : ε → σ → σ)
  (state : σ)

def ipWorld (events : List (Loads.Event ε String (IpInfo × String))) :
    World σ IpDetails (IpInfo × String) String (Option Export.Response)
      (Option (String ⊕ γ)) :=
  run (step (ipSetting env parse server serve)) events (start state fun _ => false)

/-- In whatever order the answers arrive, the details of an address are results of lookups of
this very address.  They are the latest ones if no answer overtakes another one.  Details which
are open and still empty wait for an answer, unless one was lost. -/
structure IpDetailsHold (events : List (Loads.Event ε String (IpInfo × String)))
    (text : String) (ip : IpAddr) : Prop where
  shown : ∀ info value, (ipWorld env parse server serve state events).shown (info, text) =
      some value →
    ∃ earlier, earlier <+: events ∧
      (ipWorld env parse server serve state earlier).sent (info, text) ≠ [] ∧
      ipValue parse server (ipWorld env parse server serve state earlier).server ip info =
        some value
  latest : (∀ event ∈ events, event.InOrder) → ∀ info,
    (ipWorld env parse server serve state events).sent (info, text) ≠ [] →
    (ipWorld env parse server serve state events).flights (info, text) = [] →
    ∃ earlier, earlier <+: events ∧
      (ipWorld env parse server serve state earlier).sent (info, text) =
        (ipWorld env parse server serve state events).sent (info, text) ∧
      ∀ value, ipValue parse server (ipWorld env parse server serve state earlier).server ip
          info = some value →
        (ipWorld env parse server serve state events).shown (info, text) = some value
  loading : (∀ event ∈ events, event.Keeps) →
    (∀ location, (parse (server.toStringPretty location)).isSome) → ∀ info,
    (ipWorld env parse server serve state events).client text = true →
    (ipWorld env parse server serve state events).shown (info, text) = none →
    (ipWorld env parse server serve state events).flights (info, text) ≠ []

end Specification

section Requests

variable {env : Externals} {parse : String → Option γ} {server : IpServer σ} {state : σ}
  {text : String} {ip : IpAddr}

theorem IsIpText.mem (isIpText : IsIpText env text ip) {char : Char}
    (member : char ∈ text.toList) : char ∈ "0123456789abcdef.:".toList :=
  List.contains_iff_mem.mp (List.all_eq_true.mp isIpText.chars char member)

theorem resolve_ipUrl (isIpText : IsIpText env text ip) {name : String}
    (known : name ∈ ["dns", "location"]) :
    resolve Routes.table ["ips", text, name] =
      some (⟨"/ips/\x7bip\x7d/" ++ name, .get, true⟩, [text]) := by
  have ips : advance (.literal "ips") Routes.table = [
      ([.capture, .literal "dns"], ⟨"/ips/\x7bip\x7d/dns", .get, true⟩),
      ([.literal "dns", .literal "batch"], ⟨"/ips/dns/batch", .post, true⟩),
      ([.capture, .literal "location"], ⟨"/ips/\x7bip\x7d/location", .get, true⟩),
      ([.capture, .literal "whois"], ⟨"/ips/\x7bip\x7d/whois", .get, true⟩)] := by
    rw [Routes.table_eq]
    rfl
  have different : "dns" ≠ text := by
    rintro rfl
    have impossible := isIpText.mem (by decide : 'n' ∈ "dns".toList)
    revert impossible
    decide
  simp only [List.mem_cons, List.not_mem_nil, or_false] at known
  rcases known with rfl | rfl
  · rw [resolve, ips]
    simp [resolve, advance, isIpText.nonempty, different]
  · rw [resolve, ips]
    simp [resolve, advance, isIpText.nonempty, different]

theorem routeOf_ipUrl (isIpText : IsIpText env text ip) {name url : String}
    (known : name ∈ ["dns", "location"]) (joined : url = "ips/" ++ text ++ "/" ++ name) :
    Routes.routeOf (fetchedPath url) = some (⟨"/ips/\x7bip\x7d/" ++ name, .get, true⟩, [text]) := by
  have ipChars : "0123456789abcdef.:".toList.all fun char => keptInPath char && char ≠ '/' := by
    decide
  have names : ∀ name ∈ ["dns", "location"], Plain name := by decide
  have inText : ∀ char ∈ text.toList, keptInPath char = true ∧ char ≠ '/' := by
    intro char member
    simpa using List.all_eq_true.mp ipChars char (isIpText.mem member)
  rw [← resolve_ipUrl isIpText known]
  apply routeOf_intercalate
  · apply String.toList_inj.mp
    simp [String.intercalate_cons_cons, joined]
  · exact List.cons_ne_nil _ _
  · intro piece member
    simp only [List.mem_cons, List.not_mem_nil, or_false] at member
    rcases member with rfl | rfl | rfl
    · decide
    · exact fun slash => (inText '/' slash).2 rfl
    · exact (names piece known).not_mem (by decide)
  · intro piece member
    simp only [List.mem_cons, List.not_mem_nil, or_false] at member
    rcases member with rfl | rfl | rfl
    · exact keptInPath_of_plain (by decide)
    · exact fun char inside => (inText char inside).1
    · exact keptInPath_of_plain (names piece known)

/-- The result of a lookup is what the page makes of the answer. -/
theorem useIp_ipAnswer (isIpText : IsIpText env text ip) (info : IpInfo) :
    useIp parse (info, text) (ipAnswer env server state (ipUrl (info, text))) =
      ipValue parse server state ip info := by
  have decoded : Percent.decode text = some text := by
    apply decode_of_not_mem
    intro percent
    have impossible := isIpText.mem percent
    revert impossible
    decide
  cases info with
  | dns =>
      have route := @routeOf_ipUrl _ _ _ isIpText "dns" (ipUrl (.dns, text)) (by decide)
        (by simp [ipUrl, String.append_assoc])
      have answered : ipAnswer env server state (ipUrl (.dns, text)) =
          some (dnsSingleHandler (server.host state ip)) := by
        simp [ipAnswer, route, decoded, isIpText.parse]
      rw [answered, ipValue]
      rcases server.host state ip with error | (hostName | hostName) <;> rfl
  | location =>
      have route := @routeOf_ipUrl _ _ _ isIpText "location" (ipUrl (.location, text)) (by decide)
        (by simp [ipUrl, String.append_assoc])
      have answered : ipAnswer env server state (ipUrl (.location, text)) =
          some (toLocationResponse server.toStringPretty (server.locate state ip)) := by
        simp [ipAnswer, route, decoded, isIpText.parse]
      rw [answered, ipValue]
      rcases server.locate state ip with error | (location | location) <;> rfl

end Requests

section Loading

variable {env : Externals} {parse : String → Option γ} {server : IpServer σ} {serve : ε → σ → σ}
  {state : σ} {text : String} {ip : IpAddr}
  {events : List (Loads.Event ε String (IpInfo × String))}

@[simp]
theorem use_ipSetting (slot : IpInfo × String) :
    (ipSetting env parse server serve).use slot = useIp parse slot :=
  rfl

@[simp]
theorem answer_ipSetting :
    (ipSetting env parse server serve).answer = ipAnswer env server :=
  rfl

/-- A slot has only requests for its own address. -/
theorem asks_ipSetting (slot : IpInfo × String) (action : String) (client : IpDetails) :
    ∀ request ∈ ((ipSetting env parse server serve).act action client).2 slot,
      request = ipUrl slot := by
  intro request asked
  simp only [ipSetting, snd_lookupIp] at asked
  split at asked
  · exact List.mem_singleton.mp asked
  · cases asked

theorem sent_ipWorld {slot : IpInfo × String} {request : String}
    (asked : request ∈ (ipWorld env parse server serve state events).sent slot) :
    request = ipUrl slot :=
  holds_of_sent (asks_ipSetting slot) request asked

/-- Details which are open have been requested. -/
theorem sent_ne_nil_of_open (info : IpInfo)
    (isOpen : (ipWorld env parse server serve state events).client text = true) :
    (ipWorld env parse server serve state events).sent (info, text) ≠ [] := by
  induction events using List.reverseRecOn with
  | nil => cases isOpen
  | append_singleton events event ih =>
      have change := @change_step _ _ _ _ _ _ _ _ _ (ipSetting env parse server serve)
        (ipWorld env parse server serve state events) event
      have reached : ipWorld env parse server serve state (events ++ [event]) =
          step (ipSetting env parse server serve) event
            (ipWorld env parse server serve state events) := run_concat _ _
      rw [reached] at isOpen ⊢
      generalize step (ipSetting env parse server serve) event
        (ipWorld env parse server serve state events) = next at change isOpen
      cases change with
      | acted action =>
          generalize ipWorld env parse server serve state events = world at ih isOpen ⊢
          simp only [ipSetting, fst_lookupIp] at isOpen
          by_cases same : text = action
          · subst same
            have wasClosed : world.client text = false := by simpa using isOpen
            simp [World.send, ipSetting, snd_lookupIp, wasClosed]
          · rw [Function.update_of_ne same] at isOpen
            simp [World.send, ih isOpen]
      | _ => exact ih isOpen

/-- The details of an address in a page which is used in any way. -/
theorem ipDetailsHold_of_run (env : Externals) (parse : String → Option γ) (server : IpServer σ)
    (serve : ε → σ → σ) (state : σ)
    (events : List (Loads.Event ε String (IpInfo × String)))
    (isIpText : IsIpText env text ip) :
    IpDetailsHold env parse server serve state events text ip := by
  constructor
  case shown =>
    intro info value some
    rw [ipWorld] at some
    rcases exists_answer_of_shown some with ⟨earlier, before, request, asked, used⟩
    rw [sent_ipWorld asked, use_ipSetting, answer_ipSetting, useIp_ipAnswer isIpText] at used
    exact ⟨earlier, before, List.ne_nil_of_mem asked, used⟩
  case latest =>
    intro inOrder info asked settled
    rcases List.eq_nil_or_concat
      ((ipWorld env parse server serve state events).sent (info, text)) with none | found
    · exact absurd none asked
    · rcases found with ⟨before, request, last⟩
      rw [List.concat_eq_append] at last
      have own : request = ipUrl (info, text) := sent_ipWorld (by rw [last]; simp)
      rw [ipWorld] at last settled
      rcases exists_answer_of_settled inOrder last settled with ⟨earlier, before, same, used⟩
      simp only [own, use_ipSetting, answer_ipSetting, useIp_ipAnswer isIpText] at used
      exact ⟨earlier, before, same, used⟩
  case loading =>
    intro keeps parses info isOpen none
    have waits : (ipWorld env parse server serve state events).Waits (info, text) := by
      refine waits_world state (fun _ => false) keeps (asks_ipSetting (info, text)) ?_
      rintro request rfl now
      rw [use_ipSetting, answer_ipSetting, useIp_ipAnswer isIpText]
      cases info with
      | dns =>
          simp only [ipValue]
          split <;> rfl
      | location =>
          simp only [ipValue]
          split
          · next location _ => simpa using parses location
          · rfl
    exact waits (sent_ne_nil_of_open info isOpen) none

def sampleIpEnv : Externals :=
  { decodingEnv with
    parseIp := fun text => if text = "192.0.2.1" then some (.v4 0xC0000201) else none }

def sampleIpServer : IpServer Unit where
  host _ _ := .ok (some "mail.example.org")
  locate _ _ := .error "Failed to send HTTP request"
  toStringPretty location := location.country

/-- The details of an address are opened, closed and opened again. -/
def sampleLookups : List (Loads.Event Unit String (IpInfo × String)) :=
  [.act "192.0.2.1", .act "192.0.2.1", .act "192.0.2.1", .answer (.dns, "192.0.2.1") 1,
    .arrive (.dns, "192.0.2.1") 1]

theorem ipDetailsHold_of_run_sample :
    IpDetailsHold sampleIpEnv some sampleIpServer (fun _ state => state) () sampleLookups
        "192.0.2.1" (.v4 0xC0000201) ∧
      (ipWorld sampleIpEnv some sampleIpServer (fun _ state => state) ()
        sampleLookups).shown (.dns, "192.0.2.1") = some (some (.inl "mail.example.org")) := by
  constructor
  · exact ipDetailsHold_of_run sampleIpEnv some sampleIpServer (fun _ state => state) ()
      sampleLookups ⟨by decide, by decide, by decide⟩
  · decide +kernel

end Loading

end DmarcReportViewer.Ui

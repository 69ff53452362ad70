import DmarcReportViewer.Background.Runs
import DmarcReportViewer.Http.Entries
import DmarcReportViewer.Ui.LinkValues

/-!
# Pages of single entries

The links of `mail-table.js`, `dmarc-report-table.js`, `tls-report-table.js`, `mail.js`,
`dmarc-report.js` and `tls-report.js` to mails and reports, and the requests of the pages
behind them.  In every reachable state each of these links leads to the entry for which it
is shown.
-/

namespace DmarcReportViewer.Ui

open Collections Entries Forms Routing Runs Text

section Pages

def mailLink (id : String) : String :=
  "#/mails/" ++ id

def dmarcReportLink (hash : String) : String :=
  "#/dmarc-reports/" ++ hash

def tlsReportLink (hash : String) : String :=
  "#/tls-reports/" ++ hash

/-- What stays as it is in the path of an address. -/
def keptInPath (char : Char) : Bool :=
  isVisible char && !"\"#<>?^\x60\x7b\x7d".toList.contains char

/-- The text before the first separator, or all of the text without one. -/
def beforeFirst (separator : Char) (text : String) : String :=
  match splitOnce text separator with
  | some (first, _) => first
  | none => text

/-- The path of the request for an address.  Segments which are `.` or `..` stay as they are,
while a browser resolves them. -/
def fetchedPath (url : String) : String :=
  "/" ++ Percent.encode keptInPath (beforeFirst '?' (beforeFirst '#' url))

/-- The requests of a page which shows a single entry. -/
def entryRequests : Component → List String
  | .mail id =>
      if id = "" then
        []
      else
        ["mails/" ++ id, "dmarc-reports?id=" ++ id, "tls-reports?id=" ++ id,
          "mails/" ++ id ++ "/errors"]
  | .dmarcReport id => if id = "" then [] else ["dmarc-reports/" ++ id]
  | .tlsReport id => if id = "" then [] else ["tls-reports/" ++ id]
  | _ => []

variable (env : Externals) (json : JsonBodies) (state : AppState)

/-- The page behind a link and the answers to its requests. -/
def visit (link : String) : Component × List (Option Export.Response) :=
  let page := component (onHashChange (locationHash link)).1
  (page, (entryRequests page).map fun url =>
    answer env json state (fetchedPath url) (fetchedQuery url))

/-- The page of a mail with its reports and its errors. -/
def mailPage (mail : Mail) : Component × List (Option Export.Response) :=
  (.mail mail.id, [
    some (foundResponse json.mail mail),
    some (foundResponse json.dmarcReports
      ((state.dmarcReports.toList.filter fun entry => entry.2.mailId = mail.id).map fun entry =>
        DmarcReports.ReportHeader.fromReport entry.1 entry.2.report)),
    some (foundResponse json.tlsReports
      ((state.tlsReports.toList.filter fun entry => entry.2.mailId = mail.id).map fun entry =>
        TlsReports.ReportHeader.fromReport entry.1 entry.2.report)),
    some (foundResponse json.errors (state.parsingErrors[mail.id]?.getD []))])

def dmarcReportPage (hash : String) (rwi : DmarcReportWithMailId) :
    Component × List (Option Export.Response) :=
  (.dmarcReport hash, [some (foundResponse json.dmarcReport rwi)])

def tlsReportPage (hash : String) (rwi : TlsReportWithMailId) :
    Component × List (Option Export.Response) :=
  (.tlsReport hash, [some (foundResponse json.tlsReport rwi)])

end Pages

section Identifiers

/-- A text which can be part of a link and of a path as it is. -/
structure IsIdentifier (id : String) : Prop where
  plain : Plain id
  nonempty : id ≠ ""

theorem isIdentifier_createHash (sha256 : Sha256) (parts : List (List UInt8)) :
    IsIdentifier (createHash sha256 parts) where
  plain := by
    have alphabet : Base64.alphabet.all fun char =>
        char.isAlphanum || "_-".toList.contains char := by decide +kernel
    intro char member
    rw [createHash, String.toList_ofList] at member
    rcases Base64.mem_encode member with ⟨index, rfl⟩
    exact List.all_eq_true.mp alphabet _ (Base64.symbol_mem_alphabet index)
  nonempty := by
    intro empty
    have length := length_asBytes_createHash sha256 parts
    rw [empty] at length
    simp [asBytes] at length

/-- The keys of the state are identifiers. -/
structure AppState.Identified (state : AppState) : Prop where
  mails : ∀ id : String, id ∈ state.mails → IsIdentifier id
  reports : ∀ (fileType : FileType) (hash : String), hash ∈ state.reports fileType →
    IsIdentifier hash

variable {env : Externals}

theorem AppState.Identified.apply {state : AppState} (identified : AppState.Identified state)
    (event : Event env) : AppState.Identified (event.apply state) := by
  cases event with
  | interlude step =>
      cases step with
      | schedule nextUpdate =>
          exact ⟨identified.mails, fun fileType => by
            cases fileType
            · exact identified.reports .json
            · exact identified.reports .xml⟩
      | cacheLocation order ip location =>
          exact ⟨identified.mails, fun fileType => by
            cases fileType
            · exact identified.reports .json
            · exact identified.reports .xml⟩
  | update attempt =>
      rcases bgUpdate_cases state attempt with
        ⟨_, _, failed⟩ | ⟨fetched, processed, timestamp, _, _, searched, outcome, updated⟩
      · rw [Event.apply, failed]
        exact identified
      · rw [Event.apply, updated]
        constructor
        · intro id present
          rw [mails_replaceState, outcome.mem_mails_iff,
            Std.ExtTreeMap.mem_iff_isSome_getElem?] at present
          rcases Option.isSome_iff_exists.mp present with ⟨mail, found⟩
          rcases searched id mail found with ⟨rfl, _, _, delivered⟩
          rw [delivered.id]
          exact isIdentifier_createHash _ _
        · intro fileType hash present
          rw [reports_replaceState, Std.ExtTreeMap.mem_iff_isSome_getElem?] at present
          rcases Option.isSome_iff_exists.mp present with ⟨rwi, found⟩
          rcases outcome.origin found with ⟨file, _, rfl, _⟩
          exact isIdentifier_createHash _ _

theorem identified_stateAfter (events : List (Event env)) (startTime : UInt64) :
    AppState.Identified (stateAfter events startTime) := by
  apply run_invariant AppState.Identified ?_ fun event state identified => identified.apply event
  constructor
  · intro id present
    simp [AppState.new] at present
  · intro fileType hash present
    cases fileType <;> simp [AppState.new, AppState.reports] at present

end Identifiers

section Requests

variable {id : String}

theorem onHashChange_entryLink {path : String} (route : IsRoute path) (plain : Plain id) :
    onHashChange (locationHash ("#" ++ path ++ id)) = ("#" ++ path ++ id, []) := by
  have behind : removeFirst ("#" ++ path ++ id) = path ++ id := by
    simp [removeFirst]
  have kept : Percent.encode keptInFragment (path ++ id) = path ++ id := by
    apply Percent.encode_of_keeps
    intro char member
    rw [String.toList_append, List.mem_append] at member
    rcases member with inPath | inId
    · exact route.2 char inPath
    · exact plain.keptInFragment char inId
  have absent : '?' ∉ ("#" ++ path ++ id).toList := by
    simp [route.1, plain.not_mem (by decide : ('?'.isAlphanum || _) = false)]
  rw [locationHash, behind, kept, ← String.append_assoc, onHashChange,
    splitOnce_eq_none_of_not_mem absent]

theorem keptInPath_of_plain (plain : Plain id) : ∀ char ∈ id.toList, keptInPath char = true := by
  intro char member
  have visible := plain.keptInFragment char member
  rw [keptInFragment, Bool.and_eq_true] at visible
  have delimiters : "\"#<>?^\x60\x7b\x7d".toList.all (fun char =>
      !(char.isAlphanum || "_-".toList.contains char)) = true := by decide
  have absent : char ∉ "\"#<>?^\x60\x7b\x7d".toList := by
    intro delimiter
    have other := List.all_eq_true.mp delimiters char delimiter
    rw [plain char member] at other
    cases other
  rw [keptInPath, visible.1, Bool.true_and, Bool.not_eq_true', Bool.eq_false_iff, Ne,
    List.contains_iff_mem]
  exact absent

theorem beforeFirst_of_not_mem {separator : Char} {text : String}
    (absent : separator ∉ text.toList) : beforeFirst separator text = text := by
  rw [beforeFirst, splitOnce_eq_none_of_not_mem absent]

theorem fetchedPath_of_keptInPath {url : String}
    (kept : ∀ char ∈ url.toList, keptInPath char = true) : fetchedPath url = "/" ++ url := by
  have absent : ∀ char : Char, keptInPath char = false → char ∉ url.toList := by
    intro char dropped member
    exact Bool.false_ne_true (dropped.symm.trans (kept char member))
  rw [fetchedPath, beforeFirst_of_not_mem (absent '#' (by decide)),
    beforeFirst_of_not_mem (absent '?' (by decide)), Percent.encode_of_keeps kept]

theorem fetchedPath_address {path : String} (inPath : Plain path) {params : Params}
    (some : params ≠ []) (sendable : ∀ param ∈ params, Sendable param) :
    fetchedPath (address path params) = "/" ++ path := by
  have inJoin := @not_mem_join '#' params (by decide) fun param member =>
    ⟨(sendable param member).plain.not_mem (by decide), (sendable param member).value.2.1⟩
  have absent : '#' ∉ (path ++ "?" ++ join params).toList := by
    simp [inPath.not_mem (by decide : ('#'.isAlphanum || _) = false), inJoin]
  have url : path ++ "?" ++ join params =
      String.ofList (path.toList ++ '?' :: (join params).toList) := by
    apply String.toList_inj.mp
    simp
  have before : beforeFirst '?' (path ++ "?" ++ join params) = path := by
    rw [beforeFirst, url, splitOnce_of_not_mem (inPath.not_mem (by decide)), String.ofList_toList]
  rw [address, if_neg some, fetchedPath, beforeFirst_of_not_mem absent, before,
    Percent.encode_of_keeps (keptInPath_of_plain inPath)]

/-- The segments of a path are the texts from which it is joined. -/
theorem segments_intercalate {pieces : List String} (some : pieces ≠ [])
    (whole : ∀ piece ∈ pieces, '/' ∉ piece.toList) :
    Routes.segments ("/" ++ "/".intercalate pieces) = pieces := by
  rw [Routes.segments_rooted]
  apply split_intercalate (by decide) some
  intro piece member
  exact clear_singleton_iff.mpr (whole piece member)

theorem decode_of_not_mem {text : String} (absent : '%' ∉ text.toList) :
    Percent.decode text = some text := by
  rw [Percent.decode, Percent.decodeChars_of_not_mem absent, String.ofList_toList]
  exact fromUtf8_eq_some_iff.mpr rfl

theorem decode_of_plain (plain : Plain id) : Percent.decode id = some id :=
  decode_of_not_mem (plain.not_mem (by decide))

end Requests

section Answers

variable {env : Externals} {json : JsonBodies} {state : AppState} {id : String}

theorem advance_mails : advance (.literal "mails") Routes.table = [([], ⟨"/mails", .get, true⟩),
    ([.capture], ⟨"/mails/\x7bid\x7d", .get, true⟩),
    ([.capture, .literal "errors"], ⟨"/mails/\x7bid\x7d/errors", .get, true⟩)] := by
  rw [Routes.table_eq]
  rfl

theorem resolve_single (identifier : IsIdentifier id) {name : String}
    (known : name ∈ ["mails", "dmarc-reports", "tls-reports"]) :
    resolve Routes.table [name, id] = some (⟨"/" ++ name ++ "/\x7bid\x7d", .get, true⟩, [id]) := by
  have dmarc : advance (.literal "dmarc-reports") Routes.table = [
      ([], ⟨"/dmarc-reports", .get, true⟩),
      ([.capture], ⟨"/dmarc-reports/\x7bid\x7d", .get, true⟩),
      ([.capture, .literal "json"], ⟨"/dmarc-reports/\x7bid\x7d/json", .get, true⟩),
      ([.capture, .literal "xml"], ⟨"/dmarc-reports/\x7bid\x7d/xml", .get, true⟩)] := by
    rw [Routes.table_eq]
    rfl
  have tls : advance (.literal "tls-reports") Routes.table = [
      ([], ⟨"/tls-reports", .get, true⟩),
      ([.capture], ⟨"/tls-reports/\x7bid\x7d", .get, true⟩),
      ([.capture, .literal "json"], ⟨"/tls-reports/\x7bid\x7d/json", .get, true⟩)] := by
    rw [Routes.table_eq]
    rfl
  simp only [List.mem_cons, List.not_mem_nil, or_false] at known
  rcases known with rfl | rfl | rfl
  · rw [resolve, advance_mails]
    simp [resolve, advance, identifier.nonempty]
  · rw [resolve, dmarc]
    simp [resolve, advance, identifier.nonempty]
  · rw [resolve, tls]
    simp [resolve, advance, identifier.nonempty]

theorem resolve_errors (identifier : IsIdentifier id) :
    resolve Routes.table ["mails", id, "errors"] =
      some (⟨"/mails/\x7bid\x7d/errors", .get, true⟩, [id]) := by
  rw [resolve, advance_mails]
  simp [resolve, advance, identifier.nonempty]

/-- The route of a list. -/
theorem routeOf_list {name : String} (known : name ∈ ["mails", "dmarc-reports", "tls-reports"]) :
    Routes.routeOf ("/" ++ name) = some (⟨"/" ++ name, .get, true⟩, []) := by
  have names : ∀ name ∈ ["mails", "dmarc-reports", "tls-reports"], Plain name := by decide
  have pieces : Routes.segments ("/" ++ name) = [name] := by
    apply @segments_intercalate [name] (List.cons_ne_nil _ _)
    intro piece member
    rw [List.mem_singleton.mp member]
    exact (names name known).not_mem (by decide)
  rw [Routes.routeOf, pieces, Routes.table_eq]
  simp only [List.mem_cons, List.not_mem_nil, or_false] at known
  rcases known with rfl | rfl | rfl <;> rfl

/-- The route of an address which is joined from texts that need no encoding. -/
theorem routeOf_intercalate {path : String} {pieces : List String}
    (joined : path = "/".intercalate pieces) (some : pieces ≠ [])
    (whole : ∀ piece ∈ pieces, '/' ∉ piece.toList)
    (kept : ∀ piece ∈ pieces, ∀ char ∈ piece.toList, keptInPath char = true) :
    Routes.routeOf (fetchedPath path) = resolve Routes.table pieces := by
  have keptInJoin : ∀ char ∈ path.toList, keptInPath char = true := by
    intro char member
    rw [joined, String.toList_intercalate] at member
    rcases mem_intercalate member with inSeparator | ⟨piece, inPieces, inPiece⟩
    · rw [List.mem_singleton.mp inSeparator]
      decide
    · rcases List.mem_map.mp inPieces with ⟨text, inTexts, rfl⟩
      exact kept text inTexts char inPiece
  rw [fetchedPath_of_keptInPath keptInJoin, Routes.routeOf, joined,
    segments_intercalate some whole]

theorem routeOf_of_plain {path : String} {pieces : List String}
    (joined : path = "/".intercalate pieces) (some : pieces ≠ [])
    (plain : ∀ piece ∈ pieces, Plain piece) :
    Routes.routeOf (fetchedPath path) = resolve Routes.table pieces := by
  apply routeOf_intercalate joined some
  · intro piece member
    exact (plain piece member).not_mem (by decide)
  · intro piece member
    exact keptInPath_of_plain (plain piece member)

theorem routeOf_single (identifier : IsIdentifier id) {name path : String}
    (known : name ∈ ["mails", "dmarc-reports", "tls-reports"])
    (joined : path.toList = name.toList ++ '/' :: id.toList) :
    Routes.routeOf (fetchedPath path) =
      some (⟨"/" ++ name ++ "/\x7bid\x7d", .get, true⟩, [id]) := by
  have names : ∀ name ∈ ["mails", "dmarc-reports", "tls-reports"], Plain name := by decide
  rw [← resolve_single identifier known]
  apply routeOf_of_plain
  · apply String.toList_inj.mp
    simp [String.intercalate_cons_cons, joined]
  · exact List.cons_ne_nil _ _
  · simp [identifier.plain, names name known]

theorem answer_mail (identifier : IsIdentifier id) (query : String) :
    answer env json state (fetchedPath ("mails/" ++ id)) query =
      some (mailSingleHandler json state id) := by
  have route := @routeOf_single id identifier "mails" ("mails/" ++ id) (by decide) (by simp)
  simp [answer, route, decode_of_plain identifier.plain]

theorem answer_errors (identifier : IsIdentifier id) (query : String) :
    answer env json state (fetchedPath ("mails/" ++ id ++ "/errors")) query =
      some (errorsHandler json state id) := by
  have route : Routes.routeOf (fetchedPath ("mails/" ++ id ++ "/errors")) =
      some (⟨"/mails/\x7bid\x7d/errors", .get, true⟩, [id]) := by
    rw [← resolve_errors identifier]
    apply routeOf_of_plain
    · apply String.toList_inj.mp
      simp [String.intercalate_cons_cons]
    · exact List.cons_ne_nil _ _
    · simp [identifier.plain, (by decide : Plain "mails"), (by decide : Plain "errors")]
  simp [answer, route, decode_of_plain identifier.plain]

theorem answer_dmarcReport (identifier : IsIdentifier id) (query : String) :
    answer env json state (fetchedPath ("dmarc-reports/" ++ id)) query =
      some (dmarcSingleHandler json state id) := by
  have route := @routeOf_single id identifier "dmarc-reports" ("dmarc-reports/" ++ id) (by decide)
    (by simp)
  simp [answer, route, decode_of_plain identifier.plain]

theorem answer_tlsReport (identifier : IsIdentifier id) (query : String) :
    answer env json state (fetchedPath ("tls-reports/" ++ id)) query =
      some (tlsSingleHandler json state id) := by
  have route := @routeOf_single id identifier "tls-reports" ("tls-reports/" ++ id) (by decide)
    (by simp)
  simp [answer, route, decode_of_plain identifier.plain]

theorem sendable_id (identifier : IsIdentifier id) :
    ∀ param ∈ [("id", id)], Sendable param := by
  intro param member
  rw [List.mem_singleton.mp member]
  exact (by decide : Plain "id").sendable identifier.plain

theorem parse_id (decodes : env.DecodesUtf8) (identifier : IsIdentifier id) {path : String}
    (inPath : Plain path) :
    parse env.fromUtf8Lossy (fetchedQuery (address path [("id", id)])) = [("id", id)] := by
  rw [parse_fetchedQuery decodes ⟨inPath.not_mem (by decide), inPath.not_mem (by decide)⟩
    (sendable_id identifier), List.map_singleton,
    Percent.decodeChars_of_not_mem (identifier.plain.not_mem (by decide)), String.ofList_toList,
    decodes.lossy]

theorem answer_dmarcReports (decodes : env.DecodesUtf8) (identifier : IsIdentifier id) :
    answer env json state (fetchedPath ("dmarc-reports?id=" ++ id))
      (fetchedQuery ("dmarc-reports?id=" ++ id)) = some (foundResponse json.dmarcReports
        ((state.dmarcReports.toList.filter fun entry => entry.2.mailId = id).map fun entry =>
          DmarcReports.ReportHeader.fromReport entry.1 entry.2.report)) := by
  have url : "dmarc-reports?id=" ++ id = address "dmarc-reports" [("id", id)] := by
    apply String.toList_inj.mp
    simp [address, join, pairText]
  have route : Routes.routeOf "/dmarc-reports" = some (⟨"/dmarc-reports", .get, true⟩, []) := by
    simpa using @routeOf_list "dmarc-reports" (by decide)
  have filters : DmarcReports.ReportFilters.fromPairs [("id", id)] = some { id := some id } := by
    simp [DmarcReports.ReportFilters.fromPairs, field]
  rw [url, fetchedPath_address (by decide) (by simp) (sendable_id identifier)]
  simp [answer, route, DmarcReports.ReportFilters.fromQuery,
    parse_id decodes identifier (by decide : Plain "dmarc-reports"), filters,
    DmarcReports.listHandler, DmarcReports.ReportFilters.urlDecode]

theorem answer_tlsReports (decodes : env.DecodesUtf8) (identifier : IsIdentifier id) :
    answer env json state (fetchedPath ("tls-reports?id=" ++ id))
      (fetchedQuery ("tls-reports?id=" ++ id)) = some (foundResponse json.tlsReports
        ((state.tlsReports.toList.filter fun entry => entry.2.mailId = id).map fun entry =>
          TlsReports.ReportHeader.fromReport entry.1 entry.2.report)) := by
  have url : "tls-reports?id=" ++ id = address "tls-reports" [("id", id)] := by
    apply String.toList_inj.mp
    simp [address, join, pairText]
  have route : Routes.routeOf "/tls-reports" = some (⟨"/tls-reports", .get, true⟩, []) := by
    simpa using @routeOf_list "tls-reports" (by decide)
  have filters : TlsReports.ReportFilters.fromPairs [("id", id)] = some { id := some id } := by
    simp [TlsReports.ReportFilters.fromPairs, field]
  rw [url, fetchedPath_address (by decide) (by simp) (sendable_id identifier)]
  simp [answer, route, TlsReports.ReportFilters.fromQuery,
    parse_id decodes identifier (by decide : Plain "tls-reports"), filters,
    TlsReports.listHandler, TlsReports.ReportFilters.urlDecode]

end Answers

section Visits

variable {env : Externals} {json : JsonBodies} {state : AppState} {id hash : String}

theorem mailSingleHandler_eq {mail : Mail} (found : state.mails[id]? = some mail) :
    mailSingleHandler json state id = foundResponse json.mail mail := by
  have listed : (state.mails.toList.find? fun entry => entry.1 = id).isSome := by
    rw [List.find?_isSome]
    exact ⟨(id, mail), Std.ExtTreeMap.mem_toList_iff_getElem?_eq_some.mpr found, by simp⟩
  rcases Option.isSome_iff_exists.mp listed with ⟨⟨other, entry⟩, first⟩
  have same : other = id := by simpa using List.find?_some first
  have stored := Std.ExtTreeMap.mem_toList_iff_getElem?_eq_some.mp (List.mem_of_find?_eq_some first)
  rw [same, found] at stored
  cases stored
  simp [mailSingleHandler, first]

theorem visit_mail (decodes : env.DecodesUtf8) (identifier : IsIdentifier id) {mail : Mail}
    (found : state.mails[id]? = some mail) (own : mail.id = id) :
    visit env json state (mailLink id) = mailPage json state mail := by
  have page : component (onHashChange (locationHash (mailLink id))).1 = .mail id := by
    have link : mailLink id = "#" ++ "/mails/" ++ id := rfl
    rw [link, onHashChange_entryLink (by decide) identifier.plain]
    simp [component, startsWith, ← String.toList_inj]
  have present : id ∈ state.mails := by
    rw [Std.ExtTreeMap.mem_iff_isSome_getElem?, found]
    rfl
  have errors : errorsHandler json state id =
      foundResponse json.errors (state.parsingErrors[id]?.getD []) := by
    simp [errorsHandler, present]
  simp only [visit, page, entryRequests, if_neg identifier.nonempty, List.map_cons, List.map_nil,
    answer_mail identifier, answer_errors identifier, answer_dmarcReports decodes identifier,
    answer_tlsReports decodes identifier, mailSingleHandler_eq found, errors, mailPage, own]

theorem visit_dmarcReport (identifier : IsIdentifier hash) {rwi : DmarcReportWithMailId}
    (found : state.dmarcReports[hash]? = some rwi) :
    visit env json state (dmarcReportLink hash) = dmarcReportPage json hash rwi := by
  have page : component (onHashChange (locationHash (dmarcReportLink hash))).1 =
      .dmarcReport hash := by
    have link : dmarcReportLink hash = "#" ++ "/dmarc-reports/" ++ hash := rfl
    rw [link, onHashChange_entryLink (by decide) identifier.plain]
    simp [component, startsWith, ← String.toList_inj]
  simp only [visit, page, entryRequests, if_neg identifier.nonempty, List.map_cons, List.map_nil,
    answer_dmarcReport identifier, dmarcSingleHandler, reportSingleHandler, found,
    dmarcReportPage]

theorem visit_tlsReport (identifier : IsIdentifier hash) {rwi : TlsReportWithMailId}
    (found : state.tlsReports[hash]? = some rwi) :
    visit env json state (tlsReportLink hash) = tlsReportPage json hash rwi := by
  have page : component (onHashChange (locationHash (tlsReportLink hash))).1 =
      .tlsReport hash := by
    have link : tlsReportLink hash = "#" ++ "/tls-reports/" ++ hash := rfl
    rw [link, onHashChange_entryLink (by decide) identifier.plain]
    simp [component, startsWith, ← String.toList_inj]
  simp only [visit, page, entryRequests, if_neg identifier.nonempty, List.map_cons, List.map_nil,
    answer_tlsReport identifier, tlsSingleHandler, reportSingleHandler, found, tlsReportPage]

/-- Every link to an entry leads to this entry. -/
structure LinksHold (env : Externals) (json : JsonBodies) (state : AppState) : Prop where
  mails : ∀ filters, ∀ mail ∈ Mails.listHandler env state filters,
    visit env json state (mailLink mail.id) = mailPage json state mail
  dmarcReports : ∀ filters, ∀ header ∈ DmarcReports.listHandler env state filters,
    ∃ rwi : DmarcReportWithMailId,
      header = DmarcReports.ReportHeader.fromReport header.hash rwi.report ∧
        visit env json state (dmarcReportLink header.hash) =
          dmarcReportPage json header.hash rwi
  tlsReports : ∀ filters, ∀ header ∈ TlsReports.listHandler env state filters,
    ∃ rwi : TlsReportWithMailId,
      header = TlsReports.ReportHeader.fromReport header.hash rwi.report ∧
        visit env json state (tlsReportLink header.hash) = tlsReportPage json header.hash rwi
  reportMails : ∀ (fileType : FileType) (hash : String) (rwi : ReportWithMailId _),
    (state.reports fileType)[hash]? = some rwi → ∃ mail : Mail, mail.id = rwi.mailId ∧
      visit env json state (mailLink rwi.mailId) = mailPage json state mail
  dmarcDuplicates : ∀ (id : String) (mail : Mail), state.mails[id]? = some mail →
    ∀ hash ∈ mail.dmarcDuplicates, ∃ rwi,
      visit env json state (dmarcReportLink hash) = dmarcReportPage json hash rwi
  tlsDuplicates : ∀ (id : String) (mail : Mail), state.mails[id]? = some mail →
    ∀ hash ∈ mail.tlsDuplicates, ∃ rwi,
      visit env json state (tlsReportLink hash) = tlsReportPage json hash rwi

/-- In every reachable state, no link of a list, a report or a mail is dangling. -/
theorem linksHold_stateAfter (decodes : env.DecodesUtf8) (json : JsonBodies)
    (events : List (Event env)) (startTime : UInt64) :
    LinksHold env json (stateAfter events startTime) := by
  have consistent : (stateAfter events startTime).Consistent :=
    run_invariant AppState.Consistent (AppState.consistent_new startTime)
      (fun event state holds => holds.apply event) events
  have identified := identified_stateAfter events startTime
  generalize stateAfter events startTime = state at consistent identified
  have visitMail : ∀ (id : String) (mail : Mail), state.mails[id]? = some mail →
      visit env json state (mailLink id) = mailPage json state mail := by
    intro id mail found
    have present : id ∈ state.mails := by
      rw [Std.ExtTreeMap.mem_iff_isSome_getElem?, found]
      rfl
    exact visit_mail decodes (identified.mails id present) found
      (consistent.mailIds id mail found)
  have report : ∀ (fileType : FileType) (hash : String), hash ∈ state.reports fileType →
      IsIdentifier hash ∧ ∃ rwi, (state.reports fileType)[hash]? = some rwi := by
    intro fileType hash present
    refine ⟨identified.reports fileType hash present, ?_⟩
    rw [Std.ExtTreeMap.mem_iff_isSome_getElem?] at present
    exact Option.isSome_iff_exists.mp present
  constructor
  case mails =>
    intro filters mail listed
    rcases mem_valueList.mp (Mails.mem_listHandler_iff.mp listed).1 with ⟨id, found⟩
    rw [consistent.mailIds id mail found]
    exact visitMail id mail found
  case dmarcReports =>
    intro filters header listed
    rcases DmarcReports.mem_listHandler_iff.mp listed with ⟨hash, rwi, found, _, rfl⟩
    have present : hash ∈ state.reports .xml := by
      rw [Std.ExtTreeMap.mem_iff_isSome_getElem?]
      exact Option.isSome_iff_exists.mpr ⟨rwi, found⟩
    exact ⟨rwi, rfl, visit_dmarcReport (report .xml hash present).1 found⟩
  case tlsReports =>
    intro filters header listed
    rcases TlsReports.mem_listHandler_iff.mp listed with ⟨hash, rwi, found, _, rfl⟩
    have present : hash ∈ state.reports .json := by
      rw [Std.ExtTreeMap.mem_iff_isSome_getElem?]
      exact Option.isSome_iff_exists.mpr ⟨rwi, found⟩
    exact ⟨rwi, rfl, visit_tlsReport (report .json hash present).1 found⟩
  case reportMails =>
    intro fileType hash rwi found
    have present := consistent.reportMails fileType hash rwi found
    rw [Std.ExtTreeMap.mem_iff_isSome_getElem?] at present
    rcases Option.isSome_iff_exists.mp present with ⟨mail, stored⟩
    exact ⟨mail, consistent.mailIds _ mail stored, visitMail _ mail stored⟩
  case dmarcDuplicates =>
    intro id mail stored hash listed
    rcases report .xml hash (consistent.duplicates .xml id mail stored hash listed) with
      ⟨identifier, rwi, found⟩
    exact ⟨rwi, visit_dmarcReport identifier found⟩
  case tlsDuplicates =>
    intro id mail stored hash listed
    rcases report .json hash (consistent.duplicates .json id mail stored hash listed) with
      ⟨identifier, rwi, found⟩
    exact ⟨rwi, visit_tlsReport identifier found⟩

theorem isSome_getMails_decodingEnv :
    (getMails decodingEnv sampleConfig (sampleSession [1]) "INBOX").run.isSome := by
  decide +kernel

/-- An update of one mail, with percent-encoding as the packages document it. -/
def decodingAttempt : Attempt decodingEnv where
  config := sampleConfig
  inbox := folderInbox _ isSome_getMails_decodingEnv
  fromImap := {
    dmarc := by
      intro folder configured
      cases configured
    tls := by
      intro folder configured
      cases configured
    default := by
      intro _ _
      exact ⟨sampleSession [1], default_folderInbox isSome_getMails_decodingEnv⟩ }
  order := (sampleAttempt [1]).order
  clock := .ok 1714608000
  elapsed := 0.0

def sampleJsonBodies : JsonBodies where
  mail mail := mail.subject
  mails mails := ", ".intercalate (mails.map fun mail => mail.subject)
  errors errors := ", ".intercalate (errors.map fun error => error.error)
  dmarcReport rwi := rwi.mailId
  dmarcReports headers := ", ".intercalate (headers.map fun header => header.hash)
  tlsReport rwi := rwi.mailId
  tlsReports headers := ", ".intercalate (headers.map fun header => header.hash)

theorem linksHold_stateAfter_sample :
    LinksHold decodingEnv sampleJsonBodies (stateAfter [.update decodingAttempt] 0) ∧
      (stateAfter [.update decodingAttempt] 0).tlsReports.size = 1 := by
  refine ⟨linksHold_stateAfter decodesUtf8_decodingEnv sampleJsonBodies _ 0, ?_⟩
  decide +kernel

end Visits

end DmarcReportViewer.Ui

import DmarcReportViewer.Lib.Escapes
import DmarcReportViewer.Ui.LinkValues
import DmarcReportViewer.Ui.SourceFilter

/-!
# The domain of the dashboard and of the sources

The model of `onDomainChange`, `updateByParams` and the request of `updateCharts` in
`ui/components/dashboard.js`, and of the links between the sources.  The domain is encoded
once and decoded twice for the dashboard, and not decoded at all for the sources.
-/

namespace DmarcReportViewer

open Collections Forms Text

/-- Only letters are changed or added when a text is mapped to lower case. -/
def Externals.KeepsOthers (env : Externals) : Prop :=
  ∀ text, ∀ char : Char, char.toNat < 128 → char.isAlpha = false →
    (env.toLowercase text).toList.count char = text.toList.count char

namespace Ui

section Selection

def onDomainChange (params : Params) (value : String) : Params :=
  if value ≠ "" ∧ value ≠ "all" then
    setParam params "domain" value
  else
    deleteParam params "domain"

def updateByParams (params : Params) : String :=
  if join params ≠ "" then "#/dashboard?" ++ join params else "#/dashboard"

/-- A parameter is sent unless it stands for everything. -/
def choiceParam (params : Params) (name everything sent : String) : Params :=
  match params.lookup name with
  | some value => if value ≠ "" ∧ value ≠ everything then [(sent, value)] else []
  | none => []

/-- The address which `updateCharts` fetches. -/
def updateCharts (params : Params) : String :=
  address "summary" (choiceParam params "ts" "0" "time_span" ++
    choiceParam params "domain" "all" "domain")

/-- The address of the page after a domain was chosen on a page. -/
def chooseDomain (page domain : String) : String :=
  updateByParams (onDomainChange (onHashChange (locationHash page)).2 (encodeURIComponent domain))

/-- The filters of the summary for the page with a given address, with the URL encoding
removed.  There are none if the request is rejected. -/
def summaryFilters (env : Externals) (page : String) : Option SummaryFilters := do
  let (hash, params) := onHashChange (locationHash page)
  guard (component hash = .dashboard)
  let filters ← SummaryFilters.fromQuery env (fetchedQuery (updateCharts params))
  return filters.urlDecode env

/-- The sources which the view shows after a link was followed. -/
def followSources (env : Externals) (page : String) (sources : List Source) : List Source :=
  let (hash, params) := onHashChange (locationHash page)
  if component hash = .sources then
    Sources.filterSources env
      { domain := params.lookup "domain"
        issues := params.lookup "issues"
        type := params.lookup "type" } sources
  else
    []

end Selection

section Specification

variable (env : Externals)

/-- A page of the dashboard whose time span, if there is one, is a number. -/
structure IsDashboard (page : String) : Prop where
  component : component (onHashChange (locationHash page)).1 = .dashboard
  span : ∀ value, (onHashChange (locationHash page)).2.lookup "ts" = some value →
    value ≠ "" → value ≠ "0" → ∃ number : Nat, value = number.repr ∧ number < 2 ^ 64

/-- The request for the summary selects the lower-case form of the domain. -/
def DashboardCarries (domain : String) : Prop :=
  ∀ page, IsDashboard page → locationHash (chooseDomain page domain) ≠ locationHash page →
    (summaryFilters env (chooseDomain page domain)).map
      (fun filters => filters.domain.map env.toLowercase) = some (some (env.toLowercase domain))

/-- The link of a domain shows every source which has it, in upper or lower case. -/
def SourcesCarry (sources : List Source) (domain : String) : Prop :=
  ∀ source ∈ sources, env.toLowercase source.details.domain = env.toLowercase domain →
    source ∈ followSources env (link "/sources" "domain" domain) sources

/-- The domains of a summary and of the sources can be selected. -/
structure SelectionsCarry (summary : Summary) (sources : List Source) : Prop where
  dashboard : ∀ domain, domain ∈ summary.dmarc.domains ∨ domain ∈ summary.tls.domains →
    DashboardCarries env domain
  sources : ∀ source ∈ sources, SourcesCarry env sources source.details.domain

end Specification

section Summary

variable {env : Externals} {page domain : String}

theorem encodeURIComponent_eq_all : encodeURIComponent domain = "all" ↔ domain = "all" := by
  constructor
  · intro same
    have decoded := @Percent.decode_encode unreserved rfl domain
    rw [← encodeURIComponent, same] at decoded
    exact (Option.some.inj decoded).symm
  · rintro rfl
    decide

theorem onDomainChange_of_named (named : domain ≠ "" ∧ domain ≠ "all") (params : Params) :
    onDomainChange params (encodeURIComponent domain) =
      setParam params "domain" (encodeURIComponent domain) :=
  if_pos ⟨encodeURIComponent_ne_empty named.1,
    fun all => named.2 (encodeURIComponent_eq_all.mp all)⟩

/-- The parameters after a domain was chosen. -/
theorem onHashChange_chooseDomain (named : domain ≠ "" ∧ domain ≠ "all") :
    onHashChange (locationHash (chooseDomain page domain)) =
      ("#/dashboard", setParam (onHashChange (locationHash page)).2 "domain"
        (encodeURIComponent domain)) := by
  have plain : Plain "domain" := plain_known "domain" (by decide)
  have wellFormed := (routeParams_onHashChange page).setParam
    ⟨plain.delimited, delimited_encodeURIComponent domain⟩
  have some : setParam (onHashChange (locationHash page)).2 "domain"
      (encodeURIComponent domain) ≠ [] := by
    intro empty
    have found := lookup_setParam (onHashChange (locationHash page)).2 "domain"
      (encodeURIComponent domain)
    rw [empty] at found
    cases found
  have isRoute : IsRoute "/dashboard" := by decide
  have route : "#/dashboard" = "#" ++ "/dashboard" := by decide
  have start : "#/dashboard?" = "#" ++ "/dashboard" ++ "?" := by decide
  rw [chooseDomain, onDomainChange_of_named named, updateByParams, if_pos (join_ne_empty some),
    start, onHashChange_join wellFormed some isRoute, route]

/-- The time span of a page is sent as a number, if at all. -/
theorem choiceParam_span (isDashboard : IsDashboard page) :
    choiceParam (onHashChange (locationHash page)).2 "ts" "0" "time_span" = [] ∨
      ∃ number : Nat, number < 2 ^ 64 ∧
        choiceParam (onHashChange (locationHash page)).2 "ts" "0" "time_span" =
          [("time_span", number.repr)] := by
  rw [choiceParam]
  split
  · next value found =>
      split
      · next sent =>
          rcases isDashboard.span value found sent.1 sent.2 with ⟨number, rfl, bounded⟩
          exact .inr ⟨number, bounded, rfl⟩
      · exact .inl rfl
  · exact .inl rfl

/-- The server accepts a request with a time span and a domain, and decodes the domain. -/
theorem exists_fromQuery (decodes : env.DecodesUtf8) (isDashboard : IsDashboard page) :
    ∃ timeSpan, SummaryFilters.fromQuery env (fetchedQuery (address "summary"
      (choiceParam (onHashChange (locationHash page)).2 "ts" "0" "time_span" ++
        [("domain", encodeURIComponent domain)]))) =
          some { timeSpan := timeSpan, domain := some domain } := by
  have inPath : '#' ∉ "summary".toList ∧ '?' ∉ "summary".toList := by decide
  have plain : Plain "domain" ∧ Plain "time_span" := by decide
  have encoded := sendable_encodeURIComponent plain.1 domain
  have value : env.fromUtf8Lossy
      (Percent.decodeChars (encodeURIComponent domain).toList) = domain := by
    rw [decodeChars_encodeURIComponent, decodes.lossy]
  rcases choiceParam_span isDashboard with none | ⟨number, bounded, found⟩
  · have pairs := @parse_fetchedQuery env decodes "summary" inPath
      [("domain", encodeURIComponent domain)] (by simpa using encoded)
    rw [none, List.nil_append, SummaryFilters.fromQuery, pairs]
    simp [SummaryFilters.fromPairs, field, value]
  · have sendable : Sendable ("time_span", number.repr) := plain.2.sendable (plain_repr number)
    have pairs := @parse_fetchedQuery env decodes "summary" inPath
      [("time_span", number.repr), ("domain", encodeURIComponent domain)]
      (by simpa using ⟨sendable, encoded⟩)
    have digits : env.fromUtf8Lossy (Percent.decodeChars number.repr.toList) = number.repr := by
      rw [Percent.decodeChars_of_not_mem ((plain_repr number).not_mem (by decide)),
        String.ofList_toList, decodes.lossy]
    have read : Query.readU64 number.repr = some (UInt64.ofNat number) := by
      simp only [Query.readU64, Query.readUsize, parseNumber_repr, if_pos bounded,
        Option.map_some]
    rw [found, List.singleton_append, SummaryFilters.fromQuery, pairs]
    simp only [List.map_cons, List.map_nil, value, digits]
    simp [SummaryFilters.fromPairs, field, read]

/-- The request after a domain was chosen is accepted, and the domain is decoded twice. -/
theorem exists_summaryFilters (decodes : env.DecodesUtf8) (isDashboard : IsDashboard page)
    (named : domain ≠ "" ∧ domain ≠ "all") :
    ∃ timeSpan, summaryFilters env (chooseDomain page domain) =
      some { timeSpan := timeSpan, domain := env.urlDecode domain } := by
  have dashboard : component "#/dashboard" = .dashboard := by decide
  have chosen : choiceParam (setParam (onHashChange (locationHash page)).2 "domain"
      (encodeURIComponent domain)) "domain" "all" "domain" =
        [("domain", encodeURIComponent domain)] := by
    simp only [choiceParam, lookup_setParam]
    exact if_pos ⟨encodeURIComponent_ne_empty named.1,
      fun all => named.2 (encodeURIComponent_eq_all.mp all)⟩
  have span : choiceParam (setParam (onHashChange (locationHash page)).2 "domain"
      (encodeURIComponent domain)) "ts" "0" "time_span" =
        choiceParam (onHashChange (locationHash page)).2 "ts" "0" "time_span" := by
    simp only [choiceParam, lookup_setParam_of_ne (by decide : "ts" ≠ "domain")]
  rcases @exists_fromQuery env page domain decodes isDashboard with ⟨timeSpan, accepted⟩
  refine ⟨timeSpan, ?_⟩
  simp only [summaryFilters, onHashChange_chooseDomain named, dashboard, guard_true, updateCharts,
    span, chosen, accepted, Option.pure_def, Option.bind_eq_bind, Option.bind_some]
  rfl

end Summary

section Conditions

variable {env : Externals} {domain : String}

theorem marks_eq_of_toLowercase (keeps : env.KeepsOthers) {left right : String}
    (same : env.toLowercase left = env.toLowercase right) :
    Percent.marks left.toList = Percent.marks right.toList := by
  have percent := fun text => keeps text '%' (by decide) (by decide)
  have two := fun text => keeps text '2' (by decide) (by decide)
  rw [Percent.marks_eq_count, Percent.marks_eq_count, ← percent left, ← percent right, ← two left,
    ← two right, same]

theorem onHashChange_dashboard :
    onHashChange (locationHash "#/dashboard") = ("#/dashboard", []) := by
  decide +kernel

theorem isDashboard_start : IsDashboard "#/dashboard" where
  component := by
    rw [onHashChange_dashboard]
    decide
  span := by
    rw [onHashChange_dashboard]
    rintro value ⟨⟩

theorem summaryFilters_start (env : Externals) :
    summaryFilters env "#/dashboard" = some { timeSpan := none, domain := none } := by
  have dashboard : component "#/dashboard" = .dashboard := by decide
  have query : fetchedQuery (updateCharts []) = "" := by decide +kernel
  simp only [summaryFilters, onHashChange_dashboard, dashboard, guard_true, query]
  rfl

/-- A page on which another domain was chosen before. -/
theorem isDashboard_chosen : IsDashboard "#/dashboard?domain=example.com" := by
  have route : onHashChange (locationHash "#/dashboard?domain=example.com") =
      ("#/dashboard", [("domain", "example.com")]) := by
    decide +kernel
  constructor
  · rw [route]
    decide
  · rw [route]
    rintro value ⟨⟩

/-- The empty domain is not selected, nor the domain whose name stands for all domains. -/
theorem not_dashboardCarries_of_all (all : domain = "" ∨ domain = "all") :
    ¬ DashboardCarries env domain := by
  intro carries
  have cleared : chooseDomain "#/dashboard?domain=example.com" domain = "#/dashboard" := by
    rcases all with rfl | rfl <;> decide +kernel
  have selected := carries _ isDashboard_chosen
  rw [cleared, summaryFilters_start] at selected
  cases selected (by decide +kernel)

theorem locationHash_chooseDomain_ne (named : domain ≠ "" ∧ domain ≠ "all") :
    locationHash (chooseDomain "#/dashboard" domain) ≠ locationHash "#/dashboard" := by
  intro same
  have params := @onHashChange_chooseDomain "#/dashboard" domain named
  rw [same, onHashChange_dashboard, Prod.mk.injEq] at params
  have found := lookup_setParam [] "domain" (encodeURIComponent domain)
  rw [← params.2] at found
  cases found

/-- A domain is selected if decoding it once more leaves it as it is. -/
theorem dashboardCarries_iff (decodes : env.DecodesUtf8) (keeps : env.KeepsOthers) :
    DashboardCarries env domain ↔
      domain ≠ "" ∧ domain ≠ "all" ∧ ¬ Percent.HasEscape domain.toList := by
  constructor
  · intro carries
    have named : domain ≠ "" ∧ domain ≠ "all" := by
      constructor
      · exact fun all => not_dashboardCarries_of_all (.inl all) carries
      · exact fun all => not_dashboardCarries_of_all (.inr all) carries
    refine ⟨named.1, named.2, fun escape => ?_⟩
    have selected := carries _ isDashboard_start (locationHash_chooseDomain_ne named)
    rcases exists_summaryFilters decodes isDashboard_start named with ⟨timeSpan, filters⟩
    rw [filters, Option.map_some, Option.some_inj, Option.map_eq_some_iff, decodes.urlDecode]
      at selected
    rcases selected with ⟨decoded, found, same⟩
    have fewer := Percent.marks_lt_of_decode escape found
    rw [marks_eq_of_toLowercase keeps same] at fewer
    exact absurd fewer (lt_irrefl _)
  · rintro ⟨nonempty, other, plain⟩ page isDashboard _
    rcases exists_summaryFilters decodes isDashboard ⟨nonempty, other⟩ with ⟨timeSpan, filters⟩
    rw [filters, decodes.urlDecode, Percent.decode_of_not_hasEscape plain]
    rfl

theorem followSources_link (sources : List Source) :
    followSources env (link "/sources" "domain" domain) sources =
      Sources.filterSources env { domain := some (encodeURIComponent domain) } sources := by
  have isRoute : IsRoute "/sources" := by decide
  have plain : Plain "domain" := plain_known "domain" (by decide)
  have page : component ("#" ++ "/sources") = .sources := by decide
  simp only [followSources, onHashChange_link isRoute plain, page, if_true]
  rfl

theorem mem_followSources {sources : List Source} {source : Source} :
    source ∈ followSources env (link "/sources" "domain" domain) sources ↔
      source ∈ sources ∧ (domain = "" ∨
        env.toLowercase source.details.domain = env.toLowercase (encodeURIComponent domain)) := by
  rw [followSources_link]
  by_cases empty : domain = ""
  · subst empty
    have unselected : Sources.truthy (some (encodeURIComponent "")) = none := by decide
    have none : Sources.truthy none = none := rfl
    simp [Sources.filterSources, unselected, none]
  · have selected : Sources.truthy (some (encodeURIComponent domain)) =
        some (encodeURIComponent domain) := by
      simp [Sources.truthy, Option.filter, encodeURIComponent_ne_empty empty]
    have none : Sources.truthy none = none := rfl
    simp [Sources.filterSources, selected, none, empty]

/-- A domain of the sources is selected if encoding it leaves it as it is. -/
theorem sourcesCarry_iff (keeps : env.KeepsOthers) {sources : List Source} {source : Source}
    (listed : source ∈ sources) :
    SourcesCarry env sources source.details.domain ↔
      ∀ char ∈ source.details.domain.toList, unreserved char = true := by
  constructor
  · intro carry char member
    rcases mem_followSources.mp (carry source listed rfl) with ⟨_, empty | same⟩
    · rw [empty] at member
      cases member
    · by_contra dropped
      have more := Percent.marks_lt_encode ⟨char, member, Bool.eq_false_iff.mpr dropped⟩
      rw [← encodeURIComponent, marks_eq_of_toLowercase keeps same] at more
      exact absurd more (lt_irrefl _)
  · intro kept other inSources same
    have unchanged : encodeURIComponent source.details.domain = source.details.domain :=
      Percent.encode_of_keeps kept
    exact mem_followSources.mpr ⟨inSources, .inr (by rw [unchanged, same])⟩

end Conditions

section Result

/-- The domains can be selected if and only if encoding and decoding leaves those of the
sources, and decoding those of the summary, as they are. -/
theorem selectionsCarry_iff {env : Externals} (decodes : env.DecodesUtf8)
    (keeps : env.KeepsOthers) (summary : Summary) (sources : List Source) :
    SelectionsCarry env summary sources ↔
      (∀ domain, domain ∈ summary.dmarc.domains ∨ domain ∈ summary.tls.domains →
        domain ≠ "" ∧ domain ≠ "all" ∧ ¬ Percent.HasEscape domain.toList) ∧
      ∀ source ∈ sources, ∀ char ∈ source.details.domain.toList, unreserved char = true := by
  constructor
  · intro carry
    constructor
    · intro domain offered
      exact (dashboardCarries_iff decodes keeps).mp (carry.dashboard domain offered)
    · intro source listed
      exact (sourcesCarry_iff keeps listed).mp (carry.sources source listed)
  · rintro ⟨offered, listed⟩
    constructor
    · intro domain inSummary
      exact (dashboardCarries_iff decodes keeps).mpr (offered domain inSummary)
    · intro source inSources
      exact (sourcesCarry_iff keeps inSources).mpr (listed source inSources)

theorem toLower_eq_iff {source char : Char} (ascii : char.toNat < 128)
    (other : char.isAlpha = false) : source.toLower = char ↔ source = char := by
  unfold Char.toLower
  split
  · next upper =>
      have bounds := upper
      simp only [ge_iff_le, UInt32.le_iff_toNat_le] at bounds
      rw [Bool.eq_false_iff, Ne, isAlpha_iff] at other
      constructor
      · rintro rfl
        simp [UInt32.toNat_add] at other bounds
        omega
      · rintro rfl
        simp at other bounds
        omega
  · exact Iff.rfl

theorem keepsOthers_decodingEnv : decodingEnv.KeepsOthers := by
  intro text char ascii other
  change (text.map Char.toLower).toList.count char = _
  rw [String.toList_map, List.count_eq_countP, List.countP_map, List.count_eq_countP]
  apply List.countP_congr
  intro source _
  simp [toLower_eq_iff ascii other]

/-- A DMARC report about a domain. -/
def sampleDomain (domain : String) : AppState :=
  { AppState.new 0 with
    dmarcReports := (∅ : BTreeMap String DmarcReportWithMailId).insertMany [
      ("80PIQSMHanHfacyq6aXj_A",
        { mailId := "1", report := Dmarc.sampleReport domain (.v4 3221226219) })] }

def sampleSources (domain : String) : List Source :=
  Sources.handler (.byKey IpAddr SourceDetails) (sampleDomain domain)

def sampleSummary (domain : String) : Summary :=
  Summary.newSince decodingEnv 1 { xml := 1, json := 0 }
    { dmarc := (sampleDomain domain).dmarcReports, tls := (sampleDomain domain).tlsReports } 0 0
    { seconds := none, datetime := none } none

theorem selectionsCarry_sample :
    SelectionsCarry decodingEnv (sampleSummary "example.com") (sampleSources "example.com") := by
  apply (selectionsCarry_iff decodesUtf8_decodingEnv keepsOthers_decodingEnv _ _).mpr
  constructor
  · intro domain offered
    have keys : (sampleSummary "example.com").dmarc.domains.keys = ["example.com"] ∧
        (sampleSummary "example.com").tls.domains.keys = [] := by
      decide +kernel
    rw [← Std.ExtTreeMap.mem_keys, ← Std.ExtTreeMap.mem_keys, keys.1, keys.2] at offered
    rcases offered with inDmarc | inTls
    · obtain rfl := List.mem_singleton.mp inDmarc
      refine ⟨by decide, by decide, ?_⟩
      rintro ⟨rest, tail, _⟩
      exact absurd (tail.subset List.mem_cons_self) (by decide)
    · cases inTls
  · have unreserved : (sampleSources "example.com").all (fun source =>
        source.details.domain.toList.all unreserved) = true := by
      decide +kernel
    simpa only [List.all_eq_true] using unreserved

theorem not_selectionsCarry_sample :
    ¬ SelectionsCarry decodingEnv (sampleSummary "bücher.example")
      (sampleSources "bücher.example") := by
  intro carry
  have hidden : ∃ source ∈ sampleSources "bücher.example",
      source ∉ followSources decodingEnv (link "/sources" "domain" source.details.domain)
        (sampleSources "bücher.example") := by
    decide +kernel
  rcases hidden with ⟨source, listed, hidden⟩
  exact hidden (carry.sources source listed source listed rfl)

end Result

end Ui

end DmarcReportViewer

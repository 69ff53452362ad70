import DmarcReportViewer.Ui.DateFilter
import DmarcReportViewer.Ui.EntryPages

/-!
# Loading of lists

The model of the elements of `ui/components/mails.js`, `dmarc-reports.js` and `tls-reports.js`.
Every change of the parameters or of a field of the toolbar requests the list anew, and the
answers arrive in any order while the background task goes on.
-/

namespace DmarcReportViewer.Ui

open Entries Loads Runs

inductive ListPage where
  | mails
  | dmarcReports
  | tlsReports

/-- The parameters of the page and the fields of its toolbar. -/
structure Controls where
  params : Params := []
  beginDate : String := ""
  endDate : String := ""
  recordsGt : ℕ := 0
  activeRange : Int := 0

inductive Control where
  | params (params : Params)
  | applyQuickRange (days endTime beginTime : Int)
  | onBeginInput (value : String)
  | onEndInput (value : String)
  | onRecordsChange (value : String)
  | clearQuickFilters

section Controls

variable (zone : TimeZone)

def Controls.apply (controls : Controls) : Control → Controls
  | .params params => { controls with params := params }
  | .applyQuickRange days endTime beginTime =>
      let (begin, «end») := quickRangeDates zone endTime beginTime days
      { controls with beginDate := begin, endDate := «end», activeRange := days }
  | .onBeginInput value => { controls with beginDate := value, activeRange := 0 }
  | .onEndInput value => { controls with endDate := value, activeRange := 0 }
  | .onRecordsChange value => { controls with recordsGt := (number value).getD 0 }
  | .clearQuickFilters =>
      { controls with beginDate := "", endDate := "", recordsGt := 0, activeRange := 0 }

/-- The page for TLS reports has no toolbar, and the one for mails does not count records. -/
def ListPage.has : ListPage → Control → Bool
  | _, .params _ => true
  | .tlsReports, _ => false
  | .mails, .onRecordsChange _ => false
  | _, _ => true

/-- The parameters by which the route filters a list. -/
def ListPage.urlParams (params : Params) : ListPage → Params
  | .mails => flagParam params "oversized" ++ textParam params "sender" ++
      textParam params "attachment" ++ flagParam params "errors" ++ flagParam params "duplicates"
  | .dmarcReports => flagParam params "flagged" ++ flagParam params "flagged_dkim" ++
      flagParam params "flagged_spf" ++ flagParam params "flagged_dmarc" ++
      textParam params "domain" ++ textParam params "org" ++ textParam params "ip"
  | .tlsReports => flagParam params "flagged" ++ flagParam params "flagged_sts" ++
      flagParam params "flagged_tlsa" ++ textParam params "domain" ++ textParam params "org" ++
      textParam params "ip"

def Controls.quickFilters (controls : Controls) : QuickFilters :=
  { dateFilters zone (controls.beginDate, controls.endDate) with
    recordsGt := controls.recordsGt }

/-- The request of a page, with the mark that is stored together with the result. -/
def ListPage.request (controls : Controls) (page : ListPage) : String × Bool :=
  let routeFiltered := page.urlParams controls.params ≠ []
  match page with
  | .mails => (updateMails controls.params (controls.quickFilters zone), routeFiltered)
  | .dmarcReports =>
      (updateDmarcReports controls.params (controls.quickFilters zone), routeFiltered)
  | .tlsReports => (updateTlsReports controls.params, routeFiltered)

def ListPage.act (page : ListPage) (control : Control) (controls : Controls) :
    Controls × (Unit → List (String × Bool)) :=
  if page.has control then
    let next := controls.apply zone control
    (next, fun _ => [page.request zone next])
  else
    (controls, fun _ => [])

end Controls

section Lists

variable {env : Externals} {ν : Type}

/-- The list which the server returns for an address, unless it rejects the request. -/
def ListPage.body (env : Externals) (json : JsonBodies) (state : AppState) (url : String) :
    ListPage → Option String
  | .mails => (Mails.MailFilters.fromQuery env (fetchedQuery url)).map fun filters =>
      json.mails (Mails.listHandler env state filters)
  | .dmarcReports =>
      (DmarcReports.ReportFilters.fromQuery env (fetchedQuery url)).map fun filters =>
        json.dmarcReports (DmarcReports.listHandler env state filters)
  | .tlsReports => (TlsReports.ReportFilters.fromQuery env (fetchedQuery url)).map fun filters =>
      json.tlsReports (TlsReports.listHandler env state filters)

/-- How the page reads a list and the date of an entry, by which it sorts them. -/
structure RowFormat (ν : Type) where
  parse : String → Option (List ν)
  date : ν → Int

def RowFormat.sort (format : RowFormat ν) (rows : List ν) : List ν :=
  rows.mergeSort fun a b => format.date b ≤ format.date a

/-- A list next to the background task. -/
def listSetting (env : Externals) (json : JsonBodies) (format : RowFormat ν) (zone : TimeZone)
    (page : ListPage) :
    Setting AppState (DmarcReportViewer.Event env) Controls Control Unit (String × Bool)
      (Option Export.Response × Bool) (List ν × Bool) where
  serve := DmarcReportViewer.Event.apply
  act := page.act zone
  answer state request := (entryAnswer env json state request.1, request.2)
  use _ answer := (jsonOf format.parse answer.1).map fun rows => (format.sort rows, answer.2)

variable (json : JsonBodies) (format : RowFormat ν) (zone : TimeZone) (page : ListPage)
  (startTime : UInt64)

def listWorld (events : List (Loads.Event (DmarcReportViewer.Event env) Control Unit)) :
    World AppState Controls Unit (String × Bool) (Option Export.Response × Bool)
      (List ν × Bool) :=
  run (step (listSetting env json format zone page)) events (start (AppState.new startTime) {})

/-- The entries which pass the filters of the page, and whether the route has some. -/
def listView (env : Externals) (controls : Controls) (state : AppState) :
    Option (List ν × Bool) :=
  let (url, filtered) := page.request zone controls
  ((page.body env json state url).bind format.parse).map fun rows => (format.sort rows, filtered)

/-- Whatever a list shows has been selected by its controls at some moment.  If the answers
arrive in the order of the requests, then the list shows what its present controls select at a
moment after the last request, as soon as it does not wait for any other. -/
structure ListLoads (events : List (Loads.Event (DmarcReportViewer.Event env) Control Unit)) :
    Prop where
  shown : ∀ view, (listWorld json format zone page startTime events).shown () = some view →
    ∃ asked answered, asked <+: answered ∧ answered <+: events ∧
      listView json format zone page env (listWorld json format zone page startTime asked).client
        (listWorld json format zone page startTime answered).server = some view
  content : (∀ event ∈ events, event.InOrder) →
    (listWorld json format zone page startTime events).sent () ≠ [] →
    (listWorld json format zone page startTime events).flights () = [] →
    ∃ earlier, earlier <+: events ∧
      (listWorld json format zone page startTime earlier).sent () =
        (listWorld json format zone page startTime events).sent () ∧
      (listWorld json format zone page startTime earlier).client =
        (listWorld json format zone page startTime events).client ∧
      ∀ view, listView json format zone page env
          (listWorld json format zone page startTime events).client
          (listWorld json format zone page startTime earlier).server = some view →
        (listWorld json format zone page startTime events).shown () = some view

end Lists

section Requests

variable {env : Externals} {json : JsonBodies} {ν : Type} {params : Params} {name : String}

theorem sendable_flagParam (plain : Plain name) : ∀ param ∈ flagParam params name,
    Sendable param := by
  intro param member
  rw [flagParam] at member
  split at member
  · split at member
    · next flag =>
        rw [List.mem_singleton.mp member]
        rcases flag with rfl | rfl
        · exact plain.sendable (by decide : Plain "true")
        · exact plain.sendable (by decide : Plain "false")
    · cases member
  · cases member

theorem sendable_textParam (plain : Plain name) : ∀ param ∈ textParam params name,
    Sendable param := by
  intro param member
  rw [textParam] at member
  split at member
  · split at member
    · cases member
    · rw [List.mem_singleton.mp member]
      exact sendable_encodeURIComponent plain _
  · cases member

theorem sendable_quickFilters (quick : QuickFilters) :
    ∀ param ∈ quick.timeParams ++ quick.recordsParams, Sendable param := by
  intro param member
  have number := isNumber_dmarcParams param member
  exact number.plain.sendable number.2

theorem sendable_urlParams (page : ListPage) : ∀ param ∈ page.urlParams params,
    Sendable param := by
  cases page <;> simp only [ListPage.urlParams, List.forall_mem_append] <;> and_intros <;>
    first
    | exact sendable_flagParam (by decide)
    | exact sendable_textParam (by decide)

theorem fetchedPath_listUrl {path : String} (inPath : Plain path)
    (sendable : ∀ param ∈ params, Sendable param) :
    fetchedPath (address path params) = "/" ++ path := by
  by_cases none : params = []
  · rw [address, if_pos none]
    exact fetchedPath_of_keptInPath (keptInPath_of_plain inPath)
  · exact fetchedPath_address inPath none sendable

def ListPage.path : ListPage → String
  | .mails => "mails"
  | .dmarcReports => "dmarc-reports"
  | .tlsReports => "tls-reports"

theorem fetchedPath_request (page : ListPage) (zone : TimeZone) (controls : Controls) :
    fetchedPath (page.request zone controls).1 = "/" ++ page.path := by
  have quick := sendable_quickFilters (controls.quickFilters zone)
  cases page with
  | mails =>
      apply @fetchedPath_listUrl _ "mails" (by decide)
      rw [List.forall_mem_append]
      exact ⟨sendable_urlParams .mails, fun param member =>
        quick param (List.mem_append_left _ member)⟩
  | dmarcReports =>
      apply @fetchedPath_listUrl _ "dmarc-reports" (by decide)
      rw [List.forall_mem_append]
      exact ⟨sendable_urlParams .dmarcReports, quick⟩
  | tlsReports =>
      exact @fetchedPath_listUrl _ "tls-reports" (by decide) (sendable_urlParams .tlsReports)

/-- The request of a page reaches the handler of its list. -/
theorem jsonOf_entryAnswer (page : ListPage) (zone : TimeZone) (controls : Controls)
    (state : AppState) (parse : String → Option (List ν)) :
    jsonOf parse (entryAnswer env json state (page.request zone controls).1) =
      (page.body env json state (page.request zone controls).1).bind parse := by
  have route : Routes.routeOf ("/" ++ page.path) = some (⟨"/" ++ page.path, .get, true⟩, []) := by
    cases page <;> exact routeOf_list (by decide)
  rw [entryAnswer, fetchedPath_request]
  generalize (page.request zone controls).1 = url
  cases page <;> simp only [ListPage.path, String.reduceAppend] at route ⊢ <;>
    simp [answer, route, ListPage.body, jsonOf, foundResponse, Option.bind_map,
      Option.bind_assoc]

end Requests

section Loading

variable {env : Externals} {json : JsonBodies} {ν : Type} {format : RowFormat ν}
  {zone : TimeZone} {page : ListPage} {startTime : UInt64}
  {events : List (Loads.Event (DmarcReportViewer.Event env) Control Unit)}

/-- A step leaves the controls alone, or it requests what they select. -/
theorem listWorld_concat (events : List (Loads.Event (DmarcReportViewer.Event env) Control Unit))
    (event : Loads.Event (DmarcReportViewer.Event env) Control Unit) :
    ((listWorld json format zone page startTime (events ++ [event])).client =
        (listWorld json format zone page startTime events).client ∧
      (listWorld json format zone page startTime (events ++ [event])).sent () =
        (listWorld json format zone page startTime events).sent ()) ∨
    (listWorld json format zone page startTime (events ++ [event])).sent () =
      (listWorld json format zone page startTime events).sent () ++
        [page.request zone
          (listWorld json format zone page startTime (events ++ [event])).client] := by
  have change := @change_step _ _ _ _ _ _ _ _ _ (listSetting env json format zone page)
    (listWorld json format zone page startTime events) event
  have reached : listWorld json format zone page startTime (events ++ [event]) =
      step (listSetting env json format zone page) event
        (listWorld json format zone page startTime events) := run_concat _ _
  rw [reached]
  generalize step (listSetting env json format zone page) event
    (listWorld json format zone page startTime events) = next at change
  cases change with
  | acted control =>
      cases has : page.has control with
      | false => simp [World.send, listSetting, ListPage.act, has]
      | true => simp [World.send, listSetting, ListPage.act, has]
  | _ => exact Or.inl ⟨rfl, rfl⟩

theorem sent_listWorld (some : (listWorld json format zone page startTime events).sent () ≠ []) :
    ∃ before, (listWorld json format zone page startTime events).sent () = before ++
      [page.request zone (listWorld json format zone page startTime events).client] := by
  induction events using List.reverseRecOn with
  | nil => exact absurd rfl some
  | append_singleton events event ih =>
      rcases @listWorld_concat env json ν format zone page startTime events event with
        ⟨client, same⟩ | new
      · rw [same] at some ⊢
        rw [client]
        exact ih some
      · exact ⟨_, new⟩

/-- Every request was for what the controls selected at some moment. -/
theorem asked_listWorld {request : String × Bool}
    (asked : request ∈ (listWorld json format zone page startTime events).sent ()) :
    ∃ earlier, earlier <+: events ∧
      request = page.request zone (listWorld json format zone page startTime earlier).client := by
  induction events using List.reverseRecOn with
  | nil => cases asked
  | append_singleton events event ih =>
      rcases @listWorld_concat env json ν format zone page startTime events event with
        ⟨_, same⟩ | new
      · rw [same] at asked
        rcases ih asked with ⟨earlier, before, equal⟩
        exact ⟨earlier, before.trans (List.prefix_append _ _), equal⟩
      · rw [new] at asked
        rcases List.mem_append.mp asked with old | last
        · rcases ih old with ⟨earlier, before, equal⟩
          exact ⟨earlier, before.trans (List.prefix_append _ _), equal⟩
        · exact ⟨events ++ [event], List.prefix_refl _, List.mem_singleton.mp last⟩

/-- The controls stay as they are as long as nothing is requested. -/
theorem client_of_sent_eq {earlier : List (Loads.Event (DmarcReportViewer.Event env) Control Unit)}
    (before : earlier <+: events)
    (same : (listWorld json format zone page startTime earlier).sent () =
      (listWorld json format zone page startTime events).sent ()) :
    (listWorld json format zone page startTime earlier).client =
      (listWorld json format zone page startTime events).client := by
  rcases before with ⟨later, rfl⟩
  have grown : ∃ more, (listWorld json format zone page startTime (earlier ++ later)).sent () =
      (listWorld json format zone page startTime earlier).sent () ++ more ∧
      (more = [] → (listWorld json format zone page startTime (earlier ++ later)).client =
        (listWorld json format zone page startTime earlier).client) := by
    clear same
    induction later using List.reverseRecOn with
    | nil => exact ⟨[], by simp, fun _ => by rw [List.append_nil]⟩
    | append_singleton later event ih =>
        rcases ih with ⟨more, sent, client⟩
        have step := @listWorld_concat env json ν format zone page startTime (earlier ++ later)
          event
        rw [List.append_assoc] at step
        rcases step with ⟨unchanged, none⟩ | new
        · exact ⟨more, none.trans sent, fun empty => unchanged.trans (client empty)⟩
        · rw [sent, List.append_assoc] at new
          refine ⟨_, new, fun empty => ?_⟩
          simp at empty
  rcases grown with ⟨more, sent, client⟩
  rw [sent] at same
  exact (client (List.self_eq_append_right.mp same)).symm

end Loading

end DmarcReportViewer.Ui

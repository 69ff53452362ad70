import DmarcReportViewer.Lib.Loads
import DmarcReportViewer.Ui.Entries

/-!
# Loading of single entries

The model of `updated` of `ui/components/mail.js`, `dmarc-report.js` and `tls-report.js`.  An
element keeps what it shows when it gets another ID, and the answers to its requests arrive
in any order while the background task goes on.
-/

namespace DmarcReportViewer.Ui

open Entries Export Loads Runs

/-- The elements which show a single entry. -/
inductive EntryElement where
  | mail
  | dmarcReport
  | tlsReport

def EntryElement.component : EntryElement → String → Component
  | .mail, id => .mail id
  | .dmarcReport, id => .dmarcReport id
  | .tlsReport, id => .tlsReport id

variable {env : Externals} {β : Type}

/-- The ID of an element is set.  The requests have a slot each, for the property in which
`then` puts the result. -/
def setId (element : EntryElement) (id : String) (current : Option String) :
    Option String × (ℕ → List String) :=
  if current = some id then
    (current, fun _ => [])
  else
    (some id, fun number => (entryRequests (element.component id))[number]?.toList)

def entryAnswer (env : Externals) (json : JsonBodies) (state : AppState) (url : String) :
    Option Export.Response :=
  answer env json state (fetchedPath url) (fetchedQuery url)

/-- The result of `response.json()`.  Nothing is stored if it throws. -/
def jsonOf (parse : String → Option β) (response : Option Export.Response) : Option β :=
  response.bind fun response => parse response.body

/-- The responses with the content of a stored entry. -/
def entryContent (json : JsonBodies) (state : AppState) (id : String) :
    EntryElement → Option (List (Option Export.Response))
  | .mail => state.mails[id]?.map fun mail => (mailPage json state mail).2
  | .dmarcReport => state.dmarcReports[id]?.map fun rwi => (dmarcReportPage json id rwi).2
  | .tlsReport => state.tlsReports[id]?.map fun rwi => (tlsReportPage json id rwi).2

/-- An element next to the background task. -/
def entrySetting (env : Externals) (json : JsonBodies) (parse : String → Option β)
    (element : EntryElement) :
    Setting AppState (DmarcReportViewer.Event env) (Option String) String ℕ String
      (Option Export.Response) β where
  serve := DmarcReportViewer.Event.apply
  act := setId element
  answer := entryAnswer env json
  use _ := jsonOf parse

section Loading

variable (json : JsonBodies) (parse : String → Option β) (element : EntryElement)
  (startTime : UInt64)

/-- The element and the server after something happened. -/
def entryWorld (events : List (Loads.Event (DmarcReportViewer.Event env) String ℕ)) :
    World AppState (Option String) ℕ String (Option Export.Response) β :=
  run (step (entrySetting env json parse element)) events (start (AppState.new startTime) none)

/-- Whatever an element shows was an answer to one of its requests.  If the answers arrive in
the order of the requests, then the element shows what is stored for its own ID as soon as it
does not wait for any other. -/
structure EntryLoads (events : List (Loads.Event (DmarcReportViewer.Event env) String ℕ)) :
    Prop where
  shown : ∀ number value, (entryWorld json parse element startTime events).shown number =
      some value →
    ∃ earlier, earlier <+: events ∧
      ∃ url ∈ (entryWorld json parse element startTime earlier).sent number,
        jsonOf parse (entryAnswer env json
          (entryWorld json parse element startTime earlier).server url) = some value
  content : (∀ event ∈ events, event.InOrder) → ∀ id number url,
    (entryWorld json parse element startTime events).client = some id →
    (entryRequests (element.component id))[number]? = some url →
    (entryWorld json parse element startTime events).flights number = [] →
    ∃ earlier, earlier <+: events ∧
      (entryWorld json parse element startTime earlier).sent number =
        (entryWorld json parse element startTime events).sent number ∧
      ∀ responses, entryContent json (entryWorld json parse element startTime earlier).server
          id element = some responses →
        ∃ response, responses[number]? = some response ∧ ∀ value,
          jsonOf parse response = some value →
            (entryWorld json parse element startTime events).shown number = some value

variable {json parse element startTime}
  {events : List (Loads.Event (DmarcReportViewer.Event env) String ℕ)}

@[simp]
theorem use_entrySetting (number : ℕ) :
    (entrySetting env json parse element).use number = jsonOf parse :=
  rfl

@[simp]
theorem answer_entrySetting :
    (entrySetting env json parse element).answer = entryAnswer env json :=
  rfl

/-- The server is in a reachable state. -/
theorem server_entryWorld (events : List (Loads.Event (DmarcReportViewer.Event env) String ℕ)) :
    ∃ history : List (DmarcReportViewer.Event env),
      (entryWorld json parse element startTime events).server =
        stateAfter history startTime := by
  induction events using List.reverseRecOn with
  | nil => exact ⟨[], rfl⟩
  | append_singleton events event ih =>
      rcases ih with ⟨history, server⟩
      have change := @change_step _ _ _ _ _ _ _ _ _ (entrySetting env json parse element)
        (entryWorld json parse element startTime events) event
      have reached : entryWorld json parse element startTime (events ++ [event]) =
          step (entrySetting env json parse element) event
            (entryWorld json parse element startTime events) := run_concat _ _
      rw [reached]
      generalize step (entrySetting env json parse element) event
        (entryWorld json parse element startTime events) = next at change
      cases change with
      | served event =>
          refine ⟨history ++ [event], ?_⟩
          rw [stateAfter, run_concat, ← stateAfter, ← server]
          rfl
      | _ => exact ⟨history, server⟩

/-- The last request of a slot is the one for the ID of the element. -/
theorem sent_entryWorld {id url : String} {number : ℕ}
    (current : (entryWorld json parse element startTime events).client = some id)
    (asked : (entryRequests (element.component id))[number]? = some url) :
    ∃ before, (entryWorld json parse element startTime events).sent number =
      before ++ [url] := by
  induction events using List.reverseRecOn with
  | nil => cases current
  | append_singleton events event ih =>
      have change := @change_step _ _ _ _ _ _ _ _ _ (entrySetting env json parse element)
        (entryWorld json parse element startTime events) event
      have reached : entryWorld json parse element startTime (events ++ [event]) =
          step (entrySetting env json parse element) event
            (entryWorld json parse element startTime events) := run_concat _ _
      rw [reached] at current ⊢
      generalize step (entrySetting env json parse element) event
        (entryWorld json parse element startTime events) = next at change current
      cases change with
      | acted action =>
          by_cases same : (entryWorld json parse element startTime events).client = some action
          · simp only [World.send, entrySetting, setId, if_pos same, List.append_nil]
              at current ⊢
            exact ih current
          · simp only [World.send, entrySetting, setId, if_neg same] at current ⊢
            cases current
            exact ⟨_, by rw [asked]; rfl⟩
      | _ => exact ih current

/-- In a reachable state, the requests for a stored entry are answered with its content. -/
theorem answers_of_entryContent (decodes : env.DecodesUtf8)
    (history : List (DmarcReportViewer.Event env)) {id : String}
    {responses : List (Option Export.Response)}
    (stored : entryContent json (stateAfter history startTime) id element = some responses) :
    responses = (entryRequests (element.component id)).map
      (entryAnswer env json (stateAfter history startTime)) := by
  have identified := identified_stateAfter history startTime
  have consistent := consistent_stateAfter history startTime
  generalize stateAfter history startTime = state at identified consistent stored ⊢
  have answers : ∀ link page responses, visit env json state link = (page, responses) →
      responses = (entryRequests page).map (entryAnswer env json state) := by
    intro link page responses visited
    simp only [visit, Prod.mk.injEq] at visited
    rw [← visited.2, visited.1]
    rfl
  cases element with
  | mail =>
      rcases Option.map_eq_some_iff.mp stored with ⟨mail, found, rfl⟩
      have same := consistent.mailIds id mail found
      subst same
      have present : mail.id ∈ state.mails := Std.ExtTreeMap.mem_iff_isSome_getElem?.mpr
        (Option.isSome_iff_exists.mpr ⟨mail, found⟩)
      exact answers _ _ _ (visit_mail decodes (identified.mails mail.id present) found rfl)
  | dmarcReport =>
      rcases Option.map_eq_some_iff.mp stored with ⟨rwi, found, rfl⟩
      have present : id ∈ state.dmarcReports := Std.ExtTreeMap.mem_iff_isSome_getElem?.mpr
        (Option.isSome_iff_exists.mpr ⟨rwi, found⟩)
      exact answers _ _ _ (visit_dmarcReport (identified.reports .xml id present) found)
  | tlsReport =>
      rcases Option.map_eq_some_iff.mp stored with ⟨rwi, found, rfl⟩
      have present : id ∈ state.tlsReports := Std.ExtTreeMap.mem_iff_isSome_getElem?.mpr
        (Option.isSome_iff_exists.mpr ⟨rwi, found⟩)
      exact answers _ _ _ (visit_tlsReport (identified.reports .json id present) found)

/-- The page of a mail is opened, and an update comes between the answers. -/
def sampleLoads : List (Loads.Event (DmarcReportViewer.Event decodingEnv) String ℕ) :=
  [.act "80PIQSMHanHfacyq6aXj_A", .answer 0 0, .serve (.update decodingAttempt), .answer 1 0,
    .arrive 1 0, .arrive 0 0]

end Loading

end DmarcReportViewer.Ui

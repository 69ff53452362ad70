import DmarcReportViewer.Ui.ColumnFilters
import DmarcReportViewer.Ui.SourcesView

/-!
# The table of the sources

The filters of `ui/components/sources.js`.  The rows of this table change while its filters are
active: host names arrive batch by batch, and the sources arrive after the answer which resets
the filters.
-/

namespace DmarcReportViewer.Ui.SourcesTable

open ColumnFilters (Column FilterState JsText Scalar lastChoice offers onFilterChange
  rowMatchesFilters text units)
open SourcesView (Entry Loop View)
open Runs Sources

section Columns

/-- The values of the options with their tests. -/
def COUNT_FILTERS : List (String × (ℕ → Bool)) :=
  [("", fun _ => true), ("lt100", fun count => count < 100), ("gt100", fun count => count > 100),
    ("gt500", fun count => count > 500), ("gt1000", fun count => count > 1000),
    ("gt10000", fun count => count > 10000)]

def ISSUE_LABELS : List (String × String) :=
  [("SpfPolicy", "SPF Policy"), ("SpfAuth", "SPF Auth"), ("DkimPolicy", "DKIM Policy"),
    ("DkimAuth", "DKIM Auth"), ("StarttlsNotSupported", "No STARTTLS Support"),
    ("CertificateHostMismatch", "Certificate Mismatch"),
    ("CertificateExpired", "Certificate Expired"),
    ("CertificateNotTrusted", "No Certificate Trust"),
    ("ValidationFailure", "Validation Failure"), ("TlsaInvalid", "TLSA Invalid"),
    ("DnssecInvalid", "DNSSEC Invalid"), ("DaneRequired", "DANE Required"),
    ("StsPolicyFetchError", "STS Policy Fetch Error"), ("StsPolicyInvalid", "STS Policy Invalid"),
    ("StsWebpkiInvalid", "STS WebPKI Invalid")]

def TYPE_LABELS : List (String × String) :=
  [("Dmarc", "DMARC"), ("Tls", "SMTP TLS")]

def issueLabel (issue : String) : String :=
  (ISSUE_LABELS.lookup issue).getD issue

def typeLabel (type : String) : String :=
  (TYPE_LABELS.lookup type).getD type

/-- The issues with the texts which stand for them in the JSON of the sources, in the order to
which the page sorts them. -/
def issueTexts : List (Issue × String) :=
  [(.certificateExpired, "CertificateExpired"),
    (.certificateHostMismatch, "CertificateHostMismatch"),
    (.certificateNotTrusted, "CertificateNotTrusted"), (.daneRequired, "DaneRequired"),
    (.dkimAuth, "DkimAuth"), (.dkimPolicy, "DkimPolicy"), (.dnssecInvalid, "DnssecInvalid"),
    (.spfAuth, "SpfAuth"), (.spfPolicy, "SpfPolicy"),
    (.starttlsNotSupported, "StarttlsNotSupported"),
    (.stsPolicyFetchError, "StsPolicyFetchError"), (.stsPolicyInvalid, "StsPolicyInvalid"),
    (.stsWebpkiInvalid, "StsWebpkiInvalid"), (.tlsaInvalid, "TlsaInvalid"),
    (.validationFailure, "ValidationFailure")]

def issues (source : Source) : List String :=
  (issueTexts.filter fun issue => issue.1 ∈ source.details.issues).map Prod.snd

def types (source : Source) : List String :=
  ([ReportType.dmarc, .tls].filter fun type => type ∈ source.details.types).map typeText

/-- The text of a host name which is undefined, null or known. -/
def dnsText : Option (Option String) → String
  | none => ""
  | some none => "n/a"
  | some (some dns) => dns

variable (displayIp : IpAddr → String)

def columns : List (Column Entry) :=
  [{ key := "ip", value := fun entry => text (displayIp entry.source.ip) },
    { key := "dns", value := fun entry => text (dnsText entry.dns) },
    { key := "count", value := fun entry =>
        .scalar (.number entry.source.details.count.toNat) },
    { key := "domain", value := fun entry => text entry.source.details.domain },
    { key := "types", value := fun entry =>
        .array ((types entry.source).map fun type => .text (units (typeLabel type))) },
    { key := "issues", value := fun entry =>
        .array ((issues entry.source).map fun issue => .text (units (issueLabel issue))) }]

def countMatches (countFilter : String) (count : ℕ) : Bool :=
  ((COUNT_FILTERS.lookup countFilter).getD fun _ => true) count

end Columns

structure Table where
  view : View
  filterState : FilterState
  countFilter : String

def Table.new : Table where
  view := View.new
  filterState := fun _ => none
  countFilter := ""

inductive Event where
  | view (event : SourcesView.Event)
  | filterChange (key : String) (value : JsText)
  | countFilterChange (value : String)

section Runs

variable (env : Externals) (displayIp : IpAddr → String) (collates : JsText → JsText → Bool)

/-- The answer with the sources resets the filters before its JSON is read. -/
def resets (view : View) : SourcesView.Event → Bool
  | .sourcesResponse run => view.runs[run]? = some .sourcesResponse
  | _ => false

/-- A step of the table.  Only values which are offered can be chosen. -/
def step (event : Event) (table : Table) : Table :=
  match event with
  | .view event =>
      let view := SourcesView.step env event table.view
      if resets table.view event then
        { view := view, filterState := fun _ => none, countFilter := "" }
      else
        { table with view := view }
  | .filterChange key value =>
      if offers collates (columns displayIp) table.view.sources key value then
        { table with filterState := onFilterChange table.filterState key value }
      else
        table
  | .countFilterChange value =>
      if value ∈ COUNT_FILTERS.map Prod.fst then { table with countFilter := value } else table

/-- The rows which `render` shows. -/
def Table.shown (table : Table) : List Entry :=
  let rows := table.view.sources.filter fun entry =>
    rowMatchesFilters entry (columns displayIp) table.filterState
  rows.filter fun entry => countMatches table.countFilter entry.source.details.count.toNat

/-- What was chosen since the filters were reset. -/
def record (event : Event) (seen : Table × List (String × JsText)) :
    Table × List (String × JsText) :=
  let choices :=
    match event with
    | .view event => if resets seen.1.view event then [] else seen.2
    | .filterChange key value =>
        if offers collates (columns displayIp) seen.1.view.sources key value then
          seen.2 ++ [(key, value)]
        else
          seen.2
    | .countFilterChange _ => seen.2
  (step env displayIp collates event seen.1, choices)

/-- No choice is made between an answer and its sources, and sources do not arrive while host
names are loaded for others. -/
def Undisturbed (table : Table) : Event → Prop
  | .view (.sourcesJson run _) => table.view.runs[run]? = some .sourcesJson →
      ∀ loop, .batchResult loop ∉ table.view.runs
  | .filterChange _ _ => .sourcesJson ∉ table.view.runs
  | _ => True

/-- A table shows the sources with the values which were chosen last since the answer for them.
If its loading is undisturbed, every choice can be met. -/
structure Shows (events : List Event) (seen : Table × List (String × JsText)) : Prop where
  shown : seen.1.shown displayIp = seen.1.view.sources.filter fun entry =>
    ((columns displayIp).all fun column => (lastChoice seen.2 column.key).all fun value =>
      value ∈ column.texts entry) &&
        countMatches seen.1.countFilter entry.source.details.count.toNat
  found : Explained (fun before event =>
      Undisturbed (run (step env displayIp collates) before Table.new) event) events →
    ∀ key value, lastChoice seen.2 key = some value →
      ∃ column ∈ columns displayIp, column.key = key ∧
        ∃ entry ∈ seen.1.view.sources, value ∈ column.offered entry
  nonempty : Explained (fun before event =>
      Undisturbed (run (step env displayIp collates) before Table.new) event) events →
    seen.1.countFilter = "" → ∀ key value, lastChoice seen.2 key = some value →
      (∀ other, other ≠ key → lastChoice seen.2 other = none) → seen.1.shown displayIp ≠ []

end Runs

section Loading

/-- While names are loaded for the sources, one loop goes through them, and it has not passed
the sources without names. -/
structure Loading (view : View) : Prop where
  alone : ∀ (i j : ℕ) (loop other : Loop), view.runs[i]? = some (.batchResult loop) →
    view.runs[j]? = some (.batchResult other) → i = j
  next : ∀ (i : ℕ) (loop : Loop), view.runs[i]? = some (.batchResult loop) →
    loop.startOffset + loop.chunk.length = loop.i + 1
  unnamed : ∀ (i : ℕ) (loop : Loop), view.runs[i]? = some (.batchResult loop) →
    ∀ k entry, loop.startOffset ≤ k → view.sources[k]? = some entry → entry.dns = none

/-- The sources stay as they are, except for host names which were not known. -/
def Extends (sources extended : List Entry) : Prop :=
  ∀ (k : ℕ) (entry : Entry), sources[k]? = some entry → ∃ named, extended[k]? = some named ∧
    named.source = entry.source ∧ (entry.dns ≠ none → named.dns = entry.dns)

variable {env : Externals} {view : View}

theorem extends_self (sources : List Entry) : Extends sources sources := by
  intro k entry found
  exact ⟨entry, found, rfl, fun _ => rfl⟩

theorem startOffset_of_continueLoop {i startOffset : ℕ} {loop : Loop}
    (continues : SourcesView.continueLoop view i startOffset = .batchResult loop) :
    loop.startOffset = startOffset := by
  unfold SourcesView.continueLoop at continues
  split at continues <;> cases continues
  rfl

theorem waiting_of_set {runs : List SourcesView.Run} {run i : ℕ} {next : SourcesView.Run}
    {loop : Loop} (waiting : (runs.set run next)[i]? = some (.batchResult loop)) :
    i = run ∧ next = .batchResult loop ∨ runs[i]? = some (.batchResult loop) := by
  rw [List.getElem?_set] at waiting
  split at waiting
  · next same =>
      split at waiting
      · exact Or.inl ⟨same.symm, Option.some.inj waiting⟩
      · cases waiting
  · exact Or.inr waiting

theorem waiting_before {runs : List SourcesView.Run} {run i : ℕ} {next : SourcesView.Run}
    {loop : Loop} (quiet : next ≠ .batchResult loop)
    (waiting : (runs.set run next)[i]? = some (.batchResult loop)) :
    runs[i]? = some (.batchResult loop) :=
  (waiting_of_set waiting).resolve_left fun now => quiet now.2

/-- Nothing changes for a loop if no run starts or continues one. -/
theorem Loading.quiet (loading : Loading view) {next : View} (same : next.sources = view.sources)
    (before : ∀ (i : ℕ) (loop : Loop), next.runs[i]? = some (.batchResult loop) →
      view.runs[i]? = some (.batchResult loop)) : Loading next := by
  constructor
  case alone =>
    intro i j loop other first second
    exact loading.alone i j loop other (before i loop first) (before j other second)
  case next =>
    intro i loop waiting
    exact loading.next i loop (before i loop waiting)
  case unnamed =>
    intro i loop waiting
    rw [same]
    exact loading.unnamed i loop (before i loop waiting)

/-- A run goes on while no other run is in a loop. -/
theorem loading_set {run : ℕ} {next : SourcesView.Run}
    (free : ∀ (j : ℕ) (loop : Loop), view.runs[j]? = some (.batchResult loop) → j = run)
    (behind : ∀ loop, next = .batchResult loop →
      loop.startOffset + loop.chunk.length = loop.i + 1 ∧
        ∀ k entry, loop.startOffset ≤ k → view.sources[k]? = some entry → entry.dns = none) :
    Loading { view with runs := view.runs.set run next } := by
  have waits : ∀ (j : ℕ) (loop : Loop),
      (view.runs.set run next)[j]? = some (.batchResult loop) →
        j = run ∧ next = .batchResult loop := by
    intro j loop waiting
    rcases waiting_of_set waiting with now | before
    · exact now
    · rw [free j loop before, List.getElem?_set_self
        (free j loop before ▸ (List.getElem?_eq_some_iff.mp before).1)] at waiting
      exact ⟨free j loop before, Option.some.inj waiting⟩
  constructor
  case alone =>
    intro i j loop other first second
    rw [(waits i loop first).1, (waits j other second).1]
  case next =>
    intro j loop waiting
    exact (behind loop (waits j loop waiting).2).1
  case unnamed =>
    intro j loop waiting
    exact (behind loop (waits j loop waiting).2).2

theorem behind_continueLoop {i : ℕ}
    (unnamed : ∀ k entry, i ≤ k → view.sources[k]? = some entry → entry.dns = none) {loop : Loop}
    (continues : SourcesView.continueLoop view i i = .batchResult loop) :
    loop.startOffset + loop.chunk.length = loop.i + 1 ∧
      ∀ k entry, loop.startOffset ≤ k → view.sources[k]? = some entry → entry.dns = none := by
  refine ⟨(SourcesView.aligned_continueLoop continues).next, ?_⟩
  rw [startOffset_of_continueLoop continues]
  exact unnamed

/-- The results of a batch are stored where no names are known. -/
theorem extends_storeResults (loading : Loading view) {run : ℕ} {loop : Loop}
    (waiting : view.runs[run]? = some (.batchResult loop)) (batchResult : List (Option String)) :
    Extends view.sources
      (SourcesView.storeResults loop.startOffset batchResult loop.chunk.length 0
        view.sources).1 := by
  intro k entry found
  rw [SourcesView.getElem?_storeResults, found, Option.map_some]
  refine ⟨_, rfl, ?_⟩
  split
  · next range =>
      refine ⟨rfl, fun known => ?_⟩
      exact absurd (loading.unnamed run loop waiting k entry (by omega) found) known
  · exact ⟨rfl, fun _ => rfl⟩

theorem Loading.resumeLoop (loading : Loading view) {run : ℕ} {loop : Loop}
    (waiting : view.runs[run]? = some (.batchResult loop)) (tasks : Ips.Tasks) :
    Loading (SourcesView.resumeLoop view run loop tasks) ∧
      Extends view.sources (SourcesView.resumeLoop view run loop tasks).sources := by
  have free : ∀ (j : ℕ) (other : Loop), view.runs[j]? = some (.batchResult other) → j = run := by
    intro j other second
    exact loading.alone j run other loop second waiting
  unfold SourcesView.resumeLoop
  split
  case h_1 batchResult response =>
    have stored := extends_storeResults loading waiting batchResult
    have behind : ∀ k entry, loop.startOffset + loop.chunk.length ≤ k →
        (SourcesView.storeResults loop.startOffset batchResult loop.chunk.length 0
          view.sources).1[k]? = some entry → entry.dns = none := by
      intro k entry after found
      rw [SourcesView.getElem?_storeResults] at found
      rcases Option.map_eq_some_iff.mp found with ⟨old, present, rfl⟩
      rw [if_neg (by omega)]
      exact loading.unnamed run loop waiting k old (by omega) present
    dsimp only
    split
    · rw [loading.next run loop waiting] at behind ⊢
      refine ⟨?_, stored⟩
      apply @loading_set { view with
        sources := (SourcesView.storeResults loop.startOffset batchResult loop.chunk.length 0
          view.sources).1
        answers := view.answers ++ Ips.answersOf loop.chunk tasks } _ _ free
      exact fun _ => behind_continueLoop behind
    · refine ⟨?_, stored⟩
      apply @loading_set { view with
        sources := (SourcesView.storeResults loop.startOffset batchResult loop.chunk.length 0
          view.sources).1
        answers := view.answers ++ Ips.answersOf loop.chunk tasks } _ _ free
      intro _ ended
      cases ended
  case h_2 =>
    refine ⟨loading.quiet rfl ?_, extends_self _⟩
    exact fun _ _ => waiting_before (by simp)

theorem Loading.step (loading : Loading view) (event : SourcesView.Event)
    (undisturbed : ∀ run sources, event = .sourcesJson run sources →
      view.runs[run]? = some .sourcesJson → ∀ loop, .batchResult loop ∉ view.runs) :
    Loading (SourcesView.step env event view) := by
  cases event with
  | setParams params => exact loading.quiet rfl fun _ _ waiting => waiting
  | updated =>
      simp only [SourcesView.step]
      split
      · refine loading.quiet rfl ?_
        intro i loop waiting
        rw [List.getElem?_append] at waiting
        split at waiting
        · exact waiting
        · cases List.mem_singleton.mp (List.mem_of_getElem? waiting)
      · exact loading
  | sourcesResponse run =>
      simp only [SourcesView.step]
      split
      · refine loading.quiet rfl ?_
        exact fun _ _ => waiting_before (by simp)
      · exact loading
  | sourcesJson run sources =>
      simp only [SourcesView.step]
      split
      · next waiting =>
          apply @loading_set { view with
            sources := (filterSources env view.params sources).map fun source =>
              { source := source }
            filtered := view.filtered || [view.params.domain, view.params.issues,
              view.params.type].any fun param => (truthy param).isSome
            version := view.version + 1 }
          · intro j loop present
            exact absurd (List.mem_of_getElem? present)
              (undisturbed run sources rfl waiting loop)
          · intro loop continues
            apply behind_continueLoop ?_ continues
            intro k entry _ found
            rcases List.mem_map.mp (List.mem_of_getElem? found) with ⟨source, _, rfl⟩
            rfl
      · exact loading
  | batchResult run tasks =>
      simp only [SourcesView.step]
      split
      case h_1 loop waiting => exact (loading.resumeLoop waiting tasks).1
      case h_2 => exact loading
  | failed run =>
      refine loading.quiet rfl ?_
      exact fun _ _ => waiting_before (by simp)

/-- Only the JSON of new sources replaces the sources. -/
theorem Loading.extends_step (loading : Loading view) (event : SourcesView.Event)
    (kept : ∀ run sources, event = .sourcesJson run sources →
      view.runs[run]? ≠ some .sourcesJson) :
    Extends view.sources (SourcesView.step env event view).sources := by
  cases event with
  | setParams params => exact extends_self _
  | updated =>
      simp only [SourcesView.step]
      split <;> exact extends_self _
  | sourcesResponse run =>
      simp only [SourcesView.step]
      split <;> exact extends_self _
  | sourcesJson run sources =>
      simp only [SourcesView.step]
      split
      · next waiting => exact absurd waiting (kept run sources rfl)
      · exact extends_self _
  | batchResult run tasks =>
      simp only [SourcesView.step]
      split
      case h_1 loop waiting => exact (loading.resumeLoop waiting tasks).2
      case h_2 => exact extends_self _
  | failed run => exact extends_self _

theorem mem_runs_step {event : SourcesView.Event}
    (reading : .sourcesJson ∈ (SourcesView.step env event view).runs) :
    .sourcesJson ∈ view.runs ∨ resets view event = true := by
  have set : ∀ {run : ℕ} {next : SourcesView.Run}, .sourcesJson ∈ view.runs.set run next →
      .sourcesJson ∈ view.runs ∨ .sourcesJson = next := List.mem_or_eq_of_mem_set
  cases event with
  | setParams params => exact Or.inl reading
  | updated =>
      simp only [SourcesView.step] at reading
      split at reading
      · exact Or.inl (by simpa using reading)
      · exact Or.inl reading
  | sourcesResponse run =>
      simp only [SourcesView.step] at reading
      split at reading
      · next waiting => exact Or.inr (by simp [resets, waiting])
      · exact Or.inl reading
  | sourcesJson run sources =>
      simp only [SourcesView.step] at reading
      split at reading
      · next waiting => exact Or.inl (List.mem_of_getElem? waiting)
      · exact Or.inl reading
  | batchResult run tasks =>
      simp only [SourcesView.step] at reading
      split at reading
      · simp only [SourcesView.resumeLoop] at reading
        split at reading
        · split at reading
          · rcases set reading with before | now
            · exact Or.inl before
            · unfold SourcesView.continueLoop at now
              split at now <;> cases now
          · exact Or.inl (by simpa using set reading)
        · exact Or.inl (by simpa using set reading)
      · exact Or.inl reading
  | failed run => exact Or.inl (by simpa using set reading)

end Loading

section Filters

variable {env : Externals} {displayIp : IpAddr → String} {collates : JsText → JsText → Bool}
  {table : Table} {event : Event} {events : List Event}

/-- No two columns share their filter. -/
theorem nodup_keys : ((columns displayIp).map Column.key).Nodup := by
  simp [columns]

/-- A host name which becomes known takes no value from the columns. -/
theorem offered_subset {column : Column Entry} (member : column ∈ columns displayIp)
    {entry named : Entry} (source : named.source = entry.source)
    (dns : entry.dns ≠ none → named.dns = entry.dns) :
    column.offered entry ⊆ column.offered named := by
  by_cases unknown : entry.dns = none
  · simp only [columns, List.mem_cons, List.not_mem_nil, or_false] at member
    rcases member with rfl | rfl | rfl | rfl | rfl | rfl
    case inr.inl =>
      intro value offered
      simp [Column.offered, ColumnFilters.Cell.list, text, dnsText, units, unknown] at offered
    all_goals simp [Column.offered, source]
  · have same : named = entry := by
      cases named
      cases entry
      simp_all
    exact same ▸ List.Subset.refl _

/-- What holds while the loading of the sources is undisturbed. -/
structure Meets (displayIp : IpAddr → String) (table : Table) : Prop where
  loading : Loading table.view
  idle : .sourcesJson ∈ table.view.runs → ∀ key, table.filterState key = none
  found : ∀ key value, table.filterState key = some value →
    ∃ column ∈ columns displayIp, column.key = key ∧
      ∃ entry ∈ table.view.sources, value ∈ column.offered entry

theorem meets_new : Meets displayIp Table.new := by
  constructor
  · constructor <;> simp [Table.new, View.new]
  · intro reading
    simp [Table.new, View.new] at reading
  · intro key value active
    cases active

theorem Meets.view (meets : Meets displayIp table) {event : SourcesView.Event}
    (undisturbed : Undisturbed table (.view event)) :
    Meets displayIp (step env displayIp collates (.view event) table) := by
  have loading : Loading (SourcesView.step env event table.view) := by
    apply meets.loading.step
    rintro run sources rfl
    exact undisturbed
  by_cases reset : resets table.view event = true
  · simp only [step, if_pos reset]
    exact ⟨loading, fun _ _ => rfl, fun _ _ active => by cases active⟩
  · simp only [step, if_neg reset]
    have idle : .sourcesJson ∈ (SourcesView.step env event table.view).runs →
        ∀ key, table.filterState key = none := by
      intro reading
      exact meets.idle ((mem_runs_step reading).resolve_right reset)
    refine ⟨loading, idle, ?_⟩
    intro key value active
    have kept : ∀ run sources, event = .sourcesJson run sources →
        table.view.runs[run]? ≠ some .sourcesJson := by
      rintro run sources rfl waiting
      rw [meets.idle (List.mem_of_getElem? waiting)] at active
      cases active
    rcases meets.found key value active with ⟨column, member, named, entry, entryMem, offered⟩
    rcases List.mem_iff_getElem?.mp entryMem with ⟨k, present⟩
    rcases @Loading.extends_step env _ meets.loading event kept k entry present with
      ⟨later, there, source, dns⟩
    exact ⟨column, member, named, later, List.mem_of_getElem? there,
      offered_subset member source dns offered⟩

theorem Meets.step (meets : Meets displayIp table) (undisturbed : Undisturbed table event) :
    Meets displayIp (step env displayIp collates event table) := by
  cases event with
  | view event => exact meets.view undisturbed
  | filterChange key value =>
      simp only [SourcesTable.step]
      split
      · next offered =>
          refine ⟨meets.loading, fun reading => absurd reading undisturbed, ?_⟩
          intro other chosen active
          rcases ColumnFilters.onFilterChange_eq_some active with ⟨rfl, rfl, some⟩ | before
          · rcases List.any_eq_true.mp offered with ⟨column, member, choice⟩
            rcases of_decide_eq_true choice with ⟨same, _, all | listed⟩
            · exact absurd all some
            · exact ⟨column, member, same, ColumnFilters.mem_distinctColumnValues.mp listed⟩
          · exact meets.found other chosen before
      · exact meets
  | countFilterChange value =>
      simp only [SourcesTable.step]
      split
      · exact ⟨meets.loading, meets.idle, meets.found⟩
      · exact meets

theorem meets_of_run (undisturbed : Explained (fun before event =>
    Undisturbed (run (step env displayIp collates) before Table.new) event) events) :
    Meets displayIp (run (step env displayIp collates) events Table.new) :=
  run_invariant_of_explained (Meets displayIp) meets_new
    (fun _ _ meets undisturbed => meets.step undisturbed) undisturbed

/-- The state of the filters is what was chosen since they were reset. -/
theorem run_record (events : List Event) :
    (run (record env displayIp collates) events (Table.new, [])).1 =
        run (step env displayIp collates) events Table.new ∧
      (run (step env displayIp collates) events Table.new).filterState =
        lastChoice (run (record env displayIp collates) events (Table.new, [])).2 := by
  induction events using List.reverseRecOn with
  | nil => exact ⟨rfl, rfl⟩
  | append_singleton events event ih =>
      rw [run_concat, run_concat]
      generalize run (record env displayIp collates) events (Table.new, []) = seen at ih ⊢
      generalize run (step env displayIp collates) events Table.new = table at ih ⊢
      rcases ih with ⟨rfl, filterState⟩
      refine ⟨rfl, ?_⟩
      cases event with
      | view event =>
          simp only [step, record]
          split
          · rfl
          · exact filterState
      | filterChange key value =>
          simp only [step, record]
          split
          · rw [ColumnFilters.lastChoice_concat, filterState]
          · exact filterState
      | countFilterChange value =>
          simp only [step, record]
          split <;> exact filterState

theorem shown_eq {choices : List (String × JsText)}
    (filterState : table.filterState = lastChoice choices) :
    table.shown displayIp = table.view.sources.filter fun entry =>
      ((columns displayIp).all fun column => (lastChoice choices column.key).all fun value =>
        value ∈ column.texts entry) &&
          countMatches table.countFilter entry.source.details.count.toNat := by
  have proper : ∀ key, lastChoice choices key ≠ some [] := by
    intro key empty
    exact (ColumnFilters.mem_of_lastChoice empty).1 rfl
  rw [Table.shown, List.filter_filter, filterState]
  congr
  funext entry
  rw [Bool.and_comm, ColumnFilters.rowMatchesFilters_eq proper]
  simp [columns]

/-- What the table shows after any answers and choices in any order. -/
theorem sourcesShown_of_run (env : Externals) (displayIp : IpAddr → String)
    (collates : JsText → JsText → Bool) (events : List Event) :
    Shows env displayIp collates events
      (run (record env displayIp collates) events (Table.new, [])) := by
  rcases @run_record env displayIp collates events with ⟨same, filterState⟩
  rw [← same] at filterState
  have shown := @shown_eq displayIp _ _ filterState
  have found : Explained (fun before event =>
      Undisturbed (run (step env displayIp collates) before Table.new) event) events →
      ∀ key value,
        lastChoice (run (record env displayIp collates) events (Table.new, [])).2 key =
            some value →
          ∃ column ∈ columns displayIp, column.key = key ∧
            ∃ entry ∈ (run (record env displayIp collates) events (Table.new, [])).1.view.sources,
              value ∈ column.offered entry := by
    intro undisturbed key value chosen
    rw [← filterState, same] at chosen
    rw [same]
    exact (meets_of_run undisturbed).found key value chosen
  constructor
  case shown => exact shown
  case found => exact found
  case nonempty =>
    intro undisturbed any key value chosen alone empty
    rcases found undisturbed key value chosen with
      ⟨column, member, rfl, entry, entryMem, offered⟩
    have entryShown : entry ∈ (run (record env displayIp collates) events
        (Table.new, [])).1.shown displayIp := by
      rw [shown, List.mem_filter, any]
      refine ⟨entryMem, ?_⟩
      rw [Bool.and_eq_true, List.all_eq_true]
      refine ⟨?_, rfl⟩
      intro other otherMem
      by_cases sameKey : other.key = column.key
      · rw [List.inj_on_of_nodup_map nodup_keys otherMem member sameKey, chosen]
        simp [ColumnFilters.offered_subset_texts offered]
      · rw [alone other.key sameKey]
        rfl
    rw [empty] at entryShown
    cases entryShown

end Filters

end DmarcReportViewer.Ui.SourcesTable

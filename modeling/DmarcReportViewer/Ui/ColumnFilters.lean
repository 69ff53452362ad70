import DmarcReportViewer.Http.DmarcReports
import DmarcReportViewer.Http.TlsReports
import DmarcReportViewer.Lib.LastWrites
import DmarcReportViewer.Lib.Runs

/-!
# The column filters of the tables

The model of `distinctColumnValues`, `rowMatchesFilters` and `renderColumnFilterRow` of
`ui/utils.js`, and of the tables of mails, DMARC reports and SMTP TLS reports, which differ in
their columns.  New rows reset the filters of a table, and in between the user chooses among
the values which the columns offer.
-/

namespace DmarcReportViewer.Ui.ColumnFilters

open LastWrites Runs

/-- A text of JavaScript, as its UTF-16 code units. -/
abbrev JsText : Type :=
  List UInt16

def unitsOf (char : Char) : JsText :=
  if char.toNat < 0x10000 then
    [UInt16.ofNat char.toNat]
  else
    [UInt16.ofNat (0xD800 + (char.toNat - 0x10000) / 0x400),
      UInt16.ofNat (0xDC00 + (char.toNat - 0x10000) % 0x400)]

def units (text : String) : JsText :=
  text.toList.flatMap unitsOf

/-- A value of a row which is not an array. -/
inductive Scalar where
  | undefined
  | null
  | number (value : Nat)
  | text (value : JsText)
deriving DecidableEq

/-- The function `String`. -/
def Scalar.string : Scalar → JsText
  | .undefined => units "undefined"
  | .null => units "null"
  | .number value => units value.repr
  | .text value => value

inductive Cell where
  | scalar (value : Scalar)
  | array (values : List Scalar)

def Cell.list : Cell → List Scalar
  | .scalar value => [value]
  | .array values => values

variable {ρ : Type}

structure Column (ρ : Type) where
  key : String
  filter : Bool := true
  value : ρ → Cell

/-- The selected value of each column.  A column without a filter has none. -/
abbrev FilterState : Type :=
  String → Option JsText

section Utils

/-- `add` of a set, which keeps its values in the order in which they were added. -/
def add (values : List JsText) (value : JsText) : List JsText :=
  if value ∈ values then values else values ++ [value]

/-- The body of the loop over the values of a cell. -/
def addValue (values : List JsText) (value : Scalar) : List JsText :=
  if value ≠ .undefined ∧ value ≠ .null ∧ value ≠ .text [] then
    add values value.string
  else
    values

/-- The comparison of the locale tells which of two texts may stand first. -/
def distinctColumnValues (collates : JsText → JsText → Bool) (rows : List ρ)
    (extractor : ρ → Cell) : List JsText :=
  let values := rows.foldl (fun values row => (extractor row).list.foldl addValue values) []
  values.mergeSort collates

def rowMatchesFilters (row : ρ) (columns : List (Column ρ)) (filterState : FilterState) : Bool :=
  columns.all fun column =>
    if column.filter = false then
      true
    else
      match filterState column.key with
      | none | some [] => true
      | some selected =>
          match column.value row with
          | .array values => (values.map Scalar.string).contains selected
          | .scalar raw => raw.string = selected

end Utils

structure Table (ρ : Type) where
  rows : List ρ
  filterState : FilterState

def Table.new : Table ρ where
  rows := []
  filterState := fun _ => none

def onFilterChange (filterState : FilterState) (key : String) (value : JsText) : FilterState :=
  let selected := if value = [] then none else some value
  fun other => if other = key then selected else filterState other

section Runs

variable (collates : JsText → JsText → Bool) (columns : List (Column ρ))

/-- Whether `renderColumnFilterRow` shows a list for the column in which the value can be
chosen.  The empty value stands for all. -/
def offers (rows : List ρ) (key : String) (value : JsText) : Bool :=
  columns.any fun column => column.key = key ∧ column.filter = true ∧
    (value = [] ∨ value ∈ distinctColumnValues collates rows column.value)

/-- Something that happens to a table: it gets new rows, or a value is chosen. -/
inductive Event (ρ : Type) where
  | load (rows : List ρ)
  | change (key : String) (value : JsText)

/-- A step of a table.  `updated` resets the filters before the next choice.  A value which is
not offered cannot be chosen. -/
def step (event : Event ρ) (table : Table ρ) : Table ρ :=
  match event with
  | .load rows => { rows := rows, filterState := fun _ => none }
  | .change key value =>
      if offers collates columns table.rows key value then
        { table with filterState := onFilterChange table.filterState key value }
      else
        table

/-- The rows which `render` shows. -/
def Table.shown (table : Table ρ) : List ρ :=
  table.rows.filter fun row => rowMatchesFilters row columns table.filterState

end Runs

section Tables

/-- The conventions of the browser's locale. -/
structure Locale where
  collates : JsText → JsText → Bool
  /-- `toLocaleString` of the date with a number of milliseconds. -/
  ofMilliseconds : Int → JsText
  /-- `toLocaleString` of the date which is read from the JSON form of a time. -/
  ofDateTime : DateTime → JsText

/-- `replace` with an expression which matches one of the patterns, without the global flag. -/
def replace (patterns : List String) (replacement : String) : JsText → JsText
  | [] => []
  | unit :: rest =>
      match patterns.find? fun pattern => (units pattern).isPrefixOf (unit :: rest) with
      | some pattern => units replacement ++ (unit :: rest).drop (units pattern).length
      | none => unit :: replace patterns replacement rest

def prepareSubject (subject : JsText) : JsText :=
  let subject := replace ["Report Domain: ", "Report domain: "] "D: " subject
  let subject := replace ["Submitter: "] "S: " subject
  let subject := replace ["Report-ID: "] "ID: " subject
  let subject := replace ["T00.00.00Z"] "" subject
  let limit := 70
  if subject.length ≤ limit then subject else subject.take limit ++ units "..."

def reportTypeText (mail : Mail) : String :=
  if mail.oversized then
    "n/a"
  else if mail.xmlFiles < 1 ∧ mail.jsonFiles < 1 then
    "None"
  else
    ", ".intercalate ((if mail.xmlFiles > 0 then ["DMARC"] else []) ++
      if mail.jsonFiles > 0 then ["TLS"] else [])

/-- The texts for a mail which was not loaded, for a mail with some of what the column counts
and for a mail without. -/
def yesNoText (mail : Mail) (some : Bool) : String :=
  if mail.oversized then "n/a" else if some then "Yes" else "No"

def duplicatesText (mail : Mail) : String :=
  yesNoText mail (mail.dmarcDuplicates.length > 0 ∨ mail.tlsDuplicates.length ≠ 0)

def parsingErrorText (mail : Mail) : String :=
  yesNoText mail (mail.xmlParsingErrors > 0 ∨ mail.jsonParsingErrors > 0)

/-- The texts of the problems which a report has. -/
def problemTexts (problems : List (Bool × String)) : String :=
  let problems := (problems.filter Prod.fst).map Prod.snd
  if problems.length ≠ 0 then ", ".intercalate problems else "None"

def text (value : String) : Cell :=
  .scalar (.text (units value))

def mailColumns (locale : Locale) : List (Column Mail) :=
  [{ key := "subject", value := fun mail => .scalar (.text (prepareSubject (units mail.subject))) },
    { key := "sender", value := fun mail => text mail.sender },
    { key := "date", value := fun mail =>
        .scalar (.text (locale.ofMilliseconds (mail.date * 1000))) },
    { key := "size", value := fun mail => .scalar (.number mail.size) },
    { key := "type", value := fun mail => text (reportTypeText mail) },
    { key := "duplicates", value := fun mail => text (duplicatesText mail) },
    { key := "errors", value := fun mail => text (parsingErrorText mail) }]

def dmarcReportColumns (locale : Locale) : List (Column DmarcReports.ReportHeader) :=
  [{ key := "id", filter := false, value := fun report => text report.id },
    { key := "org", value := fun report => text report.org },
    { key := "domain", value := fun report => text report.domain },
    { key := "problems", value := fun report => text (problemTexts
        [(report.flaggedDkim, "DKIM"), (report.flaggedSpf, "SPF"),
          (report.flaggedDmarc, "DMARC")]) },
    { key := "records", value := fun report => .scalar (.number report.records) },
    { key := "begin", value := fun report =>
        .scalar (.text (locale.ofMilliseconds (report.dateBegin.toNat * 1000))) },
    { key := "end", value := fun report =>
        .scalar (.text (locale.ofMilliseconds (report.dateEnd.toNat * 1000))) }]

def tlsReportColumns (locale : Locale) : List (Column TlsReports.ReportHeader) :=
  [{ key := "id", value := fun report => text report.id },
    { key := "org", value := fun report => text report.org },
    { key := "domains", value := fun report =>
        .array (report.domains.map fun domain => .text (units domain)) },
    { key := "problems", value := fun report => text (problemTexts
        [(report.flaggedSts, "MTA-STS"), (report.flaggedTlsa, "TLSA")]) },
    { key := "records", value := fun report => .scalar (.number report.records) },
    { key := "begin", value := fun report => .scalar (.text (locale.ofDateTime report.dateBegin)) },
    { key := "end", value := fun report => .scalar (.text (locale.ofDateTime report.dateEnd)) }]

/-- No two columns of a table share their filter. -/
theorem nodup_keys (locale : Locale) :
    ((mailColumns locale).map Column.key).Nodup ∧
      ((dmarcReportColumns locale).map Column.key).Nodup ∧
      ((tlsReportColumns locale).map Column.key).Nodup := by
  refine ⟨?_, ?_, ?_⟩ <;> simp [mailColumns, dmarcReportColumns, tlsReportColumns]

end Tables

section Specification

/-- The texts by which a filter of the column finds a row. -/
def Column.texts (column : Column ρ) (row : ρ) : List JsText :=
  (column.value row).list.map Scalar.string

/-- The texts of a row which the column offers. -/
def Column.offered (column : Column ρ) (row : ρ) : List JsText :=
  ((column.value row).list.filter fun value =>
    value ≠ .undefined ∧ value ≠ .null ∧ value ≠ .text []).map Scalar.string

/-- What happened since a table got its rows. -/
structure Log (ρ : Type) where
  rows : List ρ
  changes : List (String × JsText)

def Log.new : Log ρ where
  rows := []
  changes := []

def record (event : Event ρ) (log : Log ρ) : Log ρ :=
  match event with
  | .load rows => { rows := rows, changes := [] }
  | .change key value => { log with changes := log.changes ++ [(key, value)] }

variable (collates : JsText → JsText → Bool) (columns : List (Column ρ))

/-- The last choice for a column.  There is none if everything was chosen. -/
def lastChoice (made : List (String × JsText)) (key : String) : Option JsText :=
  (lastValue made key).filter fun value => value ≠ []

/-- The last choice for a column since the table got its rows. -/
def Log.choice (log : Log ρ) (key : String) : Option JsText :=
  lastChoice (log.changes.filter fun change => offers collates columns log.rows change.1 change.2)
    key

/-- A table shows the rows which were loaded last and have the chosen values.  Every choice
can be met, and what a column offers does not depend on the choices. -/
structure Shows (log : Log ρ) (table : Table ρ) : Prop where
  shown : table.shown columns = log.rows.filter fun row => columns.all fun column =>
    !column.filter || (log.choice collates columns column.key).all fun value =>
      value ∈ column.texts row
  found : ∀ key value, log.choice collates columns key = some value →
    ∃ column ∈ columns, column.key = key ∧ column.filter = true ∧
      ∃ row ∈ log.rows, value ∈ column.offered row
  nonempty : ∀ key value, log.choice collates columns key = some value →
    (∀ other, other ≠ key → log.choice collates columns other = none) →
      table.shown columns ≠ []
  offers : ∀ column ∈ columns, column.filter = true → ∀ value,
    offers collates columns table.rows column.key value ↔
      value = [] ∨ ∃ row ∈ log.rows, value ∈ column.offered row

end Specification

section Values

variable {collates : JsText → JsText → Bool} {columns : List (Column ρ)} {column : Column ρ}
  {rows : List ρ} {row : ρ}

theorem mem_addValues (values : List JsText) (scalars : List Scalar) (value : JsText) :
    value ∈ scalars.foldl addValue values ↔
      value ∈ values ∨ ∃ scalar ∈ scalars,
        (scalar ≠ .undefined ∧ scalar ≠ .null ∧ scalar ≠ .text []) ∧
          scalar.string = value := by
  induction scalars generalizing values with
  | nil => simp
  | cons scalar scalars ih =>
      rw [List.foldl_cons, ih]
      have step : value ∈ addValue values scalar ↔ value ∈ values ∨
          (scalar ≠ .undefined ∧ scalar ≠ .null ∧ scalar ≠ .text []) ∧
            scalar.string = value := by
        unfold addValue add
        split
        · next counts =>
            split
            · next present =>
                constructor
                · exact Or.inl
                · rintro (old | ⟨_, rfl⟩)
                  · exact old
                  · exact present
            · simp [counts, eq_comm]
        · next ignored => simp [ignored]
      rw [step, or_assoc]
      simp

theorem mem_distinctColumnValues {value : JsText} :
    value ∈ distinctColumnValues collates rows column.value ↔
      ∃ row ∈ rows, value ∈ column.offered row := by
  have loop : ∀ values : List JsText,
      value ∈
          rows.foldl (fun values row => (column.value row).list.foldl addValue values) values ↔
        value ∈ values ∨ ∃ row ∈ rows, value ∈ column.offered row := by
    induction rows with
    | nil => simp
    | cons row rows ih =>
        intro values
        rw [List.foldl_cons, ih, mem_addValues]
        simp [Column.offered, or_assoc, and_assoc]
  rw [distinctColumnValues, (List.mergeSort_perm _ _).mem_iff, loop]
  simp

/-- A filter finds the rows of the values which it offers. -/
theorem offered_subset_texts : column.offered row ⊆ column.texts row :=
  List.map_subset _ (List.filter_subset_self _)

theorem rowMatchesFilters_eq {filterState : FilterState}
    (proper : ∀ key, filterState key ≠ some []) :
    rowMatchesFilters row columns filterState = columns.all fun column =>
      !column.filter || (filterState column.key).all fun value => value ∈ column.texts row := by
  unfold rowMatchesFilters
  congr
  funext column
  cases filtered : column.filter with
  | false => simp
  | true =>
      cases selection : filterState column.key with
      | none => simp
      | some selected =>
          cases selected with
          | nil => exact absurd selection (proper column.key)
          | cons unit rest =>
              cases cell : column.value row with
              | scalar raw => simp [Column.texts, Cell.list, cell, eq_comm]
              | array values => simp [Column.texts, Cell.list, cell]

theorem offers_iff (distinct : (columns.map Column.key).Nodup) (member : column ∈ columns)
    (filtered : column.filter = true) {value : JsText} :
    offers collates columns rows column.key value ↔
      value = [] ∨ ∃ row ∈ rows, value ∈ column.offered row := by
  rw [offers, List.any_eq_true, ← @mem_distinctColumnValues _ collates]
  constructor
  · rintro ⟨other, otherMem, found⟩
    have found := of_decide_eq_true found
    rw [List.inj_on_of_nodup_map distinct otherMem member found.1] at found
    exact found.2.2
  · intro found
    exact ⟨column, member, decide_eq_true ⟨rfl, filtered, found⟩⟩

end Values

section Choices

variable {collates : JsText → JsText → Bool} {columns : List (Column ρ)} {log : Log ρ}
  {table : Table ρ} {key other : String} {value : JsText}

theorem onFilterChange_eq_some {filterState : FilterState} {chosen : JsText}
    (active : onFilterChange filterState key value other = some chosen) :
    (other = key ∧ chosen = value ∧ value ≠ []) ∨ filterState other = some chosen := by
  unfold onFilterChange at active
  split at active
  · next same =>
      split at active
      · cases active
      · next some =>
          cases active
          exact Or.inl ⟨same, rfl, some⟩
  · exact Or.inr active

theorem lastChoice_concat (made : List (String × JsText)) (key : String) (value : JsText) :
    lastChoice (made ++ [(key, value)]) = onFilterChange (lastChoice made) key value := by
  funext other
  rw [lastChoice, lastValue_concat]
  by_cases same : key = other
  · subst same
    by_cases all : value = [] <;> simp [onFilterChange, all, Option.filter]
  · simp [onFilterChange, lastChoice, same, Ne.symm same]

theorem choice_change : (record (.change key value) log).choice collates columns =
    if offers collates columns log.rows key value then
      onFilterChange (log.choice collates columns) key value
    else
      log.choice collates columns := by
  funext other
  unfold record Log.choice
  simp only [List.filter_append]
  cases offered : offers collates columns log.rows key value with
  | false => simp [offered]
  | true =>
      simp only [offered, List.filter_cons_of_pos, List.filter_nil, lastChoice_concat, if_true]

/-- A choice is among the changes which were made. -/
theorem mem_of_lastChoice {made : List (String × JsText)}
    (chosen : lastChoice made key = some value) : value ≠ [] ∧ (key, value) ∈ made := by
  rcases Option.filter_eq_some_iff.mp chosen with ⟨last, some⟩
  rcases Option.map_eq_some_iff.mp last with ⟨change, found, rfl⟩
  have member := List.mem_filter.mp (List.mem_of_getLast? found)
  rw [← of_decide_eq_true member.2]
  exact ⟨of_decide_eq_true some, member.1⟩

/-- A choice was offered when it was made. -/
theorem offers_of_choice (chosen : log.choice collates columns key = some value) :
    value ≠ [] ∧ offers collates columns log.rows key value := by
  rcases mem_of_lastChoice chosen with ⟨some, member⟩
  exact ⟨some, (List.mem_filter.mp member).2⟩

/-- The state of a table follows from what happened since it got its rows. -/
structure Follows (collates : JsText → JsText → Bool) (columns : List (Column ρ))
    (log : Log ρ) (table : Table ρ) : Prop where
  rows : table.rows = log.rows
  filterState : table.filterState = log.choice collates columns

theorem follows_step (follows : Follows collates columns log table) (event : Event ρ) :
    Follows collates columns (record event log) (step collates columns event table) := by
  cases event with
  | load rows =>
      constructor
      · rfl
      · rfl
  | change key value =>
      have step_eq : step collates columns (.change key value) table =
          if offers collates columns log.rows key value then
            { table with filterState := onFilterChange table.filterState key value }
          else
            table := by
        rw [← follows.rows]
        rfl
      rw [step_eq]
      constructor
      · rw [apply_ite Table.rows, ite_self]
        exact follows.rows
      · rw [choice_change, apply_ite Table.filterState, follows.filterState]

theorem follows_run (events : List (Event ρ)) :
    Follows collates columns (run record events Log.new)
      (run (step collates columns) events Table.new) := by
  induction events using List.reverseRecOn with
  | nil =>
      constructor
      · rfl
      · rfl
  | append_singleton events event ih =>
      rw [run_concat, run_concat]
      exact follows_step ih event

theorem shown_of_follows (follows : Follows collates columns log table) :
    table.shown columns = log.rows.filter fun row => columns.all fun column =>
      !column.filter || (log.choice collates columns column.key).all fun value =>
        value ∈ column.texts row := by
  have proper : ∀ key, table.filterState key ≠ some [] := by
    intro key empty
    rw [follows.filterState] at empty
    exact (offers_of_choice empty).1 rfl
  rw [Table.shown, follows.rows]
  congr
  funext row
  rw [rowMatchesFilters_eq proper]
  simp only [follows.filterState]

theorem shows_of_follows (distinct : (columns.map Column.key).Nodup)
    (follows : Follows collates columns log table) : Shows collates columns log table := by
  have found : ∀ key value, log.choice collates columns key = some value →
      ∃ column ∈ columns, column.key = key ∧ column.filter = true ∧
        ∃ row ∈ log.rows, value ∈ column.offered row := by
    intro key value chosen
    rcases offers_of_choice chosen with ⟨some, offered⟩
    rcases List.any_eq_true.mp offered with ⟨column, member, choice⟩
    rcases of_decide_eq_true choice with ⟨same, filtered, all | listed⟩
    · exact absurd all some
    · exact ⟨column, member, same, filtered, mem_distinctColumnValues.mp listed⟩
  constructor
  case shown => exact shown_of_follows follows
  case found => exact found
  case nonempty =>
    intro key value chosen alone empty
    rcases found key value chosen with ⟨column, member, rfl, filtered, row, rowMem, offered⟩
    have rowShown : row ∈ table.shown columns := by
      rw [shown_of_follows follows, List.mem_filter]
      refine ⟨rowMem, List.all_eq_true.mpr ?_⟩
      intro other otherMem
      by_cases same : other.key = column.key
      · rw [List.inj_on_of_nodup_map distinct otherMem member same, chosen]
        simp [offered_subset_texts offered]
      · simp [alone other.key same]
    rw [empty] at rowShown
    cases rowShown
  case offers =>
    intro column member filtered value
    rw [follows.rows]
    exact offers_iff distinct member filtered

/-- What a table shows after new rows and choices in any order. -/
theorem shows_of_run (distinct : (columns.map Column.key).Nodup) (events : List (Event ρ)) :
    Shows collates columns (run record events Log.new)
      (run (step collates columns) events Table.new) :=
  shows_of_follows distinct (follows_run events)

end Choices

def sampleLocale : Locale where
  collates := fun _ _ => true
  ofMilliseconds := fun _ => units "1/1/1970"
  ofDateTime := fun _ => units "1/1/1970"

def sampleHeader (org : String) (domains : List String) : TlsReports.ReportHeader where
  hash := "h"
  id := "1"
  org := org
  domains := domains
  dateBegin := 0
  dateEnd := 0
  records := 1
  flaggedSts := false
  flaggedTlsa := false
  flagged := false

def sampleEvents : List (Event TlsReports.ReportHeader) :=
  [.load [sampleHeader "a" ["a.org", "b.org"], sampleHeader "b" ["b.org"]],
    .change "domains" (units "b.org"), .change "org" (units "a"), .change "domains" []]

theorem shows_of_run_sample :
    Shows sampleLocale.collates (tlsReportColumns sampleLocale)
      (run record sampleEvents Log.new)
      (run (step sampleLocale.collates (tlsReportColumns sampleLocale)) sampleEvents Table.new) :=
  shows_of_run (nodup_keys sampleLocale).2.2 sampleEvents

example : prepareSubject (units "Report domain: a.org Submitter: b.org Report-ID: 1T00.00.00Z") =
    units "D: a.org S: b.org ID: 1" := by
  decide +kernel

end DmarcReportViewer.Ui.ColumnFilters

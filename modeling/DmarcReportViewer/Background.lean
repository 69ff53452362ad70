import DmarcReportViewer.Imap

/-!
# The background update

The model of `background.rs`.  One update fetches all mails, extracts their
report files into two maps keyed by the hash of a file, parses these files in
the order of their hashes and replaces the results in the application state.
The two parsing loops of the source differ only in the report type and in the
counters they use, so both are instances of `parseFile`.
-/

namespace DmarcReportViewer

open Collections Text

/-- What the `get_mails` calls of one update return.  A call which panics ends the
background task for good and leaves the state as it is, so that there is no update. -/
structure Inbox where
  dmarc : Result (HashMap String Mail)
  tls : Result (HashMap String Mail)
  default : Result (HashMap String Mail)

/-- The inbox is what sessions with an IMAP server delivered for the folders
of the configuration. -/
structure Inbox.FromImap (env : Externals) (config : Configuration) (inbox : Inbox) : Prop where
  dmarc : ∀ folder, config.imapFolderDmarc = some folder →
    ∃ session, (getMails env config session folder).run = some inbox.dmarc
  tls : ∀ folder, config.imapFolderTls = some folder →
    ∃ session, (getMails env config session folder).run = some inbox.tls
  default : config.imapFolderDmarc = none → config.imapFolderTls = none →
    ∃ session, (getMails env config session config.imapFolder).run = some inbox.default

/-- The iteration orders of the hash maps of an inbox. -/
structure Inbox.Order where
  dmarc : IterationOrder String Mail
  tls : IterationOrder String Mail
  default : IterationOrder String Mail

/-- One run of an update: everything that it reads from outside of the state. -/
structure Attempt (env : Externals) where
  config : Configuration
  inbox : Inbox
  fromImap : inbox.FromImap env config
  order : Inbox.Order
  clock : Result UInt64
  elapsed : Float

/-- Add the mails of a folder if the folder is to be searched. -/
def extendMails (wanted : Bool) (order : IterationOrder String Mail)
    (folderMails : Result (HashMap String Mail)) (message : String)
    (mails : BTreeMap String Mail) : Result (BTreeMap String Mail) :=
  if wanted then do
    let new ← folderMails.context message
    return mails.insertMany (iterate order new)
  else
    .ok mails

def fetchMails (config : Configuration) (inbox : Inbox) (order : Inbox.Order) :
    Result (BTreeMap String Mail) := do
  let mails ← extendMails config.imapFolderDmarc.isSome order.dmarc inbox.dmarc
    "Failed to get mails from DMARC folder" ∅
  let mails ← extendMails config.imapFolderTls.isSome order.tls inbox.tls
    "Failed to get mails from TLS folder" mails
  extendMails (config.imapFolderDmarc.isNone && config.imapFolderTls.isNone) order.default
    inbox.default "Failed to get mails" mails

/-- The mails and the extracted files by their hashes. -/
structure Collection where
  mails : BTreeMap String Mail
  xmlFiles : BTreeMap String ReportFile
  jsonFiles : BTreeMap String ReportFile

def Collection.insertFile (collection : Collection) (file : ReportFile) : Collection :=
  match file.fileType with
  | .xml => { collection with xmlFiles := collection.xmlFiles.insert file.hash file }
  | .json => { collection with jsonFiles := collection.jsonFiles.insert file.hash file }

/-- Collect the files of one mail: a mail without a body is left as it is, and
a failed extraction only consumes the body. -/
def collectMail (env : Externals) (config : Configuration) (collection : Collection)
    (entry : String × Mail) : Collection :=
  match entry.2.body with
  | none => collection
  | some _ =>
      let extracted := extractReportFiles env entry.2 config
      match extracted.1 with
      | .ok files =>
          let mail := files.foldl (fun mail file => mail.countFile file.fileType) extracted.2
          let collection := files.foldl Collection.insertFile collection
          { collection with mails := collection.mails.insert entry.1 mail }
      | .error _ => { collection with mails := collection.mails.insert entry.1 extracted.2 }

def collectFiles (env : Externals) (config : Configuration) (mails : BTreeMap String Mail) :
    Collection :=
  mails.toList.foldl (collectMail env config) { mails := mails, xmlFiles := ∅, jsonFiles := ∅ }

/-- A report type: its files, its parser, and what identifies a report. -/
structure ReportKind (ρ : Type) where
  fileType : FileType
  fromSlice : List UInt8 → Result ρ
  organization : ρ → String
  reportId : ρ → String

def dmarcKind (env : Externals) : ReportKind Dmarc.Report where
  fileType := .xml
  fromSlice := Dmarc.Report.fromSlice env.xmlFromReader
  organization report := report.reportMetadata.orgName
  reportId report := report.reportMetadata.reportId

def tlsKind (env : Externals) : ReportKind Tls.Report where
  fileType := .json
  fromSlice := Tls.Report.fromSlice env.jsonFromSlice
  organization report := report.organizationName
  reportId report := report.reportId

/-- The report type of a file type. -/
def kindOf (env : Externals) : (fileType : FileType) → ReportKind (ReportOf fileType)
  | .json => tlsKind env
  | .xml => dmarcKind env

@[simp]
theorem fileType_kindOf (env : Externals) (fileType : FileType) :
    (kindOf env fileType).fileType = fileType := by
  cases fileType <;> rfl

/-- The key of the duplicate filter. -/
def ReportKind.duplKey {ρ : Type} (kind : ReportKind ρ) (report : ρ) : String :=
  kind.organization report ++ kind.reportId report

/-- The state of a parsing loop. -/
structure ParseState (ρ : Type) where
  mails : BTreeMap String Mail
  parsingErrors : HashMap String (List ReportParsingError)
  reports : BTreeMap String (ReportWithMailId ρ)
  duplicationMap : HashMap String String

def ParseState.start (ρ : Type) (mails : BTreeMap String Mail)
    (parsingErrors : HashMap String (List ReportParsingError)) : ParseState ρ where
  mails := mails
  parsingErrors := parsingErrors
  reports := ∅
  duplicationMap := ∅

/-- The key of a report in the state: the hash of its file and its mail. -/
def reportHash (env : Externals) (file : ReportFile) : String :=
  createHash env.sha256 [file.data, asBytes file.mailId]

def pushError (env : Externals) (file : ReportFile) (fileType : FileType) (error : String)
    (parsingErrors : HashMap String (List ReportParsingError)) :
    HashMap String (List ReportParsingError) :=
  let entry := { error := error, report := env.fromUtf8Lossy file.data, kind := fileType }
  parsingErrors.insert file.mailId ((parsingErrors[file.mailId]?).getD [] ++ [entry])

/-- The body of a parsing loop. -/
def parseFile {ρ : Type} (env : Externals) (kind : ReportKind ρ) (config : Configuration)
    (state : ParseState ρ) (file : ReportFile) : Result (ParseState ρ) :=
  match kind.fromSlice file.data with
  | .ok report =>
      let rwi := { mailId := file.mailId, report := report }
      let hash := reportHash env file
      if !config.disableDuplicateFilter then
        match state.duplicationMap[kind.duplKey report]? with
        | some foundHash =>
            .ok { state with
              mails := state.mails.modify file.mailId fun mail =>
                mail.pushDuplicate kind.fileType foundHash }
        | none =>
            .ok { state with
              duplicationMap := state.duplicationMap.insert (kind.duplKey report) hash
              reports := state.reports.insert hash rwi }
      else
        .ok { state with reports := state.reports.insert hash rwi }
  | .error error => do
      let mail ← orError state.mails[file.mailId]? "Failed to find mail"
      return { state with
        parsingErrors := pushError env file kind.fileType error state.parsingErrors
        mails := state.mails.insert file.mailId (mail.countParsingError kind.fileType) }

def parseFiles {ρ : Type} (env : Externals) (kind : ReportKind ρ) (config : Configuration)
    (files : List ReportFile) (state : ParseState ρ) : Result (ParseState ρ) :=
  files.foldlM (parseFile env kind config) state

def parseXmlFiles (env : Externals) (config : Configuration)
    (xmlFiles : BTreeMap String ReportFile) (mails : BTreeMap String Mail)
    (parsingErrors : HashMap String (List ReportParsingError)) :
    Result (ParseState Dmarc.Report) :=
  parseFiles env (dmarcKind env) config (valueList xmlFiles)
    (ParseState.start Dmarc.Report mails parsingErrors)

def parseJsonFiles (env : Externals) (config : Configuration)
    (jsonFiles : BTreeMap String ReportFile) (mails : BTreeMap String Mail)
    (parsingErrors : HashMap String (List ReportParsingError)) :
    Result (ParseState Tls.Report) :=
  parseFiles env (tlsKind env) config (valueList jsonFiles)
    (ParseState.start Tls.Report mails parsingErrors)

/-- The results of an update before they are moved into the state. -/
structure Processed where
  mails : BTreeMap String Mail
  dmarcReports : BTreeMap String DmarcReportWithMailId
  tlsReports : BTreeMap String TlsReportWithMailId
  xmlFiles : Nat
  jsonFiles : Nat
  parsingErrors : HashMap String (List ReportParsingError)
deriving DecidableEq

def processMails (env : Externals) (config : Configuration) (mails : BTreeMap String Mail) :
    Result Processed := do
  let collection := collectFiles env config mails
  let dmarc ← parseXmlFiles env config collection.xmlFiles collection.mails ∅
  let tls ← parseJsonFiles env config collection.jsonFiles dmarc.mails dmarc.parsingErrors
  return {
    mails := tls.mails
    dmarcReports := dmarc.reports
    tlsReports := tls.reports
    xmlFiles := collection.xmlFiles.size
    jsonFiles := collection.jsonFiles.size
    parsingErrors := tls.parsingErrors }

/-- Everything an update does before it locks the state. -/
def prepareUpdate (env : Externals) (attempt : Attempt env) : Result (Processed × UInt64) := do
  let mails ← fetchMails attempt.config attempt.inbox attempt.order
  let processed ← processMails env attempt.config mails
  let timestamp ← attempt.clock.context "Failed to get Unix time stamp"
  return (processed, timestamp)

/-- Replace the results in the state and detect which mails are new. -/
def replaceState (processed : Processed) (timestamp : UInt64) (elapsed : Float)
    (state : AppState) : List String × AppState :=
  let oldMails := state.mails.keys
  let state := { state with
    dmarcReports := processed.dmarcReports
    tlsReports := processed.tlsReports
    lastUpdate := timestamp
    xmlFiles := processed.xmlFiles
    jsonFiles := processed.jsonFiles
    parsingErrors := processed.parsingErrors
    mails := processed.mails
    lastUpdateDuration := elapsed }
  let newMails := state.mails.keys
  if state.firstUpdate then
    ([], { state with firstUpdate := false })
  else
    (newMails.filter fun id => !oldMails.contains id, state)

/-- Execute an update.  The result lists the IDs of all new mails. -/
def bgUpdate (env : Externals) (attempt : Attempt env) (state : AppState) :
    Result (List String) × AppState :=
  match prepareUpdate env attempt with
  | .error error => (.error error, state)
  | .ok (processed, timestamp) =>
      let replaced := replaceState processed timestamp attempt.elapsed state
      (.ok replaced.1, replaced.2)

end DmarcReportViewer

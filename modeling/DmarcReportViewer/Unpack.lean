import DmarcReportViewer.Config
import DmarcReportViewer.Externals
import DmarcReportViewer.Lib.Fallible
import DmarcReportViewer.State

/-!
# Extraction of report files from mails

The model of `unpack.rs`.  A mail is split into MIME parts.  The content type
of a part decides whether it is read as ZIP archive, compressed file or plain
file, and the folder of the mail decides which report types are expected.
-/

namespace DmarcReportViewer

open Fallible Text

structure FileDataWithType where
  fileType : FileType
  data : List UInt8
deriving DecidableEq

/-- An unparsed report file.  The hash is taken over its data and the UID of
its mail. -/
structure ReportFile where
  fileType : FileType
  mailId : String
  data : List UInt8
  hash : String
deriving DecidableEq

/-- The little-endian bytes of a 32-bit number. -/
def toLeBytes (number : UInt32) : List UInt8 :=
  [number.toUInt8, (number >>> 8).toUInt8, (number >>> 16).toUInt8, (number >>> 24).toUInt8]

def getReportsFromZip (env : Externals) (zipBytes : List UInt8) :
    Result (List FileDataWithType) := do
  let archive ← (env.zipArchive zipBytes).context "Failed to binary data as ZIP"
  archive.foldlM (fun files entry => do
    let file ← entry.context "Unable to get file from ZIP"
    let lowerFileName := env.toLowercase file.name
    if endsWith lowerFileName ".json" then
      let jsonFile ← file.contents.context "Failed to read JSON from ZIP"
      return files ++ [{ fileType := .json, data := jsonFile }]
    else if endsWith lowerFileName ".xml" then
      let xmlFile ← file.contents.context "Failed to read XML from ZIP"
      return files ++ [{ fileType := .xml, data := xmlFile }]
    else
      return files) []

structure MergeState where
  outBuffer : String
  nameBuffer : String
  next : Nat
deriving DecidableEq

def mergeSegment (state : MergeState) (segment : String) : MergeState :=
  let nextPrefix := "name*" ++ toString state.next ++ "="
  match stripPrefix (trim segment) nextPrefix with
  | some candidate =>
      let candidate := if endsWith candidate ";" then pop candidate else candidate
      let candidate :=
        if 2 < candidate.utf8ByteSize ∧ startsWith candidate "\"" ∧ endsWith candidate "\"" then
          pop (removeFirst candidate)
        else
          candidate
      { state with nameBuffer := state.nameBuffer ++ candidate, next := state.next + 1 }
  | none =>
      if state.outBuffer = "" then
        { state with outBuffer := segment }
      else
        { state with outBuffer := state.outBuffer ++ "; " ++ segment }

/-- Merge the name of a content type which is split into numbered parts. -/
def mergeNameParts (value : String) : String :=
  let merged := (split (trim value) "; ").foldl mergeSegment
    { outBuffer := "", nameBuffer := "", next := 0 }
  if merged.nameBuffer = "" then
    merged.outBuffer
  else
    merged.outBuffer ++ "; name=\"" ++ merged.nameBuffer ++ "\""

def getReportFromGz (env : Externals) (gzBytes : List UInt8) : Result (List UInt8) :=
  (env.gzDecode gzBytes).context "Failed to read file from GZ archive"

def expectAll (config : Configuration) : Bool :=
  config.imapFolderDmarc.isNone && config.imapFolderTls.isNone

def expectDmarcReport (config : Configuration) (mail : Mail) : Bool :=
  expectAll config || config.imapFolderDmarc == some mail.folder

def expectTlsReport (config : Configuration) (mail : Mail) : Bool :=
  expectAll config || config.imapFolderTls == some mail.folder

/-- Whether files of a type are expected in a mail. -/
def expects (config : Configuration) (mail : Mail) : FileType → Bool
  | .xml => expectDmarcReport config mail
  | .json => expectTlsReport config mail

def isZip (contentType : String) : Bool :=
  contains contentType "application/zip" ||
    contains contentType "application/zip-compressed" ||
    contains contentType "application/x-zip-compressed" ||
    contains contentType "application/octet-stream" && contains contentType ".zip"

def isGzippedXml (contentType : String) : Bool :=
  contains contentType "application/gzip" || contains contentType "application/x-gzip" ||
    (contains contentType "application/octet-stream" && contains contentType ".xml.gz")

def isXml (contentType : String) : Bool :=
  contains contentType "text/xml" ||
    (contains contentType "application/octet-stream" && contains contentType ".xml")

def isGzippedJson (contentType : String) : Bool :=
  contains contentType "application/tlsrpt+gzip"

def isJson (contentType : String) : Bool :=
  contains contentType "application/tlsrpt+json" || contains contentType "application/json"

def reportFile (env : Externals) (mail : Mail) (fileType : FileType) (data : List UInt8) :
    ReportFile where
  fileType := fileType
  mailId := mail.id
  data := data
  hash := createHash env.sha256 [data, toLeBytes mail.uid]

/-- The report files of one MIME part. -/
def partFiles (env : Externals) (mail : Mail) (config : Configuration) (part : MailPart) :
    Result (List ReportFile) :=
  match part.contentType with
  | none => .ok []
  | some contentType => do
      let contentType := mergeNameParts contentType
      if isZip contentType then
        let body ← part.bodyRaw.context "Failed to get raw body of attachment part"
        let reportFilesZip ← (getReportsFromZip env body).context
          "Failed to extract reports from ZIP attachment"
        return (reportFilesZip.filter fun report =>
            (report.fileType == .xml && expectDmarcReport config mail) ||
              (report.fileType == .json && expectTlsReport config mail)).map
          fun report => reportFile env mail report.fileType report.data
      else if expectDmarcReport config mail && isGzippedXml contentType then
        let body ← part.bodyRaw.context "Failed to get raw body of attachment part"
        let xml ← (getReportFromGz env body).context "Failed to extract XML from GZ attachment"
        return [reportFile env mail .xml xml]
      else if expectDmarcReport config mail && isXml contentType then
        let xml ← part.bodyRaw.context "Failed to get raw body of attachment part"
        return [reportFile env mail .xml xml]
      else if expectTlsReport config mail && isGzippedJson contentType then
        let body ← part.bodyRaw.context "Failed to get raw body of attachment part"
        let json ← (getReportFromGz env body).context "Failed to extract JSON from GZ attachment"
        return [reportFile env mail .json json]
      else if expectTlsReport config mail && isJson contentType then
        let json ← part.bodyRaw.context "Failed to get raw body of attachment part"
        return [reportFile env mail .json json]
      else
        return []

/-- The report files of a mail, and the mail after its body was consumed. -/
def extractReportFiles (env : Externals) (mail : Mail) (config : Configuration) :
    Result (List ReportFile) × Mail :=
  match mail.body with
  | none => (.error "Missing mail body", mail)
  | some body =>
      let files := do
        let parts ← (env.parseMail body).context "Failed to parse mail body"
        parts.foldlM (fun reportFiles part => do
          let files ← partFiles env mail config part
          return reportFiles ++ files) []
      (files, { mail with body := none })

@[simp]
theorem length_toLeBytes (number : UInt32) : (toLeBytes number).length = 4 :=
  rfl

theorem toLeBytes_injective : Function.Injective toLeBytes := by
  intro left right same
  simp only [toLeBytes, List.cons.injEq, and_true, ← UInt8.toNat_inj, UInt32.toNat_toUInt8,
    UInt32.toNat_shiftRight] at same
  rcases same with ⟨first, second, third, fourth⟩
  have leftBound := left.toNat_lt
  have rightBound := right.toNat_lt
  apply UInt32.toNat_inj.mp
  simp [Nat.shiftRight_eq_div_pow] at second third fourth
  omega

section Origin

variable {env : Externals} {config : Configuration} {mail : Mail}

/-- A file which stems from a mail and is expected in it. -/
def StemsFrom (env : Externals) (config : Configuration) (mail : Mail) (file : ReportFile) :
    Prop :=
  file = reportFile env mail file.fileType file.data ∧ expects config mail file.fileType = true

theorem stemsFrom_reportFile {fileType : FileType} {data : List UInt8}
    (expected : expects config mail fileType = true) :
    StemsFrom env config mail (reportFile env mail fileType data) :=
  ⟨rfl, expected⟩

theorem stemsFrom_of_mem_singleton {fileType : FileType} {data : List UInt8}
    {file : ReportFile} (member : file ∈ [reportFile env mail fileType data])
    (expected : expects config mail fileType = true) : StemsFrom env config mail file := by
  rw [List.mem_singleton.mp member]
  exact stemsFrom_reportFile expected

theorem stemsFrom_of_mem_partFiles {part : MailPart} {files : List ReportFile}
    (extracted : partFiles env mail config part = .ok files) {file : ReportFile}
    (member : file ∈ files) : StemsFrom env config mail file := by
  unfold partFiles at extracted
  split at extracted
  · cases extracted
    cases member
  · next contentType _ =>
      simp only at extracted
      split_ifs at extracted with zip gzippedXml xml gzippedJson json
      · simp only [bind_eq_ok_iff, pure_eq_ok_iff] at extracted
        rcases extracted with ⟨_, _, reports, _, rfl⟩
        simp only [List.mem_map, List.mem_filter] at member
        rcases member with ⟨report, ⟨_, selected⟩, rfl⟩
        apply stemsFrom_reportFile
        cases fileType : report.fileType <;> simpa [fileType, expects] using selected
      · simp only [bind_eq_ok_iff, pure_eq_ok_iff] at extracted
        rcases extracted with ⟨_, _, data, _, rfl⟩
        exact stemsFrom_of_mem_singleton member (Bool.and_eq_true_iff.mp gzippedXml).1
      · simp only [bind_eq_ok_iff, pure_eq_ok_iff] at extracted
        rcases extracted with ⟨data, _, rfl⟩
        exact stemsFrom_of_mem_singleton member (Bool.and_eq_true_iff.mp xml).1
      · simp only [bind_eq_ok_iff, pure_eq_ok_iff] at extracted
        rcases extracted with ⟨_, _, data, _, rfl⟩
        exact stemsFrom_of_mem_singleton member (Bool.and_eq_true_iff.mp gzippedJson).1
      · simp only [bind_eq_ok_iff, pure_eq_ok_iff] at extracted
        rcases extracted with ⟨data, _, rfl⟩
        exact stemsFrom_of_mem_singleton member (Bool.and_eq_true_iff.mp json).1
      · simp only [pure_eq_ok_iff] at extracted
        subst extracted
        cases member

@[simp]
theorem extractReportFiles_snd :
    (extractReportFiles env mail config).2 = { mail with body := none } := by
  simp only [extractReportFiles]
  split
  · next missing => cases mail; simp_all
  · rfl

theorem stemsFrom_of_mem_extractReportFiles {files : List ReportFile}
    (extracted : (extractReportFiles env mail config).1 = .ok files) {file : ReportFile}
    (member : file ∈ files) : StemsFrom env config mail file := by
  simp only [extractReportFiles] at extracted
  split at extracted
  · cases extracted
  · simp only [bind_eq_ok_iff] at extracted
    rcases extracted with ⟨parts, _, collected⟩
    -- The files collected so far are the invariant of the loop over the parts.
    have all := foldlM_invariant
      (fun reportFiles => ∀ file ∈ reportFiles, StemsFrom env config mail file)
      (by simp) (by
        intro reportFiles part next _ earlier stepped other otherMem
        simp only [bind_eq_ok_iff, pure_eq_ok_iff] at stepped
        rcases stepped with ⟨found, foundOk, rfl⟩
        rcases List.mem_append.mp otherMem with old | new
        · exact earlier other old
        · exact stemsFrom_of_mem_partFiles foundOk new) collected
    exact all file member

/-- The files which a mail contributes to an update: none if it has no body or
if the extraction fails. -/
def filesOf (env : Externals) (config : Configuration) (mail : Mail) : List ReportFile :=
  match mail.body, (extractReportFiles env mail config).1 with
  | some _, .ok files => files
  | _, _ => []

theorem stemsFrom_of_mem_filesOf {file : ReportFile} (member : file ∈ filesOf env config mail) :
    StemsFrom env config mail file := by
  simp only [filesOf] at member
  split at member
  · next extracted => exact stemsFrom_of_mem_extractReportFiles extracted member
  · cases member

end Origin

end DmarcReportViewer

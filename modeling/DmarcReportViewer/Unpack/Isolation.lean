import DmarcReportViewer.Background.Accounting

/-!
# Isolation of mail parts

The loops over the parts of a mail and over the entries of a ZIP archive stop at the
first error.  So what a mail contributes is what its parts yield on their own, unless
one of them is damaged and another one is not.
-/

namespace DmarcReportViewer

open Fallible

section Yields

/-- The report files which a MIME part yields on its own. -/
def partYield (env : Externals) (mail : Mail) (config : Configuration) (part : MailPart) :
    List ReportFile :=
  contribution (partFiles env mail config part)

/-- The body of the loop over the entries of a ZIP archive. -/
def entryFiles (env : Externals) (entry : Result ZipEntry) : Result (List FileDataWithType) := do
  let file ← entry.context "Unable to get file from ZIP"
  let lowerFileName := env.toLowercase file.name
  if Text.endsWith lowerFileName ".json" then
    let jsonFile ← file.contents.context "Failed to read JSON from ZIP"
    return [{ fileType := .json, data := jsonFile }]
  else if Text.endsWith lowerFileName ".xml" then
    let xmlFile ← file.contents.context "Failed to read XML from ZIP"
    return [{ fileType := .xml, data := xmlFile }]
  else
    return []

/-- The files of a ZIP archive, without the entries which cannot be opened or read. -/
def archiveYield (env : Externals) (zipBytes : List UInt8) : List FileDataWithType :=
  match env.zipArchive zipBytes with
  | .ok archive => archive.flatMap fun entry => contribution (entryFiles env entry)
  | .error _ => []

/-- The report files which a MIME part yields on its own, if the entries of an archive
stand on their own, too. -/
def salvage (env : Externals) (mail : Mail) (config : Configuration) (part : MailPart) :
    List ReportFile :=
  match part.contentType, part.bodyRaw with
  | some contentType, .ok body =>
      if isZip (mergeNameParts contentType) then
        ((archiveYield env body).filter fun report => expects config mail report.fileType).map
          fun report => reportFile env mail report.fileType report.data
      else
        partYield env mail config part
  | _, _ => partYield env mail config part

end Yields

section Isolation

variable {env : Externals} {mail : Mail} {config : Configuration} {body : List UInt8}
  {parts : List MailPart} {part : MailPart}

theorem getReportsFromZip_eq (zipBytes : List UInt8) :
    getReportsFromZip env zipBytes =
      (env.zipArchive zipBytes).context "Failed to binary data as ZIP" >>= fun archive =>
        archive.foldlM (fun files entry => do
          let found ← entryFiles env entry
          return files ++ found) [] := by
  unfold getReportsFromZip
  congr 1
  funext archive
  congr 1
  funext files entry
  unfold entryFiles
  cases entry with
  | error error => rfl
  | ok file =>
      simp only [Result.context, bind, Except.bind]
      split_ifs
      · cases file.contents <;> rfl
      · cases file.contents <;> rfl
      · exact congrArg Except.ok (List.append_nil files).symm

/-- An archive without damage yields all its files. -/
theorem archiveYield_eq {zipBytes : List UInt8} {files : List FileDataWithType}
    (extracted : getReportsFromZip env zipBytes = .ok files) :
    archiveYield env zipBytes = files := by
  rw [getReportsFromZip_eq, bind_eq_ok_iff] at extracted
  rcases extracted with ⟨archive, opened, collected⟩
  rw [context_eq_ok_iff] at opened
  rw [archiveYield, opened, (foldlM_append_eq_ok_iff.mp collected).2, List.nil_append]

/-- A part without damage yields the same with and without damaged entries. -/
theorem salvage_eq {files : List ReportFile}
    (extracted : partFiles env mail config part = .ok files) :
    salvage env mail config part = files := by
  have whole : partYield env mail config part = files := by
    rw [partYield, extracted, contribution_ok]
  unfold salvage
  split
  · next contentType body named decoded =>
      split
      · next zip =>
          rw [partFiles, named] at extracted
          simp only [zip, if_true, decoded, bind_eq_ok_iff, context_eq_ok_iff,
            pure_eq_ok_iff] at extracted
          rcases extracted with ⟨raw, same, reports, unpacked, rfl⟩
          cases same
          rw [archiveYield_eq unpacked]
          refine congrArg (List.map _) (List.filter_congr fun report _ => ?_)
          cases report.fileType <;> simp [expects]
      · exact whole
  · exact whole

theorem filesOf_eq_contribution (present : mail.body = some body)
    (parsed : env.parseMail body = .ok parts) :
    filesOf env config mail =
      contribution (parts.foldlM (fun reportFiles part => do
        let files ← partFiles env mail config part
        return reportFiles ++ files) []) := by
  have extracted : (extractReportFiles env mail config).1 =
      parts.foldlM (fun reportFiles part => do
        let files ← partFiles env mail config part
        return reportFiles ++ files) [] := by
    simp only [extractReportFiles, present, parsed]
    rfl
  rw [filesOf, present, extracted]
  cases parts.foldlM (fun reportFiles part => do
    let files ← partFiles env mail config part
    return reportFiles ++ files) [] <;> rfl

/-- In which cases a mail contributes the concatenation of what its parts yield: all of
them are free of damage, or none of them yields anything. -/
theorem filesOf_eq_flatMap_iff {yield : MailPart → List ReportFile}
    (present : mail.body = some body) (parsed : env.parseMail body = .ok parts)
    (agrees : ∀ part files, partFiles env mail config part = .ok files → yield part = files) :
    filesOf env config mail = parts.flatMap yield ↔
      (∀ part ∈ parts, ∃ files, partFiles env mail config part = .ok files) ∨
        ∀ part ∈ parts, yield part = [] := by
  rw [filesOf_eq_contribution present parsed]
  cases collected : parts.foldlM (fun reportFiles part => do
      let files ← partFiles env mail config part
      return reportFiles ++ files) [] with
  | error error =>
      have damaged : ¬ ∀ part ∈ parts, ∃ files, partFiles env mail config part = .ok files := by
        intro free
        rw [foldlM_append_eq_ok_iff.mpr ⟨free, rfl⟩] at collected
        cases collected
      rw [contribution_error, eq_comm, List.flatMap_eq_nil_iff]
      exact ⟨Or.inr, fun either => either.resolve_left damaged⟩
  | ok files =>
      rcases foldlM_append_eq_ok_iff.mp collected with ⟨free, whole⟩
      refine ⟨fun _ => Or.inl free, fun _ => ?_⟩
      rw [contribution_ok, whole, List.nil_append]
      refine List.flatMap_congr fun part member => ?_
      rcases free part member with ⟨found, extracted⟩
      rw [extracted, contribution_ok, agrees part found extracted]

/-- The parts of a mail are isolated from each other if and only if all of them are free
of damage or none of them yields anything. -/
theorem isolated_iff (present : mail.body = some body) (parsed : env.parseMail body = .ok parts) :
    (filesOf env config mail = parts.flatMap (partYield env mail config) ↔
      (∀ part ∈ parts, ∃ files, partFiles env mail config part = .ok files) ∨
        ∀ part ∈ parts, partYield env mail config part = []) ∧
    (filesOf env config mail = parts.flatMap (salvage env mail config) ↔
      (∀ part ∈ parts, ∃ files, partFiles env mail config part = .ok files) ∨
        ∀ part ∈ parts, salvage env mail config part = []) := by
  constructor
  · refine filesOf_eq_flatMap_iff present parsed fun part files extracted => ?_
    rw [partYield, extracted, contribution_ok]
  · exact filesOf_eq_flatMap_iff present parsed fun part files extracted => salvage_eq extracted

end Isolation

section Samples

/-- A mail with a valid JSON report and a damaged ZIP archive. -/
def sampleMultipart : List UInt8 :=
  Text.asBytes "Content-Type: multipart/mixed; boundary=b\r\n\r\n--b\r\n" ++ sampleHeader ++
    sampleJson "Example" "12" ++
      Text.asBytes "\r\n--b\r\nContent-Type: application/zip\r\n\r\nPK\r\n--b--\r\n"

def sampleParts : List MailPart :=
  [{ contentType := some "multipart/mixed; boundary=b", bodyRaw := .ok [] },
    { contentType := some "application/tlsrpt+json", bodyRaw := .ok (sampleJson "Example" "12") },
    { contentType := some "application/zip", bodyRaw := .ok (Text.asBytes "PK") }]

def sampleMultipartEnv : Externals :=
  { sampleEnv with
    parseMail := fun bytes =>
      if bytes = sampleMultipart then .ok sampleParts else .error "unexpected mail" }

def sampleMultipartMail : Mail :=
  { sampleMail 1 with
    size := sampleMultipart.length
    body := some sampleMultipart }

theorem parseMail_sampleMultipart :
    sampleMultipartEnv.parseMail sampleMultipart = .ok sampleParts := by
  simp only [sampleMultipartEnv, if_true]

theorem not_isolated_sample :
    filesOf sampleMultipartEnv sampleConfig sampleMultipartMail ≠
        sampleParts.flatMap (partYield sampleMultipartEnv sampleMultipartMail sampleConfig) ∧
      filesOf sampleMultipartEnv sampleConfig sampleMultipartMail ≠
        sampleParts.flatMap (salvage sampleMultipartEnv sampleMultipartMail sampleConfig) := by
  decide +kernel

theorem isolated_iff_sample :
    (filesOf sampleMultipartEnv sampleConfig sampleMultipartMail =
        sampleParts.flatMap (partYield sampleMultipartEnv sampleMultipartMail sampleConfig) ↔
      (∀ part ∈ sampleParts, ∃ files,
        partFiles sampleMultipartEnv sampleMultipartMail sampleConfig part = .ok files) ∨
          ∀ part ∈ sampleParts,
            partYield sampleMultipartEnv sampleMultipartMail sampleConfig part = []) ∧
    (filesOf sampleMultipartEnv sampleConfig sampleMultipartMail =
        sampleParts.flatMap (salvage sampleMultipartEnv sampleMultipartMail sampleConfig) ↔
      (∀ part ∈ sampleParts, ∃ files,
        partFiles sampleMultipartEnv sampleMultipartMail sampleConfig part = .ok files) ∨
          ∀ part ∈ sampleParts,
            salvage sampleMultipartEnv sampleMultipartMail sampleConfig part = []) :=
  isolated_iff rfl parseMail_sampleMultipart

end Samples

end DmarcReportViewer

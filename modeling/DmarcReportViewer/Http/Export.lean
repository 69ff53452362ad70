import DmarcReportViewer.Background.Accounting
import DmarcReportViewer.Dmarc.Serde
import DmarcReportViewer.Lib.Serde.Json
import DmarcReportViewer.Lib.Serde.Xml
import DmarcReportViewer.State
import DmarcReportViewer.Tls.Serde

/-!
# Export of reports

The model of `xml_handler` and `json_handler` of `http/dmarc_reports.rs` and of
`json_handler` of `http/tls_reports.rs`.  An exported report can be imported again, and
nothing of it is lost.
-/

namespace DmarcReportViewer

open Collections Serde Text

/-- The XML package: it reads the elements of a document and writes them, indented by a
number of characters. -/
structure QuickXml where
  parse : List UInt8 → Result XmlDocument
  write : Char → Nat → XmlDocument → String

structure SerdeJson where
  parse : List UInt8 → Result Json
  write : Json → String

namespace Export

structure Response where
  status : Nat
  contentType : String
  body : String
deriving DecidableEq

/-- The handlers which export the report with a given ID. -/
def exportHandler {ρ : Type} (contentType : String) (serialize : ρ → String)
    (reports : BTreeMap String (ReportWithMailId ρ)) (id : String) : Response :=
  match reports[id]? with
  | some rwi => { status := 200, contentType := contentType, body := serialize rwi.report }
  | none => { status := 404, contentType := "text/plain", body := "Cannot find report" }

/-- The codec of DMARC reports is used with both formats. -/
abbrev AnyFormat (_ : Format) : Prop :=
  True

variable {env : Externals} (lower : Dmarc.KeepsLowerCase env) (ipAddr : TextForm IpAddr)
variable (dateTime : TextForm DateTime) (xml : QuickXml) (json : SerdeJson)

def dmarcReport : Codec AnyFormat Dmarc.Report :=
  Dmarc.Report.codec lower ipAddr

def tlsReport : Codec Format.HasNull Tls.Report :=
  Tls.Report.codec ipAddr dateTime

/-- `quick_xml::de::from_reader`.  The name of the root is not looked at. -/
def fromReader (bytes : List UInt8) : Result Dmarc.Report := do
  let document ← xml.parse bytes
  (dmarcReport lower ipAddr).deserialize Xml.format document.root

def fromJson {P : Format → Prop} {α : Type} (codec : Codec P α) (bytes : List UInt8) :
    Result α := do
  let tree ← json.parse bytes
  codec.deserialize Json.format tree

/-- A report as an XML document.  Its type has been renamed to `feedback`. -/
def xmlDocument (report : Dmarc.Report) : XmlDocument where
  name := "feedback"
  root := (dmarcReport lower ipAddr).serialize Xml.format report

def declaration : String :=
  "<?xml version=\"1.0\" encoding=\"UTF-8\" ?>\n"

def dmarcXmlHandler (state : AppState) (id : String) : Response :=
  exportHandler "text/xml"
    (fun report => declaration ++ xml.write ' ' 2 (xmlDocument lower ipAddr report))
    state.dmarcReports id

def dmarcJsonHandler (state : AppState) (id : String) : Response :=
  exportHandler "application/json"
    (fun report => json.write ((dmarcReport lower ipAddr).serialize Json.format report))
    state.dmarcReports id

def tlsJsonHandler (state : AppState) (id : String) : Response :=
  exportHandler "application/json"
    (fun report => json.write ((tlsReport ipAddr dateTime).serialize Json.format report))
    state.tlsReports id

end Export

/-- A document which is written behind a declaration is read again with its elements. -/
def QuickXml.Transports (xml : QuickXml) (document : XmlDocument) : Prop :=
  xml.parse (asBytes (Export.declaration ++ xml.write ' ' 2 document)) = .ok document

def SerdeJson.Transports (json : SerdeJson) (tree : Json) : Prop :=
  json.parse (asBytes (json.write tree)) = .ok tree

namespace Export

variable {env : Externals} {lower : Dmarc.KeepsLowerCase env} {ipAddr : TextForm IpAddr}
variable {dateTime : TextForm DateTime} {xml : QuickXml} {json : SerdeJson}

theorem deserialize_of_fromReader {bytes : List UInt8} {report : Dmarc.Report}
    (imported : fromReader lower ipAddr xml bytes = .ok report) :
    ∃ node, (dmarcReport lower ipAddr).deserialize Xml.format node = .ok report := by
  rcases Fallible.bind_eq_ok_iff.mp imported with ⟨document, _, read⟩
  exact ⟨document.root, read⟩

/-- A report which has been read from XML is read again from the exported XML. -/
theorem fromReader_export {bytes : List UInt8} {report : Dmarc.Report}
    (imported : fromReader lower ipAddr xml bytes = .ok report)
    (transports : xml.Transports (xmlDocument lower ipAddr report)) :
    fromReader lower ipAddr xml
      (asBytes (declaration ++ xml.write ' ' 2 (xmlDocument lower ipAddr report))) =
        .ok report := by
  rcases deserialize_of_fromReader imported with ⟨node, read⟩
  refine Fallible.bind_eq_ok_iff.mpr ⟨_, transports, ?_⟩
  exact (dmarcReport lower ipAddr).lossless trivial Xml.carries node report read

/-- What a codec has read from any format is read again from the exported JSON. -/
theorem fromJson_export {P : Format → Prop} {α : Type} {codec : Codec P α} {F : Format}
    (suitable : P Json.format) {node : F.Node} {value : α}
    (imported : codec.deserialize F node = .ok value)
    (transports : json.Transports (codec.serialize Json.format value)) :
    fromJson json codec (asBytes (json.write (codec.serialize Json.format value))) = .ok value := by
  refine Fallible.bind_eq_ok_iff.mpr ⟨_, transports, ?_⟩
  exact codec.lossless suitable (Json.carries F) node value imported

/-- Exported reports are imported again without any loss: DMARC reports in both formats
and SMTP TLS reports. -/
theorem reimport (env : Externals) (lower : Dmarc.KeepsLowerCase env) (ipAddr : TextForm IpAddr)
    (dateTime : TextForm DateTime) (xml : QuickXml) (json : SerdeJson) (state : AppState)
    (id : String) :
    (∀ rwi, state.dmarcReports[id]? = some rwi → ∀ bytes,
      Dmarc.Report.fromSlice (fromReader lower ipAddr xml) bytes = .ok rwi.report →
        (xml.Transports (xmlDocument lower ipAddr rwi.report) →
          Dmarc.Report.fromSlice (fromReader lower ipAddr xml)
            (asBytes (dmarcXmlHandler lower ipAddr xml state id).body) = .ok rwi.report) ∧
        (json.Transports ((dmarcReport lower ipAddr).serialize Json.format rwi.report) →
          fromJson json (dmarcReport lower ipAddr)
            (asBytes (dmarcJsonHandler lower ipAddr json state id).body) = .ok rwi.report)) ∧
    (∀ rwi, state.tlsReports[id]? = some rwi → ∀ bytes,
      Tls.Report.fromSlice (fromJson json (tlsReport ipAddr dateTime)) bytes = .ok rwi.report →
        json.Transports ((tlsReport ipAddr dateTime).serialize Json.format rwi.report) →
          Tls.Report.fromSlice (fromJson json (tlsReport ipAddr dateTime))
            (asBytes (tlsJsonHandler ipAddr dateTime json state id).body) = .ok rwi.report) := by
  constructor
  · intro rwi stored bytes imported
    have read := context_eq_ok_iff.mp imported
    rcases deserialize_of_fromReader read with ⟨node, deserialized⟩
    simp only [dmarcXmlHandler, dmarcJsonHandler, exportHandler, stored]
    constructor
    · intro transports
      exact context_eq_ok_iff.mpr (fromReader_export read transports)
    · intro transports
      exact fromJson_export trivial deserialized transports
  · intro rwi stored bytes imported transports
    rcases Fallible.bind_eq_ok_iff.mp (context_eq_ok_iff.mp imported) with ⟨tree, _, deserialized⟩
    simp only [tlsJsonHandler, exportHandler, stored]
    exact context_eq_ok_iff.mpr (fromJson_export Json.hasNull deserialized transports)

section Samples

/-- A report as it is received, with other spellings than the exported ones. -/
def sampleXmlText : String :=
  "<feedback><report_metadata><org_name>Example</org_name><email>dmarc@mail.example</email>" ++
  "<report_id>1</report_id><date_range><begin>1714521600</begin><end>1714608000</end>" ++
  "</date_range></report_metadata><policy_published><domain>mail.example</domain><p></p>" ++
  "</policy_published><record><row><source_ip>192.0.2.235</source_ip><count>1</count>" ++
  "<policy_evaluated><disposition>Pass</disposition></policy_evaluated></row><identifiers>" ++
  "<header_from>mail.example</header_from></identifiers><auth_results><spf>" ++
  "<domain>mail.example</domain><result>HardFail</result></spf></auth_results></record>" ++
  "</feedback>"

def sampleXmlExport : String :=
  "\n".intercalate [
    "<feedback>",
    "  <report_metadata>",
    "    <org_name>Example</org_name>",
    "    <email>dmarc@mail.example</email>",
    "    <report_id>1</report_id>",
    "    <date_range>",
    "      <begin>1714521600</begin>",
    "      <end>1714608000</end>",
    "    </date_range>",
    "  </report_metadata>",
    "  <policy_published>",
    "    <domain>mail.example</domain>",
    "    <p>none</p>",
    "  </policy_published>",
    "  <record>",
    "    <row>",
    "      <source_ip>192.0.2.235</source_ip>",
    "      <count>1</count>",
    "      <policy_evaluated>",
    "        <disposition>none</disposition>",
    "      </policy_evaluated>",
    "    </row>",
    "    <identifiers>",
    "      <header_from>mail.example</header_from>",
    "    </identifiers>",
    "    <auth_results>",
    "      <spf>",
    "        <domain>mail.example</domain>",
    "        <result>fail</result>",
    "      </spf>",
    "    </auth_results>",
    "  </record>",
    "</feedback>"]

/-- The elements of the report with given spellings of its enumerations. -/
def sampleXmlTree (p disposition result : String) : Xml :=
  .element "" [
    ("report_metadata", .element "" [
      ("org_name", .element "Example" []),
      ("email", .element "dmarc@mail.example" []),
      ("report_id", .element "1" []),
      ("date_range", .element "" [
        ("begin", .element "1714521600" []),
        ("end", .element "1714608000" [])])]),
    ("policy_published", .element "" [
      ("domain", .element "mail.example" []),
      ("p", .element p [])]),
    ("record", .element "" [
      ("row", .element "" [
        ("source_ip", .element "192.0.2.235" []),
        ("count", .element "1" []),
        ("policy_evaluated", .element "" [("disposition", .element disposition [])])]),
      ("identifiers", .element "" [("header_from", .element "mail.example" [])]),
      ("auth_results", .element "" [
        ("spf", .element "" [
          ("domain", .element "mail.example" []),
          ("result", .element result [])])])])]

def sampleXml : QuickXml where
  parse bytes :=
    if bytes = asBytes sampleXmlText then
      .ok { name := "feedback", root := sampleXmlTree "" "Pass" "HardFail" }
    else if bytes = asBytes (declaration ++ sampleXmlExport) then
      .ok { name := "feedback", root := sampleXmlTree "none" "none" "fail" }
    else
      .error "unexpected document"
  write _ _ _ := sampleXmlExport

def sampleDmarcReport : Dmarc.Report :=
  { Dmarc.sampleReport "mail.example" (.v4 3221226219) with
    record := [{
      row := {
        sourceIp := .v4 3221226219
        count := 1
        policyEvaluated := { disposition := .none, dkim := none, spf := none, reason := none } }
      identifiers := { envelopeTo := none, envelopeFrom := none, headerFrom := "mail.example" }
      authResults := {
        dkim := none
        spf := [{ domain := "mail.example", scope := none, result := .fail }] } }] }

def sampleDmarcJson : String :=
  "\x7b\"report_metadata\":\x7b\"org_name\":\"Example\",\"email\":\"dmarc@mail.example\"," ++
  "\"report_id\":\"1\",\"date_range\":\x7b\"begin\":1714521600,\"end\":1714608000\x7d\x7d," ++
  "\"policy_published\":\x7b\"domain\":\"mail.example\",\"p\":\"none\"\x7d," ++
  "\"record\":[\x7b\"row\":\x7b\"source_ip\":\"192.0.2.235\",\"count\":1," ++
  "\"policy_evaluated\":\x7b\"disposition\":\"none\"\x7d\x7d," ++
  "\"identifiers\":\x7b\"header_from\":\"mail.example\"\x7d," ++
  "\"auth_results\":\x7b\"spf\":[\x7b\"domain\":\"mail.example\",\"result\":\"fail\"\x7d]" ++
  "\x7d\x7d]\x7d"

def sampleDmarcTree : Json :=
  .object [
    ("report_metadata", .object [
      ("org_name", .string "Example"),
      ("email", .string "dmarc@mail.example"),
      ("report_id", .string "1"),
      ("date_range", .object [("begin", .number 1714521600), ("end", .number 1714608000)])]),
    ("policy_published", .object [("domain", .string "mail.example"), ("p", .string "none")]),
    ("record", .array [.object [
      ("row", .object [
        ("source_ip", .string "192.0.2.235"),
        ("count", .number 1),
        ("policy_evaluated", .object [("disposition", .string "none")])]),
      ("identifiers", .object [("header_from", .string "mail.example")]),
      ("auth_results", .object [
        ("spf", .array [.object [
          ("domain", .string "mail.example"),
          ("result", .string "fail")]])])]])]

/-- A TLS report with or without a member which is null. -/
def sampleTlsJson (contactInfo : String) : String :=
  "\x7b\"organization-name\":\"Company-X\"," ++
  "\"date-range\":\x7b\"start-datetime\":\"2016-04-01T00:00:00Z\"," ++
  "\"end-datetime\":\"2016-04-01T00:00:00Z\"\x7d," ++ contactInfo ++
  "\"report-id\":\"1\",\"policies\":[]\x7d"

def sampleTlsTree (contactInfo : List (String × Json)) : Json :=
  .object ([
    ("organization-name", .string "Company-X"),
    ("date-range", .object [
      ("start-datetime", .string "2016-04-01T00:00:00Z"),
      ("end-datetime", .string "2016-04-01T00:00:00Z")])] ++ contactInfo ++ [
    ("report-id", .string "1"),
    ("policies", .array [])])

def sampleTlsReport : Tls.Report where
  organizationName := "Company-X"
  dateRange := { startDatetime := 1459468800000000000, endDatetime := 1459468800000000000 }
  contactInfo := none
  reportId := "1"
  policies := []

def sampleJson : SerdeJson where
  parse bytes :=
    if bytes = asBytes sampleDmarcJson then
      .ok sampleDmarcTree
    else if bytes = asBytes (sampleTlsJson "") then
      .ok (sampleTlsTree [])
    else if bytes = asBytes (sampleTlsJson "\"contact-info\":null,") then
      .ok (sampleTlsTree [("contact-info", .null)])
    else
      .error "unexpected value"
  write
    | .object (("report_metadata", _) :: _) => sampleDmarcJson
    | _ => sampleTlsJson "\"contact-info\":null,"

/-- One value, as it is written. -/
def sampleForm {α : Type} (text : String) (value : α) : TextForm α where
  toText _ := text
  fromText other := if other = text then .ok value else .error "invalid syntax"
  lossless other _ parsed := by
    split at parsed
    · rw [if_pos rfl]
      exact parsed
    · cases parsed

def sampleIpAddr : TextForm IpAddr :=
  sampleForm "192.0.2.235" (.v4 3221226219)

def sampleDateTime : TextForm DateTime :=
  sampleForm "2016-04-01T00:00:00Z" 1459468800000000000

theorem sampleEnv_keepsLowerCase : Dmarc.KeepsLowerCase sampleEnv := by
  intro text lower
  have unchanged : ∀ char ∈ text.toList, char.toLower = char := by
    intro char member
    have small : (decide (char.val ≥ 'a'.val) && decide (char.val ≤ 'z'.val)) = true :=
      List.all_eq_true.mp lower char member
    simp only [Bool.and_eq_true, decide_eq_true_eq] at small
    refine dif_neg ?_
    rintro ⟨_, large⟩
    have first := small.1
    simp only [UInt32.le_iff_toNat_le] at first large
    simp at first large
    omega
  apply String.toList_inj.mp
  rw [sampleEnv, String.toList_map, List.map_congr_left unchanged, List.map_id']

def sampleStored : AppState :=
  { AppState.new 0 with
    dmarcReports := (∅ : BTreeMap String DmarcReportWithMailId).insert "80PIQSMHanHfacyq6aXj_A"
      { mailId := "1", report := sampleDmarcReport }
    tlsReports := (∅ : BTreeMap String TlsReportWithMailId).insert "80PIQSMHanHfacyq6aXj_A"
      { mailId := "2", report := sampleTlsReport } }

theorem reimport_sample :
    Dmarc.Report.fromSlice (fromReader sampleEnv_keepsLowerCase sampleIpAddr sampleXml)
        (asBytes (dmarcXmlHandler sampleEnv_keepsLowerCase sampleIpAddr sampleXml sampleStored
          "80PIQSMHanHfacyq6aXj_A").body) = .ok sampleDmarcReport ∧
      fromJson sampleJson (dmarcReport sampleEnv_keepsLowerCase sampleIpAddr)
        (asBytes (dmarcJsonHandler sampleEnv_keepsLowerCase sampleIpAddr sampleJson sampleStored
          "80PIQSMHanHfacyq6aXj_A").body) = .ok sampleDmarcReport ∧
      Tls.Report.fromSlice (fromJson sampleJson (tlsReport sampleIpAddr sampleDateTime))
        (asBytes (tlsJsonHandler sampleIpAddr sampleDateTime sampleJson sampleStored
          "80PIQSMHanHfacyq6aXj_A").body) = .ok sampleTlsReport := by
  rcases reimport sampleEnv sampleEnv_keepsLowerCase sampleIpAddr sampleDateTime sampleXml
    sampleJson sampleStored "80PIQSMHanHfacyq6aXj_A" with ⟨dmarc, tls⟩
  have dmarcKept := dmarc { mailId := "1", report := sampleDmarcReport } (by decide +kernel)
    (asBytes sampleXmlText) (by decide +kernel)
  have tlsKept := tls { mailId := "2", report := sampleTlsReport } (by decide +kernel)
    (asBytes (sampleTlsJson "")) (by decide +kernel)
  refine ⟨dmarcKept.1 ?_, dmarcKept.2 ?_, tlsKept ?_⟩
  · have written : xmlDocument sampleEnv_keepsLowerCase sampleIpAddr sampleDmarcReport =
        { name := "feedback", root := sampleXmlTree "none" "none" "fail" } := rfl
    have other : asBytes (declaration ++ sampleXmlExport) ≠ asBytes sampleXmlText := by
      decide +kernel
    simp only [QuickXml.Transports, written, sampleXml, if_neg other, if_true]
  · have written : (dmarcReport sampleEnv_keepsLowerCase sampleIpAddr).serialize Json.format
        sampleDmarcReport = sampleDmarcTree := rfl
    simp only [SerdeJson.Transports, written, sampleJson, sampleDmarcTree, if_true]
  · have written : (tlsReport sampleIpAddr sampleDateTime).serialize Json.format sampleTlsReport =
        sampleTlsTree [("contact-info", .null)] := rfl
    have other : asBytes (sampleTlsJson "\"contact-info\":null,") ≠ asBytes sampleDmarcJson := by
      decide +kernel
    have longer : asBytes (sampleTlsJson "\"contact-info\":null,") ≠
        asBytes (sampleTlsJson "") := by
      decide +kernel
    have printed : sampleJson.write (sampleTlsTree [("contact-info", .null)]) =
        sampleTlsJson "\"contact-info\":null," := rfl
    simp only [SerdeJson.Transports, written, printed]
    simp only [sampleJson, if_neg other, if_neg longer, if_true]

end Samples

end Export

end DmarcReportViewer

import DmarcReportViewer.Externals
import DmarcReportViewer.Lib.Serde

/-!
# Serialization of DMARC reports

The serializers and deserializers which `dmarc.rs` derives for its types.  The fields
are listed in the order of the source, under the names that its attributes give them.
Every optional field is skipped if it has no value.
-/

namespace DmarcReportViewer.Dmarc

open Serde Codec Fields

variable {P : Format → Prop}

def DateRangeType.codec : Codec P DateRangeType :=
  .struct
    ((required "begin" (one uint64)).and
      (required "end" (one uint64)))
    (fun (begin, «end») => { begin, «end» })
    (fun value => (value.begin, value.end))
    (fun _ => rfl) (by simp)

def ReportMetadataType.codec : Codec P ReportMetadataType :=
  .struct
    ((required "org_name" (one text)).and <|
      (required "email" (one text)).and <|
      (optional "extra_contact_info" (one text)).and <|
      (required "report_id" (one text)).and <|
      (required "date_range" (one DateRangeType.codec)).and <|
      (optional "error" (many text)))
    (fun (orgName, email, extraContactInfo, reportId, dateRange, error) =>
      { orgName, email, extraContactInfo, reportId, dateRange, error })
    (fun value => (value.orgName, value.email, value.extraContactInfo, value.reportId,
      value.dateRange, value.error))
    (fun _ => rfl) (by simp)

def AlignmentType.name : AlignmentType → String
  | .relaxed => "r"
  | .strict => "s"

def AlignmentType.codec : Codec P AlignmentType :=
  .enumeration [.relaxed, .strict] name (fun _ => []) (by rintro ⟨⟩ <;> decide)

def DispositionType.name : DispositionType → String
  | .none => "none"
  | .quarantine => "quarantine"
  | .reject => "reject"

/-- The deserializer of `DispositionType` is not a derived one. -/
def DispositionType.deserialize (env : Externals) (s : String) : Result DispositionType :=
  match env.toLowercase s with
  | "quarantine" => .ok .quarantine
  | "reject" => .ok .reject
  | "none" => .ok .none
  | "" => .ok .none
  | "pass" => .ok .none
  | _ => .error s!"'{s}' is not a known disposition type"

def DmarcResultType.name : DmarcResultType → String
  | .pass => "pass"
  | .fail => "fail"

def DmarcResultType.aliases : DmarcResultType → List String
  | .pass => ["Pass", "PASS"]
  | .fail => ["Fail", "FAIL"]

def DmarcResultType.codec : Codec P DmarcResultType :=
  .enumeration [.pass, .fail] name aliases (by rintro ⟨⟩ <;> decide)

def PolicyOverrideType.name : PolicyOverrideType → String
  | .forwarded => "forwarded"
  | .sampledOut => "sampled_out"
  | .trustedForwarder => "trusted_forwarder"
  | .mailingList => "mailing_list"
  | .localPolicy => "local_policy"
  | .other => "other"

def PolicyOverrideType.codec : Codec P PolicyOverrideType :=
  .enumeration [.forwarded, .sampledOut, .trustedForwarder, .mailingList, .localPolicy, .other]
    name (fun _ => []) (by rintro ⟨⟩ <;> decide)

def PolicyOverrideReason.codec : Codec P PolicyOverrideReason :=
  .struct
    ((required "type" (one PolicyOverrideType.codec)).and <|
      (optional "comment" (one text)))
    (fun (kind, comment) => { kind, comment })
    (fun value => (value.kind, value.comment))
    (fun _ => rfl) (by simp)

def IdentifierType.codec : Codec P IdentifierType :=
  .struct
    ((optional "envelope_to" (one text)).and <|
      (optional "envelope_from" (one text)).and <|
      (required "header_from" (one text)))
    (fun (envelopeTo, envelopeFrom, headerFrom) => { envelopeTo, envelopeFrom, headerFrom })
    (fun value => (value.envelopeTo, value.envelopeFrom, value.headerFrom))
    (fun _ => rfl) (by simp)

def DkimResultType.name : DkimResultType → String
  | .none => "none"
  | .pass => "pass"
  | .fail => "fail"
  | .policy => "policy"
  | .neutral => "neutral"
  | .temporaryError => "temperror"
  | .permanentError => "permerror"

def DkimResultType.aliases : DkimResultType → List String
  | .none => ["None", "NONE"]
  | .pass => ["Pass", "PASS"]
  | .fail => ["Fail", "FAIL"]
  | .policy => ["Policy", "POLICY"]
  | .neutral => ["Neutral", "NEUTRAL"]
  | .temporaryError => ["TempError", "TEMPERROR"]
  | .permanentError => ["PermError", "PERMERROR"]

def DkimResultType.codec : Codec P DkimResultType :=
  .enumeration [.none, .pass, .fail, .policy, .neutral, .temporaryError, .permanentError]
    name aliases (by rintro ⟨⟩ <;> decide)

def DkimAuthResultType.codec : Codec P DkimAuthResultType :=
  .struct
    ((required "domain" (one text)).and <|
      (optional "selector" (one text)).and <|
      (required "result" (one DkimResultType.codec)).and <|
      (optional "human_result" (one text)))
    (fun (domain, selector, result, humanResult) => { domain, selector, result, humanResult })
    (fun value => (value.domain, value.selector, value.result, value.humanResult))
    (fun _ => rfl) (by simp)

def SpfDomainScope.name : SpfDomainScope → String
  | .helo => "helo"
  | .mailForm => "mfrom"

def SpfDomainScope.aliases : SpfDomainScope → List String
  | .helo => ["Helo", "HELO"]
  | .mailForm => ["MFrom", "MFROM"]

def SpfDomainScope.codec : Codec P SpfDomainScope :=
  .enumeration [.helo, .mailForm] name aliases (by rintro ⟨⟩ <;> decide)

def SpfResultType.name : SpfResultType → String
  | .none => "none"
  | .neutral => "neutral"
  | .pass => "pass"
  | .fail => "fail"
  | .softFail => "softfail"
  | .temporaryError => "temperror"
  | .permanentError => "permerror"

def SpfResultType.aliases : SpfResultType → List String
  | .none => ["None", "NONE"]
  | .neutral => ["Neutral", "NEUTRAL"]
  | .pass => ["Pass", "PASS"]
  | .fail => ["hardfail", "HardFail", "HARDFAIL", "Fail", "FAIL"]
  | .softFail => ["SoftFail", "SOFTFAIL"]
  | .temporaryError => ["TempError", "TEMPERROR", "unknown", "Unknown", "UNKNOWN"]
  | .permanentError => ["PermError", "PERMERROR", "error", "Error", "ERROR"]

def SpfResultType.codec : Codec P SpfResultType :=
  .enumeration [.none, .neutral, .pass, .fail, .softFail, .temporaryError, .permanentError]
    name aliases (by rintro ⟨⟩ <;> decide)

def SpfAuthResultType.codec : Codec P SpfAuthResultType :=
  .struct
    ((required "domain" (one text)).and <|
      (optional "scope" (one SpfDomainScope.codec)).and <|
      (required "result" (one SpfResultType.codec)))
    (fun (domain, scope, result) => { domain, scope, result })
    (fun value => (value.domain, value.scope, value.result))
    (fun _ => rfl) (by simp)

def AuthResultType.codec : Codec P AuthResultType :=
  .struct
    ((optional "dkim" (many DkimAuthResultType.codec)).and <|
      (required "spf" (many SpfAuthResultType.codec)))
    (fun (dkim, spf) => { dkim, spf })
    (fun value => (value.dkim, value.spf))
    (fun _ => rfl) (by simp)

/-- A text of the letters from a to z is in lower case already. -/
def KeepsLowerCase (env : Externals) : Prop :=
  ∀ text : String, text.toList.all Char.isLower → env.toLowercase text = text

section Texts

variable {env : Externals} (lower : KeepsLowerCase env) (ipAddr : TextForm IpAddr)

def DispositionType.form : TextForm DispositionType where
  toText := name
  fromText := deserialize env
  lossless _ value _ := by
    have kept : env.toLowercase value.name = value.name := lower _ (by cases value <;> decide)
    rw [deserialize, kept]
    cases value <;> rfl

def DispositionType.codec : Codec P DispositionType :=
  .ofText (form lower)

def PolicyPublishedType.codec : Codec P PolicyPublishedType :=
  .struct
    ((required "domain" (one text)).and <|
      (optional "adkim" (one AlignmentType.codec)).and <|
      (optional "aspf" (one AlignmentType.codec)).and <|
      (required "p" (one (DispositionType.codec lower))).and <|
      (optional "sp" (one (DispositionType.codec lower))).and <|
      (optional "pct" (one uint8)).and <|
      (optional "fo" (one text)))
    (fun (domain, adkim, aspf, p, sp, pct, fo) => { domain, adkim, aspf, p, sp, pct, fo })
    (fun value => (value.domain, value.adkim, value.aspf, value.p, value.sp, value.pct, value.fo))
    (fun _ => rfl) (by simp)

def PolicyEvaluatedType.codec : Codec P PolicyEvaluatedType :=
  .struct
    ((required "disposition" (one (DispositionType.codec lower))).and <|
      (optional "dkim" (one DmarcResultType.codec)).and <|
      (optional "spf" (one DmarcResultType.codec)).and <|
      (optional "reason" (many PolicyOverrideReason.codec)))
    (fun (disposition, dkim, spf, reason) => { disposition, dkim, spf, reason })
    (fun value => (value.disposition, value.dkim, value.spf, value.reason))
    (fun _ => rfl) (by simp)

def RowType.codec : Codec P RowType :=
  .struct
    ((required "source_ip" (one (.ofText ipAddr))).and <|
      (required "count" (one uint64)).and <|
      (required "policy_evaluated" (one (PolicyEvaluatedType.codec lower))))
    (fun (sourceIp, count, policyEvaluated) => { sourceIp, count, policyEvaluated })
    (fun value => (value.sourceIp, value.count, value.policyEvaluated))
    (fun _ => rfl) (by simp)

def RecordType.codec : Codec P RecordType :=
  .struct
    ((required "row" (one (RowType.codec lower ipAddr))).and <|
      (required "identifiers" (one IdentifierType.codec)).and <|
      (required "auth_results" (one AuthResultType.codec)))
    (fun (row, identifiers, authResults) => { row, identifiers, authResults })
    (fun value => (value.row, value.identifiers, value.authResults))
    (fun _ => rfl) (by simp)

def Report.codec : Codec P Report :=
  .struct
    ((optional "version" (one text)).and <|
      (required "report_metadata" (one ReportMetadataType.codec)).and <|
      (required "policy_published" (one (PolicyPublishedType.codec lower))).and <|
      (required "record" (many (RecordType.codec lower ipAddr))))
    (fun (version, reportMetadata, policyPublished, record) =>
      { version, reportMetadata, policyPublished, record })
    (fun value => (value.version, value.reportMetadata, value.policyPublished, value.record))
    (fun _ => rfl) (by simp)

end Texts

end DmarcReportViewer.Dmarc

import DmarcReportViewer.Lib.Serde
import DmarcReportViewer.Tls

/-!
# Serialization of SMTP TLS reports

The serializers and deserializers which `tls.rs` derives for its types.  The fields are
listed in the order of the source, under the names that its attributes give them.  Two
kinds of optional fields are told apart: those which are skipped if they have no value,
and those which are written as null.
-/

namespace DmarcReportViewer.Tls

open Serde Codec Fields

def PolicyType.name : PolicyType → String
  | .sts => "sts"
  | .tlsa => "tlsa"
  | .noPolicyFound => "no-policy-found"

def PolicyType.codec : Codec Format.HasNull PolicyType :=
  .enumeration [.sts, .tlsa, .noPolicyFound] name (fun _ => []) (by rintro ⟨⟩ <;> decide)

def Policy.codec : Codec Format.HasNull Policy :=
  .struct
    ((required "policy-type" (one PolicyType.codec)).and <|
      (optional "policy-string" (many text)).and <|
      (required "policy-domain" (one text)).and <|
      (optional "mx-host" (many text)))
    (fun (policyType, policyString, policyDomain, mxHost) =>
      { policyType, policyString, policyDomain, mxHost })
    (fun value => (value.policyType, value.policyString, value.policyDomain, value.mxHost))
    (fun _ => rfl) (by simp)

def Summary.codec : Codec Format.HasNull Summary :=
  .struct
    ((required "total-successful-session-count" (one uint64)).and <|
      (required "total-failure-session-count" (one uint64)))
    (fun (totalSuccessfulSessionCount, totalFailureSessionCount) =>
      { totalSuccessfulSessionCount, totalFailureSessionCount })
    (fun value => (value.totalSuccessfulSessionCount, value.totalFailureSessionCount))
    (fun _ => rfl) (by simp)

def FailureResultType.name : FailureResultType → String
  | .starttlsNotSupported => "starttls-not-supported"
  | .certificateHostMismatch => "certificate-host-mismatch"
  | .certificateExpired => "certificate-expired"
  | .certificateNotTrusted => "certificate-not-trusted"
  | .validationFailure => "validation-failure"
  | .tlsaInvalid => "tlsa-invalid"
  | .dnssecInvalid => "dnssec-invalid"
  | .daneRequired => "dane-required"
  | .stsPolicyFetchError => "sts-policy-fetch-error"
  | .stsPolicyInvalid => "sts-policy-invalid"
  | .stsWebpkiInvalid => "sts-webpki-invalid"

def FailureResultType.codec : Codec Format.HasNull FailureResultType :=
  .enumeration
    [.starttlsNotSupported, .certificateHostMismatch, .certificateExpired,
      .certificateNotTrusted, .validationFailure, .tlsaInvalid, .dnssecInvalid, .daneRequired,
      .stsPolicyFetchError, .stsPolicyInvalid, .stsWebpkiInvalid]
    name (fun _ => []) (by rintro ⟨⟩ <;> decide)

section Texts

variable (ipAddr : TextForm IpAddr) (dateTime : TextForm DateTime)

def DateRange.codec : Codec Format.HasNull DateRange :=
  .struct
    ((required "start-datetime" (one (.ofText dateTime))).and <|
      (required "end-datetime" (one (.ofText dateTime))))
    (fun (startDatetime, endDatetime) => { startDatetime, endDatetime })
    (fun value => (value.startDatetime, value.endDatetime))
    (fun _ => rfl) (by simp)

def FailureDetails.codec : Codec Format.HasNull FailureDetails :=
  .struct
    ((required "result-type" (one FailureResultType.codec)).and <|
      (nullable (fun _ => id) "sending-mta-ip" (one (.ofText ipAddr))).and <|
      (nullable (fun _ => id) "receiving-mx-hostname" (one text)).and <|
      (optional "receiving-mx-helo" (one text)).and <|
      (optional "receiving-ip" (one (.ofText ipAddr))).and <|
      (required "failed-session-count" (one uint64)).and <|
      (optional "additional-information" (one text)).and <|
      (optional "failure-reason-code" (one text)))
    (fun (resultType, sendingMtaIp, receivingMxHostname, receivingMxHelo, receivingIp,
        failedSessionCount, additionalInformation, failureReasonCode) =>
      { resultType, sendingMtaIp, receivingMxHostname, receivingMxHelo, receivingIp,
        failedSessionCount, additionalInformation, failureReasonCode })
    (fun value => (value.resultType, value.sendingMtaIp, value.receivingMxHostname,
      value.receivingMxHelo, value.receivingIp, value.failedSessionCount,
      value.additionalInformation, value.failureReasonCode))
    (fun _ => rfl) (by simp)

def PolicyResult.codec : Codec Format.HasNull PolicyResult :=
  .struct
    ((required "policy" (one Policy.codec)).and <|
      (required "summary" (one Summary.codec)).and <|
      (optional "failure-details" (many (FailureDetails.codec ipAddr))))
    (fun (policy, summary, failureDetails) => { policy, summary, failureDetails })
    (fun value => (value.policy, value.summary, value.failureDetails))
    (fun _ => rfl) (by simp)

def Report.codec : Codec Format.HasNull Report :=
  .struct
    ((required "organization-name" (one text)).and <|
      (required "date-range" (one (DateRange.codec dateTime))).and <|
      (nullable (fun _ => id) "contact-info" (one text)).and <|
      (required "report-id" (one text)).and <|
      (required "policies" (many (PolicyResult.codec ipAddr))))
    (fun (organizationName, dateRange, contactInfo, reportId, policies) =>
      { organizationName, dateRange, contactInfo, reportId, policies })
    (fun value => (value.organizationName, value.dateRange, value.contactInfo, value.reportId,
      value.policies))
    (fun _ => rfl) (by simp)

end Texts

end DmarcReportViewer.Tls

import DmarcReportViewer.Basic
import DmarcReportViewer.Lib.Collections

/-!
# SMTP TLS reports

The data of `tls.rs`: a parsed report, in the order of the fields of the
source.  Points in time are counted in nanoseconds since the Unix epoch.
-/

namespace DmarcReportViewer

/-- A point in time in UTC, in nanoseconds since the Unix epoch. -/
abbrev DateTime : Type :=
  Int

namespace Tls

open Collections

structure DateRange where
  startDatetime : DateTime
  endDatetime : DateTime
deriving DecidableEq

inductive PolicyType where
  | sts
  | tlsa
  | noPolicyFound
deriving DecidableEq

structure Policy where
  policyType : PolicyType
  policyString : Option (List String)
  policyDomain : String
  mxHost : Option (List String)
deriving DecidableEq

/-- The simplified evaluation result which a summary counts. -/
inductive TlsResultType where
  | successful
  | failure
deriving DecidableEq

structure Summary where
  totalSuccessfulSessionCount : UInt64
  totalFailureSessionCount : UInt64
deriving DecidableEq

inductive FailureResultType where
  | starttlsNotSupported
  | certificateHostMismatch
  | certificateExpired
  | certificateNotTrusted
  | validationFailure
  | tlsaInvalid
  | dnssecInvalid
  | daneRequired
  | stsPolicyFetchError
  | stsPolicyInvalid
  | stsWebpkiInvalid
deriving DecidableEq

structure FailureDetails where
  resultType : FailureResultType
  sendingMtaIp : Option IpAddr
  receivingMxHostname : Option String
  receivingMxHelo : Option String
  receivingIp : Option IpAddr
  failedSessionCount : UInt64
  additionalInformation : Option String
  failureReasonCode : Option String
deriving DecidableEq

structure PolicyResult where
  policy : Policy
  summary : Summary
  failureDetails : Option (List FailureDetails)
deriving DecidableEq

structure Report where
  organizationName : String
  dateRange : DateRange
  contactInfo : Option String
  reportId : String
  policies : List PolicyResult
deriving DecidableEq

section MapKeys

instance : Ord PolicyType := ⟨compareOn PolicyType.ctorIdx⟩

instance : Std.TransOrd PolicyType :=
  inferInstanceAs (Std.TransCmp (compareOn PolicyType.ctorIdx))

instance : Std.LawfulEqOrd PolicyType :=
  lawfulEqCmp_compareOn (by
    intro left right same
    cases left <;> cases right <;> first | rfl | cases same)

instance : Ord TlsResultType := ⟨compareOn TlsResultType.ctorIdx⟩

instance : Std.TransOrd TlsResultType :=
  inferInstanceAs (Std.TransCmp (compareOn TlsResultType.ctorIdx))

instance : Std.LawfulEqOrd TlsResultType :=
  lawfulEqCmp_compareOn (by
    intro left right same
    cases left <;> cases right <;> first | rfl | cases same)

instance : Ord FailureResultType := ⟨compareOn FailureResultType.ctorIdx⟩

instance : Std.TransOrd FailureResultType :=
  inferInstanceAs (Std.TransCmp (compareOn FailureResultType.ctorIdx))

instance : Std.LawfulEqOrd FailureResultType :=
  lawfulEqCmp_compareOn (by
    intro left right same
    cases left <;> cases right <;> first | rfl | cases same)

end MapKeys

/-- `Report::from_slice` over the JSON deserializer it calls. -/
def Report.fromSlice (fromJson : List UInt8 → Result Report) (jsonFile : List UInt8) :
    Result Report :=
  (fromJson jsonFile).context "Failed to parse JSON as SMTP TLS report"

end Tls

end DmarcReportViewer

import DmarcReportViewer.Basic
import DmarcReportViewer.Lib.Collections

/-!
# DMARC aggregate reports

The data of `dmarc.rs`: a parsed report, in the order of the fields of the
source.  Counts are 64-bit values which the sender of a report chooses freely.
-/

namespace DmarcReportViewer.Dmarc

open Collections

/-- The time range of a report, in seconds since the Unix epoch. -/
structure DateRangeType where
  begin : UInt64
  «end» : UInt64
deriving DecidableEq

structure ReportMetadataType where
  orgName : String
  email : String
  extraContactInfo : Option String
  reportId : String
  dateRange : DateRangeType
  error : Option (List String)
deriving DecidableEq

inductive AlignmentType where
  | relaxed
  | strict
deriving DecidableEq

inductive DispositionType where
  | none
  | quarantine
  | reject
deriving DecidableEq

structure PolicyPublishedType where
  domain : String
  adkim : Option AlignmentType
  aspf : Option AlignmentType
  p : DispositionType
  sp : Option DispositionType
  pct : Option UInt8
  fo : Option String
deriving DecidableEq

/-- The DMARC-aligned authentication result. -/
inductive DmarcResultType where
  | pass
  | fail
deriving DecidableEq

inductive PolicyOverrideType where
  | forwarded
  | sampledOut
  | trustedForwarder
  | mailingList
  | localPolicy
  | other
deriving DecidableEq

structure PolicyOverrideReason where
  kind : PolicyOverrideType
  comment : Option String
deriving DecidableEq

structure PolicyEvaluatedType where
  disposition : DispositionType
  dkim : Option DmarcResultType
  spf : Option DmarcResultType
  reason : Option (List PolicyOverrideReason)
deriving DecidableEq

structure RowType where
  sourceIp : IpAddr
  count : UInt64
  policyEvaluated : PolicyEvaluatedType
deriving DecidableEq

structure IdentifierType where
  envelopeTo : Option String
  envelopeFrom : Option String
  headerFrom : String
deriving DecidableEq

inductive DkimResultType where
  | none
  | pass
  | fail
  | policy
  | neutral
  | temporaryError
  | permanentError
deriving DecidableEq

structure DkimAuthResultType where
  domain : String
  selector : Option String
  result : DkimResultType
  humanResult : Option String
deriving DecidableEq

inductive SpfDomainScope where
  | helo
  | mailForm
deriving DecidableEq

inductive SpfResultType where
  | none
  | neutral
  | pass
  | fail
  | softFail
  | temporaryError
  | permanentError
deriving DecidableEq

structure SpfAuthResultType where
  domain : String
  scope : Option SpfDomainScope
  result : SpfResultType
deriving DecidableEq

structure AuthResultType where
  dkim : Option (List DkimAuthResultType)
  spf : List SpfAuthResultType
deriving DecidableEq

structure RecordType where
  row : RowType
  identifiers : IdentifierType
  authResults : AuthResultType
deriving DecidableEq

structure Report where
  version : Option String
  reportMetadata : ReportMetadataType
  policyPublished : PolicyPublishedType
  record : List RecordType
deriving DecidableEq

section MapKeys

instance : Ord DmarcResultType := ⟨compareOn DmarcResultType.ctorIdx⟩

instance : Std.TransOrd DmarcResultType :=
  inferInstanceAs (Std.TransCmp (compareOn DmarcResultType.ctorIdx))

instance : Std.LawfulEqOrd DmarcResultType :=
  lawfulEqCmp_compareOn (by
    intro left right same
    cases left <;> cases right <;> first | rfl | cases same)

instance : Ord DkimResultType := ⟨compareOn DkimResultType.ctorIdx⟩

instance : Std.TransOrd DkimResultType :=
  inferInstanceAs (Std.TransCmp (compareOn DkimResultType.ctorIdx))

instance : Std.LawfulEqOrd DkimResultType :=
  lawfulEqCmp_compareOn (by
    intro left right same
    cases left <;> cases right <;> first | rfl | cases same)

instance : Ord SpfResultType := ⟨compareOn SpfResultType.ctorIdx⟩

instance : Std.TransOrd SpfResultType :=
  inferInstanceAs (Std.TransCmp (compareOn SpfResultType.ctorIdx))

instance : Std.LawfulEqOrd SpfResultType :=
  lawfulEqCmp_compareOn (by
    intro left right same
    cases left <;> cases right <;> first | rfl | cases same)

end MapKeys

/-- `Report::from_slice` over the XML deserializer it calls. -/
def Report.fromSlice (fromReader : List UInt8 → Result Report) (xmlFile : List UInt8) :
    Result Report :=
  (fromReader xmlFile).context "Failed to parse XML as DMARC report"

/-- A report about one mail from an address. -/
def sampleReport (domain : String) (ip : IpAddr) : Report where
  version := none
  reportMetadata := {
    orgName := "Example"
    email := "dmarc@mail.example"
    extraContactInfo := none
    reportId := "1"
    dateRange := { begin := 1714521600, «end» := 1714608000 }
    error := none }
  policyPublished := {
    domain := domain
    adkim := none
    aspf := none
    p := .none
    sp := none
    pct := none
    fo := none }
  record := [{
    row := {
      sourceIp := ip
      count := 1
      policyEvaluated := { disposition := .none, dkim := none, spf := none, reason := none } }
    identifiers := { envelopeTo := none, envelopeFrom := none, headerFrom := domain }
    authResults := { dkim := none, spf := [] } }]

end DmarcReportViewer.Dmarc

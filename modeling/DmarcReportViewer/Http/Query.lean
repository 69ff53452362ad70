import DmarcReportViewer.Background.Accounting
import DmarcReportViewer.Http.DmarcReports
import DmarcReportViewer.Http.Mails
import DmarcReportViewer.Http.Summary
import DmarcReportViewer.Http.TlsReports
import DmarcReportViewer.Lib.Forms

/-!
# Filters in query strings

How the filters of the handlers are extracted from the query string of a request.  A
request is rejected if a filter occurs repeatedly or if its value has the wrong type, and
parameters with other names are ignored.
-/

namespace DmarcReportViewer

open Forms Text

namespace Query

def readBool (text : String) : Option Bool :=
  if text = "true" then some true else if text = "false" then some false else none

def readUsize (text : String) : Option Nat :=
  match parseNumber text with
  | .ok number => if number < 2 ^ 64 then some number else none
  | .error _ => none

def readU64 (text : String) : Option UInt64 :=
  (readUsize text).map UInt64.ofNat

def readI64 (text : String) : Option Int :=
  match stripPrefix text "-" with
  | some digits =>
      match parseNumber digits with
      | .ok number => if startsWith digits "+" ∨ 2 ^ 63 < number then none else some (-number)
      | .error _ => none
  | none =>
      match parseNumber text with
      | .ok number => if number < 2 ^ 63 then some number else none
      | .error _ => none

def readAttachment (text : String) : Option Mails.Attachment :=
  if text = "dmarc" then some .dmarc
  else if text = "tls" then some .tls
  else if text = "none" then some .none
  else none

end Query

open Query

variable (pairs : List (String × String))

def DmarcReports.ReportFilters.fromPairs : Option ReportFilters := do
  let id ← field pairs "id" some
  let flagged ← field pairs "flagged" readBool
  let flaggedDkim ← field pairs "flagged_dkim" readBool
  let flaggedSpf ← field pairs "flagged_spf" readBool
  let flaggedDmarc ← field pairs "flagged_dmarc" readBool
  let domain ← field pairs "domain" some
  let org ← field pairs "org" some
  let ip ← field pairs "ip" some
  let begin ← field pairs "begin" readU64
  let «end» ← field pairs "end" readU64
  let recordsGt ← field pairs "records_gt" readUsize
  return {
    id := id
    flagged := flagged
    flaggedDkim := flaggedDkim
    flaggedSpf := flaggedSpf
    flaggedDmarc := flaggedDmarc
    domain := domain
    org := org
    ip := ip
    begin := begin
    «end» := «end»
    recordsGt := recordsGt }

def TlsReports.ReportFilters.fromPairs : Option ReportFilters := do
  let id ← field pairs "id" some
  let flagged ← field pairs "flagged" readBool
  let flaggedSts ← field pairs "flagged_sts" readBool
  let flaggedTlsa ← field pairs "flagged_tlsa" readBool
  let domain ← field pairs "domain" some
  let org ← field pairs "org" some
  let ip ← field pairs "ip" some
  return {
    id := id
    flagged := flagged
    flaggedSts := flaggedSts
    flaggedTlsa := flaggedTlsa
    domain := domain
    org := org
    ip := ip }

def Mails.MailFilters.fromPairs : Option MailFilters := do
  let sender ← field pairs "sender" some
  let attachment ← field pairs "attachment" readAttachment
  let oversized ← field pairs "oversized" readBool
  let errors ← field pairs "errors" readBool
  let duplicates ← field pairs "duplicates" readBool
  let begin ← field pairs "begin" readI64
  let «end» ← field pairs "end" readI64
  return {
    sender := sender
    attachment := attachment
    oversized := oversized
    errors := errors
    duplicates := duplicates
    begin := begin
    «end» := «end» }

def SummaryFilters.fromPairs : Option SummaryFilters := do
  let timeSpan ← field pairs "time_span" readU64
  let domain ← field pairs "domain" some
  return {
    timeSpan := timeSpan
    domain := domain }

section Requests

variable (env : Externals) (query : String)

def DmarcReports.ReportFilters.fromQuery : Option ReportFilters :=
  fromPairs (parse env.fromUtf8Lossy query)

def TlsReports.ReportFilters.fromQuery : Option ReportFilters :=
  fromPairs (parse env.fromUtf8Lossy query)

def Mails.MailFilters.fromQuery : Option MailFilters :=
  fromPairs (parse env.fromUtf8Lossy query)

def SummaryFilters.fromQuery : Option SummaryFilters :=
  fromPairs (parse env.fromUtf8Lossy query)

end Requests

section Encoding

/-- The packages decode percent-encoded UTF-8 as they document it. -/
structure Externals.DecodesUtf8 (env : Externals) : Prop where
  urlDecode : ∀ text, env.urlDecode text = Percent.decode text
  lossy : ∀ text, env.fromUtf8Lossy (asBytes text) = text

/-- The outside code with percent-encoding as the packages document it. -/
def decodingEnv : Externals :=
  { sampleEnv with
    urlDecode := Percent.decode
    fromUtf8Lossy := fun bytes => (fromUtf8 bytes).getD "\uFFFD" }

theorem decodesUtf8_decodingEnv : decodingEnv.DecodesUtf8 where
  urlDecode _ := rfl
  lossy text := by
    change (fromUtf8 (asBytes text)).getD _ = text
    rw [fromUtf8_eq_some_iff.mpr rfl, Option.getD_some]

end Encoding

end DmarcReportViewer

import DmarcReportViewer.Lib.Substitution
import DmarcReportViewer.State

/-!
# Details for the web hook

The model of `get_mail_details` from `web_hook.rs`: the values which the
templates of a web hook can refer to, looked up in the current state.  Then
`inject_mail_details` puts them into a template, in the iteration order of a hash map.
The encoding of values in URLs is a parameter.
-/

namespace DmarcReportViewer

open Collections

def getMailDetails (mailId : String) (state : AppState) : Result (HashMap String String) := do
  let mail ← orError state.mails[mailId]? "Failed to find details for new mail"
  let dmarcReports := ((valueList state.dmarcReports).filter fun r => r.mailId = mailId).length
  let tlsReports := ((valueList state.tlsReports).filter fun r => r.mailId = mailId).length
  return (∅ : HashMap String String).insertMany [
    ("id", mailId),
    ("uid", toString mail.uid),
    ("sender", mail.sender),
    ("subject", mail.subject),
    ("folder", mail.folder),
    ("account", mail.account),
    ("dmarc_reports", toString dmarcReports),
    ("tls_reports", toString tlsReports)]

/-- The details of a mail are available exactly as long as the state has it. -/
theorem getMailDetails_isOk_iff {mailId : String} {state : AppState} :
    (∃ details, getMailDetails mailId state = .ok details) ↔ mailId ∈ state.mails := by
  rw [Std.ExtTreeMap.mem_iff_isSome_getElem?]
  cases found : state.mails[mailId]? with
  | none => simp [getMailDetails, found, orError, bind, Except.bind]
  | some mail => simp [getMailDetails, found, orError, bind, Except.bind, pure, Except.pure]

def placeholder (key : String) : String :=
  "[" ++ key ++ "]"

/-- `str::replace`. -/
def replaceText (text pattern new : String) : String :=
  String.ofList (Substitution.replace pattern.toList new.toList text.toList)

/-- A value as it is put into a template. -/
def encodeValue (urlEncode : String → String) (urlEncodeValue : Bool) (value : String) : String :=
  if urlEncodeValue then urlEncode value else value

/-- The loop of `inject_mail_details`. -/
def injectEntries (urlEncode : String → String) (urlEncodeValue : Bool)
    (entries : List (String × String)) (template : String) : String :=
  entries.foldl (fun template (key, value) =>
    replaceText template (placeholder key) (encodeValue urlEncode urlEncodeValue value)) template

def injectMailDetails (urlEncode : String → String) (order : IterationOrder String String)
    (details : HashMap String String) (template : String) (urlEncodeValue : Bool) :
    Result String :=
  .ok (injectEntries urlEncode urlEncodeValue (iterate order details) template)

end DmarcReportViewer

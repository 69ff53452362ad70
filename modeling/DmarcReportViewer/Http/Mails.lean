import DmarcReportViewer.Externals
import DmarcReportViewer.State

/-!
# The list of mails

The model of `list_handler` in `http/mails.rs`.  The list shows every mail that passes all
filters of the request.
-/

namespace DmarcReportViewer.Mails

open Collections

inductive Attachment where
  | dmarc
  | tls
  | none
deriving DecidableEq

/-- A filter that is not part of the request is disabled. -/
structure MailFilters where
  sender : Option String := none
  attachment : Option Attachment := none
  oversized : Option Bool := none
  errors : Option Bool := none
  duplicates : Option Bool := none
  /-- Keep mails received on or after this Unix timestamp. -/
  begin : Option Int := none
  /-- Keep mails received on or before this Unix timestamp. -/
  «end» : Option Int := none
deriving DecidableEq

/-- Remove the URL encoding from the sender.  A sender that cannot be decoded disables its
filter. -/
def MailFilters.urlDecode (env : Externals) (filters : MailFilters) : MailFilters :=
  { filters with sender := (filters.sender.bind env.urlDecode).map env.toLowercase }

def hasAttachment (m : Mail) : Attachment → Bool
  | .dmarc => m.xmlFiles > 0
  | .tls => m.jsonFiles > 0
  | .none => m.xmlFiles = 0 && m.jsonFiles = 0

/-- The handler of the list, a chain of filters over the mails. -/
def listHandler (env : Externals) (state : AppState) (filters : MailFilters) : List Mail :=
  let filters := filters.urlDecode env
  valueList state.mails
    |>.filter (fun m => filters.sender.all fun queriedSender =>
        env.toLowercase m.sender = queriedSender)
    |>.filter (fun m => filters.oversized.all fun queriedOversized =>
        m.oversized = queriedOversized)
    |>.filter (fun m => filters.attachment.all fun queriedType => hasAttachment m queriedType)
    |>.filter (fun m => filters.errors.all fun queriedErrors =>
        (m.xmlParsingErrors > 0 || m.jsonParsingErrors > 0) = queriedErrors)
    |>.filter (fun m => filters.duplicates.all fun duplicates =>
        (!m.dmarcDuplicates.isEmpty || !m.tlsDuplicates.isEmpty) = duplicates)
    |>.filter (fun m =>
        filters.begin.all (fun begin => m.date ≥ begin) &&
          filters.«end».all (fun endTime => m.date ≤ endTime))

/-- A mail passes the decoded filters of a request. -/
structure MailFilters.Passes (env : Externals) (filters : MailFilters) (m : Mail) : Prop where
  sender : ∀ sender ∈ filters.sender, env.toLowercase m.sender = sender
  oversized : ∀ oversized ∈ filters.oversized, m.oversized = oversized
  attachment : ∀ attachment ∈ filters.attachment, hasAttachment m attachment = true
  errors : ∀ errors ∈ filters.errors,
    (m.xmlParsingErrors > 0 || m.jsonParsingErrors > 0) = errors
  duplicates : ∀ duplicates ∈ filters.duplicates,
    (!m.dmarcDuplicates.isEmpty || !m.tlsDuplicates.isEmpty) = duplicates
  begin : ∀ begin ∈ filters.begin, begin ≤ m.date
  «end» : ∀ endTime ∈ filters.«end», m.date ≤ endTime

/-- The list shows exactly the mails which pass. -/
theorem mem_listHandler_iff {env : Externals} {state : AppState} {filters : MailFilters}
    {m : Mail} :
    m ∈ listHandler env state filters ↔
      m ∈ valueList state.mails ∧ (filters.urlDecode env).Passes env m := by
  simp only [listHandler, List.mem_filter, Option.all_eq_true, Bool.and_eq_true,
    decide_eq_true_eq]
  constructor
  · rintro ⟨⟨⟨⟨⟨⟨stored, sender⟩, oversized⟩, attachment⟩, errors⟩, duplicates⟩, begin, endTime⟩
    exact ⟨stored, sender, oversized, attachment, errors, duplicates, begin, endTime⟩
  · rintro ⟨stored, passes⟩
    exact ⟨⟨⟨⟨⟨⟨stored, passes.sender⟩, passes.oversized⟩, passes.attachment⟩, passes.errors⟩,
      passes.duplicates⟩, passes.begin, passes.«end»⟩

end DmarcReportViewer.Mails

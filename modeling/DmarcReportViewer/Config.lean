/-!
# Configuration

The settings of `config.rs` which the modelled functions read.
-/

namespace DmarcReportViewer

/-- The method of requesting the mail body from the IMAP server. -/
inductive ImapBodyRequest where
  | default
  | rfc822
  | body
deriving DecidableEq

def ImapBodyRequest.toRequestString : ImapBodyRequest → String
  | .default => "RFC822 BODY[]"
  | .rfc822 => "RFC822"
  | .body => "BODY[]"

structure Configuration where
  imapUser : String
  imapFolder : String
  imapFolderDmarc : Option String
  imapFolderTls : Option String
  imapBodyRequest : ImapBodyRequest
  imapChunkSize : Nat
  disableDuplicateFilter : Bool
  maxMailSize : UInt32
  mailWebHookUrl : Option String
deriving DecidableEq

end DmarcReportViewer

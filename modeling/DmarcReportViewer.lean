import DmarcReportViewer.Lib.Collections
import DmarcReportViewer.Lib.FirstWins
import DmarcReportViewer.Lib.Histogram
import DmarcReportViewer.Lib.Text
import DmarcReportViewer.Lib.Fallible
import DmarcReportViewer.Lib.Runs
import DmarcReportViewer.Basic
import DmarcReportViewer.Config
import DmarcReportViewer.Dmarc
import DmarcReportViewer.Tls
import DmarcReportViewer.Hasher
import DmarcReportViewer.Mail
import DmarcReportViewer.CacheMap
import DmarcReportViewer.State
import DmarcReportViewer.WebHook
import DmarcReportViewer.Externals
import DmarcReportViewer.Unpack
import DmarcReportViewer.Imap
import DmarcReportViewer.Background
import DmarcReportViewer.Background.Collection
import DmarcReportViewer.Background.Parsing
import DmarcReportViewer.Background.Outcome
import DmarcReportViewer.Background.Runs
import DmarcReportViewer.Background.Accounting
import DmarcReportViewer.Background.DuplicateFilter
import DmarcReportViewer.Background.Resending
import DmarcReportViewer.Http.Summary
import DmarcReportViewer.Http.Histograms
import DmarcReportViewer.Http.DomainFilter
import DmarcReportViewer.Http.DmarcReports
import DmarcReportViewer.Http.TlsReports
import DmarcReportViewer.Http.Agreement
import DmarcReportViewer.Http.Sources
import DmarcReportViewer.Http.Metrics
import DmarcReportViewer.Ui.SourceFilter
import DmarcReportViewer.CacheMap.Recency
import DmarcReportViewer.DnsClientCached
import DmarcReportViewer.Http.BasicAuth
import DmarcReportViewer.Background.Steps
import DmarcReportViewer.DnsClient
import DmarcReportViewer.Http.Ips
import DmarcReportViewer.Ui.SourcesView
import DmarcReportViewer.Lib.Serde
import DmarcReportViewer.Lib.Serde.Json
import DmarcReportViewer.Lib.Serde.Xml
import DmarcReportViewer.Dmarc.Serde
import DmarcReportViewer.Tls.Serde
import DmarcReportViewer.Http.Export
import DmarcReportViewer.Imap.SizeLimit
import DmarcReportViewer.Imap.Chunks
import DmarcReportViewer.Imap.Unsolicited
import DmarcReportViewer.CacheMap.Reinsertion
import DmarcReportViewer.Lib.Substitution
import DmarcReportViewer.Subject
import DmarcReportViewer.Subject.QEncoding
import DmarcReportViewer.Subject.SinglePass
import DmarcReportViewer.Lib.Placeholders
import DmarcReportViewer.WebHook.Templates
import DmarcReportViewer.Unpack.Isolation
import DmarcReportViewer.Http.TimeSpan
import DmarcReportViewer.Http.Overflow
import DmarcReportViewer.DnsClient.Names
import DmarcReportViewer.Http.Flags
import DmarcReportViewer.Subject.QGrammar
import DmarcReportViewer.Lib.Splitting
import DmarcReportViewer.Ui.DmarcReport
import DmarcReportViewer.Http.MetricsText
import DmarcReportViewer.Lib.Percent
import DmarcReportViewer.Unpack.NameParts
import DmarcReportViewer.Http.Mails
import DmarcReportViewer.Http.Query
import DmarcReportViewer.Lib.Escapes
import DmarcReportViewer.Http.SuppliedFilters
import DmarcReportViewer.Ui.Dashboard
import DmarcReportViewer.Ui.Charts
import DmarcReportViewer.DnsClient.ReverseNames
import DmarcReportViewer.Background.Counters
import DmarcReportViewer.Ui.GroupData
import DmarcReportViewer.Whois
import DmarcReportViewer.Background.Delivery
import DmarcReportViewer.Imap.Folders
import DmarcReportViewer.Background.Identities
import DmarcReportViewer.Lib.BoundedReads
import DmarcReportViewer.HttpClient
import DmarcReportViewer.WebHook.Requests
import DmarcReportViewer.Background.Task
import DmarcReportViewer.Lib.CachedLookups
import DmarcReportViewer.Http.Locations
import DmarcReportViewer.Http.Routes
import DmarcReportViewer.Http.Entries
import DmarcReportViewer.Lib.Routing
import DmarcReportViewer.Ui.Entries
import DmarcReportViewer.Lib.Calendar
import DmarcReportViewer.Ui.DateFilter
import DmarcReportViewer.Ui.ColumnFilters
import DmarcReportViewer.Lib.Loads
import DmarcReportViewer.Ui.EntryPages
import DmarcReportViewer.Ui.IpDetails
import DmarcReportViewer.Ui.ListPages
import DmarcReportViewer.Ui.SourcesTable

import DmarcReportViewer.CacheMap
import DmarcReportViewer.Dmarc
import DmarcReportViewer.Mail
import DmarcReportViewer.Tls

/-!
# The shared application state

The model of `state.rs`: what the background task writes and the HTTP handlers
read.  The DNS client has a lock and a cache of its own and is left out.
-/

namespace DmarcReportViewer

open Collections

/-- A report with the ID of the mail that contained it. -/
structure ReportWithMailId (ρ : Type) where
  mailId : String
  report : ρ
deriving DecidableEq

abbrev DmarcReportWithMailId : Type :=
  ReportWithMailId Dmarc.Report

abbrev TlsReportWithMailId : Type :=
  ReportWithMailId Tls.Report

/-- The reports which files of a type contain. -/
abbrev ReportOf : FileType → Type
  | .json => Tls.Report
  | .xml => Dmarc.Report

structure ReportParsingError where
  error : String
  report : String
  kind : FileType
deriving DecidableEq

section MapKeys

/-- IPv4 addresses before IPv6 addresses, each in numerical order. -/
def IpAddr.rank : IpAddr → Nat
  | .v4 address => address.toNat
  | .v6 address => 2 ^ 32 + address.toNat

theorem IpAddr.rank_injective : Function.Injective IpAddr.rank := by
  intro left right same
  cases left with
  | v4 left =>
      cases right with
      | v4 right => exact congrArg IpAddr.v4 (BitVec.eq_of_toNat_eq same)
      | v6 right =>
          have bound := left.isLt
          simp only [IpAddr.rank] at same
          omega
  | v6 left =>
      cases right with
      | v4 right =>
          have bound := right.isLt
          simp only [IpAddr.rank] at same
          omega
      | v6 right =>
          simp only [IpAddr.rank] at same
          exact congrArg IpAddr.v6 (BitVec.eq_of_toNat_eq (by omega))

instance : Ord IpAddr := ⟨compareOn IpAddr.rank⟩

instance : Std.TransOrd IpAddr :=
  inferInstanceAs (Std.TransCmp (compareOn IpAddr.rank))

instance : Std.LawfulEqOrd IpAddr :=
  lawfulEqCmp_compareOn IpAddr.rank_injective

end MapKeys

/-- The data of `geolocate.rs` about an IP address. -/
structure Location where
  autonomousSystem : String
  country : String
  city : String
  countryCode : String
  hosting : Bool
  isp : String
  lat : Float
  lon : Float
  org : String
  proxy : Bool
  regionName : String
  timezone : String

def cacheSize : Nat :=
  10000

structure AppState where
  startTime : UInt64
  firstUpdate : Bool
  mails : BTreeMap String Mail
  dmarcReports : BTreeMap String DmarcReportWithMailId
  tlsReports : BTreeMap String TlsReportWithMailId
  xmlFiles : Nat
  jsonFiles : Nat
  lastUpdate : UInt64
  nextUpdate : UInt64
  lastUpdateDuration : Float
  parsingErrors : HashMap String (List ReportParsingError)
  ipLocationCache : CacheMap IpAddr Location

namespace AppState

def new (startTime : UInt64) : AppState where
  startTime := startTime
  firstUpdate := true
  mails := ∅
  dmarcReports := ∅
  tlsReports := ∅
  xmlFiles := 0
  jsonFiles := 0
  lastUpdate := 0
  nextUpdate := 0
  lastUpdateDuration := 0.0
  parsingErrors := ∅
  ipLocationCache := CacheMap.ofSize cacheSize (by decide)

/-- The stored reports of a type. -/
def reports (state : AppState) :
    (fileType : FileType) → BTreeMap String (ReportWithMailId (ReportOf fileType))
  | .json => state.tlsReports
  | .xml => state.dmarcReports

/-- The number of files of a type. -/
def fileCount (state : AppState) : FileType → Nat
  | .json => state.jsonFiles
  | .xml => state.xmlFiles

/-- The only write of an HTTP handler to the state: `to_location_handler`
caches a location it has looked up. -/
def cacheLocation (order : IterationOrder IpAddr (CacheMap.Entry Location)) (ip : IpAddr)
    (location : Location) (state : AppState) : AppState :=
  { state with ipLocationCache := state.ipLocationCache.insert order ip location }

end AppState

end DmarcReportViewer

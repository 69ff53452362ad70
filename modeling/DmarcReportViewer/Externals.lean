import DmarcReportViewer.Dmarc
import DmarcReportViewer.Hasher
import DmarcReportViewer.Subject
import DmarcReportViewer.Tls

/-!
# Code outside of the repository

The functions of third-party packages and of the Unicode tables which the
modelled functions call.  Nothing is assumed about them.
-/

namespace DmarcReportViewer

/-- A part of a MIME message: its first `Content-Type` header and its body
after transfer decoding. -/
structure MailPart where
  contentType : Option String
  bodyRaw : Result (List UInt8)

structure ZipEntry where
  name : String
  contents : Result (List UInt8)

structure Externals where
  sha256 : Sha256
  toLowercase : String → String
  fromUtf8Lossy : List UInt8 → String
  base64Decode : String → Result (List UInt8)
  forLabel : List UInt8 → Option (List UInt8 → String)
  urlDecode : String → Option String
  parseIp : String → Option IpAddr
  parseMail : List UInt8 → Result (List MailPart)
  zipArchive : List UInt8 → Result (List (Result ZipEntry))
  gzDecode : List UInt8 → Result (List UInt8)
  xmlFromReader : List UInt8 → Result Dmarc.Report
  jsonFromSlice : List UInt8 → Result Tls.Report

namespace Externals

/-- What decoding a subject calls. -/
def codecs (env : Externals) : Subject.Codecs where
  base64Decode := env.base64Decode
  forLabel := env.forLabel
  toLowercase := env.toLowercase

/-- `decode_subject`, which panics on some subjects. -/
def decodeSubject (env : Externals) (value : String) : Option String :=
  Subject.decodeSubject (Subject.decodeWord env.codecs) value

end Externals

end DmarcReportViewer

import DmarcReportViewer.Basic

/-!
# Mails

The data of `mail.rs`, with the type of a report file from `state.rs`.  A mail
counts XML and JSON files separately; the accessors below select the counters
of one file type.
-/

namespace DmarcReportViewer

/-- The type of a file that can contain report data. -/
inductive FileType where
  | json
  | xml
deriving DecidableEq

structure Mail where
  id : String
  account : String
  folder : String
  uid : UInt32
  size : Nat
  oversized : Bool
  date : Int
  subject : String
  sender : String
  «to» : String
  body : Option (List UInt8)
  xmlFiles : Nat
  jsonFiles : Nat
  xmlParsingErrors : Nat
  jsonParsingErrors : Nat
  dmarcDuplicates : List String
  tlsDuplicates : List String
deriving DecidableEq

namespace Mail

/-- The number of files of a type that were found in the mail. -/
def files (mail : Mail) : FileType → Nat
  | .xml => mail.xmlFiles
  | .json => mail.jsonFiles

def parsingErrors (mail : Mail) : FileType → Nat
  | .xml => mail.xmlParsingErrors
  | .json => mail.jsonParsingErrors

/-- The hashes of the reports of which the mail contained duplicates. -/
def duplicates (mail : Mail) : FileType → List String
  | .xml => mail.dmarcDuplicates
  | .json => mail.tlsDuplicates

def countFile (mail : Mail) : FileType → Mail
  | .xml => { mail with xmlFiles := mail.xmlFiles + 1 }
  | .json => { mail with jsonFiles := mail.jsonFiles + 1 }

def countParsingError (mail : Mail) : FileType → Mail
  | .xml => { mail with xmlParsingErrors := mail.xmlParsingErrors + 1 }
  | .json => { mail with jsonParsingErrors := mail.jsonParsingErrors + 1 }

def pushDuplicate (mail : Mail) (fileType : FileType) (foundHash : String) : Mail :=
  match fileType with
  | .xml => { mail with dmarcDuplicates := mail.dmarcDuplicates ++ [foundHash] }
  | .json => { mail with tlsDuplicates := mail.tlsDuplicates ++ [foundHash] }

/-- No file of the mail was looked at yet. -/
structure Fresh (mail : Mail) : Prop where
  files : ∀ fileType, mail.files fileType = 0
  parsingErrors : ∀ fileType, mail.parsingErrors fileType = 0
  duplicates : ∀ fileType, mail.duplicates fileType = []

section Accessors

variable (mail : Mail) (fileType other : FileType) (foundHash : String)

@[simp]
theorem id_countFile : (mail.countFile fileType).id = mail.id := by
  cases fileType <;> rfl

@[simp]
theorem body_countFile : (mail.countFile fileType).body = mail.body := by
  cases fileType <;> rfl

@[simp]
theorem files_countFile :
    (mail.countFile fileType).files other =
      mail.files other + if fileType = other then 1 else 0 := by
  cases fileType <;> cases other <;> rfl

@[simp]
theorem parsingErrors_countFile :
    (mail.countFile fileType).parsingErrors other = mail.parsingErrors other := by
  cases fileType <;> cases other <;> rfl

@[simp]
theorem duplicates_countFile :
    (mail.countFile fileType).duplicates other = mail.duplicates other := by
  cases fileType <;> cases other <;> rfl

@[simp]
theorem id_countParsingError : (mail.countParsingError fileType).id = mail.id := by
  cases fileType <;> rfl

@[simp]
theorem body_countParsingError : (mail.countParsingError fileType).body = mail.body := by
  cases fileType <;> rfl

@[simp]
theorem files_countParsingError :
    (mail.countParsingError fileType).files other = mail.files other := by
  cases fileType <;> cases other <;> rfl

@[simp]
theorem parsingErrors_countParsingError :
    (mail.countParsingError fileType).parsingErrors other =
      mail.parsingErrors other + if fileType = other then 1 else 0 := by
  cases fileType <;> cases other <;> rfl

@[simp]
theorem duplicates_countParsingError :
    (mail.countParsingError fileType).duplicates other = mail.duplicates other := by
  cases fileType <;> cases other <;> rfl

@[simp]
theorem id_pushDuplicate : (mail.pushDuplicate fileType foundHash).id = mail.id := by
  cases fileType <;> rfl

@[simp]
theorem body_pushDuplicate : (mail.pushDuplicate fileType foundHash).body = mail.body := by
  cases fileType <;> rfl

@[simp]
theorem files_pushDuplicate :
    (mail.pushDuplicate fileType foundHash).files other = mail.files other := by
  cases fileType <;> cases other <;> rfl

@[simp]
theorem parsingErrors_pushDuplicate :
    (mail.pushDuplicate fileType foundHash).parsingErrors other = mail.parsingErrors other := by
  cases fileType <;> cases other <;> rfl

@[simp]
theorem duplicates_pushDuplicate :
    (mail.pushDuplicate fileType foundHash).duplicates other =
      mail.duplicates other ++ if fileType = other then [foundHash] else [] := by
  cases fileType <;> cases other <;> simp [pushDuplicate, duplicates]

end Accessors

end Mail

end DmarcReportViewer

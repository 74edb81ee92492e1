import KeyRotation.Decimal
import KeyRotation.KeyStatus
import KeyRotation.Text.Unicode

/-! Why an operation came to nothing, and the values of a database whose form can be the cause.
Faults end a run without a report; what is expected of a run, such as a record that fails or a
target that moves, is no fault. -/
namespace KeyRotation

/-- A text is stored as bytes; one that is no UTF-8 cannot be read as text. A NaN is
stored as null. -/
inductive Cell where
  | null
  | integer (value : Int64)
  | real (value : Decimal.Binary64)
  | text (value : String)
  | rawText (bytes : List UInt8)
  | blob (bytes : List UInt8)
  deriving DecidableEq, Repr

namespace Cell

def ofBytes (bytes : List UInt8) : Cell :=
  match String.fromUTF8? ⟨bytes.toArray⟩ with
  | some value => .text value
  | none => .rawText bytes

/-- Numbers are written in full from four places behind the point to sixteen digits in
front of it. -/
def layout : Decimal.Layout := ⟨-4, 15, false, "inf"⟩

def shownReal (value : Decimal.Binary64) : String := "Real(" ++ layout.render value ++ ")"

def shownBlob (bytes : List UInt8) : String :=
  "Blob([" ++ ", ".intercalate (bytes.map fun b => toString b.toNat) ++ "])"

end Cell

inductive FileFault where
  | notFound
  | isDirectory
  | notDirectory
  | nameTooLong
  | nullInName
  | notText
  deriving DecidableEq, Repr

def FileFault.message : FileFault → String
  | .notFound => "No such file or directory (os error 2)"
  | .isDirectory => "Is a directory (os error 21)"
  | .notDirectory => "Not a directory (os error 20)"
  | .nameTooLong => "File name too long (os error 36)"
  | .nullInName => "file name contained an unexpected NUL byte"
  | .notText => "stream did not contain valid UTF-8"

inductive ConfigFault where
  | emptyUrl
  | missingSection (kind : KeyKind)
  | batchSizeRequired (kind : KeyKind)
  | batchSizeZero
  | unreadable (path : String) (cause : FileFault)
  | notAVersion (key text : String)
  | unexpectedReal (key : String) (value : Decimal.Binary64)
  | unexpectedBlob (key : String) (bytes : List UInt8)
  | stated (text : String)
  deriving DecidableEq, Repr

def ConfigFault.message : ConfigFault → String
  | .emptyUrl => "key_api.url must not be empty"
  | .missingSection kind => "missing [" ++ kind.jobSection ++ "] section"
  | .batchSizeRequired kind => kind.title ++ " job: batch_size is required"
  | .batchSizeZero => "batch_size must be at least 1"
  | .unreadable path cause => "cannot read " ++ path ++ ": " ++ cause.message
  | .notAVersion key text => key ++ " is not a version: " ++ Text.quoted text
  | .unexpectedReal key value => key ++ " has unexpected type: " ++ Cell.shownReal value
  | .unexpectedBlob key bytes => key ++ " has unexpected type: " ++ Cell.shownBlob bytes
  | .stated text => text

inductive ProtocolFault where
  | unexpectedRoot (name : String)
  | noStatus
  | refused (status : String)
  | notANumber (element text : String)
  | noVersion (element : String)
  | badVersion (text : String)
  | badCount (text : String)
  | noTarget
  | stated (text : String)
  deriving DecidableEq, Repr

def ProtocolFault.message : ProtocolFault → String
  | .unexpectedRoot name => "unexpected root element <" ++ name ++ ">"
  | .noStatus => "response has no <status>"
  | .refused status => "KeyAPI status: " ++ status
  | .notANumber element text => "<" ++ element ++ "> is not a number: " ++ Text.quoted text
  | .noVersion element => "<" ++ element ++ "> without version"
  | .badVersion text => "bad key version: " ++ Text.quoted text
  | .badCount text => "bad key count: " ++ Text.quoted text
  | .noTarget => "no target"
  | .stated text => text

/-- `crashed` is the one fault without an error value: the process stops where it is. -/
inductive Fault where
  | config (cause : ConfigFault)
  | protocol (cause : ProtocolFault)
  | io
  | sql
  | http
  | xml
  | toml
  | crashed
  deriving DecidableEq, Repr

def Fault.message : Fault → String
  | .config cause => "configuration error: " ++ cause.message
  | .protocol cause => "KeyAPI protocol error: " ++ cause.message
  | .io => "IO error"
  | .sql => "Database error"
  | .http => "KeyAPI transport error"
  | .xml => "KeyAPI returned malformed XML"
  | .toml => "Invalid TOML"
  | .crashed => "the process stopped"

end KeyRotation

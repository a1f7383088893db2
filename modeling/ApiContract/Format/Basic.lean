import ApiContract.Format.Calendar
import ApiContract.Format.Email
import ApiContract.Format.Hostname
import ApiContract.Format.Url
import ApiContract.Format.Uuid
import ApiContract.Text.Base64

/-!
# Formats of strings

A schema may name a format for strings.  The names of number widths, and names that
are not known, put no condition on a string.
-/

namespace ApiContract

/-- A format that a schema names. -/
inductive Format where
  | uuid
  | email
  | url
  | uri
  | hostname
  | ipv4
  | ipv6
  | byte
  | date
  | dateTime
  | time
  | int32
  | int64
  | float
  | double
  | other
  deriving DecidableEq, Repr

namespace Format

/-- The formats with a name, in the order of their numbers. -/
def named : List (String × Format) :=
  [("uuid", .uuid), ("email", .email), ("url", .url), ("uri", .uri),
    ("hostname", .hostname), ("ipv4", .ipv4), ("ipv6", .ipv6), ("byte", .byte),
    ("date", .date), ("date-time", .dateTime), ("time", .time), ("int32", .int32),
    ("int64", .int64), ("float", .float), ("double", .double)]

/-- The format of a name. -/
def ofName (name : String) : Format :=
  (named.lookup name).getD .other

/-- The name of a format. -/
def name : Format → String
  | .uuid => "uuid"
  | .email => "email"
  | .url => "url"
  | .uri => "uri"
  | .hostname => "hostname"
  | .ipv4 => "ipv4"
  | .ipv6 => "ipv6"
  | .byte => "byte"
  | .date => "date"
  | .dateTime => "date-time"
  | .time => "time"
  | .int32 => "int32"
  | .int64 => "int64"
  | .float => "float"
  | .double => "double"
  | .other => "other"

/-- Whether a string has the format. -/
def accepts (format : Format) (value : String) : Bool :=
  let text := value.toList
  match format with
  | .uuid => Uuid.isUuid text
  | .email => Email.isEmail text
  | .url => Url.isUrl text
  | .uri => Url.isUri text
  | .hostname => Hostname.isHostname text
  | .ipv4 => Address.isV4 text
  | .ipv6 => Address.isV6 text
  | .byte => (Base64.decode? text).isSome
  | .date => Calendar.isDate text
  | .dateTime => Calendar.isDateTime text
  | .time => Calendar.isTime text
  | .int32 | .int64 | .float | .double | .other => true

end Format
end ApiContract

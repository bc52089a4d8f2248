import TimingFeed.Config.Validation
import TimingFeed.Text.Quoted

/-!
# Errors about settings

Why settings cannot be read, are not accepted or cannot be written. Each cause has
one wording, `ConfigError.message`.
-/

namespace TimingFeed

/-- Why a file cannot be reached or read. -/
inductive FileError
  | notFound
  | notText
  deriving DecidableEq, Repr

/-- The wording of a file error. -/
def FileError.message : FileError → String
  | notFound => "No such file or directory (os error 2)"
  | notText => "stream did not contain valid UTF-8"

/-- Why a well-formed document does not hold settings. -/
inductive SettingError
  /-- A value of the wrong kind; `found` describes it. -/
  | invalidType (found expected : String)
  /-- An integer out of range. -/
  | invalidValue (found : Int) (expected : String)
  /-- A list with too few items. -/
  | invalidLength (found : Nat) (expected : String)
  | missingField (name : String)
  | invalidLevel (text : String)
  deriving DecidableEq, Repr

/-- The wording of a setting error. -/
def SettingError.message : SettingError → String
  | invalidType found expected => s!"invalid type: {found}, expected {expected}"
  | invalidValue found expected =>
    "invalid value: integer `" ++ toString found ++ "`, expected " ++ expected
  | invalidLength found expected => s!"invalid length {found}, expected {expected}"
  | missingField name => "missing field `" ++ name ++ "`"
  | invalidLevel text => "Invalid log level: " ++ text

/-- Why settings cannot be read, accepted or written. -/
inductive ConfigError
  | openFailed (cause : FileError)
  | readFailed (cause : FileError)
  | writeFailed (cause : FileError)
  /-- The text is not a document. -/
  | malformed
  /-- The document does not hold settings. -/
  | unsuitable (cause : SettingError)
  /-- A variable does not hold a number that fits. -/
  | invalidVariable (name raw : String)
  /-- The settings have problems. -/
  | rejected (problems : List ConfigProblem)
  /-- An integer is too large for a document. -/
  | unwritable
  /-- A cause that is only known by its text. -/
  | reported (text : String)
  deriving DecidableEq, Repr

/-- The wording of an error. Of a reason with several lines the last one is told. -/
def ConfigError.message : ConfigError → String
  | openFailed cause => "Failed to open config file: " ++ cause.message
  | readFailed cause => "Failed to read config file: " ++ cause.message
  | writeFailed cause => "Failed to write config file: " ++ cause.message
  | malformed => "Failed to parse TOML"
  | unsuitable cause => "Failed to parse TOML: " ++ Text.lastLine cause.message
  | invalidVariable name raw => "Invalid value for " ++ name ++ ": '" ++ raw ++ "'"
  | rejected problems =>
    "Configuration validation failed:\n  - " ++
      "\n  - ".intercalate (problems.map ConfigProblem.message)
  | unwritable => "Failed to serialize config: out-of-range value for u64 type"
  | reported text => text

end TimingFeed

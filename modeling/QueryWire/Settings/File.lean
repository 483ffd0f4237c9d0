import QueryWire.Settings.Basic
import QueryWire.Text.Blank
import QueryWire.Toml.Parser
import QueryWire.Toml.Printer

/-!
# Settings in files

Settings are kept in TOML, each under its own key; keys without a meaning are ignored.  Variables
of the environment win over what a file says.

* `Settings.ofText` — the settings in a text.
* `Settings.ofFile` — the settings in a file.
* `Settings.text?` — a file with the settings.
* `Settings.override` — settings after a look into the environment.
-/

namespace QueryWire

/-- The variables of the environment. -/
abbrev Environment := String → Option String

namespace Settings

/-! ## Keys -/

/-- A number under a key: none when something else stands there, and no number when nothing does. -/
def number? (document : Toml.Document) (key : String) : Option (Option UInt64) :=
  match document.get? key with
  | none => some none
  | some (.value (.integer n)) => if 0 ≤ n then some (some (UInt64.ofNat n.toNat)) else none
  | some _ => none

/-- A truth value under a key. -/
def boolean? (document : Toml.Document) (key : String) : Option (Option Bool) :=
  match document.get? key with
  | none => some none
  | some (.value (.boolean b)) => some (some b)
  | some _ => none

/-- The settings of a document; what it does not mention is as if nothing was set. -/
def ofDocument? (document : Toml.Document) : Option Settings := do
  let maxMessageSize ← number? document "max_message_size"
  let readBufferCapacity ← number? document "read_buffer_capacity"
  let requestTimeout ← number? document "request_timeout_ms"
  let codecCacheSize ← number? document "codec_cache_size"
  let implicitLimit ← number? document "implicit_limit"
  let implicitTypenames ← boolean? document "implicit_typenames"
  let allowCapabilities ← number? document "allow_capabilities"
  pure {
    maxMessageSize := maxMessageSize.getD initial.maxMessageSize
    readBufferCapacity := readBufferCapacity.getD initial.readBufferCapacity
    requestTimeout
    codecCacheSize := codecCacheSize.getD initial.codecCacheSize
    implicitLimit
    implicitTypenames := implicitTypenames.getD initial.implicitTypenames
    allowCapabilities }

/-- A number as it is written. -/
def integer (n : UInt64) : Toml.Value := .integer n.toNat

/-- The keys and values of settings, those that are not set left out. -/
def entries (s : Settings) : List (String × Toml.Value) :=
  let optional (key : String) (n : Option UInt64) : List (String × Toml.Value) :=
    (n.map fun n => (key, integer n)).toList
  [("max_message_size", integer s.maxMessageSize),
    ("read_buffer_capacity", integer s.readBufferCapacity)]
  ++ optional "request_timeout_ms" s.requestTimeout
  ++ [("codec_cache_size", integer s.codecCacheSize)]
  ++ optional "implicit_limit" s.implicitLimit
  ++ [("implicit_typenames", .boolean s.implicitTypenames)]
  ++ optional "allow_capabilities" s.allowCapabilities

/-- A file with the settings; none when a number is too large for the format. -/
def text? (s : Settings) : Option String := Toml.render? s.entries

/-! ## The environment -/

/-- The number that a variable holds, blanks around it aside. -/
def setting? (environment : Environment) (name : String) : Option UInt64 := do
  let text ← environment name
  let n ← Digits.unsigned? UInt64.size (Text.trimChars text.toList)
  pure (UInt64.ofNat n)

/-- A timeout, of which zero means that there is none. -/
def timeoutOf (milliseconds : UInt64) : Option UInt64 :=
  if milliseconds = 0 then none else some milliseconds

/-- The settings, those for which the environment has a number replaced by it. -/
def override (environment : Environment) (s : Settings) : Settings :=
  { s with
    maxMessageSize := (setting? environment "EDGEWIRE_MAX_MESSAGE_SIZE").getD s.maxMessageSize
    requestTimeout := match setting? environment "EDGEWIRE_REQUEST_TIMEOUT_MS" with
      | some milliseconds => timeoutOf milliseconds
      | none => s.requestTimeout
    implicitLimit := (setting? environment "EDGEWIRE_IMPLICIT_LIMIT").or s.implicitLimit }

/-- The settings in a text, after a look into the environment. -/
def ofText (environment : Environment) (text : String) : Except Error Settings :=
  match (Toml.parse? text).bind ofDocument? with
  | none => .error (.config .malformed)
  | some s => (s.override environment).checked

/-- The settings in the file that a path leads to, after a look into the environment. -/
def ofFile (files : Files) (environment : Environment) (path : String) : Except Error Settings :=
  match files.readText path with
  | .error cause => .error (.config (.unreadable path cause))
  | .ok text => ofText environment text

end Settings

end QueryWire

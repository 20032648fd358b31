import DocSamples.System.Host
import DocSamples.Text.Utf8
import DocSamples.Toml.Reader

/-!
Contract: configuration files.

Owns:
- taking the settings that are known out of a document;
- reading a configuration from a file, and the ways in which that fails.

A setting that a document lacks keeps its default.  What a document says beyond the
known settings does not matter, as long as it is well-formed.
-/

namespace DocSamples

inductive ConfigError where
  | unreadable (path : Text) (cause : SystemError)
  /-- The text is no document, or a setting has no text as its value. -/
  | malformed
deriving DecidableEq

def ConfigError.message? : ConfigError → Option Text
  | .unreadable path cause =>
    some ("Failed to read config file at ".toList ++ path ++ ": ".toList ++ cause.message)
  | .malformed => none

/-- The text that a document gives for a setting: the default if it gives none, and
nothing if it gives something else than a text. -/
def setting? (entries : Toml.Entries) (key : String) (default : Text) : Option Text :=
  match entries.lookup key.toList with
  | none => some default
  | some (.text value) => some value
  | some _ => none

def notText : SystemError :=
  .other "stream did not contain valid UTF-8".toList

def Files.loadConfig {World Config : Type} (files : Files World)
    (understand : Text → Except ConfigError Config) (path : Text) (world : World) :
    Except ConfigError Config :=
  match files.read path world with
  | .error cause => .error (.unreadable path cause)
  | .ok bytes =>
    match Utf8.decode? bytes with
    | none => .error (.unreadable path notText)
    | some text => understand text

end DocSamples

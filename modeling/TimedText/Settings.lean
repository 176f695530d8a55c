import TimedText.Alignment
import TimedText.Charset
import TimedText.Log.Format
import TimedText.Log.Level
import TimedText.Value

/-!
# Settings

What can be configured, in two sections.  The system section is about logging and the identity of a
session; the decoder section is about reading subtitles.  Settings are proper values: whether raw
input stands for them is decided by validation.
-/

namespace TimedText

/-- Settings about logging and the identity of a session. -/
structure SystemSettings where
  logLevel : Log.Level := .info
  logFormat : Log.Format := .text
  logDir : String := "output/logs"
  sessionId : String := ""
deriving DecidableEq, Repr

/-- Settings about reading subtitles. -/
structure DecoderSettings where
  encoding : String := ""
  localeEncoding : String := "CP1252"
  detectUtf8 : Bool := true
  align : Horizontal := .center
  formatted : Bool := true
deriving DecidableEq, Repr

namespace DecoderSettings

/-- What the settings say about the encoding of a session. -/
def preferences (settings : DecoderSettings) : Preferences :=
  { configured := settings.encoding,
    fallback := settings.localeEncoding,
    detect := settings.detectUtf8 }

/-- The place of subtitles that ask for none: at the bottom. -/
def defaultAlign (settings : DecoderSettings) : Alignment :=
  Alignment.place .bottom settings.align

end DecoderSettings

/-- All settings. -/
structure Settings where
  system : SystemSettings := {}
  decoder : DecoderSettings := {}
deriving DecidableEq, Repr

/-! ## Settings as raw values -/

/-- The value of system settings, complete and in order. -/
def SystemSettings.entries (settings : SystemSettings) : Entries :=
  [ (.name "log_level", .text settings.logLevel.name),
    (.name "log_format", .text settings.logFormat.name),
    (.name "log_dir", .text settings.logDir),
    (.name "session_id", .text settings.sessionId) ]

/-- The value of decoder settings, complete and in order. -/
def DecoderSettings.entries (settings : DecoderSettings) : Entries :=
  [ (.name "encoding", .text settings.encoding),
    (.name "locale_encoding", .text settings.localeEncoding),
    (.name "autodetect_utf8", .bool settings.detectUtf8),
    (.name "align", .int settings.align.bits),
    (.name "formatted", .bool settings.formatted) ]

/-- The value of settings, complete and in order. -/
def Settings.entries (settings : Settings) : Entries :=
  [ (.name "system", .mapping settings.system.entries),
    (.name "decoder", .mapping settings.decoder.entries) ]

end TimedText

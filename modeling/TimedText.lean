import TimedText.Charset
import TimedText.CommandLine.Run
import TimedText.Converter
import TimedText.Encoding
import TimedText.FileTree
import TimedText.Json
import TimedText.Log.Journal
import TimedText.Main
import TimedText.Markup
import TimedText.Session
import TimedText.Settings.Store
import TimedText.Style.Stack
import TimedText.Subtitle.RecordFile
import TimedText.Yaml
import TimedText.Proofs.Markup.Attribute
import TimedText.Proofs.Markup.Lexeme
import TimedText.Proofs.Markup.Origin
import TimedText.Proofs.Encoding.Utf8
import TimedText.Proofs.Markup.Segment
import TimedText.Proofs.Converter.Run
import TimedText.Proofs.Converter.Detection
import TimedText.Proofs.Converter.Recovery
import TimedText.Proofs.Charset.Choice
import TimedText.Proofs.Converter.Wide
import TimedText.Proofs.Session.Exit
import TimedText.Proofs.Session.Run
import TimedText.Proofs.Session.Tally
import TimedText.Proofs.Converter.Obstacle
import TimedText.Proofs.Session.Mismatch
import TimedText.Proofs.Markup.Forest
import TimedText.Proofs.Markup.Rendering
import TimedText.Proofs.Converter.Isolation
import TimedText.Proofs.Session.Passage
import TimedText.Proofs.Json.Reading
import TimedText.Proofs.FileTree.Place
import TimedText.Proofs.Subtitle.Record
import TimedText.Proofs.Subtitle.RecordFile
import TimedText.Proofs.Settings.Attempt
import TimedText.Proofs.CommandLine.Reload
import TimedText.Proofs.CommandLine.Packets
import TimedText.Proofs.FileTree.Kept
import TimedText.Proofs.CommandLine.Preparation
import TimedText.Proofs.CommandLine.Lines
import TimedText.Proofs.CommandLine.Update
import TimedText.Proofs.Session.Opening
import TimedText.Proofs.CommandLine.Export
import TimedText.Proofs.Session.Rejection
import TimedText.Proofs.Settings.Notification
import TimedText.Proofs.Settings.Watch
import TimedText.Proofs.Settings.Override
import TimedText.Proofs.Session.Placement
import TimedText.Proofs.Markup.FontTag
import TimedText.Proofs.Log.Line
import TimedText.Proofs.Log.Record
import TimedText.Proofs.Encoding.Validity
import TimedText.Proofs.Converter.Utf8
import TimedText.Proofs.Charset.Opening
import TimedText.Proofs.Session.Terminator
import TimedText.Proofs.Session.Legibility
import TimedText.Proofs.Settings.FreeText
import TimedText.Proofs.CommandLine.Overriding
import TimedText.Proofs.CommandLine.Timeline
import TimedText.Proofs.CommandLine.ExitCode
import TimedText.Proofs.Markup.Opacity
import TimedText.Proofs.Markup.ColorLookup
import TimedText.Proofs.CommandLine.Release
import TimedText.Proofs.Encoding.Charwise
import TimedText.Proofs.Converter.Steady
import TimedText.Proofs.CommandLine.Linewise
import TimedText.Proofs.Subtitle.Timestamp
import TimedText.Proofs.Encoding.Frugality
import TimedText.Proofs.Converter.Expansion
import TimedText.Proofs.Settings.Lookup
import TimedText.Proofs.Style.Stack
import TimedText.Proofs.Markup.Progress

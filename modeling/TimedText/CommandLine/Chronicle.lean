import TimedText.Log.Record
import TimedText.Markup.Remark
import TimedText.Session
import TimedText.Settings.Store

/-!
# What a run tells its log

Each part of a run has a logger of its own: the choice of the encoding, the converter, the parser,
the session, the store of settings, the file of records, and the run itself.  The records here are
those that the parts make, step by step; their moments are given when they are noted.

What is serious about a packet is told in the notices of its session, and the log has them too.
-/

namespace TimedText

open Log (Extra Level Record)

/-- The word for a switch in a record. -/
def Log.switchWord (on : Bool) : String :=
  if on then "True" else "False"

/-! ## Notices as records -/

namespace Notice

/-- The name of the logger of a notice. -/
def loggerName : Notice → String
  | refused _ => "subsdec.charset.charset_resolver"
  | repaired _ => "subsdec.charset.converter"
  | _ => "subsdec.decoder.subtitle_decoder"

/-- The further fields of the record of a notice about a packet with the given start. -/
def extras (start : Int) : Notice → List (String × Extra)
  | unconverted name _ => [("pts_us", .ofInt start), ("encoding", .ofText name)]
  | unparsed _ => [("pts_us", .ofInt start)]
  | _ => []

/-- The further fields of a notice are no fields that every record has. -/
theorem admitted_extras (start : Int) (notice : Notice) :
    ∀ extra ∈ notice.extras start, extra.1 ∉ Record.reserved := by
  cases notice <;> simp [extras, Record.reserved]

/-- The record of a notice about a packet with the given start. -/
def record (start : Int) (notice : Notice) : Record :=
  { name := notice.loggerName,
    level := notice.level,
    message := notice.message,
    extras := notice.extras start,
    admitted := notice.admitted_extras start }

/-- Whether a notice is given before the text of its packet is read. -/
def isEarly : Notice → Bool
  | repaired _ => true
  | _ => false

end Notice

/-! ## Sessions -/

namespace Session

/-- A record of the choice of an encoding. -/
def choiceRecord (level : Level) (message : String) : Record :=
  { name := "subsdec.charset.charset_resolver", level, message }

/-- A record of a session. -/
def ownRecord (level : Level) (message : String) : Record :=
  { name := "subsdec.decoder.subtitle_decoder", level, message }

/-- The records of the choice of an encoding. -/
def choiceRecords
    (preferences : Preferences)
    (declaration : Option String)
    (always : Bool) :
    List Record :=
  let configured := Text.trimmed preferences.configured
  if always then
    []
  else
    match Charset.declared? declaration with
    | some name => [choiceRecord .debug ("상위에서 지정한 문자 인코딩 사용 시도: " ++ name)]
    | none =>
        (if configured.isEmpty then
            choiceRecord .debug
              ("기본 문자 인코딩 사용 시도: " ++ (Charset.preferred preferences "").name)
          else
            choiceRecord .debug ("설정된 문자 인코딩 사용 시도: " ++ configured))
          :: if preferences.detect then [choiceRecord .debug "UTF-8 자동 감지 사용"] else []

/-- The record of a session that is open. -/
def openRecord (session : Session) : Record :=
  ownRecord .info
    ("SubtitleDecoder 초기화: codec=" ++ session.codec.name
      ++ ", encoding=" ++ session.converter.name
      ++ ", mode=" ++ session.converter.modeName
      ++ ", align=" ++ Text.written session.settings.align.bits
      ++ ", formatted=" ++ Log.switchWord session.settings.formatted)

/-- The records of a session that has just been opened for a choice of encoding. -/
def openRecords (session : Session) (charset : Charset) (notices : List Notice) : List Record :=
  (if session.converter.isDirect then
      notices.map (Notice.record 0)
    else
      [ choiceRecord .info
          ("자막 변환기 준비: encoding=" ++ charset.name
            ++ ", source=" ++ charset.source.name
            ++ ", autodetect_utf8=" ++ Log.switchWord charset.detect) ])
    ++ [session.openRecord]

/-- The records of what a packet does to the converter and the parser, if it gets there. -/
def conversionRecords (session : Session) (packet : Packet) : List Record × List Record :=
  if (properStart? packet).isNone || packet.data.isEmpty then
    ([], [])
  else
    let step := session.converter.convert packet.data
    ( if session.converter.detecting && !step.after.detecting then
        [ { name := "subsdec.charset.converter",
            level := .debug,
            message := "유효하지 않은 UTF-8 시퀀스: UTF-8 자막 자동 감지를 비활성화합니다" } ]
      else
        [],
      match step.result with
      | .ok text =>
          (Markup.remarks session.lookup text).map fun remark =>
            { name := "subsdec.text.markup_parser", level := .debug, message := remark.message }
      | .error _ => [] )

/-- The records of a packet that has led to notices. -/
def packetRecords (session : Session) (packet : Packet) (notices : List Notice) : List Record :=
  if packet.discontinuity || packet.corrupted then
    [ ownRecord .debug
        ("불연속/손상 패킷 무시: discontinuity=" ++ Log.switchWord packet.discontinuity
          ++ ", corrupted=" ++ Log.switchWord packet.corrupted) ]
  else
    let (conversion, reading) := session.conversionRecords packet
    let record := Notice.record (packet.start.getD 0)
    conversion
      ++ (notices.filter Notice.isEarly).map record
      ++ reading
      ++ (notices.filter fun notice => !notice.isEarly).map record

/-- The records of new settings for a session, which have led to notices. -/
def configureRecords (settings : DecoderSettings) (notices : List Notice) : List Record :=
  notices.map (Notice.record 0)
    ++ [ ownRecord .info
          ("SubtitleDecoder 설정 핫스왑: align=" ++ Text.written settings.align.bits
            ++ ", formatted=" ++ Log.switchWord settings.formatted) ]

/-- The records of a session that is closed. -/
def closeRecords (session : Session) : List Record :=
  if session.converter.closed then
    []
  else
    [ { name := "subsdec.charset.converter",
        level := .debug,
        message := "변환기 닫힘: " ++ session.converter.name },
      ownRecord .info
        ("SubtitleDecoder 종료: decoded=" ++ Text.written session.tally.decoded
          ++ ", dropped=" ++ Text.written session.tally.dropped
          ++ ", conversion_failures=" ++ Text.written session.tally.conversionFailures) ]

end Session

/-! ## Settings -/

namespace Settings.Store

/-- A record of the store of settings. -/
def ownRecord (level : Level) (message : String) : Record :=
  { name := "subsdec.config.config_manager", level, message }

/-- The record of a store that has one more registration. -/
def subscribeRecord (store : Store) : Record :=
  ownRecord .info
    ("설정 변경 구독자 등록 완료 (총 " ++ Text.written store.subscribers.length ++ "명)")

/-- The records of a store that has been asked to watch its file. -/
def watchRecords (store : Store) : Except String (Option Watch) → List Record
  | .error _ => []
  | .ok (some _) =>
      store.path.toList.map fun path =>
        ownRecord .info ("설정 파일 감시 활성화 완료: " ++ path.text)
  | .ok none =>
      if store.path.isNone then
        [ ownRecord .warning
            "감시할 파일 경로가 지정되지 않았습니다. load()를 먼저 호출하세요." ]
      else
        [ownRecord .debug "이미 설정 파일을 감시 중입니다"]

/-- The path under which a watch reports a change of its file. -/
def reportedPath (watch : Watch) : String :=
  let directory := watch.directory.text
  if directory.endsWith "/" then directory ++ watch.name else directory ++ "/" ++ watch.name

/--
The records of a store whose file has changed, with those of the reading of the file, which are in
the words of others.
-/
def changeRecords
    (store : Store)
    (tree : FileTree)
    (environment : Environment)
    (watch : Watch)
    (account : List Record) :
    List Record :=
  ownRecord .info ("설정 파일 변경 감지: " ++ reportedPath watch)
    :: match store.path with
      | none =>
          [ownRecord .warning "설정 파일 경로가 설정되지 않아 리로드를 건너뜁니다"]
      | some path =>
          account
            ++ match reread tree environment path with
              | .ok _ => [ownRecord .info "설정 핫스왑 성공: 새 설정이 적용되었습니다"]
              | .error _ => []

/-- The records of a store that stops watching. -/
def stopRecords (store : Store) : List Record :=
  if store.watch.isSome then [ownRecord .info "설정 파일 감시 중지 완료"] else []

end Settings.Store

/-! ## Files of records -/

namespace RecordFile

/-- A record of the file of records. -/
def ownRecord (level : Level) (message : String) : Record :=
  { name := "subsdec.decoder.subtitle_exporter", level, message }

/-- The record of so many subtitles that have been saved. -/
def savedRecord (path : Path) (count : Nat) : Record :=
  ownRecord .info
    ("JSONL 파일 저장 완료: " ++ path.text ++ " (+" ++ Text.written count ++ "개)")

/-- The records of a file that cannot be opened, unless its directory is at fault or its name. -/
def unsavedRecords (tree : FileTree) (path : Path) (fault : FileTree.Fault) : List Record :=
  match fault, tree.ensureDirectory path.parent with
  | .holdsNul, _ => []
  | _, .error _ => []
  | _, .ok _ =>
      [ ownRecord .error
          ("JSONL 파일 저장 실패: " ++ path.text ++ ", 오류: " ++ fault.message path) ]

end RecordFile

/-! ## Runs -/

namespace CommandLine

/-- A record of a run. -/
def ownRecord (level : Level) (message : String) : Record :=
  { name := "__main__", level, message }

/-- The record of a watch that is asked for without a file to watch. -/
def watchIgnored : Record :=
  ownRecord .warning "--watch는 --config와 함께 사용해야 합니다"

/-- The record of a run that has come to its end. -/
def endRecord (tally : Tally) : Record :=
  ownRecord .info
    ("디코딩 완료: decoded=" ++ Text.written tally.decoded
      ++ ", dropped=" ++ Text.written tally.dropped
      ++ ", conversion_failures=" ++ Text.written tally.conversionFailures)

end CommandLine

end TimedText

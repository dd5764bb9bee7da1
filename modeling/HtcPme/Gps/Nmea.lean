import HtcPme.Gps.FixRestart
import Mathlib.Algebra.GroupWithZero.Nat

/-!
# loc_eng_nmea

The NMEA sentences of a position report and of a report of the satellites. A sentence is written
piece by piece into an array, and its checksum after them.
-/

namespace HtcPme.Gps.Nmea

open List

def IsPlain (ch : Char) : Prop := ch ≠ '$' ∧ ch ≠ '*' ∧ ch ≠ '\x00'

instance (ch : Char) : Decidable (IsPlain ch) := inferInstanceAs (Decidable (_ ∧ _))

structure Text where
  chars : List Char
  plain : ∀ ch ∈ chars, IsPlain ch

def lit (text : String) (plain : text.toList.all (decide <| IsPlain ·) = true := by decide) :
    Text :=
  ⟨text.toList, by simpa only [List.all_eq_true, decide_eq_true_eq] using plain⟩

instance : Append Text where
  append text other := ⟨text.chars ++ other.chars, fun ch mem =>
    (List.mem_append.mp mem).elim (text.plain ch) (other.plain ch)⟩

def comma : Text := lit ","

def empty : Text := lit ""

def automatic : Text := lit ",A,"

def noneInView : Text := lit ",1,1,0,"

def maxLength : ℕ := 200

/-- The pieces of a sentence after its `$`. The function returns if one of the first does not fit;
the last is cut off. -/
structure Sentence where
  checked : List Text
  last : Text

structure Sent where
  sentence : List Char
  length : ℕ
deriving DecidableEq

def checksum (chars : List Char) : UInt8 := chars.foldl (fun sum ch => sum ^^^ ch.toNat.toUInt8) 0

def hexDigit (digit : ℕ) : Char := Char.ofNat (if digit < 10 then 48 + digit else 55 + digit)

/-- `*%02X\r\n`. -/
def suffix (sum : UInt8) : List Char :=
  ['*', hexDigit (sum.toNat / 16), hexDigit (sum.toNat % 16), '\r', '\n']

def putChecksum (text : List Char) : Sent :=
  ⟨text ++ (suffix (checksum text.tail)).take (maxLength - text.length - 1), text.length + 5⟩

namespace Sentence

def write : List Text → List Char → Option (List Char)
  | [], buffer => some buffer
  | piece :: rest, buffer =>
      if piece.chars.length ≥ maxLength - buffer.length then none
      else write rest (buffer ++ piece.chars)

def text (sentence : Sentence) : Option (List Char) :=
  (write sentence.checked ['$']).map fun buffer =>
    buffer ++ sentence.last.chars.take (maxLength - buffer.length - 1)

def sendAll (nmeaCb : Bool) : List Sentence → Bool × List Sent
  | [] => (true, [])
  | sentence :: rest =>
      match sentence.text with
      | none => (false, [])
      | some text =>
          let (done, sent) := sendAll nmeaCb rest
          (done, if nmeaCb then putChecksum text :: sent else sent)

end Sentence

structure Reading where
  isPositive : Bool
  text : Text

structure Dop where
  pdop : Reading
  hdop : Reading
  vdop : Reading

def Dop.zero : Dop := ⟨⟨false, lit "0.0"⟩, ⟨false, lit "0.0"⟩, ⟨false, lit "0.0"⟩⟩

/-- `loc_eng_data_s_type`, with what is cached for the next report and the mode of the adapter. -/
structure NmeaData where
  gpsUsedMask : BitVec 32
  gloUsedMask : BitVec 32
  dop : Dop
  mode : LocPositionMode
  nmeaCb : Bool

/-- What `gmtime` makes of the timestamp, and its hundredths. -/
structure Utc where
  year : Text
  month : Text
  day : Text
  hours : Text
  minutes : Text
  seconds : Text
  hundredths : Text

structure LatLong where
  latDegrees : Text
  latMinutes : Text
  isNorth : Bool
  lonDegrees : Text
  lonMinutes : Text
  isWest : Bool

structure Speed where
  knots : Text
  kmPerHour : Text

structure MagDev where
  isWest : Bool
  variation : Text

/-- `UlpLocation` and `GpsLocationExtended`, with the numbers that their flags say are there.
`separation` is what the altitude is above the mean sea level. -/
structure PosReport where
  utc : Option Utc
  latLong : Option LatLong
  speed : Option Speed
  bearing : Option Text
  hasAltitude : Bool
  dop : Option Dop
  magDev : Option MagDev
  altitudeMeanSeaLevel : Option Text
  separation : Text
  generateNmea : Bool

/-- How numbers are written with `%d` and with `%02d`. -/
structure IntFormat where
  d : ℕ → Text
  d02 : ℕ → Text

variable (format : IntFormat) (data : NmeaData) (report : PosReport)

def usedList : ℕ → BitVec 32 → ℕ → List ℕ
  | 0, _, _ => []
  | fuel + 1, mask, svid =>
      if mask = 0 then []
      else if mask.getLsbD 0 then svid :: usedList fuel (mask >>> 1) (svid + 1)
      else usedList fuel (mask >>> 1) (svid + 1)

def svUsedList : List ℕ := usedList 32 data.gpsUsedMask 1

def gloUsedList : List ℕ := usedList 32 data.gloUsedMask 65

def usedDop : Option Dop :=
  match report.dop with
  | some dop => some dop
  | none =>
      if data.dop.pdop.isPositive && data.dop.hdop.isPositive && data.dop.vdop.isPositive then
        some data.dop
      else none

def fixType (used : List ℕ) : Text :=
  if used.length = 0 then lit "1" else if used.length ≤ 3 then lit "2" else lit "3"

def gsa (address : Text) (used : List ℕ) : Sentence where
  checked := (address ++ lit ",A," ++ fixType used ++ lit ",") ::
    (List.range 12).map fun i =>
      match used[i]? with
      | some svid => format.d02 svid ++ lit ","
      | none => lit ","
  last :=
    match usedDop data report with
    | some dop => dop.pdop.text ++ lit "," ++ dop.hdop.text ++ lit "," ++ dop.vdop.text
    | none => lit ",,"

def modeText : Text :=
  match report.latLong with
  | none => lit "N"
  | some _ => if data.mode = .standalone then lit "A" else lit "D"

/-- `$GPVTG`. The magnetic track that is corrected is a variable of its own block, so the bearing is
written twice. -/
def gpvtg : Sentence where
  checked :=
    [match report.bearing with
      | some bearing => lit "GPVTG," ++ bearing ++ lit ",T," ++ bearing ++ lit ",M,"
      | none => lit "GPVTG,,T,,M,",
    match report.speed with
      | some speed => speed.knots ++ lit ",N," ++ speed.kmPerHour ++ lit ",K,"
      | none => lit ",N,,K,"]
  last := modeText data report

def timeText (utc : Utc) : Text :=
  utc.hours ++ utc.minutes ++ utc.seconds ++ lit "." ++ utc.hundredths ++ lit ","

def latLongText : Text :=
  match report.latLong with
  | some position =>
      position.latDegrees ++ position.latMinutes ++
        (if position.isNorth then lit ",N," else lit ",S,") ++ position.lonDegrees ++
          position.lonMinutes ++ if position.isWest then lit ",W," else lit ",E,"
  | none => lit ",,,,"

def gprmc (utc : Utc) : Sentence where
  checked :=
    [lit "GPRMC," ++ timeText utc ++ lit "A,", latLongText report,
      match report.speed with
      | some speed => speed.knots ++ lit ","
      | none => lit ",",
      match report.bearing with
      | some bearing => bearing ++ lit ","
      | none => lit ",",
      utc.day ++ utc.month ++ utc.year ++ lit ",",
      match report.magDev with
      | some magDev => magDev.variation ++ if magDev.isWest then lit ",W," else lit ",E,"
      | none => lit ",,"]
  last := modeText data report

def gpsQuality : Text :=
  match report.latLong with
  | none => lit "0"
  | some _ => if data.mode = .standalone then lit "1" else lit "2"

def gpgga (utc : Utc) : Sentence where
  checked :=
    [lit "GPGGA," ++ timeText utc, latLongText report,
      gpsQuality data report ++ lit "," ++ format.d02 (svUsedList data).length ++
        match usedDop data report with
        | some dop => lit "," ++ dop.hdop.text ++ lit ","
        | none => lit ",,",
      match report.altitudeMeanSeaLevel with
      | some altitude => altitude ++ lit ",M,"
      | none => lit ",,"]
  last :=
    if report.hasAltitude && report.altitudeMeanSeaLevel.isSome then report.separation ++ lit ",M,,"
    else lit ",,,"

def blank (text : Text) : Sentence := ⟨[], text⟩

/-- The sentences of `loc_eng_nmea_generate_pos`, which are blank for a fix that is not final. -/
def posSentences (utc : Utc) : List Sentence :=
  if report.generateNmea then
    [gsa format data report (lit "GPGSA") (svUsedList data),
      gsa format data report (lit "GNGSA") (gloUsedList data), gpvtg data report,
      gprmc data report utc, gpgga format data report utc]
  else
    [blank (lit "GPGSA,A,1,,,,,,,,,,,,,,,"), blank (lit "GNGSA,A,1,,,,,,,,,,,,,,,"),
      blank (lit "GPVTG,,T,,M,,N,,K,N"), blank (lit "GPRMC,,V,,,,,,,,,,N"),
      blank (lit "GPGGA,,,,,,0,,,,,,,,")]

def generatePos : NmeaData × List Sent :=
  match report.utc with
  | none => (data, [])
  | some utc =>
      let (done, sent) := Sentence.sendAll data.nmeaCb (posSentences format data report utc)
      let gpgsa := gsa format data report (lit "GPGSA") (svUsedList data)
      ({ data with
          gpsUsedMask := if report.generateNmea then 0 else data.gpsUsedMask
          gloUsedMask :=
            if report.generateNmea && gpgsa.text.isSome then 0 else data.gloUsedMask
          dop := if done then .zero else data.dop }, sent)

inductive Constellation where
  | gps
  | glonass
  | other
deriving DecidableEq

structure GnssSv where
  constellation : Constellation
  svid : ℕ
  usedInFix : Bool
  elevation : Text
  azimuth : Text
  cN0Dbhz : Reading

structure SvReport where
  gnssSvList : List GnssSv
  dop : Option Dop

/-- `1 << (svid - 1)`. A shift that C leaves undefined is taken to set no bit. -/
def usedBit (svid : ℕ) : BitVec 32 :=
  if 0 < svid ∧ svid ≤ 32 then BitVec.twoPow 32 (svid - 1) else 0

def usedMask (constellation : Constellation) (gnssSvList : List GnssSv) : BitVec 32 :=
  gnssSvList.foldl (fun mask sv =>
    if sv.constellation = constellation ∧ sv.usedInFix = true then mask ||| usedBit sv.svid
    else mask) 0

def svTexts (sv : GnssSv) : List Text :=
  (lit "," ++ format.d02 sv.svid ++ lit "," ++ sv.elevation ++ lit "," ++ sv.azimuth ++ lit ",") ::
    if sv.cN0Dbhz.isPositive then [sv.cN0Dbhz.text] else []

/-- The loop over the satellites for one sentence, which has room for `room` more, with those that
are left. -/
def svLoop (constellation : Constellation) : ℕ → List GnssSv → List Text × List GnssSv
  | 0, svs => ([], svs)
  | _, [] => ([], [])
  | room + 1, sv :: rest =>
      if sv.constellation = constellation then
        let (texts, left) := svLoop constellation room rest
        (svTexts format sv ++ texts, left)
      else svLoop constellation (room + 1) rest

def gsvLoop (address : Text) (constellation : Constellation) (count sentenceCount : ℕ) :
    ℕ → ℕ → List GnssSv → List Sentence
  | 0, _, _ => []
  | more + 1, sentenceNumber, svs =>
      let (texts, left) := svLoop format constellation 4 svs
      ⟨(address ++ lit "," ++ format.d sentenceCount ++ lit "," ++ format.d sentenceNumber ++
          lit "," ++ format.d02 count) :: texts, lit ""⟩ ::
        gsvLoop address constellation count sentenceCount more (sentenceNumber + 1) left

def gsv (address : Text) (constellation : Constellation) (gnssSvList : List GnssSv) :
    List Sentence :=
  let count := gnssSvList.countP (·.constellation = constellation)
  let sentenceCount := count / 4 + if count % 4 = 0 then 0 else 1
  if count = 0 then [blank (address ++ lit ",1,1,0,")]
  else gsvLoop format address constellation count sentenceCount sentenceCount 1 gnssSvList

def svSentences (svReport : SvReport) : List Sentence :=
  gsv format (lit "GPGSV") .gps svReport.gnssSvList ++
    gsv format (lit "GLGSV") .glonass svReport.gnssSvList

def generateSv (svReport : SvReport) : NmeaData × List Sent :=
  let (done, sent) := Sentence.sendAll data.nmeaCb (svSentences format svReport)
  ({ data with
      gpsUsedMask := usedMask .gps svReport.gnssSvList
      gloUsedMask := usedMask .glonass svReport.gnssSvList
      dop := if done then svReport.dop.getD .zero else data.dop }, sent)

/-- A sentence is `$`, its body, and its checksum and line end, and is passed with its length. -/
def Sent.Correct (sent : Sent) : Prop :=
  ∃ body : List Char, (∀ ch ∈ body, IsPlain ch) ∧
    sent.sentence = '$' :: body ++ suffix (checksum body) ∧
      sent.length = sent.sentence.length ∧ sent.length < maxLength

namespace Sentence

def total (sentence : Sentence) : ℕ :=
  1 + (sentence.checked.map (·.chars.length)).sum + sentence.last.chars.length

def Fits (sentence : Sentence) : Prop :=
  1 + (sentence.checked.map (·.chars.length)).sum < maxLength

instance (sentence : Sentence) : Decidable sentence.Fits := inferInstanceAs (Decidable (_ < _))

def RoomGuard (nmeaCb : Bool) (sentences : List Sentence) : Prop :=
  nmeaCb = true →
    ∀ sentence ∈ sentences.takeWhile fun sentence => decide sentence.Fits,
      sentence.total + 6 ≤ maxLength

theorem putChecksum_correct {body : List Char} (plain : ∀ ch ∈ body, IsPlain ch) :
    (putChecksum ('$' :: body)).Correct ↔ ('$' :: body).length + 6 ≤ maxLength := by
  constructor
  · rintro ⟨-, -, -, -, short⟩
    change ('$' :: body).length + 5 < maxLength at short
    omega
  · intro room
    have whole : (suffix (checksum body)).take (maxLength - ('$' :: body).length - 1) =
        suffix (checksum body) := by
      apply take_of_length_le
      change 5 ≤ _
      omega
    refine ⟨body, plain, ?_, ?_, ?_⟩
    · rw [putChecksum, tail_cons, whole]
    · rw [putChecksum, tail_cons, whole, length_append]
      rfl
    · change ('$' :: body).length + 5 < maxLength
      omega

theorem write_eq (pieces : List Text) (body : List Char) (plain : ∀ ch ∈ body, IsPlain ch)
    (room : ('$' :: body).length < maxLength) :
    if ('$' :: body).length + (pieces.map (·.chars.length)).sum < maxLength then
      ∃ written, write pieces ('$' :: body) = some ('$' :: written) ∧
        (∀ ch ∈ written, IsPlain ch) ∧
          ('$' :: written).length = ('$' :: body).length + (pieces.map (·.chars.length)).sum
    else write pieces ('$' :: body) = none := by
  induction pieces generalizing body with
  | nil =>
      rw [if_pos (by simpa using room)]
      exact ⟨body, rfl, plain, rfl⟩
  | cons piece rest ih =>
      rw [map_cons, sum_cons, write]
      by_cases full : piece.chars.length ≥ maxLength - ('$' :: body).length
      · rw [if_pos full, if_neg (by omega)]
      · have longer : ('$' :: (body ++ piece.chars)).length =
            ('$' :: body).length + piece.chars.length := by
          simp [Nat.add_right_comm]
        have next := ih (body ++ piece.chars)
          (fun ch mem => (mem_append.mp mem).elim (plain ch) (piece.plain ch)) (by omega)
        rw [if_neg full, cons_append]
        simpa only [longer, Nat.add_assoc] using next

theorem text_correct (sentence : Sentence) :
    if sentence.Fits then ∃ text, sentence.text = some text ∧
      ((putChecksum text).Correct ↔ sentence.total + 6 ≤ maxLength)
    else sentence.text = none := by
  have wrote := write_eq sentence.checked [] (forall_mem_nil _) (by decide)
  by_cases fits : sentence.Fits
  · rw [if_pos (show ['$'].length + (sentence.checked.map (·.chars.length)).sum < maxLength from
      fits)] at wrote
    rcases wrote with ⟨written, isWritten, plain, length⟩
    rw [if_pos fits, text, isWritten]
    refine ⟨_, rfl, ?_⟩
    have cut : ('$' :: (written ++ sentence.last.chars.take
        (maxLength - ('$' :: written).length - 1))).length =
          ('$' :: written).length + min (maxLength - ('$' :: written).length - 1)
            sentence.last.chars.length := by
      simp [Nat.add_right_comm]
    have isPlain : ∀ ch ∈ written ++ sentence.last.chars.take
        (maxLength - ('$' :: written).length - 1), IsPlain ch := by
      intro ch mem
      rcases mem_append.mp mem with isWritten | isLast
      · exact plain ch isWritten
      · exact sentence.last.plain ch (mem_of_mem_take isLast)
    refine (putChecksum_correct isPlain).trans ?_
    change ('$' :: written).length = 1 + _ at length
    rw [cut, total]
    omega
  · rw [if_neg (show ¬['$'].length + (sentence.checked.map (·.chars.length)).sum < maxLength from
      fits)] at wrote
    rw [if_neg fits, text, wrote]
    rfl

theorem sendAll_correct (nmeaCb : Bool) (sentences : List Sentence) :
    (∀ sent ∈ (sendAll nmeaCb sentences).2, sent.Correct) ↔ RoomGuard nmeaCb sentences := by
  induction sentences with
  | nil => simp [sendAll, RoomGuard]
  | cons sentence rest ih =>
      have isText := sentence.text_correct
      rw [sendAll]
      split at isText
      · rename_i fits
        rcases isText with ⟨text, isText, correct⟩
        cases nmeaCb with
        | true =>
            simp only [RoomGuard, forall_const] at ih
            simp only [isText, RoomGuard, fits, if_true, forall_mem_cons, correct, ih,
              takeWhile_cons, decide_true, forall_const]
        | false => simpa [isText, RoomGuard] using ih
      · rename_i overflows
        simp [isText, RoomGuard, overflows]

end Sentence

/-- Each sentence of a position report or of a report of the satellites that is passed to the
callback is correct if and only if all leave room for their checksums. -/
theorem generate_correct_iff (svReport : SvReport) :
    ((∀ sent ∈ (generatePos format data report).2, sent.Correct) ↔ ∀ utc ∈ report.utc,
        Sentence.RoomGuard data.nmeaCb (posSentences format data report utc)) ∧
      ((∀ sent ∈ (generateSv format data svReport).2, sent.Correct) ↔
        Sentence.RoomGuard data.nmeaCb (svSentences format svReport)) := by
  constructor
  · rw [generatePos]
    cases report.utc with
    | none => simp
    | some utc => simpa using Sentence.sendAll_correct data.nmeaCb _
  · exact Sentence.sendAll_correct data.nmeaCb _

def highAltitude : PosReport where
  utc := some ⟨lit "16", lit "01", lit "01", lit "00", lit "00", lit "00", lit "00"⟩
  latLong := none
  speed := none
  bearing := none
  hasAltitude := true
  dop := none
  magDev := none
  altitudeMeanSeaLevel := some (lit "0.0")
  separation := ⟨List.replicate 170 '1', fun ch mem => by
    rw [List.eq_of_mem_replicate mem]
    decide⟩
  generateNmea := true

/-- `$GPGGA` fills the array, so that it gets no checksum but a length of more than is there. -/
theorem not_correct_altitude :
    ¬∀ sent ∈ (generatePos ⟨fun _ => lit "0", fun _ => lit "00"⟩ ⟨0, 0, .zero, .standalone, true⟩
      highAltitude).2, sent.Correct := by
  intro correct
  have long : ∃ sent ∈ (generatePos ⟨fun _ => lit "0", fun _ => lit "00"⟩
      ⟨0, 0, .zero, .standalone, true⟩ highAltitude).2, sent.length = 204 := by
    decide +kernel
  rcases long with ⟨sent, mem, isLong⟩
  rcases correct sent mem with ⟨-, -, -, -, short⟩
  exact absurd (isLong ▸ short) (by decide)

end HtcPme.Gps.Nmea

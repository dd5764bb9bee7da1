import HtcPme.Gps.Nmea

/-!
# The satellites of a report

A report lists each satellite of its constellation once, four to a sentence. The ids of those that
are used in a fix are kept in a mask for the position report that follows.
-/

namespace HtcPme.Gps.Nmea

open List

/-- `%0*d`. -/
def formatInt (width : ℕ) (value : ℤ) : Text where
  chars :=
    let sign := if value < 0 then ['-'] else []
    let digits := Nat.toDigits 10 value.natAbs
    sign ++ List.replicate (width - sign.length - digits.length) '0' ++ digits
  plain := by
    intro ch mem
    rcases List.mem_append.mp mem with isPadding | isDigit
    · rcases List.mem_append.mp isPadding with isSign | isZero
      · split at isSign
        · rw [List.mem_singleton.mp isSign]
          decide
        · cases isSign
      · rw [List.eq_of_mem_replicate isZero]
        decide
    · have isDigit := Nat.isDigit_of_mem_toDigits (b := 10) (by decide) (by decide) isDigit
      refine ⟨?_, ?_, ?_⟩ <;> rintro rfl <;> exact absurd isDigit (by decide)

/-- The bits of an id are those of an `int16_t`. -/
def cFormat : IntFormat := ⟨(formatInt 0 ·), fun value => formatInt 2 (BitVec.ofNat 16 value).toInt⟩

/-- `GnssSvInfo`, with the numbers that are rounded, and whether the last of them is positive. -/
structure GnssSvInfo where
  constellation : Constellation
  svid : BitVec 16
  usedInFix : Bool
  elevation : BitVec 32
  azimuth : BitVec 32
  hasCN0 : Bool
  cN0Dbhz : BitVec 32
deriving DecidableEq

def GnssSvInfo.sv (info : GnssSvInfo) : GnssSv :=
  ⟨info.constellation, info.svid.toNat, info.usedInFix, formatInt 2 info.elevation.toInt,
    formatInt 3 info.azimuth.toInt, ⟨info.hasCN0, formatInt 2 info.cN0Dbhz.toInt⟩⟩

structure GnssSvStatus where
  gnssSvList : List GnssSvInfo
  numSvs : gnssSvList.length ≤ 64
  dop : Option Dop

namespace GnssSvStatus

def report (svStatus : GnssSvStatus) : SvReport := ⟨svStatus.gnssSvList.map (·.sv), svStatus.dop⟩

def inView (svStatus : GnssSvStatus) (constellation : Constellation) : List GnssSvInfo :=
  svStatus.gnssSvList.filter (·.constellation = constellation)

end GnssSvStatus

namespace Sentence

variable {sentence : Sentence}

def whole (sentence : Sentence) : Sent :=
  let buffer := '$' :: sentence.checked.flatMap (·.chars)
  putChecksum (buffer ++ sentence.last.chars.take (maxLength - buffer.length - 1))

theorem write_of_fits (pieces : List Text) (buffer : List Char)
    (fits : buffer.length + (pieces.map (·.chars.length)).sum < maxLength) :
    write pieces buffer = some (buffer ++ pieces.flatMap (·.chars)) := by
  induction pieces generalizing buffer with
  | nil => simp [write]
  | cons piece rest ih =>
      rw [map_cons, sum_cons] at fits
      rw [write, if_neg (by omega), ih _ (by rw [length_append]; omega)]
      simp

theorem text_of_fits (fits : sentence.Fits) :
    sentence.text.map putChecksum = some sentence.whole := by
  rw [text, write_of_fits _ ['$'] fits]
  rfl

theorem sendAll_cons (nmeaCb : Bool) {rest : List Sentence} (fits : sentence.Fits) :
    sendAll nmeaCb (sentence :: rest) = ((sendAll nmeaCb rest).1,
      (if nmeaCb then [sentence.whole] else []) ++ (sendAll nmeaCb rest).2) := by
  rcases Option.map_eq_some_iff.mp (text_of_fits fits) with ⟨text, isText, isWhole⟩
  rw [sendAll, isText, ← isWhole]
  cases nmeaCb <;> rfl

theorem sendAll_of_fits (nmeaCb : Bool) {sentences : List Sentence}
    (fits : ∀ sentence ∈ sentences, sentence.Fits) :
    sendAll nmeaCb sentences = (true, if nmeaCb then sentences.map whole else []) := by
  induction sentences with
  | nil => simp [sendAll]
  | cons sentence rest ih =>
      rcases forall_mem_cons.mp fits with ⟨first, others⟩
      rw [sendAll_cons nmeaCb first, ih others]
      cases nmeaCb <;> rfl

end Sentence

theorem Text.length_append (first second : Text) :
    (first ++ second).chars.length = first.chars.length + second.chars.length :=
  List.length_append

theorem length_formatInt {width : ℕ} {value : ℤ} (digits : ℕ) (positive : 0 < digits)
    (small : value.natAbs < 10 ^ digits) (narrow : width ≤ digits + 1) :
    (formatInt width value).chars.length ≤ digits + 1 := by
  have isShort := (Nat.length_toDigits_le_iff (by decide) positive).mpr small
  have signShort : (if value < 0 then ['-'] else []).length ≤ 1 := by
    split <;> simp
  simp only [formatInt, length_append, length_replicate]
  omega

theorem length_d02 (value : ℕ) : (cFormat.d02 value).chars.length ≤ 6 := by
  have lower := (BitVec.ofNat 16 value).le_toInt
  have upper := BitVec.toInt_lt (x := BitVec.ofNat 16 value)
  exact length_formatInt 5 (by decide) (by omega) (by decide)

theorem length_rounded {width : ℕ} (value : BitVec 32) (narrow : width ≤ 11) :
    (formatInt width value.toInt).chars.length ≤ 11 := by
  have lower := value.le_toInt
  have upper := value.toInt_lt
  exact length_formatInt 10 (by decide) (by omega) narrow

theorem svLoop_eq (format : IntFormat) (constellation : Constellation) (room : ℕ)
    (svs : List GnssSv) :
    (svLoop format constellation room svs).1 =
        ((svs.filter (·.constellation = constellation)).take room).flatMap (svTexts format) ∧
      (svLoop format constellation room svs).2.filter (·.constellation = constellation) =
        (svs.filter (·.constellation = constellation)).drop room := by
  induction svs generalizing room with
  | nil => cases room <;> simp [svLoop]
  | cons sv rest ih =>
      cases room with
      | zero => simp [svLoop]
      | succ room =>
          by_cases inView : sv.constellation = constellation
          · simp [svLoop, inView, ih room]
          · simpa [svLoop, inView] using ih (room + 1)

def gsvPage (address : Text) (count sentenceCount sentenceNumber : ℕ) (page : List GnssSv) :
    Sentence :=
  ⟨(address ++ comma ++ cFormat.d sentenceCount ++ comma ++ cFormat.d sentenceNumber ++ comma ++
    cFormat.d02 count) :: page.flatMap (svTexts cFormat), empty⟩

def pageAt {α : Type} (inView : List α) (number : ℕ) : List α := (inView.drop (4 * number)).take 4

theorem gsvLoop_eq (address : Text) (constellation : Constellation) (count sentenceCount more
    number : ℕ) (svs : List GnssSv) :
    gsvLoop cFormat address constellation count sentenceCount more number svs =
      (range more).map fun i => gsvPage address count sentenceCount (number + i)
        (pageAt (svs.filter (·.constellation = constellation)) i) := by
  induction more generalizing number svs with
  | zero => rfl
  | succ more ih =>
      rcases svLoop_eq cFormat constellation 4 svs with ⟨texts, left⟩
      generalize isLoop : svLoop cFormat constellation 4 svs = result at texts left
      rcases result with ⟨pieces, rest⟩
      rw [gsvLoop, isLoop, range_succ_eq_map, map_cons, map_map]
      dsimp only at texts left ⊢
      rw [ih, left, texts]
      apply congrArg
      apply map_congr_left
      intro i _
      simp only [Function.comp_apply, pageAt, drop_drop, Nat.mul_succ, Nat.add_comm 4,
        Nat.add_right_comm number 1, Nat.add_assoc]

theorem flatMap_pageAt {α : Type} (inView : List α) (number : ℕ) :
    (range number).flatMap (pageAt inView) = inView.take (4 * number) := by
  induction number with
  | zero => rfl
  | succ number ih =>
      rw [range_succ, flatMap_append, ih, Nat.mul_succ, take_add]
      simp [pageAt]

theorem total_svTexts (page : List GnssSvInfo) :
    (((page.map (·.sv)).flatMap (svTexts cFormat)).map (·.chars.length)).sum ≤
      43 * page.length := by
  induction page with
  | nil => exact Nat.le_refl 0
  | cons info page ih =>
      have id := length_d02 info.sv.svid
      have elevation := length_rounded info.elevation (show 2 ≤ 11 by decide)
      have azimuth := length_rounded info.azimuth (show 3 ≤ 11 by decide)
      have cN0 := length_rounded info.cN0Dbhz (show 2 ≤ 11 by decide)
      have comma : (lit ",").chars.length = 1 := by decide
      rw [map_cons, flatMap_cons, map_append, sum_append, svTexts]
      split <;>
        simp only [Text.length_append, comma, map_cons, map_nil, sum_cons, sum_nil,
          length_cons, GnssSvInfo.sv] at id ih ⊢ <;>
        omega

theorem gsvPage_fits {address : Text} {count sentenceCount sentenceNumber : ℕ}
    {page : List GnssSvInfo} (isShort : address.chars.length ≤ 5) (few : sentenceCount ≤ 64)
    (isNumber : sentenceNumber ≤ 64) (isPage : page.length ≤ 4) :
    (gsvPage address count sentenceCount sentenceNumber (page.map (·.sv))).Fits := by
  have texts := total_svTexts page
  have isShort (value : ℕ) (small : value ≤ 64) : (formatInt 0 value).chars.length ≤ 3 :=
    length_formatInt 2 (by decide) (by omega) (by decide)
  have total := isShort sentenceCount few
  have number := isShort sentenceNumber isNumber
  have inView := length_d02 count
  have isComma : comma.chars.length = 1 := by decide
  simp only [Sentence.Fits, gsvPage, map_cons, sum_cons, Text.length_append, isComma,
    cFormat, maxLength] at texts inView ⊢
  omega

def gsvSentence (address : Text) (sentenceCount : ℕ) (inView : List GnssSvInfo)
    (sentenceNumber : ℕ) (page : List GnssSvInfo) : Sentence :=
  if page = [] then blank (address ++ noneInView)
  else gsvPage address inView.length sentenceCount sentenceNumber (page.map (·.sv))

/-- Everything that is in view is listed once, in its order, up to four to a sentence. The sentences
are numbered from one on, and only the first may be empty. -/
structure Listed (address : Text) (inView : List GnssSvInfo) (sentenceCount : ℕ)
    (sent : List Sent) (page : ℕ → List GnssSvInfo) : Prop where
  all : (List.range sentenceCount).flatMap page = inView
  few : ∀ i, (page i).length ≤ 4
  notEmpty : ∀ i < sentenceCount, i ≠ 0 → page i ≠ []
  sent : sent = (List.range sentenceCount).map fun i =>
    (gsvSentence address sentenceCount inView (i + 1) (page i)).whole

theorem gsv_listed (address : Text) (isShort : address.chars.length ≤ 5) (svStatus : GnssSvStatus)
    (constellation : Constellation) :
    (∀ sentence ∈ gsv cFormat address constellation svStatus.report.gnssSvList, sentence.Fits) ∧
      Listed address (svStatus.inView constellation)
        (max 1 (((svStatus.inView constellation).length + 3) / 4))
        ((gsv cFormat address constellation svStatus.report.gnssSvList).map (·.whole))
        (pageAt (svStatus.inView constellation)) := by
  have numSvs := Nat.le_trans (length_filter_le (fun info : GnssSvInfo =>
    info.constellation = constellation) svStatus.gnssSvList) svStatus.numSvs
  have isView : svStatus.report.gnssSvList.filter (·.constellation = constellation) =
      (svStatus.inView constellation).map (·.sv) := filter_map
  rw [gsv, countP_eq_length_filter, isView, length_map]
  change (svStatus.inView constellation).length ≤ 64 at numSvs
  generalize svStatus.inView constellation = inView at numSvs isView ⊢
  have few (i : ℕ) : (pageAt inView i).length ≤ 4 := length_take_le 4 _
  have notEmpty : ∀ i < (inView.length + 3) / 4, pageAt inView i ≠ [] := by
    intro i below isNil
    have length := congrArg length isNil
    simp only [pageAt, length_take, length_drop, length_nil] at length
    omega
  by_cases isNone : inView.length = 0
  · cases length_eq_zero_iff.mp isNone
    rw [if_pos isNone]
    refine ⟨?_, rfl, few, fun i below later => absurd (Nat.lt_one_iff.mp below) later, rfl⟩
    intro sentence mem
    rw [mem_singleton.mp mem]
    exact (by decide : 1 + 0 < maxLength)
  · have isTotal : inView.length / 4 + (if inView.length % 4 = 0 then 0 else 1) =
        max 1 ((inView.length + 3) / 4) := by
      split <;> omega
    have isPage (i : ℕ) : pageAt (inView.map (·.sv)) i = (pageAt inView i).map (·.sv) := by
      rw [pageAt, pageAt, map_take, map_drop]
    rw [if_neg isNone, isTotal, gsvLoop_eq, isView]
    refine ⟨?_, ?_, few, fun i below _ => notEmpty i (by omega), ?_⟩
    · intro sentence mem
      rcases mem_map.mp mem with ⟨i, isNumber, rfl⟩
      have below := mem_range.mp isNumber
      rw [isPage]
      exact gsvPage_fits isShort (by omega) (by omega) (few i)
    · rw [flatMap_pageAt]
      exact take_of_length_le (by omega)
    · rw [map_map]
      apply map_congr_left
      intro i isNumber
      have below := mem_range.mp isNumber
      rw [Function.comp_apply, isPage, gsvSentence, if_neg (notEmpty i (by omega)), Nat.add_comm 1]

/-- Each satellite of a report is listed once, under its constellation. Where there is none, one
sentence says so. -/
theorem generateSv_listed (data : NmeaData) (svStatus : GnssSvStatus) :
    ∃ gps glonass gpsPage glonassPage,
      (generateSv cFormat data svStatus.report).2 = (if data.nmeaCb then gps ++ glonass else []) ∧
      Listed (lit "GPGSV") (svStatus.inView .gps)
        (max 1 (((svStatus.inView .gps).length + 3) / 4)) gps gpsPage ∧
      Listed (lit "GLGSV") (svStatus.inView .glonass)
        (max 1 (((svStatus.inView .glonass).length + 3) / 4)) glonass glonassPage := by
  rcases gsv_listed (lit "GPGSV") (by decide) svStatus .gps with ⟨gpsFits, gps⟩
  rcases gsv_listed (lit "GLGSV") (by decide) svStatus .glonass with ⟨glonassFits, glonass⟩
  refine ⟨_, _, _, _, ?_, gps, glonass⟩
  rw [generateSv, svSentences, Sentence.sendAll_of_fits data.nmeaCb (List.forall_mem_append.mpr
    ⟨gpsFits, glonassFits⟩), List.map_append]

def noSvs : GnssSvStatus := ⟨[], by decide, none⟩

/-- A sentence is sent for no satellite. -/
theorem not_listed_noSvs :
    ¬∃ gps glonass gpsPage glonassPage,
      (generateSv cFormat ⟨0, 0, .zero, .standalone, true⟩ noSvs.report).2 = gps ++ glonass ∧
      Listed (lit "GPGSV") (noSvs.inView .gps) (((noSvs.inView .gps).length + 3) / 4) gps gpsPage ∧
      Listed (lit "GLGSV") (noSvs.inView .glonass) (((noSvs.inView .glonass).length + 3) / 4)
        glonass glonassPage := by
  rintro ⟨gps, glonass, gpsPage, glonassPage, isSent, isGps, isGlonass⟩
  rw [isGps.sent, isGlonass.sent] at isSent
  exact absurd isSent (List.cons_ne_nil _ _)

end HtcPme.Gps.Nmea

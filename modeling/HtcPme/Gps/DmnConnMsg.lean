import HtcPme.Foundation.ByteMemory

/-!
# loc_eng_dmn_conn_glue_msg

Messages through a pipe. A message starts with its size, and is read back by one read of the size
and one of the rest, each of which may fail or give less than it is asked for.
-/

namespace HtcPme.Gps.DmnConn

open List

structure CtrlMsgbuf where
  msgsz : ℕ
  rest : List UInt8
  fits : msgsz < 2 ^ 64
  length_rest : rest.length = msgsz - 8

def CtrlMsgbuf.bytes (msg : CtrlMsgbuf) : List UInt8 :=
  (leBytes 8 msg.msgsz ++ msg.rest).take msg.msgsz

/-- `loc_eng_dmn_conn_glue_msgsnd`, where the write is complete. -/
def msgsnd (pipe : List UInt8) (msg : CtrlMsgbuf) : List UInt8 := pipe ++ msg.bytes

def int (value : ℕ) : ℤ := (BitVec.ofNat 32 value).toInt

abbrev Limit := Option ℕ

def Limit.given (limit : Limit) (sz : ℕ) (pipe : List UInt8) : List UInt8 :=
  pipe.take (min (limit.getD 0) sz)

def Limit.len (limit : Limit) (sz : ℕ) (pipe : List UInt8) : ℤ :=
  if limit.isSome then int (limit.given sz pipe).length else -1

/-- What a call returns, what it stored from the start of the buffer on, and what is left. -/
structure Received where
  result : ℤ
  stored : List UInt8
  pipe : List UInt8
deriving DecidableEq

/-- A call of `loc_eng_dmn_conn_glue_msgrcv`, with what its reads give. -/
structure Call where
  msgbufsz : ℕ
  first : Limit
  second : Limit

def Call.msgrcv (call : Call) (pipe : List UInt8) : Received :=
  let header := call.first.given 8 pipe
  let pipe' := pipe.drop header.length
  if call.first.len 8 pipe ≠ 8 then ⟨-1, header, pipe'⟩
  else
    let msgsz := littleEndian header
    if call.msgbufsz < msgsz then ⟨-1, header, pipe'⟩
    else
      -- The difference of two `size_t`.
      let sz := (msgsz + 2 ^ 64 - 8) % 2 ^ 64
      let rest := call.second.given sz pipe'
      ⟨if call.second.len sz pipe' ≠ int sz then -1 else int msgsz, header ++ rest,
        pipe'.drop rest.length⟩

/-- The message is returned or rejected as it should be, and the next one is what is read next. -/
structure Received.Right (received : Received) (msgbufsz : ℕ) (msg : CtrlMsgbuf)
    (behind : List UInt8) : Prop where
  stored : received.stored.length ≤ msgbufsz
  intact : 8 ≤ msg.msgsz ∧ msg.msgsz ≤ msgbufsz →
    received.result = msg.msgsz ∧ received.stored = msg.bytes
  rejected : ¬(8 ≤ msg.msgsz ∧ msg.msgsz ≤ msgbufsz) → received.result = -1
  next : received.pipe = behind

def sentBytes (run : List (CtrlMsgbuf × Call)) : List UInt8 :=
  run.foldl (fun pipe pair => msgsnd pipe pair.1) []

def RunRight : List UInt8 → List (CtrlMsgbuf × Call) → Prop
  | _, [] => True
  | pipe, (msg, call) :: run =>
      (call.msgrcv pipe).Right call.msgbufsz msg (sentBytes run) ∧
        RunRight (call.msgrcv pipe).pipe run

/-- The message fits and the reads give it whole, or it is shorter than its size field and this is
what the first read gives. -/
def CallOk (msg : CtrlMsgbuf) (call : Call) (behind : ℕ) : Prop :=
  msg.msgsz ≤ call.msgbufsz ∧
    if 8 ≤ msg.msgsz then
      msg.msgsz < 2 ^ 31 ∧ 8 ≤ call.first.getD 0 ∧ ∃ limit ∈ call.second, msg.msgsz - 8 ≤ limit
    else min (min (call.first.getD 0) 8) (msg.msgsz + behind) = msg.msgsz

def RunOk : List (CtrlMsgbuf × Call) → Prop
  | [] => True
  | (msg, call) :: run => CallOk msg call (sentBytes run).length ∧ RunOk run

variable {msg : CtrlMsgbuf} {call : Call} {behind : List UInt8}

theorem sentBytes_cons (run : List (CtrlMsgbuf × Call)) :
    sentBytes ((msg, call) :: run) = msg.bytes ++ sentBytes run := by
  have shift (pipe : List UInt8) :
      run.foldl (fun pipe pair => msgsnd pipe pair.1) pipe = pipe ++ sentBytes run := by
    rw [sentBytes]
    induction run generalizing pipe with
    | nil => simp
    | cons pair run ih =>
        rw [foldl_cons, ih, foldl_cons, ih (msgsnd [] pair.1)]
        simp [msgsnd]
  exact shift msg.bytes

theorem length_bytes : msg.bytes.length = msg.msgsz := by
  rw [CtrlMsgbuf.bytes, length_take, length_append, length_leBytes, msg.length_rest]
  omega

theorem bytes_eq (isLong : 8 ≤ msg.msgsz) : msg.bytes = leBytes 8 msg.msgsz ++ msg.rest := by
  apply take_of_length_le
  rw [length_append, length_leBytes, msg.length_rest]
  omega

theorem int_eq {value : ℕ} : int value = value ↔ value < 2 ^ 31 := by
  constructor
  · intro same
    have bound : (BitVec.ofNat 32 value).toInt < 2 ^ 31 := BitVec.toInt_lt
    rw [int] at same
    omega
  · intro small
    rw [int, BitVec.toInt_ofNat', Int.bmod_eq_of_le (by omega) (by omega)]

theorem length_given (limit : Limit) (sz : ℕ) (pipe : List UInt8) :
    (limit.given sz pipe).length = min (min (limit.getD 0) sz) pipe.length :=
  length_take

theorem length_pipe_le (call : Call) (pipe : List UInt8) :
    (call.msgrcv pipe).pipe.length ≤ pipe.length - (call.first.given 8 pipe).length := by
  rw [← length_drop]
  simp only [Call.msgrcv]
  split
  · exact Nat.le_refl _
  · split
    · exact Nat.le_refl _
    · exact (drop_sublist _ _).length_le

theorem msgrcv_short {pipe : List UInt8} (short : (call.first.given 8 pipe).length < 8) :
    call.msgrcv pipe =
      ⟨-1, call.first.given 8 pipe, pipe.drop (call.first.given 8 pipe).length⟩ := by
  apply if_pos
  rw [Limit.len]
  split
  · rw [int_eq.mpr (by omega)]
    omega
  · decide

theorem msgrcv_long (isLong : 8 ≤ msg.msgsz) (whole : 8 ≤ call.first.getD 0) :
    call.msgrcv (msg.bytes ++ behind) =
      if call.msgbufsz < msg.msgsz then ⟨-1, leBytes 8 msg.msgsz, msg.rest ++ behind⟩
      else
        let rest := call.second.given (msg.msgsz - 8) (msg.rest ++ behind)
        ⟨if call.second.len (msg.msgsz - 8) (msg.rest ++ behind) ≠ int (msg.msgsz - 8) then -1
          else int msg.msgsz, leBytes 8 msg.msgsz ++ rest,
          (msg.rest ++ behind).drop rest.length⟩ := by
  have isSz : (msg.msgsz + 2 ^ 64 - 8) % 2 ^ 64 = msg.msgsz - 8 := by
    have fits := msg.fits
    omega
  have isHeader : call.first.given 8 (msg.bytes ++ behind) = leBytes 8 msg.msgsz := by
    rw [Limit.given, Nat.min_eq_right whole, bytes_eq isLong, append_assoc]
    exact take_left' (length_leBytes 8 msg.msgsz)
  have isLen : call.first.len 8 (msg.bytes ++ behind) = 8 := by
    rw [Limit.len, isHeader, length_leBytes]
    cases isFirst : call.first with
    | none => simp [isFirst] at whole
    | some limit => rfl
  have isLeft : (msg.bytes ++ behind).drop 8 = msg.rest ++ behind := by
    rw [bytes_eq isLong, append_assoc]
    exact drop_left' (length_leBytes 8 msg.msgsz)
  have isMsgsz : littleEndian (leBytes 8 msg.msgsz) = msg.msgsz :=
    littleEndian_leBytes_of_lt msg.fits
  simp only [Call.msgrcv, isLen, isHeader, length_leBytes, isLeft, isSz, isMsgsz, ne_eq,
    not_true_eq_false, if_false]

theorem right_rest {msgbufsz : ℕ} (isLong : 8 ≤ msg.msgsz) (fits : msg.msgsz ≤ msgbufsz)
    (limit : Limit) :
    let rest := limit.given (msg.msgsz - 8) (msg.rest ++ behind)
    Received.Right
      ⟨if limit.len (msg.msgsz - 8) (msg.rest ++ behind) ≠ int (msg.msgsz - 8) then -1
        else int msg.msgsz, leBytes 8 msg.msgsz ++ rest, (msg.rest ++ behind).drop rest.length⟩
      msgbufsz msg behind ↔ msg.msgsz < 2 ^ 31 ∧ ∃ count ∈ limit, msg.msgsz - 8 ≤ count := by
  have isRest := length_given limit (msg.msgsz - 8) (msg.rest ++ behind)
  rw [length_append, msg.length_rest] at isRest
  constructor
  · rintro ⟨-, intact, -, next⟩
    have isResult := (intact ⟨isLong, fits⟩).1
    have atNext := congrArg length next
    simp only [length_drop, length_append, msg.length_rest] at atNext
    cases limit with
    | none =>
        rw [Option.getD_none] at isRest
        have isSize : msg.msgsz = 8 := by
          omega
        simp [isSize, Limit.len, int] at isResult
    | some count =>
        rw [Option.getD_some] at isRest
        refine ⟨?_, count, rfl, by omega⟩
        dsimp only at isResult
        split at isResult
        · omega
        · exact int_eq.mp isResult
  · rintro ⟨small, count, isCount, whole⟩
    cases isCount
    have isTake : Limit.given (some count) (msg.msgsz - 8) (msg.rest ++ behind) = msg.rest := by
      rw [Limit.given, Option.getD_some, Nat.min_eq_right whole]
      exact take_left' msg.length_rest
    have isLen : Limit.len (some count) (msg.msgsz - 8) (msg.rest ++ behind) =
        int (msg.msgsz - 8) := by
      rw [Limit.len, isTake, msg.length_rest]
      rfl
    simp only [isTake, isLen, ne_eq, not_true_eq_false, if_false]
    refine ⟨?_, fun _ => ⟨int_eq.mpr small, (bytes_eq isLong).symm⟩, fun rejects => ?_, ?_⟩
    · rw [← bytes_eq isLong, length_bytes]
      exact fits
    · exact absurd ⟨isLong, fits⟩ rejects
    · exact drop_left

theorem right_iff : (call.msgrcv (msg.bytes ++ behind)).Right call.msgbufsz msg behind ↔
    CallOk msg call behind.length := by
  have left := length_pipe_le call (msg.bytes ++ behind)
  have isGiven := length_given call.first 8 (msg.bytes ++ behind)
  rw [length_append, length_bytes] at left isGiven
  rw [CallOk, ← isGiven]
  by_cases short : (call.first.given 8 (msg.bytes ++ behind)).length < 8
  · have isDrop : ∀ count, ((msg.bytes ++ behind).drop count).length =
        msg.msgsz + behind.length - count := by
      intro count
      rw [length_drop, length_append, length_bytes]
    have isLength := isDrop (call.first.given 8 (msg.bytes ++ behind)).length
    rw [msgrcv_short short]
    constructor
    · rintro ⟨stored, -, -, next⟩
      dsimp only at stored next
      rw [next] at isLength
      rw [if_neg (by omega)]
      omega
    · rintro ⟨fits, ok⟩
      split at ok
      · omega
      · rename_i isShort
        refine ⟨ok.trans_le fits, fun isLong => absurd isLong.1 isShort, fun _ => rfl, ?_⟩
        rw [ok]
        exact drop_left' length_bytes
  · by_cases isLong : 8 ≤ msg.msgsz
    · rw [if_pos isLong, msgrcv_long isLong (by omega)]
      by_cases fits : call.msgbufsz < msg.msgsz
      · rw [if_pos fits]
        refine iff_of_false (fun isRight => ?_) fun ok => Nat.not_lt.mpr ok.1 fits
        have stored := isRight.stored
        have next := congrArg length isRight.next
        simp only [length_leBytes, length_append, msg.length_rest] at stored next
        omega
      · rw [if_neg fits]
        have fits := Nat.le_of_not_lt fits
        refine (right_rest isLong fits call.second).trans ?_
        constructor
        · rintro ⟨small, isGiven⟩
          exact ⟨fits, small, by omega, isGiven⟩
        · rintro ⟨-, small, -, isGiven⟩
          exact ⟨small, isGiven⟩
    · rw [if_neg isLong]
      refine iff_of_false (fun isRight => ?_) fun ok => ?_
      · rw [isRight.next] at left
        omega
      · omega

/-- In a run, every call is right if and only if its message fits and is given whole, or is shorter
than its size field and given alone. -/
theorem run_right_iff (run : List (CtrlMsgbuf × Call)) :
    RunRight (sentBytes run) run ↔ RunOk run := by
  induction run with
  | nil => exact Iff.rfl
  | cons pair run ih =>
      rcases pair with ⟨msg, call⟩
      rw [sentBytes_cons, RunRight, RunOk, right_iff]
      apply and_congr_right
      intro ok
      rw [(right_iff.mpr ok).next, ih]

/-- A message of one byte more than the buffer of `loc_api_server_proc` takes. -/
def tooLong : CtrlMsgbuf × Call :=
  (⟨385, replicate 377 0, by decide, length_replicate⟩, ⟨384, some 8, some 377⟩)

/-- It is rejected, and the call for the next message starts within it. -/
theorem not_runRight_tooLong : ¬RunRight (sentBytes [tooLong, tooLong]) [tooLong, tooLong] := by
  rw [tooLong, sentBytes_cons]
  rintro ⟨isRight, -⟩
  exact absurd (right_iff.mp isRight).1 (by decide)

end HtcPme.Gps.DmnConn

import HtcPme.Ipacm.CtListener
import Mathlib.Data.List.Nodup
import Mathlib.Data.List.Perm.Subperm

/-!
# The list of STA clients

A client that disconnects leaves a hole in the list, while the search for a client looks only at as
many slots as there are clients.
-/

namespace HtcPme.Ipacm

open List CtListener

variable {maxEntries : ℕ}

inductive StaEvent where
  | handleSTAClientAddEvt (clntIpAddr : BitVec 32) (answers : ℕ → Option ℕ)
  | handleSTAClientDelEvt (clntIpAddr : BitVec 32) (deleted : ℕ → Bool) (answers : ℕ → Option ℕ)

namespace StaEvent

def clntIpAddr : StaEvent → BitVec 32
  | handleSTAClientAddEvt clntIpAddr _ => clntIpAddr
  | handleSTAClientDelEvt clntIpAddr _ _ => clntIpAddr

end StaEvent

def nextConnected (connected : List (BitVec 32)) : StaEvent → List (BitVec 32)
  | .handleSTAClientAddEvt clntIpAddr _ => connected.insert clntIpAddr
  | .handleSTAClientDelEvt clntIpAddr _ _ => connected.filter (· ≠ clntIpAddr)

structure StaRun (maxEntries : ℕ) where
  listener : CtListener maxEntries
  connected : List (BitVec 32)

namespace CtListener

def staEvent (listener : CtListener maxEntries) :
    StaEvent → Except CtFault (CtListener maxEntries)
  | .handleSTAClientAddEvt clntIpAddr answers =>
      listener.handleSTAClientAddEvt clntIpAddr answers
  | .handleSTAClientDelEvt clntIpAddr deleted answers =>
      listener.handleSTAClientDelEvt clntIpAddr deleted answers

def FindsStaClnt (listener : CtListener maxEntries) (targetIp : BitVec 32) : Prop :=
  { listener with isStaMode := true }.staMatch targetIp = .found

def staClnts (listener : CtListener maxEntries) : List (BitVec 32) :=
  listener.staClntIpv4Addr.filter (· ≠ 0)

end CtListener

def staSubnet (ipAddr : BitVec 32) : BitVec 32 := ipAddr &&& 0xFFFFFF00

namespace StaRun

def IsInit (run : StaRun maxEntries) : Prop := run.listener.IsInit ∧ run.connected = []

def Step (run : StaRun maxEntries) (event : StaEvent) (next : StaRun maxEntries) : Prop :=
  event.clntIpAddr ≠ 0 ∧ run.listener.staEvent event = .ok next.listener ∧
    next.connected = nextConnected run.connected event

/-- The list holds no address twice, the count is right, and the clients that are connected are
those that are found. -/
structure StaOk (run : StaRun maxEntries) : Prop where
  distinct : run.listener.staClnts.Nodup
  counted : run.listener.staClntCnt = run.listener.staClnts.length
  finds_iff : run.connected.length ≤ maxStaClntIfaces →
    ∀ targetIp, run.listener.FindsStaClnt targetIp ↔ targetIp ∈ run.connected

/-- A client is added to clients of its own subnet, unless the list is full; and a client that
is deleted from the list is the last one in it, while every connected client is in it. -/
def StaCondition (run : StaRun maxEntries) : StaEvent → Prop
  | .handleSTAClientAddEvt clntIpAddr _ =>
      run.listener.staClntCnt < maxStaClntIfaces →
        ∀ clnt ∈ run.listener.staClnts, staSubnet clnt = staSubnet clntIpAddr
  | .handleSTAClientDelEvt clntIpAddr _ _ =>
      clntIpAddr ∈ run.listener.staClnts →
        run.listener.staClnts.getLast? = some clntIpAddr ∧
          ∀ clnt ∈ run.connected, clnt ∈ run.listener.staClnts

end StaRun

section Slots

variable {addr : BitVec 32} {clnts slots : List (BitVec 32)} {free : ℕ}

theorem storeAddr_of_mem (used : ∀ clnt ∈ clnts, clnt ≠ 0) (isIn : addr ∈ clnts) :
    storeAddr addr (clnts ++ slots) = some (false, clnts ++ slots) := by
  induction clnts with
  | nil => cases isIn
  | cons clnt clnts ih =>
      have clntUsed := used clnt mem_cons_self
      rw [cons_append, storeAddr]
      by_cases same : clnt = addr
      · rw [if_pos ⟨clntUsed, same⟩]
      · have isIn : addr ∈ clnts := (mem_cons.mp isIn).resolve_left (Ne.symm same)
        have ih := ih (fun other otherIn => used other (mem_cons_of_mem _ otherIn)) isIn
        rw [if_neg fun both => same both.2, if_neg clntUsed, ih]
        rfl

theorem storeAddr_of_not_mem (used : ∀ clnt ∈ clnts, clnt ≠ 0) (isNew : addr ∉ clnts) :
    storeAddr addr (clnts ++ replicate (free + 1) 0) =
      some (true, clnts ++ addr :: replicate free 0) := by
  induction clnts with
  | nil =>
      rw [nil_append, replicate_succ, storeAddr, if_neg fun both => both.1 rfl,
        if_pos rfl]
      rfl
  | cons clnt clnts ih =>
      have clntUsed := used clnt mem_cons_self
      have differs : clnt ≠ addr := fun same => isNew (same ▸ mem_cons_self)
      have ih := ih (fun other otherIn => used other (mem_cons_of_mem _ otherIn))
        fun isIn => isNew (mem_cons_of_mem _ isIn)
      rw [cons_append, storeAddr, if_neg fun both => differs both.2, if_neg clntUsed, ih]
      rfl

theorem clearAddr_of_not_mem (isNew : addr ∉ slots.filter (· ≠ 0)) :
    clearAddr addr slots = none := by
  induction slots with
  | nil => rfl
  | cons slot slots ih =>
      have differs : ¬(slot ≠ 0 ∧ slot = addr) := by
        rintro ⟨used, rfl⟩
        apply isNew
        simpa using used
      have isNew : addr ∉ slots.filter (· ≠ 0) := by
        intro isIn
        apply isNew
        exact ((sublist_cons_self slot slots).filter _).subset isIn
      rw [clearAddr, if_neg differs, ih isNew]
      rfl

theorem clearAddr_of_mem (used : addr ≠ 0) (isNew : addr ∉ clnts) :
    clearAddr addr (clnts ++ addr :: slots) = some (clnts ++ 0 :: slots) := by
  induction clnts with
  | nil =>
      rw [nil_append, clearAddr, if_pos ⟨used, rfl⟩]
      rfl
  | cons clnt clnts ih =>
      have differs : clnt ≠ addr := fun same => isNew (same ▸ mem_cons_self)
      have ih := ih fun isIn => isNew (mem_cons_of_mem _ isIn)
      rw [cons_append, clearAddr, if_neg fun both => differs both.2, ih]
      rfl

theorem filter_packed (used : ∀ clnt ∈ clnts, clnt ≠ 0) :
    (clnts ++ replicate free 0).filter (· ≠ 0) = clnts := by
  rw [filter_append, filter_eq_self.mpr (by simpa using used)]
  simp

end Slots

structure Packed (listener : CtListener maxEntries) (clnts : List (BitVec 32)) : Prop where
  slots : listener.staClntIpv4Addr = clnts ++ List.replicate (maxStaClntIfaces - clnts.length) 0
  counted : listener.staClntCnt = clnts.length
  room : clnts.length ≤ maxStaClntIfaces
  used : ∀ clnt ∈ clnts, clnt ≠ 0
  distinct : clnts.Nodup
  subnet : ∀ clnt ∈ clnts, ∀ clnt' ∈ clnts, staSubnet clnt = staSubnet clnt'

section Packed

variable {listener : CtListener maxEntries} {clnts : List (BitVec 32)} {targetIp : BitVec 32}

theorem CtListener.FindsStaClnt.subnet_and_mem (finds : listener.FindsStaClnt targetIp) :
    staSubnet (listener.staClntIpv4Addr.headD 0) = staSubnet targetIp ∧
      targetIp ∈ listener.staClntIpv4Addr.take listener.staClntCnt.toNat := by
  simp only [CtListener.FindsStaClnt, staMatch] at finds
  split_ifs at finds with _ otherSubnet isIn
  exact ⟨not_not.mp otherSubnet, contains_iff_mem.mp isIn⟩

theorem Packed.staClnts_eq (packed : Packed listener clnts) : listener.staClnts = clnts := by
  rw [staClnts, packed.slots]
  exact filter_packed packed.used

theorem Packed.finds_iff (packed : Packed listener clnts) :
    listener.FindsStaClnt targetIp ↔ targetIp ∈ clnts := by
  simp only [CtListener.FindsStaClnt, staMatch, packed.counted, packed.slots,
    Int.toNat_natCast, take_left']
  cases clnts with
  | nil => simp
  | cons first rest =>
      have counted : ((first :: rest).length : ℤ) ≠ 0 := by
        simp only [length_cons]
        omega
      simp only [counted, Bool.not_true, Bool.false_eq_true, or_self, if_false, cons_append,
        headD_cons, contains_iff_mem]
      by_cases isIn : targetIp ∈ first :: rest
      · have same : first &&& 0xFFFFFF00 = targetIp &&& 0xFFFFFF00 :=
          packed.subnet first mem_cons_self targetIp isIn
        rw [if_neg fun differs => differs same, if_pos isIn]
        exact iff_of_true rfl isIn
      · split_ifs <;> simp [isIn]

def CtListener.staTable (listener : CtListener maxEntries) : List (BitVec 32) × ℤ :=
  (listener.staClntIpv4Addr, listener.staClntCnt)

variable {next : CtListener maxEntries} {answers : ℕ → Option ℕ} {clntIpAddr : BitVec 32}

theorem onNat_staTable {op : NatAppOp}
    (applied : listener.onNat op = .ok next) : next.staTable = listener.staTable := by
  rcases onNat_eq_ok.mp applied with ⟨before, after, _, _, rfl⟩
  rfl

theorem handleSTAClientAddEvt_staTable
    (handled : listener.handleSTAClientAddEvt clntIpAddr answers = .ok next) :
    next.staTable =
      if maxStaClntIfaces ≤ listener.staClntCnt then listener.staTable
      else
        match storeAddr clntIpAddr listener.staClntIpv4Addr with
        | some (true, slots) => (slots, listener.staClntCnt + 1)
        | _ => listener.staTable := by
  simp only [handleSTAClientAddEvt] at handled
  by_cases full : (maxStaClntIfaces : ℤ) ≤ listener.staClntCnt
  · rw [if_pos full] at handled ⊢
    cases handled
    rfl
  · rw [if_neg full] at handled ⊢
    rw [onNat_staTable handled]
    rcases storeAddr clntIpAddr listener.staClntIpv4Addr with _ | ⟨_ | _, slots⟩ <;> rfl

theorem handleSTAClientDelEvt_staTable {deleted : ℕ → Bool}
    (handled : listener.handleSTAClientDelEvt clntIpAddr deleted answers = .ok next) :
    next.staTable =
      match clearAddr clntIpAddr listener.staClntIpv4Addr with
      | none => listener.staTable
      | some slots => (slots, listener.staClntCnt - 1) := by
  simp only [handleSTAClientDelEvt] at handled
  cases cleared : clearAddr clntIpAddr listener.staClntIpv4Addr with
  | none =>
      rw [cleared] at handled
      exact onNat_staTable handled
  | some slots =>
      rw [cleared] at handled
      rcases except_bind_eq_ok.mp handled with ⟨mid, disconnected, flushed⟩
      rw [onNat_staTable flushed]
      have same := onNat_staTable disconnected
      simp only [staTable, Prod.mk.injEq] at same ⊢
      exact ⟨same.1, by rw [same.2]⟩

variable {next : CtListener maxEntries} {clntIpAddr : BitVec 32} {answers : ℕ → Option ℕ}
  {deleted : ℕ → Bool}

section

variable (packed : Packed listener clnts)

include packed

theorem Packed.congr (same : next.staTable = listener.staTable) :
    Packed next clnts := by
  simp only [staTable, Prod.mk.injEq] at same
  exact { packed with slots := same.1.trans packed.slots, counted := same.2.trans packed.counted }

theorem Packed.add_known (known : clntIpAddr ∈ clnts ∨ clnts.length = maxStaClntIfaces)
    (handled : listener.handleSTAClientAddEvt clntIpAddr answers = .ok next) :
    Packed next clnts := by
  apply packed.congr
  rw [handleSTAClientAddEvt_staTable handled, packed.slots]
  rcases known with isIn | full
  · rw [storeAddr_of_mem packed.used isIn]
    simp
  · rw [if_pos (by rw [packed.counted, full])]

variable (isNew : clntIpAddr ∉ clnts)

include isNew

theorem Packed.add_staTable (room : clnts.length < maxStaClntIfaces)
    (handled : listener.handleSTAClientAddEvt clntIpAddr answers = .ok next) :
    next.staTable = ((clnts ++ [clntIpAddr]) ++
        replicate (maxStaClntIfaces - (clnts ++ [clntIpAddr]).length) 0,
      ((clnts ++ [clntIpAddr]).length : ℤ)) := by
  have free : maxStaClntIfaces - clnts.length =
      maxStaClntIfaces - (clnts ++ [clntIpAddr]).length + 1 := by
    rw [length_append, length_singleton]
    omega
  have below : ¬(maxStaClntIfaces : ℤ) ≤ listener.staClntCnt := by
    rw [packed.counted]
    omega
  rw [handleSTAClientAddEvt_staTable handled, packed.slots, if_neg below, free,
    storeAddr_of_not_mem packed.used isNew]
  simp [packed.counted]

theorem Packed.add_new (room : clnts.length < maxStaClntIfaces) (used : clntIpAddr ≠ 0)
    (sameSubnet : ∀ clnt ∈ clnts, staSubnet clnt = staSubnet clntIpAddr)
    (handled : listener.handleSTAClientAddEvt clntIpAddr answers = .ok next) :
    Packed next (clnts ++ [clntIpAddr]) := by
  have added := packed.add_staTable isNew room handled
  simp only [staTable, Prod.mk.injEq] at added
  refine ⟨added.1, added.2, by rw [length_append]; exact room, ?_, ?_, ?_⟩
  · intro clnt isIn
    rcases mem_append.mp isIn with isIn | isIn
    · exact packed.used clnt isIn
    · rwa [mem_singleton.mp isIn]
  · exact nodup_append.mpr ⟨packed.distinct, by simp, fun clnt isIn other otherIn same =>
      isNew (by rwa [← mem_singleton.mp otherIn, ← same])⟩
  · have toNew (clnt : BitVec 32) (isIn : clnt ∈ clnts ++ [clntIpAddr]) :
        staSubnet clnt = staSubnet clntIpAddr := by
      rcases mem_append.mp isIn with isIn | isIn
      · exact sameSubnet clnt isIn
      · rw [mem_singleton.mp isIn]
    intro clnt isIn clnt' isIn'
    rw [toNew clnt isIn, toNew clnt' isIn']

theorem Packed.del_absent
    (handled : listener.handleSTAClientDelEvt clntIpAddr deleted answers = .ok next) :
    Packed next clnts := by
  apply packed.congr
  rw [handleSTAClientDelEvt_staTable handled, clearAddr_of_not_mem]
  rw [← packed.staClnts_eq] at isNew
  exact isNew

end

theorem Packed.del_staTable {before after : List (BitVec 32)}
    (packed : Packed listener (before ++ clntIpAddr :: after))
    (handled : listener.handleSTAClientDelEvt clntIpAddr deleted answers = .ok next) :
    next.staTable = (before ++ 0 :: after ++
        replicate (maxStaClntIfaces - (before ++ clntIpAddr :: after).length) 0,
      ((before.length + after.length : ℕ) : ℤ)) := by
  have used : clntIpAddr ≠ 0 := packed.used clntIpAddr (by simp)
  have isNew : clntIpAddr ∉ before := by
    intro isIn
    exact (nodup_append.mp packed.distinct).2.2 _ isIn _ mem_cons_self rfl
  rw [handleSTAClientDelEvt_staTable handled, packed.slots, append_assoc,
    cons_append, clearAddr_of_mem used isNew]
  simp [packed.counted]
  omega

theorem Packed.del_last {before : List (BitVec 32)}
    (packed : Packed listener (before ++ [clntIpAddr]))
    (handled : listener.handleSTAClientDelEvt clntIpAddr deleted answers = .ok next) :
    Packed next before := by
  have cleared := packed.del_staTable handled
  simp only [staTable, Prod.mk.injEq] at cleared
  have room := packed.room
  rw [length_append, length_singleton] at room cleared
  have kept (clnt : BitVec 32) (isIn : clnt ∈ before) : clnt ∈ before ++ [clntIpAddr] :=
    mem_append_left _ isIn
  refine ⟨?_, by simpa using cleared.2, by omega, ?_, ?_, ?_⟩
  · rw [cleared.1, append_assoc]
    have free : maxStaClntIfaces - before.length =
        maxStaClntIfaces - (before.length + 1) + 1 := by omega
    rw [free, replicate_succ]
    rfl
  · exact fun clnt isIn => packed.used clnt (kept clnt isIn)
  · exact (nodup_append.mp packed.distinct).1
  · exact fun clnt isIn clnt' isIn' => packed.subnet clnt (kept clnt isIn) clnt' (kept clnt' isIn')

end Packed

namespace StaRun

structure ClntsOk (run : StaRun maxEntries) (clnts : List (BitVec 32)) : Prop where
  packed : Packed run.listener clnts
  isConnected : ∀ clnt ∈ clnts, clnt ∈ run.connected
  complete : clnts.length < maxStaClntIfaces → ∀ clnt ∈ run.connected, clnt ∈ clnts
  nodup : run.connected.Nodup

variable {run next : StaRun maxEntries} {event : StaEvent} {clnts : List (BitVec 32)}

theorem ClntsOk.mem_iff (clntsOk : run.ClntsOk clnts)
    (fits : run.connected.length ≤ maxStaClntIfaces) {clnt : BitVec 32} :
    clnt ∈ clnts ↔ clnt ∈ run.connected := by
  refine ⟨clntsOk.isConnected clnt, ?_⟩
  intro isConnected
  by_cases room : clnts.length < maxStaClntIfaces
  · exact clntsOk.complete room clnt isConnected
  · have subperm := clntsOk.packed.distinct.subperm fun clnt => clntsOk.isConnected clnt
    exact (subperm.perm_of_length_le (by omega)).mem_iff.mpr isConnected

theorem ClntsOk.staOk (clntsOk : run.ClntsOk clnts) : run.StaOk := by
  refine ⟨?_, ?_, ?_⟩
  · rw [clntsOk.packed.staClnts_eq]
    exact clntsOk.packed.distinct
  · rw [clntsOk.packed.staClnts_eq]
    exact clntsOk.packed.counted
  · intro fits targetIp
    rw [clntsOk.packed.finds_iff]
    exact clntsOk.mem_iff fits

theorem ClntsOk.init (isInit : run.IsInit) : run.ClntsOk [] := by
  rcases isInit with ⟨⟨_, counted, _, _, slots⟩, noneConnected⟩
  refine ⟨⟨slots, counted, by simp, by simp, by simp, by simp⟩, by simp, ?_, ?_⟩
  · simp [noneConnected]
  · simp [noneConnected]

section

variable (clntsOk : run.ClntsOk clnts)

include clntsOk

theorem ClntsOk.step (condition : run.StaCondition event)
    (stepped : run.Step event next) : ∃ clnts, next.ClntsOk clnts := by
  rcases stepped with ⟨used, handled, connectedEq⟩
  cases event with
  | handleSTAClientAddEvt clntIpAddr answers =>
      simp only [nextConnected] at connectedEq
      by_cases known : clntIpAddr ∈ clnts ∨ clnts.length = maxStaClntIfaces
      · refine ⟨clnts, clntsOk.packed.add_known known handled, ?_, ?_, ?_⟩
        · intro clnt isIn
          rw [connectedEq]
          exact mem_insert_of_mem (clntsOk.isConnected clnt isIn)
        · intro room clnt isIn
          rw [connectedEq, mem_insert_iff] at isIn
          rcases isIn with rfl | isIn
          · exact known.resolve_right (by omega)
          · exact clntsOk.complete room clnt isIn
        · rw [connectedEq]
          exact clntsOk.nodup.insert
      · rcases not_or.mp known with ⟨isNew, notFull⟩
        have room : clnts.length < maxStaClntIfaces := by
          have := clntsOk.packed.room
          omega
        have sameSubnet : ∀ clnt ∈ clnts, staSubnet clnt = staSubnet clntIpAddr := by
          have condition := condition (by rw [clntsOk.packed.counted]; exact_mod_cast room)
          rwa [clntsOk.packed.staClnts_eq] at condition
        refine ⟨clnts ++ [clntIpAddr],
          clntsOk.packed.add_new isNew room used sameSubnet handled, ?_, ?_, ?_⟩
        · intro clnt isIn
          rw [connectedEq, mem_insert_iff]
          rcases mem_append.mp isIn with isIn | isIn
          · exact .inr (clntsOk.isConnected clnt isIn)
          · exact .inl (mem_singleton.mp isIn)
        · intro _ clnt isIn
          rw [connectedEq, mem_insert_iff] at isIn
          rcases isIn with rfl | isIn
          · simp
          · exact mem_append_left _ (clntsOk.complete room clnt isIn)
        · rw [connectedEq]
          exact clntsOk.nodup.insert
  | handleSTAClientDelEvt clntIpAddr deleted answers =>
      simp only [nextConnected] at connectedEq
      have nodup : next.connected.Nodup := by
        rw [connectedEq]
        exact clntsOk.nodup.filter _
      by_cases isIn : clntIpAddr ∈ clnts
      · simp only [StaCondition, clntsOk.packed.staClnts_eq] at condition
        rcases condition isIn with ⟨isLast, complete⟩
        rcases getLast?_eq_some_iff.mp isLast with ⟨before, rfl⟩
        have packed := clntsOk.packed.del_last handled
        refine ⟨before, packed, ?_, ?_, nodup⟩
        · intro clnt isBefore
          have differs : clnt ≠ clntIpAddr := by
            rintro rfl
            exact (nodup_append.mp clntsOk.packed.distinct).2.2 _ isBefore _
              mem_cons_self rfl
          rw [connectedEq]
          simp [differs, clntsOk.isConnected clnt (mem_append_left _ isBefore)]
        · intro _ clnt stillConnected
          rw [connectedEq] at stillConnected
          simp only [mem_filter, decide_eq_true_eq] at stillConnected
          have isIn := complete clnt stillConnected.1
          simpa [stillConnected.2] using isIn
      · refine ⟨clnts, clntsOk.packed.del_absent isIn handled, ?_, ?_, nodup⟩
        · intro clnt clntIn
          have differs : clnt ≠ clntIpAddr := fun same => isIn (same ▸ clntIn)
          rw [connectedEq]
          simp [differs, clntsOk.isConnected clnt clntIn]
        · intro room clnt stillConnected
          rw [connectedEq] at stillConnected
          exact clntsOk.complete room clnt (mem_filter.mp stillConnected).1

theorem ClntsOk.connected_length
    (allKnown : ∀ clnt ∈ run.connected, clnt ∈ clnts) : run.connected.length ≤ clnts.length :=
  (clntsOk.nodup.subperm fun clnt => allKnown clnt).length_le

theorem ClntsOk.not_staOk_add
    (allKnown : ∀ clnt ∈ run.connected, clnt ∈ clnts) {clntIpAddr : BitVec 32}
    {answers : ℕ → Option ℕ} (room : clnts.length < maxStaClntIfaces) {clnt : BitVec 32}
    (clntIn : clnt ∈ clnts) (otherSubnet : staSubnet clnt ≠ staSubnet clntIpAddr)
    (stepped : run.Step (.handleSTAClientAddEvt clntIpAddr answers) next) : ¬next.StaOk := by
  rcases stepped with ⟨_, handled, connectedEq⟩
  simp only [nextConnected] at connectedEq
  intro staOk
  have isNew : clntIpAddr ∉ clnts := fun isIn =>
    otherSubnet (clntsOk.packed.subnet clnt clntIn clntIpAddr isIn)
  have added := clntsOk.packed.add_staTable isNew room handled
  simp only [staTable, Prod.mk.injEq] at added
  have notConnected : clntIpAddr ∉ run.connected := fun isIn => isNew (allKnown _ isIn)
  have fits : next.connected.length ≤ maxStaClntIfaces := by
    have length := clntsOk.connected_length allKnown
    rw [connectedEq, length_insert_of_not_mem notConnected]
    omega
  have finds := (staOk.finds_iff fits clntIpAddr).mpr (connectedEq ▸ mem_insert_self)
  have sameSubnet := finds.subnet_and_mem.1
  rw [added.1] at sameSubnet
  cases clnts with
  | nil => cases clntIn
  | cons first rest =>
      apply otherSubnet
      rw [clntsOk.packed.subnet clnt clntIn first mem_cons_self]
      exact sameSubnet

end

theorem ClntsOk.not_staOk_del {before mid : List (BitVec 32)} {clntIpAddr last : BitVec 32}
    (clntsOk : run.ClntsOk (before ++ clntIpAddr :: (mid ++ [last])))
    (allKnown : ∀ clnt ∈ run.connected, clnt ∈ before ++ clntIpAddr :: (mid ++ [last]))
    {deleted : ℕ → Bool} {answers : ℕ → Option ℕ}
    (stepped : run.Step (.handleSTAClientDelEvt clntIpAddr deleted answers) next) :
    ¬next.StaOk := by
  rcases stepped with ⟨_, handled, connectedEq⟩
  simp only [nextConnected] at connectedEq
  intro staOk
  have cleared := clntsOk.packed.del_staTable handled
  simp only [staTable, Prod.mk.injEq] at cleared
  have distinct := clntsOk.packed.distinct
  have lastIn : last ∈ before ++ clntIpAddr :: (mid ++ [last]) := by simp
  have isOther : last ≠ clntIpAddr ∧ last ∉ before ∧ last ∉ mid := by
    simp only [nodup_append, nodup_cons, mem_append, mem_cons,
      not_mem_nil, or_false] at distinct
    refine ⟨?_, ?_, ?_⟩
    · rintro rfl
      exact distinct.2.1.1 (.inr rfl)
    · intro isIn
      exact distinct.2.2 last isIn last (.inr (.inr rfl)) rfl
    · intro isIn
      exact distinct.2.1.2.2.2 last isIn last rfl rfl
  have fits : next.connected.length ≤ maxStaClntIfaces := by
    have length := clntsOk.connected_length allKnown
    have room := clntsOk.packed.room
    have fewer := length_filter_le (· ≠ clntIpAddr) run.connected
    rw [connectedEq]
    omega
  have isConnected : last ∈ next.connected := by
    rw [connectedEq]
    simp [isOther.1, clntsOk.isConnected last lastIn]
  have finds := (staOk.finds_iff fits last).mpr isConnected
  have seen := finds.subnet_and_mem.2
  have visited : before ++ 0 :: (mid ++ [last]) ++ replicate (maxStaClntIfaces -
      (before ++ clntIpAddr :: (mid ++ [last])).length) 0 =
        (before ++ 0 :: mid) ++ (last :: replicate (maxStaClntIfaces -
          (before ++ clntIpAddr :: (mid ++ [last])).length) 0) := by simp
  have length : (before ++ 0 :: mid).length = before.length + (mid ++ [last]).length := by simp
  rw [cleared.1, cleared.2, Int.toNat_natCast, visited, ← length, take_left] at seen
  rcases mem_append.mp seen with isIn | isIn
  · exact isOther.2.1 isIn
  · rcases mem_cons.mp isIn with isFree | isIn
    · exact clntsOk.packed.used last lastIn isFree
    · exact isOther.2.2 isIn

theorem ClntsOk.not_staOk (clntsOk : run.ClntsOk clnts)
    (allKnown : ∀ clnt ∈ run.connected, clnt ∈ clnts) (refused : ¬run.StaCondition event)
    (stepped : run.Step event next) : ¬next.StaOk := by
  cases event with
  | handleSTAClientAddEvt clntIpAddr answers =>
      simp only [StaCondition, clntsOk.packed.counted, clntsOk.packed.staClnts_eq,
        Classical.not_imp, not_forall] at refused
      rcases refused with ⟨room, clnt, clntIn, otherSubnet⟩
      exact clntsOk.not_staOk_add allKnown (by exact_mod_cast room) clntIn otherSubnet stepped
  | handleSTAClientDelEvt clntIpAddr deleted answers =>
      simp only [StaCondition, clntsOk.packed.staClnts_eq, Classical.not_imp] at refused
      rcases refused with ⟨isIn, notLast⟩
      rcases append_of_mem isIn with ⟨before, after, rfl⟩
      rcases eq_nil_or_concat' after with rfl | ⟨mid, last, rfl⟩
      · exact absurd ⟨by simp, allKnown⟩ notLast
      · exact clntsOk.not_staOk_del allKnown stepped

/-- In every run whose events meet the condition the list of STA clients is right, and while no
client was left out of a full list only such events keep it right. -/
theorem reachable_staOk (reached : Run.Reachable IsInit (Run.Guarded StaCondition Step) run) :
    run.StaOk ∧
      ((∀ clnt ∈ run.connected, clnt ∈ run.listener.staClnts) →
        ∀ event next, run.Step event next → (next.StaOk ↔ run.StaCondition event)) := by
  have isOk : ∃ clnts, run.ClntsOk clnts := by
    apply reached.invariant
    · exact fun run isInit => ⟨[], .init isInit⟩
    · rintro run event next ⟨clnts, clntsOk⟩ ⟨condition, stepped⟩
      exact clntsOk.step condition stepped
  rcases isOk with ⟨clnts, clntsOk⟩
  refine ⟨clntsOk.staOk, ?_⟩
  intro allKnown event next stepped
  rw [clntsOk.packed.staClnts_eq] at allKnown
  constructor
  · intro staOk
    by_contra refused
    exact clntsOk.not_staOk allKnown refused stepped staOk
  · intro condition
    rcases clntsOk.step condition stepped with ⟨_, nextOk⟩
    exact nextOk.staOk

def created : StaRun 2 where
  listener :=
    { ConntrackListener.created with
      staClntCnt := 0
      natIfaceIpv4Addr := .replicate maxNatIfaces 0
      nonnatIfaceIpv4Addr := .replicate maxNatIfaces 0
      staClntIpv4Addr := .replicate maxStaClntIfaces 0
      privateSubnetTable := [] }
  connected := []

theorem created_isInit : created.IsInit :=
  ⟨⟨ConntrackListener.created_isInit, rfl, rfl, rfl, rfl⟩, rfl⟩

def listed (clnts : List (BitVec 32)) (natInst : Option (NatApp 2)) : CtListener 2 :=
  { created.listener with
    staClntCnt := clnts.length
    staClntIpv4Addr := clnts ++ .replicate (maxStaClntIfaces - clnts.length) 0
    natInst := natInst }

theorem staClnts_listed {clnts : List (BitVec 32)} (natInst : Option (NatApp 2))
    (used : ∀ clnt ∈ clnts, clnt ≠ 0) : (listed clnts natInst).staClnts = clnts :=
  filter_packed used

theorem reachable_staOk_last :
    ∃ run : StaRun 2, run.connected = [0x0A000002] ∧ run.StaOk := by
  have first : Run.Reachable (@IsInit 2) (Run.Guarded StaCondition Step)
      ⟨listed [0x0A000002] _, [0x0A000002]⟩ :=
    .next (.handleSTAClientAddEvt 0x0A000002 fun _ => none) (.start created_isInit)
      ⟨by simp [StaCondition, CtListener.staClnts, created], by decide, rfl, rfl⟩
  have second : Run.Reachable (@IsInit 2) (Run.Guarded StaCondition Step)
      ⟨listed [0x0A000002, 0x0A000003] _, [0x0A000003, 0x0A000002]⟩ :=
    .next (.handleSTAClientAddEvt 0x0A000003 fun _ => none) first
      ⟨by intro _; rw [staClnts_listed _ (by simp)]; simp [staSubnet], by decide, rfl, rfl⟩
  have third : Run.Reachable (@IsInit 2) (Run.Guarded StaCondition Step)
      ⟨listed [0x0A000002] _, [0x0A000002]⟩ :=
    .next (.handleSTAClientDelEvt 0x0A000003 (fun _ => true) fun _ => none) second
      ⟨by intro _; rw [staClnts_listed _ (by simp)]; simp, by decide, rfl, rfl⟩
  exact ⟨_, by decide, (reachable_staOk third).1⟩

/-- Two clients connect, and the first disconnects: the second is not found. -/
theorem handleSTAClientDelEvt_leaves_hole :
    ¬∀ run : StaRun 2, Run.Reachable IsInit Step run → run.StaOk := by
  intro claimed
  have first : Run.Reachable (@IsInit 2) Step ⟨listed [0x0A000002] _, [0x0A000002]⟩ :=
    .next (.handleSTAClientAddEvt 0x0A000002 fun _ => none) (.start created_isInit)
      ⟨by decide, rfl, rfl⟩
  have second : Run.Reachable (@IsInit 2) Step
      ⟨listed [0x0A000002, 0x0A000003] _, [0x0A000003, 0x0A000002]⟩ :=
    .next (.handleSTAClientAddEvt 0x0A000003 fun _ => none) first ⟨by decide, rfl, rfl⟩
  have third : Run.Reachable (@IsInit 2) Step ⟨_, [0x0A000003]⟩ :=
    .next (.handleSTAClientDelEvt 0x0A000002 (fun _ => true) fun _ => none) second
      ⟨by decide, rfl, rfl⟩
  have finds := ((claimed _ third).finds_iff (by decide) 0x0A000003).mpr (by decide)
  revert finds
  simp only [CtListener.FindsStaClnt]
  decide

end StaRun

end HtcPme.Ipacm

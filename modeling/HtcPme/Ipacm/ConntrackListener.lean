import HtcPme.Ipacm.NatAppTable

/-!
# The conntrack listener and the NAT table

`IPACM_ConntrackListener` creates the table when the WAN comes up and deletes it when the WAN goes
down.
-/

namespace HtcPme.Ipacm

variable {maxEntries : ℕ}

/-- `IPACM_ConntrackListener`, as far as the WAN events go. -/
structure ConntrackListener (maxEntries : ℕ) where
  wanUp : Bool
  isStaMode : Bool
  wanIpaddr : BitVec 32
  natInst : Option (NatApp maxEntries)

inductive ListenerEvent where
  | handleWanUp (ipv4Addr : BitVec 32) (isSta : Bool) (created : Bool) (answers : ℕ → Option ℕ)
  | handleWanDown (ipv4Addr : BitVec 32) (deleted : Bool)
  /-- A conntrack message or a neighbour event, by what it does to the NAT cache. -/
  | nat (op : NatAppOp) (keeps : ¬op.ChangesTable)

namespace ConntrackListener

def triggerWANUp (listener : ConntrackListener maxEntries) (ipv4Addr : BitVec 32) (isSta : Bool)
    (created : Bool) (answers : ℕ → Option ℕ) : ConntrackListener maxEntries :=
  if ipv4Addr = 0 then listener
  else
    { listener with
      wanUp := true
      isStaMode := isSta
      wanIpaddr := ipv4Addr
      natInst := listener.natInst.map fun natInst => (natInst.addTable ipv4Addr created answers).2 }

def triggerWANDown (listener : ConntrackListener maxEntries) (wanAddr : BitVec 32)
    (deleted : Bool) : ConntrackListener maxEntries :=
  { listener with
    wanUp := false
    natInst := listener.natInst.map fun natInst => (natInst.deleteTable wanAddr deleted).2 }

def eventCallback (listener : ConntrackListener maxEntries) :
    ListenerEvent → Except NatFault (ConntrackListener maxEntries)
  | .handleWanUp ipv4Addr isSta created answers =>
      .ok (if !listener.wanUp then listener.triggerWANUp ipv4Addr isSta created answers else
        listener)
  | .handleWanDown ipv4Addr deleted =>
      .ok (if listener.wanUp then listener.triggerWANDown ipv4Addr deleted else listener)
  | .nat op _ =>
      match listener.natInst with
      | none => .ok listener
      | some natInst => do
          let natInst ← natInst.apply op
          return { listener with natInst := some natInst }

def IsInit (listener : ConntrackListener maxEntries) : Prop :=
  listener.wanUp = false ∧ ∀ natInst, listener.natInst = some natInst → natInst.IsInit

def Step (listener : ConntrackListener maxEntries) (event : ListenerEvent)
    (next : ConntrackListener maxEntries) : Prop :=
  listener.eventCallback event = .ok next

def NoTable (listener : ConntrackListener maxEntries) : Prop :=
  ∀ natInst, listener.natInst = some natInst → natInst.driver.table = none

def InvokesAddTable (listener : ConntrackListener maxEntries) : ListenerEvent → Prop
  | .handleWanUp ipv4Addr _ _ _ =>
      listener.wanUp = false ∧ ipv4Addr ≠ 0 ∧ listener.natInst ≠ none
  | _ => False

def KeepsTable (listener : ConntrackListener maxEntries) (event : ListenerEvent) : Prop :=
  (listener.InvokesAddTable event → listener.NoTable) ∧
    ∀ next, listener.Step event next → next.wanUp = false → next.NoTable

/-- A WAN that goes down while its table exists does so with the address of the table, and the
driver deletes the table. -/
def WanCondition (listener : ConntrackListener maxEntries) : ListenerEvent → Prop
  | .handleWanDown ipv4Addr deleted =>
      listener.wanUp → ∀ natInst, listener.natInst = some natInst → natInst.driver.table ≠ none →
        natInst.pubIpAddr = ipv4Addr ∧ deleted
  | _ => True

structure TableOk (listener : ConntrackListener maxEntries) : Prop where
  noTable : listener.wanUp = false → listener.NoTable
  tblHdl : ∀ natInst, listener.natInst = some natInst → natInst.TblHdlOk

section Runs

variable {listener next : ConntrackListener maxEntries} {event : ListenerEvent}

section

variable (tableOk : listener.TableOk)

include tableOk

theorem TableOk.noTable_of_addTable
    (invokes : listener.InvokesAddTable event) : listener.NoTable := by
  cases event with
  | handleWanUp ipv4Addr isSta created answers => exact tableOk.noTable invokes.1
  | handleWanDown ipv4Addr deleted => exact invokes.elim
  | nat op keeps => exact invokes.elim

theorem TableOk.handleWanUp (ipv4Addr : BitVec 32) (isSta : Bool)
    (created : Bool) (answers : ℕ → Option ℕ)
    (stepped : listener.Step (.handleWanUp ipv4Addr isSta created answers) next) :
    next.TableOk := by
  have nextEq := Except.ok.inj stepped
  rw [← nextEq]
  split
  · rename_i isDown
    rw [Bool.not_eq_true'] at isDown
    unfold triggerWANUp
    split
    · exact tableOk
    · refine ⟨fun isDown => by simp at isDown, ?_⟩
      intro natInst isInst
      rcases Option.map_eq_some_iff.mp isInst with ⟨before, isBefore, rfl⟩
      exact (tableOk.tblHdl before isBefore).addTable (tableOk.noTable isDown before isBefore)
        ipv4Addr created answers
  · exact tableOk

theorem TableOk.handleWanDown {ipv4Addr : BitVec 32} {deleted : Bool}
    (condition : listener.WanCondition (.handleWanDown ipv4Addr deleted))
    (stepped : listener.Step (.handleWanDown ipv4Addr deleted) next) : next.TableOk := by
  have nextEq := Except.ok.inj stepped
  rw [← nextEq]
  split
  · rename_i isUp
    constructor
    · intro _ natInst isInst
      rcases Option.map_eq_some_iff.mp isInst with ⟨before, isBefore, rfl⟩
      have tblHdlOk := tableOk.tblHdl before isBefore
      by_cases hasTable : before.driver.table = none
      · rw [NatApp.TblHdlOk, if_pos hasTable] at tblHdlOk
        simp only [NatApp.deleteTable, tblHdlOk, if_true]
        exact hasTable
      · exact (tblHdlOk.deleteTable_table hasTable ipv4Addr deleted).mpr
          (condition isUp before isBefore hasTable)
    · intro natInst isInst
      rcases Option.map_eq_some_iff.mp isInst with ⟨before, isBefore, rfl⟩
      exact (tableOk.tblHdl before isBefore).deleteTable ipv4Addr deleted
  · exact tableOk

theorem TableOk.nat {op : NatAppOp} {keeps : ¬op.ChangesTable}
    (stepped : listener.Step (.nat op keeps) next) : next.TableOk := by
  cases isBefore : listener.natInst with
  | none =>
      simp only [Step, eventCallback, isBefore] at stepped
      cases stepped
      exact tableOk
  | some before =>
      simp only [Step, eventCallback, isBefore] at stepped
      cases applied : before.apply op with
      | error fault =>
          rw [applied] at stepped
          cases stepped
      | ok after =>
          rw [applied] at stepped
          cases stepped
          have same := NatApp.Step.sameTable applied keeps
          constructor
          · rintro isDown natInst ⟨⟩
            rw [same.table]
            exact tableOk.noTable isDown before isBefore
          · rintro natInst ⟨⟩
            exact (tableOk.tblHdl before isBefore).sameTable same

theorem TableOk.step (condition : listener.WanCondition event)
    (stepped : listener.Step event next) : next.TableOk := by
  cases event with
  | handleWanUp ipv4Addr isSta created answers =>
      exact tableOk.handleWanUp ipv4Addr isSta created answers stepped
  | handleWanDown ipv4Addr deleted => exact tableOk.handleWanDown condition stepped
  | nat op keeps => exact tableOk.nat stepped

end

theorem reachable_tableOk
    (reached : Run.Reachable IsInit (Run.Guarded WanCondition Step) listener) :
    listener.TableOk := by
  apply reached.invariant
  · rintro listener ⟨_, isInit⟩
    constructor
    · intro _ natInst isInst
      rcases isInit natInst isInst with ⟨algPorts, pubIpAddrPre, pwrSaveIfs, rfl⟩
      rfl
    · intro natInst isInst
      rcases isInit natInst isInst with ⟨algPorts, pubIpAddrPre, pwrSaveIfs, rfl⟩
      rfl
  · intro listener event next tableOk stepped
    exact tableOk.step stepped.1 stepped.2

theorem TableOk.not_keepsTable (tableOk : listener.TableOk)
    (condition : ¬listener.WanCondition event) : ¬listener.KeepsTable event := by
  rintro ⟨_, keeps⟩
  cases event with
  | handleWanUp ipv4Addr isSta created answers => exact condition trivial
  | nat op isNat => exact condition trivial
  | handleWanDown ipv4Addr deleted =>
      simp only [WanCondition, Classical.not_imp, not_forall] at condition
      rcases condition with ⟨isUp, natInst, isInst, hasTable, refused⟩
      have noTable := keeps (listener.triggerWANDown ipv4Addr deleted)
        (by rw [Step, eventCallback, if_pos isUp]) rfl
        (natInst.deleteTable ipv4Addr deleted).2 (by rw [triggerWANDown, isInst]; rfl)
      exact refused (((tableOk.tblHdl natInst isInst).deleteTable_table hasTable ipv4Addr
        deleted).mp noTable)

/-- In every run whose WAN-down events meet the condition, a table exists only while the WAN is up;
and exactly the events that meet it keep this. -/
theorem reachable_noTable
    (reached : Run.Reachable IsInit (Run.Guarded WanCondition Step) listener) :
    (listener.wanUp = false → listener.NoTable) ∧
      ∀ event, listener.KeepsTable event ↔ listener.WanCondition event := by
  have tableOk := reachable_tableOk reached
  refine ⟨tableOk.noTable, ?_⟩
  intro event
  constructor
  · intro keeps
    by_contra condition
    exact tableOk.not_keepsTable condition keeps
  · intro condition
    refine ⟨tableOk.noTable_of_addTable, ?_⟩
    intro next stepped isDown
    exact (tableOk.step condition stepped).noTable isDown

def created : ConntrackListener maxEntries :=
  ⟨false, false, 0, some (.init [] 0 fun _ => 0)⟩

theorem created_isInit : (created : ConntrackListener maxEntries).IsInit :=
  ⟨rfl, by rintro natInst ⟨⟩; exact ⟨[], 0, fun _ => 0, rfl⟩⟩

theorem reachable_noTable_up_down_up :
    ∃ listener : ConntrackListener 2, listener.wanIpaddr = 8 ∧
      (listener.wanUp = false → listener.NoTable) ∧
        ∀ event, listener.KeepsTable event ↔ listener.WanCondition event := by
  have up : Run.Reachable (@IsInit 2) (Run.Guarded WanCondition Step) _ :=
    .next (.handleWanUp 7 false true fun _ => none) (.start created_isInit) ⟨trivial, rfl⟩
  have down : Run.Reachable (@IsInit 2) (Run.Guarded WanCondition Step) _ :=
    .next (.handleWanDown 7 true) up ⟨by rintro _ natInst ⟨⟩ _; exact ⟨rfl, rfl⟩, rfl⟩
  have upAgain : Run.Reachable (@IsInit 2) (Run.Guarded WanCondition Step) _ :=
    .next (.handleWanUp 8 true true fun _ => none) down ⟨trivial, rfl⟩
  exact ⟨_, rfl, reachable_noTable upAgain⟩

/-- The WAN goes down with another address than it came up with: the table stays, and the next
WAN-up event calls `AddTable`. -/
theorem handleWanDown_keeps_table :
    ∃ down : ConntrackListener 2, Run.Reachable (@IsInit 2) Step down ∧ down.wanUp = false ∧
      ¬down.NoTable ∧ down.InvokesAddTable (.handleWanUp 8 false true fun _ => none) := by
  have up : Run.Reachable (@IsInit 2) Step _ :=
    .next (.handleWanUp 7 false true fun _ => none) (.start created_isInit) rfl
  have down : Run.Reachable (@IsInit 2) Step _ := .next (.handleWanDown 9 true) up rfl
  refine ⟨_, down, rfl, ?_, rfl, by decide, Option.some_ne_none _⟩
  intro noTable
  exact absurd (noTable _ rfl) (Option.some_ne_none _)

end Runs

end ConntrackListener

end HtcPme.Ipacm

import HtcPme.Foundation.Adjacency

/-!
# LAN-to-LAN filtering rules of an interface

An interface has a few filtering rules in place. Adding a LAN-to-LAN rule writes the two addresses
into the first dummy rule, deleting it writes the dummy rule back.
-/

namespace HtcPme.Ipacm

open Adjacency List

def maxOffloadPair : ℕ := 3

/-- `lan2lan_flt_rule_hdl` with the source and the destination that its rule matches, if it is not
the dummy rule. -/
structure Lan2lanFltRuleHdl (κ : Type) where
  ruleHdl : ℕ
  rule : Option (κ × κ)
  deriving DecidableEq

/-- The flag `valid`, which is set exactly while the rule is not the dummy rule. -/
def Lan2lanFltRuleHdl.valid {κ : Type} (slot : Lan2lanFltRuleHdl κ) : Bool :=
  slot.rule.isSome

def Lan2lanFltRuleHdl.occupy {κ : Type} (src dst : κ) (slot : Lan2lanFltRuleHdl κ) :
    Lan2lanFltRuleHdl κ :=
  { slot with rule := some (src, dst) }

def Lan2lanFltRuleHdl.resetToDummy {κ : Type} (slot : Lan2lanFltRuleHdl κ) : Lan2lanFltRuleHdl κ :=
  { slot with rule := none }

/-- The part of an `IPACM_Lan` object that concerns LAN-to-LAN filtering rules. -/
structure LanFlt (κ : Type) where
  lan2lanFltRuleHdl : List (Lan2lanFltRuleHdl κ)
  numLan2lanFltRule : ℕ
  deriving DecidableEq

namespace LanFlt

variable {κ : Type}

/-- `IPACM_Lan::add_lan2lan_flt_rule`, where `mdfy` tells whether the interface has an
rx property and memory, the routing table and the rule's modification are granted. -/
def addLan2lanFltRule (mdfy : Bool) (flt : LanFlt κ) (src dst : κ) : Option (ℕ × LanFlt κ) :=
  if flt.numLan2lanFltRule ≥ maxOffloadPair then none
  else
    match flt.lan2lanFltRuleHdl.find? fun slot => !slot.valid with
    | none => none
    | some slot =>
        if mdfy then
          some (slot.ruleHdl,
            { lan2lanFltRuleHdl := updateFirst (fun slot => !slot.valid)
                (Lan2lanFltRuleHdl.occupy src dst) flt.lan2lanFltRuleHdl
              numLan2lanFltRule := (flt.numLan2lanFltRule + 1) % 256 })
        else none

/-- `IPACM_Lan::del_lan2lan_flt_rule`, where `reset` tells whether `reset_to_dummy_flt_rule`
succeeds, with the rule that was in place. -/
def delLan2lanFltRule (reset : Bool) (flt : LanFlt κ) (hdl : ℕ) :
    Option (Option (κ × κ) × LanFlt κ) :=
  match flt.lan2lanFltRuleHdl.find? (·.ruleHdl = hdl) with
  | none => none
  | some slot =>
      if reset then
        some (slot.rule,
          { lan2lanFltRuleHdl := updateFirst (·.ruleHdl = hdl)
              Lan2lanFltRuleHdl.resetToDummy flt.lan2lanFltRuleHdl
            numLan2lanFltRule := (flt.numLan2lanFltRule + 255) % 256 })
      else none

def ruleAt (flt : LanFlt κ) (hdl : ℕ) : Option (κ × κ) :=
  (flt.lan2lanFltRuleHdl.find? (·.ruleHdl = hdl)).bind (·.rule)

def room (flt : LanFlt κ) : ℕ :=
  min (maxOffloadPair - flt.numLan2lanFltRule)
    (flt.lan2lanFltRuleHdl.countP fun slot => !slot.valid)

def HasHandle (flt : LanFlt κ) (hdl : ℕ) : Prop :=
  hdl ∈ flt.lan2lanFltRuleHdl.map (·.ruleHdl)

instance (flt : LanFlt κ) (hdl : ℕ) : Decidable (flt.HasHandle hdl) :=
  inferInstanceAs (Decidable (hdl ∈ _))

def Distinct (flt : LanFlt κ) : Prop :=
  (flt.lan2lanFltRuleHdl.map (·.ruleHdl)).Nodup

section Add

variable {mdfy : Bool} {flt next : LanFlt κ} {src dst : κ} {hdl : ℕ}

theorem addLan2lanFltRule_eq_some
    (added : flt.addLan2lanFltRule mdfy src dst = some (hdl, next)) :
    mdfy = true ∧ flt.numLan2lanFltRule < maxOffloadPair ∧
      ∃ slot, flt.lan2lanFltRuleHdl.find? (fun slot => !slot.valid) = some slot ∧
        slot.ruleHdl = hdl ∧
        next = { lan2lanFltRuleHdl := updateFirst (fun slot => !slot.valid)
                   (Lan2lanFltRuleHdl.occupy src dst) flt.lan2lanFltRuleHdl
                 numLan2lanFltRule := (flt.numLan2lanFltRule + 1) % 256 } := by
  unfold addLan2lanFltRule at added
  split at added
  · cases added
  · rename_i notFull
    split at added
    · cases added
    · rename_i slot found
      split at added
      · rename_i granted
        cases added
        exact ⟨granted, by omega, slot, found, rfl, rfl⟩
      · cases added

theorem addLan2lanFltRule_handles
    (added : flt.addLan2lanFltRule mdfy src dst = some (hdl, next)) :
    next.lan2lanFltRuleHdl.map (·.ruleHdl) = flt.lan2lanFltRuleHdl.map (·.ruleHdl) := by
  rcases addLan2lanFltRule_eq_some added with ⟨_, _, _, _, _, rfl⟩
  apply map_updateFirst
  intro slot
  rfl

theorem addLan2lanFltRule_isSome :
    (flt.addLan2lanFltRule mdfy src dst).isSome ↔ mdfy = true ∧ 0 < flt.room := by
  have found : 0 < flt.lan2lanFltRuleHdl.countP (fun slot => !slot.valid) ↔
      (flt.lan2lanFltRuleHdl.find? fun slot => !slot.valid).isSome := by
    rw [countP_pos_iff, find?_isSome]
  unfold addLan2lanFltRule room
  split
  · simp only [Option.isSome_none, Bool.false_eq_true, false_iff, not_and]
    omega
  · split
    · rename_i notFound
      simp only [notFound, Option.isSome_none, Bool.false_eq_true, iff_false] at found
      simp only [Option.isSome_none, Bool.false_eq_true, false_iff, not_and]
      omega
    · rename_i slot isFound
      simp only [isFound, Option.isSome_some, iff_true] at found
      cases mdfy
      · simp
      · simp only [if_true, Option.isSome_some, true_and, true_iff]
        omega

theorem countP_updateFirst_invalid (src dst : κ) {slots : List (Lan2lanFltRuleHdl κ)}
    {slot : Lan2lanFltRuleHdl κ}
    (found : slots.find? (fun slot => !slot.valid) = some slot) :
    (updateFirst (fun slot => !slot.valid) (Lan2lanFltRuleHdl.occupy src dst) slots).countP
      (fun slot => !slot.valid) + 1 = slots.countP fun slot => !slot.valid := by
  induction slots with
  | nil => simp at found
  | cons head rest ih =>
      by_cases unused : (!head.valid) = true
      · simp only [updateFirst, unused, if_true, countP_cons]
        simp [Lan2lanFltRuleHdl.occupy, Lan2lanFltRuleHdl.valid]
      · rw [find?_cons_of_neg (by simpa using unused)] at found
        simp only [updateFirst, unused, Bool.false_eq_true, if_false, countP_cons]
        have rest := ih found
        omega

theorem addLan2lanFltRule_room
    (added : flt.addLan2lanFltRule mdfy src dst = some (hdl, next)) :
    next.room + 1 = flt.room := by
  rcases addLan2lanFltRule_eq_some added with ⟨_, notFull, slot, found, _, rfl⟩
  have counted := countP_updateFirst_invalid src dst found
  simp only [room, maxOffloadPair] at notFull ⊢
  omega

theorem addLan2lanFltRule_mem (distinct : flt.Distinct)
    (added : flt.addLan2lanFltRule mdfy src dst = some (hdl, next)) :
    ⟨hdl, none⟩ ∈ flt.lan2lanFltRuleHdl ∧ ∀ slot, slot ∈ next.lan2lanFltRuleHdl ↔
      slot ∈ flt.lan2lanFltRuleHdl ∧ slot.ruleHdl ≠ hdl ∨ slot = ⟨hdl, some (src, dst)⟩ := by
  rcases addLan2lanFltRule_eq_some added with ⟨_, _, slot, found, rfl, rfl⟩
  have slotMem := mem_of_find?_eq_some found
  have unused : slot.rule = none := by
    have notValid := find?_some found
    simpa [Lan2lanFltRuleHdl.valid] using notValid
  have slotEq : slot = ⟨slot.ruleHdl, none⟩ := by
    cases slot
    simp_all
  refine ⟨slotEq ▸ slotMem, ?_⟩
  intro other
  rw [updateFirst_of_find? distinct found, mem_updateFirst distinct]
  apply or_congr_right
  constructor
  · rintro ⟨old, _, sameHdl, rfl⟩
    rw [← sameHdl]
    rfl
  · rintro rfl
    exact ⟨slot, slotMem, rfl, rfl⟩

end Add

section Delete

variable {reset : Bool} {flt next : LanFlt κ} {hdl : ℕ} {found : Option (κ × κ)}

theorem delLan2lanFltRule_eq_some
    (deleted : flt.delLan2lanFltRule reset hdl = some (found, next)) :
    reset = true ∧ ⟨hdl, found⟩ ∈ flt.lan2lanFltRuleHdl ∧
      next = { lan2lanFltRuleHdl := updateFirst (·.ruleHdl = hdl)
                 Lan2lanFltRuleHdl.resetToDummy flt.lan2lanFltRuleHdl
               numLan2lanFltRule := (flt.numLan2lanFltRule + 255) % 256 } := by
  unfold delLan2lanFltRule at deleted
  split at deleted
  · cases deleted
  · rename_i slot isFound
    split at deleted
    · rename_i granted
      cases deleted
      have sameHdl : slot.ruleHdl = hdl := by simpa using find?_some isFound
      subst sameHdl
      exact ⟨granted, mem_of_find?_eq_some isFound, rfl⟩
    · cases deleted

theorem delLan2lanFltRule_handles
    (deleted : flt.delLan2lanFltRule reset hdl = some (found, next)) :
    next.lan2lanFltRuleHdl.map (·.ruleHdl) = flt.lan2lanFltRuleHdl.map (·.ruleHdl) := by
  rcases delLan2lanFltRule_eq_some deleted with ⟨_, _, rfl⟩
  apply map_updateFirst
  intro slot
  rfl

theorem delLan2lanFltRule_isSome :
    (flt.delLan2lanFltRule reset hdl).isSome ↔ reset = true ∧ flt.HasHandle hdl := by
  have found : flt.HasHandle hdl ↔ (flt.lan2lanFltRuleHdl.find? (·.ruleHdl = hdl)).isSome := by
    simp [HasHandle]
  rw [found]
  unfold delLan2lanFltRule
  split
  · rename_i notFound
    simp [notFound]
  · rename_i slot isFound
    cases reset <;> simp [isFound]

theorem delLan2lanFltRule_mem (distinct : flt.Distinct)
    (deleted : flt.delLan2lanFltRule reset hdl = some (found, next)) :
    ⟨hdl, found⟩ ∈ flt.lan2lanFltRuleHdl ∧ ∀ slot, slot ∈ next.lan2lanFltRuleHdl ↔
      slot ∈ flt.lan2lanFltRuleHdl ∧ slot.ruleHdl ≠ hdl ∨ slot = ⟨hdl, none⟩ := by
  rcases delLan2lanFltRule_eq_some deleted with ⟨_, slotMem, rfl⟩
  refine ⟨slotMem, ?_⟩
  intro other
  rw [mem_updateFirst distinct]
  apply or_congr_right
  constructor
  · rintro ⟨old, _, sameHdl, rfl⟩
    rw [← sameHdl]
    rfl
  · rintro rfl
    exact ⟨_, slotMem, rfl, rfl⟩

end Delete

variable {flt next : LanFlt κ} {hdl : ℕ}

theorem Distinct.of_handles (distinct : flt.Distinct)
    (same : next.lan2lanFltRuleHdl.map (·.ruleHdl) = flt.lan2lanFltRuleHdl.map (·.ruleHdl)) :
    next.Distinct := by
  unfold Distinct
  rwa [same]

theorem hasHandle_congr
    (same : next.lan2lanFltRuleHdl.map (·.ruleHdl) = flt.lan2lanFltRuleHdl.map (·.ruleHdl)) :
    next.HasHandle hdl ↔ flt.HasHandle hdl := by
  unfold HasHandle
  rw [same]

theorem mem_of_ruleAt {flt : LanFlt κ} {pair : κ × κ}
    (installed : flt.ruleAt hdl = some pair) : ⟨hdl, some pair⟩ ∈ flt.lan2lanFltRuleHdl := by
  unfold ruleAt at installed
  rcases Option.bind_eq_some_iff.mp installed with ⟨slot, isFound, ruleEq⟩
  have sameHdl : slot.ruleHdl = hdl := by simpa using find?_some isFound
  have mem := mem_of_find?_eq_some isFound
  cases slot
  simp_all

end LanFlt

end HtcPme.Ipacm

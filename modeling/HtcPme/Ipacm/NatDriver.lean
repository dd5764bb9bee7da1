import HtcPme.IpaNat.WellFormed

/-!
# The NAT driver as its clients see it

What `libipanat` promises: at most one table, a fresh handle for every rule that is added, and the
deletion of the rule that a live handle names. A call that fails changes nothing.
-/

namespace HtcPme.Ipacm

open IpaNat

structure NatDriver where
  table : Option (BitVec 32)
  rules : List HeldRule
  nodup : (rules.map HeldRule.ruleHdl).Nodup
  hdl_ne_zero : ∀ held ∈ rules, held.ruleHdl ≠ 0
  noRules : table = none → rules = []

namespace NatDriver

def initial : NatDriver := ⟨none, [], .nil, by simp, fun _ => rfl⟩

def HasTable (driver : NatDriver) (tblHdl : ℕ) : Prop := tblHdl = 1 ∧ driver.table ≠ none

instance (driver : NatDriver) (tblHdl : ℕ) : Decidable (driver.HasTable tblHdl) :=
  inferInstanceAs (Decidable (tblHdl = 1 ∧ driver.table ≠ none))

def Fresh (driver : NatDriver) (ruleHdl : ℕ) : Prop :=
  ruleHdl ≠ 0 ∧ ∀ held ∈ driver.rules, held.ruleHdl ≠ ruleHdl

instance (driver : NatDriver) (ruleHdl : ℕ) : Decidable (driver.Fresh ruleHdl) :=
  inferInstanceAs (Decidable (ruleHdl ≠ 0 ∧ ∀ held ∈ driver.rules, held.ruleHdl ≠ ruleHdl))

/-- `ipa_nat_add_ipv4_tbl`: the driver has one table at most. -/
def ipaNatAddIpv4Tbl (driver : NatDriver) (publicIpAddr : BitVec 32) (numberOfEntries : ℕ)
    (succeeds : Bool) : Option (ℕ × NatDriver) :=
  if numberOfEntries ≠ 0 ∧ driver.table = none ∧ succeeds then
    some (1, ⟨some publicIpAddr, [], .nil, by simp, by simp⟩)
  else none

/-- `ipa_nat_del_ipv4_tbl`: the rules go with the table. -/
def ipaNatDelIpv4Tbl (driver : NatDriver) (tblHdl : ℕ) (succeeds : Bool) : Option NatDriver :=
  if driver.HasTable tblHdl ∧ succeeds then some initial else none

/-- `ipa_nat_add_ipv4_rule`; `answer` is the handle it picks. -/
def ipaNatAddIpv4Rule (driver : NatDriver) (tblHdl : ℕ) (clntRule : IpaNatIpv4Rule)
    (answer : Option ℕ) : Option (ℕ × NatDriver) :=
  match answer with
  | none => none
  | some ruleHdl =>
      if accepted : driver.HasTable tblHdl ∧ driver.Fresh ruleHdl then
        some (ruleHdl,
          { driver with
            rules := ⟨ruleHdl, clntRule⟩ :: driver.rules
            nodup := by
              rw [List.map_cons, List.nodup_cons]
              refine ⟨?_, driver.nodup⟩
              intro isLive
              rcases List.mem_map.mp isLive with ⟨held, isHeld, sameHdl⟩
              exact accepted.2.2 held isHeld sameHdl
            hdl_ne_zero := by
              intro held isHeld
              rcases List.mem_cons.mp isHeld with rfl | isHeld
              · exact accepted.2.1
              · exact driver.hdl_ne_zero held isHeld
            noRules := fun noTable => absurd noTable accepted.1.2 })
      else none

def ipaNatDelIpv4Rule (driver : NatDriver) (tblHdl ruleHdl : ℕ) (succeeds : Bool) :
    Option NatDriver :=
  if driver.HasTable tblHdl ∧ (∃ held ∈ driver.rules, held.ruleHdl = ruleHdl) ∧ succeeds then
    some
      { driver with
        rules := driver.rules.filter (·.ruleHdl ≠ ruleHdl)
        nodup := driver.nodup.sublist (List.filter_sublist.map _)
        hdl_ne_zero := fun held isHeld =>
          driver.hdl_ne_zero held (List.mem_of_mem_filter isHeld)
        noRules := fun noTable => by rw [driver.noRules noTable, List.filter_nil] }
  else none

section Effects

variable {driver driver' : NatDriver} {tblHdl ruleHdl : ℕ}

variable {succeeds : Bool}

theorem ipaNatAddIpv4Tbl_eq_some {publicIpAddr : BitVec 32} {numberOfEntries : ℕ}
    (added : driver.ipaNatAddIpv4Tbl publicIpAddr numberOfEntries succeeds =
      some (tblHdl, driver')) :
    driver.table = none ∧ succeeds = true ∧ driver'.HasTable tblHdl ∧ driver'.rules = [] := by
  unfold ipaNatAddIpv4Tbl at added
  split at added
  · rename_i accepted
    cases added
    exact ⟨accepted.2.1, accepted.2.2, ⟨rfl, Option.some_ne_none _⟩, rfl⟩
  · cases added

theorem ipaNatDelIpv4Tbl_eq_some :
    driver.ipaNatDelIpv4Tbl tblHdl succeeds = some driver' ↔
      driver.HasTable tblHdl ∧ succeeds = true ∧ driver' = initial := by
  unfold ipaNatDelIpv4Tbl
  split
  · rename_i accepted
    simp only [Option.some.injEq, accepted, true_and]
    exact eq_comm
  · rename_i refused
    simp only [reduceCtorEq, false_iff]
    rintro ⟨hasTable, succeeds, _⟩
    exact refused ⟨hasTable, succeeds⟩

theorem ipaNatAddIpv4Rule_eq_some {clntRule : IpaNatIpv4Rule} {answer : Option ℕ}
    (added : driver.ipaNatAddIpv4Rule tblHdl clntRule answer = some (ruleHdl, driver')) :
    driver.HasTable tblHdl ∧ answer = some ruleHdl ∧ driver.Fresh ruleHdl ∧
      driver'.rules = ⟨ruleHdl, clntRule⟩ :: driver.rules ∧ driver'.table = driver.table := by
  unfold ipaNatAddIpv4Rule at added
  cases answer with
  | none => cases added
  | some ruleHdl =>
      simp only at added
      split at added
      · rename_i accepted
        cases added
        exact ⟨accepted.1, rfl, accepted.2, rfl, rfl⟩
      · cases added

theorem ipaNatAddIpv4Rule_succeeds (clntRule : IpaNatIpv4Rule) (hasTable : driver.HasTable tblHdl)
    (fresh : driver.Fresh ruleHdl) :
    ∃ driver', driver.ipaNatAddIpv4Rule tblHdl clntRule (some ruleHdl) =
      some (ruleHdl, driver') := by
  unfold ipaNatAddIpv4Rule
  simp only [hasTable, fresh, and_self, dite_true]
  exact ⟨_, rfl⟩

theorem ipaNatDelIpv4Rule_eq_some
    (deleted : driver.ipaNatDelIpv4Rule tblHdl ruleHdl succeeds = some driver') :
    driver.HasTable tblHdl ∧ succeeds = true ∧
      driver'.rules = driver.rules.filter (·.ruleHdl ≠ ruleHdl) ∧
        driver'.table = driver.table := by
  unfold ipaNatDelIpv4Rule at deleted
  split at deleted
  · rename_i accepted
    cases deleted
    exact ⟨accepted.1, accepted.2.2, rfl, rfl⟩
  · cases deleted

theorem ipaNatDelIpv4Rule_succeeds {held : HeldRule} (hasTable : driver.HasTable tblHdl)
    (isHeld : held ∈ driver.rules) :
    ∃ driver', driver.ipaNatDelIpv4Rule tblHdl held.ruleHdl true = some driver' := by
  unfold ipaNatDelIpv4Rule
  rw [if_pos ⟨hasTable, ⟨held, isHeld, rfl⟩, rfl⟩]
  exact ⟨_, rfl⟩

end Effects

end NatDriver

end HtcPme.Ipacm

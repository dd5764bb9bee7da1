import HtcPme.Foundation.SlotShift
import Mathlib.Data.List.Nodup
import Mathlib.Logic.Function.Basic
import Mathlib.Tactic.Common

/-!
# The interfaces for NAT

The table of the interfaces whose connections are translated, which `AddNatIfaces` appends to and
`DelNatIfaces` closes up.
-/

namespace HtcPme.Ipacm

open List Option

open Function (update update_of_ne update_self update_eq_self)

abbrev ipaIfaceNameLen : ℕ := 16

structure IfaceName where
  bytes : List UInt8
  size : bytes.length = ipaIfaceNameLen
  terminated : 0 ∈ bytes

namespace IfaceName

def str (name : IfaceName) : List UInt8 := name.bytes.takeWhile (· != 0)

def zero : IfaceName where
  bytes := .replicate ipaIfaceNameLen 0
  size := rfl
  terminated := by decide

def strcmp : List UInt8 → List UInt8 → Bool
  | [], [] => true
  | left :: lefts, right :: rights => left == right && (left == 0 || strcmp lefts rights)
  | _, _ => false

def strncmp (left right : List UInt8) (num : ℕ) : Bool := strcmp (left.take num) (right.take num)

theorem strcmp_iff {left right : List UInt8} (leftEnds : 0 ∈ left) (rightEnds : 0 ∈ right) :
    strcmp left right ↔ left.takeWhile (· != 0) = right.takeWhile (· != 0) := by
  induction left generalizing right with
  | nil => simp at leftEnds
  | cons first lefts ih =>
      cases right with
      | nil => simp at rightEnds
      | cons second rights =>
          by_cases isEnd : first = 0
          · subst isEnd
            by_cases alsoEnd : second = 0
            · simp [strcmp, alsoEnd]
            · simp [strcmp, alsoEnd, Ne.symm alsoEnd]
          · by_cases alsoEnd : second = 0
            · simp [strcmp, isEnd, alsoEnd]
            · have rest := @ih rights (by simpa [Ne.symm isEnd] using leftEnds)
                (by simpa [Ne.symm alsoEnd] using rightEnds)
              simp [strcmp, isEnd, alsoEnd, rest]

theorem strncmp_iff (left right : IfaceName) :
    strncmp left.bytes right.bytes ipaIfaceNameLen ↔ left.str = right.str := by
  rw [strncmp, ← left.size, take_length, left.size, ← right.size, take_length]
  exact strcmp_iff left.terminated right.terminated

end IfaceName

/-- The part of `IPACM_Config` that holds the interfaces for NAT. -/
structure NatIfaces where
  ipaNumIpaInterfaces : ℕ
  pNatIfaces : ℕ → IfaceName
  ipaNatIfaceEntries : ℕ

namespace NatIfaces

def init (ipaNumIpaInterfaces : ℕ) : NatIfaces :=
  { ipaNumIpaInterfaces
    pNatIfaces := fun _ => .zero
    ipaNatIfaceEntries := 0 }

def read (config : NatIfaces) (idx : ℕ) : Option IfaceName :=
  if idx < config.ipaNumIpaInterfaces then some (config.pNatIfaces idx) else none

def write (config : NatIfaces) (idx : ℕ) (name : IfaceName) : Option NatIfaces :=
  if idx < config.ipaNumIpaInterfaces then
    some { config with pNatIfaces := update config.pNatIfaces idx name }
  else none

/-- The first of some slots from `idx` on whose name is the same. -/
def find (config : NatIfaces) (same : List UInt8 → Bool) : ℕ → ℕ → Option (Option ℕ)
  | 0, _ => some none
  | count + 1, idx => do
      let name ← config.read idx
      if same name.bytes then some (some idx) else config.find same count (idx + 1)

def copyNames (config : NatIfaces) : ℕ → ℕ → Option (List IfaceName)
  | 0, _ => some []
  | count + 1, idx => do
      let name ← config.read idx
      let names ← config.copyNames count (idx + 1)
      some (name :: names)

def getNatIfacesCnt (config : NatIfaces) : ℕ := config.ipaNatIfaceEntries

/-- `GetNatIfaces`: without an interface to copy it fails. -/
def getNatIfaces (config : NatIfaces) (nIfaces : ℕ) : Option (Option (List IfaceName)) :=
  if nIfaces = 0 then some none else (config.copyNames nIfaces 0).map some

def addNatIfaces (config : NatIfaces) (devName : IfaceName) : Option NatIfaces := do
  let found ← config.find (IfaceName.strncmp devName.bytes · ipaIfaceNameLen)
    config.ipaNatIfaceEntries 0
  match found with
  | some _ => some config
  | none =>
      -- the new entry is counted, whether or not it is stored
      let config := { config with ipaNatIfaceEntries := config.ipaNatIfaceEntries + 1 }
      if config.ipaNatIfaceEntries < config.ipaNumIpaInterfaces then
        config.write (config.ipaNatIfaceEntries - 1) devName
      else some config

/-- The inner loop of `DelNatIfaces`: each of some slots gets the name of the next one, which is
cleared. -/
def shift : ℕ → ℕ → NatIfaces → Option NatIfaces
  | 0, _, config => some config
  | count + 1, idx, config => do
      let name ← config.read (idx + 1)
      let config ← config.write idx name
      let config ← config.write (idx + 1) .zero
      shift count (idx + 1) config

def delNatIfaces (config : NatIfaces) (devName : IfaceName) : Option NatIfaces := do
  let found ← config.find (IfaceName.strcmp devName.bytes) config.ipaNatIfaceEntries 0
  match found with
  | none => some config
  | some idx =>
      let config ← config.write idx .zero
      let config ← shift (config.ipaNatIfaceEntries - 1 - idx) idx config
      some { config with ipaNatIfaceEntries := config.ipaNatIfaceEntries - 1 }

end NatIfaces

inductive NatIfacesOp where
  | add (devName : IfaceName)
  | del (devName : IfaceName)

namespace NatIfacesOp

def apply (config : NatIfaces) : NatIfacesOp → Option NatIfaces
  | add devName => config.addNatIfaces devName
  | del devName => config.delNatIfaces devName

/-- What the calls are for: the names that are held, with room for `room` of them. -/
def expect (room : ℕ) (held : List (List UInt8)) : NatIfacesOp → List (List UInt8)
  | add devName =>
      if devName.str ∈ held ∨ room ≤ held.length then held else held ++ [devName.str]
  | del devName => held.erase devName.str

end NatIfacesOp

namespace NatIfaces

def names (config : NatIfaces) : List (List UInt8) :=
  (List.range config.ipaNatIfaceEntries).map fun idx => (config.pNatIfaces idx).str

/-- The names held are stored, each once, and the callers of `GetNatIfaces` get them. -/
structure Holds (config : NatIfaces) (held : List (List UInt8)) : Prop where
  bounded : config.ipaNatIfaceEntries ≤ config.ipaNumIpaInterfaces
  counted : config.ipaNatIfaceEntries = held.length
  stored : config.names = held
  once : held.Nodup
  inside : (config.getNatIfaces config.getNatIfacesCnt).isSome

/-- In a run no access is outside of the table, and the names held are stored after each call. -/
def Correct (config : NatIfaces) (held : List (List UInt8)) : List NatIfacesOp → Prop
  | [] => config.Holds held
  | op :: ops =>
      config.Holds held ∧ ∃ config', op.apply config = some config' ∧
        config'.Correct (op.expect config.ipaNumIpaInterfaces held) ops

end NatIfaces

namespace NatIfacesOp

/-- Where a call does what it is for: a new name is added only while two slots are free. The
empty name is what the last slot holds anyway. -/
def HasRoom (room : ℕ) (held : List (List UInt8)) : NatIfacesOp → Prop
  | add devName =>
      devName.str ∈ held ∨ held.length + 1 < room ∨ (held.length + 1 = room ∧ devName.str = [])
  | del _ => True

def AllRoom (room : ℕ) (held : List (List UInt8)) : List NatIfacesOp → Prop
  | [] => True
  | op :: ops => op.HasRoom room held ∧ AllRoom room (op.expect room held) ops

end NatIfacesOp

namespace NatIfaces

variable {config : NatIfaces} {devName : IfaceName} {idx : ℕ}

theorem read_eq (within : idx < config.ipaNumIpaInterfaces) :
    config.read idx = some (config.pNatIfaces idx) :=
  if_pos within

theorem write_eq (name : IfaceName) (within : idx < config.ipaNumIpaInterfaces) :
    config.write idx name =
      some { config with pNatIfaces := update config.pNatIfaces idx name } :=
  if_pos within

def namesFrom (config : NatIfaces) (idx count : ℕ) : List (List UInt8) :=
  (List.range' idx count).map fun pos => (config.pNatIfaces pos).str

theorem names_eq (config : NatIfaces) :
    config.names = config.namesFrom 0 config.ipaNatIfaceEntries := by
  rw [names, namesFrom, range_eq_range']

@[simp] theorem length_names (config : NatIfaces) :
    config.names.length = config.ipaNatIfaceEntries := by
  simp [names]

variable {count : ℕ}

theorem find_eq {same : List UInt8 → Bool}
    (isSame : ∀ name : IfaceName, same name.bytes ↔ devName.str = name.str)
    (within : idx + count ≤ config.ipaNumIpaInterfaces) :
    config.find same count idx =
      some (((config.namesFrom idx count).idxOf? devName.str).map (idx + ·)) := by
  induction count generalizing idx with
  | zero => rfl
  | succ count ih =>
      have first := isSame (config.pNatIfaces idx)
      have rest := @ih (idx + 1) (by omega)
      rw [find, read_eq (by omega)]
      simp only [Option.bind_eq_bind, Option.bind_some, namesFrom, range'_succ,
        map_cons, idxOf?_cons]
      by_cases isFound : devName.str = (config.pNatIfaces idx).str
      · rw [if_pos (first.mpr isFound), if_pos (by simp [isFound])]
        simp
      · rw [if_neg (by simpa [first] using isFound), if_neg (by simpa using Ne.symm isFound), rest,
          namesFrom, Option.map_map]
        congr 2
        funext pos
        simp only [Function.comp_apply]
        omega

theorem copyNames_isSome (within : idx + count ≤ config.ipaNumIpaInterfaces) :
    (config.copyNames count idx).isSome := by
  induction count generalizing idx with
  | zero => rfl
  | succ count ih =>
      rcases isSome_iff_exists.mp (@ih (idx + 1) (by omega)) with ⟨names, copied⟩
      simp [copyNames, read_eq (show idx < config.ipaNumIpaInterfaces by omega), copied]

theorem shift_eq (cleared : config.pNatIfaces idx = .zero)
    (within : idx + count < config.ipaNumIpaInterfaces) :
    shift count idx config =
      some { config with
        pNatIfaces := update
          (SlotShift.closeUp (fun _ next => next) count idx config.pNatIfaces)
          (idx + count) .zero } := by
  induction count generalizing idx config with
  | zero =>
      simp only [shift, SlotShift.closeUp, Nat.add_zero, ← cleared, update_eq_self]
  | succ count ih =>
      rw [shift, read_eq (by omega)]
      simp only [bind_eq_bind, bind_some]
      rw [write_eq _ (by omega)]
      simp only [bind_some]
      rw [write_eq _ (by show idx + 1 < config.ipaNumIpaInterfaces; omega), bind_some,
        ih (by simp) (by show idx + 1 + count < config.ipaNumIpaInterfaces; omega)]
      congr 2
      funext pos
      have isLast : idx + 1 + count = idx + (count + 1) := by omega
      rw [isLast]
      by_cases atLast : pos = idx + (count + 1)
      · simp [atLast]
      · simp only [update_of_ne atLast, SlotShift.closeUp_apply]
        by_cases isFirst : pos = idx
        · subst isFirst
          rw [if_neg (by omega), if_pos (by omega), update_of_ne (by omega),
            update_self]
        · by_cases inside : idx + 1 ≤ pos ∧ pos < idx + 1 + count
          · rw [if_pos inside, if_pos (by omega), update_of_ne (by omega),
              update_of_ne (by omega)]
          · rw [if_neg inside, if_neg (by omega), update_of_ne (by omega),
              update_of_ne isFirst]

structure Tidy (room : ℕ) (config : NatIfaces) (held : List (List UInt8)) : Prop where
  room_eq : config.ipaNumIpaInterfaces = room
  bounded : held.length ≤ room
  stored : config.names = held
  once : held.Nodup
  cleared : ∀ idx, held.length ≤ idx → config.pNatIfaces idx = .zero

variable {room : ℕ} {held : List (List UInt8)}

theorem tidy_init (room : ℕ) : Tidy room (init room) [] where
  room_eq := rfl
  bounded := Nat.zero_le room
  stored := rfl
  once := nodup_nil
  cleared _ _ := rfl

section

variable (isTidy : Tidy room config held)

include isTidy

theorem Tidy.counted :
    config.ipaNatIfaceEntries = held.length := by
  rw [← isTidy.stored, length_names]

theorem Tidy.holds : config.Holds held where
  bounded := by
    rw [isTidy.counted, isTidy.room_eq]
    exact isTidy.bounded
  counted := isTidy.counted
  stored := isTidy.stored
  once := isTidy.once
  inside := by
    rw [getNatIfaces, getNatIfacesCnt]
    split_ifs with isEmpty
    · rfl
    · rw [isSome_map]
      apply copyNames_isSome
      rw [isTidy.counted, isTidy.room_eq, Nat.zero_add]
      exact isTidy.bounded

theorem Tidy.find_eq {same : List UInt8 → Bool}
    (isSame : ∀ name : IfaceName, same name.bytes ↔ devName.str = name.str) :
    config.find same config.ipaNatIfaceEntries 0 = some (held.idxOf? devName.str) := by
  have within : 0 + config.ipaNatIfaceEntries ≤ config.ipaNumIpaInterfaces := by
    rw [isTidy.counted, isTidy.room_eq, Nat.zero_add]
    exact isTidy.bounded
  rw [NatIfaces.find_eq isSame within, ← names_eq, isTidy.stored]
  simp

theorem Tidy.find_strncmp (devName : IfaceName) :
    config.find (IfaceName.strncmp devName.bytes · ipaIfaceNameLen) config.ipaNatIfaceEntries 0 =
      some (held.idxOf? devName.str) :=
  isTidy.find_eq devName.strncmp_iff

theorem Tidy.find_strcmp (devName : IfaceName) :
    config.find (IfaceName.strcmp devName.bytes) config.ipaNatIfaceEntries 0 =
      some (held.idxOf? devName.str) :=
  isTidy.find_eq fun name => IfaceName.strcmp_iff devName.terminated name.terminated

theorem Tidy.addNatIfaces_held (isHeld : devName.str ∈ held) :
    config.addNatIfaces devName = some config := by
  rcases isSome_iff_exists.mp (isSome_idxOf?.mpr isHeld) with ⟨idx, isAt⟩
  rw [addNatIfaces, isTidy.find_strncmp, isAt]
  rfl

theorem Tidy.addNatIfaces_new (isNew : devName.str ∉ held) :
    config.addNatIfaces devName =
      some { config with
        ipaNatIfaceEntries := held.length + 1
        pNatIfaces := if held.length + 1 < room then
            update config.pNatIfaces held.length devName
          else config.pNatIfaces } := by
  have room_eq := isTidy.room_eq
  rw [addNatIfaces, isTidy.find_strncmp, idxOf?_eq_none_iff.mpr isNew]
  simp only [bind_eq_bind, bind_some, isTidy.counted, Nat.add_sub_cancel]
  by_cases isRoom : held.length + 1 < room
  · rw [if_pos (by simpa [room_eq] using isRoom), if_pos isRoom]
    apply write_eq
    simp only [room_eq]
    omega
  · rw [if_neg (by simpa [room_eq] using isRoom), if_neg isRoom]

end

theorem names_succ (config : NatIfaces) (table : ℕ → IfaceName) (count : ℕ) :
    names { config with ipaNatIfaceEntries := count + 1, pNatIfaces := table } =
      names { config with ipaNatIfaceEntries := count, pNatIfaces := table } ++
        [(table count).str] := by
  simp [names, range_succ]

theorem names_update (config : NatIfaces) (name : IfaceName) (within : count ≤ idx) :
    names { config with
      ipaNatIfaceEntries := count
      pNatIfaces := update config.pNatIfaces idx name } =
      names { config with ipaNatIfaceEntries := count } := by
  apply map_congr_left
  intro pos inRange
  have isWithin : pos < count := mem_range.mp inRange
  simp only
  rw [update_of_ne (by omega)]

theorem Tidy.names_full (isTidy : Tidy room config held) :
    names { config with ipaNatIfaceEntries := held.length + 1 } = held ++ [[]] := by
  rw [names_succ, isTidy.cleared _ le_rfl, ← isTidy.counted]
  exact congrArg (· ++ [[]]) isTidy.stored

theorem Tidy.names_add (isTidy : Tidy room config held) (name : IfaceName) :
    names { config with
      ipaNatIfaceEntries := held.length + 1
      pNatIfaces := update config.pNatIfaces held.length name } =
      held ++ [name.str] := by
  rw [names_succ, update_self, names_update config name le_rfl, ← isTidy.counted]
  exact congrArg (· ++ [name.str]) isTidy.stored

theorem nodup_append_new {name : List UInt8} (once : held.Nodup) (isNew : name ∉ held) :
    (held ++ [name]).Nodup := by
  rw [nodup_append_comm]
  exact nodup_cons.mpr ⟨isNew, once⟩

theorem Tidy.add (isTidy : Tidy room config held) (isNew : devName.str ∉ held)
    (hasRoom : held.length + 1 < room ∨ (held.length + 1 = room ∧ devName.str = [])) :
    ∃ config', config.addNatIfaces devName = some config' ∧
      Tidy room config' (held ++ [devName.str]) := by
  refine ⟨_, isTidy.addNatIfaces_new isNew, ?_⟩
  rcases hasRoom with isRoom | ⟨isLast, isEmpty⟩
  · rw [if_pos isRoom]
    exact
      { room_eq := isTidy.room_eq
        bounded := by
          rw [length_append, length_singleton]
          omega
        stored := isTidy.names_add devName
        once := nodup_append_new isTidy.once isNew
        cleared := by
          intro idx behind
          rw [length_append, length_singleton] at behind
          simp only
          rw [update_of_ne (by omega)]
          exact isTidy.cleared idx (by omega) }
  · rw [if_neg (by omega)]
    rw [isEmpty] at isNew ⊢
    exact
      { room_eq := isTidy.room_eq
        bounded := by
          rw [length_append, length_singleton]
          omega
        stored := isTidy.names_full
        once := nodup_append_new isTidy.once isNew
        cleared := by
          intro idx behind
          rw [length_append, length_singleton] at behind
          exact isTidy.cleared idx (by omega) }

def closed (config : NatIfaces) (idx : ℕ) : NatIfaces :=
  { config with
    ipaNatIfaceEntries := config.ipaNatIfaceEntries - 1
    pNatIfaces := update
      (SlotShift.closeUp (fun _ next => next) (config.ipaNatIfaceEntries - 1 - idx) idx
        (update config.pNatIfaces idx .zero))
      (config.ipaNatIfaceEntries - 1) .zero }

theorem names_closed (isCount : config.ipaNatIfaceEntries = count + 1)
    (within : idx ≤ count) : (config.closed idx).names = config.names.eraseIdx idx := by
  have isShifted : (config.closed idx).names = (range count).map fun pos =>
      (SlotShift.closeUp (fun _ next => next) (count - idx) idx
        (update config.pNatIfaces idx .zero) pos).str := by
    simp only [closed, names, isCount, Nat.add_sub_cancel]
    apply map_congr_left
    intro pos inRange
    rw [update_of_ne (Nat.ne_of_lt (mem_range.mp inRange))]
  rw [isShifted, SlotShift.map_closeUp _ IfaceName.str _ within fun _ _ _ => rfl, names, isCount]
  apply SlotShift.eraseIdx_map_congr
  intro pos _ isOther
  rw [update_of_ne isOther]

section

variable (isTidy : Tidy room config held)

include isTidy

theorem Tidy.delNatIfaces_held
    (isAt : held.idxOf? devName.str = some idx) (within : idx < held.length) :
    config.delNatIfaces devName = some (config.closed idx) := by
  have bounded := isTidy.bounded
  rw [delNatIfaces, isTidy.find_strcmp, isAt]
  simp only [bind_eq_bind, bind_some]
  rw [write_eq _ (by rw [isTidy.room_eq]; omega)]
  simp only [bind_some]
  rw [shift_eq (by simp) (by simp only [isTidy.room_eq, isTidy.counted]; omega)]
  simp only [bind_some, closed, some.injEq, NatIfaces.mk.injEq, true_and, and_true]
  congr 1
  rw [isTidy.counted]
  omega

theorem Tidy.del (devName : IfaceName) :
    ∃ config', config.delNatIfaces devName = some config' ∧
      Tidy room config' (held.erase devName.str) := by
  have counted := isTidy.counted
  rw [erase_eq_eraseIdx]
  cases isAt : held.idxOf? devName.str with
  | none =>
      refine ⟨config, ?_, isTidy⟩
      rw [delNatIfaces, isTidy.find_strcmp, isAt]
      rfl
  | some idx =>
      have within : idx < held.length := (idxOf?_eq_some_iff.mp isAt).1
      have bounded := isTidy.bounded
      refine ⟨_, isTidy.delNatIfaces_held isAt within, ?_⟩
      exact
        { room_eq := isTidy.room_eq
          bounded := by
            rw [length_eraseIdx_of_lt within]
            omega
          stored := by
            rw [names_closed (show config.ipaNatIfaceEntries = held.length - 1 + 1 by omega)
              (by omega), isTidy.stored]
          once := isTidy.once.eraseIdx idx
          cleared := by
            intro pos behind
            rw [length_eraseIdx_of_lt within] at behind
            simp only [closed, counted]
            by_cases isLast : pos = held.length - 1
            · rw [isLast, update_self]
            · rw [update_of_ne isLast, SlotShift.closeUp_apply, if_neg (by omega),
                update_of_ne (by omega)]
              exact isTidy.cleared pos (by omega) }

variable {op : NatIfacesOp}

theorem Tidy.apply (hasRoom : op.HasRoom room held) :
    ∃ config', op.apply config = some config' ∧ Tidy room config' (op.expect room held) := by
  cases op with
  | add devName =>
      simp only [NatIfacesOp.apply, NatIfacesOp.expect]
      by_cases isHeld : devName.str ∈ held
      · rw [if_pos (.inl isHeld)]
        exact ⟨config, isTidy.addNatIfaces_held isHeld, isTidy⟩
      · have free := hasRoom.resolve_left isHeld
        rw [if_neg (not_or.mpr ⟨isHeld, by omega⟩)]
        exact isTidy.add isHeld free
  | del devName => exact isTidy.del devName

theorem Tidy.not_holds (noRoom : ¬op.HasRoom room held) {config' : NatIfaces}
    (applied : op.apply config = some config') : ¬config'.Holds (op.expect room held) := by
  cases op with
  | del devName => exact absurd trivial noRoom
  | add devName =>
      simp only [NatIfacesOp.HasRoom, not_or, not_and] at noRoom
      rcases noRoom with ⟨isNew, notRoom, notEmpty⟩
      have bounded := isTidy.bounded
      have added := isTidy.addNatIfaces_new isNew
      rw [if_neg notRoom] at added
      cases applied.symm.trans added
      intro holds
      by_cases isFull : room ≤ held.length
      · have counted := holds.bounded
        simp only [isTidy.room_eq] at counted
        omega
      · have stored := holds.stored
        rw [NatIfacesOp.expect, if_neg (not_or.mpr ⟨isNew, isFull⟩), isTidy.names_full] at stored
        simp only [append_cancel_left_eq, cons.injEq, and_true] at stored
        exact notEmpty (by omega) stored.symm

end

theorem Correct.holds {ops : List NatIfacesOp} (isCorrect : config.Correct held ops) :
    config.Holds held := by
  cases ops with
  | nil => exact isCorrect
  | cons op ops => exact isCorrect.1

theorem Tidy.correct_iff (isTidy : Tidy room config held) (ops : List NatIfacesOp) :
    config.Correct held ops ↔ NatIfacesOp.AllRoom room held ops := by
  induction ops generalizing config held with
  | nil => exact ⟨fun _ => trivial, fun _ => isTidy.holds⟩
  | cons op ops ih =>
      simp only [Correct, NatIfacesOp.AllRoom, isTidy.room_eq]
      constructor
      · rintro ⟨_, config', applied, isCorrect⟩
        have hasRoom : op.HasRoom room held := by
          by_contra noRoom
          exact isTidy.not_holds noRoom applied isCorrect.holds
        rcases isTidy.apply hasRoom with ⟨next, applied', isTidy'⟩
        cases applied.symm.trans applied'
        exact ⟨hasRoom, (ih isTidy').mp isCorrect⟩
      · rintro ⟨hasRoom, allRoom⟩
        rcases isTidy.apply hasRoom with ⟨config', applied, isTidy'⟩
        exact ⟨isTidy.holds, config', applied, (ih isTidy').mpr allRoom⟩

end NatIfaces

/-- The table holds the names that were added and not deleted, within its bounds, through exactly
the sequences of calls in which each new name leaves a slot free. -/
theorem natIfaces_correct_iff (room : ℕ) (ops : List NatIfacesOp) :
    (NatIfaces.init room).Correct [] ops ↔ NatIfacesOp.AllRoom room [] ops :=
  (NatIfaces.tidy_init room).correct_iff ops

def wlan0 : IfaceName where
  bytes := [119, 108, 97, 110, 48, 0, 0, 0, 0, 0, 0, 0, 0, 0, 0, 0]
  size := rfl
  terminated := by decide

/-- The only slot of a table is counted and does not get the name. -/
theorem not_natIfaces_correct : ¬(NatIfaces.init 1).Correct [] [.add wlan0] := by
  rintro ⟨_, config', applied, holds⟩
  cases applied
  have stored := holds.stored
  revert stored
  decide

end HtcPme.Ipacm

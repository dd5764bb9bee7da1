import HtcPme.Foundation.Run
import HtcPme.Ipacm.LanToLanCache
import HtcPme.Ipacm.LanToLanCounts

/-!
# Connections that are counted

What is recorded for two clients, with what waits in the queue, is how many connections between them
are open.
-/

namespace HtcPme.Ipacm

open Tally CtLanToLan List Function

namespace LanConfig

variable {α κ ι : Type} (config : LanConfig α κ ι)

def ends (conn : EventConnection α) : Sym2 κ := s(config.key conn.srcAddr, config.key conn.dstAddr)

variable {config} {pIface : κ → Option ι} {a b client : κ} {conn : EventConnection α}

theorem areLan2lan_iff : config.areLan2lan pIface a b = true ↔
    ∃ srcIface dstIface, pIface a = some srcIface ∧ pIface b = some dstIface ∧
      config.ifCat srcIface ≠ config.ifCat dstIface := by
  unfold areLan2lan
  split
  · rename_i found found'
    simp [found, found']
  · rename_i absent
    simp only [Bool.false_eq_true, false_iff]
    rintro ⟨srcIface, dstIface, found, found', -⟩
    exact absent srcIface dstIface found found'

theorem areLan2lan_comm : config.areLan2lan pIface a b = config.areLan2lan pIface b a := by
  rw [Bool.eq_iff_iff, areLan2lan_iff, areLan2lan_iff]
  constructor
  · rintro ⟨srcIface, dstIface, found, found', differ⟩
    exact ⟨dstIface, srcIface, found', found, differ.symm⟩
  · rintro ⟨srcIface, dstIface, found, found', differ⟩
    exact ⟨dstIface, srcIface, found', found, differ.symm⟩

theorem ne_of_areLan2lan (lan2lan : config.areLan2lan pIface a b = true) : a ≠ b := by
  rintro rfl
  rcases areLan2lan_iff.mp lan2lan with ⟨srcIface, dstIface, found, found', differ⟩
  rw [found, Option.some_inj] at found'
  exact differ (congrArg config.ifCat found')

theorem present_of_areLan2lan (lan2lan : config.areLan2lan pIface a b = true) :
    (pIface a).isSome ∧ (pIface b).isSome := by
  rcases areLan2lan_iff.mp lan2lan with ⟨srcIface, dstIface, found, found', -⟩
  simp [found, found']

theorem isLan2lanConnection_eq (isPair : config.ends conn = s(a, b)) :
    config.isLan2lanConnection pIface conn = config.areLan2lan pIface a b := by
  rcases Sym2.eq_iff.mp isPair with ⟨isSrc, isDst⟩ | ⟨isSrc, isDst⟩
  · rw [isLan2lanConnection, isSrc, isDst]
  · rw [isLan2lanConnection, isSrc, isDst, areLan2lan_comm]

variable [DecidableEq κ] {iface : Option ι}

theorem areLan2lan_update (notFirst : a ≠ client) (notSecond : b ≠ client) :
    config.areLan2lan (update pIface client iface) a b =
      config.areLan2lan pIface a b := by
  simp only [areLan2lan, update_of_ne notFirst, update_of_ne notSecond]

end LanConfig

def LanEvent.change {α κ ι μ : Type} [DecidableEq κ] (config : LanConfig α κ ι) (pair : Sym2 κ) :
    LanEvent α ι μ → Change
  | .clientActive _ => .keep
  | .newConnection conn => if config.ends conn = pair then .up else .keep
  | .delConnection conn => if config.ends conn = pair then .down else .keep

/-- `IPACM_LanToLan`, and the connections that have been reported new and not yet deleted. -/
structure CtLanRun (α κ ι μ : Type) where
  lan : CtLanToLan α κ ι μ
  opened : List (EventConnection α)

inductive CtLanInput (α κ ι μ : Type) where
  | clientAdded (data : EventLanClient α ι μ)
  | newConnection (conn : EventConnection α)
  | delConnection (conn : EventConnection α)
  | processEvt (answers : LanAnswers κ)

namespace CtLanRun

variable {α κ ι μ : Type} (config : LanConfig α κ ι) (run : CtLanRun α κ ι μ)

def pIface : κ → Option ι := run.lan.app.pIface

def IsInit : Prop :=
  run.lan.app.IsInit ∧ run.lan.connections = [] ∧ run.lan.queue = [] ∧ run.opened = []

variable [DecidableEq κ]

def openBetween (pair : Sym2 κ) : ℕ := run.opened.countP (config.ends · = pair)

def changes (queue : List (LanEvent α ι μ)) (pair : Sym2 κ) : List Change :=
  queue.map (·.change config pair)

/-- Two clients on interfaces of different categories have as many connections recorded as are open,
unless an event is posted for them; other clients have none. -/
structure ConnectionsCounted : Prop where
  counted : ∀ a b, config.areLan2lan run.pIface a b = true →
    (∀ change ∈ changes config run.lan.queue s(a, b), change = .keep) →
      run.lan.app.numConnection a b = run.openBetween config s(a, b)
  apart : ∀ client, ∀ record ∈ run.lan.app.peers client,
    config.areLan2lan run.pIface client record.peerPointer = true

variable [DecidableEq α] [DecidableEq ι] [DecidableEq μ]

def step (run : CtLanRun α κ ι μ) : CtLanInput α κ ι μ → CtLanRun α κ ι μ
  | .clientAdded data => { run with lan := run.lan.postEvt (.clientActive data) }
  | .newConnection conn =>
      { lan := run.lan.handleNewConnection config conn, opened := run.opened ++ [conn] }
  | .delConnection conn =>
      { lan := run.lan.handleDelConnection config conn, opened := run.opened.erase conn }
  | .processEvt answers => { run with lan := run.lan.processEvt config answers }

def Step (run : CtLanRun α κ ι μ) (input : CtLanInput α κ ι μ) (next : CtLanRun α κ ι μ) : Prop :=
  next = run.step config input

/-- A connection with the client that is added is in the cache, if it is open, and is taken out
exactly if it joins the client to one of another category. -/
def Joins (pIface : κ → Option ι) (addr : α) : Prop :=
  ∀ conn ∈ run.opened, config.isLan2lanConnection run.pIface conn = false →
    (config.isLan2lanConnection pIface conn = true ↔
      config.isPotentialLan2lanConnection conn = true ∧
        config.isReplayed pIface addr conn = true)

/-- The client replaces another one with its address, which makes no difference when the queue has
been handled. -/
structure Replaces (pIface : κ → Option ι) (client : κ) (rest : List (LanEvent α ι μ)) : Prop where
  keeps : ∀ conn ∈ run.opened, config.isLan2lanConnection run.pIface conn = true →
    config.isLan2lanConnection pIface conn = true
  posted : ∀ conn, .newConnection conn ∈ rest → config.isLan2lanConnection pIface conn = true
  dropped : ∀ other, config.areLan2lan pIface client other = true →
    settle (changes config rest s(client, other)) 0 =
      settle (changes config rest s(client, other)) (run.lan.app.numConnection client other)

def Adds (data : EventLanClient α ι μ) (rest : List (LanEvent α ι μ)) : Prop :=
  ∀ macAddr iface, data.populated = some (macAddr, iface) →
    CtLanToLan.isKept run.lan.app (config.key data.addr) macAddr = false →
      let pIface := Function.update run.pIface (config.key data.addr) (some iface)
      run.Joins config pIface data.addr ∧
        ((run.pIface (config.key data.addr)).isSome →
          run.Replaces config pIface (config.key data.addr) rest)

def HasRoom (run : CtLanRun α κ ι μ) : CtLanInput α κ ι μ → Prop
  | .newConnection conn => config.isLan2lanConnection run.pIface conn = false →
      config.isPotentialLan2lanConnection conn = true →
        run.lan.connections.length < maxCacheConnection
  | _ => True

/-- The cache does not overflow; a connection that is deleted is open, or none is open between its
clients; and a client is added with the connections it should have. -/
def Regular (run : CtLanRun α κ ι μ) : CtLanInput α κ ι μ → Prop
  | .clientAdded _ => True
  | .newConnection conn => run.HasRoom config (.newConnection conn)
  | .delConnection conn => config.isLan2lanConnection run.pIface conn = true →
      conn ∈ run.opened ∨ run.openBetween config (config.ends conn) = 0
  | .processEvt _ => ∀ data rest, run.lan.queue = .clientActive data :: rest →
      run.Adds config data rest

structure RunInv (run : CtLanRun α κ ι μ) : Prop where
  counts : run.lan.app.Counts
  active : ∀ client, (run.pIface client).isSome → run.lan.app.isActive client = true
  apart : ∀ a b, 0 < run.lan.app.numConnection a b → config.areLan2lan run.pIface a b = true
  posted : ∀ conn, .newConnection conn ∈ run.lan.queue →
    config.isLan2lanConnection run.pIface conn = true
  distinct : ∀ conn, .delConnection conn ∈ run.lan.queue →
    config.key conn.srcAddr ≠ config.key conn.dstAddr
  settled : ∀ a b, config.areLan2lan run.pIface a b = true →
    settle (changes config run.lan.queue s(a, b)) (run.lan.app.numConnection a b) =
      run.openBetween config s(a, b)
  cached : ∀ conn, config.isLan2lanConnection run.pIface conn = false →
    config.isPotentialLan2lanConnection conn = true →
      run.lan.connections.count conn = run.opened.count conn
  waiting : ∀ conn ∈ run.lan.connections, config.isLan2lanConnection run.pIface conn = false ∧
    config.isPotentialLan2lanConnection conn = true

variable {config run} {conn : EventConnection α} {a b client : κ} {pair : Sym2 κ}
  {queue later : List (LanEvent α ι μ)}

omit [DecidableEq α] [DecidableEq ι] [DecidableEq μ] in
theorem changes_append :
    changes config (queue ++ later) pair = changes config queue pair ++ changes config later pair :=
  map_append

variable {number : ℤ}

omit [DecidableEq α] [DecidableEq ι] [DecidableEq μ] in
theorem settle_changes_append {event : LanEvent α ι μ} :
    settle (changes config (queue ++ [event]) pair) number =
      (event.change config pair).apply (settle (changes config queue pair) number) := by
  rw [changes_append, settle_append]
  rfl

omit [DecidableEq α] [DecidableEq ι] [DecidableEq μ] in
theorem settle_posted {conns : List (EventConnection α)} :
    settle (changes config (conns.map (.newConnection : _ → LanEvent α ι μ)) pair) number =
      number + conns.countP (config.ends · = pair) := by
  rw [← settle_map, changes, map_map]
  simp [comp_def, LanEvent.change]

namespace RunInv

variable (inv : run.RunInv config)

include inv

omit [DecidableEq ι] [DecidableEq μ] in
theorem mem_opened (mem : conn ∈ run.lan.connections) : conn ∈ run.opened := by
  rcases inv.waiting conn mem with ⟨notLan, potential⟩
  rw [← one_le_count_iff, ← inv.cached conn notLan potential, one_le_count_iff]
  exact mem

omit [DecidableEq ι] [DecidableEq μ] in
theorem connectionsCounted : run.ConnectionsCounted config where
  counted a b lan2lan none := by
    rw [← inv.settled a b lan2lan, settle_of_keep none]
  apart client record mem := by
    apply inv.apart
    exact (inv.counts.sound client).pos_iff.mpr ⟨record, mem, rfl⟩

variable {event : LanEvent α ι μ}

omit [DecidableEq ι] [DecidableEq μ] in
theorem postEvt {opened : List (EventConnection α)} (posted : ∀ conn, event = .newConnection conn →
      config.isLan2lanConnection run.pIface conn = true)
    (distinct : ∀ conn, event = .delConnection conn →
      config.key conn.srcAddr ≠ config.key conn.dstAddr)
    (settled : ∀ pair, (event.change config pair).apply (run.openBetween config pair) =
      opened.countP (config.ends · = pair))
    (cached : ∀ conn, config.isLan2lanConnection run.pIface conn = false →
      opened.count conn = run.opened.count conn) :
    (⟨run.lan.postEvt event, opened⟩ : CtLanRun α κ ι μ).RunInv config where
  counts := inv.counts
  active := inv.active
  apart := inv.apart
  posted conn mem := by
    rcases mem_append.mp mem with earlier | last
    · exact inv.posted conn earlier
    · exact posted conn (mem_singleton.mp last).symm
  distinct conn mem := by
    rcases mem_append.mp mem with earlier | last
    · exact inv.distinct conn earlier
    · exact distinct conn (mem_singleton.mp last).symm
  settled a b lan2lan := by
    refine settle_changes_append.trans ?_
    exact (congrArg _ (inv.settled a b lan2lan)).trans (settled _)
  cached conn notLan potential := by
    rw [cached conn notLan]
    exact inv.cached conn notLan potential
  waiting := inv.waiting

omit [DecidableEq ι] [DecidableEq μ] in
theorem setCache {connections opened : List (EventConnection α)}
    (others : ∀ conn, config.isLan2lanConnection run.pIface conn = true →
      opened.count conn = run.opened.count conn)
    (cached : ∀ conn, config.isLan2lanConnection run.pIface conn = false →
      config.isPotentialLan2lanConnection conn = true → connections.count conn = opened.count conn)
    (waiting : ∀ conn ∈ connections, config.isLan2lanConnection run.pIface conn = false ∧
      config.isPotentialLan2lanConnection conn = true) :
    (⟨{ run.lan with connections := connections }, opened⟩ : CtLanRun α κ ι μ).RunInv config where
  counts := inv.counts
  active := inv.active
  apart := inv.apart
  posted := inv.posted
  distinct := inv.distinct
  settled a b lan2lan := by
    have sameCount : opened.countP (config.ends · = s(a, b)) = run.openBetween config s(a, b) := by
      apply countP_congr_count
      intro conn isPair
      apply others
      rw [LanConfig.isLan2lanConnection_eq (of_decide_eq_true isPair)]
      exact lan2lan
    exact (inv.settled a b lan2lan).trans (congrArg _ sameCount.symm)
  cached := cached
  waiting := waiting

omit [DecidableEq ι] [DecidableEq μ] in
theorem handleNewConnection (conn : EventConnection α)
    (room : config.isLan2lanConnection run.pIface conn = false →
      config.isPotentialLan2lanConnection conn = true →
        run.lan.connections.length < maxCacheConnection) :
    (⟨run.lan.handleNewConnection config conn, run.opened ++ [conn]⟩ :
      CtLanRun α κ ι μ).RunInv config := by
  unfold CtLanToLan.handleNewConnection
  split
  · rename_i lan2lan
    apply inv.postEvt
    · rintro _ ⟨⟩
      exact lan2lan
    · rintro _ ⟨⟩
    · intro pair
      rw [LanEvent.change, countP_append]
      split <;> simp_all [Change.apply, openBetween]
    · intro other notLan
      have differs : conn ≠ other := by
        rintro rfl
        rw [pIface, lan2lan] at notLan
        cases notLan
      rw [count_append, count_singleton, if_neg (by simpa using differs), add_zero]
  · rename_i notLan
    rw [Bool.not_eq_true] at notLan
    have others (other : EventConnection α)
        (lan2lan : config.isLan2lanConnection run.pIface other = true) :
        (run.opened ++ [conn]).count other = run.opened.count other := by
      have differs : conn ≠ other := by
        rintro rfl
        rw [pIface, notLan] at lan2lan
        cases lan2lan
      rw [count_append, count_singleton, if_neg (by simpa using differs), add_zero]
    unfold CtLanToLan.cacheNewConnection
    split
    · rename_i potential
      have notFull := room notLan potential
      dsimp only
      rw [if_neg notFull.ne]
      apply inv.setCache others
      · intro other otherNotLan otherPotential
        rw [count_append, count_append, inv.cached other otherNotLan otherPotential]
      · intro other mem
        rcases mem_append.mp mem with earlier | last
        · exact inv.waiting other earlier
        · rw [mem_singleton.mp last]
          exact ⟨notLan, potential⟩
    · rename_i notPotential
      apply inv.setCache others
      · intro other otherNotLan otherPotential
        have differs : conn ≠ other := by
          rintro rfl
          exact notPotential otherPotential
        rw [inv.cached other otherNotLan otherPotential, count_append, count_singleton,
          if_neg (by simpa using differs), add_zero]
      · exact inv.waiting

omit [DecidableEq ι] [DecidableEq μ] in
theorem handleDelConnection (conn : EventConnection α)
    (isOpen : config.isLan2lanConnection run.pIface conn = true →
      conn ∈ run.opened ∨ run.openBetween config (config.ends conn) = 0) :
    (⟨run.lan.handleDelConnection config conn, run.opened.erase conn⟩ :
      CtLanRun α κ ι μ).RunInv config := by
  unfold CtLanToLan.handleDelConnection
  split
  · rename_i lan2lan
    apply inv.postEvt
    · rintro _ ⟨⟩
    · rintro _ ⟨⟩
      exact LanConfig.ne_of_areLan2lan lan2lan
    · intro pair
      rw [LanEvent.change, countP_erase]
      by_cases isPair : config.ends conn = pair
      · subst isPair
        rcases isOpen lan2lan with isIn | none
        · have positive : 0 < run.openBetween config (config.ends conn) :=
            countP_pos_iff.mpr ⟨conn, isIn, by simp⟩
          simp only [Change.apply, if_true, isIn, decide_true, and_true, openBetween] at positive ⊢
          omega
        · simp only [Change.apply, if_true, none]
          rw [openBetween] at none
          simp [none]
      · simp [isPair, Change.apply, openBetween]
    · intro other notLan
      have differs : other ≠ conn := by
        rintro rfl
        rw [pIface, lan2lan] at notLan
        cases notLan
      exact count_erase_of_ne differs
  · rename_i notLan
    rw [Bool.not_eq_true] at notLan
    have others (other : EventConnection α)
        (lan2lan : config.isLan2lanConnection run.pIface other = true) :
        (run.opened.erase conn).count other = run.opened.count other := by
      apply count_erase_of_ne
      rintro rfl
      rw [pIface, notLan] at lan2lan
      cases lan2lan
    unfold CtLanToLan.removeCacheConnection
    split
    · apply inv.setCache others
      · intro other otherNotLan otherPotential
        rw [count_erase, count_erase, inv.cached other otherNotLan otherPotential]
      · exact fun other mem => inv.waiting other (mem_of_mem_erase mem)
    · rename_i notPotential
      apply inv.setCache others
      · intro other otherNotLan otherPotential
        have differs : other ≠ conn := by
          rintro rfl
          exact notPotential otherPotential
        rw [inv.cached other otherNotLan otherPotential, count_erase_of_ne differs]
      · exact inv.waiting

variable {rest : List (LanEvent α ι μ)}

omit [DecidableEq ι] [DecidableEq μ] in
theorem recounts (isFirst : run.lan.queue = event :: rest) {next : LanToLan κ ι μ} {change : Change}
    (recounted : run.lan.app.Recounts next pair change)
    (lan2lan : change = .up → ∀ a b, s(a, b) = pair → config.areLan2lan run.pIface a b = true)
    (changes : ∀ other, event.change config other = if pair = other then change else .keep) :
    (⟨{ run.lan with app := next, queue := rest }, run.opened⟩ : CtLanRun α κ ι μ).RunInv
      config := by
  have samePIface : next.pIface = run.pIface := recounted.pIface
  have later {event : LanEvent α ι μ} (mem : event ∈ rest) : event ∈ run.lan.queue := by
    rw [isFirst]
    exact mem_cons_of_mem _ mem
  refine ⟨recounted.counts, ?_, ?_, ?_, fun conn mem => inv.distinct conn (later mem), ?_, ?_, ?_⟩
  · intro client present
    change (next.pIface client).isSome at present
    rw [samePIface] at present
    exact (congrFun recounted.isActive client).trans (inv.active client present)
  · intro a b recorded
    change config.areLan2lan next.pIface a b = true
    rw [samePIface]
    change 0 < next.numConnection a b at recorded
    rw [recounted.changed] at recorded
    split at recorded
    · rename_i isPair
      cases change with
      | up => exact lan2lan rfl a b isPair
      | down =>
          apply inv.apart
          simp only [Change.apply] at recorded
          omega
      | keep => exact inv.apart a b recorded
    · exact inv.apart a b recorded
  · intro conn mem
    change config.isLan2lanConnection next.pIface conn = true
    rw [samePIface]
    exact inv.posted conn (later mem)
  · intro a b areLan2lan
    change config.areLan2lan next.pIface a b = true at areLan2lan
    rw [samePIface] at areLan2lan
    have settled := inv.settled a b areLan2lan
    rw [isFirst, CtLanRun.changes, map_cons, settle_cons, changes] at settled
    refine Eq.trans ?_ settled
    change settle _ (next.numConnection a b) = _
    rw [recounted.changed]
    by_cases isPair : s(a, b) = pair
    · simp [isPair, CtLanRun.changes]
    · simp [isPair, Ne.symm isPair, CtLanRun.changes, Change.apply]
  · intro conn notLan
    change config.isLan2lanConnection next.pIface conn = false at notLan
    rw [samePIface] at notLan
    exact inv.cached conn notLan
  · intro conn mem
    change config.isLan2lanConnection next.pIface conn = false ∧ _
    rw [samePIface]
    exact inv.waiting conn mem

theorem processConnection (answers : LanAnswers κ) (isFirst : run.lan.queue = event :: rest)
    (forConn : event = .newConnection conn ∨ event = .delConnection conn) :
    (⟨eventCallback config { run.lan with queue := rest } answers event, run.opened⟩ :
      CtLanRun α κ ι μ).RunInv config := by
  have isIn : event ∈ run.lan.queue := by
    rw [isFirst]
    exact mem_cons_self
  rcases forConn with rfl | rfl
  · have lan2lan := inv.posted conn isIn
    have present := LanConfig.present_of_areLan2lan lan2lan
    apply inv.recounts isFirst
    · exact LanToLan.handleNewLan2lanConnection_recounts inv.counts
        (LanConfig.ne_of_areLan2lan lan2lan) present.1 present.2
    · intro _ a b isPair
      rw [← LanConfig.isLan2lanConnection_eq isPair.symm]
      exact lan2lan
    · exact fun other => rfl
  · apply inv.recounts isFirst
    · exact LanToLan.handleDelLan2lanConnection_recounts inv.counts (inv.distinct conn isIn)
        inv.active
    · rintro ⟨⟩
    · exact fun other => rfl

section Enter

variable {next : LanToLan κ ι μ} {addr : α} {iface : ι} {rest : List (LanEvent α ι μ)}

variable {newIface : κ → Option ι}

omit [DecidableEq ι] [DecidableEq μ] in
theorem count_hits (joins : run.Joins config newIface addr)
    (lan2lan : config.isLan2lanConnection newIface conn = true)
    (wasNot : config.isLan2lanConnection run.pIface conn = false) :
    (run.lan.connections.filter (config.isReplayed newIface addr)).count conn =
      run.opened.count conn := by
  by_cases isOpen : conn ∈ run.opened
  · rcases (joins conn isOpen wasNot).mp lan2lan with ⟨potential, replayed⟩
    rw [count_filter replayed]
    exact inv.cached conn wasNot potential
  · rw [count_eq_zero_of_not_mem isOpen, count_eq_zero_of_not_mem]
    exact fun mem => isOpen (inv.mem_opened (mem_of_mem_filter mem))

omit [DecidableEq ι] [DecidableEq μ] in
theorem countP_hits (joins : run.Joins config newIface addr)
    (lan2lan : config.areLan2lan newIface a b = true) :
    (run.lan.connections.filter (config.isReplayed newIface addr)).countP
        (config.ends · = s(a, b)) =
      if config.areLan2lan run.pIface a b = true then 0 else run.openBetween config s(a, b) := by
  split
  · rename_i were
    rw [countP_eq_zero]
    intro conn mem isPair
    have notLan := (inv.waiting conn (mem_of_mem_filter mem)).1
    rw [LanConfig.isLan2lanConnection_eq (by simpa using isPair), were] at notLan
    cases notLan
  · rename_i wereNot
    rw [Bool.not_eq_true] at wereNot
    apply countP_congr_count
    intro conn isPair
    apply inv.count_hits joins
    · rw [LanConfig.isLan2lanConnection_eq (of_decide_eq_true isPair)]
      exact lan2lan
    · rw [LanConfig.isLan2lanConnection_eq (of_decide_eq_true isPair)]
      exact wereNot

variable {data : EventLanClient α ι μ}

section

variable (isFirst : run.lan.queue = .clientActive data :: rest)

include isFirst

omit [DecidableEq ι] [DecidableEq μ] in
theorem settle_entered (enters : run.lan.app.Enters next client iface)
    (replaces : run.Replaces config next.pIface client rest)
    (lan2lan : config.areLan2lan next.pIface a b = true) :
    settle (changes config rest s(a, b)) (next.numConnection a b) =
      if config.areLan2lan run.pIface a b = true then (run.openBetween config s(a, b) : ℤ)
      else 0 := by
  rw [enters.changed]
  by_cases were : config.areLan2lan run.pIface a b = true
  · have settled := inv.settled a b were
    rw [if_pos were]
    rw [isFirst] at settled
    refine Eq.trans ?_ settled
    change _ = settle (changes config rest s(a, b)) (run.lan.app.numConnection a b)
    split
    · rename_i isClient
      rcases isClient with rfl | rfl
      · exact replaces.dropped b lan2lan
      · rw [LanConfig.areLan2lan_comm] at lan2lan
        rw [Sym2.eq_swap, inv.counts.symm]
        exact replaces.dropped a lan2lan
    · rfl
  · have isClient : a = client ∨ b = client := by
      by_contra neither
      push Not at neither
      rw [enters.pIface, LanConfig.areLan2lan_update neither.1 neither.2] at lan2lan
      exact were lan2lan
    rw [if_neg were, if_pos isClient]
    apply settle_zero
    -- only connections between clients of different categories are posted
    intro change mem isUp
    rcases mem_map.mp mem with ⟨event, isIn, rfl⟩
    cases event with
    | clientActive data => cases isUp
    | newConnection conn =>
        by_cases isPair : config.ends conn = s(a, b)
        · have posted := inv.posted conn (isFirst ▸ mem_cons_of_mem _ isIn)
          rw [LanConfig.isLan2lanConnection_eq isPair] at posted
          exact were posted
        · simp [LanEvent.change, isPair] at isUp
    | delConnection conn =>
        by_cases isPair : config.ends conn = s(a, b) <;> simp [LanEvent.change, isPair] at isUp

omit [DecidableEq ι] [DecidableEq μ] in
theorem enter (enters : run.lan.app.Enters next (config.key addr) iface)
    (joins : run.Joins config next.pIface addr)
    (replaces : run.Replaces config next.pIface (config.key addr) rest) :
    (⟨checkCacheConnection config { run.lan with app := next, queue := rest } addr,
      run.opened⟩ : CtLanRun α κ ι μ).RunInv config := by
  have later {event : LanEvent α ι μ} (mem : event ∈ rest) : event ∈ run.lan.queue := by
    rw [isFirst]
    exact mem_cons_of_mem _ mem
  have sameIface (a b : κ) (notFirst : a ≠ config.key addr) (notSecond : b ≠ config.key addr) :
      config.areLan2lan next.pIface a b = config.areLan2lan run.pIface a b := by
    rw [enters.pIface]
    exact LanConfig.areLan2lan_update notFirst notSecond
  -- a connection in the cache is taken out exactly if it is one of the client's
  have hits {conn : EventConnection α} (mem : conn ∈ run.lan.connections) :
      config.isReplayed next.pIface addr conn = config.isLan2lanConnection next.pIface conn := by
    rcases inv.waiting conn mem with ⟨notLan, potential⟩
    rw [Bool.eq_iff_iff, joins conn (inv.mem_opened mem) notLan]
    simp [potential]
  refine ⟨enters.counts, ?_, ?_, ?_, ?_, ?_, ?_, ?_⟩
  · intro client present
    change (next.pIface client).isSome at present
    change next.isActive client = true
    rw [enters.isActive]
    rw [enters.pIface] at present
    by_cases isClient : client = config.key addr
    · rw [isClient, update_self]
    · rw [update_of_ne isClient] at present ⊢
      exact inv.active client present
  · intro a b recorded
    change 0 < next.numConnection a b at recorded
    change config.areLan2lan next.pIface a b = true
    rw [enters.changed] at recorded
    split at recorded
    · exact absurd recorded (lt_irrefl 0)
    · rename_i neither
      push Not at neither
      rw [sameIface a b neither.1 neither.2]
      exact inv.apart a b recorded
  · intro conn mem
    change config.isLan2lanConnection next.pIface conn = true
    rcases mem_append.mp mem with earlier | replayed
    · exact replaces.posted conn earlier
    · rcases mem_map.mp replayed with ⟨_, isHit, ⟨⟩⟩
      rcases mem_filter.mp isHit with ⟨isCached, isHit⟩
      rw [← hits isCached]
      exact isHit
  · intro conn mem
    rcases mem_append.mp mem with earlier | replayed
    · exact inv.distinct conn (later earlier)
    · rcases mem_map.mp replayed with ⟨_, _, ⟨⟩⟩
  · intro a b lan2lan
    change settle (changes config (rest ++ (run.lan.connections.filter
      (config.isReplayed next.pIface addr)).map .newConnection) s(a, b))
        (next.numConnection a b) = run.openBetween config s(a, b)
    rw [changes_append, settle_append, settle_posted, inv.countP_hits joins lan2lan,
      inv.settle_entered isFirst enters replaces lan2lan]
    split <;> simp
  · intro conn notLan potential
    change config.isLan2lanConnection next.pIface conn = false at notLan
    change (run.lan.connections.filter (!config.isReplayed next.pIface addr ·)).count conn =
      run.opened.count conn
    by_cases isOpen : conn ∈ run.opened
    · have wasNot : config.isLan2lanConnection run.pIface conn = false := by
        by_contra was
        rw [Bool.not_eq_false] at was
        rw [replaces.keeps conn isOpen was] at notLan
        cases notLan
      rw [← inv.cached conn wasNot potential]
      have isCached : conn ∈ run.lan.connections := by
        rw [← one_le_count_iff, inv.cached conn wasNot potential, one_le_count_iff]
        exact isOpen
      rw [count_filter (by rw [hits isCached, notLan]; rfl)]
    · rw [count_eq_zero_of_not_mem isOpen, count_eq_zero_of_not_mem]
      exact fun mem => isOpen (inv.mem_opened (mem_of_mem_filter mem))
  · intro conn mem
    change config.isLan2lanConnection next.pIface conn = false ∧ _
    rcases mem_filter.mp mem with ⟨isCached, notHit⟩
    refine ⟨?_, (inv.waiting conn isCached).2⟩
    rw [← hits isCached]
    simpa using notHit

omit [DecidableEq ι] [DecidableEq μ] in
theorem replaces_of_new (absent : run.pIface client = none) :
    run.Replaces config (update run.pIface client (some iface)) client rest := by
  have keeps (conn : EventConnection α)
      (lan2lan : config.isLan2lanConnection run.pIface conn = true) :
      config.isLan2lanConnection (update run.pIface client (some iface)) conn = true := by
    rcases LanConfig.present_of_areLan2lan lan2lan with ⟨presentSrc, presentDst⟩
    rw [LanConfig.isLan2lanConnection, LanConfig.areLan2lan_update]
    · exact lan2lan
    · rintro rfl
      simp [absent] at presentSrc
    · rintro rfl
      simp [absent] at presentDst
  refine ⟨fun conn _ => keeps conn, ?_, ?_⟩
  · intro conn mem
    exact keeps conn (inv.posted conn (isFirst ▸ mem_cons_of_mem _ mem))
  · intro other _
    have none : run.lan.app.numConnection client other = 0 := by
      by_contra recorded
      have present := inv.counts.present (lt_of_le_of_ne inv.counts.nonneg (Ne.symm recorded))
      rw [← pIface, absent] at present
      simp at present
    rw [none]

end

theorem processClient (answers : LanAnswers κ)
    (isFirst : run.lan.queue = .clientActive data :: rest) (adds : run.Adds config data rest) :
    (⟨eventCallback config { run.lan with queue := rest } answers (.clientActive data),
      run.opened⟩ : CtLanRun α κ ι μ).RunInv config := by
  have unchanged : (⟨{ run.lan with queue := rest }, run.opened⟩ :
      CtLanRun α κ ι μ).RunInv config := by
    have recounted : run.lan.app.Recounts run.lan.app
        s(config.key data.addr, config.key data.addr) .keep := by
      refine ⟨inv.counts, rfl, rfl, ?_⟩
      intro a b
      exact (ite_self _).symm
    apply inv.recounts isFirst recounted
    · rintro ⟨⟩
    · exact fun other => (ite_self _).symm
  have samePopulated : (data.keyed config.key).populated = data.populated := rfl
  unfold eventCallback handleClientActive
  dsimp only
  split
  · rename_i notPopulated
    have same : run.lan.app.handleClientActive answers (data.keyed config.key) = run.lan.app := by
      simp [LanToLan.handleClientActive, samePopulated, notPopulated]
    rw [same]
    exact unchanged
  · rename_i macAddr iface populated
    split
    · rename_i kept
      have same : run.lan.app.handleClientActive answers (data.keyed config.key) =
          run.lan.app := by
        cases found : run.lan.app.clientInfo (config.key data.addr) with
        | none => simp [isKept, found] at kept
        | some info =>
            rcases (by simpa [isKept, found] using kept :
              info.isActive = true ∧ info.macAddr = macAddr) with ⟨isActive, sameMac⟩
            have foundKeyed :
                run.lan.app.clientInfo (data.keyed config.key).addr = some info := found
            simp [LanToLan.handleClientActive, samePopulated, populated, foundKeyed, isActive,
              sameMac]
      rw [same]
      exact unchanged
    · rename_i notKept
      rw [Bool.not_eq_true] at notKept
      rcases adds macAddr iface populated notKept with ⟨joins, replaces⟩
      have enters : run.lan.app.Enters
          (run.lan.app.handleClientActive answers (data.keyed config.key))
          (config.key data.addr) iface := by
        cases found : run.lan.app.clientInfo (config.key data.addr) with
        | none => exact LanToLan.handleClientActive_new inv.counts populated found
        | some info =>
            have present : (run.pIface (config.key data.addr)).isSome := by
              simp [pIface, LanToLan.pIface, found]
            have isActive : info.isActive = true := by
              have active := inv.active _ present
              simpa [LanToLan.isActive, found] using active
            apply LanToLan.handleClientActive_replaced inv.counts populated found isActive
            simpa [isKept, found, isActive] using notKept
      apply inv.enter isFirst enters
      · rw [enters.pIface]
        exact joins
      · rw [enters.pIface]
        cases known : run.pIface (config.key data.addr) with
        | none => exact inv.replaces_of_new isFirst known
        | some old => exact replaces (by simp [known])

end Enter

theorem processEvt (answers : LanAnswers κ)
    (adds : ∀ data rest, run.lan.queue = .clientActive data :: rest → run.Adds config data rest) :
    (⟨run.lan.processEvt config answers, run.opened⟩ : CtLanRun α κ ι μ).RunInv config := by
  cases isFirst : run.lan.queue with
  | nil =>
      rw [CtLanToLan.processEvt, isFirst]
      exact inv
  | cons event rest =>
      rw [CtLanToLan.processEvt, isFirst]
      cases event with
      | clientActive data => exact inv.processClient answers isFirst (adds data rest isFirst)
      | newConnection conn => exact inv.processConnection answers isFirst (.inl rfl)
      | delConnection conn => exact inv.processConnection answers isFirst (.inr rfl)

theorem step {input : CtLanInput α κ ι μ} (regular : run.Regular config input) :
    (run.step config input).RunInv config := by
  cases input with
  | clientAdded data =>
      apply inv.postEvt
      · rintro _ ⟨⟩
      · rintro _ ⟨⟩
      · exact fun _ => rfl
      · exact fun _ _ => rfl
  | newConnection conn => exact inv.handleNewConnection conn regular
  | delConnection conn => exact inv.handleDelConnection conn regular
  | processEvt answers => exact inv.processEvt answers regular

end RunInv

omit [DecidableEq ι] [DecidableEq μ] in
theorem IsInit.runInv (isInit : run.IsInit) : run.RunInv config := by
  rcases isInit with ⟨⟨noClient, -, -⟩, noConnection, noEvent, noneOpen⟩
  have absent (client : κ) : run.pIface client = none :=
    LanToLan.pIface_eq_none.mpr (noClient client)
  have noPeers (client : κ) : run.lan.app.peers client = [] :=
    LanToLan.peers_of_absent (absent client)
  have none (a b : κ) : run.lan.app.numConnection a b = 0 := by
    rw [LanToLan.numConnection, noPeers]
    rfl
  refine ⟨⟨?_, ?_, fun client => none client client⟩, ?_, ?_, ?_, ?_, ?_, ?_, ?_⟩
  · intro client
    rw [noPeers]
    exact .nil
  · intro a b
    rw [none, none]
  · intro client present
    simp [absent] at present
  · intro a b recorded
    exact absurd recorded (by simp [none])
  · simp [noEvent]
  · simp [noEvent]
  · intro a b lan2lan
    simp [absent, LanConfig.areLan2lan] at lan2lan
  · simp [noConnection, noneOpen]
  · simp [noConnection]

/-- In every run whose steps are regular, every two clients on interfaces of different categories
have as many connections recorded as are open, and clients of one category have none. -/
theorem reachable_connectionsCounted
    (reached : Run.Reachable IsInit (Run.Guarded (Regular config) (Step config)) run) :
    run.ConnectionsCounted config := by
  have inv : run.RunInv config := by
    apply reached.invariant (RunInv config)
    · exact fun run isInit => isInit.runInv
    · rintro run input _ inv ⟨regular, rfl⟩
      exact inv.step regular
  exact inv.connectionsCounted

section Histories

def privateLan : LanConfig UInt32 UInt32 IpacmIfaceType :=
  .ipv4 { privateSubnetTable := fun _ => ⟨0xc0a80000, 0xffff0000⟩, ipaNumPrivateSubnet := 1 } id

def refusing : LanAnswers UInt32 where
  addHdr _ _ := none
  addRtRule _ _ := none
  mdfyFltRule _ _ := false
  restoreFltRule _ _ := false
  resetFltRule _ _ := false
  delRtRule _ _ := false
  delHdr _ _ := false

def started : CtLanRun UInt32 UInt32 IpacmIfaceType ℕ where
  lan :=
    { app :=
        { clientInfo := fun _ => none
          numOffloadPair := 0
          lan := fun _ => { lan2lanFltRuleHdl := [], numLan2lanFltRule := 0 }
          fltCalls := [] }
      connections := []
      queue := [] }
  opened := []

def clientOn (addr : UInt32) (iface : IpacmIfaceType) : EventLanClient UInt32 IpacmIfaceType ℕ where
  addr := addr
  macAddr := some addr.toNat
  ipv6AddrSet := true
  pIface := some iface

def firstConn : EventConnection UInt32 := ⟨0xc0a80001, 0xc0a80002⟩

def oneClient (iface : IpacmIfaceType) : CtLanRun UInt32 UInt32 IpacmIfaceType ℕ :=
  ((started.step privateLan (.newConnection firstConn)).step privateLan
    (.clientAdded (clientOn firstConn.srcAddr iface))).step privateLan (.processEvt refusing)

def twoClients (first second : IpacmIfaceType) : CtLanRun UInt32 UInt32 IpacmIfaceType ℕ :=
  (((oneClient first).step privateLan (.clientAdded (clientOn firstConn.dstAddr second))).step
    privateLan (.processEvt refusing)).step privateLan (.processEvt refusing)

theorem started_isInit : started.IsInit := ⟨⟨fun _ => rfl, rfl, rfl⟩, rfl, rfl, rfl⟩

theorem adds_of_new {run : CtLanRun UInt32 UInt32 IpacmIfaceType ℕ} {addr : UInt32}
    {iface : IpacmIfaceType} {rest : List (LanEvent UInt32 IpacmIfaceType ℕ)}
    (absent : run.pIface addr = none) (opened : run.opened = [firstConn])
    (joins : privateLan.isLan2lanConnection (update run.pIface addr (some iface))
        firstConn =
      privateLan.isReplayed (update run.pIface addr (some iface)) addr firstConn) :
    run.Adds privateLan (clientOn addr iface) rest := by
  have potential : privateLan.isPotentialLan2lanConnection firstConn = true := by decide
  rintro _ _ ⟨⟩ _
  constructor
  · intro other mem _
    rw [opened] at mem
    rw [mem_singleton.mp mem, potential]
    simp only [true_and]
    exact Bool.eq_iff_iff.mp joins
  · intro present
    change (run.pIface addr).isSome at present
    simp [absent] at present

theorem oneClient_reachable (iface : IpacmIfaceType) : Run.Reachable IsInit
    (Run.Guarded (Regular privateLan) (Step privateLan)) (oneClient iface) := by
  refine .next (.processEvt refusing) (.next (.clientAdded _) (.next (.newConnection firstConn)
    (.start started_isInit) ⟨?_, rfl⟩) ⟨trivial, rfl⟩) ⟨?_, rfl⟩
  · exact fun _ _ => by decide
  · rintro _ _ ⟨⟩
    exact adds_of_new rfl rfl rfl

theorem reachable_connectionsCounted_twoClients :
    (twoClients .wlanIf .lanIf).lan.app.numConnection firstConn.srcAddr firstConn.dstAddr = 1 ∧
      (twoClients .wlanIf .lanIf).ConnectionsCounted privateLan := by
  refine ⟨by decide, ?_⟩
  apply reachable_connectionsCounted
  refine .next (.processEvt refusing) (.next (.processEvt refusing) (.next (.clientAdded _)
    (oneClient_reachable .wlanIf) ⟨trivial, rfl⟩) ⟨?_, rfl⟩) ⟨?_, rfl⟩
  · rintro _ _ ⟨⟩
    exact adds_of_new rfl rfl rfl
  · rintro _ _ ⟨⟩

/-- Two clients of one category get a record of each other. -/
theorem not_connectionsCounted :
    ¬∀ run : CtLanRun UInt32 UInt32 IpacmIfaceType ℕ,
      Run.Reachable IsInit (Run.Guarded (HasRoom privateLan) (Step privateLan)) run →
        run.ConnectionsCounted privateLan := by
  intro always
  have reached : Run.Reachable IsInit (Run.Guarded (HasRoom privateLan) (Step privateLan))
      (twoClients .wlanIf .wlanIf) := by
    refine .next (.processEvt refusing) (.next (.processEvt refusing) (.next (.clientAdded _)
      (.next (.processEvt refusing) (.next (.clientAdded _) (.next (.newConnection firstConn)
        (.start started_isInit) ⟨?_, rfl⟩) ⟨trivial, rfl⟩) ⟨trivial, rfl⟩) ⟨trivial, rfl⟩)
          ⟨trivial, rfl⟩) ⟨trivial, rfl⟩
    exact fun _ _ => by decide
  have apart := (always _ reached).apart firstConn.srcAddr ⟨firstConn.dstAddr, 1⟩ (by decide)
  revert apart
  decide

end Histories

end CtLanRun

end HtcPme.Ipacm

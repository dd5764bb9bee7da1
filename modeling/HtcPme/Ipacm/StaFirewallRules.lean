import HtcPme.Ipacm.StaFirewall

/-!
# The requests for firewall rules

The rules that the requests add stand behind those before them, and the handles of the rules for
entries in one cell of the array after the other.
-/

namespace HtcPme.Ipacm

open List

namespace DlMatch

variable {ρ : Type*}

def isEntry : DlMatch ρ → Bool
  | .entry _ _ => true
  | _ => false

theorem not_isFragment_of_isEntry {match' : DlMatch ρ} (isEntry : match'.isEntry) :
    match'.isFragment = false := by
  cases match' with
  | entry protocol attrib => rfl
  | _ => cases isEntry

end DlMatch

namespace DftRequest

variable {ρ : Type*}

def isFirewall : DftRequest ρ → Bool
  | .addFirewall _ _ => true
  | _ => false

def rule : DftRequest ρ → Option (StaRule ρ)
  | .getRoutingTable _ => none
  | .addFrag rule | .addFirewall _ rule | .addDft _ rule => some rule

def Sequential : ℕ → List (DftRequest ρ) → Prop
  | _, [] => True
  | ruleNum, .addFirewall ruleNum' rule :: rest =>
      ruleNum' = ruleNum ∧ rule.matches'.isEntry ∧ Sequential (ruleNum + 1) rest
  | ruleNum, .addFrag rule :: rest => ¬rule.matches'.isEntry ∧ Sequential ruleNum rest
  | ruleNum, .addDft _ rule :: rest => ¬rule.matches'.isEntry ∧ Sequential ruleNum rest
  | ruleNum, .getRoutingTable _ :: rest => Sequential ruleNum rest

variable {requests : List (DftRequest ρ)} {ruleNum : ℕ}

theorem Sequential.take (isSeq : Sequential ruleNum requests) (granted : ℕ) :
    Sequential ruleNum (requests.take granted) := by
  induction requests generalizing ruleNum granted with
  | nil => rwa [take_nil]
  | cons first rest ih =>
      cases granted with
      | zero => trivial
      | succ granted =>
          rw [take_succ_cons]
          cases first with
          | getRoutingTable rtTbl => exact ih isSeq granted
          | addFrag rule => exact ⟨isSeq.1, ih isSeq.2 granted⟩
          | addFirewall ruleNum' rule => exact ⟨isSeq.1, isSeq.2.1, ih isSeq.2.2 granted⟩
          | addDft slot rule => exact ⟨isSeq.1, ih isSeq.2 granted⟩

theorem sequential_append {rest : List (DftRequest ρ)}
    (isSeq : Sequential ruleNum requests)
    (isRest : Sequential (ruleNum + requests.countP isFirewall) rest) :
    Sequential ruleNum (requests ++ rest) := by
  induction requests generalizing ruleNum with
  | nil => exact isRest
  | cons first tail ih =>
      cases first with
      | getRoutingTable rtTbl => exact ih isSeq isRest
      | addFrag rule => exact ⟨isSeq.1, ih isSeq.2 isRest⟩
      | addFirewall ruleNum' rule =>
          refine ⟨isSeq.1, isSeq.2.1, ih isSeq.2.2 ?_⟩
          rw [countP_cons_of_pos rfl] at isRest
          rwa [Nat.add_assoc, Nat.add_comm 1]
      | addDft slot rule => exact ⟨isSeq.1, ih isSeq.2 isRest⟩

theorem sequential_mapIdx (toRule : DlMatch ρ → StaRule ρ) (matches' : List (DlMatch ρ))
    (isEntry : ∀ match' ∈ matches', (toRule match').matches'.isEntry) (ruleNum : ℕ) :
    Sequential ruleNum
      (matches'.mapIdx fun pos match' => .addFirewall (ruleNum + pos) (toRule match')) := by
  induction matches' generalizing ruleNum with
  | nil => trivial
  | cons first rest ih =>
      rw [mapIdx_cons]
      refine ⟨rfl, isEntry first mem_cons_self, ?_⟩
      have isSeq := ih (fun match' isIn => isEntry match' (mem_cons_of_mem _ isIn))
        (ruleNum + 1)
      simpa only [Nat.add_assoc, Nat.add_comm 1] using isSeq

end DftRequest

namespace FirewallConf

variable {ρ : Type*} (conf : FirewallConf ρ) (isRouter : Bool) (ip : IpaIpType)

theorem isEntry_of_mem_splitEntries {match' : DlMatch ρ} (isIn : match' ∈ conf.splitEntries ip) :
    match'.isEntry := by
  rcases mem_flatMap.mp isIn with ⟨entry, _, isSplit⟩
  unfold splitEntry at isSplit
  split at isSplit
  · simp only [mem_cons, not_mem_nil, or_false] at isSplit
    rcases isSplit with rfl | rfl <;> rfl
  · rw [mem_singleton.mp isSplit]
    rfl

theorem splitEntries_of_ruleNum (noRule : conf.ruleNum ip = 0) : conf.splitEntries ip = [] := by
  have noEntry : (conf.entries.filter fun entry => entry.ipVsn = ipVsnOf ip) = [] := by
    rw [filter_eq_nil_iff]
    intro entry isIn
    cases ip with
    | v4 => exact countP_eq_zero.mp noRule entry isIn
    | v6 =>
        have isV4 := countP_eq_zero.mp noRule entry isIn
        simp only [decide_not, Bool.not_eq_true', decide_eq_false_iff_not, not_not] at isV4
        simp [ipVsnOf, isV4]
  rw [splitEntries, noEntry, flatMap_nil]

theorem sequential_entryRequests : DftRequest.Sequential 0 (conf.entryRequests isRouter ip) := by
  unfold entryRequests
  split
  · have isSeq := DftRequest.sequential_mapIdx
      (fun match' => ⟨conf.matchedAction isRouter ip, some (staTable ip), match'⟩)
      (conf.splitEntries ip) (fun match' => conf.isEntry_of_mem_splitEntries ip) 0
    simpa only [Nat.zero_add] using isSeq
  · trivial

theorem countP_entryRequests :
    (conf.entryRequests isRouter ip).countP DftRequest.isFirewall =
      if conf.firewallEnable then (conf.splitEntries ip).length else 0 := by
  unfold entryRequests
  split
  · rw [countP_eq_length.mpr, length_mapIdx]
    intro request isIn
    rcases mem_mapIdx.mp isIn with ⟨pos, _, rfl⟩
    rfl
  · rfl

theorem sequential_dftRequests : DftRequest.Sequential 0 (conf.dftRequests isRouter ip) := by
  have entries := conf.sequential_entryRequests isRouter ip
  have notEntry : ¬(DlMatch.any : DlMatch ρ).isEntry := Bool.false_ne_true
  have notIcmp : ¬(DlMatch.icmp : DlMatch ρ).isEntry := Bool.false_ne_true
  cases ip with
  | v4 =>
      apply DftRequest.sequential_append
      · split_ifs
        · trivial
        · exact entries
      · exact ⟨notEntry, trivial⟩
  | v6 =>
      unfold dftRequests
      apply DftRequest.sequential_append
      · split_ifs
        · exact ⟨Bool.false_ne_true, trivial⟩
        · trivial
      · have noEntry : (if conf.hasFragRule then
            [DftRequest.addFrag ⟨.passToException, none, .fragment⟩]
            else ([] : List (DftRequest ρ))).countP DftRequest.isFirewall = 0 := by
          split_ifs <;> rfl
        rw [noEntry]
        split_ifs
        · exact ⟨notIcmp, notEntry, trivial⟩
        · apply DftRequest.sequential_append
          · exact entries
          · exact ⟨notIcmp, notEntry, trivial⟩

end FirewallConf

namespace StaFirewall

variable {ρ : Type*} (source : HandleSource) (ip : IpaIpType)

theorem foldl_perform (sta : StaFirewall ρ) {ruleNum : ℕ} {requests : List (DftRequest ρ)}
    (isSeq : DftRequest.Sequential ruleNum requests) :
    ∃ new : List (ℕ × StaRule ρ),
      ((requests.foldl (perform source ip) sta).kernel ip).rules =
          (sta.kernel ip).rules ++ new ∧
        (requests.foldl (perform source ip) sta).firewallHdl ip =
          (sta.firewallHdl ip).put ruleNum
            ((new.filter fun entry => entry.2.matches'.isEntry).map Prod.fst) ∧
        (new.filter fun entry => entry.2.matches'.isEntry).length =
          requests.countP DftRequest.isFirewall ∧
        new.map Prod.snd = requests.filterMap DftRequest.rule := by
  induction requests generalizing ruleNum sta with
  | nil => exact ⟨[], by simp, rfl, rfl, rfl⟩
  | cons first rest ih =>
      rw [foldl_cons]
      cases first with
      | getRoutingTable rtTbl => exact ih _ isSeq
      | addFrag rule =>
          rcases ih (perform source ip sta (.addFrag rule)) isSeq.2 with
            ⟨new, rules, hdls, counted, added⟩
          refine ⟨(source.next (sta.kernel ip).handles, rule) :: new, ?_, ?_, ?_,
            congrArg (rule :: ·) added⟩
          · simpa [perform, addFilteringRule, HandleTable.addOne] using rules
          · rw [filter_cons_of_neg (by simpa using isSeq.1)]
            exact hdls
          · rw [filter_cons_of_neg (by simpa using isSeq.1)]
            exact counted
      | addDft slot rule =>
          rcases ih (perform source ip sta (.addDft slot rule)) isSeq.2 with
            ⟨new, rules, hdls, counted, added⟩
          refine ⟨(source.next (sta.kernel ip).handles, rule) :: new, ?_, ?_, ?_,
            congrArg (rule :: ·) added⟩
          · simpa [perform, addFilteringRule, HandleTable.addOne] using rules
          · rw [filter_cons_of_neg (by simpa using isSeq.1)]
            exact hdls
          · rw [filter_cons_of_neg (by simpa using isSeq.1)]
            exact counted
      | addFirewall ruleNum' rule =>
          rcases isSeq with ⟨rfl, isEntry, isSeq⟩
          rcases ih (perform source ip sta (.addFirewall ruleNum' rule)) isSeq with
            ⟨new, rules, hdls, counted, added⟩
          refine ⟨(source.next (sta.kernel ip).handles, rule) :: new, ?_, ?_, ?_,
            congrArg (rule :: ·) added⟩
          · simpa [perform, addFilteringRule, HandleTable.addOne] using rules
          · rw [filter_cons_of_pos (by simpa using isEntry), map_cons]
            rw [hdls]
            simp [perform, addFilteringRule, CountedTable.put]
          · rw [filter_cons_of_pos (by simpa using isEntry), length_cons, counted,
              countP_cons_of_pos rfl]

end StaFirewall

end HtcPme.Ipacm

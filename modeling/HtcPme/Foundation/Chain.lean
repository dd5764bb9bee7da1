import Mathlib.Data.List.Chain
import Mathlib.Data.List.Nodup
import Mathlib.Logic.Function.Iterate
import Mathlib.Tactic.Common

/-!
# Linked chains

Chains of nodes threaded through a `next` function and, backwards, a `prev` function. A `Forest` is
a family of paths, one for each head, that share no node and end at a null node; nodes are appended
to a chain and unlinked from it.
-/

namespace Chain

open List

open Function (update_of_ne update_self)

variable {α : Type*}

/-- Following `next` from `start` visits exactly `nodes` and then reaches `stop`. -/
def Path (next : α → α) (start : α) (nodes : List α) (stop : α) : Prop :=
  List.IsChain (fun source target => next source = target) (start :: (nodes ++ [stop]))

/-- The `prev` value of each of `nodes` is the node before it, counting from `start`. -/
def BackPath (prev : α → α) (start : α) (nodes : List α) : Prop :=
  List.IsChain (fun source target => prev target = source) (start :: nodes)

section Path

variable {next next' : α → α} {start stop node : α} {nodes front back : List α}

@[simp]
theorem path_nil : Path next start [] stop ↔ next start = stop := by
  simp [Path]

@[simp]
theorem path_cons : Path next start (node :: nodes) stop ↔
    next start = node ∧ Path next node nodes stop := by
  simp [Path]

theorem path_append_cons : Path next start (front ++ node :: back) stop ↔
    Path next start front node ∧ Path next node back stop := by
  induction front generalizing start with
  | nil => simp
  | cons first rest ih => simp [ih, and_assoc]

theorem Path.next_start (path : Path next start nodes stop) :
    next start = nodes.headD stop := by
  cases nodes with
  | nil => simpa using path
  | cons first rest => simpa using (path_cons.mp path).1

theorem Path.congr (path : Path next start nodes stop)
    (agree : ∀ other ∈ start :: nodes, next' other = next other) :
    Path next' start nodes stop := by
  induction nodes generalizing start with
  | nil => simpa [agree start (by simp)] using path
  | cons first rest ih =>
      rw [path_cons] at path ⊢
      refine ⟨by rw [agree start (by simp)]; exact path.1, ih path.2 ?_⟩
      intro other otherMem
      exact agree other (mem_cons_of_mem _ otherMem)

theorem getLastD_mem (start : α) (nodes : List α) : nodes.getLastD start ∈ start :: nodes := by
  induction nodes generalizing start with
  | nil => simp
  | cons first rest ih =>
      rw [getLastD_cons]
      exact mem_cons_of_mem _ (ih first)

theorem Path.retarget {stop' : α} (path : Path next start nodes stop)
    (distinct : (start :: nodes).Nodup)
    (redirected : next' (nodes.getLastD start) = stop')
    (agree : ∀ other ∈ start :: nodes, other ≠ nodes.getLastD start →
      next' other = next other) :
    Path next' start nodes stop' := by
  induction nodes generalizing start with
  | nil => simpa using redirected
  | cons first rest ih =>
      rw [path_cons] at path ⊢
      rw [getLastD_cons] at redirected
      rw [nodup_cons] at distinct
      constructor
      · rw [agree start (by simp)]
        · exact path.1
        · rw [getLastD_cons]
          intro startIsLast
          exact distinct.1 (startIsLast ▸ getLastD_mem first rest)
      · apply ih path.2 distinct.2 redirected
        intro other otherMem notLast
        apply agree other (mem_cons_of_mem _ otherMem)
        rwa [getLastD_cons]

theorem Path.iterate (path : Path next start nodes stop) :
    next^[nodes.length + 1] start = stop := by
  induction nodes generalizing start with
  | nil => simpa using path
  | cons first rest ih =>
      rw [path_cons] at path
      rw [length_cons, Function.iterate_succ_apply, path.1]
      exact ih path.2

end Path

section BackPath

variable {prev prev' : α → α} {start node : α} {nodes front back : List α}

@[simp]
theorem backPath_nil : BackPath prev start [] := by
  simp [BackPath]

@[simp]
theorem backPath_cons : BackPath prev start (node :: nodes) ↔
    prev node = start ∧ BackPath prev node nodes := by
  simp [BackPath]

theorem backPath_append_cons : BackPath prev start (front ++ node :: back) ↔
    BackPath prev start front ∧ prev node = front.getLastD start ∧ BackPath prev node back := by
  induction front generalizing start with
  | nil => simp
  | cons first rest ih =>
      rw [cons_append, backPath_cons, backPath_cons, ih, getLastD_cons, and_assoc]

theorem BackPath.congr (path : BackPath prev start nodes)
    (agree : ∀ other ∈ nodes, prev' other = prev other) : BackPath prev' start nodes := by
  induction nodes generalizing start with
  | nil => simp
  | cons first rest ih =>
      rw [backPath_cons] at path ⊢
      refine ⟨by rw [agree first (by simp)]; exact path.1, ih path.2 ?_⟩
      intro other otherMem
      exact agree other (mem_cons_of_mem _ otherMem)

end BackPath

theorem Path.linked {next prev : α → α} {start stop : α} {nodes : List α}
    (path : Path next start nodes stop) (backPath : BackPath prev start nodes) :
    List.IsChain (fun pred succ => next pred = succ ∧ prev succ = pred) (start :: nodes) := by
  induction nodes generalizing start with
  | nil => simp
  | cons first rest ih =>
      rw [path_cons] at path
      rw [backPath_cons] at backPath
      exact isChain_cons_cons.mpr ⟨⟨path.1, backPath.1⟩, ih path.2 backPath.2⟩

/-- The nodes met when following `next` from `start` for at most `fuel` nodes. -/
def walk [DecidableEq α] (next : α → α) (null : α) : ℕ → α → List α
  | 0, _ => []
  | fuel + 1, start =>
      if start = null then [] else start :: walk next null fuel (next start)

section Walk

variable [DecidableEq α] {next : α → α} {null start : α} {nodes : List α}

theorem walk_eq_of_path {fuel : ℕ} (path : Path next start nodes null)
    (startNe : start ≠ null) (nodesNe : null ∉ nodes) (enough : nodes.length < fuel) :
    walk next null fuel start = start :: nodes := by
  induction nodes generalizing start fuel with
  | nil =>
      obtain ⟨fuel, rfl⟩ : ∃ less, fuel = less + 1 := ⟨fuel - 1, by simp at enough; omega⟩
      have ended : next start = null := by simpa using path
      cases fuel <;> simp [walk, startNe, ended]
  | cons first rest ih =>
      obtain ⟨fuel, rfl⟩ : ∃ less, fuel = less + 1 := ⟨fuel - 1, by simp at enough; omega⟩
      rw [path_cons] at path
      simp only [mem_cons, not_or] at nodesNe
      rw [walk, if_neg startNe, path.1,
        ih path.2 (Ne.symm nodesNe.1) nodesNe.2 (by simp at enough; omega)]

end Walk

/-- A family of chains: the nodes after each head are linked forwards to the null node and backwards
to the head, and no node lies in two places. -/
structure Forest (next prev : α → α) (null : α) (IsHead : α → Prop) (chain : α → List α) :
    Prop where
  path : ∀ head, IsHead head → Path next head (chain head) null
  backPath : ∀ head, IsHead head → BackPath prev head (chain head)
  nodup : ∀ head, IsHead head → (chain head).Nodup
  disjoint : ∀ head other, IsHead head → IsHead other → head ≠ other →
    (chain head).Disjoint (chain other)
  node_not_head : ∀ head, IsHead head → ∀ node ∈ chain head, ¬IsHead node
  node_ne_null : ∀ head, IsHead head → null ∉ chain head

namespace Forest

variable {next prev next' prev' : α → α} {null : α} {IsHead : α → Prop} {chain : α → List α}
variable {head node : α}

section

variable (forest : Forest next prev null IsHead chain)

include forest

theorem head_notMem (isHead : IsHead head) :
    head ∉ chain head :=
  fun headMem => forest.node_not_head head isHead head headMem isHead

theorem nodup_cons (isHead : IsHead head) :
    (head :: chain head).Nodup :=
  List.nodup_cons.mpr ⟨forest.head_notMem isHead, forest.nodup head isHead⟩

theorem head_unique {other : α}
    (isHead : IsHead head) (otherIsHead : IsHead other)
    (nodeMem : node ∈ chain head) (nodeMemOther : node ∈ chain other) : head = other := by
  by_contra headNe
  exact forest.disjoint head other isHead otherIsHead headNe nodeMem nodeMemOther

theorem congr
    (nextEq : ∀ head, IsHead head → ∀ other ∈ head :: chain head, next' other = next other)
    (prevEq : ∀ head, IsHead head → ∀ other ∈ chain head, prev' other = prev other) :
    Forest next' prev' null IsHead chain where
  path head isHead := (forest.path head isHead).congr (nextEq head isHead)
  backPath head isHead := (forest.backPath head isHead).congr (prevEq head isHead)
  nodup := forest.nodup
  disjoint := forest.disjoint
  node_not_head := forest.node_not_head
  node_ne_null := forest.node_ne_null

theorem last_notMem_other {other pred : α}
    {front back : List α} (isHead : IsHead head) (otherIsHead : IsHead other)
    (headNe : head ≠ other) (split : chain head = front ++ back)
    (predEq : pred = front.getLastD head) : pred ∉ other :: chain other := by
  subst predEq
  have predMem : front.getLastD head ∈ head :: front := getLastD_mem head front
  rw [mem_cons] at predMem
  rw [mem_cons, not_or]
  rcases predMem with isStart | inFront
  · rw [isStart]
    exact ⟨headNe, fun headMem => forest.node_not_head other otherIsHead head headMem isHead⟩
  · have inChain : front.getLastD head ∈ chain head := by
      rw [split]; exact mem_append_left _ inFront
    refine ⟨?_, forest.disjoint head other isHead otherIsHead headNe inChain⟩
    intro isOther
    exact forest.node_not_head head isHead _ inChain (isOther ▸ otherIsHead)

end

variable [DecidableEq α]

theorem append (forest : Forest next prev null IsHead chain) (isHead : IsHead head)
    (nodeNe : node ≠ null) (nodeNotHead : ¬IsHead node)
    (nodeFresh : ∀ other, IsHead other → node ∉ chain other)
    (nextNode : next' node = null) (nextLast : next' ((chain head).getLastD head) = node)
    (nextOther : ∀ other, other ≠ node → other ≠ (chain head).getLastD head →
      next' other = next other)
    (prevNode : prev' node = (chain head).getLastD head)
    (prevOther : ∀ other, other ≠ node → prev' other = prev other) :
    Forest next' prev' null IsHead (Function.update chain head (chain head ++ [node])) where
  path other otherIsHead := by
    by_cases otherEq : other = head
    · subst otherEq
      rw [update_self, path_append_cons]
      refine ⟨(forest.path other otherIsHead).retarget (forest.nodup_cons isHead) nextLast ?_,
        by simpa using nextNode⟩
      intro member memberMem notLast
      refine nextOther member ?_ notLast
      rintro rfl
      rcases mem_cons.mp memberMem with rfl | inChain
      · exact nodeNotHead isHead
      · exact nodeFresh other isHead inChain
    · rw [update_of_ne otherEq]
      refine (forest.path other otherIsHead).congr ?_
      intro member memberMem
      refine nextOther member ?_ ?_
      · rintro rfl
        rcases mem_cons.mp memberMem with rfl | inChain
        · exact nodeNotHead otherIsHead
        · exact nodeFresh other otherIsHead inChain
      · rintro rfl
        exact forest.last_notMem_other isHead otherIsHead (Ne.symm otherEq)
          (append_nil _).symm rfl memberMem
  backPath other otherIsHead := by
    have agree : ∀ member ∈ chain other, prev' member = prev member := by
      intro member memberMem
      refine prevOther member ?_
      rintro rfl
      exact nodeFresh other otherIsHead memberMem
    by_cases otherEq : other = head
    · subst otherEq
      rw [update_self, backPath_append_cons]
      exact ⟨(forest.backPath other otherIsHead).congr agree, prevNode, backPath_nil⟩
    · rw [update_of_ne otherEq]
      exact (forest.backPath other otherIsHead).congr agree
  nodup other otherIsHead := by
    by_cases otherEq : other = head
    · subst otherEq
      rw [update_self]
      refine nodup_append'.mpr ⟨forest.nodup other otherIsHead, by simp, ?_⟩
      simpa using nodeFresh other otherIsHead
    · rw [update_of_ne otherEq]
      exact forest.nodup other otherIsHead
  disjoint first second firstIsHead secondIsHead firstNe := by
    by_cases firstEq : first = head
    · subst firstEq
      rw [update_self, update_of_ne (Ne.symm firstNe),
        disjoint_append_left]
      refine ⟨forest.disjoint first second firstIsHead secondIsHead firstNe, ?_⟩
      simpa using nodeFresh second secondIsHead
    · rw [update_of_ne firstEq]
      by_cases secondEq : second = head
      · subst secondEq
        rw [update_self, disjoint_append_right]
        refine ⟨forest.disjoint first second firstIsHead secondIsHead firstNe, ?_⟩
        simpa using nodeFresh first firstIsHead
      · rw [update_of_ne secondEq]
        exact forest.disjoint first second firstIsHead secondIsHead firstNe
  node_not_head other otherIsHead member memberMem := by
    by_cases otherEq : other = head
    · subst otherEq
      rw [update_self, mem_append, mem_singleton] at memberMem
      rcases memberMem with inChain | rfl
      · exact forest.node_not_head other otherIsHead member inChain
      · exact nodeNotHead
    · rw [update_of_ne otherEq] at memberMem
      exact forest.node_not_head other otherIsHead member memberMem
  node_ne_null other otherIsHead := by
    by_cases otherEq : other = head
    · subst otherEq
      rw [update_self, mem_append, mem_singleton, not_or]
      exact ⟨forest.node_ne_null other otherIsHead, Ne.symm nodeNe⟩
    · rw [update_of_ne otherEq]
      exact forest.node_ne_null other otherIsHead

/-- Unlinking a node: its predecessor is redirected to its successor, whose `prev` value becomes the
predecessor. The links of the node itself are free. -/
theorem unlink (forest : Forest next prev null IsHead chain) {front back : List α}
    (isHead : IsHead head) (split : chain head = front ++ node :: back)
    (nextPred : next' (front.getLastD head) = back.headD null)
    (nextOther : ∀ other, other ≠ node → other ≠ front.getLastD head →
      next' other = next other)
    (prevSucc : ∀ succ ∈ back.head?, prev' succ = front.getLastD head)
    (prevOther : ∀ other, other ≠ node → other ∉ back.head? → prev' other = prev other) :
    Forest next' prev' null IsHead (Function.update chain head (front ++ back)) := by
  have nodes := forest.nodup head isHead
  rw [split, List.nodup_middle, List.nodup_cons, List.mem_append, not_or] at nodes
  obtain ⟨⟨notFront, notBack⟩, rest⟩ := nodes
  have sub : ∀ member ∈ front ++ back, member ∈ chain head := by
    intro member memberMem
    rw [split]
    exact (List.Sublist.refl front).append (List.sublist_cons_self node back) |>.subset memberMem
  have notHead : ¬IsHead node := forest.node_not_head head isHead node (by simp [split])
  have predSplit : chain head = front ++ (node :: back) := split
  have frontPath := (path_append_cons.mp (split ▸ forest.path head isHead)).1
  have backOfPath := (path_append_cons.mp (split ▸ forest.path head isHead)).2
  have backs := backPath_append_cons.mp (split ▸ forest.backPath head isHead)
  have headNotFront : head ∉ front :=
    fun inFront => forest.head_notMem isHead (sub head (List.mem_append_left _ inFront))
  have headNotBack : head ∉ back :=
    fun inBack => forest.head_notMem isHead (sub head (List.mem_append_right _ inBack))
  have frontNodup : (head :: front).Nodup :=
    List.nodup_cons.mpr ⟨headNotFront, (List.nodup_append'.mp rest).1⟩
  have nodeNeMember : ∀ member ∈ head :: front, member ≠ node := by
    rintro member memberMem rfl
    rcases List.mem_cons.mp memberMem with rfl | inFront
    · exact notHead isHead
    · exact notFront inFront
  have predNotBack : front.getLastD head ∉ back := by
    intro inBack
    rcases List.mem_cons.mp (getLastD_mem head front) with isStart | inFront
    · exact headNotBack (isStart ▸ inBack)
    · exact (List.nodup_append'.mp rest).2.2 inFront inBack
  -- The front keeps its links but for its last node, the back keeps all of them.
  have frontNext : Path next' head front (back.headD null) :=
    frontPath.retarget frontNodup nextPred
      (fun member memberMem notLast =>
        nextOther member (nodeNeMember member memberMem) notLast)
  have newPath : Path next' head (front ++ back) null := by
    cases back with
    | nil => simpa using frontNext
    | cons succ others =>
        rw [path_append_cons]
        refine ⟨by simpa using frontNext, (path_cons.mp backOfPath).2.congr ?_⟩
        intro member memberMem
        refine nextOther member ?_ ?_
        · rintro rfl
          exact notBack memberMem
        · rintro rfl
          exact predNotBack memberMem
  have newBackPath : BackPath prev' head (front ++ back) := by
    have frontPrev : BackPath prev' head front := by
      refine backs.1.congr ?_
      intro member memberMem
      refine prevOther member (nodeNeMember member (List.mem_cons_of_mem _ memberMem)) ?_
      intro isSucc
      exact (List.nodup_append'.mp rest).2.2 memberMem (List.mem_of_mem_head? isSucc)
    cases back with
    | nil => simpa using frontPrev
    | cons succ others =>
        rw [backPath_append_cons]
        refine ⟨frontPrev, prevSucc succ rfl, (backPath_cons.mp backs.2.2).2.congr ?_⟩
        intro member memberMem
        refine prevOther member ?_ ?_
        · rintro rfl
          exact notBack (List.mem_cons_of_mem _ memberMem)
        · simp only [List.head?_cons, Option.mem_def, Option.some.injEq]
          rintro rfl
          exact (List.nodup_cons.mp (List.nodup_append'.mp rest).2.1).1 memberMem
  have otherChain : ∀ other, IsHead other → other ≠ head → ∀ member ∈ chain other,
      member ≠ node ∧ member ∉ front ++ back := by
    intro other otherIsHead otherNe member memberMem
    have away := forest.disjoint other head otherIsHead isHead otherNe memberMem
    constructor
    · rintro rfl
      exact away (by simp [split])
    · intro inChain
      exact away (sub member inChain)
  refine ⟨?_, ?_, ?_, ?_, ?_, ?_⟩
  · intro other otherIsHead
    by_cases otherEq : other = head
    · subst otherEq
      rwa [update_self]
    · rw [update_of_ne otherEq]
      refine (forest.path other otherIsHead).congr ?_
      intro member memberMem
      refine nextOther member ?_ ?_
      · rintro rfl
        rcases List.mem_cons.mp memberMem with rfl | inChain
        · exact notHead otherIsHead
        · exact (otherChain other otherIsHead otherEq member inChain).1 rfl
      · rintro rfl
        exact forest.last_notMem_other isHead otherIsHead (Ne.symm otherEq) predSplit rfl
          memberMem
  · intro other otherIsHead
    by_cases otherEq : other = head
    · subst otherEq
      rwa [update_self]
    · rw [update_of_ne otherEq]
      refine (forest.backPath other otherIsHead).congr ?_
      intro member memberMem
      have away := otherChain other otherIsHead otherEq member memberMem
      refine prevOther member away.1 ?_
      intro isSucc
      exact away.2 (List.mem_append_right _ (List.mem_of_mem_head? isSucc))
  · intro other otherIsHead
    by_cases otherEq : other = head
    · subst otherEq
      rwa [update_self]
    · rw [update_of_ne otherEq]
      exact forest.nodup other otherIsHead
  · intro first second firstIsHead secondIsHead firstNe
    by_cases firstEq : first = head
    · subst firstEq
      rw [update_self, update_of_ne (Ne.symm firstNe)]
      intro member inNew inSecond
      exact (otherChain second secondIsHead (Ne.symm firstNe) member inSecond).2 inNew
    · rw [update_of_ne firstEq]
      by_cases secondEq : second = head
      · subst secondEq
        rw [update_self]
        intro member inFirst
        exact (otherChain first firstIsHead firstEq member inFirst).2
      · rw [update_of_ne secondEq]
        exact forest.disjoint first second firstIsHead secondIsHead firstNe
  · intro other otherIsHead member memberMem
    by_cases otherEq : other = head
    · subst otherEq
      rw [update_self] at memberMem
      exact forest.node_not_head other otherIsHead member (sub member memberMem)
    · rw [update_of_ne otherEq] at memberMem
      exact forest.node_not_head other otherIsHead member memberMem
  · intro other otherIsHead
    by_cases otherEq : other = head
    · subst otherEq
      rw [update_self]
      exact fun nullMem => forest.node_ne_null other otherIsHead (sub null nullMem)
    · rw [update_of_ne otherEq]
      exact forest.node_ne_null other otherIsHead

end Forest

end Chain

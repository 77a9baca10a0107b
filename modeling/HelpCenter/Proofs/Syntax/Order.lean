import HelpCenter.Proofs.Except
import HelpCenter.Proofs.Syntax.Walk
import HelpCenter.Syntax.Program
import Mathlib.Data.List.Forall2
import Mathlib.Data.List.Lex
import Mathlib.Data.List.Sort
import Mathlib.Logic.Function.Iterate

/-!
# The order in which a walk meets the nodes

Two nodes of a tree may look the same, so a node is told from the others by the way that leads down
to it: which child to take, step after step.  Ways are ordered as words are in a dictionary, which
puts a node before those below it and what is further left before what is further right.  The loop
of a walk takes one round for each node (`iterate_round_eq_nil_iff`), and it meets the nodes just
once, ordered by their ways (`lists_walk`); a search keeps those of the kinds that are looked for
(`Lists.filter`).  Where the parts of nodes lie one behind the other, this is the order in which
they begin in the text (`Node.IsLaidOut.pairwise_walk`).
-/

namespace HelpCenter.Syntax

/-! ## Trees -/

namespace Node

variable {n c m : Node}

theorem size_pos (n : Node) : 0 < n.size := by
  rw [size_eq]
  omega

theorem size_lt_of_mem (hc : c ∈ n.children) : c.size < n.size := by
  obtain ⟨before, after, heq⟩ := List.append_of_mem hc
  rw [size_eq n, heq, sizeAll_append, sizeAll]
  omega

/-- What passes from the children of a node on to the node holds of all nodes. -/
@[elab_as_elim]
theorem induction_on {motive : Node → Prop} (n : Node)
    (step : ∀ n : Node, (∀ c ∈ n.children, motive c) → motive n) : motive n :=
  step n fun c _ => induction_on c step
termination_by n.size
decreasing_by exact size_lt_of_mem ‹_›

theorem preorderAll_eq_flatMap (ns : List Node) : preorderAll ns = ns.flatMap preorder := by
  induction ns with
  | nil => rfl
  | cons n ns ih => rw [preorderAll, ih, List.flatMap_cons]

theorem walk_eq_cons (n : Node) : n.walk = n :: n.children.flatMap walk := by
  have heq : walk = preorder := funext walk_eq_preorder
  rw [heq, preorder_eq, preorderAll_eq_flatMap]

theorem walk_subset_of_mem (hc : c ∈ n.children) : c.walk ⊆ n.walk := by
  intro m hm
  rw [walk_eq_cons n]
  exact List.mem_cons_of_mem _ (List.mem_flatMap.2 ⟨c, hc, hm⟩)

end Node

/-! ## The rounds of the loop -/

namespace Visit

variable {v w a : Visit} {way : List ℕ}

/-- One round of the loop: what is on top of the stack is met, and its children take its place. -/
def round : List Visit → List Visit
  | [] => []
  | v :: stack => v.inside ++ stack

theorem sizeAll_round (stack : List Visit) :
    Node.sizeAll ((round stack).map node) = Node.sizeAll (stack.map node) - 1 := by
  cases stack with
  | nil => rfl
  | cons v stack =>
      rw [round, List.map_append, map_node_inside, Node.sizeAll_append, List.map_cons, Node.sizeAll,
        Node.size_eq]
      omega

theorem sizeAll_eq_zero_iff : Node.sizeAll (stack.map node) = 0 ↔ stack = [] := by
  cases stack with
  | nil => simp [Node.sizeAll]
  | cons v stack =>
      have := v.node.size_pos
      simp only [List.map_cons, Node.sizeAll, reduceCtorEq, iff_false]
      omega

/-- Each round is for one node, so the loop ends after as many as there are nodes. -/
theorem iterate_round_eq_nil_iff (k : ℕ) (stack : List Visit) :
    round^[k] stack = [] ↔ Node.sizeAll (stack.map node) ≤ k := by
  induction k generalizing stack with
  | zero => rw [Function.iterate_zero_apply, Nat.le_zero, sizeAll_eq_zero_iff]
  | succ k ih =>
      rw [Function.iterate_succ_apply, ih, sizeAll_round]
      omega

/-- What is met in a round is what is on top of the stack then. -/
theorem getElem?_walk (k : ℕ) (stack : List Visit) :
    (walk stack)[k]? = (round^[k] stack).head? := by
  induction k generalizing stack with
  | zero => cases stack <;> simp [walk]
  | succ k ih =>
      rw [Function.iterate_succ_apply, ← ih]
      cases stack <;> simp [walk, round]

/-! ## A walk as a traversal from left to right -/

theorem walk_append (stack more : List Visit) : walk (stack ++ more) = walk stack ++ walk more := by
  fun_induction walk stack with
  | case1 => rfl
  | case2 v stack ih => rw [List.cons_append, walk, ← List.append_assoc, ih, List.cons_append]

theorem walk_eq_flatMap (stack : List Visit) : walk stack = stack.flatMap fun v => walk [v] := by
  induction stack with
  | nil => rw [walk, List.flatMap_nil]
  | cons v stack ih => rw [← List.singleton_append, walk_append, ih, List.flatMap_append,
      List.flatMap_singleton]

theorem walk_singleton (v : Visit) : walk [v] = v :: v.inside.flatMap fun w => walk [w] := by
  rw [walk, List.append_nil, walk_eq_flatMap]

/-! ## Ways down -/

/-- Where a way leads from a visit: which child to take, step after step. -/
def at? (v : Visit) : List ℕ → Option Visit
  | [] => some v
  | i :: way => v.inside[i]?.bind (·.at? way)

theorem at?_cons_eq_some_iff {i : ℕ} : v.at? (i :: way) = some w ↔
    ∃ c, v.node.children[i]? = some c ∧ at? ⟨c, v.chain⟩ way = some w := by
  rw [at?, inside, List.getElem?_map, Option.bind_map, Option.bind_eq_some_iff]
  rfl

theorem reaches_iff_exists_at? : v.Reaches w ↔ ∃ way, v.at? way = some w := by
  constructor
  · intro h
    induction h using Relation.ReflTransGen.head_induction_on with
    | refl => exact ⟨[], rfl⟩
    | @head v c hlead _ ih =>
        obtain ⟨haround, hc⟩ := leads_iff.1 hlead
        obtain ⟨i, hi⟩ := List.mem_iff_getElem?.1 hc
        obtain ⟨way, hway⟩ := ih
        exact ⟨i :: way, at?_cons_eq_some_iff.2 ⟨_, hi, haround ▸ hway⟩⟩
  · rintro ⟨way, hway⟩
    induction way generalizing v with
    | nil =>
        obtain rfl := Option.some.inj hway
        exact .refl
    | cons i way ih =>
        obtain ⟨c, hc, hway⟩ := at?_cons_eq_some_iff.1 hway
        exact .head (leads_iff.2 ⟨rfl, List.mem_of_getElem? hc⟩) (ih hway)

theorem at?_append (way more : List ℕ) : v.at? (way ++ more) = (v.at? way).bind (·.at? more) := by
  induction way generalizing v with
  | nil => rfl
  | cons i way ih =>
      rw [List.cons_append, at?, at?, Option.bind_assoc]
      simp only [ih]

theorem exists_chain_eq (h : v.at? way = some w) :
    ∃ between, w.chain = between ++ v.chain ∧ between.length = way.length := by
  induction way generalizing v with
  | nil =>
      obtain rfl := Option.some.inj h
      exact ⟨[], rfl, rfl⟩
  | cons i way ih =>
      obtain ⟨c, hc, hway⟩ := at?_cons_eq_some_iff.1 h
      obtain ⟨between, heq, hlength⟩ := ih hway
      refine ⟨between ++ [c], ?_, by simp [hlength]⟩
      rw [heq, chain, List.append_assoc, List.singleton_append]

theorem eq_of_chain_eq (h : v.chain = w.chain) : v = w := by
  obtain ⟨n, around⟩ := v
  obtain ⟨m, around'⟩ := w
  obtain ⟨rfl, rfl⟩ := List.cons.inj h
  rfl

/-- The way to what is around a visit is the front of the way to it. -/
theorem exists_way_above (h : v.at? way = some w) (ha : v.Reaches a) (habove : a.chain <:+ w.around) :
    ∃ way', way' <+: way ∧ way' ≠ way ∧ v.at? way' = some a := by
  obtain ⟨wayOfA, hwayOfA⟩ := reaches_iff_exists_at?.1 ha
  obtain ⟨_, hchainOfA, hlengthOfA⟩ := exists_chain_eq hwayOfA
  obtain ⟨_, hchain, hlength⟩ := exists_chain_eq h
  have hchain' := congrArg List.length hchain
  have hchainOfA' := congrArg List.length hchainOfA
  have hshorter := habove.length_le
  simp only [List.length_append, chain, List.length_cons] at hchain' hchainOfA' hshorter
  have hlt : wayOfA.length < way.length := by omega
  obtain ⟨b, hb, hdown⟩ : ∃ b, v.at? (way.take wayOfA.length) = some b ∧
      b.at? (way.drop wayOfA.length) = some w := by
    rw [← List.take_append_drop wayOfA.length way, at?_append] at h
    exact Option.bind_eq_some_iff.1 h
  refine ⟨way.take wayOfA.length, List.take_prefix _ _, fun heq => ?_, hb.trans (congrArg _ ?_)⟩
  · have := congrArg List.length heq
    rw [List.length_take] at this
    omega
  · obtain ⟨_, hchainOfB, hlengthOfB⟩ := exists_chain_eq hb
    obtain ⟨_, hchainBelow, -⟩ := exists_chain_eq hdown
    have hlengths : b.chain.length = a.chain.length := by
      rw [hchainOfB, hchainOfA, List.length_append, List.length_append, hlengthOfB, hlengthOfA,
        List.length_take, Nat.min_eq_left hlt.le]
    have hsuffix : a.chain <:+ w.chain := habove.trans (List.suffix_cons _ _)
    exact eq_of_chain_eq ((List.suffix_of_suffix_length_le ⟨_, hchainBelow.symm⟩ hsuffix
      hlengths.le).eq_of_length hlengths)

end Visit

/-! ## All ways in their order -/

namespace Node

variable {n : Node} {way : List ℕ}

mutual

/-- The ways to the nodes of a tree from left to right. -/
def ways : Node → List (List ℕ)
  | ⟨_, _, _, _, _, children⟩ => [] :: waysAll 0 children

/-- The ways to the nodes of several trees, the first of which is reached by the step `i`. -/
def waysAll : (i : ℕ) → List Node → List (List ℕ)
  | _, [] => []
  | i, n :: rest => n.ways.map (i :: ·) ++ waysAll (i + 1) rest

end

theorem waysAll_eq (i : ℕ) (ns : List Node) :
    waysAll i ns = (ns.zipIdx i).flatMap fun c => c.1.ways.map (c.2 :: ·) := by
  induction ns generalizing i with
  | nil => rfl
  | cons n ns ih => rw [waysAll, ih, List.zipIdx_cons, List.flatMap_cons]

theorem ways_eq (n : Node) :
    n.ways = [] :: n.children.zipIdx.flatMap fun c => c.1.ways.map (c.2 :: ·) := by
  cases n
  rw [ways, waysAll_eq]

theorem mem_ways_iff (around : List Node) :
    way ∈ n.ways ↔ ∃ w, Visit.at? ⟨n, around⟩ way = some w := by
  induction way generalizing n around with
  | nil =>
      rw [ways_eq]
      exact iff_of_true List.mem_cons_self ⟨_, rfl⟩
  | cons i way ih =>
      rw [ways_eq, List.mem_cons, or_iff_right (List.cons_ne_nil _ _), List.mem_flatMap]
      constructor
      · rintro ⟨⟨c, j⟩, hc, hmem⟩
        obtain ⟨_, hway, heq⟩ := List.mem_map.1 hmem
        obtain ⟨rfl, rfl⟩ := List.cons.inj heq
        obtain ⟨w, hw⟩ := (ih _).1 hway
        exact ⟨w, Visit.at?_cons_eq_some_iff.2 ⟨c, List.mem_zipIdx_iff_getElem?.1 hc, hw⟩⟩
      · rintro ⟨w, hw⟩
        obtain ⟨c, hc, hway⟩ := Visit.at?_cons_eq_some_iff.1 hw
        exact ⟨(c, i), List.mem_zipIdx_iff_getElem?.2 hc, List.mem_map_of_mem ((ih _).2 ⟨w, hway⟩)⟩

/-- The ways are those to different nodes, and they are in the order of a dictionary. -/
theorem pairwise_ways (n : Node) : n.ways.Pairwise (· < ·) := by
  induction n using induction_on with
  | step n ih =>
      rw [ways_eq, List.pairwise_cons, List.pairwise_flatMap]
      refine ⟨fun way hway => ?_, fun c hc => ?_, ?_⟩
      · obtain ⟨c, -, hway⟩ := List.mem_flatMap.1 hway
        obtain ⟨_, -, rfl⟩ := List.mem_map.1 hway
        exact List.nil_lt_cons _ _
      · rw [List.pairwise_map]
        refine (ih c.1 (List.fst_mem_of_mem_zipIdx hc)).imp fun hlt => ?_
        exact List.cons_lt_cons_iff.2 (.inr ⟨rfl, hlt⟩)
      · have hsteps : n.children.zipIdx.Pairwise fun c d => c.2 < d.2 := by
          rw [← List.pairwise_map, List.zipIdx_map_snd]
          exact List.pairwise_lt_range'
        refine hsteps.imp fun hlt way hway way' hway' => ?_
        obtain ⟨_, -, rfl⟩ := List.mem_map.1 hway
        obtain ⟨_, -, rfl⟩ := List.mem_map.1 hway'
        exact List.cons_lt_cons_iff.2 (.inl hlt)

end Node

/-! ## What is listed in order -/

namespace Visit

variable {v w a : Visit} {wanted : Node → Prop} {met met' before after : List Visit}

/-- The ways lead to the visits that a walk meets, one after the other. -/
theorem forall₂_walk (n : Node) (around : List Node) :
    List.Forall₂ (fun way w => at? ⟨n, around⟩ way = some w) n.ways (walk [⟨n, around⟩]) := by
  induction n using Node.induction_on generalizing around with
  | step n ih =>
      have hinside : (inside ⟨n, around⟩).flatMap (fun w => walk [w]) =
          n.children.zipIdx.flatMap fun c => walk [⟨c.1, n :: around⟩] := by
        rw [inside, List.flatMap_map]
        conv_lhs => rw [← List.zipIdx_map_fst 0 n.children, List.flatMap_map]
      rw [Node.ways_eq, walk_singleton, hinside]
      refine .cons rfl (List.rel_flatMap (R := fun c d => c = d ∧ c ∈ n.children.zipIdx)
        (List.forall₂_same.2 fun c hc => ⟨rfl, hc⟩) ?_)
      rintro c _ ⟨rfl, hc⟩
      rw [List.forall₂_map_left_iff]
      exact (ih c.1 (List.fst_mem_of_mem_zipIdx hc) (n :: around)).imp fun way w hw =>
        at?_cons_eq_some_iff.2 ⟨c.1, List.mem_zipIdx_iff_getElem?.1 hc, hw⟩

/-- What is wanted at a visit and below it has been met: at each way that leads to something wanted
once, and in the order of the ways. -/
def Lists (v : Visit) (wanted : Node → Prop) (met : List Visit) : Prop :=
  ∃ ways : List (List ℕ), ways.Pairwise (· < ·) ∧
    (∀ way, way ∈ ways ↔ ∃ w, v.at? way = some w ∧ wanted w.node) ∧
    List.Forall₂ (fun way w => v.at? way = some w) ways met

theorem lists_walk (v : Visit) : v.Lists (fun _ => True) (walk [v]) :=
  ⟨v.node.ways, v.node.pairwise_ways, fun way => by simp [Node.mem_ways_iff v.around],
    forall₂_walk v.node v.around⟩

/-- A search in what has been met lists what is looked for. -/
theorem Lists.filter (h : v.Lists wanted met) (p : Node → Bool) :
    v.Lists (fun n => wanted n ∧ p n = true) (met.filter fun w => p w.node) := by
  obtain ⟨ways, hsorted, hmem, hmet⟩ := h
  refine ⟨ways.filter fun way => (v.at? way).any fun w => p w.node, hsorted.filter _,
    fun way => ?_, List.rel_filter (fun way w hw => by simp [hw]) hmet⟩
  rw [List.mem_filter, hmem]
  constructor
  · rintro ⟨⟨w, hw, hwanted⟩, hp⟩
    rw [hw, Option.any_some] at hp
    exact ⟨w, hw, hwanted, hp⟩
  · rintro ⟨w, hw, hwanted, hp⟩
    exact ⟨⟨w, hw, hwanted⟩, by rw [hw, Option.any_some, hp]⟩

/-- There is just one list of what is wanted. -/
theorem Lists.unique (h : v.Lists wanted met) (h' : v.Lists wanted met') : met = met' := by
  obtain ⟨ways, hsorted, hmem, hmet⟩ := h
  obtain ⟨ways', hsorted', hmem', hmet'⟩ := h'
  obtain rfl : ways = ways' :=
    hsorted.eq_of_mem_iff hsorted' fun way => (hmem way).trans (hmem' way).symm
  exact List.right_unique_forall₂' (fun _ _ _ hw hw' => Option.some.inj (hw.symm.trans hw')) hmet hmet'

/-- What is around a visit has been met before it. -/
theorem mem_before_of_above (h : walk [v] = before ++ w :: after) (ha : v.Reaches a)
    (habove : a.chain <:+ w.around) : a ∈ before := by
  obtain ⟨ways, hsorted, hmem, hmet⟩ := lists_walk v
  rw [h] at hmet
  have hbefore := List.forall₂_take_append _ _ _ hmet
  obtain ⟨way, waysAfter, hw, -, hdrop⟩ :=
    List.forall₂_cons_right_iff.1 (List.forall₂_drop_append _ _ _ hmet)
  obtain ⟨way', hprefix, hne, ha'⟩ := exists_way_above hw ha habove
  have hlt : way' < way := by
    obtain ⟨more, rfl⟩ := hprefix
    exact lt_of_le_of_ne (not_lt.1 List.le_append_left) hne
  -- the ways after that to `w` come after it in the dictionary, and the one to `a` does not
  have hway' : way' ∈ ways.take before.length := by
    have hways' := (hmem way').2 ⟨a, ha', trivial⟩
    rw [← List.take_append_drop before.length ways, hdrop] at hsorted hways'
    rcases List.mem_append.1 hways' with hbefore | hafter
    · exact hbefore
    · rcases List.mem_cons.1 hafter with rfl | hafter
      · exact absurd rfl hne
      · have hlater := List.rel_of_pairwise_cons (List.pairwise_append.1 hsorted).2.1 hafter
        exact absurd (hlt.trans hlater) (lt_irrefl _)
  obtain ⟨i, hi⟩ := List.mem_iff_getElem?.1 hway'
  obtain ⟨b, hb, hab⟩ := hbefore.exists_getElem? hi
  rw [Option.some.inj (ha'.symm.trans hab)]
  exact List.mem_of_getElem? hb

end Visit

/-! ## The order of the text -/

namespace Node

variable {n m c : Node}

/-- The text behind a node. -/
def behind (n : Node) : Text := n.front.drop n.length

/-- The parts of each node lie in it, one behind the other. -/
structure IsLaidOut (tree : Node) : Prop where
  within : ∀ n ∈ tree.walk, ∀ c ∈ n.children, c.front <:+ n.front ∧ n.behind <:+ c.behind
  apart : ∀ n ∈ tree.walk, n.children.Pairwise fun c d => d.front <:+ c.behind

instance (tree : Node) : Decidable tree.IsLaidOut :=
  decidable_of_iff (_ ∧ _) ⟨fun h => ⟨h.1, h.2⟩, fun h => ⟨h.within, h.apart⟩⟩

theorem IsLaidOut.of_mem (h : n.IsLaidOut) (hc : c ∈ n.children) : c.IsLaidOut :=
  ⟨fun m hm => h.within m (walk_subset_of_mem hc hm), fun m hm => h.apart m (walk_subset_of_mem hc hm)⟩

/-- A node of a tree begins in the text of the tree and ends there. -/
theorem IsLaidOut.front_behind (h : n.IsLaidOut) (hm : m ∈ n.walk) :
    m.front <:+ n.front ∧ n.behind <:+ m.behind := by
  induction n using induction_on with
  | step n ih =>
      rw [walk_eq_cons, List.mem_cons, List.mem_flatMap] at hm
      obtain rfl | ⟨c, hc, hm⟩ := hm
      · exact ⟨List.suffix_rfl, List.suffix_rfl⟩
      · obtain ⟨hfront, hbehind⟩ := h.within n (mem_walk_self n) c hc
        obtain ⟨hfront', hbehind'⟩ := ih c hc (h.of_mem hc) hm
        exact ⟨hfront'.trans hfront, hbehind.trans hbehind'⟩

/-- A walk meets the nodes in the order in which they begin. -/
theorem IsLaidOut.pairwise_walk (h : n.IsLaidOut) :
    n.walk.Pairwise fun a b => b.front <:+ a.front := by
  induction n using induction_on with
  | step n ih =>
      have hself := mem_walk_self n
      rw [walk_eq_cons, List.pairwise_cons, List.pairwise_flatMap]
      refine ⟨fun m hm => ?_, fun c hc => ih c hc (h.of_mem hc), ?_⟩
      · exact (h.front_behind (walk_eq_cons n ▸ List.mem_cons_of_mem _ hm)).1
      · refine List.Pairwise.imp_of_mem (fun {c d} hc hd hapart a ha b hb => ?_) (h.apart n hself)
        have hbefore := ((h.of_mem hc).front_behind ha).2
        have hafter := ((h.of_mem hd).front_behind hb).1
        exact hafter.trans (hapart.trans (hbefore.trans (List.drop_suffix _ _)))

end Node

/-- A walk from any node ends after one round for each node of its tree.  It is the traversal of the
tree from left to right: it meets all nodes, each once, and a search yields those of the kinds that
are looked for, in the same order.  What is around a node is met before it, and the nodes come as
they begin in the text. -/
theorem walk_in_order (v : Visit) (kinds : List Kind) :
    (∀ k, Visit.round^[k] [v] = [] ↔ v.node.size ≤ k) ∧
    (∀ k, (Visit.walk [v])[k]? = (Visit.round^[k] [v]).head?) ∧
    (Visit.walk [v]).map Visit.node = v.node.walk ∧ v.node.walk = v.node.preorder ∧
    (∀ met, v.Lists (fun _ => True) met ↔ met = Visit.walk [v]) ∧
    (∃ found, v.Lists (·.kind ∈ kinds) found ∧ found.Sublist (Visit.walk [v]) ∧
      found.map Visit.node = v.node.find kinds) ∧
    (∀ before w after, Visit.walk [v] = before ++ w :: after →
      ∀ a, v.Reaches a → a.chain <:+ w.around → a ∈ before) ∧
    (v.node.IsLaidOut → (v.node.find kinds).Pairwise fun a b => b.front <:+ a.front) := by
  have hfound : v.Lists (·.kind ∈ kinds)
      ((Visit.walk [v]).filter fun w => w.node.isOneOf kinds) := by
    simpa [Node.isOneOf] using v.lists_walk.filter (Node.isOneOf kinds)
  have hnodes : (Visit.walk [v]).map Visit.node = v.node.preorder := by
    rw [Node.map_node_walk, List.map_cons, List.map_nil, Node.preorderAll, Node.preorderAll,
      List.append_nil]
  refine ⟨fun k => ?_, fun k => Visit.getElem?_walk k [v], ?_, v.node.walk_eq_preorder,
    fun met => ⟨fun h => h.unique v.lists_walk, fun h => h ▸ v.lists_walk⟩,
    ⟨_, hfound, List.filter_sublist, ?_⟩,
    fun before w after h a ha habove => Visit.mem_before_of_above h ha habove,
    fun h => h.pairwise_walk.filter _⟩
  · rw [Visit.iterate_round_eq_nil_iff, List.map_cons, Node.sizeAll]
    simp [Node.sizeAll]
  · rw [hnodes, Node.walk_eq_preorder]
  · rw [Node.find, Node.walk_eq_preorder, ← hnodes, List.filter_map]
    rfl

/-- The tree of a source with elements in one another and behind one another. -/
def nestedTree : Node :=
  (Program.ofText .tsx (lit "const a = <ul><li><b /></li><i>Two</i></ul>;\n")).tree

theorem walk_in_order_nested : nestedTree.IsLaidOut ∧
    (nestedTree.find [.openingElement, .selfClosingElement]).map Node.tagName =
      [lit "ul", lit "li", lit "b", lit "i"] ∧
    (nestedTree.find [.openingElement, .selfClosingElement]).Pairwise
      fun a b => b.front <:+ a.front := by
  have hlaid : nestedTree.IsLaidOut := by decide +kernel
  obtain ⟨-, -, -, -, -, -, -, htext⟩ :=
    walk_in_order ⟨nestedTree, []⟩ [.openingElement, .selfClosingElement]
  exact ⟨hlaid, by decide +kernel, htext hlaid⟩

end HelpCenter.Syntax

import HelpCenter.Syntax.Node
import Mathlib.Logic.Relation

/-!
# What a walk through a tree meets

The visits of a walk are the places that are reached from the top by going from a node to one of its
children (`mem_visits_iff`).  So the nodes around a visited one have been visited themselves
(`mem_visits_of_suffix`), and whatever is met below a node belongs to its own tree
(`mem_walk_of_suffix`).  The walk keeps a stack, yet it meets the nodes in the order of the text
(`walk_eq_preorder`).
-/

namespace HelpCenter.Syntax

namespace Visit

/-- A node with those around it, the nearest one first. -/
def chain (v : Visit) : List Node := v.node :: v.around

/-- Going from a visit to one of a child. -/
def Leads (v w : Visit) : Prop := w ∈ v.inside

/-- A visit lies below another one or is the same. -/
abbrev Reaches : Visit → Visit → Prop := Relation.ReflTransGen Leads

variable {v w : Visit} {stack : List Visit}

theorem leads_iff : v.Leads w ↔ w.around = v.chain ∧ w.node ∈ v.node.children := by
  unfold Leads inside
  rw [List.mem_map]
  constructor
  · rintro ⟨c, hc, rfl⟩
    exact ⟨rfl, hc⟩
  · rintro ⟨haround, hnode⟩
    exact ⟨w.node, hnode, by rw [← chain, ← haround]⟩

theorem reaches_iff : v.Reaches w ↔ w = v ∨ ∃ x ∈ v.inside, x.Reaches w := by
  refine Relation.ReflTransGen.cases_head_iff.trans ?_
  rw [eq_comm]
  rfl

theorem mem_walk_iff : w ∈ walk stack ↔ ∃ v ∈ stack, v.Reaches w := by
  fun_induction walk stack with
  | case1 => simp
  | case2 v stack ih =>
      simp only [List.mem_cons, ih, List.mem_append, or_and_right, exists_or, exists_eq_left]
      rw [← or_assoc, reaches_iff]

/-- What is reached from a node does not depend on what is around it. -/
theorem Reaches.elsewhere (h : v.Reaches w) (v' : Visit) (hnode : v'.node = v.node) :
    ∃ w', v'.Reaches w' ∧ w'.node = w.node := by
  induction h with
  | refl => exact ⟨v', .refl, hnode⟩
  | tail _ hlast ih =>
      obtain ⟨x', hx', hnode'⟩ := ih
      obtain ⟨-, hchild⟩ := leads_iff.1 hlast
      exact ⟨⟨_, x'.chain⟩, hx'.tail (leads_iff.2 ⟨rfl, hnode' ▸ hchild⟩), rfl⟩

end Visit

namespace Node

variable {tree n m : Node} {around before : List Node} {v : Visit}

theorem mem_visits_iff : v ∈ tree.visits ↔ Visit.Reaches ⟨tree, []⟩ v := by
  simp [visits, Visit.mem_walk_iff]

theorem mem_walk_iff : m ∈ n.walk ↔ ∃ v, Visit.Reaches ⟨n, []⟩ v ∧ v.node = m := by
  simp only [walk, List.mem_map, mem_visits_iff]

/-- The node right around a visited one has been visited. -/
theorem mem_visits_of_cons (h : v ∈ tree.visits) (haround : v.around = n :: around) :
    ⟨n, around⟩ ∈ tree.visits ∧ Visit.Leads ⟨n, around⟩ v := by
  rw [mem_visits_iff] at h ⊢
  obtain rfl | ⟨w, hw, hlast⟩ := h.cases_tail
  · cases haround
  · have heq := (Visit.leads_iff.1 hlast).1
    rw [haround] at heq
    obtain ⟨rfl, rfl⟩ := List.cons.inj heq
    exact ⟨hw, hlast⟩

theorem mem_visits_of_child (h : v ∈ tree.visits) (hn : n ∈ v.node.children) :
    ⟨n, v.chain⟩ ∈ tree.visits :=
  mem_visits_iff.2 ((mem_visits_iff.1 h).tail (Visit.leads_iff.2 ⟨rfl, hn⟩))

theorem reaches_of_append (h : v ∈ tree.visits) (haround : v.around = before ++ n :: around) :
    ⟨n, around⟩ ∈ tree.visits ∧ Visit.Reaches ⟨n, around⟩ v := by
  induction before generalizing v with
  | nil => exact (mem_visits_of_cons h haround).imp_right .single
  | cons m before ih =>
      obtain ⟨hm, hlast⟩ := mem_visits_of_cons h haround
      exact (ih hm rfl).imp_right fun hreaches => hreaches.tail hlast

theorem mem_visits_of_suffix (h : v ∈ tree.visits) (haround : n :: around <:+ v.around) :
    ⟨n, around⟩ ∈ tree.visits := by
  obtain ⟨before, heq⟩ := haround
  exact (reaches_of_append h heq.symm).1

theorem mem_walk_of_visit (h : v ∈ tree.visits) : v.node ∈ tree.walk := List.mem_map_of_mem h

theorem mem_walk_self (n : Node) : n ∈ n.walk := mem_walk_iff.2 ⟨⟨n, []⟩, .refl, rfl⟩

theorem mem_walk_of_child (h : n ∈ tree.walk) (hm : m ∈ n.children) : m ∈ tree.walk := by
  obtain ⟨v, hv, rfl⟩ := List.mem_map.1 h
  exact mem_walk_of_visit (mem_visits_of_child hv hm)

/-- What is met below a node belongs to the tree of that node. -/
theorem mem_walk_of_suffix (h : v ∈ tree.visits) (haround : n :: around <:+ v.around) :
    v.node ∈ n.walk := by
  obtain ⟨before, heq⟩ := haround
  obtain ⟨w, hw, hnode⟩ := (reaches_of_append h heq.symm).2.elsewhere ⟨n, []⟩ rfl
  exact mem_walk_iff.2 ⟨w, hw, hnode⟩

/-! ## The order of the text -/

mutual

/-- The nodes of a tree in the order of the text: a node, then what stands in its children. -/
def preorder : Node → List Node
  | ⟨kind, role, front, length, row, children⟩ =>
      ⟨kind, role, front, length, row, children⟩ :: preorderAll children

/-- The nodes of several trees, one tree after the other. -/
def preorderAll : List Node → List Node
  | [] => []
  | n :: rest => n.preorder ++ preorderAll rest

end

theorem preorder_eq (n : Node) : n.preorder = n :: preorderAll n.children := by
  cases n
  rw [preorder]

theorem preorderAll_append (ns ms : List Node) :
    preorderAll (ns ++ ms) = preorderAll ns ++ preorderAll ms := by
  induction ns with
  | nil => rfl
  | cons n ns ih => simp [preorderAll, ih]

theorem map_node_walk (stack : List Visit) :
    (Visit.walk stack).map Visit.node = preorderAll (stack.map Visit.node) := by
  fun_induction Visit.walk stack with
  | case1 => rfl
  | case2 v stack ih =>
      rw [List.map_cons, ih, List.map_append, Visit.map_node_inside, preorderAll_append,
        List.map_cons, preorderAll, preorder_eq, List.cons_append]

theorem walk_eq_preorder (n : Node) : n.walk = n.preorder := by
  simp [walk, visits, map_node_walk, preorderAll]

/-! ## Nodes of some kinds -/

theorem mem_find_iff {kinds : List Kind} : m ∈ n.find kinds ↔ m ∈ n.walk ∧ m.isOneOf kinds = true :=
  List.mem_filter

theorem mem_visitsOf_iff {kinds : List Kind} :
    v ∈ n.visitsOf kinds ↔ v ∈ n.visits ∧ v.node.isOneOf kinds = true := List.mem_filter

theorem mem_find_of_visit {kinds : List Kind} (h : v ∈ n.visitsOf kinds) : v.node ∈ n.find kinds :=
  mem_find_iff.2 ((mem_visitsOf_iff.1 h).imp_left mem_walk_of_visit)

theorem kind_of_mem_find {kind : Kind} (h : m ∈ n.find [kind]) : m.kind = kind := by
  simpa [isOneOf] using (mem_find_iff.1 h).2

theorem find_subset {kind : Kind} {kinds : List Kind} (hkind : kind ∈ kinds) :
    n.find [kind] ⊆ n.find kinds := by
  intro m hm
  refine mem_find_iff.2 ⟨(mem_find_iff.1 hm).1, ?_⟩
  simpa [isOneOf, kind_of_mem_find hm] using hkind

end Node

end HelpCenter.Syntax

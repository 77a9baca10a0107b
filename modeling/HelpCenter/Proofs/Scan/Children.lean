import HelpCenter.Proofs.CodeMap.Merge
import HelpCenter.Proofs.Scan.Enclosure

/-!
# The children of a component

The record of a component is made from a definition, but its children are looked for in the node
that the name of the definition leads to (`Locates`): the first declared function of that name, or
what the first variable of that name is bound to where no function is declared under it.  There the
children are just the components of the file whose tags stand in the node, in the order of the text
(`children_of_components`).  A name that is borne once leads to its own definition
(`IsDefinition.locates`); one that is borne again may lead to another one.
-/

namespace HelpCenter

open Syntax

namespace SourceUnit

variable {u : SourceUnit} {name : Text} {d n place : Node}

/-! ## Finding a definition by its name -/

/-- The first one of some nodes that bears a name. -/
def IsFirstNamed (name : Text) (ns : List Node) (n : Node) : Prop :=
  ∃ before after, ns = before ++ n :: after ∧ n.childText .name = name ∧
    ∀ m ∈ before, m.childText .name ≠ name

/-- What a name leads to: the first declared function of that name, or else what the first variable
of that name is bound to. -/
inductive Locates (u : SourceUnit) (name : Text) : Node → Prop
  | declared {n : Node} (hfirst : IsFirstNamed name (u.tree.find [.functionDeclaration]) n) :
      Locates u name n
  | bound {d n : Node}
      (hdeclared : ∀ m ∈ u.tree.find [.functionDeclaration], m.childText .name ≠ name)
      (hfirst : IsFirstNamed name (u.tree.find [.variableDeclarator]) d)
      (hvalue : d.child? .value = some n) : Locates u name n

theorem find?_named_eq_some_iff {ns : List Node} :
    ns.find? (fun m => m.childText .name = name) = some n ↔ IsFirstNamed name ns n := by
  rw [List.find?_eq_some_iff_append, IsFirstNamed]
  constructor
  · rintro ⟨hname, before, after, rfl, hbefore⟩
    exact ⟨before, after, rfl, by simpa using hname, by simpa using hbefore⟩
  · rintro ⟨before, after, rfl, hname, hbefore⟩
    exact ⟨by simpa using hname, before, after, rfl, by simpa using hbefore⟩

theorem definitionOf?_eq_some_iff : u.definitionOf? name = some n ↔ u.Locates name n := by
  rw [definitionOf?]
  split
  · next m hm =>
      have hfirst := find?_named_eq_some_iff.1 hm
      constructor
      · rintro ⟨⟩
        exact .declared hfirst
      · rintro (hfirst' | ⟨hnone, -, -⟩)
        · exact hm.symm.trans (find?_named_eq_some_iff.2 hfirst')
        · obtain ⟨before, after, heq, hname, -⟩ := hfirst
          exact absurd hname (hnone m (heq ▸ by simp))
  · next hm =>
      have hnone : ∀ m ∈ u.tree.find [.functionDeclaration], m.childText .name ≠ name := by
        simpa using hm
      simp only [Option.bind_eq_some_iff, find?_named_eq_some_iff]
      constructor
      · rintro ⟨d, hfirst, hvalue⟩
        exact .bound hnone hfirst hvalue
      · rintro (⟨before, after, heq, hname, -⟩ | ⟨-, hfirst, hvalue⟩)
        · exact absurd hname (hnone n (heq ▸ by simp))
        · exact ⟨_, hfirst, hvalue⟩

/-- A node that bears a name at a place, with the function there: it is declared under the name, or
bound to a variable of the name. -/
inductive IsDefinition (u : SourceUnit) : Text → Node → Node → Prop
  | declared {n : Node} (hn : n ∈ u.tree.find [.functionDeclaration]) :
      IsDefinition u (n.childText .name) n n
  | bound {d n : Node} (hd : d ∈ u.tree.find [.variableDeclarator])
      (hvalue : d.child? .value = some n) : IsDefinition u (d.childText .name) d n

/-- No other function or variable of the source bears the name of the one at a place. -/
def IsOnlyNamed (u : SourceUnit) (place : Node) : Prop :=
  ∀ m ∈ u.tree.find [.functionDeclaration, .variableDeclarator],
    m.childText .name = place.childText .name → m = place

theorem isFirstNamed_of_only {ns : List Node} (hn : n ∈ ns)
    (honly : ∀ m ∈ ns, m.childText .name = n.childText .name → m = n) :
    IsFirstNamed (n.childText .name) ns n := by
  obtain ⟨m, hm⟩ : ∃ m, ns.find? (fun m => m.childText .name = n.childText .name) = some m :=
    Option.isSome_iff_exists.1 (List.find?_isSome.2 ⟨n, hn, decide_eq_true rfl⟩)
  have hname : m.childText .name = n.childText .name := by simpa using List.find?_some hm
  rw [honly m (List.mem_of_find?_eq_some hm) hname] at hm
  exact find?_named_eq_some_iff.1 hm

/-- A name that is borne once leads to its own definition. -/
theorem IsDefinition.locates (h : u.IsDefinition name place n) (honly : u.IsOnlyNamed place) :
    u.Locates name n := by
  have hfunctions : u.tree.find [.functionDeclaration] ⊆
      u.tree.find [.functionDeclaration, .variableDeclarator] := Node.find_subset (by simp)
  have hvariables : u.tree.find [.variableDeclarator] ⊆
      u.tree.find [.functionDeclaration, .variableDeclarator] := Node.find_subset (by simp)
  cases h with
  | declared hn =>
      exact .declared (isFirstNamed_of_only hn fun m hm => honly m (hfunctions hm))
  | bound hd hvalue =>
      refine .bound (fun m hm hname => ?_)
        (isFirstNamed_of_only hd fun m hm => honly m (hvariables hm)) hvalue
      -- a variable is no declared function
      have hkind := Node.kind_of_mem_find hm
      rw [honly m (hfunctions hm) hname, Node.kind_of_mem_find hd] at hkind
      cases hkind

/-! ## The definitions of components -/

theorem declaredDefinition?_eq_some {names : List Text} {v : Visit} {d : Definition}
    (h : declaredDefinition? names v = some d) :
    d.name = v.node.childText .name ∧ d.place = v.node ∧ d.function = v.node := by
  obtain ⟨-, ⟨⟩⟩ := Option.ite_none_right_eq_some.1 h
  exact ⟨rfl, rfl, rfl⟩

theorem boundDefinition?_eq_some {names : List Text} {v : Visit} {d : Definition}
    (h : boundDefinition? names v = some d) : d.name = v.node.childText .name ∧
      d.place = v.node ∧ v.node.child? .value = some d.function := by
  obtain ⟨value, hvalue, h⟩ := Option.bind_eq_some_iff.1 h
  obtain ⟨-, ⟨⟩⟩ := Option.ite_none_right_eq_some.1 h
  exact ⟨rfl, rfl, hvalue⟩

theorem isDefinition_of_mem {d : Definition} (h : d ∈ u.definitions) :
    u.IsDefinition d.name d.place d.function ∧ isPascalCase d.name = true := by
  simp only [definitions, List.mem_append, List.mem_filterMap] at h
  obtain ⟨v, hv, hd⟩ | ⟨v, hv, hd⟩ := h
  · obtain ⟨hname, hplace, hfunction⟩ := declaredDefinition?_eq_some hd
    rw [hfunction, hplace]
    refine ⟨hname ▸ .declared (Node.mem_find_of_visit hv), ?_⟩
    obtain ⟨-, hpascal, heq⟩ := declaredDefinition?_eq_some_iff.1 ⟨d, hd, rfl⟩
    exact heq ▸ hpascal
  · obtain ⟨hname, hplace, hvalue⟩ := boundDefinition?_eq_some hd
    rw [hplace]
    refine ⟨hname ▸ .bound (Node.mem_find_of_visit hv) hvalue, ?_⟩
    obtain ⟨-, -, -, hpascal, heq⟩ := boundDefinition?_eq_some_iff.1 ⟨d, hd, rfl, rfl⟩
    exact heq ▸ hpascal

/-! ## Their children -/

/-- The names of the tags in a node, in the order of the text. -/
def tagsIn (n : Node) : List Text :=
  (n.preorder.filter (Node.isOneOf [.openingElement, .selfClosingElement])).map Node.tagName

/-- The children of a record are the components of the source whose tags stand in a node, each one
once, in the order in which they first appear. -/
def ListsChildren (u : SourceUnit) (c : Component) (n : Node) : Prop :=
  ∃ names : List Text, c.children = names.map .str ∧
    ListsOnce ((tagsIn n).filter (· ∈ u.components.map (·.name))) names

theorem shownIn_eq {names : List Text} (h : ∀ name ∈ names, isPascalCase name = true) (n : Node) :
    shownIn names n = firstSeen ((tagsIn n).filter (· ∈ names)) := by
  rw [shownIn, tagsIn, Node.find, Node.walk_eq_preorder]
  congr 1
  refine List.filter_congr fun tag _ => ?_
  by_cases hmem : tag ∈ names
  · simp [hmem, h tag hmem]
  · simp [hmem]

theorem map_name_components (u : SourceUnit) :
    u.components.map (·.name) = u.definitions.map (·.name) := by
  simp [components, Function.comp_def]

theorem listsOnce_childComponents (h : u.Locates name n) :
    ListsOnce ((tagsIn n).filter (· ∈ u.components.map (·.name)))
      (u.childComponents name (u.definitions.map (·.name))) := by
  have hpascal : ∀ name ∈ u.definitions.map (·.name), isPascalCase name = true := by
    simp only [List.mem_map]
    rintro _ ⟨d, hd, rfl⟩
    exact (isDefinition_of_mem hd).2
  rw [childComponents, definitionOf?_eq_some_iff.2 h, Option.map_some, Option.getD_some,
    shownIn_eq hpascal, map_name_components]
  exact listsOnce_firstSeen _

/-- A record lists the components whose tags stand in the node that its name leads to, and nothing
where the name leads nowhere.  So it lists the children of its own definition if no other function
or variable bears the name. -/
theorem children_of_components (u : SourceUnit) :
    List.Forall₂ (fun c d => u.IsDefinition d.name d.place d.function ∧
        c.name = d.name ∧ c.line = d.place.line ∧
        (u.IsOnlyNamed d.place → u.ListsChildren c d.function) ∧
        (∀ n, u.Locates d.name n → u.ListsChildren c n) ∧
        ((∀ n, ¬ u.Locates d.name n) → c.children = []))
      u.components u.definitions := by
  rw [components, List.forall₂_map_left_iff, List.forall₂_same]
  intro d hd
  obtain ⟨hdefinition, -⟩ := isDefinition_of_mem hd
  refine ⟨hdefinition, rfl, rfl,
    fun honly => ⟨_, rfl, listsOnce_childComponents (hdefinition.locates honly)⟩,
    fun n hn => ⟨_, rfl, listsOnce_childComponents hn⟩, fun hnone => ?_⟩
  have hlost : u.definitionOf? d.name = none :=
    Option.eq_none_iff_forall_ne_some.2 fun n hn => hnone n (definitionOf?_eq_some_iff.1 hn)
  simp [childComponents, hlost]

/-- A component within another one, under the name of a function outside. -/
def shadowingSource : Text := lit ("function Row() \x7b return <List />; \x7d\n" ++
  "const List = () => \x7b const Row = () => <li />; return <Row />; \x7d;\n")

/-- The source as it is read. -/
def shadowingUnit : SourceUnit :=
  ⟨lit "src/a.tsx", shadowingSource, .ofText .tsx shadowingSource⟩

theorem checks_shadowingUnit : shadowingUnit.tree.IsValid ∧
    shadowingUnit.components[2]?.map (·.children.length) = some 1 ∧
    shadowingUnit.definitions[2]?.map (tagsIn ·.function) = some [lit "li"] ∧
    lit "li" ∉ shadowingUnit.components.map (·.name) := by
  decide +kernel

/-- The inner row shows nothing but an item of a list, and yet its record has the children of the
outer one. -/
theorem not_children_of_own_definition :
    ofText (lit "src/a.tsx") shadowingSource none = .ok shadowingUnit ∧
    shadowingUnit.tree.IsValid ∧
    ¬ List.Forall₂ (fun c d => shadowingUnit.ListsChildren c d.function)
      shadowingUnit.components shadowingUnit.definitions := by
  obtain ⟨hvalid, hcomponent, hdefinition, hitem⟩ := checks_shadowingUnit
  refine ⟨if_pos (by decide +kernel), hvalid, fun h => ?_⟩
  obtain ⟨c, hc, hlength⟩ := Option.map_eq_some_iff.1 hcomponent
  obtain ⟨d, hd, htags⟩ := Option.map_eq_some_iff.1 hdefinition
  obtain ⟨d', hd', names, hchildren, honce⟩ := h.exists_getElem? hc
  obtain rfl := Option.some.inj (hd.symm.trans hd')
  rw [hchildren, List.length_map] at hlength
  obtain ⟨name, hname⟩ := List.exists_mem_of_length_pos (hlength ▸ Nat.one_pos)
  have htag := (honce.mem_iff name).1 hname
  rw [htags, List.mem_filter, List.mem_singleton] at htag
  obtain ⟨rfl, hmem⟩ := htag
  exact hitem (of_decide_eq_true hmem)

end SourceUnit

end HelpCenter

import HelpCenter.Proofs.Except
import HelpCenter.Proofs.Syntax.Walk
import HelpCenter.Scan.UiText

/-!
# The component that a text stands in

The component of a text is found by climbing from its tag, the components of a source by searching
down for definitions that hold markup.  Both agree: a function around a tag holds markup, so it is a
component just if it has a name in Pascal case (`exists_mem_sites_iff`), and the climb ends at the
innermost such function (`enclosingComponent?_eq_some`).
-/

namespace HelpCenter

open Syntax

namespace Syntax

/-- The place of `v` lies within the node at `place`. -/
def Visit.Encloses (place v : Visit) : Prop := place.chain <:+ v.around

/-- What the grammar says of tags and of variables. -/
structure Node.IsValid (tree : Node) : Prop where
  /-- An opening tag belongs to an element. -/
  opening : ∀ n ∈ tree.walk, ∀ c ∈ n.children, c.kind = .openingElement → n.kind = .element
  /-- A function that stands in a declarator is its value. -/
  value : ∀ n ∈ tree.walk, n.kind = .variableDeclarator → ∀ (i : ℕ) (hi : i < n.children.length),
    n.children[i].isFunctionValue = true → n.children.findIdx? (·.role = .value) = some i

instance (tree : Node) : Decidable tree.IsValid :=
  decidable_of_iff (_ ∧ _) ⟨fun h => ⟨h.1, h.2⟩, fun h => ⟨h.opening, h.value⟩⟩

theorem Node.IsValid.child?_value {tree n c : Node} (h : tree.IsValid) (hn : n ∈ tree.walk)
    (hkind : n.kind = .variableDeclarator) (hc : c ∈ n.children)
    (hfunction : c.isFunctionValue = true) : n.child? .value = some c := by
  obtain ⟨i, hi, rfl⟩ := List.getElem_of_mem hc
  obtain ⟨_, hrole, hbefore⟩ := List.findIdx?_eq_some_iff_getElem.1 (h.value n hn hkind i hi hfunction)
  exact List.find?_eq_some_iff_getElem.2 ⟨hrole, i, hi, rfl, by simpa using hbefore⟩

end Syntax

namespace SourceUnit

/-! ## The climb -/

/-- The function at a place has a name in Pascal case: it is declared under the name, or bound to a
variable of the name. -/
inductive IsNamed : Visit → Text → Prop
  | declared {n : Node} {around : List Node} (hkind : n.kind = .functionDeclaration)
      (hname : isPascalCase (n.childText .name) = true) : IsNamed ⟨n, around⟩ (n.childText .name)
  | bound {n d : Node} {around : List Node} (hvalue : n.isFunctionValue = true)
      (hkind : d.kind = .variableDeclarator) (hname : isPascalCase (d.childText .name) = true) :
      IsNamed ⟨n, d :: around⟩ (d.childText .name)

variable {u : SourceUnit} {n : Node} {around : List Node} {v place : Visit} {name : Text}

theorem isFunctionValue_iff :
    n.isFunctionValue = true ↔ n.kind = .arrowFunction ∨ n.kind = .functionExpression := by
  simp [Node.isFunctionValue, Node.isOneOf]

theorem isNamed_declared_iff (hkind : n.kind = .functionDeclaration) :
    IsNamed ⟨n, around⟩ name ↔
      isPascalCase (n.childText .name) = true ∧ n.childText .name = name := by
  constructor
  · rintro (⟨-, hname⟩ | ⟨hvalue, -, -⟩)
    · exact ⟨hname, rfl⟩
    · simp [isFunctionValue_iff, hkind] at hvalue
  · rintro ⟨hname, rfl⟩
    exact .declared hkind hname

theorem isNamed_bound_iff (hvalue : n.isFunctionValue = true) :
    IsNamed ⟨n, around⟩ name ↔ ∃ d, around.head? = some d ∧ d.kind = .variableDeclarator ∧
      isPascalCase (d.childText .name) = true ∧ d.childText .name = name := by
  constructor
  · rintro (⟨hkind, -⟩ | ⟨-, hkind, hname⟩)
    · simp [isFunctionValue_iff, hkind] at hvalue
    · exact ⟨_, rfl, hkind, hname, rfl⟩
  · rintro ⟨d, hd, hkind, hname, rfl⟩
    obtain ⟨around, rfl⟩ := List.head?_eq_some_iff.1 hd
    exact .bound hvalue hkind hname

theorem IsNamed.isFunction (h : IsNamed place name) :
    place.node.kind = .functionDeclaration ∨ place.node.isFunctionValue = true := by
  cases h with
  | declared hkind _ => exact .inl hkind
  | bound hvalue _ _ => exact .inr hvalue

/-- The climb ends at a function with a name, and goes on from everything else. -/
theorem enclosingComponent?_cons (n : Node) (around : List Node) :
    (∃ name, IsNamed ⟨n, around⟩ name ∧ enclosingComponent? (n :: around) = some name) ∨
      (∀ name, ¬ IsNamed ⟨n, around⟩ name) ∧
        enclosingComponent? (n :: around) = enclosingComponent? around := by
  rw [enclosingComponent?]
  by_cases hkind : n.kind = .functionDeclaration
  · have hvalue : n.isFunctionValue = false := by
      simp [← Bool.not_eq_true, isFunctionValue_iff, hkind]
    by_cases hname : isPascalCase (n.childText .name) = true
    · exact .inl ⟨_, .declared hkind hname, by simp [hkind, hname]⟩
    · refine .inr ⟨fun name h => hname ((isNamed_declared_iff hkind).1 h).1, ?_⟩
      simp [hname, hvalue]
  · cases hvalue : n.isFunctionValue with
    | false =>
        refine .inr ⟨fun name h => ?_, by simp [hkind]⟩
        rcases h.isFunction with h | h
        · exact hkind h
        · simp [hvalue] at h
    | true =>
        simp only [isNamed_bound_iff hvalue, hkind, decide_false, Bool.false_and]
        cases around.head? with
        | none => exact .inr ⟨by simp, rfl⟩
        | some d =>
            by_cases hd : d.kind = .variableDeclarator ∧ isPascalCase (d.childText .name) = true
            · exact .inl ⟨_, ⟨d, rfl, hd.1, hd.2, rfl⟩, by simp [hd]⟩
            · refine .inr ⟨?_, by simp_all⟩
              rintro name ⟨d', hd', hkind', hname', -⟩
              cases hd'
              exact hd ⟨hkind', hname'⟩

/-- The climb finds nothing just if no function on the way has a name. -/
theorem enclosingComponent?_eq_none_iff {chain : List Node} : enclosingComponent? chain = none ↔
    ∀ place : Visit, place.chain <:+ chain → ∀ name, ¬ IsNamed place name := by
  induction chain with
  | nil => simp [enclosingComponent?, Visit.chain]
  | cons n around ih =>
      rcases enclosingComponent?_cons n around with
        ⟨name, hnamed, heq⟩ | ⟨hnot, heq⟩
      · simp only [heq, reduceCtorEq, false_iff, not_forall, not_not]
        exact ⟨⟨n, around⟩, List.suffix_rfl, name, hnamed⟩
      · rw [heq, ih]
        constructor
        · intro h place hplace
          rcases List.suffix_cons_iff.1 hplace with heq | hplace
          · obtain ⟨rfl, rfl⟩ := List.cons.inj heq
            exact hnot
          · exact h place hplace
        · exact fun h place hplace => h place (hplace.trans (List.suffix_cons ..))

/-- The climb finds the name of the innermost function on the way that has one. -/
theorem enclosingComponent?_eq_some {chain : List Node} (h : enclosingComponent? chain = some name) :
    ∃ place : Visit, place.chain <:+ chain ∧ IsNamed place name ∧
      ∀ other : Visit, other.chain <:+ chain → ∀ name', IsNamed other name' →
        other.chain <:+ place.chain := by
  induction chain with
  | nil => cases h
  | cons n around ih =>
      rcases enclosingComponent?_cons n around with
        ⟨name', hnamed, heq⟩ | ⟨hnot, heq⟩
      · obtain rfl := Option.some.inj (heq.symm.trans h)
        exact ⟨⟨n, around⟩, List.suffix_rfl, hnamed, fun other hother _ _ => hother⟩
      · obtain ⟨place, hplace, hnamed, hinner⟩ := ih (heq.symm.trans h)
        refine ⟨place, hplace.trans (List.suffix_cons ..), hnamed, fun other hother name' hname' => ?_⟩
        rcases List.suffix_cons_iff.1 hother with heq | hother
        · obtain ⟨rfl, rfl⟩ := List.cons.inj heq
          exact absurd hname' (hnot name')
        · exact hinner other hother name' hname'

/-! ## The definitions -/

/-- The definitions of components, each with the place of its function. -/
def sites (u : SourceUnit) : List (Definition × Visit) :=
  let names := u.exportedNames
  ((u.tree.visitsOf [.functionDeclaration]).filterMap fun v =>
      (declaredDefinition? names v).map (·, v)) ++
    (u.tree.visitsOf [.variableDeclarator]).filterMap fun v =>
      (boundDefinition? names v).map fun d => (d, ⟨d.function, v.chain⟩)

theorem map_fst_sites : u.sites.map Prod.fst = u.definitions := by
  simp only [sites, definitions, List.map_append, List.map_filterMap, Option.map_map]
  congr <;> exact funext fun v => Option.map_id_apply

theorem declaredDefinition?_eq_some_iff {names : List Text} :
    (∃ d, declaredDefinition? names v = some d ∧ d.name = name) ↔
      v.node.holdsMarkup = true ∧ isPascalCase (v.node.childText .name) = true ∧
        v.node.childText .name = name := by
  simp only [declaredDefinition?, Option.ite_none_right_eq_some, Bool.and_eq_true]
  constructor
  · rintro ⟨_, ⟨⟨hname, hmarkup⟩, ⟨⟩⟩, rfl⟩
    exact ⟨hmarkup, hname, rfl⟩
  · rintro ⟨hmarkup, hname, rfl⟩
    exact ⟨_, ⟨⟨hname, hmarkup⟩, rfl⟩, rfl⟩

theorem boundDefinition?_eq_some_iff {names : List Text} :
    (∃ d, boundDefinition? names v = some d ∧ d.function = n ∧ d.name = name) ↔
      v.node.child? .value = some n ∧ n.isFunctionValue = true ∧ n.holdsMarkup = true ∧
        isPascalCase (v.node.childText .name) = true ∧ v.node.childText .name = name := by
  simp only [boundDefinition?, Option.bind_eq_bind, Option.bind_eq_some_iff,
    Option.ite_none_right_eq_some, Bool.and_eq_true]
  constructor
  · rintro ⟨_, ⟨value, hvalue, ⟨⟨hname, hfunction⟩, hmarkup⟩, ⟨⟩⟩, rfl, rfl⟩
    exact ⟨hvalue, hfunction, hmarkup, hname, rfl⟩
  · rintro ⟨hvalue, hfunction, hmarkup, hname, rfl⟩
    exact ⟨_, ⟨n, hvalue, ⟨⟨hname, hfunction⟩, hmarkup⟩, rfl⟩, rfl, rfl⟩

/-- The places of components are those of the functions with a name that hold markup. -/
theorem exists_mem_sites_iff (hvalid : u.tree.IsValid) :
    (∃ d, (d, place) ∈ u.sites ∧ d.name = name) ↔
      place ∈ u.tree.visits ∧ place.node.holdsMarkup = true ∧ IsNamed place name := by
  simp only [sites, List.mem_append, List.mem_filterMap, Node.mem_visitsOf_iff,
    Option.map_eq_some_iff, Node.isOneOf, List.contains_cons, List.contains_nil, Bool.or_false,
    beq_iff_eq]
  constructor
  · rintro ⟨d, ⟨v, ⟨hv, hkind⟩, d', hd, heq⟩ | ⟨v, ⟨hv, hkind⟩, d', hd, heq⟩, rfl⟩
    · obtain ⟨rfl, rfl⟩ := Prod.mk.inj heq
      obtain ⟨hmarkup, hname⟩ := declaredDefinition?_eq_some_iff.1 ⟨_, hd, rfl⟩
      exact ⟨hv, hmarkup, (isNamed_declared_iff hkind).2 hname⟩
    · obtain ⟨rfl, rfl⟩ := Prod.mk.inj heq
      obtain ⟨hvalue, hfunction, hmarkup, hname, heq⟩ :=
        boundDefinition?_eq_some_iff.1 ⟨_, hd, rfl, rfl⟩
      exact ⟨Node.mem_visits_of_child hv (List.mem_of_find?_eq_some hvalue), hmarkup,
        (isNamed_bound_iff hfunction).2 ⟨_, rfl, hkind, hname, heq⟩⟩
  · rintro ⟨hplace, hmarkup, hnamed⟩
    cases hnamed with
    | declared hkind hname =>
        obtain ⟨d, hd, heq⟩ := declaredDefinition?_eq_some_iff.2 ⟨hmarkup, hname, rfl⟩
        exact ⟨d, .inl ⟨_, ⟨hplace, hkind⟩, d, hd, rfl⟩, heq⟩
    | bound hfunction hkind hname =>
        obtain ⟨hd, hleads⟩ := Node.mem_visits_of_cons hplace rfl
        have hvalue := hvalid.child?_value (Node.mem_walk_of_visit hd) hkind
          (Visit.leads_iff.1 hleads).2 hfunction
        obtain ⟨d', hd', rfl, heq⟩ :=
          boundDefinition?_eq_some_iff.2 ⟨hvalue, hfunction, hmarkup, hname, rfl⟩
        exact ⟨d', .inr ⟨_, ⟨hd, hkind⟩, d', hd', rfl⟩, heq⟩

/-! ## Agreement -/

theorem holdsMarkup_of_mem_walk {m : Node} (hm : m ∈ n.walk)
    (hkind : m.kind = .element ∨ m.kind = .selfClosingElement) : n.holdsMarkup = true := by
  have hfound : m ∈ n.find [.element, .selfClosingElement] :=
    Node.mem_find_iff.2 ⟨hm, by simpa [Node.isOneOf] using hkind⟩
  simpa [Node.holdsMarkup] using List.ne_nil_of_mem hfound

/-- A function around a tag holds markup: an opening tag stands in an element, which is no function
and so belongs to the function as well. -/
theorem holdsMarkup_of_encloses (hvalid : u.tree.IsValid)
    (hv : v ∈ u.tree.visitsOf [.openingElement, .selfClosingElement]) (hplace : place.Encloses v)
    (hnamed : IsNamed place name) : place.node.holdsMarkup = true := by
  obtain ⟨hv, hkind⟩ := Node.mem_visitsOf_iff.1 hv
  have hkind : v.node.kind = .openingElement ∨ v.node.kind = .selfClosingElement := by
    simpa [Node.isOneOf] using hkind
  rcases hkind with hkind | hkind
  · obtain ⟨element, around, haround⟩ : ∃ element around, v.around = element :: around :=
      List.exists_cons_of_ne_nil fun h => by simp [Visit.Encloses, Visit.chain, h] at hplace
    obtain ⟨helement, hleads⟩ := Node.mem_visits_of_cons hv haround
    have hopening := hvalid.opening element (Node.mem_walk_of_visit helement) v.node
      (Visit.leads_iff.1 hleads).2 hkind
    rw [Visit.Encloses, haround] at hplace
    rcases List.suffix_cons_iff.1 hplace with heq | hplace
    · -- the function would be the element
      obtain ⟨rfl, -⟩ := List.cons.inj heq
      rcases hnamed.isFunction with h | h
      · simp [hopening] at h
      · simp [isFunctionValue_iff, hopening] at h
    · exact holdsMarkup_of_mem_walk (Node.mem_walk_of_suffix helement hplace) (.inl hopening)
  · exact holdsMarkup_of_mem_walk (Node.mem_walk_of_suffix hv hplace) (.inr hkind)

/-- The components of a source, each with the place of its function. -/
def componentPlaces (u : SourceUnit) : List (Component × Visit) :=
  u.components.zip (u.sites.map Prod.snd)

theorem exists_components_eq : ∃ component : Definition → Component,
    (∀ d, (component d).name = d.name) ∧ u.components = u.definitions.map component :=
  ⟨_, fun _ => rfl, rfl⟩

theorem exists_mem_componentPlaces_iff :
    (∃ c, (c, place) ∈ u.componentPlaces ∧ c.name = name) ↔
      ∃ d, (d, place) ∈ u.sites ∧ d.name = name := by
  obtain ⟨component, hname, heq⟩ := u.exists_components_eq
  rw [componentPlaces, heq, ← map_fst_sites, List.map_map, List.zip_map']
  simp only [List.mem_map, Prod.mk.injEq, Function.comp_apply]
  constructor
  · rintro ⟨_, ⟨⟨d, _⟩, hd, rfl, rfl⟩, rfl⟩
    exact ⟨d, hd, (hname d).symm⟩
  · rintro ⟨d, hd, rfl⟩
    exact ⟨_, ⟨⟨d, place⟩, hd, rfl, rfl⟩, hname d⟩

/-- The function of `c` lies around a place, within those of all components that do. -/
def IsInnermost (u : SourceUnit) (v : Visit) (c : Component) : Prop :=
  ∃ place, (c, place) ∈ u.componentPlaces ∧ place.Encloses v ∧
    ∀ other ∈ u.componentPlaces, other.2.Encloses v → other.2.chain <:+ place.chain

/-- What is recorded at a place is the name of the innermost component around it, or null where
there is none. -/
structure Records (u : SourceUnit) (v : Visit) (recorded : Json) : Prop where
  name : ∀ c, u.IsInnermost v c → recorded = .str c.name
  innermost : recorded ≠ .null → ∃ c, u.IsInnermost v c
  null_iff : recorded = .null ↔ ∀ other ∈ u.componentPlaces, ¬ other.2.Encloses v

/-- Around a tag, the components are just the functions with a name. -/
theorem exists_component_iff (hvalid : u.tree.IsValid)
    (hv : v ∈ u.tree.visitsOf [.openingElement, .selfClosingElement]) (hplace : place.Encloses v) :
    (∃ c, (c, place) ∈ u.componentPlaces ∧ c.name = name) ↔ IsNamed place name := by
  rw [exists_mem_componentPlaces_iff, exists_mem_sites_iff hvalid]
  have hvisited : place ∈ u.tree.visits :=
    Node.mem_visits_of_suffix (Node.mem_visitsOf_iff.1 hv).1 hplace
  exact ⟨fun h => h.2.2, fun h => ⟨hvisited, holdsMarkup_of_encloses hvalid hv hplace h, h⟩⟩

theorem IsNamed.unique {name' : Text} (h : IsNamed place name) (h' : IsNamed place name') :
    name = name' := by
  obtain ⟨n, around⟩ := place
  rcases h.isFunction with hkind | hvalue
  · exact ((isNamed_declared_iff hkind).1 h).2.symm.trans ((isNamed_declared_iff hkind).1 h').2
  · obtain ⟨d, hd, -, -, rfl⟩ := (isNamed_bound_iff hvalue).1 h
    obtain ⟨d', hd', -, -, rfl⟩ := (isNamed_bound_iff hvalue).1 h'
    rw [Option.some.inj (hd.symm.trans hd')]

theorem records_enclosingComponent? (hvalid : u.tree.IsValid)
    (hv : v ∈ u.tree.visitsOf [.openingElement, .selfClosingElement]) :
    u.Records v (((enclosingComponent? v.around).map Json.str).getD .null) := by
  cases hclimb : enclosingComponent? v.around with
  | none =>
      have hnone := enclosingComponent?_eq_none_iff.1 hclimb
      have hfree : ∀ other ∈ u.componentPlaces, ¬ other.2.Encloses v :=
        fun other hother hencloses => hnone _ hencloses _
          ((exists_component_iff hvalid hv hencloses).1 ⟨other.1, hother, rfl⟩)
      exact ⟨fun c ⟨place, hplace, hencloses, _⟩ => absurd hencloses (hfree _ hplace),
        fun h => absurd rfl h, iff_of_true rfl hfree⟩
  | some name =>
      obtain ⟨place, hencloses, hnamed, hinner⟩ := enclosingComponent?_eq_some hclimb
      obtain ⟨c, hc, -⟩ := (exists_component_iff hvalid hv hencloses).2 hnamed
      have hinnermost : ∀ other ∈ u.componentPlaces, other.2.Encloses v →
          other.2.chain <:+ place.chain := fun other hother hencloses =>
        hinner _ hencloses _ ((exists_component_iff hvalid hv hencloses).1 ⟨other.1, hother, rfl⟩)
      refine ⟨fun c' ⟨place', hc', hencloses', hinner'⟩ => ?_,
        fun _ => ⟨c, place, hc, hencloses, hinnermost⟩,
        iff_of_false (by simp) fun h => h _ hc hencloses⟩
      -- two innermost functions are the same one
      have heq : place'.chain = place.chain :=
        (hinnermost _ hc' hencloses').sublist.antisymm (hinner' _ hc hencloses).sublist
      obtain ⟨n, around⟩ := place
      obtain ⟨n', around'⟩ := place'
      obtain ⟨rfl, rfl⟩ := List.cons.inj heq
      rw [((exists_component_iff hvalid hv hencloses).1 ⟨c', hc', rfl⟩).unique hnamed]
      rfl

/-- All texts that a tag gives are recorded with the component that the climb finds. -/
theorem component_of_textsOfTag {path : Text} {found : List UiText}
    (h : textsOfTag path v = .ok found) : ∀ t ∈ found,
      t.component = ((enclosingComponent? v.around).map Json.str).getD .null := by
  obtain ⟨fromAttributes, hattributes, h⟩ := Except.bind_eq_ok_iff.1 h
  have hcontent : ∃ content, found = fromAttributes.filterMap id ++
      if Wording.isUserFacing content = true then
        [{ value := content
           component := ((enclosingComponent? v.around).map Json.str).getD .null
           sourceFile := path, line := v.node.line
           kind := Wording.kindOfTag v.node.tagName }]
      else [] := by
    dsimp only at h
    split at h <;>
      · obtain ⟨content, -, h⟩ := Except.bind_eq_ok_iff.1 h
        exact ⟨content, (Except.ok.inj h).symm⟩
  obtain ⟨content, rfl⟩ := hcontent
  intro t ht
  rcases List.mem_append.1 ht with ht | ht
  · obtain ⟨_, hsome, rfl⟩ := List.mem_filterMap.1 ht
    obtain ⟨⟨attr, name, value?⟩, -, hread⟩ :=
      (Except.mapM_eq_ok_iff.1 hattributes).exists_of_mem_right hsome
    obtain ⟨literal?, -, hread⟩ := Except.bind_eq_ok_iff.1 hread
    cases literal? with
    | none => cases hread
    | some literal =>
        dsimp only at hread
        split at hread <;> cases hread
        rfl
  · split at ht
    · rw [List.mem_singleton.1 ht]
    · cases ht

/-- The climb and the search agree: the component recorded with a text is the innermost one around
its tag. -/
theorem records_of_texts {texts : List UiText} (hvalid : u.tree.IsValid)
    (htexts : u.texts = .ok texts) : ∃ perTag : List (List UiText), texts = perTag.flatten ∧
      List.Forall₂ (fun v found => textsOfTag u.path v = .ok found ∧
          ∀ t ∈ found, u.Records v t.component)
        (u.tree.visitsOf [.openingElement, .selfClosingElement]) perTag := by
  obtain ⟨perTag, hperTag, h⟩ := Except.bind_eq_ok_iff.1 htexts
  obtain rfl := Except.ok.inj h
  obtain ⟨hlength, hzip⟩ := List.forall₂_iff_zip.1 (Except.mapM_eq_ok_iff.1 hperTag)
  refine ⟨perTag, rfl, List.forall₂_iff_zip.2 ⟨hlength, fun {v found} hmem => ?_⟩⟩
  refine ⟨hzip hmem, fun t ht => ?_⟩
  rw [component_of_textsOfTag (hzip hmem) t ht]
  exact records_enclosingComponent? hvalid (List.of_mem_zip hmem).1

/-- A component in a component, and a tag in neither. -/
def nestedSource : Text := lit ("function Outer() \x7b\n" ++
  "  const Inner = () => <p title=\"Nested words\" />;\n" ++
  "  return <h1>Hello there</h1>;\n" ++
  "\x7d\n" ++
  "const free = <i title=\"Free words\" />;\n")

/-- The source as it is read. -/
def nestedUnit : SourceUnit := ⟨lit "a.tsx", nestedSource, .ofText .tsx nestedSource⟩

theorem checks_nestedUnit : nestedUnit.tree.IsValid ∧
    nestedUnit.texts.toOption.map (·.map (·.component.str?)) =
      some [some (lit "Inner"), some (lit "Outer"), none] := by
  decide +kernel

theorem records_of_texts_nested : ofText (lit "a.tsx") nestedSource none = .ok nestedUnit ∧
    nestedUnit.tree.IsValid ∧ ∃ texts perTag, nestedUnit.texts = .ok texts ∧
      texts.map (·.component.str?) = [some (lit "Inner"), some (lit "Outer"), none] ∧
      texts = perTag.flatten ∧ List.Forall₂ (fun v found => textsOfTag nestedUnit.path v = .ok found ∧
          ∀ t ∈ found, nestedUnit.Records v t.component)
        (nestedUnit.tree.visitsOf [.openingElement, .selfClosingElement]) perTag := by
  obtain ⟨hvalid, hchecked⟩ := checks_nestedUnit
  obtain ⟨texts, htexts, hrecorded⟩ := Option.map_eq_some_iff.1 hchecked
  obtain htexts := Except.toOption_eq_some_iff.1 htexts
  obtain ⟨perTag, hflat, hrecords⟩ := records_of_texts hvalid htexts
  exact ⟨if_pos (by decide +kernel), hvalid, texts, perTag, htexts, hrecorded, hflat, hrecords⟩

end SourceUnit

end HelpCenter

import HelpCenter.Proofs.Syntax.Escape
import HelpCenter.Scan.Findings

/-!
# Strings that a source is lost for

Whatever is looked for in a source, the reading can fail for its strings only (`faults_findings`,
`faults_imports`): those that stand in braces, are passed to a call or name a module.  They have a
value unless a number in braces in them is too large (`reads_accepted`).
-/

namespace HelpCenter

open Syntax Escape

namespace SourceUnit

variable {u : SourceUnit} {P : Failure → Prop} {n m : Node} {v : Visit} {path : Text}
  {framework : Option Text}

/-- A string whose value may be asked for.  That of an attribute is not one: it is taken as it
is. -/
inductive IsLiteral (u : SourceUnit) : Node → Prop
  | embedded {m n : Node} (hm : m ∈ u.tree.find [.embedded]) (hn : n ∈ m.children)
      (hkind : n.kind = .string) : IsLiteral u n
  | argument {m given n : Node} (hm : m ∈ u.tree.find [.call])
      (hgiven : m.child? .arguments = some given) (hn : n ∈ given.children)
      (hkind : n.kind = .string) : IsLiteral u n
  | module {m n : Node} (hm : m ∈ u.tree.find [.importStatement])
      (hn : m.child? .source = some n) (hkind : n.kind = .string) : IsLiteral u n

/-! ## Where a reading can fail -/

section Faults

theorem mem_of_child? {role : Role} (h : n.child? role = some m) : m ∈ n.children :=
  List.mem_of_find?_eq_some h

/-- The value of an attribute stands in the tree of the source. -/
theorem mem_walk_of_attribute {attr value : Node} {name : Text} (hn : n ∈ u.tree.walk)
    (hmem : (attr, name, some value) ∈ n.attributes) : value ∈ u.tree.walk := by
  obtain ⟨a, ha, heq⟩ := List.mem_filterMap.1 hmem
  have ha' := Node.mem_walk_of_child hn (List.mem_of_mem_filter ha)
  cases hchildren : a.children with
  | nil =>
      rw [hchildren] at heq
      cases heq
  | cons first rest =>
      rw [hchildren] at heq
      obtain ⟨rfl, rfl, hlast⟩ : a = attr ∧ first.text = name ∧ rest.getLast? = some value := by
        simpa using heq
      have hrest := List.mem_of_getLast? hlast
      exact Node.mem_walk_of_child ha' (hchildren ▸ List.mem_cons_of_mem _ hrest)

variable (h : ∀ n, u.IsLiteral n → (stringValue n.quoted).Faults P)
include h

theorem faults_literal? (hn : n ∈ u.tree.walk) (hstring : n.kind = .string → u.IsLiteral n) :
    n.literal?.Faults P := by
  have hvalue (s : Node) (hs : u.IsLiteral s) :
      Except.Faults P (do return some (← stringValue s.quoted)) :=
    (h s hs).bind fun _ _ => Except.faults_ok _
  unfold Node.literal?
  dsimp only
  split
  · next hkind => exact hvalue n (hstring hkind)
  · next inner hkind hchildren =>
      split
      · next hinner =>
          have hm : n ∈ u.tree.find [.embedded] :=
            Node.mem_find_iff.2 ⟨hn, by simp [Node.isOneOf, hkind]⟩
          exact hvalue inner (.embedded hm (hchildren ▸ List.mem_singleton_self _) hinner)
      · exact Except.faults_ok _
  · exact Except.faults_ok _

theorem faults_attributeLiteral? (hn : n ∈ u.tree.walk) : n.attributeLiteral?.Faults P := by
  unfold Node.attributeLiteral?
  split
  · exact Except.faults_ok _
  · next hkind => exact faults_literal? h hn fun hstring => absurd hstring hkind

theorem faults_contentText? (hn : n ∈ u.tree.walk) : (contentText? n).Faults P := by
  unfold contentText?
  dsimp only
  split
  · exact Except.faults_ok _
  · exact Except.faults_ok _
  · next hkind =>
      have hstring : n.kind = .string → u.IsLiteral n := by
        rw [hkind]
        rintro ⟨⟩
      exact (faults_literal? h hn hstring).bind fun _ _ => Except.faults_ok _
  · exact Except.faults_ok _

theorem faults_textsOfTag (hv : v ∈ u.tree.visits) : (textsOfTag path v).Faults P := by
  unfold textsOfTag
  refine Except.Faults.bind (Except.Faults.mapM ?_) fun fromAttributes _ => ?_
  · rintro ⟨attr, name, value?⟩ hmem
    refine Except.Faults.bind ?_ fun literal? _ => ?_
    · cases value? with
      | none => exact Except.faults_ok _
      | some value =>
          have hattribute := List.mem_of_mem_filter hmem
          exact faults_attributeLiteral? h
            (mem_walk_of_attribute (Node.mem_walk_of_visit hv) hattribute)
    · split
      · split <;> exact Except.faults_ok _
      · exact Except.faults_ok _
  · dsimp only
    split
    · next element _ hparent =>
        obtain ⟨around, haround⟩ := List.head?_eq_some_iff.1 hparent
        have helement := Node.mem_walk_of_visit (Node.mem_visits_of_cons hv haround).1
        refine Except.Faults.bind (Except.Faults.bind (Except.Faults.mapM fun n hn => ?_)
          fun _ _ => Except.faults_ok _) fun _ _ => Except.faults_ok _
        exact faults_contentText? h (Node.mem_walk_of_child helement hn)
    · exact Except.faults_ok _

theorem faults_texts : u.texts.Faults P := by
  refine Except.Faults.bind (Except.Faults.mapM fun v hv => ?_) fun _ _ => Except.faults_ok _
  exact faults_textsOfTag h (Node.mem_visitsOf_iff.1 hv).1

theorem faults_routeOfTag (hn : n ∈ u.tree.walk) : (routeOfTag path n).Faults P := by
  refine Except.Faults.bind (Except.Faults.mapM ?_) fun _ _ => ?_
  · rintro ⟨name, value⟩ hmem
    obtain ⟨⟨attr, name', value?⟩, hattribute, heq⟩ :=
      List.mem_filterMap.1 (List.mem_of_mem_filter hmem)
    obtain ⟨_, rfl, ⟨⟩⟩ := Option.map_eq_some_iff.1 heq
    exact (faults_attributeLiteral? h (mem_walk_of_attribute hn hattribute)).bind
      fun _ _ => Except.faults_ok _
  · dsimp only
    split <;> exact Except.faults_ok _

theorem faults_registration? (hn : n ∈ u.tree.find [.call]) : (registration? n).Faults P := by
  unfold registration?
  split
  · next method given _ hgiven =>
      split
      · exact Except.faults_ok _
      · next first rest hchildren =>
          have hfirst : first ∈ given.children := hchildren ▸ List.mem_cons_self ..
          have hwalk : first ∈ u.tree.walk := by
            refine Node.mem_walk_of_child ?_ hfirst
            exact Node.mem_walk_of_child (Node.mem_find_iff.1 hn).1 (mem_of_child? hgiven)
          refine (faults_literal? h hwalk fun hkind => .argument hn hgiven hfirst hkind).bind
            fun literal? _ => ?_
          cases literal? with
          | none => exact Except.faults_ok _
          | some path => exact Except.faults_ok _
  · exact Except.faults_ok _

theorem faults_countedRegistrations : (u.countedRegistrations framework).Faults P := by
  unfold countedRegistrations
  split
  · exact (Except.Faults.mapM fun n hn => faults_registration? h hn).bind
      fun _ _ => Except.faults_ok _
  · exact Except.faults_ok _

theorem faults_routes : (u.routes framework).Faults P := by
  refine Except.Faults.bind (Except.Faults.mapM fun n hn => ?_) fun _ _ => ?_
  · exact faults_routeOfTag h (Node.mem_find_iff.1 (List.mem_of_mem_filter hn)).1
  · exact (faults_countedRegistrations h).bind fun _ _ => Except.faults_ok _

theorem faults_endpoints : (u.endpoints framework).Faults P :=
  (faults_countedRegistrations h).bind fun _ _ => Except.faults_ok _

theorem faults_findings (c : Catalog) : (u.findings framework c).Faults P :=
  (faults_routes h).bind fun _ _ => (faults_texts h).bind fun _ _ =>
    (faults_endpoints h).bind fun _ _ => Except.faults_ok _

theorem faults_imports : u.imports.Faults P := by
  refine Except.Faults.bind (Except.Faults.mapM fun n hn => ?_) fun _ _ => Except.faults_ok _
  obtain ⟨m, hm, hsource⟩ := List.mem_filterMap.1 hn
  obtain ⟨hm, hkind⟩ := List.mem_filter.1 hm
  have hwalk := Node.mem_walk_of_child (Node.mem_walk_self u.tree) hm
  have hstatement : m ∈ u.tree.find [.importStatement] :=
    Node.mem_find_iff.2 ⟨hwalk, by simpa [Node.isOneOf] using hkind⟩
  refine faults_literal? h (Node.mem_walk_of_child hwalk (mem_of_child? hsource)) fun hstring => ?_
  exact .module hstatement hsource hstring

end Faults

/-! ## Strings that are accepted -/

/-- Every string whose value may be asked for is one of the grammars. -/
def IsSpelled (u : SourceUnit) : Prop := ∀ n, u.IsLiteral n → ∃ bodies, n.Spells bodies

/-- In a string whose value may be asked for stands a number that is too large. -/
def HoldsHuge (u : SourceUnit) : Prop :=
  ∃ n bodies, u.IsLiteral n ∧ n.Spells bodies ∧ ∃ body ∈ bodies, IsHuge body

/-- How a source is lost to a number that is too large. -/
def IsLoss (u : SourceUnit) (e : Failure) : Prop := e = .data .outOfRange ∧ u.HoldsHuge

theorem IsSpelled.faults (hu : u.IsSpelled) (hn : u.IsLiteral n) :
    (stringValue n.quoted).Faults u.IsLoss := by
  obtain ⟨bodies, hbodies⟩ := hu n hn
  obtain ⟨hiff, hfaults⟩ := hbodies.stringValue
  intro e he
  refine ⟨hfaults e he, ?_⟩
  by_contra hhuge
  have hsmall : ∀ body ∈ bodies, ¬ IsHuge body :=
    fun body hbody h => hhuge ⟨n, bodies, hn, hbodies, body, hbody, h⟩
  obtain ⟨v, hv⟩ := hiff.2 hsmall
  rw [hv] at he
  cases he

/-- An accepted escape sequence is decoded to the text that it stands for, a string of such
sequences has a value, and no source is lost to a string, but for numbers in braces that are too
large to be asked for. -/
theorem reads_accepted (u : SourceUnit) :
    (∀ body, Accepted body →
      (¬ IsHuge body → ∃ v, StandsFor body v ∧ decode ('\\' :: body) = .ok v) ∧
      (IsHuge body → decode ('\\' :: body) = .error (.data .outOfRange))) ∧
    (∀ (n : Node) bodies, n.kind = .string → n.Spells bodies →
      ((∃ v, n.literal? = .ok (some v)) ↔ ∀ body ∈ bodies, ¬ IsHuge body)) ∧
    (u.IsSpelled → u.texts.Faults u.IsLoss ∧ u.imports.Faults u.IsLoss ∧
      ∀ framework, (u.routes framework).Faults u.IsLoss ∧
        ∀ c, (u.findings framework c).Faults u.IsLoss) := by
  refine ⟨fun body hbody => ⟨fun hsmall => ?_, decode_huge⟩,
    fun n bodies hkind hn => (hn.literal? hkind).1, fun hu => ?_⟩
  · obtain ⟨v, hv⟩ := hbody.exists_standsFor
    exact ⟨v, hv, hv.decode_eq hsmall⟩
  · have h (n : Node) (hn : u.IsLiteral n) := hu.faults hn
    exact ⟨faults_texts h, faults_imports h, fun framework =>
      ⟨faults_routes h, fun c => faults_findings h c⟩⟩

theorem mem_find_of_isLiteral (h : u.IsLiteral n) : n ∈ u.tree.find [.string] := by
  have hfind (hn : n ∈ u.tree.walk) (hkind : n.kind = .string) : n ∈ u.tree.find [.string] :=
    Node.mem_find_iff.2 ⟨hn, by simp [Node.isOneOf, hkind]⟩
  cases h with
  | embedded hm hn hkind =>
      exact hfind (Node.mem_walk_of_child (Node.mem_find_iff.1 hm).1 hn) hkind
  | argument hm hgiven hn hkind =>
      have hwalk := Node.mem_walk_of_child (Node.mem_find_iff.1 hm).1 (mem_of_child? hgiven)
      exact hfind (Node.mem_walk_of_child hwalk hn) hkind
  | module hm hn hkind =>
      exact hfind (Node.mem_walk_of_child (Node.mem_find_iff.1 hm).1 (mem_of_child? hn)) hkind

/-- A string that is spelled without a number that is too large is not spelled with one. -/
theorem not_holdsHuge
    (h : ∀ n, u.IsLiteral n → ∃ bodies, n.Spells bodies ∧ ∀ body ∈ bodies, ¬ IsHuge body) :
    ¬ u.HoldsHuge := by
  rintro ⟨n, bodies, hn, hbodies, body, hbody, hhuge⟩
  obtain ⟨others, hothers, hsmall⟩ := h n hn
  exact hbodies.stringValue.1.1 (hothers.stringValue.1.2 hsmall) body hbody hhuge

/-- A source with the largest number that can be asked for, octal digits and a needless
backslash. -/
def escapedSource : Text := lit "const a = <p title=\x7b\"\\u\x7b7FFFFFFF\x7d\\101\\q\"\x7d />;\n"

/-- The source as it is read. -/
def escapedUnit : SourceUnit := ⟨lit "src/a.tsx", escapedSource, .ofText .tsx escapedSource⟩

theorem find_escapedUnit : (escapedUnit.tree.find [.string]).map Node.text =
    [lit "\"\\u\x7b7FFFFFFF\x7d\\101\\q\""] := by
  decide +kernel

theorem spells_escaped : Spells (lit "\\u\x7b7FFFFFFF\x7d\\101\\q")
    [lit "u\x7b7FFFFFFF\x7d", lit "101", lit "q"] := by
  have hbraced : Accepted (lit "u\x7b7FFFFFFF\x7d") :=
    .numeric .braced (lit "7FFFFFFF") (by decide) trivial
  have hoctal : Accepted (lit "101") := .octal _ (by decide) (by decide) (by decide)
  have hsingle : Accepted (lit "q") := .single 'q' (by decide)
  exact .cons_escape hbraced rfl (.cons_escape hoctal rfl (.cons_escape hsingle rfl .nil))

theorem not_isHuge_escaped :
    ∀ body ∈ [lit "u\x7b7FFFFFFF\x7d", lit "101", lit "q"], ¬ IsHuge body := by
  have hdecoded : ∀ body ∈ [lit "u\x7b7FFFFFFF\x7d", lit "101", lit "q"],
      (decode ('\\' :: body)).toOption = some body := by decide +kernel
  intro body hbody hhuge
  have h := hdecoded body hbody
  rw [decode_huge hhuge] at h
  cases h

theorem exists_spells_of_isLiteral (h : escapedUnit.IsLiteral n) :
    ∃ bodies, n.Spells bodies ∧ ∀ body ∈ bodies, ¬ IsHuge body := by
  have hmem := List.mem_map_of_mem (f := Node.text) (mem_find_of_isLiteral h)
  rw [find_escapedUnit, List.mem_singleton] at hmem
  refine ⟨_, ⟨'"', lit "\\u\x7b7FFFFFFF\x7d\\101\\q", hmem, ?_⟩, not_isHuge_escaped⟩
  exact spells_escaped

theorem reads_accepted_escaped : ofText (lit "src/a.tsx") escapedSource none = .ok escapedUnit ∧
    (∃ v, decode (lit "\\u\x7b7FFFFFFF\x7d") = .ok v) ∧ escapedUnit.IsSpelled ∧
    (∃ texts, escapedUnit.texts = .ok texts) ∧ (∃ names, escapedUnit.imports = .ok names) ∧
    ∃ routes, escapedUnit.routes none = .ok routes := by
  have hspelled : escapedUnit.IsSpelled := fun n hn =>
    (exists_spells_of_isLiteral hn).imp fun _ => And.left
  have hnone : ¬ escapedUnit.HoldsHuge := not_holdsHuge fun n hn => exists_spells_of_isLiteral hn
  have hok {α : Type} {x : Except Failure α} (hx : x.Faults escapedUnit.IsLoss) :
      ∃ a, x = .ok a := by
    cases x with
    | ok a => exact ⟨a, rfl⟩
    | error e => exact absurd (hx e rfl).2 hnone
  obtain ⟨hdecode, -, hunits⟩ := reads_accepted escapedUnit
  obtain ⟨htexts, himports, hroutes⟩ := hunits hspelled
  have hbraced : Accepted (lit "u\x7b7FFFFFFF\x7d") :=
    .numeric .braced (lit "7FFFFFFF") (by decide) trivial
  obtain ⟨v, -, hv⟩ := (hdecode _ hbraced).1 (not_isHuge_escaped _ (List.mem_cons_self ..))
  exact ⟨if_pos (by decide +kernel), ⟨v, hv⟩, hspelled, hok htexts, hok himports,
    hok (hroutes none).1⟩

/-- A source with the smallest number that cannot be asked for, in a module's name, a path and a
text. -/
def hugeSource : Text := lit ("import \"\\u\x7b80000000\x7d\";\n" ++
  "const a = <Route path=\x7b\"\\u\x7b80000000\x7d\"\x7d " ++
  "title=\x7b\"\\u\x7b80000000\x7d\"\x7d />;\n")

/-- The source as it is read. -/
def hugeUnit : SourceUnit := ⟨lit "src/a.tsx", hugeSource, .ofText .tsx hugeSource⟩

/-- The sequence is accepted, yet decoding fails, and with it all that is looked for in the
source. -/
theorem not_reads_huge : Accepted (lit "u\x7b80000000\x7d") ∧
    decode (lit "\\u\x7b80000000\x7d") = .error (.data .outOfRange) ∧
    ofText (lit "src/a.tsx") hugeSource none = .ok hugeUnit ∧ hugeUnit.program.hasErrors = false ∧
    hugeUnit.texts.isOk = false ∧ hugeUnit.imports.isOk = false ∧
    (hugeUnit.routes none).isOk = false ∧ (hugeUnit.findings none []).isOk = false := by
  have hbraced : Accepted (lit "u\x7b80000000\x7d") :=
    .numeric .braced (lit "80000000") (by decide) trivial
  have hhuge : IsHuge (lit "u\x7b80000000\x7d") :=
    ⟨lit "80000000", by decide, rfl, by decide +kernel⟩
  refine ⟨hbraced, decode_huge hhuge, if_pos (by decide +kernel), ?_⟩
  decide +kernel

end SourceUnit

end HelpCenter

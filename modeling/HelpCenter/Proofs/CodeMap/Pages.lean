import HelpCenter.Proofs.Article.Plan

/-!
# From routes to what the writer is told

A route is joined to components by file or by name, components to their files, and files to their
texts (`Page.IsOf`).  The files of a page are where evidence is looked for, so the pages that the
writer is told about a feature are those that its evidence lies on, and nothing else in the text
depends on them (`context_of_buildPages`).
-/

namespace HelpCenter

/-- A component belongs to a route: it is defined in the route's file or bears the name that the
route gives. -/
def Component.BelongsTo (c : Component) (r : Route) : Prop :=
  c.sourceFile = r.sourceFile ∨ r.component = .str c.name

theorem Component.shows_iff {c : Component} {r : Route} : c.shows r = true ↔ c.BelongsTo r := by
  rw [shows, Bool.or_eq_true, decide_eq_true_iff, decide_eq_true_iff, BelongsTo]
  cases r.component <;> simp [Json.str?]

instance (c : Component) (r : Route) : Decidable (c.BelongsTo r) :=
  decidable_of_iff _ Component.shows_iff

namespace Page

/-- What the page of a route holds. -/
structure IsOf (components : List Component) (strings : List UiText) (r : Route) (p : Page) :
    Prop where
  path : p.path = r.path
  /-- All the files are names. -/
  sourceFiles : p.sourceFiles = p.files.map .str
  head?_files : p.files.head? = some r.sourceFile
  nodup_files : p.files.Nodup
  mem_files_iff : ∀ file, file ∈ p.files ↔
    file = r.sourceFile ∨ ∃ c ∈ components, c.BelongsTo r ∧ c.sourceFile = file
  components : ∃ names, p.components = names.map .str ∧
    ListsOnce ((components.filter fun c => c.BelongsTo r).map Component.name) names
  strings : p.strings = strings.filter fun s => s.sourceFile ∈ p.files

/-- How the writer is told about a page: its path, then its first ten texts, if there are any. -/
inductive IsEntry (p : Page) : List Text → Prop
  | bare (h : p.strings = []) : p.IsEntry [lit "  - " ++ p.path]
  | withTexts (h : p.strings ≠ []) : p.IsEntry ((lit "  - " ++ p.path) ::
      lit "    UI Elements:" :: (p.strings.take 10).map fun s =>
        lit "      - [" ++ s.kind ++ lit "] \"" ++ s.value ++ lit "\"")

theorem isEntry_contextLines (p : Page) : p.IsEntry p.contextLines := by
  unfold contextLines maxTexts
  by_cases h : p.strings = []
  · simpa [h] using IsEntry.bare h
  · simpa [h] using IsEntry.withTexts h

end Page

variable {components : List Component} {strings : List UiText}

theorem files_pageOf (r : Route) : (pageOf components strings r).files =
    firstSeen (r.sourceFile :: (components.filter (·.shows r)).map (·.sourceFile)) := by
  simp [Page.files, pageOf, List.filterMap_map, Function.comp_def, Json.str?]

theorem isOf_pageOf (r : Route) :
    (pageOf components strings r).IsOf components strings r where
  path := rfl
  sourceFiles := by rw [files_pageOf]; rfl
  head?_files := by rw [files_pageOf]; rfl
  nodup_files := by rw [files_pageOf]; exact nodup_firstSeen _
  mem_files_iff file := by
    rw [files_pageOf, mem_firstSeen]
    simp [Component.shows_iff, and_assoc]
  components := by
    refine ⟨_, rfl, ?_⟩
    simpa only [← Component.shows_iff, Bool.decide_eq_true] using listsOnce_firstSeen _
  strings := by
    rw [files_pageOf]
    exact List.filter_congr fun s _ => by simp

theorem areKeys_buildPages (routes : List Route) :
    ∀ p ∈ buildPages routes components strings, AreKeys p.sourceFiles := by
  intro p hp v hv
  obtain ⟨r, -, rfl⟩ := List.mem_map.1 hp
  obtain ⟨file, -, rfl⟩ := List.mem_map.1 hv
  rfl

/-- All but the pages that the writer is told about a feature depends on the feature alone. -/
theorem Feature.exists_context_eq (f : Feature) : ∃ front back : List Text,
    ∀ (m : CodeMap) (pages : List Page), m.relevantPages f = .ok pages →
      f.context m = .ok (Text.joinWith (lit "\n") (front ++ (if pages = [] then [] else
        lit "Relevant Pages:" :: pages.flatMap Page.contextLines ++ [[]]) ++ back)) :=
  ⟨f.frontLines, lit "Code Evidence:" :: f.evidenceLines, fun _ _ => f.context_eq⟩

/-- Each route has its page, in order, and of these the writer is told about just the ones that
evidence of the feature lies on.  What else the writer is told depends on the feature alone. -/
theorem context_of_buildPages (f : Feature) : ∃ front back : List Text,
    ∀ (routes : List Route) (components : List Component) (strings : List UiText) (m : CodeMap),
      let pages := buildPages routes components strings
      let listed := pages.filter fun p => f.LiesOn p
      List.Forall₂ (Page.IsOf components strings) routes pages ∧
      CodeMap.relevantPages { m with pages } f = .ok listed ∧
      ∃ entries, List.Forall₂ Page.IsEntry listed entries ∧
        f.context { m with pages } = .ok (Text.joinWith (lit "\n") (front ++
          (if listed = [] then [] else lit "Relevant Pages:" :: entries.flatten ++ [[]]) ++
          back)) := by
  obtain ⟨front, back, hcontext⟩ := f.exists_context_eq
  refine ⟨front, back, fun routes components strings m => ?_⟩
  intro pages listed
  have hrelevant : CodeMap.relevantPages { m with pages } f = .ok listed :=
    CodeMap.relevantPages_eq_ok (areKeys_buildPages routes) f
  refine ⟨?_, hrelevant, listed.map Page.contextLines, ?_, ?_⟩
  · exact List.forall₂_map_right_iff.2 (List.forall₂_same.2 fun r _ => isOf_pageOf r)
  · exact List.forall₂_map_right_iff.2 (List.forall₂_same.2 fun p _ => p.isEntry_contextLines)
  · rw [hcontext _ _ hrelevant, List.flatMap_def]

end HelpCenter

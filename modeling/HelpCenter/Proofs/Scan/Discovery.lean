import HelpCenter.Proofs.Except
import HelpCenter.Proofs.Files.Proper
import HelpCenter.Proofs.Text.Search
import HelpCenter.Scan.Discovery

/-!
# What discovery finds

A path is met if it leads from the top of the project through open directories to a file or to a
link that is no way into a directory.  The walk meets each of them once (`mem_walk_iff`,
`nodup_walk`), whatever its directories are called, so the sources are told by their properties:
they are in order, each is listed once, and a path is a source if it is met, chosen by the
inclusions and not by the exclusions, and if no directory on the way is chosen by the exclusions as
a directory (`sources_eq_ok_iff`).  The last condition does not follow from the others: exclusions
can choose a directory and none of the files in it (`not_sources_nested`).
-/

namespace HelpCenter.Discovery

/-! ## Definition -/

/-- The paths of the directories on the way to a path. -/
def above : List Text → List (List Text)
  | name :: next :: rest => [name] :: (above (next :: rest)).map (name :: ·)
  | _ => []

/-- Whether a directory is one that can be entered, by its name alone. -/
def isOpen (names : List Text) : Bool := !closedDirectories.contains (names.getLast?.getD [])

/-- A path in a project that goes through directories, all of them as `enterable` wants them, to a
file or to a link that leads to no directory. -/
structure IsMet (t : FileTree) (root : Place) (enterable : List Text → Bool) (names : List Text) :
    Prop where
  ne_nil : names ≠ []
  leaf : t.isLeaf (root ++ names) = true
  dirs : ∀ dir ∈ above names, t.entry? (root ++ dir) = some .dir ∧ enterable dir = true

instance (t : FileTree) (root : Place) (enterable : List Text → Bool) (names : List Text) :
    Decidable (IsMet t root enterable names) :=
  decidable_of_iff
    (names ≠ [] ∧ t.isLeaf (root ++ names) = true ∧
      ∀ dir ∈ above names, t.entry? (root ++ dir) = some .dir ∧ enterable dir = true)
    ⟨fun ⟨h, h', h''⟩ => ⟨h, h', h''⟩, fun ⟨h, h', h''⟩ => ⟨h, h', h''⟩⟩

/-- The text of a path. -/
def pathText (names : List Text) : Text := Text.joinWith (lit "/") names

/-! ## The walk -/

variable {t : FileTree} {root : Place} {includes excludes : List Text} {ins outs : Globs}
  {names path rel : List Text} {name : Text}

theorem mem_above_cons {dir : List Text} : dir ∈ above (name :: rel) ↔
    rel ≠ [] ∧ (dir = [name] ∨ ∃ below ∈ above rel, dir = name :: below) := by
  cases rel with
  | nil => simp [above]
  | cons next rest => simp [above, eq_comm]

/-- What the walk meets below a directory. -/
theorem mem_walk_iff (h : t.IsProper) (depth : ℕ) (names path : List Text) :
    path ∈ walk t root outs depth names ↔ ∃ rel, path = names ++ rel ∧ rel.length ≤ depth ∧
      rel ≠ [] ∧ t.isLeaf (root ++ (names ++ rel)) = true ∧ ∀ dir ∈ above rel,
        t.entry? (root ++ (names ++ dir)) = some .dir ∧ enters outs (names ++ dir) = true := by
  induction depth generalizing names path with
  | zero =>
      refine iff_of_false List.not_mem_nil ?_
      rintro ⟨rel, -, hlength, hne, -⟩
      exact hne (List.eq_nil_of_length_eq_zero (Nat.le_zero.1 hlength))
  | succ depth ih =>
      rw [walk, List.mem_flatMap]
      constructor
      -- a leaf is met under its own name, and what is met below a directory under that name too
      · rintro ⟨⟨name, entry⟩, hchild, hpath⟩
        rw [h.mem_children_iff, List.append_assoc] at hchild
        cases entry with
        | file content =>
            obtain rfl := List.mem_singleton.1 hpath
            exact ⟨[name], rfl, by simp, by simp, FileTree.isLeaf_of_file hchild, by simp [above]⟩
        | link target =>
            dsimp only at hpath
            split at hpath
            · cases hpath
            · next hdir =>
              obtain rfl := List.mem_singleton.1 hpath
              refine ⟨[name], rfl, by simp, by simp, ?_, by simp [above]⟩
              rw [FileTree.isLeaf_of_link hchild]
              simpa using hdir
        | dir =>
            dsimp only at hpath
            split at hpath
            · next henters =>
              obtain ⟨rel, rfl, hlength, hne, hleaf, hdirs⟩ := (ih _ _).1 hpath
              simp only [List.append_assoc, List.singleton_append] at hleaf hdirs ⊢
              refine ⟨name :: rel, rfl, by simpa using hlength, by simp, hleaf, ?_⟩
              intro dir hdir
              rcases (mem_above_cons.1 hdir).2 with rfl | ⟨below, hbelow, rfl⟩
              · exact ⟨hchild, henters⟩
              · exact hdirs below hbelow
            · cases hpath
      · rintro ⟨rel, rfl, hlength, hne, hleaf, hdirs⟩
        obtain ⟨name, rest, rfl⟩ := List.exists_cons_of_ne_nil hne
        -- the first name is that of the leaf, or of a directory that the path goes through
        by_cases hrest : rest = []
        · subst hrest
          obtain ⟨entry, hentry, hdir⟩ := FileTree.exists_entry_of_isLeaf hleaf
          refine ⟨(name, entry), h.mem_children_iff.2 (by rwa [List.append_assoc]), ?_⟩
          cases entry with
          | dir => exact absurd rfl hdir
          | file content => exact List.mem_singleton.2 rfl
          | link target =>
              rw [FileTree.isLeaf_of_link hentry] at hleaf
              dsimp only
              rw [if_neg (by simpa using hleaf)]
              exact List.mem_singleton.2 rfl
        · obtain ⟨hentry, henters⟩ := hdirs [name] (mem_above_cons.2 ⟨hrest, .inl rfl⟩)
          refine ⟨(name, .dir), h.mem_children_iff.2 (by rwa [List.append_assoc]), ?_⟩
          dsimp only
          rw [if_pos henters, ih]
          refine ⟨rest, by simp, by simpa using hlength, hrest, by simpa using hleaf, ?_⟩
          intro dir hdir
          simpa using hdirs (name :: dir) (mem_above_cons.2 ⟨hrest, .inr ⟨dir, hdir, rfl⟩⟩)

/-- What is met below a child starts with the child's name, and nothing is met twice below one of
them if deeper walks meet nothing twice. -/
theorem exists_walk_succ_eq (h : t.IsProper) (depth : ℕ) (names : List Text)
    (hdeeper : ∀ names, (walk t root outs depth names).Nodup) :
    ∃ below : Text × Entry → List (List Text),
      walk t root outs (depth + 1) names = (t.children (root ++ names)).flatMap below ∧
      ∀ child, (below child).Nodup ∧
        ∀ path ∈ below child, ∃ rel, path = names ++ child.1 :: rel := by
  refine ⟨_, rfl, ?_⟩
  rintro ⟨name, entry⟩
  have hself : ∀ path ∈ [names ++ [name]], ∃ rel, path = names ++ name :: rel := fun path hpath =>
    ⟨[], List.mem_singleton.1 hpath⟩
  cases entry with
  | file content => exact ⟨List.nodup_singleton _, hself⟩
  | link target =>
      dsimp only
      split
      · exact ⟨List.nodup_nil, fun path hpath => by cases hpath⟩
      · exact ⟨List.nodup_singleton _, hself⟩
  | dir =>
      dsimp only
      split
      · refine ⟨hdeeper _, fun path hpath => ?_⟩
        obtain ⟨rel, rfl, -⟩ := (mem_walk_iff h depth _ _).1 hpath
        exact ⟨rel, by simp⟩
      · exact ⟨List.nodup_nil, fun path hpath => by cases hpath⟩

/-- The walk meets nothing twice. -/
theorem nodup_walk (h : t.IsProper) (depth : ℕ) (names : List Text) :
    (walk t root outs depth names).Nodup := by
  induction depth generalizing names with
  | zero => exact List.nodup_nil
  | succ depth ih =>
      obtain ⟨below, hwalk, hbelow⟩ := exists_walk_succ_eq h depth names ih
      rw [hwalk, List.nodup_flatMap]
      refine ⟨fun child _ => (hbelow child).1, (h.nodup_children _).pairwise_of_forall_ne ?_⟩
      rintro ⟨name, entry⟩ hchild ⟨name', entry'⟩ hchild' hne path hpath hpath'
      obtain ⟨rel, rfl⟩ := (hbelow _).2 path hpath
      obtain ⟨rel', heq⟩ := (hbelow _).2 _ hpath'
      obtain ⟨rfl, -⟩ := List.cons.inj (List.append_cancel_left heq)
      rw [h.mem_children_iff] at hchild hchild'
      exact hne (congrArg (Prod.mk name) (Option.some.inj (hchild.symm.trans hchild')))

theorem length_le_depth {e : Entry} (hentry : t.entry? names = some e) :
    names.length ≤ depth t := by
  by_cases hnames : names = []
  · simp [hnames]
  · have hmem := FileTree.mem_places_of_entry hentry hnames
    exact FileTree.le_foldl_max
      (List.mem_map_of_mem (f := fun (listed : Place × Entry) => listed.1.length) hmem)

theorem isMet_of_mem_walk_iff (h : t.IsProper) :
    path ∈ walk t root outs (depth t + 1) [] ↔ IsMet t root (enters outs) path := by
  rw [mem_walk_iff h]
  constructor
  · rintro ⟨rel, rfl, -, hne, hleaf, hdirs⟩
    exact ⟨hne, hleaf, hdirs⟩
  · rintro ⟨hne, hleaf, hdirs⟩
    refine ⟨path, rfl, ?_, hne, hleaf, hdirs⟩
    obtain ⟨entry, hentry, -⟩ := FileTree.exists_entry_of_isLeaf hleaf
    have hlength := length_le_depth hentry
    rw [List.length_append] at hlength
    omega

/-! ## Sources -/

variable {enterable : List Text → Bool}

theorem IsMet.isName (hmet : IsMet t root enterable names) (h : t.IsProper) :
    ∀ name ∈ names, FileTree.IsName name := by
  intro name hname
  obtain ⟨entry, hentry, -⟩ := FileTree.exists_entry_of_isLeaf hmet.leaf
  exact h.isName hentry (List.mem_append_right _ hname)

/-- A path that is met is known by its text. -/
theorem IsMet.splitOn_pathText (hmet : IsMet t root enterable names) (h : t.IsProper) :
    Text.splitOn '/' (pathText names) = names :=
  Text.splitOn_joinWith hmet.ne_nil fun name hname => (hmet.isName h name hname).slash

theorem mem_sources_iff (h : t.IsProper) {text : Text} :
    text ∈ (((walk t root outs (depth t + 1) []).map (Text.joinWith (lit "/"))).filter
        (isSource ins outs)).mergeSort Text.le ↔
      isSource ins outs text = true ∧
        ∃ names, text = pathText names ∧ IsMet t root (enters outs) names := by
  rw [List.mem_mergeSort, List.mem_filter, List.mem_map, and_comm]
  refine and_congr_right fun _ => exists_congr fun names => ?_
  rw [isMet_of_mem_walk_iff h, and_comm, eq_comm]
  rfl

theorem pairwise_sources (h : t.IsProper) :
    ((((walk t root outs (depth t + 1) []).map (Text.joinWith (lit "/"))).filter
        (isSource ins outs)).mergeSort Text.le).Pairwise fun p q => Text.lt p q = true := by
  apply Text.pairwise_lt_mergeSort
  apply List.Nodup.filter
  refine (nodup_walk h _ _).map_on fun names hnames names' hnames' heq => ?_
  rw [isMet_of_mem_walk_iff h] at hnames hnames'
  rw [← hnames.splitOn_pathText h, ← hnames'.splitOn_pathText h]
  exact congrArg (Text.splitOn '/') heq

/-- The sources of a project by their properties, as the walk meets them. -/
theorem sources_eq_ok_iff_isMet (h : t.IsProper) {paths : List Text} :
    sources t root includes excludes = .ok paths ↔
      ∃ ins outs, Globs.read includes = .ok ins ∧ Globs.read excludes = .ok outs ∧
        paths.Pairwise (fun p q => Text.lt p q = true) ∧
        ∀ path, path ∈ paths ↔ isSource ins outs path = true ∧
          ∃ names, path = pathText names ∧ IsMet t root (enters outs) names := by
  simp only [sources, Except.bind_eq_ok_iff]
  constructor
  · rintro ⟨ins, hins, outs, houts, hpaths⟩
    obtain rfl := Except.ok.inj hpaths
    exact ⟨ins, outs, hins, houts, pairwise_sources h, fun path => mem_sources_iff h⟩
  · rintro ⟨ins, outs, hins, houts, hsorted, hmem⟩
    refine ⟨ins, hins, outs, houts, congrArg Except.ok ?_⟩
    apply Text.eq_of_pairwise_lt (pairwise_sources h) hsorted
    exact fun path => (mem_sources_iff h).trans (hmem path).symm

/-- The sources in the order in which they are met. -/
def unsorted (t : FileTree) (root : Place) (includes excludes : List Text) :
    Except Failure (List Text) := do
  let ins ← Globs.read includes
  let outs ← Globs.read excludes
  return ((walk t root outs (depth t + 1) []).map pathText).filter (isSource ins outs)

theorem sources_of_unsorted {paths : List Text} (h : unsorted t root includes excludes = .ok paths)
    (hsorted : paths.Pairwise fun p q => Text.le p q = true) :
    sources t root includes excludes = .ok paths := by
  simp only [unsorted, Except.bind_eq_ok_iff] at h
  obtain ⟨ins, hins, outs, houts, hpaths⟩ := h
  rw [← List.mergeSort_of_pairwise hsorted, ← Except.ok.inj hpaths]
  simp only [sources, hins, houts]
  rfl

/-! ## Fewer files -/

/-- Where a path of a project leads. -/
def placeOf (root : Place) (path : Text) : Place := root ++ (FilePath.ofText path).names

theorem IsMet.placeOf_pathText (hmet : IsMet t root enterable names) (h : t.IsProper) :
    placeOf root (pathText names) = root ++ names := by
  have hnames : (FilePath.ofText (pathText names)).names = names := by
    show (Text.splitOn '/' (pathText names)).filter _ = names
    rw [hmet.splitOn_pathText h, List.filter_eq_self]
    intro name hname
    have hname := hmet.isName h name hname
    simp [hname.ne_nil, hname.ne_here]
  rw [placeOf, hnames]

theorem exists_isMet_of_mem (h : t.IsProper) {paths : List Text}
    (hpaths : sources t root includes excludes = .ok paths) {path : Text} (hpath : path ∈ paths) :
    ∃ outs names, path = pathText names ∧ IsMet t root (enters outs) names := by
  obtain ⟨ins, outs, -, -, -, hmem⟩ := (sources_eq_ok_iff_isMet h).1 hpaths
  obtain ⟨-, names, hnames⟩ := (hmem path).1 hpath
  exact ⟨outs, names, hnames⟩

theorem isLeaf_placeOf (h : t.IsProper) {paths : List Text}
    (hpaths : sources t root includes excludes = .ok paths) {path : Text} (hpath : path ∈ paths) :
    t.isLeaf (placeOf root path) = true := by
  obtain ⟨outs, names, rfl, hmet⟩ := exists_isMet_of_mem h hpaths hpath
  rw [hmet.placeOf_pathText h]
  exact hmet.leaf

theorem placeOf_inj (h : t.IsProper) {paths : List Text}
    (hpaths : sources t root includes excludes = .ok paths) {path path' : Text}
    (hpath : path ∈ paths) (hpath' : path' ∈ paths)
    (heq : placeOf root path = placeOf root path') : path = path' := by
  obtain ⟨outs, names, rfl, hmet⟩ := exists_isMet_of_mem h hpaths hpath
  obtain ⟨outs', names', rfl, hmet'⟩ := exists_isMet_of_mem h hpaths hpath'
  rw [hmet.placeOf_pathText h, hmet'.placeOf_pathText h] at heq
  rw [List.append_cancel_left heq]

variable {gone : List Place}

theorem isMet_without_iff (h : t.IsProper) (hgone : ∀ p ∈ gone, t.isLeaf p = true) :
    IsMet (t.without gone) root enterable names ↔
      IsMet t root enterable names ∧ root ++ names ∉ gone := by
  constructor
  · rintro ⟨hne, hleaf, hdirs⟩
    obtain ⟨hleaf, hkept⟩ := (h.isLeaf_without hgone _).1 hleaf
    exact ⟨⟨hne, hleaf, fun dir hdir => (hdirs dir hdir).imp_left FileTree.entry?_of_without⟩,
      hkept⟩
  · rintro ⟨⟨hne, hleaf, hdirs⟩, hkept⟩
    exact ⟨hne, (h.isLeaf_without hgone _).2 ⟨hleaf, hkept⟩, fun dir hdir =>
      (hdirs dir hdir).imp_left (FileTree.entry?_without_of_dir hgone)⟩

/-- When some files are gone the others are still the sources. -/
theorem sources_without (h : t.IsProper) (hgone : ∀ p ∈ gone, t.isLeaf p = true)
    {paths : List Text} (hpaths : sources t root includes excludes = .ok paths) :
    sources (t.without gone) root includes excludes =
      .ok (paths.filter fun path => placeOf root path ∉ gone) := by
  obtain ⟨ins, outs, hins, houts, hsorted, hmem⟩ := (sources_eq_ok_iff_isMet h).1 hpaths
  refine (sources_eq_ok_iff_isMet (h.without hgone)).2
    ⟨ins, outs, hins, houts, hsorted.sublist List.filter_sublist, fun path => ?_⟩
  rw [List.mem_filter, hmem, and_assoc]
  refine and_congr_right fun _ => ?_
  constructor
  · rintro ⟨⟨names, rfl, hmet⟩, hkept⟩
    rw [hmet.placeOf_pathText h, decide_eq_true_iff] at hkept
    exact ⟨names, rfl, (isMet_without_iff h hgone).2 ⟨hmet, hkept⟩⟩
  · rintro ⟨names, rfl, hmet⟩
    obtain ⟨hmet, hkept⟩ := (isMet_without_iff h hgone).1 hmet
    refine ⟨⟨names, rfl, hmet⟩, ?_⟩
    rwa [hmet.placeOf_pathText h, decide_eq_true_iff]

/-! ## Directories that the exclusions choose -/

theorem enters_eq_true_iff : enters outs names = true ↔
    isOpen names = true ∧ outs.chooses (pathText names ++ lit "/") = false := by
  rw [enters, Bool.and_eq_true_iff, Bool.not_eq_true' (outs.chooses _)]
  rfl

theorem isMet_enters_iff : IsMet t root (enters outs) names ↔ IsMet t root isOpen names ∧
    ∀ dir ∈ above names, outs.chooses (pathText dir ++ lit "/") = false := by
  constructor
  · rintro ⟨hne, hleaf, hdirs⟩
    refine ⟨⟨hne, hleaf, fun dir hdir => ?_⟩, fun dir hdir => ?_⟩
    · exact ⟨(hdirs dir hdir).1, (enters_eq_true_iff.1 (hdirs dir hdir).2).1⟩
    · exact (enters_eq_true_iff.1 (hdirs dir hdir).2).2
  · rintro ⟨⟨hne, hleaf, hdirs⟩, hchosen⟩
    refine ⟨hne, hleaf, fun dir hdir => ⟨(hdirs dir hdir).1, ?_⟩⟩
    exact enters_eq_true_iff.2 ⟨(hdirs dir hdir).2, hchosen dir hdir⟩

/-- Discovery gives its result for all globs that can be read: in order and without repetition the
paths that are met, chosen by the inclusions and not by the exclusions, apart from those below a
directory that the exclusions choose. -/
theorem sources_eq_ok_iff (h : t.IsProper) {paths : List Text} :
    sources t root includes excludes = .ok paths ↔
      ∃ ins outs, Globs.read includes = .ok ins ∧ Globs.read excludes = .ok outs ∧
        paths.Pairwise (fun p q => Text.lt p q = true) ∧
        ∀ path, path ∈ paths ↔ isSource ins outs path = true ∧
          ∃ names, path = pathText names ∧ IsMet t root isOpen names ∧
            ∀ dir ∈ above names, outs.chooses (pathText dir ++ lit "/") = false := by
  rw [sources_eq_ok_iff_isMet h]
  simp only [isMet_enters_iff]

/-! ## A directory that is taken in and its files left out -/

/-- A project with a source at its top, one in a directory and a link to that directory. -/
def nested : FileTree := ⟨[([lit "a.ts"], .file []), ([lit "src"], .dir),
  ([lit "src", lit "b.ts"], .file []), ([lit "lib"], .link (lit "src"))]⟩

/-- Globs for all scripts. -/
def scripts : List Text := [lit "**/*.ts"]

/-- Globs for everything but scripts. -/
def allButScripts : List Text := [lit "*", lit "!*.ts"]

theorem checks_nested : nested.IsProper ∧
    (sources nested [] scripts allButScripts).toOption = some [lit "a.ts"] ∧
    (do return isSource (← Globs.read scripts) (← Globs.read allButScripts) (lit "src/b.ts") :
      Except Failure Bool).toOption = some true ∧
    IsMet nested [] isOpen [lit "src", lit "b.ts"] := by
  decide +kernel

theorem sources_nested : nested.IsProper ∧
    sources nested [] scripts allButScripts = .ok [lit "a.ts"] ∧
    ∃ ins outs, Globs.read scripts = .ok ins ∧ Globs.read allButScripts = .ok outs ∧
      [lit "a.ts"].Pairwise (fun p q => Text.lt p q = true) ∧
      ∀ path, path ∈ [lit "a.ts"] ↔ isSource ins outs path = true ∧
        ∃ names, path = pathText names ∧ IsMet nested [] isOpen names ∧
          ∀ dir ∈ above names, outs.chooses (pathText dir ++ lit "/") = false := by
  obtain ⟨hproper, hsources, -, -⟩ := checks_nested
  rw [Except.toOption_eq_some_iff] at hsources
  exact ⟨hproper, hsources, (sources_eq_ok_iff hproper).1 hsources⟩

/-- Not every path that is met and chosen by the globs is a source: the walk does not enter a
directory that the exclusions choose, although they do not choose what is in it. -/
theorem not_sources_nested : ¬ ∀ (t : FileTree) (root : Place) (includes excludes paths : List Text)
    (ins outs : Globs), t.IsProper → Globs.read includes = .ok ins →
      Globs.read excludes = .ok outs → sources t root includes excludes = .ok paths →
      ∀ path, path ∈ paths ↔ isSource ins outs path = true ∧
        ∃ names, path = pathText names ∧ IsMet t root isOpen names := by
  intro hall
  obtain ⟨hproper, hsources, hsource, hmet⟩ := checks_nested
  rw [Except.toOption_eq_some_iff] at hsources hsource
  obtain ⟨ins, outs, hins, houts, -⟩ := (sources_eq_ok_iff_isMet hproper).1 hsources
  have hb : isSource ins outs (lit "src/b.ts") = true := by
    rw [hins, houts] at hsource
    exact Except.ok.inj hsource
  have hmem := (hall _ _ _ _ _ ins outs hproper hins houts hsources _).2 ⟨hb, _, rfl, hmet⟩
  exact absurd (List.mem_singleton.1 hmem) (by decide)

end HelpCenter.Discovery

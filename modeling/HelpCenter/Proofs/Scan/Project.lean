import HelpCenter.Proofs.Scan.Discovery
import HelpCenter.Proofs.Workspace.Action
import HelpCenter.Scan.Project

/-!
# What a scan gives

A scan changes nothing but the log, and its result is a function of the files and the time
(`tells_scan`).  What it finds is what its sources show, one after the other, so the sources that
fail change nothing for the others (`scan_without_failing`).  A file can only be missed by a link that
leads to it: removing it breaks the link, which may be a source that does not fail since it is read
by the rules of another language (`not_scan_without_failing`).
-/

namespace HelpCenter.Scanner

open HelpCenter.Action

/-- What a source of a project shows, or why it fails. -/
def sourceFindings (s : Scanner) (t : FileTree) (root : Place) (framework : Option Text)
    (path : Text) : Except Failure Findings := do
  (← readSource t root path).findings framework s.catalog

/-- The framework that sources are read for. -/
def frameworkOf (t : FileTree) (root : Place) (settings : ScanSettings) (paths : List Text) :
    Except Failure (Option Text) :=
  if settings.framework = lit "auto" then framework? t root paths
  else .ok (some settings.framework)

/-- The code map of sources. -/
def mapOf (s : Scanner) (t : FileTree) (now : Moment) (root : Place) (framework : Option Text)
    (paths : List Text) : CodeMap :=
  let found := paths.filterMap fun path => (s.sourceFindings t root framework path).toOption
  codeMapOf found {
    scannedAt := now.toText
    filesScanned := paths.length
    framework := Json.ofText? framework
    filesFailed := (paths.length - found.length : ℕ) }

/-- What a scan of the project at a place gives, with these files at this time. -/
def scanned (s : Scanner) (t : FileTree) (now : Moment) (root : Place) (shown : Text)
    (settings : ScanSettings) : Except Failure CodeMap :=
  if !t.exists_ root then .error (.noProject shown)
  else if !t.isDir root then .error (.projectNotDirectory shown)
  else do
    let paths ← Discovery.sources t root settings.includes settings.excludes
    s.checkWorkers settings
    let framework ← frameworkOf t root settings paths
    return s.mapOf t now root framework paths

variable {s : Scanner} {t : FileTree} {now : Moment}

theorem tells_findings? (root : Place) (framework : Option Text) (path : Text) :
    Tells t now (s.findings? root framework path)
      (.ok (s.sourceFindings t root framework path).toOption) := by
  unfold findings? sourceFindings
  refine tells_files.then ?_
  cases hread : readSource t root path with
  | error e => exact (tells_log _).then (tells_pure none)
  | ok u =>
      change Tells t now _ (.ok (u.findings framework s.catalog).toOption)
      dsimp only
      cases u.findings framework s.catalog with
      | error e =>
          dsimp only
          split
          · exact (tells_log _).then ((tells_log _).then (tells_pure none))
          · exact (tells_log _).then (tells_pure none)
      | ok found =>
          dsimp only
          split
          · exact (tells_log _).then (tells_pure (some found))
          · exact tells_pure (some found)

/-- A scan leaves everything but the log as it is, and what it gives is known. -/
theorem tells_scan (target : Place) (shown : Text) (settings : ScanSettings) :
    Tells t now (s.scan target shown settings)
      (s.scanned t now (t.resolve target) shown settings) := by
  unfold scan scanned
  refine tells_files.then ?_
  dsimp only
  split
  · exact tells_throw _
  split
  · exact tells_throw _
  refine (tells_ofExcept _).bind fun paths _ => (tells_log _).then ?_
  refine (tells_ofExcept _).bind fun _ _ => ?_
  -- the rest is the same for every framework
  have rest (framework : Option Text) : Tells t now (do
      let scanned ← paths.mapM (s.findings? (t.resolve target) framework)
      let found := scanned.filterMap id
      let failed := scanned.length - found.length
      if failed ≠ 0 then
        log .warning (lit "Skipped " ++ Text.ofNat failed ++ lit " of " ++
          Text.ofNat paths.length ++ lit " files that could not be parsed")
      let m := codeMapOf found {
        scannedAt := (← Action.now).toText
        filesScanned := paths.length
        framework := Json.ofText? framework
        filesFailed := failed }
      log .info (summary m)
      return m) (.ok (s.mapOf t now (t.resolve target) framework paths)) := by
    refine (Tells.mapM (tells_findings? _ framework) paths).then ?_
    have hfound : (paths.map fun path =>
        (s.sourceFindings t (t.resolve target) framework path).toOption).filterMap id =
          paths.filterMap fun path =>
            (s.sourceFindings t (t.resolve target) framework path).toOption := by
      rw [List.filterMap_map]
      rfl
    dsimp only
    rw [hfound, List.length_map]
    split
    · exact (tells_log _).then (tells_now.then ((tells_log _).then (tells_pure _)))
    · exact tells_now.then ((tells_log _).then (tells_pure _))
  unfold frameworkOf
  split
  · exact (tells_ofExcept _).bind fun framework _ => rest framework
  · exact rest _

variable {settings : ScanSettings} {root : Place} {framework : Option Text}

theorem scanned_eq_ok_iff (hexplicit : settings.framework ≠ lit "auto") (shown : Text)
    {m : CodeMap} : s.scanned t now root shown settings = .ok m ↔ t.isDir root = true ∧ ∃ paths,
      Discovery.sources t root settings.includes settings.excludes = .ok paths ∧
      s.checkWorkers settings = .ok () ∧
      m = s.mapOf t now root (some settings.framework) paths := by
  unfold scanned frameworkOf
  by_cases hdir : t.isDir root = true
  · have hexists : t.exists_ root = true := by
      obtain ⟨q, hq, hentry⟩ := FileTree.isDir_iff.1 hdir
      exact FileTree.exists_iff.2 ⟨q, _, hq, hentry⟩
    simp only [hdir, hexists, if_neg hexplicit, true_and]
    simp only [Bool.not_true, if_neg Bool.false_ne_true, Except.bind_eq_ok_iff]
    refine exists_congr fun paths => and_congr_right fun _ => ?_
    constructor
    · rintro ⟨⟨⟩, hworkers, framework, hframework, h⟩
      obtain rfl := Except.ok.inj hframework
      exact ⟨hworkers, (Except.ok.inj h).symm⟩
    · rintro ⟨hworkers, rfl⟩
      exact ⟨(), hworkers, _, rfl, rfl⟩
  · refine iff_of_false (fun h => ?_) fun h => hdir h.1
    rw [Bool.not_eq_true] at hdir
    rw [hdir] at h
    split at h
    · cases h
    · cases h

/-- When a scan that is told the framework succeeds, and what it gives. -/
theorem exists_scan_eq_ok_iff (s : Scanner) (settings : ScanSettings) (target : Place) (shown : Text)
    (w : Workspace) (hexplicit : settings.framework ≠ lit "auto") {m : CodeMap} :
    (∃ w₁, (s.scan target shown settings).perform w = (.ok m, w₁)) ↔
      w.files.isDir (w.files.resolve target) = true ∧ ∃ paths,
        Discovery.sources w.files (w.files.resolve target) settings.includes settings.excludes =
          .ok paths ∧ s.checkWorkers settings = .ok () ∧
        m = s.mapOf w.files w.now (w.files.resolve target) (some settings.framework) paths := by
  obtain ⟨es, hperform⟩ := (tells_scan (s := s) target shown settings).perform_eq
    (rfl : w.files = w.files) (rfl : w.now = w.now)
  rw [← scanned_eq_ok_iff hexplicit shown, hperform]
  exact ⟨fun ⟨w₁, h⟩ => (Prod.mk.inj h).1, fun h => ⟨_, Prod.ext h rfl⟩⟩

/-! ## Files that fail -/

/-- The sources that show nothing since they cannot be read or understood. -/
def failing (s : Scanner) (t : FileTree) (root : Place) (framework : Option Text)
    (paths : List Text) : List Text :=
  paths.filter fun path => (s.sourceFindings t root framework path).toOption.isNone

variable {paths : List Text} {path : Text}

theorem length_failing (s : Scanner) (t : FileTree) (root : Place) (framework : Option Text)
    (paths : List Text) : (s.failing t root framework paths).length = paths.length -
      (paths.filterMap fun path => (s.sourceFindings t root framework path).toOption).length := by
  unfold failing
  induction paths with
  | nil => rfl
  | cons path paths ih =>
      have hle := List.length_filterMap_le
        (fun path => (s.sourceFindings t root framework path).toOption) paths
      cases h : (s.sourceFindings t root framework path).toOption with
      | none => simp [h, ih]; omega
      | some found => simp [h, ih]

theorem filterMap_filter_of_kept {α β : Type} {f g : α → Option β} {keep : α → Bool} {xs : List α}
    (hkeep : ∀ x ∈ xs, keep x = true → g x = f x) (hdrop : ∀ x ∈ xs, keep x = false → f x = none) :
    (xs.filter keep).filterMap g = xs.filterMap f := by
  rw [List.filterMap_filter]
  refine List.filterMap_congr fun x hx => ?_
  by_cases hk : keep x = true
  · rw [if_pos hk]
    exact hkeep x hx hk
  · rw [if_neg hk]
    exact (hdrop x hx (by simpa using hk)).symm

theorem readSource_congr {t' : FileTree}
    (h : t'.read (Discovery.placeOf root path) = t.read (Discovery.placeOf root path)) :
    readSource t' root path = readSource t root path := by
  have htext : t'.readText (Discovery.placeOf root path) =
      t.readText (Discovery.placeOf root path) := by
    unfold FileTree.readText
    rw [h]
  unfold Discovery.placeOf at htext
  unfold readSource
  rw [htext]

/-- What is read does not change when other files are gone, apart from links to them. -/
theorem read_without {gone : List Place} {p : Place} {content : Bytes} (h : t.IsProper)
    (hgone : ∀ p ∈ gone, t.isLeaf p = true) (hp : p ∉ gone) (hleaf : t.isLeaf p = true)
    (hlink : ∀ target, t.entry? p = some (.link target) → (t.without gone).isFile p = true)
    (hread : t.read p = .ok content) : (t.without gone).read p = .ok content := by
  obtain ⟨q, hq⟩ := FileTree.read_eq_ok_iff.1 hread
  -- what is read now was there before
  suffices hfile : (t.without gone).isFile p = true by
    obtain ⟨q', content', hq'⟩ := FileTree.isFile_iff.1 hfile
    obtain rfl := Except.ok.inj (hread.symm.trans
      (FileTree.read_eq_ok_iff.2 ⟨q', hq'.of_without⟩))
    exact FileTree.read_eq_ok_iff.2 ⟨q', hq'⟩
  obtain ⟨e, he, hdir⟩ := FileTree.exists_entry_of_isLeaf hleaf
  cases e with
  | dir => exact absurd rfl hdir
  | link target => exact hlink target he
  | file c =>
      refine FileTree.isFile_iff.2 ⟨p, c, (h.without hgone).holds ?_⟩
      rw [FileTree.entry?_without_of_notMem hp, he]

theorem exists_read_of_sourceFindings {found : Findings}
    (h : s.sourceFindings t root framework path = .ok found) :
    ∃ content, t.read (Discovery.placeOf root path) = .ok content := by
  obtain ⟨u, hu, -⟩ := Except.bind_eq_ok_iff.1 h
  unfold readSource at hu
  cases hread : t.read (Discovery.placeOf root path) with
  | ok content => exact ⟨content, rfl⟩
  | error fault =>
      have htext : t.readText (root ++ (FilePath.ofText path).names) = .error (.file fault) := by
        unfold Discovery.placeOf at hread
        unfold FileTree.readText
        rw [hread]
      rw [htext] at hu
      cases hu

theorem mem_failing_iff : path ∈ s.failing t root framework paths ↔
    path ∈ paths ∧ (s.sourceFindings t root framework path).toOption = none := by
  rw [failing, List.mem_filter, Option.isNone_iff_eq_none]

section Without

/-- The places of the sources that fail. -/
def failingPlaces (s : Scanner) (t : FileTree) (root : Place) (framework : Option Text)
    (paths : List Text) : List Place :=
  (s.failing t root framework paths).map (Discovery.placeOf root)

/-- Every source that does not fail and is a link still leads to a file when the files that fail
are gone. -/
def KeepsLinks (s : Scanner) (t : FileTree) (root : Place) (framework : Option Text)
    (paths : List Text) : Prop :=
  ∀ path ∈ paths, path ∉ s.failing t root framework paths → ∀ target,
    t.entry? (Discovery.placeOf root path) = some (.link target) →
      (t.without (s.failingPlaces t root framework paths)).isFile (Discovery.placeOf root path) =
        true

variable (hproper : t.IsProper)
  (hpaths : Discovery.sources t root settings.includes settings.excludes = .ok paths)

include hproper hpaths

theorem isLeaf_of_mem_failingPlaces :
    ∀ p ∈ s.failingPlaces t root framework paths, t.isLeaf p = true := by
  intro p hp
  obtain ⟨path, hpath, rfl⟩ := List.mem_map.1 hp
  exact Discovery.isLeaf_placeOf hproper hpaths (mem_failing_iff.1 hpath).1

theorem mem_failingPlaces_iff (hpath : path ∈ paths) :
    Discovery.placeOf root path ∈ s.failingPlaces t root framework paths ↔
      path ∈ s.failing t root framework paths := by
  constructor
  · intro hplace
    obtain ⟨path', hpath', heq⟩ := List.mem_map.1 hplace
    rwa [← Discovery.placeOf_inj hproper hpaths (mem_failing_iff.1 hpath').1 hpath heq]
  · exact fun hfails => List.mem_map.2 ⟨path, hfails, rfl⟩

/-- A source that does not fail shows the same when those that fail are gone. -/
theorem sourceFindings_without (hlinks : s.KeepsLinks t root framework paths) (hpath : path ∈ paths)
    (hkept : path ∉ s.failing t root framework paths) :
    s.sourceFindings (t.without (s.failingPlaces t root framework paths)) root framework path =
      s.sourceFindings t root framework path := by
  have hgone : ∀ p ∈ s.failingPlaces t root framework paths, t.isLeaf p = true :=
    isLeaf_of_mem_failingPlaces hproper hpaths
  cases hfound : s.sourceFindings t root framework path with
  | error e => exact absurd (mem_failing_iff.2 ⟨hpath, by rw [hfound]; rfl⟩) hkept
  | ok found =>
      obtain ⟨content, hread⟩ := exists_read_of_sourceFindings hfound
      have hread' := read_without hproper hgone
        (fun hplace => hkept ((mem_failingPlaces_iff hproper hpaths hpath).1 hplace))
        (Discovery.isLeaf_placeOf hproper hpaths hpath) (hlinks path hpath hkept) hread
      rw [← hfound]
      unfold sourceFindings
      rw [readSource_congr (hread'.trans hread.symm)]

/-- The sources that are left when those that fail are gone. -/
theorem sources_without_failing :
    Discovery.sources (t.without (s.failingPlaces t root framework paths)) root settings.includes
        settings.excludes =
      .ok (paths.filter fun path => path ∉ s.failing t root framework paths) := by
  rw [Discovery.sources_without hproper (isLeaf_of_mem_failingPlaces hproper hpaths) hpaths]
  refine congrArg Except.ok (List.filter_congr fun path hpath => ?_)
  rw [decide_eq_decide, mem_failingPlaces_iff hproper hpaths hpath]

/-- What the sources show is the same when those that fail are gone. -/
theorem filterMap_without_failing (hlinks : s.KeepsLinks t root framework paths) :
    (paths.filter fun path => path ∉ s.failing t root framework paths).filterMap (fun path =>
        (s.sourceFindings (t.without (s.failingPlaces t root framework paths)) root framework
          path).toOption) =
      paths.filterMap fun path => (s.sourceFindings t root framework path).toOption := by
  apply filterMap_filter_of_kept
  · intro path hpath hkept
    rw [sourceFindings_without hproper hpaths hlinks hpath (of_decide_eq_true hkept)]
  · intro path hpath hdropped
    rw [decide_eq_false_iff_not, not_not] at hdropped
    exact (mem_failing_iff.1 hdropped).2

/-- When the sources that fail are gone no other fails. -/
theorem failing_without_failing (hlinks : s.KeepsLinks t root framework paths) :
    s.failing (t.without (s.failingPlaces t root framework paths)) root framework
      (paths.filter fun path => path ∉ s.failing t root framework paths) = [] := by
  rw [failing, List.filter_eq_nil_iff]
  intro path hpath
  obtain ⟨hpath, hkept⟩ := List.mem_filter.1 hpath
  have hkept : path ∉ s.failing t root framework paths := of_decide_eq_true hkept
  rw [sourceFindings_without hproper hpaths hlinks hpath hkept, Option.isNone_iff_eq_none]
  exact fun hnone => hkept (mem_failing_iff.2 ⟨hpath, hnone⟩)

end Without

/-- One source that fails changes nothing for the others.  A scan gives what its sources show, one
after the other; those that fail are counted, and without them the scan gives the same, whatever the
numbers of workers are, as long as no other source is a link that led to one of them. -/
theorem scan_without_failing {w w₁ : Workspace} {target : Place} {shown : Text} {m : CodeMap}
    (hproper : w.files.IsProper) (hexplicit : settings.framework ≠ lit "auto")
    (hroot : w.files.resolve target = root) (hframework : framework = some settings.framework)
    (hscan : (s.scan target shown settings).perform w = (.ok m, w₁)) :
    ∃ paths, Discovery.sources w.files root settings.includes settings.excludes = .ok paths ∧
      m.info.filesScanned = paths.length ∧
      m.info.filesFailed = (s.failing w.files root framework paths).length ∧
      m = codeMapOf (paths.filterMap fun path =>
        (s.sourceFindings w.files root framework path).toOption) m.info ∧
      ∀ (workers workers' : Option Int) (w' : Workspace) (target' : Place) (shown' : Text),
        w'.files = w.files.without (s.failingPlaces w.files root framework paths) →
        w'.files.resolve target' = root → s.KeepsLinks w.files root framework paths →
        { s with workers }.checkWorkers { settings with workers := workers' } = .ok () →
        ∃ m' w₂, ({ s with workers }.scan target' shown'
            { settings with workers := workers' }).perform w' = (.ok m', w₂) ∧
          m'.info.filesFailed = 0 ∧ { m' with info := m.info } = m := by
  subst hframework hroot
  obtain ⟨hdir, paths, hpaths, -, rfl⟩ :=
    (exists_scan_eq_ok_iff s settings target shown w hexplicit).1 ⟨w₁, hscan⟩
  refine ⟨paths, hpaths, rfl, congrArg Int.ofNat (length_failing ..).symm, rfl, ?_⟩
  intro workers workers' w' target' shown' hfiles hroot hlinks hworkers
  have hdir' : w'.files.isDir (w'.files.resolve target') = true := by
    rw [hroot, hfiles, hproper.isDir_without (isLeaf_of_mem_failingPlaces hproper hpaths), hdir]
  have hpaths' : Discovery.sources w'.files (w'.files.resolve target') settings.includes
      settings.excludes = .ok (paths.filter fun path =>
        path ∉ s.failing w.files (w.files.resolve target) (some settings.framework) paths) := by
    rw [hroot, hfiles]
    exact sources_without_failing hproper hpaths
  obtain ⟨w₂, hscan'⟩ := (exists_scan_eq_ok_iff { s with workers }
    { settings with workers := workers' } target' shown' w' hexplicit).2
      ⟨hdir', _, hpaths', hworkers, rfl⟩
  refine ⟨_, w₂, hscan', ?_, ?_⟩
  · have hnone := congrArg List.length (failing_without_failing hproper hpaths hlinks)
    rw [length_failing, ← hfiles] at hnone
    rw [hroot]
    exact congrArg Int.ofNat hnone
  · have hfound := filterMap_without_failing hproper hpaths hlinks
    rw [← hfiles] at hfound
    rw [hroot]
    exact congrArg (codeMapOf · _) hfound

/-! ## Links to files that fail -/

/-- A server that is a call with a type in TypeScript and two comparisons in JavaScript, so that its
string with an escape that stands for no character is only read in TypeScript. -/
def server : Bytes := (Text.toUtf8?
  (lit "app.post(\"/pay\", pay);\napp.get<T>(\"\\u\x7bFFFFFFFFF\x7d\", get);\n")).getD []

/-- A server in JavaScript, which a link leads to, and one in TypeScript. -/
def goodLink : FileTree := ⟨[([lit "a.js"], .file server), ([lit "b.ts"], .file server),
  ([lit "c.js"], .link (lit "a.js"))]⟩

/-- A server in TypeScript and a link to it that is read as JavaScript. -/
def badLink : FileTree := ⟨[([lit "a.js"], .link (lit "b.ts")), ([lit "b.ts"], .file server)]⟩

/-- A scanner that looks for no topics. -/
def plain : Scanner := ⟨[], none⟩

/-- The scan of a server. -/
def serverScan : ScanSettings :=
  { includes := [lit "*.ts", lit "*.js"], excludes := [], framework := lit "express" }

theorem checks_goodLink : goodLink.IsProper ∧ goodLink.resolve [] = [] ∧
    goodLink.isDir [] = true ∧ (Discovery.unsorted goodLink [] serverScan.includes []).toOption =
      some [lit "a.js", lit "b.ts", lit "c.js"] ∧
    (goodLink.without (plain.failingPlaces goodLink [] (some (lit "express"))
      [lit "a.js", lit "b.ts", lit "c.js"])).resolve [] = [] ∧
    (∀ path ∈ [lit "a.js", lit "b.ts", lit "c.js"],
      path ∉ plain.failing goodLink [] (some (lit "express")) [lit "a.js", lit "b.ts", lit "c.js"] →
        (goodLink.without (plain.failingPlaces goodLink [] (some (lit "express"))
          [lit "a.js", lit "b.ts", lit "c.js"])).isFile (Discovery.placeOf [] path) = true) ∧
    plain.failing goodLink [] (some (lit "express")) [lit "a.js", lit "b.ts", lit "c.js"] =
      [lit "b.ts"] := by
  decide +kernel

theorem scan_without_failing_goodLink : ∃ m w₁ m' w₂,
    (plain.scan [] [] serverScan).perform ⟨goodLink, ⟨0⟩, [], []⟩ = (.ok m, w₁) ∧
    ({ plain with workers := some 4 }.scan [] [] serverScan).perform
      ⟨goodLink.without (plain.failingPlaces goodLink [] (some (lit "express"))
        [lit "a.js", lit "b.ts", lit "c.js"]), ⟨1⟩, [], []⟩ = (.ok m', w₂) ∧
    m.info.filesFailed = 1 ∧ m'.info.filesFailed = 0 ∧ { m' with info := m.info } = m := by
  obtain ⟨hproper, hroot, hdir, hunsorted, hroot', hfiles, hfailing⟩ := checks_goodLink
  have hpaths : Discovery.sources goodLink [] serverScan.includes [] = .ok _ :=
    Discovery.sources_of_unsorted (Except.toOption_eq_some_iff.1 hunsorted) (by decide)
  have hexplicit : serverScan.framework ≠ lit "auto" := by decide
  obtain ⟨w₁, hscan⟩ := (exists_scan_eq_ok_iff plain serverScan [] [] ⟨goodLink, ⟨0⟩, [], []⟩
    hexplicit).2 ⟨by rw [hroot]; exact hdir, _, by rw [hroot]; exact hpaths, rfl, rfl⟩
  obtain ⟨paths, hpaths', -, hfailed, -, hrest⟩ :=
    scan_without_failing hproper hexplicit hroot rfl hscan
  obtain rfl := Except.ok.inj (hpaths.symm.trans hpaths')
  obtain ⟨m', w₂, hscan', hnone, hsame⟩ := hrest (some 4) none ⟨goodLink.without _, ⟨1⟩, [], []⟩ [] []
    rfl hroot' (fun path hpath hkept _ _ => hfiles path hpath hkept) rfl
  refine ⟨_, w₁, m', w₂, hscan, hscan', ?_, hnone, hsame⟩
  rw [hfailed, show serverScan.framework = lit "express" from rfl, hfailing]
  rfl

theorem checks_badLink : badLink.IsProper ∧ badLink.resolve [] = [] ∧ badLink.isDir [] = true ∧
    (Discovery.unsorted badLink [] serverScan.includes []).toOption =
      some [lit "a.js", lit "b.ts"] ∧
    (badLink.without (plain.failingPlaces badLink [] (some (lit "express"))
      [lit "a.js", lit "b.ts"])).resolve [] = [] ∧
    (Discovery.unsorted (badLink.without (plain.failingPlaces badLink [] (some (lit "express"))
      [lit "a.js", lit "b.ts"])) [] serverScan.includes []).toOption = some [lit "a.js"] ∧
    (plain.mapOf badLink ⟨0⟩ [] (some (lit "express")) [lit "a.js", lit "b.ts"]).routes.length = 1 ∧
    (plain.mapOf (badLink.without (plain.failingPlaces badLink [] (some (lit "express"))
      [lit "a.js", lit "b.ts"])) ⟨0⟩ [] (some (lit "express")) [lit "a.js"]).routes = [] := by
  decide +kernel

/-- Removing the sources that fail can change what a scan gives: a link to one of them is read by the
rules of another language, and then leads nowhere. -/
theorem not_scan_without_failing : ¬ ∀ (s : Scanner) (settings : ScanSettings) (w w' w₁ : Workspace)
    (target : Place) (shown : Text) (m : CodeMap) (paths : List Text), w.files.IsProper →
      settings.framework ≠ lit "auto" →
      (s.scan target shown settings).perform w = (.ok m, w₁) →
      Discovery.sources w.files (w.files.resolve target) settings.includes settings.excludes =
        .ok paths →
      w'.files = w.files.without
        (s.failingPlaces w.files (w.files.resolve target) (some settings.framework) paths) →
      w'.files.resolve target = w.files.resolve target →
      ∃ m' w₂, (s.scan target shown settings).perform w' = (.ok m', w₂) ∧ m'.routes = m.routes := by
  intro hall
  obtain ⟨hproper, hroot, hdir, hunsorted, hroot', hunsorted', hroutes, hnone⟩ := checks_badLink
  have hpaths : Discovery.sources badLink [] serverScan.includes [] = .ok _ :=
    Discovery.sources_of_unsorted (Except.toOption_eq_some_iff.1 hunsorted) (by decide)
  have hpaths' : Discovery.sources (badLink.without _) [] serverScan.includes [] = .ok _ :=
    Discovery.sources_of_unsorted (Except.toOption_eq_some_iff.1 hunsorted') (by decide)
  have hexplicit : serverScan.framework ≠ lit "auto" := by decide
  obtain ⟨w₁, hscan⟩ := (exists_scan_eq_ok_iff plain serverScan [] [] ⟨badLink, ⟨0⟩, [], []⟩
    hexplicit).2 ⟨by rw [hroot]; exact hdir, _, by rw [hroot]; exact hpaths, rfl, rfl⟩
  obtain ⟨m', w₂, hscan', hsame⟩ := hall plain serverScan ⟨badLink, ⟨0⟩, [], []⟩
    ⟨badLink.without _, ⟨0⟩, [], []⟩ w₁ [] [] _ _ hproper hexplicit hscan
    (by rw [hroot]; exact hpaths) rfl (by simp only [hroot]; exact hroot')
  obtain ⟨-, paths, hsources, -, rfl⟩ :=
    (exists_scan_eq_ok_iff plain serverScan [] [] _ hexplicit).1 ⟨w₂, hscan'⟩
  simp only [hroot] at hsources hsame
  simp only [show serverScan.framework = lit "express" from rfl] at hsources hsame
  rw [hroot'] at hsources hsame
  obtain rfl := Except.ok.inj (hpaths'.symm.trans hsources)
  rw [hnone] at hsame
  rw [← hsame] at hroutes
  cases hroutes

end HelpCenter.Scanner

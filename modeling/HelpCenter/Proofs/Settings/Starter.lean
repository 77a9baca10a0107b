import HelpCenter.Proofs.Files.Resolve
import HelpCenter.Proofs.Settings.Load
import HelpCenter.Proofs.Settings.StarterText
import HelpCenter.Proofs.Text.Encoding

/-!
# Loading a starter configuration

What is written for a product is found in its directory and read again (`locate_starterFile`,
`readText_of_holds`).  A name on one line is then loaded with all the settings meant, or something else
is, depending on its characters alone (`load_starterText_iff`, `load_writeStarter_iff`): a quote or an
escape sign in it is not escaped when it is written.
-/

namespace HelpCenter

open Yaml Except

namespace Settings

variable {files files' : FileTree} {root target dir place file : Place} {product : Option Text}
  {overwrite : Bool} {s t : Text}

/-- The name that a starter configuration is written for: the one given, else the directory's, else
the one that holds when a configuration is silent. -/
def starterName (root : Place) (product : Option Text) : Text :=
  let name := (product.filter fun n => !n.isEmpty).getD (root.getLast?.getD [])
  if name.isEmpty then ({ root } : Settings).name else name

/-- The settings that a starter configuration means. -/
def starterSettings (root source : Place) (name : Text) : Settings where
  root
  name
  scan := {
    excludes := ({} : ScanSettings).excludes ++ [lit "**/__tests__/**", lit "**/__mocks__/**"] }
  source

theorem starterName_ne_nil (root : Place) (product : Option Text) :
    starterName root product ≠ [] := by
  unfold starterName
  dsimp only
  split
  · decide
  · next hfilled => exact fun hnil => hfilled (List.isEmpty_iff.2 hnil)

/-! ## Reading the document -/

theorem ofSection_starterDocument (root : Place) (t : Text) :
    ofSection root ⟨starterDocument t, (.str (lit "name"), .str t) :: starterValues⟩ =
      .ok (starterSettings root [] (if t = [] then ({ root } : Settings).name else t)) := by
  cases t <;> rfl

theorem isUsable_starterSettings (root source : Place) (name : Text) :
    (starterSettings root source name).IsUsable := check_eq_ok_iff.1 rfl

theorem read_of_starterDocument (hfile : locate files target = .ok (dir, place))
    (hdocument : readFile files place = .ok (starterDocument t)) :
    read files target =
      .ok (starterSettings dir place (if t = [] then ({ root := dir } : Settings).name else t)) := by
  unfold read
  rw [hfile, ok_bind]
  dsimp only
  rw [hdocument, ok_bind]
  have hroot : (starterDocument t).deref (starterDocument t).root =
      .map ((.str (lit "name"), .str t) :: starterValues) := rfl
  rw [hroot]
  dsimp only
  rw [ofSection_starterDocument]
  rfl

theorem isBlank_starterText (s : Text) : ¬ (starterText s).isBlank = true := by
  rw [starterText_eq]
  exact Bool.false_ne_true

theorem readFile_of_parse (hjson : ¬ NamesJson place)
    (htext : files.readText place = .ok (starterText s))
    (hparse : parse (starterText s) = .ok (some (starterDocument t))) :
    readFile files place = .ok (starterDocument t) := by
  unfold NamesJson at hjson
  rw [readFile_of_readText htext, documentOf, if_neg (isBlank_starterText s), if_neg hjson, hparse]
  rfl

theorem readFile_of_fault {fault : Fault} (hjson : ¬ NamesJson place)
    (htext : files.readText place = .ok (starterText s))
    (hparse : parse (starterText s) = .error fault) : ∃ e, readFile files place = .error e := by
  unfold NamesJson at hjson
  rw [readFile_of_readText htext, documentOf, if_neg (isBlank_starterText s), if_neg hjson, hparse]
  cases fault <;> exact ⟨_, rfl⟩

/-- A starter text is loaded as the settings that it means just if its name can be read back. -/
theorem load_starterText_iff (hfile : locate files target = .ok (dir, place))
    (hjson : ¬ NamesJson place) (htext : files.readText place = .ok (starterText s))
    (hs : s ≠ []) (hline : ∀ ch ∈ s, isBreak ch = false) :
    load files target = .ok (starterSettings dir place s) ↔ IsFaithful s := by
  constructor
  · intro hload
    rcases parse_starterText hline with ⟨t, hparse, ht⟩ | ⟨fault, hfault⟩
    · have hsettings := (load_succeeds_iff.1 hload).1
      rw [read_of_starterDocument hfile (readFile_of_parse hjson htext hparse), Except.ok.injEq]
        at hsettings
      have hname := congrArg Settings.name hsettings
      change ite _ _ _ = s at hname
      split_ifs at hname with hempty
      · rw [← hname]
        exact (by decide : IsFaithful (lit "My Product"))
      · exact ht hname
    · obtain ⟨e, he⟩ := readFile_of_fault hjson htext hfault
      rw [load_eq_error_of_readFile hfile he] at hload
      cases hload
  · intro h
    refine load_succeeds_iff.2 ⟨?_, isUsable_starterSettings dir place s⟩
    have hread := readFile_of_parse hjson htext (parse_of_faithful h)
    rw [read_of_starterDocument hfile hread, if_neg hs]

/-! ## Writing the text -/

/-- The place of the starter configuration of a directory. -/
def starterFile (root : Place) : Place := root ++ [lit "kodex.config.yaml"]

theorem not_namesJson_starterFile : ¬ NamesJson (starterFile root) := by
  unfold NamesJson starterFile
  rw [List.getLast?_concat]
  decide

theorem writeStarter_eq : writeStarter files root product overwrite =
    if files.exists_ (starterFile root) && !overwrite then
      .error (.configExists ((starterFile root).getLast?.getD []))
    else
      match Text.toUtf8? (starterText (starterName root product)) with
      | none => .error (.data .notEncodable)
      | some bytes =>
        match files.write (starterFile root) bytes with
        | .ok files => .ok (files, starterFile root)
        | .error fault => .error (.file fault) := by
  have hfile : root ++ fileNames.take 1 = starterFile root := rfl
  have hname : (let name := (product.filter fun n => !n.isEmpty).getD (root.getLast?.getD [])
      if name.isEmpty then ({ root } : Settings).name else name) = starterName root product := rfl
  unfold writeStarter
  dsimp only at hname ⊢
  rw [hfile, hname]
  generalize starterText (starterName root product) = text
  split_ifs <;> rfl

theorem writeStarter_eq_ok (h : writeStarter files root product overwrite = .ok (files', file)) :
    file = starterFile root ∧ ∃ bytes,
      Text.toUtf8? (starterText (starterName root product)) = some bytes ∧
        files.write file bytes = .ok files' := by
  rw [writeStarter_eq] at h
  split_ifs at h
  split at h
  · cases h
  · next bytes hbytes =>
    split at h
    · next hwrite =>
      cases h
      exact ⟨rfl, bytes, hbytes, hwrite⟩
    · cases h

theorem isEncodable_starterText : (starterText s).isEncodable = true ↔ s.isEncodable = true := by
  have hheading : heading.isEncodable = true := by decide +kernel
  have hclosing : closing.isEncodable = true := by decide +kernel
  have hquote : CodePoint.isSurrogate '"' = false := by decide
  unfold Text.isEncodable at hheading hclosing ⊢
  rw [starterText_eq]
  simp only [List.all_append, List.all_cons, hheading, hclosing, hquote, Bool.not_false,
    Bool.true_and, Bool.and_true]

/-- A starter configuration is written if its name is no broken text, and where its file can be
written and need not be replaced, or may. -/
theorem exists_writeStarter {q : Place} (hname : (starterName root product).isEncodable = true)
    (hreplace : files.exists_ (starterFile root) = true → overwrite = true)
    (hfile : files.locate (starterFile root) = .ok q) (hq : files.entry? q ≠ some .dir) :
    ∃ bytes, writeStarter files root product overwrite =
      .ok (files.set q (.file bytes), starterFile root) := by
  have hkeeps : ¬ (files.exists_ (starterFile root) && !overwrite) = true := by simpa using hreplace
  obtain ⟨bytes, hbytes⟩ : ∃ bytes,
      Text.toUtf8? (starterText (starterName root product)) = some bytes :=
    ⟨_, if_pos (isEncodable_starterText.2 hname)⟩
  have hwrite : files.write (starterFile root) bytes = .ok (files.set q (.file bytes)) := by
    refine bind_eq_ok_iff.2 ⟨q, hfile, ?_⟩
    split
    · next hdir => exact absurd hdir hq
    · rfl
  refine ⟨bytes, ?_⟩
  rw [writeStarter_eq, if_neg hkeeps, hbytes]
  simp only [hwrite]

theorem starterName_of_product (root : Place) (hs : s ≠ []) : starterName root (some s) = s := by
  have hfilled : (!s.isEmpty) = true := by simpa using hs
  have hname : starterName root (some s) = if s.isEmpty then ({ root } : Settings).name else s := by
    unfold starterName
    rw [show (some s).filter (fun n => !n.isEmpty) = some s from Option.filter_some_pos hfilled]
    rfl
  rw [hname, if_neg (by simpa using hs)]

theorem exists_writeStarter_empty (hs : s ≠ []) (hencodable : s.isEncodable = true) :
    ∃ bytes, writeStarter .empty [] (some s) false =
      .ok (.set .empty (starterFile []) (.file bytes), starterFile []) :=
  exists_writeStarter (by rwa [starterName_of_product [] hs]) (by decide) rfl nofun

/-- A text that is written is read again, if its lines end in line feeds. -/
theorem readText_of_holds {p q : Place} {bytes : Bytes} (h : files.Holds p q bytes)
    (hbytes : Text.toUtf8? t = some bytes) (hreturn : ('\r' : CodePoint) ∉ t) :
    files.readText p = .ok t := by
  simp only [FileTree.readText, FileTree.read_eq_ok_iff.2 ⟨q, h⟩, Text.decode_toUtf8? hbytes,
    Text.normalizeNewlines_of_notMem hreturn]

theorem return_notMem_starterText (hline : ∀ ch ∈ s, isBreak ch = false) :
    ('\r' : CodePoint) ∉ starterText s := by
  have hheading : ('\r' : CodePoint) ∉ heading := by decide +kernel
  have hclosing : ('\r' : CodePoint) ∉ closing := by decide +kernel
  have hname : ('\r' : CodePoint) ∉ s := fun hmem => absurd (hline _ hmem) (by decide)
  rw [starterText_eq]
  simp only [List.mem_append, List.mem_cons, not_or]
  exact ⟨hheading, by decide, hname, by decide, hclosing⟩

/-- The configuration of a directory is found there, and a configuration file is found itself. -/
theorem locate_starterFile {q : Place} {bytes : Bytes}
    (h : files.Holds (starterFile root) q bytes) :
    locate files root = .ok (files.resolve root, starterFile (files.resolve root)) ∧
      files.Holds (starterFile (files.resolve root)) q bytes ∧
      locate files (starterFile root) = .ok (q.dropLast, q) ∧ files.Holds q q bytes := by
  obtain ⟨hroot, hdir, hfile⟩ := FileTree.locate_resolve_append h.locate
  have hholds : files.Holds (starterFile (files.resolve root)) q bytes := ⟨hfile, h.entry⟩
  have hself : files.Holds q q bytes := ⟨FileTree.locate_self h.locate, h.entry⟩
  refine ⟨?_, hholds, ?_, hself⟩
  · have hfind : findFile? files (files.resolve root) = some (starterFile (files.resolve root)) :=
      List.find?_cons_of_pos (FileTree.isFile_iff.2 ⟨q, bytes, hholds⟩)
    unfold locate
    rw [if_pos (FileTree.isDir_iff.2 ⟨_, hroot, hdir⟩)]
    simp only [hfind]
  · have hnotDir : ¬ files.isDir (starterFile root) = true := by
      rw [FileTree.isDir_iff]
      rintro ⟨q', hq', hdir'⟩
      rw [Except.ok.inj (hq'.symm.trans h.locate), h.entry] at hdir'
      cases hdir'
    unfold locate
    rw [if_neg hnotDir, FileTree.resolve_eq h.locate]
    exact if_pos (FileTree.exists_iff.2 ⟨q, _, hself.locate, hself.entry⟩)

/-- A starter text is loaded from its directory, and from the file itself. -/
theorem loads_of_holds {q : Place} {bytes : Bytes} (hq : files.Holds (starterFile root) q bytes)
    (hbytes : Text.toUtf8? (starterText s) = some bytes) (hs : s ≠ [])
    (hline : ∀ ch ∈ s, isBreak ch = false) :
    (load files root = .ok (starterSettings (files.resolve root)
        (starterFile (files.resolve root)) s) ↔ IsFaithful s) ∧
    (¬ NamesJson (files.resolve (starterFile root)) →
      (load files (starterFile root) = .ok (starterSettings
          (files.resolve (starterFile root)).dropLast (files.resolve (starterFile root)) s) ↔
        IsFaithful s)) := by
  obtain ⟨hroot, hbelow, hfile, hself⟩ := locate_starterFile hq
  have hreturn := return_notMem_starterText hline
  rw [FileTree.resolve_eq hq.locate]
  exact ⟨load_starterText_iff hroot not_namesJson_starterFile
      (readText_of_holds hbelow hbytes hreturn) hs hline,
    fun hyaml => load_starterText_iff hfile hyaml (readText_of_holds hself hbytes hreturn) hs hline⟩

/-- For every product and directory: a starter configuration whose name stands on one line is loaded
as the settings that it means, from the directory as well as from its own file, just if all characters
of the name are allowed and stand for themselves between quotes. -/
theorem load_writeStarter_iff
    (h : writeStarter files root product overwrite = .ok (files', file))
    (hline : ∀ ch ∈ starterName root product, isBreak ch = false) :
    (load files' root = .ok (starterSettings (files'.resolve root)
        (starterFile (files'.resolve root)) (starterName root product)) ↔
      IsFaithful (starterName root product)) ∧
    (¬ NamesJson (files'.resolve file) →
      (load files' file = .ok (starterSettings (files'.resolve file).dropLast
          (files'.resolve file) (starterName root product)) ↔
        IsFaithful (starterName root product))) := by
  obtain ⟨rfl, bytes, hbytes, hwrite⟩ := writeStarter_eq_ok h
  obtain ⟨-, q, hq⟩ := FileTree.extends_write hwrite
  exact loads_of_holds hq hbytes (starterName_ne_nil root product) hline

theorem load_writeStarter_plain : ∃ files' file,
    writeStarter .empty [] (some (lit "Acme")) false = .ok (files', file) ∧
      (∀ ch ∈ starterName [] (some (lit "Acme")), isBreak ch = false) ∧
        ¬ NamesJson (files'.resolve file) ∧
          load files' [] = .ok (starterSettings [] (starterFile []) (lit "Acme")) ∧
            load files' file = .ok (starterSettings [] (starterFile []) (lit "Acme")) := by
  have hline : ∀ ch ∈ starterName [] (some (lit "Acme")), isBreak ch = false := by decide
  have hname : IsFaithful (lit "Acme") := by decide
  obtain ⟨bytes, h⟩ := exists_writeStarter_empty (s := lit "Acme") (by decide) (by decide)
  obtain ⟨hroot, hfile⟩ := load_writeStarter_iff h hline
  have hyaml : ¬ NamesJson (FileTree.resolve (.set .empty (starterFile []) (.file bytes))
      (starterFile [])) := by
    show ¬ NamesJson (starterFile [])
    exact not_namesJson_starterFile
  exact ⟨_, _, h, hline, hyaml, hroot.2 hname, (hfile hyaml).2 hname⟩

/-- A starter configuration for a name with a quote is written and cannot be loaded. -/
theorem not_load_writeStarter : ¬ ∀ (files files' : FileTree) (root file : Place) (name : Text),
    name ≠ [] → writeStarter files root (some name) false = .ok (files', file) →
      load files' root = .ok (starterSettings (files'.resolve root)
        (starterFile (files'.resolve root)) name) := by
  intro hall
  obtain ⟨bytes, h⟩ := exists_writeStarter_empty (s := lit "a\"b") (by decide) (by decide)
  obtain ⟨-, bytes, hbytes, hwrite⟩ := writeStarter_eq_ok h
  obtain ⟨-, q, hq⟩ := FileTree.extends_write hwrite
  have hload := hall _ _ _ _ (lit "a\"b") (by decide) h
  have hfaithful := (loads_of_holds hq hbytes (by decide) (by decide)).1.1 hload
  exact absurd hfaithful (by decide)

end Settings

end HelpCenter

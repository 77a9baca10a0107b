import HelpCenter.Proofs.Settings.Check
import HelpCenter.Proofs.Settings.Reading
import HelpCenter.Settings.Files

/-!
# How loading settings ends

What is wrong with a configuration is told as such, with few exceptions (`Escapes`): bytes that are
not UTF-8, values that the readers of the two languages recognise but cannot convert, integers that
are too long or too large for where they stand, and patterns that the reader of patterns gives up on.
So loading ends in one of three ways (`load_cases`).
-/

namespace HelpCenter

namespace Settings

open Except

variable {s : Settings} {files : FileTree} {target : Place}

/-- Whether the name of a configuration file says that it holds JSON. -/
def NamesJson (file : Place) : Prop := (FilePath.splitName (file.getLast?.getD [])).2 = lit ".json"

/-- How loading fails without telling that the configuration is wrong. -/
inductive Escapes (files : FileTree) (target : Place) : Failure → Prop
  /-- The file is not UTF-8. -/
  | notUtf8 {root file : Place} {bytes : Bytes} {fault : Utf8.Fault}
      (hfile : locate files target = .ok (root, file)) (hbytes : files.read file = .ok bytes)
      (hfault : Utf8.decode bytes = .error fault) : Escapes files target (.data (.notUtf8 fault))
  /-- The file is JSON with an integer that has too many digits. -/
  | json {root file : Place} {text : Text} (hfile : locate files target = .ok (root, file))
      (hjson : NamesJson file) (htext : files.readText file = .ok text)
      (hfault : Json.parse text = .error .hugeInteger) :
      Escapes files target (.data .unreadable)
  /-- The file is YAML with a scalar that looks like a value of its tag and is none. -/
  | yaml {root file : Place} {text : Text} {fault : DataFault}
      (hfile : locate files target = .ok (root, file)) (hyaml : ¬ NamesJson file)
      (htext : files.readText file = .ok text) (hfault : Yaml.parse text = .error (.data fault)) : Escapes files target (.data fault)
  /-- The document holds an integer that cannot be converted. -/
  | integer {root file : Place} {d : Yaml.Document} {fault : DataFault}
      (hfile : locate files target = .ok (root, file)) (hdocument : readFile files file = .ok d)
      (hfault : d.Refuses fault) : Escapes files target (.data fault)
  /-- A custom topic has a pattern that cannot be read and is not malformed. -/
  | pattern {s : Settings} {t : CustomTopic} {pattern body : Text} {fault : PatternFault}
      (hread : read files target = .ok s) (ht : t ∈ s.docs.customTopics)
      (hpattern : pattern ∈ t.patterns) (hbody : patternBody? pattern = some body)
      (hfault : CompiledPattern.read {} body = .error fault) (hbad : fault ≠ .malformed) :
      Escapes files target fault.failure

/-- A failure that tells what is wrong with the configuration, or one of the others. -/
abbrev Fails (files : FileTree) (target : Place) (e : Failure) : Prop :=
  (∃ fault, e = .config fault) ∨ Escapes files target e

theorem faults_locate : Faults (fun e => ∃ fault, e = .config fault) (locate files target) := by
  unfold locate
  split
  · dsimp only
    split
    · exact faults_ok _
    · exact faults_error ⟨_, rfl⟩
  · dsimp only
    split
    · exact faults_ok _
    · exact faults_error ⟨_, rfl⟩

theorem faults_documentOf {root file : Place} {text : Text}
    (hfile : locate files target = .ok (root, file)) (htext : files.readText file = .ok text) :
    Faults (Fails files target) (documentOf (file.getLast?.getD []) text) := by
  unfold documentOf
  split
  · exact faults_ok _
  split
  · next hjson =>
      cases hparse : Json.parse text with
      | ok j => exact faults_ok _
      | error fault =>
          cases fault with
          | malformed => exact faults_error (.inl ⟨_, rfl⟩)
          | hugeInteger => exact faults_error (.inr (.json hfile hjson htext hparse))
  · next hyaml =>
      cases hparse : Yaml.parse text with
      | ok d =>
          cases d with
          | none => exact faults_ok _
          | some d =>
              dsimp only
              split <;> exact faults_ok _
      | error fault =>
          cases fault with
          | malformed => exact faults_error (.inl ⟨_, rfl⟩)
          | data fault => exact faults_error (.inr (.yaml hfile hyaml htext hparse))

theorem readFile_of_notUtf8 {file : Place} {bytes : Bytes} {fault : Utf8.Fault}
    (hbytes : files.read file = .ok bytes) (hfault : Utf8.decode bytes = .error fault) :
    readFile files file = .error (.data (.notUtf8 fault)) := by
  simp only [readFile, FileTree.readText, hbytes, hfault]
  rfl

theorem readFile_of_readText {file : Place} {text : Text} (htext : files.readText file = .ok text) :
    readFile files file = documentOf (file.getLast?.getD []) text := by
  simp only [readFile, htext]

theorem faults_readFile {root file : Place} (hfile : locate files target = .ok (root, file)) :
    Faults (Fails files target) (readFile files file) := by
  cases hbytes : files.read file with
  | error cause =>
      simp only [readFile, FileTree.readText, hbytes]
      exact faults_error (.inl ⟨_, rfl⟩)
  | ok bytes =>
      cases hdecode : Utf8.decode bytes with
      | error fault =>
          rw [readFile_of_notUtf8 hbytes hdecode]
          exact faults_error (.inr (.notUtf8 hfile hbytes hdecode))
      | ok text =>
          have htext : files.readText file = .ok (Text.normalizeNewlines text) := by
            simp only [FileTree.readText, hbytes, hdecode]
          rw [readFile_of_readText htext]
          exact faults_documentOf hfile htext

theorem faults_read : Faults (Fails files target) (read files target) := by
  refine (faults_locate.mono fun _ => .inl).bind fun ⟨root, file⟩ hfile => ?_
  refine (faults_readFile hfile).bind fun d hd => ?_
  split
  · next entries hmap =>
      have hc : Section.Stands ⟨d, entries⟩ := by
        have := Yaml.Document.Holds.root (d := d)
        rw [hmap] at this
        exact this
      cases hs : ofSection root ⟨d, entries⟩ with
      | ok s => exact faults_ok _
      | error fault => exact faults_error (.inr (.integer hfile hd (faults_ofSection root hc _ hs)))
  · exact faults_error (.inl ⟨_, rfl⟩)

/-- Settings are loaded just if they can be read and used. -/
theorem load_succeeds_iff : load files target = .ok s ↔ read files target = .ok s ∧ s.IsUsable := by
  unfold load
  rw [bind_eq_ok_iff]
  constructor
  · rintro ⟨s', hread, hload⟩
    obtain ⟨_, hcheck, hs⟩ := bind_eq_ok_iff.1 hload
    obtain rfl := Except.ok.inj hs
    exact ⟨hread, check_eq_ok_iff.1 hcheck⟩
  · rintro ⟨hread, hs⟩
    exact ⟨s, hread, bind_eq_ok_iff.2 ⟨(), check_eq_ok_iff.2 hs, rfl⟩⟩

theorem faults_load : Faults (Fails files target) (load files target) := by
  refine faults_read.bind fun s hread => ?_
  refine Faults.bind (faults_check.mono fun e he => ?_) fun _ _ => faults_ok _
  cases he with
  | config fault => exact .inl ⟨fault, rfl⟩
  | pattern ht hpattern hbody hfault hbad =>
      exact .inr (.pattern hread ht hpattern hbody hfault hbad)

theorem load_eq_error_of_readFile {root file : Place} {e : Failure}
    (hfile : locate files target = .ok (root, file)) (herror : readFile files file = .error e) :
    load files target = .error e := by
  have hread : read files target = .error e :=
    bind_eq_error_iff.2 (.inr ⟨_, hfile, bind_eq_error_iff.2 (.inl herror)⟩)
  exact bind_eq_error_iff.2 (.inl hread)

/-- No file that is not UTF-8 is said to be a wrong configuration. -/
theorem load_of_notUtf8 {root file : Place} {bytes : Bytes} {fault : Utf8.Fault}
    (hfile : locate files target = .ok (root, file)) (hbytes : files.read file = .ok bytes)
    (hfault : Utf8.decode bytes = .error fault) :
    load files target = .error (.data (.notUtf8 fault)) :=
  load_eq_error_of_readFile hfile (readFile_of_notUtf8 hbytes hfault)

/-- A configuration that names its project with an accented letter, in Latin-1. -/
def latin : FileTree :=
  ⟨[([lit "kodex.config.yaml"],
    .file [0x6e, 0x61, 0x6d, 0x65, 0x3a, 0x20, 0x43, 0x61, 0x66, 0xe9, 0x0a])]⟩

end Settings

end HelpCenter

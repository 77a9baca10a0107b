import HelpCenter.Proofs.Store.RoundTrip

/-!
# Stored articles

Whatever happens while a knowledge base is saved, afterwards the file of the articles holds what it
held before, or the new articles, or none (`save_stored`).  For none of the other files that are
written, to which a link may lead, can be read as a file of articles (`IsBlank`).
-/

namespace HelpCenter

open Json

namespace Store

variable {s : Store} {t t' : FileTree} {q : Place} {bytes : Bytes} {w : Workspace}
  {k : KnowledgeBase}

/-! ## Contents of the file of the articles -/

/-- The articles in the state file. -/
def stored (s : Store) (t : FileTree) : List Article := (s.content t).articles

/-- The articles that a value holds in a file of articles. -/
def articlesIn (v : Option Json) : List Article :=
  recordsIn "items" Article.ofJson (membersOf v)

/-- The text that bytes are read as. -/
def textOf (bytes : Bytes) : Option Text :=
  match Utf8.decode bytes with
  | .ok text => some (Text.normalizeNewlines text)
  | .error _ => none

/-- A file with this content holds no articles. -/
def IsBlank (bytes : Bytes) : Prop :=
  articlesIn ((textOf bytes).bind fun text => (parse text).toOption) = []

theorem stateIn_of_holds {file : Place} (h : t.Holds file q bytes) :
    stateIn file t = (textOf bytes).bind fun text => (parse text).toOption := by
  unfold stateIn textOf
  rw [readText_of_holds h]
  cases Utf8.decode bytes <;> rfl

theorem stored_of_holds (h : t.Holds s.itemsFile q bytes) :
    s.stored t = articlesIn ((textOf bytes).bind fun text => (parse text).toOption) := by
  unfold stored content articlesIn
  rw [stateIn_of_holds h]

theorem holds_of_read {p : Place} (h : t.read p = .ok bytes) : ∃ q, t.Holds p q bytes := by
  obtain ⟨e, he, h⟩ := Except.bind_eq_ok_iff.1 h
  obtain ⟨q, hq, he⟩ := Except.bind_eq_ok_iff.1 he
  cases e with
  | file c =>
      obtain rfl := Except.ok.inj h
      refine ⟨q, hq, ?_⟩
      split at he
      · next hentry => rw [hentry, Except.ok.inj he]
      · cases he
  | _ => cases h

/-- The state file leads to a file, or there is nothing in it. -/
theorem holds_or_stateIn_eq_none (file : Place) (t : FileTree) :
    (∃ q bytes, t.Holds file q bytes) ∨ stateIn file t = none := by
  cases h : t.read file with
  | ok bytes =>
      obtain ⟨q, hq⟩ := holds_of_read h
      exact .inl ⟨q, bytes, hq⟩
  | error fault =>
      refine .inr ?_
      unfold stateIn FileTree.readText
      rw [h]

theorem stored_of_stateIn (h : stateIn s.itemsFile t = none) : s.stored t = [] := by
  unfold stored content
  rw [h]
  rfl

theorem holds_or_stored_eq_nil (s : Store) (t : FileTree) :
    (∃ q bytes, t.Holds s.itemsFile q bytes) ∨ s.stored t = [] :=
  (holds_or_stateIn_eq_none s.itemsFile t).imp_right stored_of_stateIn

/-- Removing something can at most take the articles away. -/
theorem stored_of_remove {p : Place} (h : t.remove p = .ok t') :
    s.stored t' = s.stored t ∨ s.stored t' = [] := by
  rcases holds_or_stored_eq_nil s t' with ⟨q, bytes, hq⟩ | hnil
  · exact .inl (by rw [stored_of_holds hq, stored_of_holds (hq.of_remove h)])
  · exact .inr hnil

/-! ## Files that hold no articles -/

theorem isBlank_nil : IsBlank [] := by
  unfold IsBlank
  decide

theorem articlesIn_ofFields {fields : List (String × Json)} (h : fields.lookup "items" = none) :
    articlesIn (some (ofFields fields)) = [] := by
  have hfield : field (membersOf (some (ofFields fields))) "items" = .null := by
    unfold field membersOf ofFields
    dsimp only
    rw [member?_ofFields, h]
    rfl
  unfold articlesIn recordsIn
  rw [hfield]
  rfl

theorem textOf_pretty {v : Json} (h : v.pretty.toUtf8? = some bytes) :
    textOf bytes = some v.pretty := by
  have hplain := isPlain_prettyAt 0 v
  obtain ⟨bytes', hb, hdecode⟩ := hplain.decode
  obtain rfl : bytes = bytes' := Option.some.inj (h.symm.trans hb)
  unfold textOf
  rw [hdecode]
  exact congrArg some hplain.normalizeNewlines

/-- A printed record other than the one of the articles holds none. -/
theorem isBlank_pretty {fields : List (String × Json)} (hn : (fields.map Prod.fst).Nodup)
    (hitems : "items" ∉ fields.map Prod.fst) (hv : (ofFields fields).isPrintable = true)
    (h : (ofFields fields).pretty.toUtf8? = some bytes) : IsBlank bytes := by
  unfold IsBlank
  rw [textOf_pretty h, Option.bind_some, parse_pretty hv, normal_ofFields hn]
  refine articlesIn_ofFields ?_
  rw [List.lookup_eq_none_iff]
  intro f hf
  obtain ⟨g, hg, rfl⟩ := List.mem_map.1 hf
  exact bne_iff_ne.2 fun he => hitems (List.mem_map.2 ⟨g, hg, he.symm⟩)

theorem articlesIn_of_ne_obj {v : Option Json} (h : ∀ members, v ≠ some (.obj members)) :
    articlesIn v = [] := by
  match v, h with
  | none, _ | some .null, _ | some (.bool _), _ | some (.int _), _ | some (.float _), _
  | some (.str _), _ | some (.arr _), _ => rfl
  | some (.obj members), h => exact absurd rfl (h members)

/-- What begins with a hyphen holds no articles. -/
theorem isBlank_of_hyphen (rest : Bytes) : IsBlank (0x2D :: rest) := by
  refine articlesIn_of_ne_obj fun members h => ?_
  obtain ⟨text, htext, hparse⟩ := Option.bind_eq_some_iff.1 h
  unfold textOf Utf8.decode at htext
  split at htext
  · next decoded hd =>
    obtain ⟨more, -, hd⟩ := Except.bind_eq_ok_iff.1 hd
    obtain rfl := Except.ok.inj hd
    obtain rfl := Option.some.inj htext
    have hbrace : (skipGap (Text.normalizeNewlines (('-' : CodePoint) :: more))).head? =
        some '{' := by
      cases hp : parse (Text.normalizeNewlines (('-' : CodePoint) :: more)) with
      | error fault => exact nomatch (congrArg Except.toOption hp).symm.trans hparse
      | ok v =>
          obtain rfl : v = .obj members :=
            Option.some.inj ((congrArg Except.toOption hp).symm.trans hparse)
          exact parse_eq_obj hp
    unfold Text.normalizeNewlines at hbrace
    rw [if_neg (by decide), skipGap_cons (by decide)] at hbrace
    exact absurd (Option.some.inj hbrace) (by decide)
  · cases htext

/-! ## Saving -/

theorem keeps_writeJson {file : Place} {fields : List (String × Json)}
    (hn : (fields.map Prod.fst).Nodup) (hitems : "items" ∉ fields.map Prod.fst) :
    Action.Keeps IsBlank (writeJson file (ofFields fields)) := by
  unfold writeJson pretty?
  split
  · next text htext =>
    split at htext
    · next hv =>
      obtain rfl := Option.some.inj htext
      exact Action.keeps_writeText isBlank_nil fun bytes hb => isBlank_pretty hn hitems hv hb
    · cases htext
  · exact Action.respects_throw _

theorem keeps_writeState {file : Place} {fields : List (String × Json)}
    (hn : (fields.map Prod.fst).Nodup) (hitems : "items" ∉ fields.map Prod.fst) :
    Action.Keeps IsBlank (writeState file (ofFields fields)) :=
  Action.Respects.onFileFault <| (Action.keeps_makeDirs _).bind fun _ => keeps_writeJson hn hitems

theorem exists_hyphen_of_markdown {a : Article} {text : Text} (h : a.markdown = .ok text) :
    ∃ rest : Text, text = ('-' : CodePoint) :: rest := by
  have hmark : lit "---\n" = ('-' : CodePoint) :: lit "--\n" := by decide
  unfold Article.markdown at h
  split at h
  · split at h
    · obtain rfl := Except.ok.inj h
      rw [hmark]
      exact ⟨_, rfl⟩
    · cases h
  · cases h

theorem keeps_writeMarkdown (s : Store) (a : Article) :
    Action.Keeps IsBlank (s.writeMarkdown a) := by
  unfold writeMarkdown
  split
  · refine (Action.keeps_makeDirs _).bind fun _ => ?_
    split
    · next text htext =>
      refine Action.keeps_writeText isBlank_nil fun bytes hb => ?_
      obtain ⟨rest, rfl⟩ := exists_hyphen_of_markdown htext
      unfold Text.toUtf8? at hb
      split at hb
      · obtain rfl := Option.some.inj hb
        exact isBlank_of_hyphen _
      · cases hb
    · exact Action.respects_throw _
  · exact Action.respects_pure ()

theorem keeps_writeDocs (s : Store) (a : Article) : Action.Keeps IsBlank (s.writeDocs a) := by
  rw [writeDocs_eq]
  refine Action.Respects.onFileFault ((keeps_writeMarkdown s a).bind fun _ => ?_)
  unfold writeRecord
  split
  · exact (Action.keeps_makeDirs _).bind fun _ => keeps_writeJson (by simp) (by simp)
  · exact Action.respects_pure ()

/-- A file that cannot be written to cannot be read. -/
theorem stored_of_write_error {fault : FileFault} (h : t.write s.itemsFile bytes = .error fault) :
    s.stored t = [] := by
  rcases holds_or_stored_eq_nil s t with ⟨q, old, hq⟩ | hnil
  · unfold FileTree.write at h
    rw [hq.locate] at h
    simp only [bind, Except.bind, hq.entry] at h
    cases h
  · exact hnil

/-- Writing a text over the file of the articles takes the articles away if it fails. -/
theorem writeText_cases (hnames : Action.checkNames s.itemsFile = .ok ()) (text : Text) :
    (∃ w', (Action.writeText s.itemsFile text).perform w = (.ok (), w')) ∨
    s.stored ((Action.writeText s.itemsFile text).perform w).2.files = [] := by
  unfold Action.writeText
  obtain ⟨e, hw, herror⟩ | ⟨t, hw, ht⟩ :=
    Action.changeFiles_cases s.itemsFile (·.write s.itemsFile []) w
  · rw [Action.perform_bind_error hw]
    rcases herror with ⟨fault, hfault⟩ | hbad
    · exact .inr (stored_of_write_error hfault)
    · exact absurd hnames hbad
  obtain ⟨-, q, hq⟩ := FileTree.extends_write ht
  have hnil : s.stored t = [] := (stored_of_holds hq).trans isBlank_nil
  rw [Action.perform_bind_ok hw]
  cases text.toUtf8? with
  | none => exact .inr hnil
  | some bytes =>
      obtain ⟨e, hw, -⟩ | ⟨t', hw, -⟩ := Action.changeFiles_cases s.itemsFile
        (·.write s.itemsFile bytes) { w with files := t }
      · exact .inr (by simp only [hw, hnil])
      · exact .inl ⟨_, hw⟩

/-- Writing the file of the articles succeeds, or the articles are still there or none are. -/
theorem writeState_cases {v : Json} (hnames : Action.checkNames s.itemsFile = .ok ())
    (hopen : v.isPrintable = true ∨ ∃ q bytes, w.files.Holds s.itemsFile q bytes) :
    (∃ w', (writeState s.itemsFile v).perform w = (.ok (), w')) ∨
    s.stored ((writeState s.itemsFile v).perform w).2.files = s.stored w.files ∨
    s.stored ((writeState s.itemsFile v).perform w).2.files = [] := by
  unfold writeState Action.makeDirs
  rw [Action.perform_onFileFault_snd]
  obtain ⟨e, hw, -⟩ | ⟨t, hw, ht⟩ := Action.changeFiles_cases s.itemsFile.dropLast
    (·.makeDirs s.itemsFile.dropLast) w
  · exact .inr (.inl (by rw [Action.perform_bind_error hw]))
  rw [Action.perform_bind_ok hw]
  by_cases hv : v.isPrintable = true
  · have hwrite : writeJson s.itemsFile v = Action.writeText s.itemsFile v.pretty := by
      unfold writeJson pretty?
      rw [if_pos hv]
    rw [hwrite]
    rcases writeText_cases (w := { w with files := t }) hnames v.pretty with ⟨w', hw'⟩ | hnil
    · refine .inl ⟨w', Action.perform_onFileFault_ok _ ?_⟩
      rw [Action.perform_bind_ok hw]
      exact hw'
    · exact .inr (.inr hnil)
  · -- the directory is made before the value turns out not to be printable
    obtain ⟨q, bytes, hq⟩ := hopen.resolve_left hv
    obtain ⟨bytes', hq', hsame⟩ := (FileTree.extends_makeDirs ht).keeps hq
    obtain rfl : bytes' = bytes := hsame nofun
    have hwrite : writeJson s.itemsFile v = throw (.data .unreadable) := by
      unfold writeJson pretty?
      rw [if_neg hv]
    rw [hwrite, Action.perform_throw]
    exact .inr (.inl ((stored_of_holds hq').trans (stored_of_holds hq).symm))

/-- The articles that are read back where the given ones were written. -/
def restored (articles : List Article) : List Article :=
  articles.filterMap fun a => recordOf Article.ofJson a.toJson.normal

/-- What is read of a printed object for a member that is a list. -/
theorem field_normal {fields : List (String × Json)} {member : String} {items : List Json}
    (hn : (fields.map Prod.fst).Nodup) (h : fields.lookup member = some (.arr items)) :
    field (membersOf (some (ofFields fields).normal)) member = .arr (items.map normal) := by
  have hlookup : (fields.map fun f => (f.1, f.2.normal)).lookup member =
      some (.arr (items.map normal)) := by
    obtain ⟨before, after, rfl, hbefore⟩ := List.lookup_eq_some_iff.1 h
    refine List.lookup_eq_some_iff.2 ⟨before.map fun f => (f.1, f.2.normal),
      after.map fun f => (f.1, f.2.normal), ?_, List.forall_mem_map.2 hbefore⟩
    simp
  rw [normal_ofFields hn]
  unfold field membersOf ofFields
  dsimp only
  rw [member?_ofFields, hlookup]
  rfl

theorem itemsOrNone_arr (items : List Json) : itemsOrNone (.arr items) = items := by
  cases items <;> rfl

/-- The records that are read back from the list of a printed object. -/
theorem recordsIn_normal {α : Type} {read : Json → Except DataFault α} {write : α → Json}
    {fields : List (String × Json)} {member : String} {xs : List α}
    (hn : (fields.map Prod.fst).Nodup) (h : fields.lookup member = some (.arr (xs.map write))) :
    recordsIn member read (membersOf (some (ofFields fields).normal)) =
      xs.filterMap fun x => recordOf read (write x).normal := by
  unfold recordsIn
  rw [field_normal hn h, itemsOrNone_arr, List.map_map, List.filterMap_map]
  rfl

theorem articlesIn_itemsJson (k : KnowledgeBase) :
    articlesIn (some (itemsJson k).normal) = restored k.articles :=
  recordsIn_normal (by simp) rfl

theorem keeps_saveRest (s : Store) (k : KnowledgeBase) : Action.Keeps IsBlank (s.saveRest k) := by
  refine (keeps_writeState (by simp) (by simp)).bind fun _ => Action.Respects.bind ?_ fun _ => ?_
  · unfold saveMap
    split
    · exact keeps_writeState (by simp) (by simp)
    · exact Action.respects_pure ()
  · exact Action.respects_forM fun a _ => keeps_writeDocs s a

/-- After saving the file holds the articles that it held, or the new ones, or none. -/
theorem save_stored (hnames : Action.checkNames s.itemsFile = .ok ())
    (hopen : (itemsJson k).isPrintable = true ∨ ∃ q bytes, w.files.Holds s.itemsFile q bytes) :
    s.stored ((s.save k).perform w).2.files ∈ [s.stored w.files, restored k.articles, []] := by
  rw [save_eq]
  rcases hr : (writeState s.itemsFile (itemsJson k)).perform w with ⟨r, w₁⟩
  cases r with
  | ok x =>
      obtain ⟨-, -, hprint, bytes, q, hb, hq⟩ := writeState_eq_ok hr
      obtain ⟨bytes', hq', hsame⟩ := keeps_saveRest s k w₁ _ _ _ hq
      rw [Action.perform_bind_ok hr, stored_of_holds hq']
      rcases hsame with rfl | hblank
      · rw [textOf_pretty hb, Option.bind_some, parse_pretty hprint]
        exact List.mem_cons_of_mem _ (articlesIn_itemsJson k ▸ List.mem_cons_self ..)
      · exact List.mem_cons_of_mem _ (List.mem_cons_of_mem _ (List.mem_singleton.2 hblank))
  | error e =>
      have hfail := writeState_cases hnames hopen
      rw [hr] at hfail
      rw [Action.perform_bind_error hr]
      rcases hfail with ⟨w', hw'⟩ | hsame | hnil
      · cases hw'
      · exact hsame ▸ List.mem_cons_self ..
      · exact List.mem_cons_of_mem _ (List.mem_cons_of_mem _ (List.mem_singleton.2 hnil))

end Store

end HelpCenter

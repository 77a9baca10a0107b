import HelpCenter.Proofs.CodeMap.Merge
import HelpCenter.Proofs.Except
import HelpCenter.Topic.Builtin

/-!
# Topics of a catalog

A catalog holds built-in and custom topics only (`mem_extend`), and evidence for each of them is
measured by a double (`IsMeasured.extend`).  Putting a topic in changes one place or appends one
(`ids_put`, `get?_put`), so an extended catalog keeps the old places and has the last definition of
each id (`extend_gains`).
-/

namespace HelpCenter

/-- Each pattern of the topic can be read. -/
def CustomTopic.IsReadable (t : CustomTopic) : Prop :=
  ∀ pattern ∈ t.patterns, ∃ p,
    CompiledPattern.read { ignoreCase := true } (customPatternSource pattern) = .ok p

theorem CustomTopic.IsReadable.exists_topic {t : CustomTopic} (h : t.IsReadable) (x : Number) :
    ∃ u, t.topic x = .ok u := by
  have hread : ∃ patterns, Topic.readPatterns (t.patterns.map customPatternSource) =
      .ok patterns := by
    refine Except.exists_mapM_eq_ok fun source hsource => ?_
    obtain ⟨pattern, hpattern, rfl⟩ := List.mem_map.1 hsource
    obtain ⟨p, hp⟩ := h pattern hpattern
    exact ⟨p, by rw [hp]⟩
  obtain ⟨patterns, hpatterns⟩ := hread
  exact ⟨_, Except.bind_ok hpatterns rfl⟩

namespace Catalog

variable {c c' : Catalog} {t u : Topic}

/-- The confidences of the topics are doubles. -/
def IsMeasured (c : Catalog) : Prop := ∀ t ∈ c, ∃ x, t.confidence = .double x

/-! ## Built-in topics -/

theorem topicOfEntry?_eq_some {e : String × ℕ × List String} (h : topicOfEntry? e = some t) :
    t.id = lit e.1 ∧ ∃ x, t.confidence = .double x := by
  obtain ⟨id, hundredths, sources⟩ := e
  unfold topicOfEntry? at h
  dsimp only at h
  split at h
  · obtain rfl := Option.some.inj h
    exact ⟨rfl, _, rfl⟩
  · cases h

theorem isMeasured_builtin : builtin.IsMeasured := by
  intro t ht
  obtain ⟨e, -, he⟩ := List.mem_filterMap.1 ht
  exact (topicOfEntry?_eq_some he).2

theorem id_mem_of_mem_builtin (h : t ∈ builtin) : t.id ∈ builtinEntries.map fun e => lit e.1 := by
  obtain ⟨e, he, ht⟩ := List.mem_filterMap.1 h
  exact List.mem_map.2 ⟨e, he, (topicOfEntry?_eq_some ht).1.symm⟩

/-! ## Custom topics -/

theorem mem_put (h : u ∈ c.put t) : u = t ∨ u ∈ c := by
  induction c with
  | nil => exact .inl (List.mem_singleton.1 h)
  | cons v rest ih =>
      unfold put at h
      split at h
      · exact (List.mem_cons.1 h).imp_right (List.mem_cons_of_mem _)
      · rcases List.mem_cons.1 h with rfl | h
        · exact .inr (List.mem_cons_self ..)
        · exact (ih h).imp_right (List.mem_cons_of_mem _)

/-- Each topic of an extended catalog was in it before or is made of a custom one. -/
theorem mem_extend {topics : List CustomTopic} {x : Number} :
    ∀ {c : Catalog}, c.extend topics x = .ok c' → u ∈ c' →
      u ∈ c ∨ ∃ t ∈ topics, t.topic x = .ok u := by
  unfold extend
  induction topics with
  | nil =>
      intro c h hu
      exact .inl (Except.ok.inj h ▸ hu)
  | cons t topics ih =>
      intro c h hu
      obtain ⟨c₁, hc₁, h⟩ := Except.bind_eq_ok_iff.1 h
      obtain ⟨v, hv, hc₁⟩ := Except.bind_eq_ok_iff.1 hc₁
      obtain rfl := Except.ok.inj hc₁
      rcases ih h hu with hu | ⟨t', ht', hu⟩
      · rcases mem_put hu with rfl | hu
        · exact .inr ⟨t, List.mem_cons_self .., hv⟩
        · exact .inl hu
      · exact .inr ⟨t', List.mem_cons_of_mem _ ht', hu⟩

theorem topic_eq_ok {t : CustomTopic} {x : Number} (h : t.topic x = .ok u) :
    u.id = t.id ∧ u.confidence = x := by
  obtain ⟨patterns, -, h⟩ := Except.bind_eq_ok_iff.1 h
  obtain rfl := Except.ok.inj h
  exact ⟨rfl, rfl⟩

theorem IsMeasured.extend {topics : List CustomTopic} {x : Binary64} (hc : c.IsMeasured)
    (h : c.extend topics (.double x) = .ok c') : c'.IsMeasured := by
  intro u hu
  rcases mem_extend h hu with hu | ⟨t, -, hu⟩
  · exact hc u hu
  · exact ⟨x, (topic_eq_ok hu).2⟩

/-! ## Places and definitions -/

variable {topics : List CustomTopic} {x : Number} {id : Text}

/-- The ids of the topics, in order. -/
def ids (c : Catalog) : List Text := c.map Topic.id

theorem ids_put (t : Topic) (c : Catalog) :
    (c.put t).ids = if t.id ∈ c.ids then c.ids else c.ids ++ [t.id] := by
  induction c with
  | nil => rfl
  | cons u rest ih =>
      unfold put
      by_cases hu : u.id = t.id
      · simp [ids, hu]
      · simp only [ids] at ih
        rw [if_neg hu]
        by_cases hrest : t.id ∈ rest.map Topic.id
        · simp [ids, ih, hrest]
        · simp [ids, ih, hrest, Ne.symm hu]

theorem get?_put (t : Topic) (c : Catalog) (id : Text) :
    (c.put t).get? id = if t.id = id then some t else c.get? id := by
  induction c with
  | nil => by_cases ht : t.id = id <;> simp [get?, put, ht]
  | cons u rest ih =>
      simp only [get?] at ih
      unfold put
      by_cases hu : u.id = t.id
      · by_cases ht : t.id = id <;> simp [get?, hu, ht]
      · rw [if_neg hu]
        by_cases hid : u.id = id
        · simp [get?, hid, show t.id ≠ id from fun h => hu (hid.trans h.symm)]
        · simp [get?, hid, ih]

theorem extend_cons (t : CustomTopic) : c.extend (t :: topics) x =
    (t.topic x >>= fun u => (c.put u).extend topics x) := by
  unfold extend
  rw [List.foldlM_cons, bind_assoc]
  rfl

theorem extend_append (c : Catalog) (xs ys : List CustomTopic) (x : Number) :
    c.extend (xs ++ ys) x = (c.extend xs x >>= fun d => d.extend ys x) :=
  List.foldlM_append

theorem ids_extend (hc : c.ids.Nodup) (h : c.extend topics x = .ok c') :
    c'.ids = firstSeen (c.ids ++ topics.map CustomTopic.id) := by
  induction topics generalizing c with
  | nil =>
      obtain rfl := Except.ok.inj h
      rw [List.map_nil, List.append_nil, firstSeen_of_nodup hc]
  | cons t topics ih =>
      rw [extend_cons] at h
      obtain ⟨u, hu, h⟩ := Except.bind_eq_ok_iff.1 h
      have hput : (c.put u).ids = firstSeen (c.ids ++ [t.id]) := by
        rw [ids_put, (topic_eq_ok hu).1, firstSeen_concat, firstSeen_of_nodup hc]
        by_cases hold : t.id ∈ c.ids <;> simp only [hold, if_true, if_false]
      calc c'.ids
        _ = firstSeen ((c.put u).ids ++ topics.map CustomTopic.id) :=
            ih (hput ▸ nodup_firstSeen _) h
        _ = firstSeen (c.ids ++ [t.id] ++ topics.map CustomTopic.id) := by
            rw [hput, firstSeen_append, firstSeen_of_nodup (nodup_firstSeen _),
              firstSeen_append (c.ids ++ [t.id])]
            simp
        _ = firstSeen (c.ids ++ (t :: topics).map CustomTopic.id) := by simp

theorem get?_extend_of_notMem (hid : id ∉ topics.map CustomTopic.id)
    (h : c.extend topics x = .ok c') : c'.get? id = c.get? id := by
  induction topics generalizing c with
  | nil => exact congrArg (get? · id) (Except.ok.inj h).symm
  | cons t topics ih =>
      rw [extend_cons] at h
      obtain ⟨u, hu, h⟩ := Except.bind_eq_ok_iff.1 h
      rw [List.map_cons, List.mem_cons, not_or] at hid
      rw [ih hid.2 h, get?_put, (topic_eq_ok hu).1, if_neg (Ne.symm hid.1)]

/-- The last definition of an id counts. -/
theorem get?_extend_last {before after : List CustomTopic} {t : CustomTopic}
    (hlast : t.id ∉ after.map CustomTopic.id)
    (h : c.extend (before ++ t :: after) x = .ok c') :
    ∃ u, t.topic x = .ok u ∧ c'.get? t.id = some u := by
  rw [extend_append] at h
  obtain ⟨d, -, h⟩ := Except.bind_eq_ok_iff.1 h
  rw [extend_cons] at h
  obtain ⟨u, hu, h⟩ := Except.bind_eq_ok_iff.1 h
  refine ⟨u, hu, ?_⟩
  rw [get?_extend_of_notMem hlast h, get?_put, if_pos (topic_eq_ok hu).1]

theorem exists_extend (c : Catalog) (h : ∀ t ∈ topics, t.IsReadable) (x : Number) :
    ∃ c', c.extend topics x = .ok c' := by
  induction topics generalizing c with
  | nil => exact ⟨c, rfl⟩
  | cons t topics ih =>
      rw [List.forall_mem_cons] at h
      obtain ⟨u, hu⟩ := h.1.exists_topic x
      obtain ⟨c', hc'⟩ := ih (c.put u) h.2
      exact ⟨c', by rw [extend_cons, hu, Except.ok_bind, hc']⟩

/-- The second catalog is the first one with custom topics put in.  Its ids are those of the old
topics, in their places, and then the new ones in the order in which they first appear; each of the
custom ids has its last definition, and every other id the one it had. -/
structure Gains (c : Catalog) (topics : List CustomTopic) (x : Number) (c' : Catalog) : Prop where
  ids_nodup : c'.ids.Nodup
  ids_prefix : c.ids <+: c'.ids
  ids_once : ListsOnce (c.ids ++ topics.map CustomTopic.id) c'.ids
  get?_last : ∀ before t after, topics = before ++ t :: after →
    t.id ∉ after.map CustomTopic.id → ∃ u, t.topic x = .ok u ∧ c'.get? t.id = some u
  get?_old : ∀ id, id ∉ topics.map CustomTopic.id → c'.get? id = c.get? id

theorem gains_of_extend (hc : c.ids.Nodup) (h : c.extend topics x = .ok c') :
    c.Gains topics x c' where
  ids_nodup := ids_extend hc h ▸ nodup_firstSeen _
  ids_prefix := by
    rw [ids_extend hc h, firstSeen_append, firstSeen_of_nodup hc]
    exact List.prefix_append ..
  ids_once := ids_extend hc h ▸ listsOnce_firstSeen _
  get?_last := by
    rintro before t after rfl hlast
    exact get?_extend_last hlast h
  get?_old _ hid := get?_extend_of_notMem hid h

/-- A catalog of distinct ids takes in custom topics whose patterns can be read, at once or in
parts. -/
theorem extend_gains (hc : c.ids.Nodup) (htopics : ∀ t ∈ topics, t.IsReadable) (x : Number) :
    ∃ c', c.extend topics x = .ok c' ∧ c.Gains topics x c' ∧
      ∀ xs ys, topics = xs ++ ys →
        ∃ d, c.extend xs x = .ok d ∧ d.extend ys x = .ok c' := by
  obtain ⟨c', hc'⟩ := c.exists_extend htopics x
  refine ⟨c', hc', gains_of_extend hc hc', ?_⟩
  rintro xs ys rfl
  rw [extend_append] at hc'
  exact Except.bind_eq_ok_iff.1 hc'

/-- Two topics, the first of which the custom ones replace. -/
def planTopics : Catalog :=
  [{ id := lit "billing.plan", patterns := [], confidence := .int 1 },
    { id := lit "billing.invoice", patterns := [], confidence := .int 1 }]

def customPlans : List CustomTopic :=
  [{ id := lit "team.invite", patterns := [lit "invite"] },
    { id := lit "billing.plan", patterns := [lit "/plans?/"] },
    { id := lit "team.invite", name := lit "Invitations", patterns := [lit "a+b"] }]

theorem areReadable_customPlans : ∀ t ∈ customPlans, t.IsReadable := by
  intro t ht pattern hpattern
  have hread : (customPlans.all fun t => t.patterns.all fun pattern =>
      (CompiledPattern.read { ignoreCase := true } (customPatternSource pattern)).toOption.isSome) =
        true := by
    decide +kernel
  have hsome := List.all_eq_true.1 (List.all_eq_true.1 hread t ht) pattern hpattern
  obtain ⟨p, hp⟩ := Option.isSome_iff_exists.1 hsome
  exact ⟨p, Except.toOption_eq_some_iff.1 hp⟩

theorem extend_gains_customPlans : planTopics.ids.Nodup ∧ (∀ t ∈ customPlans, t.IsReadable) ∧
    ∃ c', planTopics.extend customPlans customConfidence = .ok c' ∧
      c'.ids = [lit "billing.plan", lit "billing.invoice", lit "team.invite"] ∧
      (c'.get? (lit "team.invite")).map Topic.name = some (some (lit "Invitations")) := by
  have hids : planTopics.ids.Nodup := by decide
  obtain ⟨c', hc', hgains, -⟩ := extend_gains hids areReadable_customPlans customConfidence
  refine ⟨hids, areReadable_customPlans, c', hc', ?_, ?_⟩
  · exact (ids_extend hids hc').trans (by decide)
  · obtain ⟨u, hu, hget⟩ :=
      hgains.get?_last (customPlans.take 2) customPlans[2] [] rfl List.not_mem_nil
    obtain ⟨patterns, -, hu⟩ := Except.bind_eq_ok_iff.1 hu
    rw [show lit "team.invite" = customPlans[2].id from rfl, hget, ← Except.ok.inj hu]
    rfl

end Catalog

end HelpCenter

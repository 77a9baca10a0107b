import HelpCenter.Article.Plan
import HelpCenter.Proofs.Json.Normal
import HelpCenter.Proofs.Text.Plain
import HelpCenter.Proofs.Text.Utf16
import Mathlib.Data.Set.Basic

/-!
# Ids of articles

The id of a new article is made of its topic, with hyphens for the dots, and of the time.  So two
topics can be given one id.  `TellsApart` excludes this for the topics and clock readings that can
occur, and also that a topic is changed by being written and read.  Then articles whose ids were
made this way differ in their ids as soon as they differ in their topics (`Minted.ids_nodup`).
-/

namespace HelpCenter

/-! ## Texts that are read as they are written -/

namespace Text

theorem noPair_of_plain_left {c d : CodePoint} (h : c.IsPlain) : NoPair c d := by
  have := h.1
  simp [NoPair, CodePoint.isHigh]
  omega

theorem noPair_of_plain_right {c d : CodePoint} (h : d.IsPlain) : NoPair c d := by
  have := h.1
  simp [NoPair, CodePoint.isLow]
  omega

theorem IsPlain.isChain {t : Text} (h : IsPlain t) : t.IsChain NoPair :=
  joinPairs_eq_self_iff.1 (joinPairs_of_isEncodable h.isEncodable)

theorem substitute_eq_map (c d : CodePoint) (t : Text) :
    substitute c [d] t = t.map fun e => if e = c then d else e := by
  induction t with
  | nil => rfl
  | cons e t ih =>
      rw [substitute, List.flatMap_cons, ← substitute, ih, List.map_cons]
      split <;> rfl

end Text

/-! ## New ids -/

/-- The part of a new id that is made of the topic. -/
def hyphenated (topic : Text) : Text := Text.substitute '.' (lit "-") topic

theorem newArticleId_eq (topic : Text) (now : Moment) :
    newArticleId topic now =
      lit "kb-" ++ hyphenated topic ++ ('-' : CodePoint) :: Text.ofInt now.millis := by
  unfold newArticleId
  rw [List.append_assoc (lit "kb-" ++ _)]
  rfl

open Text in
theorem isChain_hyphenated {topic : Text} (h : topic.IsChain NoPair) :
    (hyphenated topic).IsChain NoPair := by
  have hmap : hyphenated topic =
      topic.map fun d : CodePoint => if d = '.' then ('-' : CodePoint) else d :=
    substitute_eq_map '.' '-' topic
  rw [hmap]
  refine List.isChain_map_of_isChain _ (fun c d hcd => ?_) h
  split
  · exact noPair_of_plain_left (by decide)
  · split
    · exact noPair_of_plain_right (by decide)
    · exact hcd

open Text in
/-- The id of a topic that is read as it is written is so too. -/
theorem joinPairs_newArticleId {topic : Text} (h : joinPairs topic = topic) (now : Moment) :
    joinPairs (newArticleId topic now) = newArticleId topic now := by
  have hhead : IsPlain (lit "kb-") := by decide
  have hsuffix : IsPlain (('-' : CodePoint) :: ofInt now.millis) :=
    isPlain_cons (by decide) (isPlain_ofInt _)
  rw [joinPairs_eq_self_iff, newArticleId_eq]
  refine (hhead.isChain.append (isChain_hyphenated (joinPairs_eq_self_iff.1 h)) ?_).append
    hsuffix.isChain ?_
  · exact fun c hc d _ => noPair_of_plain_left (hhead c (List.mem_of_mem_getLast? hc))
  · exact fun c _ d hd => noPair_of_plain_right (hsuffix d (List.mem_of_mem_head? hd))

theorem eq_of_append_cons_eq {α : Type} {a : α} {x y s t : List α} (hs : a ∉ s) (ht : a ∉ t)
    (h : x ++ a :: s = y ++ a :: t) : x = y := by
  rcases List.append_eq_append_iff.1 h with ⟨c, rfl, hc⟩ | ⟨c, rfl, hc⟩
  all_goals
    rcases List.cons_eq_append_iff.1 hc with ⟨rfl, -⟩ | ⟨d, rfl, hd⟩
    · simp
    · simp_all

/-- From 1970 on, only topics that differ in nothing but dots and hyphens can get one id. -/
theorem hyphenated_eq_of_newArticleId_eq {t u : Text} {m n : Moment} (hm : 0 ≤ m.millis)
    (hn : 0 ≤ n.millis) (h : newArticleId t m = newArticleId u n) :
    hyphenated t = hyphenated u := by
  have digits {k : ℤ} (hk : 0 ≤ k) : ('-' : CodePoint) ∉ Text.ofInt k := by
    intro hmem
    rw [Text.ofInt, if_neg (by omega)] at hmem
    exact absurd (Text.isDigit_of_mem_ofNat hmem) (by decide)
  rw [newArticleId_eq, newArticleId_eq] at h
  exact List.append_cancel_left (eq_of_append_cons_eq (digits hm) (digits hn) h)

/-! ## Articles with minted ids -/

/-- What tells articles apart: the id and the topic. -/
def Article.key (a : Article) : Text × Text := (a.id, a.topic)

/-- The ids of the articles are different, and so are their topics. -/
structure AreDistinct (articles : List Article) : Prop where
  ids : (articles.map Article.id).Nodup
  topics : (articles.map Article.topic).Nodup

/-- At the times in question the topics are given different ids, and no topic is changed by being
written and read. -/
structure TellsApart (topics : Set Text) (times : Set Moment) : Prop where
  joined : ∀ t ∈ topics, Text.joinPairs t = t
  distinct : ∀ t ∈ topics, ∀ u ∈ topics, ∀ m ∈ times, ∀ n ∈ times,
    newArticleId t m = newArticleId u n → t = u

theorem tellsApart_of_hyphenated {topics : Set Text}
    (hjoined : ∀ t ∈ topics, Text.joinPairs t = t)
    (hdistinct : ∀ t ∈ topics, ∀ u ∈ topics, hyphenated t = hyphenated u → t = u) :
    TellsApart topics {m | 0 ≤ m.millis} where
  joined := hjoined
  distinct t ht u hu _ hm _ hn h := hdistinct t ht u hu (hyphenated_eq_of_newArticleId_eq hm hn h)

/-- The topics are different and among the given ones, and each id was made for its topic at one of
the given times. -/
structure Minted (topics : Set Text) (times : Set Moment) (keys : List (Text × Text)) : Prop where
  mem : ∀ k ∈ keys, k.2 ∈ topics ∧ ∃ m ∈ times, k.1 = newArticleId k.2 m
  nodup : (keys.map Prod.snd).Nodup

variable {topics : Set Text} {times : Set Moment} {keys keys' : List (Text × Text)}

theorem minted_nil : Minted topics times [] := ⟨nofun, List.nodup_nil⟩

theorem Minted.sublist (h : Minted topics times keys) (hsub : keys'.Sublist keys) :
    Minted topics times keys' :=
  ⟨fun k hk => h.mem k (hsub.subset hk), h.nodup.sublist (hsub.map _)⟩

/-- Ids that are made for different topics are different. -/
theorem Minted.ids_nodup (hapart : TellsApart topics times) (h : Minted topics times keys) :
    (keys.map Prod.fst).Nodup := by
  refine List.Nodup.map_on (fun k hk l hl hid => ?_) (List.Nodup.of_map _ h.nodup)
  obtain ⟨hkt, m, hm, hkm⟩ := h.mem k hk
  obtain ⟨hlt, n, hn, hln⟩ := h.mem l hl
  have htopic : k.2 = l.2 :=
    hapart.distinct _ hkt _ hlt _ hm _ hn (hkm.symm.trans (hid.trans hln))
  exact Prod.ext hid htopic

/-- Minted ids and their topics are read as they are written. -/
theorem Minted.joined (hapart : TellsApart topics times) (h : Minted topics times keys) :
    ∀ k ∈ keys, Text.joinPairs k.1 = k.1 ∧ Text.joinPairs k.2 = k.2 := by
  intro k hk
  obtain ⟨ht, m, -, hid⟩ := h.mem k hk
  have htopic := hapart.joined _ ht
  exact ⟨by rw [hid, joinPairs_newArticleId htopic], htopic⟩

theorem map_id_eq (articles : List Article) :
    (articles.map Article.id) = (articles.map Article.key).map Prod.fst := by
  rw [List.map_map]
  rfl

theorem map_topic_eq (articles : List Article) :
    (articles.map Article.topic) = (articles.map Article.key).map Prod.snd := by
  rw [List.map_map]
  rfl

theorem Minted.areDistinct (hapart : TellsApart topics times) {articles : List Article}
    (h : Minted topics times (articles.map Article.key)) : AreDistinct articles where
  ids := map_id_eq articles ▸ h.ids_nodup hapart
  topics := map_topic_eq articles ▸ h.nodup

/-- New articles on new topics are told apart from those that are there. -/
theorem Minted.append (h : Minted topics times keys) {now : Moment} (hnow : now ∈ times)
    {new : List Text} (hnew : ∀ t ∈ new, t ∈ topics ∧ t ∉ keys.map Prod.snd) (hnodup : new.Nodup) :
    Minted topics times (keys ++ new.map fun t => (newArticleId t now, t)) where
  mem k hk := by
    rcases List.mem_append.1 hk with hk | hk
    · exact h.mem k hk
    · obtain ⟨t, ht, rfl⟩ := List.mem_map.1 hk
      exact ⟨(hnew t ht).1, now, hnow, rfl⟩
  nodup := by
    have hsnd : (new.map fun t => (newArticleId t now, t)).map Prod.snd = new := by
      rw [List.map_map]
      exact List.map_id'' (fun _ => rfl) new
    rw [List.map_append, hsnd]
    exact h.nodup.append hnodup fun t ht ht' => (hnew t ht').2 ht

end HelpCenter

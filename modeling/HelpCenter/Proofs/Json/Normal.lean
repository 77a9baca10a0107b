import HelpCenter.Json.Loose
import HelpCenter.Proofs.Except
import HelpCenter.Proofs.Json.RoundTrip

/-!
# Normal forms and fields of written objects

Texts without surrogates are normal, and so is an object of fields with different names if its
values are (`normal_ofFields`).  The second part gives what each reader of a field finds in an
object that was written from fields.
-/

namespace HelpCenter

theorem CodePoint.isSurrogate_ofChar (c : Char) : (CodePoint.ofChar c).isSurrogate = false := by
  have v := c.valid
  have e : c.val.toNat = c.toNat := rfl
  simp only [UInt32.isValidChar, Nat.isValidChar, e] at v
  refine Bool.eq_false_iff.2 fun h => ?_
  obtain ⟨h₁, h₂⟩ := Bool.and_eq_true_iff.1 h
  have h₁ : 0xD800 ≤ c.toNat := of_decide_eq_true h₁
  have h₂ : c.toNat ≤ 0xDFFF := of_decide_eq_true h₂
  omega

namespace Text

theorem isEncodable_ofString (s : String) : (ofString s).isEncodable = true := by
  refine List.all_eq_true.2 fun c hc => ?_
  obtain ⟨d, -, rfl⟩ := List.mem_map.1 hc
  rw [CodePoint.isSurrogate_ofChar]
  rfl

theorem isEncodable_append (t u : Text) :
    (t ++ u).isEncodable = (t.isEncodable && u.isEncodable) := List.all_append

theorem isEncodable_joinWith {sep : Text} {pieces : List Text} (hsep : sep.isEncodable = true)
    (h : ∀ piece ∈ pieces, piece.isEncodable = true) :
    (joinWith sep pieces).isEncodable = true := by
  induction pieces with
  | nil => rfl
  | cons piece rest ih =>
      obtain ⟨hpiece, hrest⟩ := List.forall_mem_cons.1 h
      cases rest with
      | nil => exact hpiece
      | cons next rest =>
          rw [joinWith, isEncodable_append, isEncodable_append, hpiece, hsep, ih hrest]
          rfl

theorem ofString_inj {s t : String} : ofString s = ofString t ↔ s = t := by
  refine ⟨fun h => ?_, fun h => h ▸ rfl⟩
  refine String.toList_inj.1 (List.map_injective_iff.2 (fun c d hcd => ?_) h)
  exact Char.toNat_inj.1 (congrArg CodePoint.toNat hcd)

/-- Without surrogates there are no pairs to join. -/
theorem joinPairs_of_isEncodable {t : Text} (h : t.isEncodable = true) : joinPairs t = t := by
  induction t using joinPairs.induct with
  | case1 => rfl
  | case2 c => rfl
  | case3 c d rest hcd ih =>
      rw [Bool.and_eq_true] at hcd
      simp only [isEncodable, List.all_cons, Bool.and_eq_true, CodePoint.isSurrogate] at h
      have := Json.isSurrogate_bounds (.inl hcd.1)
      simp at h
      omega
  | case4 c d rest hcd ih =>
      rw [isEncodable, List.all_cons, Bool.and_eq_true] at h
      rw [joinPairs, if_neg hcd, ih h.2]

theorem joinPairs_lit (s : String) : joinPairs (lit s) = lit s :=
  joinPairs_of_isEncodable (isEncodable_ofString s)

end Text

namespace Binary64

/-- The same value; zero has no sign. -/
def plain (x : Binary64) : Binary64 := if x = .zero true then .zero false else x

theorem eq_zero_of_isZero {x : Binary64} (h : x.isZero = true) : ∃ neg, x = .zero neg := by
  cases x with
  | nan => cases h
  | infinite neg => cases h
  | finite neg m e hc =>
      obtain rfl : m = 0 := by simpa [isZero] using h
      obtain rfl : e = 0 := hc.2.2.resolve_right (by decide)
      exact ⟨neg, rfl⟩

end Binary64

namespace Json

/-! ## Normal forms -/

theorem normalItems_eq_map (items : List Json) : normalItems items = items.map normal := by
  induction items with
  | nil => rfl
  | cons item items ih => rw [normalItems, ih, List.map_cons]

@[simp] theorem normal_arr (items : List Json) : normal (.arr items) = .arr (items.map normal) := by
  rw [normal, normalItems_eq_map]

theorem put_of_notMem {name : Text} {value : Json} {members : List (Text × Json)}
    (h : name ∉ members.map Prod.fst) : put name value members = members ++ [(name, value)] := by
  induction members with
  | nil => rfl
  | cons member members ih =>
      obtain ⟨n, v⟩ := member
      rw [List.map_cons, List.mem_cons, not_or] at h
      rw [put, if_neg (Ne.symm h.1), ih h.2, List.cons_append]

theorem normalMembers_eq {members : List (Text × Json)} :
    ∀ {known : List (Text × Json)},
      (known.map Prod.fst ++ members.map fun m => Text.joinPairs m.1).Nodup →
        normalMembers known members =
          known ++ members.map fun m => (Text.joinPairs m.1, normal m.2) := by
  induction members with
  | nil => intro known _; rw [normalMembers, List.map_nil, List.append_nil]
  | cons member members ih =>
      intro known h
      obtain ⟨n, v⟩ := member
      have hn : Text.joinPairs n ∉ known.map Prod.fst := by
        rw [List.map_cons] at h
        exact fun hmem => List.disjoint_of_nodup_append h hmem (List.mem_cons_self ..)
      rw [normalMembers, put_of_notMem hn, ih (by simpa using h)]
      simp

/-- An object of fields with different names keeps all of them. -/
theorem normal_ofFields {fields : List (String × Json)} (h : (fields.map Prod.fst).Nodup) :
    normal (ofFields fields) = ofFields (fields.map fun f => (f.1, normal f.2)) := by
  have hnodup : ((fields.map fun f => (Text.ofString f.1, f.2)).map fun m =>
      Text.joinPairs m.1).Nodup := by
    rw [List.map_map]
    have : ((fun m : Text × Json => Text.joinPairs m.1) ∘ fun f : String × Json =>
        (Text.ofString f.1, f.2)) = Text.ofString ∘ Prod.fst :=
      funext fun f => Text.joinPairs_lit f.1
    have hmap := h.map (f := Text.ofString) fun s t hst => Text.ofString_inj.1 hst
    rw [List.map_map] at hmap
    exact this ▸ hmap
  rw [ofFields, normal, normalMembers_eq (by simpa using hnodup), List.nil_append, ofFields,
    List.map_map, List.map_map]
  congr 1
  exact List.map_congr_left fun f _ => by simp [Text.joinPairs_lit]

/-- The value is read as it is written. -/
def IsNormal (v : Json) : Prop := normal v = v

theorem isNormal_null : IsNormal .null := rfl

theorem isNormal_bool (b : Bool) : IsNormal (.bool b) := rfl

theorem isNormal_int (n : ℤ) : IsNormal (.int n) := rfl

theorem isNormal_float (x : Binary64) : IsNormal (.float x) := rfl

theorem isNormal_str {t : Text} (h : t.isEncodable = true) : IsNormal (.str t) :=
  congrArg Json.str (Text.joinPairs_of_isEncodable h)

theorem isNormal_arr {items : List Json} (h : ∀ v ∈ items, IsNormal v) : IsNormal (.arr items) := by
  rw [IsNormal, normal_arr, List.map_congr_left h, List.map_id']

theorem isNormal_ofFields {fields : List (String × Json)} (hn : (fields.map Prod.fst).Nodup)
    (hv : ∀ f ∈ fields, IsNormal f.2) : IsNormal (ofFields fields) := by
  rw [IsNormal, normal_ofFields hn, List.map_congr_left (g := id) fun f hf => ?_, List.map_id]
  exact Prod.ext rfl (hv f hf)

/-- The value is a text without surrogates. -/
def IsText (v : Json) : Prop := ∃ t : Text, v = .str t ∧ t.isEncodable = true

/-- The value is null or a text without surrogates. -/
def IsTextOrNull (v : Json) : Prop := v = .null ∨ v.IsText

/-- The value is null or an integer. -/
def IsIntegerOrNull (v : Json) : Prop := v = .null ∨ ∃ n, v = .int n

theorem IsText.isNormal {v : Json} (h : v.IsText) : IsNormal v := by
  obtain ⟨t, rfl, ht⟩ := h
  exact isNormal_str ht

theorem IsTextOrNull.isNormal {v : Json} (h : v.IsTextOrNull) : IsNormal v := by
  rcases h with rfl | h
  · exact isNormal_null
  · exact h.isNormal

theorem IsIntegerOrNull.isNormal {v : Json} (h : v.IsIntegerOrNull) : IsNormal v := by
  rcases h with rfl | ⟨n, rfl⟩
  · exact isNormal_null
  · exact isNormal_int n

/-! ## Values that can be printed -/

theorem allPrintable_iff {items : List Json} :
    allPrintable items = true ↔ ∀ v ∈ items, v.isPrintable = true := by
  induction items with
  | nil => simp [allPrintable]
  | cons v items ih => simp [allPrintable, ih]

theorem allPrintable_texts (ts : List Text) : allPrintable (ts.map .str) = true :=
  allPrintable_iff.2 <| List.forall_mem_map.2 fun _ _ => rfl

theorem isPrintable_ofFields {fields : List (String × Json)} :
    (ofFields fields).isPrintable = true ↔ ∀ f ∈ fields, f.2.isPrintable = true := by
  unfold ofFields
  rw [isPrintable]
  induction fields with
  | nil => simp [membersPrintable]
  | cons f fields ih => simp [membersPrintable, ih]

/-! ## Fields of written objects -/

variable {fields : List (String × Json)} {name : String}

theorem member?_ofFields (fields : List (String × Json)) (name : String) :
    member? (lit name) (fields.map fun (n, v) => (Text.ofString n, v)) = fields.lookup name := by
  induction fields with
  | nil => rfl
  | cons f fields ih =>
      obtain ⟨n, v⟩ := f
      rw [List.map_cons, member?, List.lookup_cons, ih]
      by_cases h : n = name
      · subst h
        simp
      · rw [if_neg fun ht => h (Text.ofString_inj.1 ht), beq_false_of_ne (Ne.symm h)]

theorem get?_ofFields (fields : List (String × Json)) (name : String) :
    (ofFields fields).get? (lit name) = fields.lookup name :=
  member?_ofFields fields name

theorem optional_ofFields {v : Json} (h : fields.lookup name = some v) :
    (ofFields fields).optional name = .ok v := by
  rw [ofFields, optional, member?_ofFields, h]
  rfl

theorem text_ofFields {t : Text} (h : fields.lookup name = some (.str t)) :
    (ofFields fields).text name = .ok t := by
  rw [ofFields, text, required, member?_ofFields, h]
  rfl

theorem textOr_ofFields_default {t default : Text} (h : fields.lookup name = some (.str t)) :
    (ofFields fields).textOr name default = .ok (if t = [] then default else t) := by
  rw [textOr, optional_ofFields h]
  cases t <;> rfl

theorem textOr_ofFields {t default : Text} (h : fields.lookup name = some (.str t))
    (ht : t = [] → default = []) : (ofFields fields).textOr name default = .ok t := by
  rw [textOr_ofFields_default h]
  split
  · next hnil => rw [ht hnil, hnil]
  · rfl

theorem flag_ofFields {b : Bool} (h : fields.lookup name = some (.bool b)) :
    (ofFields fields).flag name = .ok b := by
  rw [flag, optional_ofFields h]
  cases b <;> rfl

theorem list_ofFields {items : List Json} (h : fields.lookup name = some (.arr items)) :
    (ofFields fields).list name = .ok items := by
  rw [list, optional_ofFields h]
  cases items <;> rfl

theorem integerOr_ofFields_default {n default : ℤ} (h : fields.lookup name = some (.int n)) :
    (ofFields fields).integerOr name default = .ok (if n = 0 then default else n) := by
  rw [integerOr, optional_ofFields h]
  by_cases h0 : n = 0
  · subst h0
    rfl
  · have hsome : (Json.int n).isNothing = false := by simpa [isNothing] using h0
    rw [if_neg h0]
    exact if_neg (by simp [hsome])

theorem integerOr_ofFields {n default : ℤ} (h : fields.lookup name = some (.int n))
    (hn : n = 0 → default = 0) : (ofFields fields).integerOr name default = .ok n := by
  rw [integerOr_ofFields_default h]
  split
  · next hzero => rw [hn hzero, hzero]
  · rfl

theorem doubleOrZero_ofFields_plain {x : Binary64} (h : fields.lookup name = some (.float x)) :
    (ofFields fields).doubleOrZero name = .ok x.plain := by
  rw [doubleOrZero, optional_ofFields h, Binary64.plain]
  cases hz : x.isZero with
  | false =>
      have hne : x ≠ .zero true := by
        rintro rfl
        cases hz
      rw [if_neg hne]
      exact if_neg (by simp [isNothing, hz])
  | true =>
      rcases Binary64.eq_zero_of_isZero hz with ⟨neg, rfl⟩
      cases neg <;> rfl

theorem listOf_ofFields_map {α : Type} {read : Json → Except DataFault α} {write : α → Json}
    {g : α → α} {xs : List α} (h : fields.lookup name = some (.arr (xs.map write)))
    (hr : ∀ x ∈ xs, read (write x) = .ok (g x)) :
    (ofFields fields).listOf name read = .ok (xs.map g) := by
  rw [listOf, list_ofFields h]
  refine Except.mapM_eq_ok_iff.2 ?_
  rw [List.forall₂_map_left_iff, List.forall₂_map_right_iff, List.forall₂_same]
  exact hr

theorem listOf_ofFields {α : Type} {read : Json → Except DataFault α} {write : α → Json}
    {xs : List α} (h : fields.lookup name = some (.arr (xs.map write)))
    (hr : ∀ x ∈ xs, read (write x) = .ok x) : (ofFields fields).listOf name read = .ok xs := by
  rw [listOf_ofFields_map (g := id) h hr, List.map_id]

end Json

end HelpCenter

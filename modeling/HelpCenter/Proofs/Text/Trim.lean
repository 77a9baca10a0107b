import HelpCenter.Proofs.Text.Plain
import HelpCenter.Text.Blank
import Mathlib.Data.List.DropRight

/-!
# Trimming

What is left of a trimmed text has no blank at its ends (`trim_trim`), and only the outermost ends
are trimmed (`trim_append`).  What is blank around a text does not count (`trim_between`).
-/

namespace HelpCenter.Text

variable {s t u : Text} {c : CodePoint}

theorem mem_of_mem_trim (h : c ∈ trim t) : c ∈ t :=
  (List.dropWhile_suffix _).mem ((List.rdropWhile_prefix CodePoint.isBlank _).mem h)

theorem isEncodable_trim (h : t.isEncodable = true) : (trim t).isEncodable = true :=
  List.all_eq_true.2 fun c hc => List.all_eq_true.1 h c (mem_of_mem_trim hc)

theorem dropWhile_trim (t : Text) : (trim t).dropWhile CodePoint.isBlank = trim t := by
  obtain ⟨rest, hrest⟩ :=
    List.rdropWhile_prefix CodePoint.isBlank (t.dropWhile CodePoint.isBlank)
  have hhead := List.head?_dropWhile_not CodePoint.isBlank t
  show (List.rdropWhile _ (t.dropWhile _)).dropWhile _ = List.rdropWhile _ (t.dropWhile _)
  generalize List.rdropWhile CodePoint.isBlank (t.dropWhile CodePoint.isBlank) = trimmed at hrest ⊢
  cases trimmed with
  | nil => rfl
  | cons c trimmed =>
      rw [← hrest] at hhead
      have hc : CodePoint.isBlank c = false := by simpa using hhead
      rw [List.dropWhile_cons_of_neg (by simp [hc])]

theorem trim_trim (t : Text) : trim (trim t) = trim t := by
  have hleft : trim (trim t) = (trim t).rdropWhile CodePoint.isBlank :=
    congrArg (List.rdropWhile CodePoint.isBlank) (dropWhile_trim t)
  rw [hleft]
  exact List.rdropWhile_idempotent CodePoint.isBlank _

/-- What is left of a text when it is trimmed is not blank. -/
theorem isBlank_trim (h : trim t ≠ []) : isBlank (trim t) = false := by
  rw [← Bool.not_eq_true]
  intro hblank
  refine h ?_
  rw [← dropWhile_trim]
  exact List.dropWhile_eq_nil_iff.2 (List.all_eq_true.1 hblank)

theorem isBlank_of_head?_trimLeft (h : (trimLeft t).head? = some c) : c.isBlank = false := by
  have hhead := List.head?_dropWhile_not CodePoint.isBlank t
  rw [show t.dropWhile CodePoint.isBlank = trimLeft t from rfl, h] at hhead
  simpa using hhead

/-! ## Ends of a longer text -/

theorem trimLeftBy_append {p : CodePoint → Bool} (hc : p c = false) (s t : Text) :
    trimLeftBy p (s ++ c :: t) = trimLeftBy p s ++ c :: t := by
  unfold trimLeftBy
  induction s with
  | nil => simp [hc]
  | cons d s ih =>
      rw [List.cons_append, List.dropWhile_cons, List.dropWhile_cons, ih]
      split <;> rfl

theorem trimRightBy_append {p : CodePoint → Bool} (hc : p c = false) (s t : Text) :
    trimRightBy p (s ++ c :: t) = s ++ c :: trimRightBy p t := by
  show (trimLeftBy p (s ++ c :: t).reverse).reverse = _
  rw [List.reverse_append, List.reverse_cons, List.append_assoc, List.singleton_append,
    trimLeftBy_append hc]
  simp [trimLeftBy, trimRightBy]

theorem trimLeft_append (hc : c.isBlank = false) (s t : Text) :
    trimLeft (s ++ c :: t) = trimLeft s ++ c :: t :=
  trimLeftBy_append hc s t

theorem trimRight_eq (t : Text) : trimRight t = (trimLeft t.reverse).reverse := rfl

theorem trimRight_append (hc : c.isBlank = false) (s t : Text) :
    trimRight (s ++ c :: t) = s ++ c :: trimRight t :=
  trimRightBy_append hc s t

theorem trimLeft_of_isBlank (h : s.isBlank = true) : trimLeft s = [] :=
  List.dropWhile_eq_nil_iff.2 (List.all_eq_true.1 h)

theorem trimRight_of_isBlank (h : s.isBlank = true) : trimRight s = [] := by
  rw [trimRight_eq, trimLeft_of_isBlank (by simpa [isBlank] using h), List.reverse_nil]

theorem trim_of_isBlank (h : s.isBlank = true) : trim s = [] := by
  show trimRight (trimLeft s) = []
  rw [trimLeft_of_isBlank h]
  rfl

/-- Of a text between two others only what stands around it is trimmed. -/
theorem trim_append {first last : CodePoint} (hfirst : first.isBlank = false)
    (hlast : last.isBlank = false) (hhead : t.head? = some first)
    (hend : t.getLast? = some last) (s u : Text) :
    trim (s ++ t ++ u) = trimLeft s ++ t ++ trimRight u := by
  obtain ⟨rest, hrest⟩ := List.head?_eq_some_iff.1 hhead
  obtain ⟨front, hfront⟩ := List.getLast?_eq_some_iff.1 hend
  have hleft : trimLeft (s ++ t ++ u) = trimLeft s ++ t ++ u := by
    rw [hrest, List.append_assoc, List.cons_append, trimLeft_append hfirst, List.append_assoc,
      List.cons_append]
  show trimRight (trimLeft (s ++ t ++ u)) = _
  rw [hleft, hfront, List.append_assoc, List.append_assoc, List.singleton_append,
    ← List.append_assoc, trimRight_append hlast]
  simp

theorem trim_eq_self {first last : CodePoint} (hfirst : first.isBlank = false)
    (hlast : last.isBlank = false) (hhead : t.head? = some first)
    (hend : t.getLast? = some last) : trim t = t := by
  have h := trim_append hfirst hlast hhead hend [] []
  rw [List.nil_append, List.append_nil] at h
  exact h.trans (List.append_nil _)

/-! ## Blank ends -/

theorem isBlank_iff : t.isBlank = true ↔ ∀ c ∈ t, c.isBlank = true := List.all_eq_true

theorem trimLeft_append_of_isBlank (h : s.isBlank = true) (t : Text) :
    trimLeft (s ++ t) = trimLeft t :=
  List.dropWhile_append_of_pos (isBlank_iff.1 h)

theorem trimRight_append_of_isBlank (h : u.isBlank = true) (t : Text) :
    trimRight (t ++ u) = trimRight t := by
  rw [trimRight_eq, List.reverse_append, trimLeft_append_of_isBlank (by simpa [isBlank] using h),
    trimRight_eq]

theorem trimRight_trimRight (t : Text) : trimRight (trimRight t) = trimRight t :=
  List.rdropWhile_idempotent CodePoint.isBlank t

theorem trimRight_trim (t : Text) : trimRight (trim t) = trim t := trimRight_trimRight _

theorem isBlank_of_head?_trim (h : (trim t).head? = some c) : c.isBlank = false :=
  isBlank_of_head?_trimLeft ((dropWhile_trim t).symm ▸ h)

theorem isBlank_of_getLast?_trim (h : (trim t).getLast? = some c) : c.isBlank = false := by
  rw [← trimRight_trim, trimRight_eq, List.getLast?_reverse] at h
  exact isBlank_of_head?_trimLeft h

/-- A text that is not blank is cut at its first character that is not. -/
theorem exists_eq_append_of_not_isBlank (h : ¬ t.isBlank = true) :
    ∃ (s : Text) (c : CodePoint) (u : Text),
      s.isBlank = true ∧ c.isBlank = false ∧ t = s ++ c :: u := by
  have hne : t.dropWhile CodePoint.isBlank ≠ [] := fun hnil =>
    h (isBlank_iff.2 (List.dropWhile_eq_nil_iff.1 hnil))
  obtain ⟨c, u, hdrop⟩ := List.exists_cons_of_ne_nil hne
  have hhead := List.head?_dropWhile_not CodePoint.isBlank t
  rw [hdrop] at hhead
  refine ⟨t.takeWhile CodePoint.isBlank, c, u,
    isBlank_iff.2 fun d hd => List.mem_takeWhile_imp hd, by simpa using hhead, ?_⟩
  rw [← hdrop, List.takeWhile_append_dropWhile]

/-- What is blank around a text does not count. -/
theorem trim_between (hs : s.isBlank = true) (hu : u.isBlank = true) (t : Text) :
    trim (s ++ t ++ u) = trim t := by
  show trimRight (trimLeft (s ++ t ++ u)) = trimRight (trimLeft t)
  rw [List.append_assoc, trimLeft_append_of_isBlank hs]
  by_cases ht : t.isBlank = true
  · rw [trimLeft_of_isBlank ht, trimLeft_append_of_isBlank ht, trimLeft_of_isBlank hu]
  · obtain ⟨a, c, b, -, hc, rfl⟩ := exists_eq_append_of_not_isBlank ht
    rw [List.append_assoc, List.cons_append, trimLeft_append hc, trimLeft_append hc,
      trimRight_append hc, trimRight_append hc, trimRight_append_of_isBlank hu]

theorem exists_eq_trim (t : Text) :
    ∃ left right : Text,
      left.isBlank = true ∧ right.isBlank = true ∧ t = left ++ trim t ++ right := by
  refine ⟨t.takeWhile CodePoint.isBlank, (trimLeft t).rtakeWhile CodePoint.isBlank,
    isBlank_iff.2 fun c hc => List.mem_takeWhile_imp hc,
    isBlank_iff.2 fun c hc => List.mem_rtakeWhile_imp hc, ?_⟩
  have hright : trim t ++ (trimLeft t).rtakeWhile CodePoint.isBlank = trimLeft t :=
    List.rdropWhile_append_rtakeWhile ..
  rw [List.append_assoc, hright]
  exact List.takeWhile_append_dropWhile.symm

/-- A text says nothing just if the trimmed text does. -/
theorem isBlank_trim_eq (t : Text) : (trim t).isBlank = t.isBlank := by
  obtain ⟨left, right, hleft, hright, ht⟩ := exists_eq_trim t
  conv_rhs => rw [ht]
  rw [isBlank] at hleft hright
  rw [isBlank, isBlank, List.all_append, List.all_append, hleft, hright, Bool.and_true,
    Bool.true_and]

end HelpCenter.Text

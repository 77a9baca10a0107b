import HelpCenter.Proofs.Number.Shortest
import HelpCenter.Topic.Detection
import Mathlib

/-!
# The order of numbers

Apart from the undefined double, numbers are compared by their places on one line (`lt_iff_place`),
integers and doubles alike.  So the larger of two numbers does not depend on how three of them are
grouped (`max_assoc`), and taking it again and again gives the greatest of a list
(`isGreatest_foldl_max`).
-/

namespace HelpCenter.Number

/-- Whether a number is one: all are but the undefined double. -/
def IsDefined (x : Number) : Prop := x ≠ .double .nan

instance (x : Number) : Decidable x.IsDefined := by unfold IsDefined; infer_instance

/-- Where a number stands, in the units of doubles. -/
def place : Number → WithBot (WithTop ℤ)
  | .int n => ((n * Binary64.one : ℤ) : WithTop ℤ)
  | .double .nan => ⊥
  | .double (.infinite neg) => if neg then ⊥ else (⊤ : WithTop ℤ)
  | .double (.finite neg m e h) => ((Binary64.finite neg m e h).units : WithTop ℤ)

/-- Neither number is smaller: they are the same on the line. -/
def Ties (x y : Number) : Prop := x.lt y = false ∧ y.lt x = false

instance (x y : Number) : Decidable (x.Ties y) := by unfold Ties; infer_instance

/-- A number of the list that no other one of it exceeds. -/
def IsGreatest (x : Number) (xs : List Number) : Prop := x ∈ xs ∧ ∀ y ∈ xs, x.lt y = false

variable {x y z : Number}

/-- Units stand below infinity. -/
theorem coe_lt_top (n : ℤ) : ((n : WithTop ℤ) : WithBot (WithTop ℤ)) < ⊤ :=
  WithBot.coe_lt_coe.2 (WithTop.coe_lt_top n)

theorem coe_lt_coe {m n : ℤ} :
    ((m : WithTop ℤ) : WithBot (WithTop ℤ)) < (n : WithTop ℤ) ↔ m < n :=
  WithBot.coe_lt_coe.trans WithTop.coe_lt_coe

theorem lt_iff_place (hx : x.IsDefined) (hy : y.IsDefined) : x.lt y = true ↔ x.place < y.place := by
  have hone : (0 : ℤ) < Binary64.one := Int.natCast_pos.2 Binary64.one_pos
  match x, y with
  | .int m, .int n =>
      simp only [lt, place, coe_lt_coe, Int.mul_lt_mul_right hone, decide_eq_true_iff]
  | _, .double .nan => exact absurd rfl hy
  | .double .nan, _ => exact absurd rfl hx
  | .int m, .double (.infinite true) => exact iff_of_false Bool.false_ne_true not_lt_bot
  | .int m, .double (.infinite false) => exact iff_of_true rfl (coe_lt_top _)
  | .int m, .double (.finite ..) =>
      simp only [lt, place, coe_lt_coe, Binary64.isAbove, decide_eq_true_iff]
  | .double (.infinite true), .int n => exact iff_of_true rfl (WithBot.bot_lt_coe _)
  | .double (.infinite false), .int n => exact iff_of_false Bool.false_ne_true not_top_lt
  | .double (.finite ..), .int n =>
      simp only [lt, place, coe_lt_coe, Binary64.isBelow, decide_eq_true_iff]
  | .double (.infinite s), .double (.infinite t) =>
      cases s <;> cases t <;> simp [lt, place, Binary64.lt]
  | .double (.infinite s), .double (.finite ..) => cases s <;> simp [lt, place, Binary64.lt]
  | .double (.finite ..), .double (.infinite t) =>
      cases t <;> simp [lt, place, Binary64.lt, coe_lt_top]
  | .double (.finite ..), .double (.finite ..) => simp [lt, place, Binary64.lt]

theorem lt_eq_false_iff (hx : x.IsDefined) (hy : y.IsDefined) :
    x.lt y = false ↔ y.place ≤ x.place := by
  rw [← not_lt, ← lt_iff_place hx hy, Bool.not_eq_true]

theorem max_eq_or (x y : Number) : x.max y = x ∨ x.max y = y := by
  unfold max
  split
  · exact .inr rfl
  · exact .inl rfl

theorem IsDefined.max (hx : x.IsDefined) (hy : y.IsDefined) : (x.max y).IsDefined := by
  rcases max_eq_or x y with h | h <;> rw [h] <;> assumption

theorem max_eq_ite (hx : x.IsDefined) (hy : y.IsDefined) :
    x.max y = if x.place < y.place then y else x := by
  unfold max
  simp only [lt_iff_place hx hy]

theorem place_max (hx : x.IsDefined) (hy : y.IsDefined) :
    (x.max y).place = Max.max x.place y.place := by
  rw [max_eq_ite hx hy]
  split
  · next h => exact (max_eq_right h.le).symm
  · next h => exact (max_eq_left (not_lt.1 h)).symm

/-- Of three numbers the first of the largest ones is found in either grouping. -/
theorem max_assoc (hx : x.IsDefined) (hy : y.IsDefined) (hz : z.IsDefined) :
    (x.max y).max z = x.max (y.max z) := by
  rw [max_eq_ite (hx.max hy) hz, max_eq_ite hx (hy.max hz), place_max hx hy, place_max hy hz,
    max_eq_ite hx hy, max_eq_ite hy hz]
  by_cases hxy : x.place < y.place <;> by_cases hyz : y.place < z.place
  · have hxz := hxy.trans hyz
    simp [hxy, hyz, hxz]
  · simp [hxy, hyz]
  · simp [hxy, hyz]
  · have hxz : ¬ x.place < z.place := not_lt.2 ((not_lt.1 hyz).trans (not_lt.1 hxy))
    simp [hxy, hyz, hxz]

/-- Taking the larger one again and again gives the greatest number of all. -/
theorem isGreatest_foldl_max {xs : List Number} (h : ∀ y ∈ x :: xs, y.IsDefined) :
    (xs.foldl max x).IsGreatest (x :: xs) := by
  induction xs generalizing x with
  | nil =>
      refine ⟨List.mem_singleton.2 rfl, fun y hy => ?_⟩
      obtain rfl := List.mem_singleton.1 hy
      exact (lt_eq_false_iff (h _ hy) (h _ hy)).2 le_rfl
  | cons y ys ih =>
      have hx : x.IsDefined := h x (List.mem_cons_self ..)
      have hy : y.IsDefined := h y (by simp)
      have hall : ∀ z ∈ x.max y :: ys, z.IsDefined :=
        List.forall_mem_cons.2 ⟨hx.max hy, fun z hz => h z (by simp [hz])⟩
      obtain ⟨hmem, hle⟩ := ih hall
      have hdefined := hall _ hmem
      have hbelow := (lt_eq_false_iff hdefined (hx.max hy)).1 (hle _ (List.mem_cons_self ..))
      rw [place_max hx hy, max_le_iff] at hbelow
      refine ⟨?_, fun z hz => ?_⟩
      · rcases List.mem_cons.1 hmem with heq | hys
        · rw [List.foldl_cons, heq]
          rcases max_eq_or x y with h | h <;> simp [h]
        · exact List.mem_cons_of_mem _ (List.mem_cons_of_mem _ hys)
      · rcases List.mem_cons.1 hz with rfl | hz
        · exact (lt_eq_false_iff hdefined hx).2 hbelow.1
        · rcases List.mem_cons.1 hz with rfl | hz
          · exact (lt_eq_false_iff hdefined hy).2 hbelow.2
          · exact hle z (List.mem_cons_of_mem _ hz)

/-- The greatest numbers of lists with the same members are the same on the line. -/
theorem IsGreatest.ties {xs ys : List Number} (hx : x.IsGreatest xs) (hy : y.IsGreatest ys)
    (h : ∀ z, z ∈ xs ↔ z ∈ ys) : x.Ties y :=
  ⟨hx.2 y ((h y).2 hy.1), hy.2 x ((h x).1 hx.1)⟩

end HelpCenter.Number

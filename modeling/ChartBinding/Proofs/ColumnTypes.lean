import ChartBinding.DataType
import Mathlib.Logic.Basic
import Mathlib.Order.Bounds.Defs
import Mathlib.Order.Defs.PartialOrder

/-!
# The type of a column

The search for the type of a column strikes types out value by value and may be given up early. What
it leaves is what one look at the whole column leaves (`DataType.remaining_eq_some_iff`), so the
type is the first one that fits (`DataType.infer_eq_find?`), and it depends on nothing but which
values there are.

The tests of integers, numbers and dates are nested, and none of them passes what reads as a truth
value. So among the types that fit a column with a value in it the first is the least in the order
of width (`DataType.isLeast_infer`). More values leave fewer types that fit, and the least of fewer
is no less.
-/

namespace ChartBinding

/-! ## The tests -/

namespace Json

variable {v : Json}

theorem isNumberLike_of_isIntegerLike (passes : v.isIntegerLike = true) :
    v.isNumberLike = true := by
  rw [isNumberLike]
  cases amount : v.amount? with
  | none => simp [isIntegerLike, amount] at passes
  | some a => rfl

theorem isDateLike_of_isNumberLike (passes : v.isNumberLike = true) : v.isDateLike = true := by
  cases v with
  | null | bool b | arr elems | obj members => exact nomatch passes
  | int i => rfl
  | float x => rfl
  | str s =>
      have spelled : (spelledAmount? s).isSome = true := passes
      simp [isDateLike, spelled]

/-- The two texts of truth values spell no number and no date in any of the forms. -/
theorem isDateLike_eq_false_of_isBooleanLike (passes : v.isBooleanLike = true) :
    v.isDateLike = false := by
  cases v with
  | null | int i | float x | arr elems | obj members => exact nomatch passes
  | bool b => rfl
  | str s =>
      simp only [isBooleanLike, Bool.or_eq_true, beq_iff_eq] at passes
      rcases passes with rfl | rfl
      · decide +kernel
      · decide +kernel

/-- What passes for a truth value passes for nothing else. -/
theorem apart_of_isBooleanLike (passes : v.isBooleanLike = true) :
    v.isIntegerLike = false ∧ v.isNumberLike = false ∧ v.isDateLike = false := by
  have noDate := isDateLike_eq_false_of_isBooleanLike passes
  have noNumber : v.isNumberLike = false := by
    rw [Bool.eq_false_iff] at noDate ⊢
    exact fun number => noDate (isDateLike_of_isNumberLike number)
  have noInteger : v.isIntegerLike = false := by
    rw [Bool.eq_false_iff] at noNumber ⊢
    exact fun integer => noNumber (isNumberLike_of_isIntegerLike integer)
  exact ⟨noInteger, noNumber, noDate⟩

end Json

namespace DataType

/-! ## What the search leaves -/

/-- Whether a column of the type may hold the values. Nulls may stand in every column. -/
def fits (values : List Json) (t : DataType) : Bool := values.all fun v => v.isNull || t.admits v

theorem fits_iff {values : List Json} {t : DataType} :
    t.fits values = true ↔ ∀ v ∈ values, v.isNull = false → t.admits v = true := by
  simp [fits, or_iff_not_imp_left]

theorem filter_fits_cons (types : List DataType) (v : Json) (rest : List Json) :
    types.filter (fits (v :: rest)) =
      (types.filter fun t => v.isNull || t.admits v).filter (fits rest) := by
  rw [List.filter_filter]
  exact List.filter_congr fun t _ => Bool.and_comm _ _

/-- The search leaves the types that fit all values, and it is given up exactly if there are none.
At each value but a null the types to go on with are those that admit it. -/
theorem remaining_eq_some_iff {types left : List DataType} {values : List Json}
    (given : types ≠ []) :
    remaining types values = some left ↔ left = types.filter (fits values) ∧ left ≠ [] := by
  induction values generalizing types with
  | nil =>
      have all : types.filter (fits []) = types := List.filter_eq_self.2 fun _ _ => rfl
      rw [remaining, all, Option.some_inj, eq_comm]
      constructor
      · rintro rfl
        exact ⟨rfl, given⟩
      · rintro ⟨same, -⟩
        exact same
  | cons v rest ih =>
      rw [remaining, filter_fits_cons]
      cases null : v.isNull with
      | true =>
          have all : (types.filter fun t => true || t.admits v) = types :=
            List.filter_eq_self.2 fun _ _ => rfl
          rw [all, if_pos rfl]
          exact ih given
      | false =>
          rw [if_neg Bool.false_ne_true]
          simp only [Bool.false_or]
          split
          · next none_left =>
              rw [none_left]
              refine iff_of_false (Option.some_ne_none left).symm ?_
              rintro ⟨rfl, some_left⟩
              exact some_left rfl
          · next some_left => exact ih some_left

/-- The first type of a search that is not given up is there, and it is the type. -/
theorem head?_of_remaining {values : List Json} {left : List DataType}
    (found : remaining candidates values = some left) : left.head? = some (infer values) := by
  rw [List.head?_eq_some_head (remaining_ne_nil (List.cons_ne_nil _ _) found)]
  unfold infer
  split
  · next given_up => cases given_up.symm.trans found
  · next left' found' =>
      cases found'.symm.trans found
      rfl

theorem infer_eq_find? (values : List Json) :
    infer values = (candidates.find? (fits values)).getD string := by
  have given : candidates ≠ [] := List.cons_ne_nil _ _
  rw [← List.head?_filter]
  cases left : candidates.filter (fits values) with
  | nil =>
      unfold infer
      split
      · rfl
      · next left' found =>
          obtain ⟨rfl, some_left⟩ := (remaining_eq_some_iff given).1 found
          exact absurd left some_left
  | cons t rest =>
      have found := (remaining_eq_some_iff given).2 ⟨left.symm, List.cons_ne_nil t rest⟩
      exact (Option.some.inj (head?_of_remaining found)).symm

/-- Lists with the same values, whatever their order, their repetitions and their nulls. -/
def SameValues (values others : List Json) : Prop :=
  ∀ v, v.isNull = false → (v ∈ values ↔ v ∈ others)

theorem fits_congr {values others : List Json} (same : SameValues values others) :
    fits values = fits others := by
  funext t
  rw [Bool.eq_iff_iff, fits_iff, fits_iff]
  constructor
  · exact fun fit v there valued => fit v ((same v valued).2 there) valued
  · exact fun fit v there valued => fit v ((same v valued).1 there) valued

theorem infer_congr {values others : List Json} (same : SameValues values others) :
    infer values = infer others := by
  rw [infer_eq_find?, infer_eq_find?, fits_congr same]

theorem infer_of_nulls {values : List Json} (nulls : ∀ v ∈ values, v.isNull = true) :
    infer values = boolean := by
  have fit : fits values boolean = true := by
    rw [fits_iff]
    intro v there valued
    rw [nulls v there] at valued
    cases valued
  rw [infer_eq_find?, candidates, List.find?_cons_of_pos fit]
  rfl

/-- **The type of a column is the first that fits.** When the search is over, the list from which
its first type is taken is not empty. The type is the first of boolean, integer, number and date
that admits every value but the nulls, and string if none does; it is boolean if there are only
nulls. So it depends on which values there are besides nulls and not on their order or number. -/
theorem infer_is_first_that_fits (values : List Json) :
    (∀ left, remaining candidates values = some left → left.head? = some (infer values)) ∧
      infer values =
        ([boolean, integer, number, date].find? fun t =>
          values.all fun v => v.isNull || t.admits v).getD string ∧
      ((∀ v ∈ values, v.isNull = true) → infer values = boolean) ∧
      (∀ others, SameValues values others → infer others = infer values) ∧
      (∀ others, values.Perm others → infer others = infer values) ∧
      ∀ before after v, values = before ++ after → v.isNull = true ∨ v ∈ values →
        infer (before ++ v :: after) = infer values := by
  refine ⟨fun _ => head?_of_remaining, infer_eq_find? values, infer_of_nulls,
    fun _ same => (infer_congr same).symm, ?_, ?_⟩
  · intro others perm
    exact (infer_congr fun v _ => perm.mem_iff).symm
  · rintro before after v rfl idle
    refine (infer_congr fun w valued => ?_).symm
    rw [List.mem_append, List.mem_append, List.mem_cons]
    constructor
    · rintro (there | there)
      · exact .inl there
      · exact .inr (.inr there)
    · rintro (there | rfl | there)
      · exact .inl there
      · rcases idle with null | there
        · rw [null] at valued
          cases valued
        · exact List.mem_append.1 there
      · exact .inr there

example : infer [.null, .int 1, .str " 2.5 ", .int 1] = number := by decide +kernel

/-! ## Width -/

/-- The types that are wider than a type. -/
def wider : DataType → List DataType
  | boolean => [string]
  | integer => [number, date, string]
  | number => [date, string]
  | date => [string]
  | string => []

instance : LE DataType := ⟨fun t u => t = u ∨ u ∈ t.wider⟩

instance : DecidableLE DataType := fun t u => inferInstanceAs (Decidable (t = u ∨ u ∈ t.wider))

instance : PartialOrder DataType where
  le_refl _ := .inl rfl
  le_trans t u w := by cases t <;> cases u <;> cases w <;> decide
  le_antisymm t u := by cases t <;> cases u <;> decide

instance : DecidableLT DataType := decidableLTOfDecidableLE

/-- In a column with a value in it that fits truth values, nothing fits but them and text. -/
theorem boolean_le_of_fits {values : List Json} (known : ∃ v ∈ values, v.isNull = false)
    {t : DataType} (truths : fits values boolean = true) (fit : fits values t = true) :
    boolean ≤ t := by
  obtain ⟨v, there, valued⟩ := known
  obtain ⟨noInteger, noNumber, noDate⟩ :=
    Json.apart_of_isBooleanLike (fits_iff.1 truths v there valued)
  have passes : t.admits v = true := fits_iff.1 fit v there valued
  cases t with
  | boolean | string => decide
  | integer => exact nomatch noInteger.symm.trans passes
  | number => exact nomatch noNumber.symm.trans passes
  | date => exact nomatch noDate.symm.trans passes

theorem fits_infer (values : List Json) : fits values (infer values) = true := by
  rw [infer_eq_find?]
  cases found : candidates.find? (fits values) with
  | some t => exact List.find?_some found
  | none => exact fits_iff.2 fun _ _ _ => rfl

/-- Of types in order of width the first that fits is the narrowest. -/
theorem find?_getD_le {types : List DataType} {widest : DataType} {p : DataType → Bool}
    (ordered : (types ++ [widest]).Pairwise (· ≤ ·)) {t : DataType} (listed : t ∈ types ++ [widest])
    (passes : p t = true) : (types.find? p).getD widest ≤ t := by
  induction types with
  | nil => exact le_of_eq (List.mem_singleton.1 listed).symm
  | cons first rest ih =>
      obtain ⟨narrowest, ordered⟩ := List.pairwise_cons.1 ordered
      have later : t = first ∨ t ∈ rest ++ [widest] := List.mem_cons.1 listed
      by_cases fit : p first = true
      · rw [List.find?_cons_of_pos fit]
        rcases later with rfl | later
        · exact le_refl t
        · exact narrowest t later
      · rw [List.find?_cons_of_neg fit]
        rcases later with rfl | later
        · exact absurd passes fit
        · exact ih ordered later

/-- **The type of a column is the least that fits**, once there is a value in it. -/
theorem isLeast_infer {values : List Json} (known : ∃ v ∈ values, v.isNull = false) :
    IsLeast {t | fits values t = true} (infer values) := by
  refine ⟨fits_infer values, ?_⟩
  intro t fit
  rw [infer_eq_find?, candidates]
  by_cases truths : fits values boolean = true
  · rw [List.find?_cons_of_pos truths]
    exact boolean_le_of_fits known truths fit
  · -- The candidates from the second on are in order of width, and the last resort is the widest.
    rw [List.find?_cons_of_neg truths]
    have listed : t ∈ [integer, number, date] ++ [string] := by
      cases t with
      | boolean => exact absurd fit truths
      | _ => decide
    exact find?_getD_le (by decide) listed fit

/-- **More values only widen the type.** In a column with a value in it the type stays or gets
wider when values are added, so truth values can only become text. The tests behind it: integers are
numbers, numbers are dates, and what passes for a truth value passes for none of them. -/
theorem infer_only_widens (xs ys : List Json) (known : ∃ v ∈ xs, v.isNull = false) :
    infer xs ≤ infer (xs ++ ys) ∧
      (infer xs = boolean → infer (xs ++ ys) = boolean ∨ infer (xs ++ ys) = string) ∧
      (integer < number ∧ number < date ∧ date < string ∧ boolean < string ∧
        ∀ t ∈ [integer, number, date], ¬ boolean ≤ t ∧ ¬ t ≤ boolean) ∧
      ∀ v : Json,
        (v.isIntegerLike = true → v.isNumberLike = true) ∧
        (v.isNumberLike = true → v.isDateLike = true) ∧
        (v.isBooleanLike = true →
          v.isIntegerLike = false ∧ v.isNumberLike = false ∧ v.isDateLike = false) := by
  have widens : infer xs ≤ infer (xs ++ ys) := by
    refine (isLeast_infer known).2 (fits_iff.2 ?_)
    intro v there valued
    exact fits_iff.1 (fits_infer (xs ++ ys)) v (List.mem_append_left ys there) valued
  refine ⟨widens, ?_, by decide, ?_⟩
  · intro truths
    rw [truths] at widens
    revert widens
    cases infer (xs ++ ys) <;> decide
  · intro v
    exact ⟨Json.isNumberLike_of_isIntegerLike, Json.isDateLike_of_isNumberLike,
      Json.apart_of_isBooleanLike⟩

/-- A column of truth values that meets a number. -/
theorem infer_only_widens_truths :
    infer [.null, .str "true"] = boolean ∧
      infer [.null, .str "true"] ≤ infer ([.null, .str "true"] ++ [.bool false, .int 1]) ∧
      infer ([.null, .str "true"] ++ [.bool false, .int 1]) = string := by
  have truths : infer [.null, .str "true"] = boolean := rfl
  obtain ⟨widens, becomes, -⟩ := infer_only_widens [.null, .str "true"] [.bool false, .int 1]
    ⟨.str "true", by simp, rfl⟩
  exact ⟨truths, widens, (becomes truths).resolve_left (by decide)⟩

end DataType

end ChartBinding

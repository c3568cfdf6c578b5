-- A text is turned into another by putting characters in, taking them out and replacing them. The
-- least number of such changes is found at the first characters of the two texts: one of them is
-- put in, taken out or replaced, or they are equal and stay.
import Mathlib.Data.Nat.Init
import Mathlib.Order.Bounds.Defs
import Mathlib.Order.MinMax

namespace LockDiscipline.Text

/-! ## Changes of a text -/

/-- One change of a text: a character is put in, taken out, or replaced. -/
inductive Edit : List Char → List Char → Prop
  | insert (before : List Char) (c : Char) (after : List Char) :
      Edit (before ++ after) (before ++ c :: after)
  | delete (before : List Char) (c : Char) (after : List Char) :
      Edit (before ++ c :: after) (before ++ after)
  | replace (before : List Char) (c d : Char) (after : List Char) :
      Edit (before ++ c :: after) (before ++ d :: after)

/-- A text is turned into another by so many changes, one after the other. -/
inductive EditedIn : Nat → List Char → List Char → Prop
  | unchanged (a : List Char) : EditedIn 0 a a
  | step {count : Nat} {a b c : List Char} :
      Edit a b → EditedIn count b c → EditedIn (count + 1) a c

variable {a b c : List Char} {count more : Nat}

namespace Edit

theorem symm (h : Edit a b) : Edit b a := by
  cases h with
  | insert before c after => exact .delete before c after
  | delete before c after => exact .insert before c after
  | replace before c d after => exact .replace before d c after

theorem cons (x : Char) (h : Edit a b) : Edit (x :: a) (x :: b) := by
  cases h with
  | insert before c after => exact .insert (x :: before) c after
  | delete before c after => exact .delete (x :: before) c after
  | replace before c d after => exact .replace (x :: before) c d after

theorem reverse (h : Edit a b) : Edit a.reverse b.reverse := by
  cases h with
  | insert before c after =>
    simpa using Edit.insert after.reverse c before.reverse
  | delete before c after =>
    simpa using Edit.delete after.reverse c before.reverse
  | replace before c d after =>
    simpa using Edit.replace after.reverse c d before.reverse

end Edit

namespace EditedIn

theorem of_edit (h : Edit a b) : EditedIn 1 a b := .step h (.unchanged b)

theorem trans (hab : EditedIn count a b) (hbc : EditedIn more b c) :
    EditedIn (count + more) a c := by
  induction hab with
  | unchanged => simpa using hbc
  | step hedit _ ih =>
    rw [Nat.add_right_comm]
    exact .step hedit (ih hbc)

theorem symm (h : EditedIn count a b) : EditedIn count b a := by
  induction h with
  | unchanged a => exact .unchanged a
  | step hedit _ ih => exact ih.trans (.of_edit hedit.symm)

theorem cons (x : Char) (h : EditedIn count a b) : EditedIn count (x :: a) (x :: b) := by
  induction h with
  | unchanged a => exact .unchanged (x :: a)
  | step hedit _ ih => exact .step (hedit.cons x) ih

theorem reverse (h : EditedIn count a b) : EditedIn count a.reverse b.reverse := by
  induction h with
  | unchanged a => exact .unchanged a.reverse
  | step hedit _ ih => exact .step hedit.reverse ih

theorem eq_of_zero (h : EditedIn 0 a b) : a = b := by
  cases h
  rfl

/-- A text is written, one character after the other. -/
theorem of_nil (b : List Char) : EditedIn b.length [] b := by
  induction b with
  | nil => exact .unchanged []
  | cons d b ih => exact .step (.insert [] d []) (ih.cons d)

end EditedIn

/-! ## The least number of changes -/

/-- How far two texts are apart, by their first characters. -/
def apart : List Char → List Char → Nat
  | [], b => b.length
  | a, [] => a.length
  | c :: a, d :: b =>
    min (min (apart a (d :: b) + 1) (apart (c :: a) b + 1)) (apart a b + if c = d then 0 else 1)
termination_by a b => a.length + b.length

@[simp] theorem apart_nil_left (b : List Char) : apart [] b = b.length := by
  rw [apart]

@[simp] theorem apart_nil_right (a : List Char) : apart a [] = a.length := by
  cases a with
  | nil => rw [apart_nil_left]
  | cons c a =>
    rw [apart]
    exact nofun

theorem apart_cons_cons (c d : Char) (a b : List Char) :
    apart (c :: a) (d :: b) =
      min (min (apart a (d :: b) + 1) (apart (c :: a) b + 1))
        (apart a b + if c = d then 0 else 1) := by
  rw [apart]

/-- So many changes are enough. -/
theorem editedIn_apart (a b : List Char) : EditedIn (apart a b) a b := by
  fun_induction apart a b with
  | case1 b => exact .of_nil b
  | case2 a _ => exact (EditedIn.of_nil a).symm
  | case3 c a d b hdelete hinsert hkeep =>
    have hdeleted : EditedIn (apart a (d :: b) + 1) (c :: a) (d :: b) :=
      .step (.delete [] c a) hdelete
    have hinserted : EditedIn (apart (c :: a) b + 1) (c :: a) (d :: b) :=
      .step (.insert [] d (c :: a)) (hinsert.cons d)
    have hkept : EditedIn (apart a b + if c = d then 0 else 1) (c :: a) (d :: b) := by
      by_cases hcd : c = d
      · rw [if_pos hcd, hcd]
        exact hkeep.cons d
      · rw [if_neg hcd]
        exact .step (.replace [] c d a) (hkeep.cons d)
    have hchanged :=
      min_rec' (fun count => EditedIn count (c :: a) (d :: b)) hdeleted hinserted
    exact min_rec' (fun count => EditedIn count (c :: a) (d :: b)) hchanged hkept

/-! ## One change makes a difference of at most one -/

theorem apart_cons_left_le (c : Char) (a b : List Char) : apart (c :: a) b ≤ apart a b + 1 := by
  cases b with
  | nil => simp
  | cons d b =>
    rw [apart_cons_cons]
    omega

theorem apart_cons_right_le (d : Char) (a b : List Char) : apart a (d :: b) ≤ apart a b + 1 := by
  cases a with
  | nil => simp
  | cons c a =>
    rw [apart_cons_cons]
    omega

theorem apart_le_cons_left (c : Char) (a b : List Char) : apart a b ≤ apart (c :: a) b + 1 := by
  induction b with
  | nil =>
    simp only [apart_nil_right, List.length_cons]
    omega
  | cons d b ih =>
    rw [apart_cons_cons]
    have hright := apart_cons_right_le d a b
    omega

theorem apart_replace_le (c d : Char) (a b : List Char) :
    apart (c :: a) b ≤ apart (d :: a) b + 1 := by
  induction b with
  | nil => simp
  | cons e b ih =>
    rw [apart_cons_cons d e]
    have hdelete := apart_cons_left_le c a (e :: b)
    have hinsert := apart_cons_right_le e (c :: a) b
    have hkeep : apart (c :: a) (e :: b) ≤ apart a b + 1 := by
      rw [apart_cons_cons]
      split <;> omega
    omega

/-- A character in front of two texts makes neither nearer to a third than the other by more than
they are without it. -/
theorem apart_cons_le_cons (x : Char) (h : ∀ c, apart a c ≤ apart b c + 1) (c : List Char) :
    apart (x :: a) c ≤ apart (x :: b) c + 1 := by
  induction c with
  | nil =>
    have hnil := h []
    simp only [apart_nil_right, List.length_cons] at hnil ⊢
    omega
  | cons d c ih =>
    have hdelete := h (d :: c)
    have hkeep := h c
    rw [apart_cons_cons, apart_cons_cons]
    omega

theorem apart_append_le_append (before : List Char) (h : ∀ c, apart a c ≤ apart b c + 1)
    (c : List Char) : apart (before ++ a) c ≤ apart (before ++ b) c + 1 := by
  induction before generalizing c with
  | nil => exact h c
  | cons x before ih => exact apart_cons_le_cons x ih c

theorem Edit.apart_le (h : Edit a b) (c : List Char) : apart a c ≤ apart b c + 1 := by
  cases h with
  | insert before x after => exact apart_append_le_append before (apart_le_cons_left x after) c
  | delete before x after => exact apart_append_le_append before (apart_cons_left_le x after) c
  | replace before x y after => exact apart_append_le_append before (apart_replace_le x y after) c

theorem apart_self (a : List Char) : apart a a = 0 := by
  induction a with
  | nil => simp
  | cons c a ih =>
    rw [apart_cons_cons, ih]
    simp

/-- No fewer changes are enough. -/
theorem EditedIn.apart_le (h : EditedIn count a b) : apart a b ≤ count := by
  induction h with
  | unchanged a => exact (apart_self a).le
  | @step count a b c hedit _ ih =>
    have hfirst := hedit.apart_le c
    omega

theorem isLeast_apart (a b : List Char) : IsLeast {count | EditedIn count a b} (apart a b) :=
  ⟨editedIn_apart a b, fun _ h => EditedIn.apart_le h⟩

/-- Changes may be told from the end of the texts as well as from the front. -/
theorem apart_reverse (a b : List Char) : apart a.reverse b.reverse = apart a b := by
  apply le_antisymm
  · exact (editedIn_apart a b).reverse.apart_le
  · have hback := (editedIn_apart a.reverse b.reverse).reverse
    rw [List.reverse_reverse, List.reverse_reverse] at hback
    exact hback.apart_le

theorem apart_comm (a b : List Char) : apart a b = apart b a :=
  le_antisymm (editedIn_apart b a).symm.apart_le (editedIn_apart a b).symm.apart_le

theorem apart_triangle (a b c : List Char) : apart a c ≤ apart a b + apart b c :=
  ((editedIn_apart a b).trans (editedIn_apart b c)).apart_le

theorem apart_eq_zero_iff : apart a b = 0 ↔ a = b := by
  constructor
  · intro h
    have hedited := editedIn_apart a b
    rw [h] at hedited
    exact hedited.eq_of_zero
  · rintro rfl
    exact apart_self a

end LockDiscipline.Text

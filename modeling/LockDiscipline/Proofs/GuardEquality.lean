-- Equality of guards leaves types out, so it is coarser than equality of terms. It is still an
-- equivalence, and that is all that lists of locks ask of it.
import LockDiscipline.Guard.Basic

namespace LockDiscipline

namespace FieldSymbol

theorem same_iff (a b : FieldSymbol) : a.same b = true ↔ a.owner = b.owner ∧ a.name = b.name := by
  simp [same]

end FieldSymbol

namespace Guard

/-! ## Equality is an equivalence -/

theorem same_refl (a : Guard) : a.same a = true := by
  induction a with
  | this _ => rfl
  | enclosing _ _ => simp [same]
  | field r f ih => simp [same, ih, FieldSymbol.same_iff]
  | staticField f => simp [same, FieldSymbol.same_iff]
  | classLit _ => simp [same]
  | verbatim _ _ => simp [same]

theorem same_symm {a b : Guard} (h : a.same b = true) : b.same a = true := by
  induction a generalizing b with
  | field r f ih =>
    cases b with
    | field s g =>
      simp only [same, Bool.and_eq_true, FieldSymbol.same_iff] at h ⊢
      exact ⟨ih h.1, h.2.1.symm, h.2.2.symm⟩
    | _ => simp [same] at h
  | _ =>
    cases b <;> simp_all [same, FieldSymbol.same_iff]

theorem same_trans {a b c : Guard} (h : a.same b = true) (h' : b.same c = true) :
    a.same c = true := by
  induction a generalizing b c with
  | field r f ih =>
    cases b with
    | field s g =>
      cases c with
      | field t k =>
        simp only [same, Bool.and_eq_true, FieldSymbol.same_iff] at h h' ⊢
        exact ⟨ih h.1 h'.1, h.2.1.trans h'.2.1, h.2.2.trans h'.2.2⟩
      | _ => simp [same] at h'
    | _ => simp [same] at h
  | _ =>
    cases b <;> cases c <;> simp_all [same, FieldSymbol.same_iff]

instance : EquivBEq Guard where
  rfl {a} := same_refl a
  symm h := same_symm h
  trans h h' := same_trans h h'

end Guard

end LockDiscipline

-- Receivers can be put together before a guard is rebound to them, or taken one after the other. And
-- equal guards rebound to equal receivers are equal, down to how they read, for the types that
-- equality leaves out are in no text.
import LockDiscipline.Proofs.GuardEquality
import LockDiscipline.Proofs.Nesting
import LockDiscipline.Proofs.Rebinding

namespace LockDiscipline

namespace Guard

/-! ## The receivers of a guard -/

/-- Whether the guard is the current object. -/
def isThis : Guard → Bool
  | this _ => true
  | _ => false

theorem this_rebind_eq (cls : TypeName) (receiver : Guard) :
    (this cls).rebind receiver = if receiver.isThis then this cls else receiver := by
  cases receiver <;> rfl

theorem verbatim_rebind (text : String) (type : Option TypeName) (receiver : Guard) :
    (verbatim text type).rebind receiver =
      if receiver.isThis then verbatim text type
      else verbatim (receiver.text ++ "." ++ text) type := by
  cases receiver <;> rfl

/-- Only the current object seen from itself is the current object. -/
theorem isThis_rebind (guard receiver : Guard) :
    (guard.rebind receiver).isThis = (guard.isThis && receiver.isThis) := by
  cases guard with
  | this cls =>
    rw [this_rebind_eq]
    cases receiver <;> rfl
  | enclosing level cls => cases receiver <;> rfl
  | field base f =>
    rw [rebind_field]
    rfl
  | staticField f =>
    rw [rebind_staticField]
    rfl
  | classLit cls =>
    rw [rebind_classLit]
    rfl
  | verbatim text type => cases receiver <;> rfl

/-- Objects around the current one are followed outwards one after the other. -/
theorem depth?_rebind {guard receiver : Guard} {level further : Nat}
    (hguard : guard.depth? = some level) (hreceiver : receiver.depth? = some further) :
    (guard.rebind receiver).depth? = some (level + further) := by
  cases guard with
  | this cls =>
    cases hguard
    rw [this_rebind_eq, Nat.zero_add]
    cases receiver with
    | this _ => exact hreceiver
    | enclosing _ _ => exact hreceiver
    | _ => cases hreceiver
  | enclosing _ cls =>
    cases hguard
    rw [enclosing_rebind, hreceiver]
    rfl
  | _ => cases hguard

/-! ## One receiver after the other -/

/-- Whether it is all one to rebind a guard that starts here to two receivers in turn or to the two of
them put together. From an object around the current one only such objects can be followed. A text is
written behind both receivers in turn, even if the first does not depend on the second. -/
def Composes (first second : Guard) : Guard → Prop
  | this _ | staticField _ | classLit _ => True
  | enclosing _ _ => first.depth?.isSome ∧ second.depth?.isSome
  | field _ _ | verbatim _ _ => False

theorem rebind_rebind {guard first second : Guard} (h : Composes first second guard.origin) :
    (guard.rebind first).rebind second = guard.rebind (first.rebind second) := by
  induction guard with
  | this cls =>
    rw [this_rebind_eq cls first, this_rebind_eq cls (first.rebind second), isThis_rebind]
    by_cases hfirst : first.isThis = true
    · cases first with
      | this other =>
        simp only [isThis, if_true, Bool.true_and, this_rebind_eq]
        split <;> rfl
      | _ => cases hfirst
    · simp only [hfirst, Bool.false_and, if_false, Bool.false_eq_true]
  | enclosing level cls =>
    obtain ⟨hfirst, hsecond⟩ := h
    obtain ⟨m, hm⟩ := Option.isSome_iff_exists.mp hfirst
    obtain ⟨n, hn⟩ := Option.isSome_iff_exists.mp hsecond
    rw [enclosing_rebind, enclosing_rebind, hm, depth?_rebind hm hn]
    simp only [enclosing_rebind, hn, Nat.add_assoc]
  | field base f ih => rw [rebind_field, rebind_field, rebind_field, ih h]
  | staticField f => simp only [rebind_staticField]
  | classLit cls => simp only [rebind_classLit]
  | verbatim text type => cases h

/-! ## Equal guards -/

theorem isThis_eq_of_same {a b : Guard} (h : a.same b = true) : a.isThis = b.isThis := by
  cases a <;> cases b <;> first | rfl | cases h

theorem depth?_eq_of_same {a b : Guard} (h : a.same b = true) : a.depth? = b.depth? := by
  cases a <;> cases b <;> simp_all [same, depth?]

theorem text_field (base : Guard) (f : FieldSymbol) :
    (field base f).text = if base.isThis then f.name else base.text ++ "." ++ f.name := by
  cases base <;> rfl

/-- Equal guards read the same. -/
theorem text_eq_of_same {a b : Guard} (h : a.same b = true) : a.text = b.text := by
  induction a generalizing b with
  | field base f ih =>
    cases b with
    | field base' f' =>
      simp only [same, Bool.and_eq_true, FieldSymbol.same_iff] at h
      rw [text_field, text_field, isThis_eq_of_same h.1, ih h.1, h.2.2]
    | _ => cases h
  | _ => cases b <;> simp_all [same, text, FieldSymbol.same_iff]

theorem this_rebind_same (cls : TypeName) (receiver : Guard) :
    ((this cls).rebind receiver).same receiver = true := by
  rw [this_rebind_eq]
  split
  · cases receiver with
    | this _ => rfl
    | _ => contradiction
  · exact same_refl receiver

/-- Rebinding respects equality of guards and of receivers. -/
theorem same_rebind {a b r s : Guard} (h : a.same b = true) (hr : r.same s = true) :
    (a.rebind r).same (b.rebind s) = true := by
  induction a generalizing b with
  | this cls =>
    cases b with
    | this other =>
      exact same_trans (this_rebind_same cls r)
        (same_trans hr (same_symm (this_rebind_same other s)))
    | _ => cases h
  | enclosing level cls =>
    cases b with
    | enclosing level' cls' =>
      simp only [same, Bool.and_eq_true, beq_iff_eq] at h
      obtain ⟨rfl, rfl⟩ := h
      rw [enclosing_rebind, enclosing_rebind, depth?_eq_of_same hr, text_eq_of_same hr]
      exact same_refl _
    | _ => cases h
  | field base f ih =>
    cases b with
    | field base' f' =>
      simp only [same, Bool.and_eq_true] at h
      rw [rebind_field, rebind_field, same, ih h.1, h.2]
      rfl
    | _ => cases h
  | staticField f =>
    cases b with
    | staticField f' => rwa [rebind_staticField, rebind_staticField]
    | _ => cases h
  | classLit cls =>
    cases b with
    | classLit cls' => rwa [rebind_classLit, rebind_classLit]
    | _ => cases h
  | verbatim text type =>
    cases b with
    | verbatim text' type' =>
      simp only [same, beq_iff_eq] at h
      rw [verbatim_rebind, verbatim_rebind, isThis_eq_of_same hr, text_eq_of_same hr, h]
      split <;> simp [same]
    | _ => cases h

/-- Rebinding to the current object changes nothing, and the current object rebound to a receiver is
that receiver. Rebinding to one receiver and then to another is rebinding to the first rebound to
the second, if the guard does not start at a text and if, where it starts at an object around the
current one, both receivers are the current object or one around it. Equal guards rebound to equal
receivers are equal and read the same, whatever the rebinding makes of them. -/
theorem rebinding_composes_and_respects_equality (guard first second : Guard) :
    (∀ cls, guard.rebind (this cls) = guard ∧ ((this cls).rebind first == first) = true) ∧
      (Composes first second guard.origin →
        (guard.rebind first).rebind second = guard.rebind (first.rebind second)) ∧
      ∀ guard' first' : Guard, (guard == guard') = true → (first == first') = true →
        (guard.rebind first == guard'.rebind first') = true ∧
          (guard.rebind first).text = (guard'.rebind first').text := by
  refine ⟨fun cls => ⟨rebind_this guard cls, this_rebind_same cls first⟩, rebind_rebind, ?_⟩
  intro guard' first' hguard hfirst
  have hsame : (guard.rebind first).same (guard'.rebind first') = true := same_rebind hguard hfirst
  exact ⟨hsame, text_eq_of_same hsame⟩

end Guard

namespace Nested

/-- The lock of `Outer` seen from one class deep in it, at another type. -/
def retypedMu : Guard :=
  .field (.enclosing 1 ⟨"Outer"⟩) ⟨⟨"Outer"⟩, "mu", ⟨"Lock"⟩, true⟩

theorem the_mu_of_outer_by_way_of_receivers :
    let inner : Guard := .enclosing 1 ⟨"Outer.Inner"⟩
    let mid : Guard := .enclosing 1 ⟨"Outer.Mid"⟩
    let typed : Guard := .verbatim "o" (some ⟨"Outer.Inner"⟩)
    let bare : Guard := .verbatim "o" none
    Guard.Composes inner mid (outerMu 1).origin ∧
      ((outerMu 1).rebind inner).rebind mid = outerMu 3 ∧
      (outerMu 1).rebind (inner.rebind mid) = outerMu 3 ∧
      (outerMu 1 == retypedMu) = true ∧ (typed == bare) = true ∧
      ((outerMu 1).rebind typed == retypedMu.rebind bare) = true ∧
      (retypedMu.rebind bare).text = "o.Outer.this.mu" ∧
      ((outerMu 1).rebind typed).text = "o.Outer.this.mu" := by
  intro inner mid typed bare
  have hcomposes : Guard.Composes inner mid (outerMu 1).origin := ⟨rfl, rfl⟩
  have htwice : ((outerMu 1).rebind inner).rebind mid = outerMu 3 := rfl
  have hguard : (outerMu 1 == retypedMu) = true := by decide
  have hreceiver : (typed == bare) = true := by decide
  have htext : (retypedMu.rebind bare).text = "o.Outer.this.mu" := by decide +kernel
  obtain ⟨-, honce, -⟩ := Guard.rebinding_composes_and_respects_equality (outerMu 1) inner mid
  obtain ⟨-, -, hequal⟩ := Guard.rebinding_composes_and_respects_equality (outerMu 1) typed mid
  obtain ⟨hsame, hreads⟩ := hequal retypedMu bare hguard hreceiver
  exact ⟨hcomposes, htwice, (honce hcomposes).symm.trans htwice, hguard, hreceiver, hsame, htext,
    hreads.trans htext⟩

end Nested

end LockDiscipline

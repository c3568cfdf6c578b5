-- A canonical form speaks only of what is in scope where the expression stands. An object of a
-- class around is at hand only as far out as no class on the way is static, and a text inside a
-- form is the name of a local. So two equal forms mean one lock.
import LockDiscipline.Proofs.AcceptedGuards

namespace LockDiscipline

/-! ## Objects at hand -/

namespace Scope

/-- An object is at hand so many classes out if one is where the count begins and no class on the
way is static. -/
theorem getElem?_framesFrom_iff {reachable : Bool} {classes : List NestedClass} {level : Nat}
    {cls : TypeName} :
    (framesFrom reachable classes)[level]? = some ⟨cls, true⟩ ↔
      reachable = true ∧ (classes.map (·.name))[level]? = some cls ∧
        ∀ inner ∈ classes.take level, inner.isStatic = false := by
  induction classes generalizing reachable level with
  | nil => simp [framesFrom]
  | cons first outer ih =>
    cases level with
    | zero => simp [framesFrom, and_comm]
    | succ level =>
      rw [framesFrom, List.getElem?_cons_succ, ih, List.map_cons, List.getElem?_cons_succ,
        List.take_succ_cons, List.forall_mem_cons, Bool.and_eq_true, Bool.not_eq_true']
      constructor
      · rintro ⟨⟨hreachable, hfirst⟩, hcls, hinner⟩
        exact ⟨hreachable, hcls, hfirst, hinner⟩
      · rintro ⟨hreachable, hcls, hfirst, hinner⟩
        exact ⟨⟨hreachable, hfirst⟩, hcls, hinner⟩

/-- From a member that is not static the object so many classes out is at hand, for no class further
in is static. -/
structure ObjectAtHand (scope : Scope) (level : Nat) (cls : TypeName) : Prop where
  notStatic : scope.memberIsStatic = false
  inside : level < scope.frames.length
  ofClass : scope.classAt level = some cls
  noStaticOnTheWay : ∀ inner ∈ scope.nesting.reverse.take level, inner.isStatic = false

theorem objectAtHand_of_frame {scope : Scope} {level : Nat} {cls : TypeName}
    (h : scope.frames[level]? = some ⟨cls, true⟩) : scope.ObjectAtHand level cls := by
  obtain ⟨hinside, -⟩ := List.getElem?_eq_some_iff.mp h
  unfold frames at h
  obtain ⟨hmember, hcls, hway⟩ := getElem?_framesFrom_iff.mp h
  refine ⟨?_, hinside, ?_, hway⟩
  · simpa using hmember
  · rw [classAt_eq]
    exact hcls

end Scope

/-! ## The nodes of a canonical form -/

namespace Guard

/-- Every node of the guard is in scope. A text below the root is a local; at the root it may be
that of any expression. -/
structure WellScoped (ctx : Context) (guard : Guard) : Prop where
  /-- The current object is spoken of where there is one. -/
  this : ∀ cls, .this cls ∈ guard.nodes → ctx.scope.ObjectAtHand 0 cls
  /-- An object around the current one is at hand. -/
  enclosing : ∀ level cls, .enclosing level cls ∈ guard.nodes →
    1 ≤ level ∧ ctx.scope.ObjectAtHand level cls
  /-- Only fields that are not static belong to an object. -/
  field : ∀ receiver f, .field receiver f ∈ guard.nodes → f.isStatic = false
  staticField : ∀ f, .staticField f ∈ guard.nodes → f.isStatic = true
  /-- A text behind a field is a local with the type of its innermost declaration. -/
  verbatim : ∀ text type, .verbatim text type ∈ guard.nodes.tail →
    ∃ known, type = some known ∧ ctx.locals.lookup text = some known

end Guard

namespace Context

variable {ctx : Context} {guard : Guard}

/-- Whatever object a form speaks of is at hand, as what it is spoken of. -/
theorem Form.objectAtHand (h : ctx.Form guard) {node : Guard} (hnode : node ∈ guard.nodes)
    {level : Nat} (hdepth : node.depth? = some level) :
    ∃ cls, ctx.scope.ObjectAtHand level cls ∧
      node = if level = 0 then .this cls else .enclosing level cls := by
  have hobject := h.instanceAt_of_mem_nodes node hnode level hdepth
  obtain ⟨cls, hframe, heq⟩ := (ctx.scope.instanceAt_eq_some_iff level node).mp hobject
  exact ⟨cls, Scope.objectAtHand_of_frame hframe, heq⟩

/-- A field of a form is static exactly if the form has no object for it. -/
theorem Form.isStatic_of_mem_nodes (h : ctx.Form guard) :
    (∀ receiver f, .field receiver f ∈ guard.nodes → f.isStatic = false) ∧
      ∀ f, .staticField f ∈ guard.nodes → f.isStatic = true := by
  induction h with
  | object hobject =>
    obtain ⟨cls, -, rfl⟩ := (ctx.scope.instanceAt_eq_some_iff _ _).mp hobject
    split <;> simp [Guard.nodes]
  | field _ _ _ hinstance ih =>
    obtain ⟨hfields, hstatics⟩ := ih
    constructor
    · intro receiver f hmem
      rcases List.mem_cons.mp hmem with heq | hmem
      · cases heq
        exact hinstance
      · exact hfields receiver f hmem
    · intro f hmem
      rcases List.mem_cons.mp hmem with heq | hmem
      · cases heq
      · exact hstatics f hmem
  | staticField _ hstatic => simp [Guard.nodes, hstatic]
  | _ => simp [Guard.nodes]

theorem Form.wellScoped (h : ctx.Form guard) : guard.WellScoped ctx := by
  refine ⟨?_, ?_, h.isStatic_of_mem_nodes.1, h.isStatic_of_mem_nodes.2, ?_⟩
  · intro cls hmem
    obtain ⟨other, hobject, heq⟩ := h.objectAtHand hmem rfl
    cases heq
    exact hobject
  · intro level cls hmem
    obtain ⟨other, hobject, heq⟩ := h.objectAtHand hmem rfl
    by_cases hlevel : level = 0
    · rw [if_pos hlevel] at heq
      cases heq
    · rw [if_neg hlevel] at heq
      cases heq
      exact ⟨Nat.pos_of_ne_zero hlevel, hobject⟩
  · intro text type hmem
    apply lookup_of_form h
    exact (Guard.mem_nodes_iff (.verbatim text type) guard nofun).mp (List.mem_of_mem_tail hmem)

/-- Whatever types, classes and locals an expression is read with, its canonical form speaks only of
what is in scope: of the current object if the member is not static, of an object around only if no
class on the way out to it is static, of a static field by itself and of any other field behind its
object, and behind a field of no text but a local's. -/
theorem every_node_of_a_canonical_form_is_in_scope (ctx : Context) (e : Expr) :
    (ctx.canonical e).WellScoped ctx := by
  rcases ctx.form_or_verbatim e with hform | ⟨-, hverbatim⟩
  · exact hform.wellScoped
  · -- A form that is only a text has nothing below its root.
    rw [hverbatim]
    constructor <;> simp [Guard.nodes]

end Context

end LockDiscipline

-- A guard is written from where a member is declared, as a path of fields that starts at the current
-- object. For an access through another object it is rebound, piece by piece and without a look at
-- the program. That comes to the same as following the path from the other object.
import LockDiscipline.Proofs.CanonicalForms
import LockDiscipline.Proofs.Members
import LockDiscipline.Proofs.Rebinding
import Mathlib.Data.List.Induction

namespace LockDiscipline

/-! ## Paths of fields -/

/-- The fields of a path, one after the other, each with the place where it stands. -/
def Expr.along (start : Expr) (path : List (String × Span)) : Expr :=
  path.foldl (fun e step => .select e step.1 step.2) start

namespace Expr

@[simp] theorem along_nil (start : Expr) : start.along [] = start := rfl

@[simp] theorem along_snoc (start : Expr) (path : List (String × Span)) (step : String × Span) :
    start.along (path ++ [step]) = .select (start.along path) step.1 step.2 := by
  rw [along, List.foldl_append]
  rfl

/-- A path that does not start at a name is not the name of a type. -/
theorem dottedName?_along {start : Expr} (h : start.dottedName? = none)
    (path : List (String × Span)) : (start.along path).dottedName? = none := by
  induction path using List.reverseRecOn with
  | nil => exact h
  | append_singleton path step ih =>
    rw [along_snoc, dottedName?, ih]
    rfl

end Expr

namespace Context

variable {ctx : Context}

/-- Where no local is in scope, what is known only by its text has no type. -/
theorem decompose_eq_none_of_verbatim (hlocals : ctx.locals = []) {e : Expr}
    (h : (ctx.canonical e).isVerbatim = true) : ctx.decompose e = none := by
  rcases ctx.form_or_verbatim e with hform | ⟨hnone, -⟩
  · cases hguard : ctx.canonical e with
    | verbatim text type =>
      rw [hguard] at hform
      cases hform with
      | object hobject =>
        obtain ⟨cls, -, heq⟩ := (ctx.scope.instanceAt_eq_some_iff _ _).mp hobject
        split at heq <;> cases heq
      | localVar hlocal =>
        rw [hlocals] at hlocal
        cases hlocal
    | _ =>
      rw [hguard] at h
      cases h
  · exact hnone

/-- A field of something that is known only by its text is itself known only by its text, unless
that text is the name of a type. -/
theorem verbatim_select (hlocals : ctx.locals = []) {receiver : Expr}
    (hname : receiver.dottedName? = none) (h : (ctx.canonical receiver).isVerbatim = true)
    (name : String) (span : Span) :
    (ctx.canonical (.select receiver name span)).isVerbatim = true := by
  have hnone : ctx.decompose (.select receiver name span) = none := by
    rw [decompose, decompose_eq_none_of_verbatim hlocals h]
    simp [selected, Guard.isVerbatim, Guard.type, staticFieldOf, hname]
  rw [canonical_eq_verbatim hnone]
  rfl

/-- The same field is found from two objects of one type, and rebinding the one is the other. -/
theorem fieldOf_rebind {ctx other : Context} (htypes : other.types = ctx.types)
    {base receiver guard : Guard} (htype : (base.rebind receiver).type = base.type) {name : String}
    (h : ctx.fieldOf base name = some guard) :
    other.fieldOf (base.rebind receiver) name = some (guard.rebind receiver) ∧
      (guard.rebind receiver).type = guard.type := by
  unfold fieldOf at h ⊢
  rw [htype, htypes]
  obtain ⟨owner, howner, h⟩ := Option.bind_eq_some_iff.mp h
  obtain ⟨f, hf, h⟩ := Option.bind_eq_some_iff.mp h
  rw [howner, Option.bind_eq_bind, Option.bind_some, hf, Option.bind_eq_bind, Option.bind_some]
  split at h
  · rename_i hstatic
    cases h
    rw [Guard.rebind_staticField]
    exact ⟨if_pos hstatic, rfl⟩
  · rename_i hstatic
    cases h
    rw [Guard.rebind_field]
    exact ⟨if_neg hstatic, rfl⟩

/-- Two paths of the same fields, the one from the current object of a class and without locals, the
other from an object of that class in any context. -/
theorem canonical_along {home ctx : Context} (htypes : ctx.types = home.types)
    (hlocals : home.locals = []) {cls : TypeName} {receiver : Expr} {span : Span}
    (hthis : home.canonical (.this span) = .this cls)
    (hreceiver : (ctx.canonical receiver).type = some cls) (path other : List (String × Span))
    (hnames : other.map Prod.fst = path.map Prod.fst)
    (h : (home.canonical ((Expr.this span).along path)).isVerbatim = false) :
    ctx.canonical (receiver.along other) =
        (home.canonical ((Expr.this span).along path)).rebind (ctx.canonical receiver) ∧
      (ctx.canonical (receiver.along other)).type =
        (home.canonical ((Expr.this span).along path)).type := by
  induction path using List.reverseRecOn generalizing other with
  | nil =>
    cases List.map_eq_nil_iff.mp hnames
    rw [Expr.along_nil, Expr.along_nil, hthis, Guard.this_rebind hreceiver]
    exact ⟨rfl, hreceiver⟩
  | append_singleton path step ih =>
    obtain ⟨front, last, rfl, hfront, hlast⟩ : ∃ front last, other = front ++ [last] ∧
        front.map Prod.fst = path.map Prod.fst ∧ last.1 = step.1 := by
      rw [List.map_append, List.map_eq_append_iff] at hnames
      obtain ⟨front, rest, rfl, hfront, hrest⟩ := hnames
      obtain ⟨last, rfl, hlast⟩ := List.map_eq_singleton_iff.mp hrest
      exact ⟨front, last, rfl, hfront, hlast⟩
    rw [Expr.along_snoc] at h
    have hbase : (home.canonical ((Expr.this span).along path)).isVerbatim = false := by
      by_contra hverbatim
      have hname : ((Expr.this span).along path).dottedName? = none :=
        Expr.dottedName?_along rfl path
      rw [verbatim_select hlocals hname (by simpa using hverbatim)] at h
      cases h
    obtain ⟨hguard, htype⟩ := ih front hfront hbase
    obtain ⟨owner, howner⟩ := Guard.exists_type_of_not_verbatim hbase
    rw [Expr.along_snoc, Expr.along_snoc, hlast, canonical_select howner,
      canonical_select (htype.trans howner), hguard]
    rw [canonical_select howner] at h
    cases hfield : home.fieldOf (home.canonical ((Expr.this span).along path)) step.1 with
    | none =>
      rw [hfield] at h
      cases h
    | some guard =>
      rw [hguard] at htype
      obtain ⟨hrebound, htypes'⟩ := fieldOf_rebind htypes htype hfield
      rw [hrebound]
      exact ⟨rfl, htypes'⟩

end Context

namespace ClassSite

/-- What an expression means where an instance member of the class is declared. -/
def home (site : ClassSite) (types : TypeLookup) : Context := ⟨types, site.scope false, []⟩

theorem canonical_this {site : ClassSite} (h : site.Innermost) (types : TypeLookup) (span : Span) :
    (site.home types).canonical (.this span) = .this site.cls.type := by
  obtain ⟨outer, hnesting⟩ := h
  have hframe : (site.scope false).frames[0]? = some ⟨site.cls.type, true⟩ := by
    simp [scope, Scope.frames, hnesting, Scope.framesFrom]
  refine Context.canonical_eq_of_decompose ?_
  exact ((site.scope false).instanceAt_eq_some_iff 0 _).mpr ⟨_, hframe, rfl⟩

end ClassSite

namespace Setting

/-- A guard that is a path of fields from the current object, rebound to a receiver of the declaring
class, is the same path from the receiver. So what an access to a member with such a guard needs is
what a `synchronized` statement takes that names the path from the same receiver. -/
theorem a_rebound_path_starts_at_the_receiver (unit : CompilationUnit) (site : ClassSite)
    (hsite : site ∈ unit.sites) (setting : Setting) (htypes : setting.types = unit.types)
    (locals : Locals) (receiver : Expr)
    (hreceiver : (setting.canonical locals receiver).type = some site.cls.type) (span : Span)
    (path other : List (String × Span)) (hnames : other.map Prod.fst = path.map Prod.fst)
    (h : ((site.home unit.types).canonical ((Expr.this span).along path)).isVerbatim = false) :
    let guard := (site.home unit.types).canonical ((Expr.this span).along path)
    setting.canonical locals (receiver.along other) =
        guard.rebind (setting.canonical locals receiver) ∧
      ∀ (name : String) (place : Span) (f : FieldSymbol),
        unit.types.field site.cls.type name = some f → f.isStatic = false →
          setting.guards.fieldGuard f = some guard →
            setting.fieldGuard locals (.select receiver name place) =
              some (setting.canonical locals (receiver.along other)) := by
  intro guard
  have hthis := ClassSite.canonical_this (CompilationUnit.innermost_of_mem hsite) unit.types span
  have hpath : setting.canonical locals (receiver.along other) =
      guard.rebind (setting.canonical locals receiver) :=
    (Context.canonical_along htypes rfl hthis hreceiver path other hnames h).1
  refine ⟨hpath, fun name place f hf hstatic hguard => ?_⟩
  have haccess : setting.canonical locals (.select receiver name place) =
      .field (setting.canonical locals receiver) f := by
    have hfield : (setting.context locals).fieldOf (setting.canonical locals receiver) name =
        some (.field (setting.canonical locals receiver) f) := by
      have hlookup : (setting.context locals).types.field site.cls.type name = some f := by
        rw [← hf, ← htypes]
        rfl
      simp [Context.fieldOf, hreceiver, hlookup, hstatic]
    refine (Context.canonical_select hreceiver name place).trans ?_
    exact congrArg (Option.getD · _) hfield
  rw [fieldGuard, haccess]
  dsimp only
  rw [hguard]
  exact congrArg some hpath.symm

end Setting

/-! ## A list of nodes

Each node has the lock of its own `mu`, and its `x` is guarded by the lock of the node behind it. -/

namespace Linked

def next : FieldDecl := ⟨"next", "Node", false, none, none, .unknown⟩

def mu : FieldDecl := ⟨"mu", "Object", false, none, none, .unknown⟩

def x : FieldDecl := ⟨"x", "int", false, some ⟨"next.mu", .unknown⟩, none, .unknown⟩

/-- Reads the `x` of another node. -/
def reads : MethodDecl :=
  ⟨"m", .method, false, false, [⟨"other", "Node"⟩], none,
    [.returns (some (.select (.name "other" .unknown) "x" .unknown)) .unknown], .unknown⟩

def node : ClassDecl := .mk "Node" [] false [next, mu, x] [reads] [] [] .unknown

def unit : CompilationUnit := ⟨none, none, [node]⟩

def site : ClassSite := ⟨node, [⟨⟨"Node"⟩, false⟩]⟩

/-- What the method is analysed in. -/
def setting : Setting := unit.setting .default ⟨site, reads⟩

def locals : Locals := [("other", ⟨"Node"⟩)]

/-- The path to the lock that guards `x`. -/
def path : List (String × Span) := [("next", .unknown), ("mu", .unknown)]

theorem the_x_of_another_node_needs_the_lock_behind_that_node :
    site ∈ unit.sites ∧ (setting.canonical locals (.name "other" .unknown)).type = some ⟨"Node"⟩ ∧
      ((site.home unit.types).canonical ((Expr.this .unknown).along path)).isVerbatim = false ∧
      setting.fieldGuard locals (.select (.name "other" .unknown) "x" .unknown) =
        some (setting.canonical locals ((Expr.name "other" .unknown).along path)) ∧
      (setting.canonical locals ((Expr.name "other" .unknown).along path)).text =
        "other.next.mu" := by
  have hsite : site ∈ unit.sites := List.mem_cons_self
  have hother : (setting.canonical locals (.name "other" .unknown)).type = some ⟨"Node"⟩ := rfl
  have hpath : ((site.home unit.types).canonical ((Expr.this .unknown).along path)).isVerbatim =
      false := by
    decide +kernel
  have h := Setting.a_rebound_path_starts_at_the_receiver unit site hsite setting rfl locals
    (.name "other" .unknown) hother .unknown path path rfl hpath
  refine ⟨hsite, hother, hpath, ?_, by decide +kernel⟩
  exact h.2 "x" .unknown ⟨⟨"Node"⟩, "x", ⟨"int"⟩, false⟩ (by decide +kernel) rfl
    (by decide +kernel)

end Linked

end LockDiscipline

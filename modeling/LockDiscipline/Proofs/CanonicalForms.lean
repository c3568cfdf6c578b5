-- What a canonical form can look like. A form that some rule has taken apart starts at an object of a
-- class around the member, at a local, at a static field or at a class object, and goes on from field
-- to field. Laws about canonical forms go through these five cases and not through the rules again.
import LockDiscipline.Guard.Canonical

namespace LockDiscipline

namespace Scope

variable (scope : Scope)

/-- The name of the class that many frames out. -/
def classAt (level : Nat) : Option TypeName := (scope.frames[level]?).map (·.name)

theorem instanceAt_eq_some_iff (level : Nat) (guard : Guard) :
    scope.instanceAt level = some guard ↔
      ∃ cls, scope.frames[level]? = some ⟨cls, true⟩ ∧
        guard = if level = 0 then .this cls else .enclosing level cls := by
  unfold instanceAt
  cases hframe : scope.frames[level]? with
  | none => simp
  | some frame =>
    obtain ⟨cls, reachable⟩ := frame
    cases reachable with
    | false => simp
    | true =>
      have hcls : ∀ other, some (Frame.mk cls true) = some ⟨other, true⟩ ↔ cls = other := by
        simp
      simp only [hcls, exists_eq_left', Bool.not_true, Bool.false_eq_true, if_false]
      split <;> simp [eq_comm]

/-- The type of an object that is at hand is the class of its frame. -/
theorem type_of_instanceAt {level : Nat} {guard : Guard} (h : scope.instanceAt level = some guard) :
    guard.type = scope.classAt level := by
  obtain ⟨cls, hframe, rfl⟩ := (scope.instanceAt_eq_some_iff level guard).mp h
  rw [classAt, hframe]
  split <;> rfl

end Scope

namespace Guard

/-- Only a form that is known by its text can be without a type. -/
theorem exists_type_of_not_verbatim {guard : Guard} (h : guard.isVerbatim = false) :
    ∃ type, guard.type = some type := by
  cases guard with
  | verbatim _ _ => cases h
  | _ => exact ⟨_, rfl⟩

end Guard

namespace Context

variable (ctx : Context)

/-! ## The forms -/

/-- The canonical forms of the expressions that some rule takes apart. -/
inductive Form : Guard → Prop
  /-- An object of a class around the member. -/
  | object {level : Nat} {guard : Guard} : ctx.scope.instanceAt level = some guard → Form guard
  /-- A local of a known type. -/
  | localVar {name : String} {type : TypeName} : ctx.locals.lookup name = some type →
      Form (.verbatim name (some type))
  | field {base : Guard} {owner : TypeName} {name : String} {f : FieldSymbol} : Form base →
      base.type = some owner → ctx.types.field owner name = some f → f.isStatic = false →
      Form (.field base f)
  | staticField {owner : TypeName} {name : String} {f : FieldSymbol} :
      ctx.types.field owner name = some f → f.isStatic = true → Form (.staticField f)
  | classLit (written : String) : Form (.classLit (ctx.types.written written))

variable {ctx}

/-- A bare name means a field of the class of some frame, and an instance field of the object
there. -/
theorem exists_frame_of_fieldNamed {name : String} {guard : Guard}
    (h : ctx.fieldNamed name = some guard) :
    ∃ level frame f, ctx.scope.frames[level]? = some frame ∧
      ctx.types.field frame.name name = some f ∧
      ((f.isStatic = true ∧ guard = .staticField f) ∨
        (f.isStatic = false ∧
          ∃ base, ctx.scope.instanceAt level = some base ∧ guard = .field base f)) := by
  unfold fieldNamed at h
  obtain ⟨⟨f, level⟩, hfound, hguard⟩ := Option.bind_eq_some_iff.mp h
  obtain ⟨⟨frame, level'⟩, hmem, hfield⟩ := List.exists_of_findSome?_eq_some hfound
  obtain ⟨f', hf, heq⟩ := Option.map_eq_some_iff.mp hfield
  cases heq
  refine ⟨level, frame, f, List.mem_zipIdx_iff_getElem?.mp hmem, hf, ?_⟩
  dsimp only at hguard
  split at hguard
  · rename_i hstatic
    cases hguard
    exact Or.inl ⟨hstatic, rfl⟩
  · rename_i hstatic
    obtain ⟨base, hbase, rfl⟩ := Option.map_eq_some_iff.mp hguard
    exact Or.inr ⟨by simpa using hstatic, base, hbase, rfl⟩

/-- A field of a value is one that its type has. -/
theorem exists_field_of_fieldOf {base : Guard} {name : String} {guard : Guard}
    (h : ctx.fieldOf base name = some guard) :
    ∃ owner f, base.type = some owner ∧ ctx.types.field owner name = some f ∧
      ((f.isStatic = true ∧ guard = .staticField f) ∨
        (f.isStatic = false ∧ guard = .field base f)) := by
  unfold fieldOf at h
  obtain ⟨owner, howner, h⟩ := Option.bind_eq_some_iff.mp h
  obtain ⟨f, hf, h⟩ := Option.bind_eq_some_iff.mp h
  refine ⟨owner, f, howner, hf, ?_⟩
  split at h
  · rename_i hstatic
    cases h
    exact Or.inl ⟨hstatic, rfl⟩
  · rename_i hstatic
    cases h
    exact Or.inr ⟨by simpa using hstatic, rfl⟩

theorem exists_field_of_staticFieldOf {receiver : Expr} {name : String} {guard : Guard}
    (h : ctx.staticFieldOf receiver name = some guard) :
    ∃ owner f, ctx.types.field owner name = some f ∧ f.isStatic = true ∧
      guard = .staticField f := by
  unfold staticFieldOf at h
  obtain ⟨text, -, h⟩ := Option.bind_eq_some_iff.mp h
  obtain ⟨owner, -, h⟩ := Option.bind_eq_some_iff.mp h
  obtain ⟨f, hf, h⟩ := Option.bind_eq_some_iff.mp h
  split at h
  · rename_i hstatic
    cases h
    exact ⟨owner, f, hf, hstatic, rfl⟩
  · cases h

theorem form_of_fieldNamed {name : String} {guard : Guard} (h : ctx.fieldNamed name = some guard) :
    ctx.Form guard := by
  obtain ⟨level, frame, f, hframe, hf, ⟨hstatic, rfl⟩ | ⟨hinstance, base, hbase, rfl⟩⟩ :=
    exists_frame_of_fieldNamed h
  · exact .staticField hf hstatic
  · have htype : base.type = some frame.name := by
      rw [ctx.scope.type_of_instanceAt hbase, Scope.classAt, hframe]
      rfl
    exact .field (.object hbase) htype hf hinstance

theorem form_of_named {name : String} {guard : Guard} (h : ctx.named name = some guard) :
    ctx.Form guard := by
  unfold named at h
  split at h
  · rename_i hlocal
    cases h
    exact .localVar hlocal
  · exact form_of_fieldNamed h

theorem form_of_fieldOf {base : Guard} {name : String} {guard : Guard} (hbase : ctx.Form base)
    (h : ctx.fieldOf base name = some guard) : ctx.Form guard := by
  obtain ⟨owner, f, howner, hf, ⟨hstatic, rfl⟩ | ⟨hinstance, rfl⟩⟩ := exists_field_of_fieldOf h
  · exact .staticField hf hstatic
  · exact .field hbase howner hf hinstance

theorem form_of_staticFieldOf {receiver : Expr} {name : String} {guard : Guard}
    (h : ctx.staticFieldOf receiver name = some guard) : ctx.Form guard := by
  obtain ⟨owner, f, hf, hstatic, rfl⟩ := exists_field_of_staticFieldOf h
  exact .staticField hf hstatic

/-- An expression that some rule takes apart has one of the forms. -/
theorem form_of_decompose {e : Expr} {guard : Guard} (h : ctx.decompose e = some guard) :
    ctx.Form guard := by
  induction e using Context.decompose.induct generalizing guard with
  | case1 span => exact .object h
  | case2 cls span =>
    obtain ⟨level, -, hlevel⟩ := Option.bind_eq_some_iff.mp h
    exact .object hlevel
  | case3 name span => exact form_of_named h
  | case4 receiver name span ih =>
    rw [decompose, selected] at h
    cases hreceiver : ctx.decompose receiver with
    | none =>
      rw [hreceiver] at h
      exact form_of_staticFieldOf h
    | some base =>
      rw [hreceiver, Option.getD_some] at h
      split at h
      · exact form_of_staticFieldOf h
      · exact form_of_fieldOf (ih hreceiver) h
  | case5 cls span =>
    cases h
    exact .classLit cls
  | case6 e h1 h2 h3 h4 h5 =>
    unfold decompose at h
    split at h <;> simp_all

/-! ## The canonical form of an expression -/

/-- An expression that no rule takes apart stands for itself. -/
theorem canonical_eq_verbatim {e : Expr} (h : ctx.decompose e = none) :
    ctx.canonical e = .verbatim e.text none := by
  rw [canonical, h]
  rfl

theorem canonical_eq_of_decompose {e : Expr} {guard : Guard} (h : ctx.decompose e = some guard) :
    ctx.canonical e = guard := by
  rw [canonical, h]
  rfl

/-- A canonical form is one of the forms or the text of the expression. -/
theorem form_or_verbatim (e : Expr) :
    ctx.Form (ctx.canonical e) ∨
      (ctx.decompose e = none ∧ ctx.canonical e = .verbatim e.text none) := by
  cases h : ctx.decompose e with
  | none => exact Or.inr ⟨rfl, canonical_eq_verbatim h⟩
  | some guard =>
    rw [canonical_eq_of_decompose h]
    exact Or.inl (form_of_decompose h)

/-- A field of a value is the field of that name which the value's type has. -/
theorem canonical_select {receiver : Expr} {owner : TypeName}
    (h : (ctx.canonical receiver).type = some owner) (name : String) (span : Span) :
    ctx.canonical (.select receiver name span) =
      (ctx.fieldOf (ctx.canonical receiver) name).getD
        (.verbatim (Expr.select receiver name span).text none) := by
  have hvalue : ctx.selected receiver (ctx.canonical receiver) name =
      ctx.fieldOf (ctx.canonical receiver) name := by
    unfold selected
    rw [if_neg (by simp [h])]
  rw [← hvalue]
  rfl

end Context

end LockDiscipline

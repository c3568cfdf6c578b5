-- The guard that an access needs is declared in one class and compared in another. What is declared
-- there may start at an object around the declaring class, so many classes out. After rebinding the
-- number counts from the accessing class, and there it can lead to another class, or to none.
import LockDiscipline.Proofs.AcceptedGuards
import LockDiscipline.Proofs.LexicalLocks

namespace LockDiscipline

open Piece (Occurrence)

/-! ## Guards that name frames -/

namespace Guard

/-- Every object around the current one that the guard speaks of is that of a frame: so many frames
out there is a class, and it is the class that the guard names. -/
def NamesFrames (guard : Guard) (scope : Scope) : Prop :=
  ∀ level cls, enclosing level cls ∈ guard.nodes → scope.classAt level = some cls

theorem namesFrames_iff (guard : Guard) (scope : Scope) :
    guard.NamesFrames scope ↔
      ∀ level cls, guard.origin = enclosing level cls → scope.classAt level = some cls := by
  simp only [NamesFrames, enclosing_mem_nodes_iff]

theorem namesFrames_this (cls : TypeName) (scope : Scope) : (this cls).NamesFrames scope := by
  rw [namesFrames_iff]
  exact nofun

theorem namesFrames_of_instanceAt {scope : Scope} {level : Nat} {guard : Guard}
    (h : scope.instanceAt level = some guard) : guard.NamesFrames scope := by
  obtain ⟨cls, hframe, rfl⟩ := (scope.instanceAt_eq_some_iff level guard).mp h
  rw [namesFrames_iff]
  intro level' cls' horigin
  split at horigin
  · cases horigin
  · cases horigin
    rw [Scope.classAt, hframe]
    rfl

/-- A canonical form names frames of the scope that it is read in. -/
theorem namesFrames_canonical (ctx : Context) (e : Expr) :
    (ctx.canonical e).NamesFrames ctx.scope := by
  rcases ctx.form_or_verbatim e with hform | ⟨-, hverbatim⟩
  · generalize ctx.canonical e = guard at hform
    induction hform with
    | object hobject => exact namesFrames_of_instanceAt hobject
    | field _ _ _ _ ih =>
      rw [namesFrames_iff] at ih ⊢
      exact ih
    | _ =>
      rw [namesFrames_iff]
      exact nofun
  · rw [hverbatim, namesFrames_iff]
    exact nofun

/-- A rebound guard names frames exactly if, where the declared guard starts at an object so many
classes out and the receiver is an object around the current one, the frame that many further out is
of the class that the declared guard names. -/
theorem namesFrames_rebind_iff {declared through : Guard} {scope : Scope}
    (h : through.NamesFrames scope) :
    (declared.rebind through).NamesFrames scope ↔
      ∀ level cls out, declared.origin = enclosing level cls → through.depth? = some out →
        scope.classAt (out + level) = some cls := by
  rw [namesFrames_iff] at h ⊢
  rw [origin_rebind]
  cases horigin : declared.origin with
  | field receiver f => exact absurd horigin (origin_ne_field declared receiver f)
  | this cls =>
    -- The receiver takes the place of the start.
    have hstart : ((this cls).rebind through).origin = through.origin ∨
        ((this cls).rebind through).origin = this cls := by
      cases through with
      | this other => exact Or.inr rfl
      | _ => exact Or.inl rfl
    refine iff_of_true (fun level other heq => ?_) nofun
    rcases hstart with hstart | hstart
    · exact h level other (hstart.symm.trans heq)
    · cases hstart.symm.trans heq
  | enclosing level cls =>
    cases through with
    | this other =>
      constructor
      · rintro hnames _ _ out heq hout
        cases heq
        cases hout
        rw [Nat.zero_add]
        exact hnames level cls rfl
      · rintro hclass _ _ heq
        cases heq
        have hzero := hclass level cls 0 rfl rfl
        rwa [Nat.zero_add] at hzero
    | enclosing out other =>
      constructor
      · rintro hnames _ _ _ heq hout
        cases heq
        cases hout
        rw [Nat.add_comm]
        exact hnames (level + out) cls rfl
      · rintro hclass _ _ heq
        cases heq
        rw [Nat.add_comm]
        exact hclass level cls out rfl rfl
    | _ => exact iff_of_true nofun nofun
  | staticField f =>
    rw [rebind_staticField]
    exact iff_of_true nofun nofun
  | classLit cls =>
    rw [rebind_classLit]
    exact iff_of_true nofun nofun
  | verbatim text type =>
    cases through <;> exact iff_of_true nofun nofun

end Guard

/-! ## What an access needs -/

/-- A member that an expression can be an access to. -/
inductive Target
  | field (f : FieldSymbol)
  | method (entry : MethodEntry)

namespace Target

/-- The class that declares the member. -/
def owner : Target → TypeName
  | field f => f.owner
  | method entry => entry.owner

/-- The guard that was accepted for the member. -/
def guard? (guards : GuardTable) : Target → Option Guard
  | field f => guards.fieldGuard f
  | method entry => entry.guard

end Target

/-- What an access to a guarded member needs, in its parts. -/
structure Requirement where
  /-- The class that declares the member. -/
  owner : TypeName
  declared : Guard
  /-- The object that the guard is rebound to, which is the current one where it is not rebound. -/
  through : Guard

/-- The guard that is needed. -/
def Requirement.guard (required : Requirement) : Guard := required.declared.rebind required.through

namespace Setting

variable (setting : Setting)

/-- The object that a call without a receiver goes to, from the frame that has the method. -/
def bareReceiver (frame : Frame) (level : Nat) : Guard :=
  if !frame.reachable || level == 0 then .this frame.name else .enclosing level frame.name

theorem rebind_bareReceiver (guard : Guard) (frame : Frame) (level : Nat) :
    guard.rebind (bareReceiver frame level) =
      if !frame.reachable || level == 0 then guard
      else guard.rebind (.enclosing level frame.name) := by
  unfold bareReceiver
  split <;> simp

/-- The field that an expression means, and the object whose field it is. -/
def fieldTarget (locals : Locals) (e : Expr) : Option (Target × Guard) :=
  match setting.canonical locals e with
  | .field receiver f => some (.field f, receiver)
  | .staticField f => some (.field f, .this f.owner)
  | _ => none

/-- The method that a call without a receiver means, and the object that it goes to. -/
def bareTarget (name : String) (arity : Nat) : Option (Target × Guard) :=
  let found := setting.scope.frames.zipIdx.findSome? fun (frame, level) =>
    (setting.methodOf frame.name name arity).map (frame, level, ·)
  found.map fun (frame, level, method) => (.method method, bareReceiver frame level)

/-- The method that a call on a receiver means, and the object that it goes to. -/
def callTarget (locals : Locals) (receiver : Expr) (name : String) (arity : Nat) :
    Option (Target × Guard) :=
  match (setting.canonical locals receiver).type with
  | some owner =>
    (setting.methodOf owner name arity).map (.method ·, setting.canonical locals receiver)
  | none => do
    let owner ← setting.types.resolve (← receiver.dottedName?)
    (setting.methodOf owner name arity).map (.method ·, .this owner)

/-- The member that an expression by itself is an access to, and the object that its guard is
rebound to, which is the current one where it is not rebound. -/
def target? (locals : Locals) : Expr → Option (Target × Guard)
  | .name n span =>
    if (locals.lookup n).isSome then none else setting.fieldTarget locals (.name n span)
  | .select receiver n span => setting.fieldTarget locals (.select receiver n span)
  | .call none name args _ => setting.bareTarget name args.length
  | .call (some receiver) name args _ => setting.callTarget locals receiver name args.length
  | _ => none

theorem fieldGuard_eq_of_target (locals : Locals) (e : Expr) :
    setting.fieldGuard locals e = (setting.fieldTarget locals e).bind fun (target, through) =>
      (target.guard? setting.guards).map (·.rebind through) := by
  unfold fieldGuard fieldTarget
  cases setting.canonical locals e <;> simp [Target.guard?]

theorem bareCallGuard_eq_of_target (name : String) (arity : Nat) :
    setting.bareCallGuard name arity = (setting.bareTarget name arity).bind
      fun (target, through) => (target.guard? setting.guards).map (·.rebind through) := by
  unfold bareCallGuard bareTarget
  dsimp only
  rw [Option.bind_map]
  congr 1
  funext ⟨frame, level, method⟩
  simp only [Function.comp_apply, Target.guard?, rebind_bareReceiver]

theorem receiverCallGuard_eq_of_target (locals : Locals) (receiver : Expr) (name : String)
    (arity : Nat) :
    setting.receiverCallGuard locals receiver name arity =
      (setting.callTarget locals receiver name arity).bind fun (target, through) =>
        (target.guard? setting.guards).map (·.rebind through) := by
  unfold receiverCallGuard callTarget
  cases htype : (setting.canonical locals receiver).type with
  | some owner =>
    simp only [htype, Option.bind_map]
    congr 1
    funext method
    cases h : method.guard <;> simp [Target.guard?, h]
  | none =>
    simp only [htype, Option.bind_eq_bind, Option.bind_assoc]
    congr 1
    funext text
    congr 1
    funext owner
    cases setting.methodOf owner name arity <;> simp [Target.guard?]

/-- An expression needs the guard of the member that it is an access to, rebound to the object that
the access goes through. -/
theorem needs_eq_of_target (locals : Locals) (e : Expr) :
    setting.needs locals e = (setting.target? locals e).bind fun (target, through) =>
      (target.guard? setting.guards).map (·.rebind through) := by
  cases e with
  | name n span =>
    rw [needs, target?]
    split
    · rfl
    · exact setting.fieldGuard_eq_of_target locals _
  | select receiver n span => exact setting.fieldGuard_eq_of_target locals _
  | call receiver name args span =>
    cases receiver with
    | none => exact setting.bareCallGuard_eq_of_target name args.length
    | some receiver => exact setting.receiverCallGuard_eq_of_target locals receiver name args.length
  | _ => rfl

/-- An access holds what is held at its place and needs the guard of the member that it is to. -/
theorem accessAt_eq_of_target (start : Place) (path : Path) (e : Expr) :
    setting.accessAt start ⟨path, e⟩ =
      (setting.target? (setting.placeAt start path).locals e).bind fun (target, through) =>
        (target.guard? setting.guards).map fun declared =>
          ⟨e, declared.rebind through, (setting.placeAt start path).held⟩ := by
  unfold accessAt accessOf
  rw [needs_eq_of_target, Option.map_bind]
  simp [Function.comp_def]

/-- How an expression comes to need a guard. -/
inductive Requires (locals : Locals) : Expr → Requirement → Prop
  /-- It means an instance field, of whatever object. -/
  | field {e : Expr} {receiver : Guard} {f : FieldSymbol} {declared : Guard} :
      setting.canonical locals e = .field receiver f →
      setting.guards.fieldGuard f = some declared → Requires locals e ⟨f.owner, declared, receiver⟩
  /-- It means a static field. -/
  | staticField {e : Expr} {f : FieldSymbol} {declared : Guard} :
      setting.canonical locals e = .staticField f → setting.guards.fieldGuard f = some declared →
      Requires locals e ⟨f.owner, declared, .this f.owner⟩
  /-- It is a call without a receiver, and a class around has the method. -/
  | bareCall {name : String} {args : List Expr} {span : Span} {frame : Frame} {level : Nat}
      {method : MethodEntry} {declared : Guard} : setting.scope.frames[level]? = some frame →
      setting.methodOf frame.name name args.length = some method → method.guard = some declared →
      Requires locals (.call none name args span)
        ⟨method.owner, declared, bareReceiver frame level⟩
  /-- It is a call on an object whose type has the method. -/
  | call {receiver : Expr} {name : String} {args : List Expr} {span : Span} {type : TypeName}
      {method : MethodEntry} {declared : Guard} :
      (setting.canonical locals receiver).type = some type →
      setting.methodOf type name args.length = some method → method.guard = some declared →
      Requires locals (.call (some receiver) name args span)
        ⟨method.owner, declared, setting.canonical locals receiver⟩
  /-- It is a call on a type that has the method. -/
  | typeCall {receiver : Expr} {text name : String} {args : List Expr} {span : Span}
      {type : TypeName} {method : MethodEntry} {declared : Guard} :
      (setting.canonical locals receiver).type = none → receiver.dottedName? = some text →
      setting.types.resolve text = some type →
      setting.methodOf type name args.length = some method → method.guard = some declared →
      Requires locals (.call (some receiver) name args span) ⟨method.owner, declared, .this type⟩

variable {setting}

theorem requires_of_fieldTarget {locals : Locals} {e : Expr} {target : Target}
    {through declared : Guard} (h : setting.fieldTarget locals e = some (target, through))
    (hdeclared : target.guard? setting.guards = some declared) :
    setting.Requires locals e ⟨target.owner, declared, through⟩ := by
  unfold fieldTarget at h
  split at h
  · rename_i hcanonical
    cases h
    exact .field hcanonical hdeclared
  · rename_i hcanonical
    cases h
    exact .staticField hcanonical hdeclared
  · cases h

theorem requires_of_bareTarget {locals : Locals} {name : String} {args : List Expr}
    {target : Target} {through declared : Guard}
    (h : setting.bareTarget name args.length = some (target, through))
    (hdeclared : target.guard? setting.guards = some declared) (span : Span) :
    setting.Requires locals (.call none name args span) ⟨target.owner, declared, through⟩ := by
  obtain ⟨⟨frame, level, method⟩, hfound, heq⟩ := Option.map_eq_some_iff.mp h
  cases heq
  obtain ⟨⟨frame', level'⟩, hmem, hframe⟩ := List.exists_of_findSome?_eq_some hfound
  obtain ⟨method', hmethod, heq⟩ := Option.map_eq_some_iff.mp hframe
  cases heq
  exact .bareCall (List.mem_zipIdx_iff_getElem?.mp hmem) hmethod hdeclared

theorem requires_of_callTarget {locals : Locals} {receiver : Expr} {name : String}
    {args : List Expr} {target : Target} {through declared : Guard}
    (h : setting.callTarget locals receiver name args.length = some (target, through))
    (hdeclared : target.guard? setting.guards = some declared) (span : Span) :
    setting.Requires locals (.call (some receiver) name args span)
      ⟨target.owner, declared, through⟩ := by
  unfold callTarget at h
  split at h
  · rename_i htype
    obtain ⟨method, hmethod, heq⟩ := Option.map_eq_some_iff.mp h
    cases heq
    exact .call htype hmethod hdeclared
  · rename_i htype
    obtain ⟨text, htext, h⟩ := Option.bind_eq_some_iff.mp h
    obtain ⟨type, hresolve, h⟩ := Option.bind_eq_some_iff.mp h
    obtain ⟨method, hmethod, heq⟩ := Option.map_eq_some_iff.mp h
    cases heq
    exact .typeCall htype htext hresolve hmethod hdeclared

/-- An expression that means a guarded member comes to need its guard in one of these ways. -/
theorem requires_of_target {locals : Locals} {e : Expr} {target : Target}
    {through declared : Guard} (h : setting.target? locals e = some (target, through))
    (hdeclared : target.guard? setting.guards = some declared) :
    setting.Requires locals e ⟨target.owner, declared, through⟩ := by
  cases e with
  | name n span =>
    rw [target?] at h
    split at h
    · cases h
    · exact requires_of_fieldTarget h hdeclared
  | select receiver n span => exact requires_of_fieldTarget h hdeclared
  | call receiver method args span =>
    cases receiver with
    | none => exact requires_of_bareTarget h hdeclared span
    | some receiver => exact requires_of_callTarget h hdeclared span
  | _ => cases h

/-- Whatever an expression needs, it comes to need it in one of these ways. -/
theorem requires_of_needs {locals : Locals} {e : Expr} {guard : Guard}
    (h : setting.needs locals e = some guard) :
    ∃ required, setting.Requires locals e required ∧ required.guard = guard := by
  rw [needs_eq_of_target] at h
  obtain ⟨⟨target, through⟩, htarget, h⟩ := Option.bind_eq_some_iff.mp h
  obtain ⟨declared, hdeclared, rfl⟩ := Option.map_eq_some_iff.mp h
  exact ⟨_, requires_of_target htarget hdeclared, rfl⟩

/-- An access of a method is an expression of its body that needs the guard of the access, with the
locals in scope there. -/
theorem exists_occurrence_of_mem_accesses {method : MethodDecl} {access : Access}
    (h : access ∈ setting.accesses method) :
    ∃ path, ⟨path, access.expr⟩ ∈ (Piece.block method.body).occurrences [] ∧
      setting.needs (setting.localsAt (setting.parameters method) path) access.expr =
        some access.guard := by
  obtain ⟨⟨path, e⟩, hmem, haccess⟩ := setting.exists_accessAt_of_mem_accesses h
  obtain ⟨guard, hneeds, rfl⟩ := Option.map_eq_some_iff.mp haccess
  rw [locals_placeAt] at hneeds
  exact ⟨path, hmem, hneeds⟩

end Setting

/-! ## Where the guards of a unit lead -/

namespace CompilationUnit

variable {unit : CompilationUnit} {options : Options} {member : Member}

/-- What is needed was declared by the class that is said to declare it. -/
theorem exists_home {locals : Locals} {e : Expr} {required : Requirement}
    (h : (unit.setting options member).Requires locals e required) :
    ∃ home ∈ unit.sites, home.cls.type = required.owner ∧
      home.Declares unit.types required.declared := by
  cases h with
  | field _ hdeclared => exact declares_of_fieldGuard hdeclared
  | staticField _ hdeclared => exact declares_of_fieldGuard hdeclared
  | bareCall _ hmethod hdeclared => exact declares_of_method? hmethod hdeclared
  | call _ hmethod hdeclared => exact declares_of_method? hmethod hdeclared
  | typeCall _ _ _ hmethod hdeclared => exact declares_of_method? hmethod hdeclared

/-- A declared guard names frames of the class that declares it. -/
theorem namesFrames_of_declares {home : ClassSite} {types : TypeLookup} {guard : Guard}
    (h : home.Declares types guard) (memberIsStatic : Bool) :
    guard.NamesFrames (home.scope memberIsStatic) := by
  obtain ⟨static, hfits⟩ := h.exists_fits
  intro level cls hmem
  obtain ⟨-, hclass⟩ := hfits.inside _ hmem level rfl
  rw [ClassSite.classAt_scope] at hclass ⊢
  exact hclass

/-- The object that a guard is rebound to is one that the accessing method can name. -/
theorem namesFrames_through {setting : Setting} {locals : Locals} {e : Expr}
    {required : Requirement} (h : setting.Requires locals e required) :
    required.through.NamesFrames setting.scope := by
  cases h with
  | @field e receiver f declared hcanonical _ =>
    have hnames := Guard.namesFrames_canonical (setting.context locals) e
    rw [Guard.namesFrames_iff] at hnames ⊢
    intro level cls horigin
    refine hnames level cls ?_
    rw [show (setting.context locals).canonical e = .field receiver f from hcanonical]
    exact horigin
  | @staticField _ f _ _ _ => exact Guard.namesFrames_this f.owner setting.scope
  | @bareCall name args span frame level method declared hframe _ _ =>
    rw [Guard.namesFrames_iff]
    intro level' cls horigin
    unfold Setting.bareReceiver at horigin
    split at horigin
    · cases horigin
    · cases horigin
      rw [Scope.classAt, hframe]
      rfl
  | call _ _ _ => exact Guard.namesFrames_canonical (setting.context locals) _
  | @typeCall _ _ _ _ _ type _ _ _ _ _ _ _ => exact Guard.namesFrames_this type setting.scope

/-- Every guard that is required speaks only of objects that the accessing method has around it. -/
def RequiresOnlyFrames (unit : CompilationUnit) (options : Options) : Prop :=
  ∀ member ∈ unit.members, ∀ access ∈ (unit.setting options member).accesses member.method,
    access.guard.NamesFrames member.scope

/-- Every access requires the guard that some class of the unit declares for the member it is to,
rebound to some object. The guard names frames exactly if, where both the declared guard and the
object start at objects around, the class that many frames beyond that of the object is the class
that many out from the declaring one. That is so if the object's frame is the declaring class. -/
theorem a_required_guard_is_seen_from_the_frame_of_its_object (unit : CompilationUnit)
    (options : Options) (h : unit.DistinctNames) (member : Member) (hmember : member ∈ unit.members)
    (access : Access)
    (haccess : access ∈ (unit.setting options member).accesses member.method) :
    let setting := unit.setting options member
    ∃ path required, ∃ home ∈ unit.sites,
      ⟨path, access.expr⟩ ∈ (Piece.block member.method.body).occurrences [] ∧
      setting.Requires (setting.localsAt (setting.parameters member.method) path) access.expr
        required ∧
      access.guard = required.guard ∧
      home.cls.type = required.owner ∧ home.Declares unit.types required.declared ∧
      (access.guard.NamesFrames member.scope ↔
        ∀ level cls out, required.declared.origin = .enclosing level cls →
          required.through.depth? = some out →
          member.scope.classAt (out + level) = (home.scope false).classAt level) ∧
      ((∀ out, required.through.depth? = some out →
          member.scope.classAt out = some required.owner) →
        access.guard.NamesFrames member.scope) := by
  intro setting
  obtain ⟨path, hoccurs, hneeds⟩ := Setting.exists_occurrence_of_mem_accesses haccess
  obtain ⟨required, hrequires, hguard⟩ := Setting.requires_of_needs hneeds
  obtain ⟨home, hhome, howner, hdeclares⟩ := exists_home hrequires
  have hnames : access.guard.NamesFrames member.scope ↔
      ∀ level cls out, required.declared.origin = .enclosing level cls →
        required.through.depth? = some out →
        member.scope.classAt (out + level) = (home.scope false).classAt level := by
    have hrebind : (required.declared.rebind required.through).NamesFrames member.scope ↔ _ :=
      Guard.namesFrames_rebind_iff (namesFrames_through hrequires)
    have hdeclared := (Guard.namesFrames_iff _ _).mp (namesFrames_of_declares hdeclares false)
    rw [← hguard]
    refine hrebind.trans (forall₄_congr fun level cls out horigin => ?_)
    rw [hdeclared level cls horigin]
  refine ⟨path, required, home, hhome, hoccurs, hrequires, hguard.symm, howner, hdeclares, hnames,
    fun hframe => hnames.mpr fun level cls out _ hout => ?_⟩
  exact classAt_add h (mem_members.mp hmember).1 hhome (howner ▸ hframe out hout) level

end CompilationUnit

namespace Nested

def reads : MethodDecl :=
  ⟨"m", .method, false, false, [], none, [.returns (some (.name "x" .unknown)) .unknown], .unknown⟩

def takesMu : Expr := .select (.qualifiedThis "Outer" .unknown) "mu" .unknown

/-- Reads `x` while `Outer.this.mu` is held. -/
def readsHolding : MethodDecl :=
  ⟨"m", .method, false, false, [], none,
    [.synchronized takesMu [.returns (some (.name "x" .unknown)) .unknown] .unknown], .unknown⟩

/-- The method in `Deep`, where `x` is a field of the object around. -/
def inDeep (method : MethodDecl) : Member := ⟨deepSite [method], method⟩

/-- The method in `Leaf`, which inherits `x`. -/
def inLeaf (method : MethodDecl) : Member := ⟨leafSite [method], method⟩

theorem inDeep_mem_members (method : MethodDecl) : inDeep method ∈ (unit [method]).members :=
  CompilationUnit.mem_members.mpr ⟨deepSite_mem_sites [method], List.mem_cons_self⟩

theorem inLeaf_mem_members (method : MethodDecl) : inLeaf method ∈ (unit [method]).members :=
  CompilationUnit.mem_members.mpr ⟨leafSite_mem_sites [method], List.mem_cons_self⟩

theorem the_x_of_the_object_around_requires_the_mu_around_that :
    let setting := (unit [reads]).setting .default (inDeep reads)
    (unit [reads]).DistinctNames ∧ inDeep reads ∈ (unit [reads]).members ∧
      ∃ access ∈ setting.accesses reads,
        access.guard = outerMu 2 ∧ access.guard.NamesFrames (inDeep reads).scope ∧
        ∃ required : Requirement, required.guard = outerMu 2 ∧
          ∃ home ∈ (unit [reads]).sites, home.cls.type = required.owner ∧
            ∀ level cls out, required.declared.origin = .enclosing level cls →
              required.through.depth? = some out →
              (inDeep reads).scope.classAt (out + level) = (home.scope false).classAt level := by
  intro setting
  have hdistinct : (unit [reads]).DistinctNames := by decide
  have hguards : (setting.accesses reads).map (·.guard) = [outerMu 2] := by decide +kernel
  obtain ⟨access, haccesses, hguard⟩ := List.map_eq_singleton_iff.mp hguards
  have haccess : access ∈ setting.accesses reads := haccesses ▸ List.mem_singleton_self access
  have hnames : access.guard.NamesFrames (inDeep reads).scope := by
    rw [hguard, Guard.namesFrames_iff]
    rintro level cls heq
    cases heq
    rfl
  obtain ⟨path, required, home, hhome, -, -, hrequired, howner, -, hframes, -⟩ :=
    CompilationUnit.a_required_guard_is_seen_from_the_frame_of_its_object (unit [reads]) .default
      hdistinct (inDeep reads) (inDeep_mem_members reads) access haccess
  exact ⟨hdistinct, inDeep_mem_members reads, access, haccess, hguard, hnames, required,
    hrequired.symm.trans hguard, home, hhome, howner, hframes.mp hnames⟩

theorem the_x_of_another_nesting_requires_a_lock_of_no_frame :
    let unit := unit [readsHolding]
    unit.DistinctNames ∧
      ((unit.setting .default (inLeaf readsHolding)).accesses readsHolding).map
          (fun access => (access.guard, access.held.locks)) = [(outerMu 1, [outerMu 2])] ∧
      ¬ unit.RequiresOnlyFrames .default := by
  intro unit
  have hdistinct : unit.DistinctNames := by decide
  have haccesses : ((unit.setting .default (inLeaf readsHolding)).accesses readsHolding).map
      (fun access => (access.guard, access.held.locks)) = [(outerMu 1, [outerMu 2])] := by
    decide +kernel
  refine ⟨hdistinct, haccesses, fun h => ?_⟩
  obtain ⟨access, hsingle, hguard⟩ := List.map_eq_singleton_iff.mp haccesses
  have hnames := h (inLeaf readsHolding) (inLeaf_mem_members readsHolding) access
    (hsingle ▸ List.mem_singleton_self access)
  rw [(Prod.mk.inj hguard).1] at hnames
  have hmid : (inLeaf readsHolding).scope.classAt 1 = some ⟨"Outer.Mid"⟩ := rfl
  have houter := hnames 1 ⟨"Outer"⟩ ((Guard.enclosing_mem_nodes_iff _ _ _).mpr rfl)
  exact absurd (hmid.symm.trans houter) (by decide)

end Nested

end LockDiscipline

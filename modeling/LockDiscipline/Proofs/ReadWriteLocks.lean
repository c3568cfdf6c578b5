-- Whether a guard is left out is asked of the type of the rebound guard. Rebinding keeps the type
-- of a declared guard unless the guard is the object itself. Then the object that the access goes
-- through takes its place, and the type of that object is the declaring class or one below it.
import LockDiscipline.Check.Verdict
import LockDiscipline.Proofs.RequiredGuards
import LockDiscipline.Proofs.Subtyping

namespace LockDiscipline

open Piece (Occurrence)

/-! ## The type of a rebound guard -/

namespace Guard

/-- Rebinding keeps the type of a guard. If the guard is the current object, it can give the
receiver. -/
theorem type_rebind (declared receiver : Guard) :
    (declared.rebind receiver).type = declared.type ∨
      (∃ cls, declared = .this cls) ∧ declared.rebind receiver = receiver := by
  cases declared with
  | this cls =>
    cases receiver with
    | this other => simp
    | _ => simp [rebind]
  | field base f => simp [type]
  | staticField f => simp
  | classLit cls => simp
  | enclosing level cls => cases receiver <;> simp [rebind, type]
  | verbatim text known => cases receiver <;> simp [rebind, type]

end Guard

namespace Context

variable {ctx : Context}

/-- Behind a field stands an object whose type has the field. -/
theorem Form.exists_field {base : Guard} {f : FieldSymbol} (h : ctx.Form (.field base f)) :
    ∃ owner name, base.type = some owner ∧ ctx.types.field owner name = some f := by
  generalize hguard : Guard.field base f = guard at h
  cases h with
  | object hobject =>
    obtain ⟨cls, -, rfl⟩ := (ctx.scope.instanceAt_eq_some_iff _ _).mp hobject
    split at hguard <;> cases hguard
  | field _ htype hf _ =>
    cases hguard
    exact ⟨_, _, htype, hf⟩
  | _ => cases hguard

theorem exists_field_of_canonical {e : Expr} {base : Guard} {f : FieldSymbol}
    (h : ctx.canonical e = .field base f) :
    ∃ owner name, base.type = some owner ∧ ctx.types.field owner name = some f := by
  rcases ctx.form_or_verbatim e with hform | ⟨-, hverbatim⟩
  · rw [h] at hform
    exact hform.exists_field
  · cases h.symm.trans hverbatim

end Context

/-! ## Guards that are left out -/

/-- The type of the guard is one of the read/write lock types that the table knows, or below one. -/
def Options.LeavesOut (options : Options) (types : TypeLookup) (guard : Guard) : Prop :=
  ∃ type, guard.type = some type ∧ ∃ name ∈ options.readWriteLockTypes, ∃ known,
    types.resolve name = some known ∧ types.isSubtype type known = true

theorem Options.isReadWriteLock_iff (options : Options) (types : TypeLookup) (guard : Guard) :
    (options.checker types).isReadWriteLock guard = true ↔ options.LeavesOut types guard := by
  unfold Checker.isReadWriteLock Options.checker Options.LeavesOut
  cases guard.type with
  | none => simp
  | some type =>
    simp only [Option.any_some, List.any_eq_true, List.mem_filterMap, Option.some.injEq,
      exists_eq_left']
    constructor
    · rintro ⟨known, ⟨name, hname, hknown⟩, hsub⟩
      exact ⟨name, hname, known, hknown, hsub⟩
    · rintro ⟨name, hname, known, hknown, hsub⟩
      exact ⟨known, ⟨name, hname, hknown⟩, hsub⟩

theorem Checker.judge_eq_excluded {checker : Checker} {guard : Guard}
    (h : checker.isReadWriteLock guard = true) (held : HeldSet) :
    checker.judge guard held = .excluded := if_pos h

namespace CompilationUnit

variable {unit : CompilationUnit} {options : Options} {member : Member}

/-- Where a declared guard is the current object, its type is the declaring class. -/
theorem type_of_declares_this {home : ClassSite} {types : TypeLookup} {cls : TypeName}
    (hhome : home ∈ unit.sites) (h : home.Declares types (.this cls)) : home.cls.type = cls := by
  obtain ⟨memberIsStatic, hfits⟩ := h.exists_fits
  obtain ⟨-, hclass⟩ := hfits.inside (.this cls) List.mem_cons_self 0 rfl
  have hcurrent := ClassSite.currentClass_scope (innermost_of_mem hhome) memberIsStatic
  unfold Scope.currentClass at hcurrent
  unfold Scope.classAt at hclass
  rw [List.head?_eq_getElem?] at hcurrent
  exact Option.some.inj (hcurrent.symm.trans hclass)

/-- The object that an access goes through is the current one, or its type is at or below the class
that declares the member. -/
theorem type_through {locals : Locals} {e : Expr} {required : Requirement}
    (h : (unit.setting options member).Requires locals e required) :
    (∃ cls, required.through = .this cls) ∨
      ∃ type, required.through.type = some type ∧
        unit.types.isSubtype type required.owner = true := by
  cases h with
  | field hcanonical _ =>
    obtain ⟨owner, name, htype, hf⟩ := Context.exists_field_of_canonical hcanonical
    exact Or.inr ⟨owner, htype, ClassTable.isSubtype_owner hf⟩
  | staticField => exact Or.inl ⟨_, rfl⟩
  | @bareCall _ _ _ frame level _ _ _ hmethod _ =>
    unfold Setting.bareReceiver
    split
    · exact Or.inl ⟨_, rfl⟩
    · exact Or.inr ⟨frame.name, rfl, GuardTable.isSubtype_of_method? hmethod⟩
  | call htype hmethod _ =>
    exact Or.inr ⟨_, htype, GuardTable.isSubtype_of_method? hmethod⟩
  | typeCall => exact Or.inl ⟨_, rfl⟩

/-- If the guard that a member declares is left out, so is what an access to the member needs. -/
theorem leavesOut_of_requires (hobject : unit.LeavesObject) {locals : Locals} {e : Expr}
    {required : Requirement} (h : (unit.setting options member).Requires locals e required)
    (hdeclared : options.LeavesOut unit.types required.declared) :
    options.LeavesOut unit.types required.guard := by
  rcases Guard.type_rebind required.declared required.through with
    htype | ⟨⟨cls, hthis⟩, hthrough⟩
  · unfold Options.LeavesOut Requirement.guard
    rw [htype]
    exact hdeclared
  · obtain ⟨home, hhome, howner, hdeclares⟩ := exists_home h
    rcases type_through h with ⟨other, hcurrent⟩ | ⟨type, htype, hbelow⟩
    · unfold Requirement.guard
      rw [hcurrent, Guard.rebind_this]
      exact hdeclared
    · -- The guard needed is the object itself, and its type leads on over the declaring class.
      have hcls : required.owner = cls := by
        rw [← howner]
        exact type_of_declares_this hhome (hthis ▸ hdeclares)
      obtain ⟨declaredType, hdeclaredType, name, hname, known, hknown, hsub⟩ := hdeclared
      rw [hthis] at hdeclaredType
      cases hdeclaredType
      refine ⟨type, ?_, name, hname, known, hknown, ?_⟩
      · unfold Requirement.guard
        rw [hthrough]
        exact htype
      · rw [hcls] at hbelow
        exact hobject.objectOnTop.isSubtype_trans hbelow hsub

/-- Every access of a method is to a member with a guard. If the type of that guard is a read/write
lock type or below one, then the access is left out whatever is held, and nothing is reported. -/
theorem a_read_write_lock_is_never_enforced (unit : CompilationUnit) (options : Options)
    (hobject : unit.LeavesObject) (member : Member) :
    let setting := unit.setting options member
    let checker := options.checker unit.types
    let start := setting.start member.method
    let accessed (occurrence : Occurrence) :=
      setting.target? (setting.placeAt start occurrence.path).locals occurrence.expr
    (∀ access ∈ setting.accesses member.method,
      ∃ occurrence ∈ (Piece.block member.method.body).occurrences [],
        setting.accessAt start occurrence = some access) ∧
    ∀ occurrence access, setting.accessAt start occurrence = some access →
      ∃ target through declared, accessed occurrence = some (target, through) ∧
        target.guard? setting.guards = some declared ∧
        access.guard = declared.rebind through ∧
        (options.LeavesOut unit.types declared →
          (∀ held, checker.judge access.guard held = .excluded) ∧
            checker.violation? access = none) := by
  intro setting checker start accessed
  constructor
  · intro access haccess
    exact setting.exists_accessAt_of_mem_accesses haccess
  · intro occurrence access haccess
    rw [setting.accessAt_eq_of_target] at haccess
    obtain ⟨⟨target, through⟩, htarget, haccess⟩ := Option.bind_eq_some_iff.mp haccess
    obtain ⟨declared, hdeclared, rfl⟩ := Option.map_eq_some_iff.mp haccess
    refine ⟨target, through, declared, htarget, hdeclared, rfl, ?_⟩
    intro hleft
    have hrequires := Setting.requires_of_target htarget hdeclared
    have hexcluded : ∀ held, checker.judge (declared.rebind through) held = .excluded := by
      apply Checker.judge_eq_excluded
      rw [Options.isReadWriteLock_iff]
      exact leavesOut_of_requires hobject hrequires hleft
    refine ⟨hexcluded, ?_⟩
    unfold Checker.violation?
    simp [hexcluded]

end CompilationUnit

/-! ## A class of read/write locks

The class `Book` is a read/write lock and guards its field `pages` by itself. The class `Diary`
inherits the field, and a method of `Reader` reads it from a diary. -/

namespace Books

def book : ClassDecl :=
  .mk "Book" ["ReentrantReadWriteLock"] false
    [⟨"pages", "int", false, some ⟨"this", .unknown⟩, none, .unknown⟩] [] [] [] .unknown

def readPages : Expr := .select (.name "diary" .unknown) "pages" .unknown

def read : MethodDecl :=
  ⟨"read", .method, false, false, [⟨"diary", "Diary"⟩], none,
    [.returns (some readPages) .unknown], .unknown⟩

def reader : ClassDecl := .mk "Reader" [] false [] [read] [] [] .unknown

def unit : CompilationUnit :=
  ⟨none, none, [book, .mk "Diary" ["Book"] false [] [] [] [] .unknown, reader]⟩

def member : Member := ⟨⟨reader, [⟨⟨"Reader"⟩, false⟩]⟩, read⟩

/-- The way to the read. -/
def path : Path := [.within, .behind []]

theorem the_pages_of_a_diary_need_no_lock :
    let setting := unit.setting .default member
    let access : Access := ⟨readPages, .verbatim "diary" (some ⟨"Diary"⟩), .empty⟩
    unit.LeavesObject ∧ setting.accessAt (setting.start read) ⟨path, readPages⟩ = some access ∧
      Options.LeavesOut .default unit.types (.this ⟨"Book"⟩) ∧
      (∀ held, (Options.default.checker unit.types).judge access.guard held = .excluded) ∧
      (Options.default.checker unit.types).violation? access = none := by
  intro setting access
  have hobject : unit.LeavesObject := by decide +kernel
  have hfield : setting.canonical (setting.placeAt (setting.start read) path).locals readPages =
      .field (.verbatim "diary" (some ⟨"Diary"⟩))
        ⟨⟨"Book"⟩, "pages", ⟨"int"⟩, false⟩ := by
    decide +kernel
  have hguard : setting.guards.fieldGuard ⟨⟨"Book"⟩, "pages", ⟨"int"⟩, false⟩ =
      some (.this ⟨"Book"⟩) := by
    decide +kernel
  have hleft : Options.LeavesOut .default unit.types (.this ⟨"Book"⟩) :=
    ⟨⟨"Book"⟩, rfl, TypeName.readWriteLock.text, List.mem_cons_self, .readWriteLock,
      by decide +kernel⟩
  have hneeds : setting.fieldGuard (setting.placeAt (setting.start read) path).locals readPages =
      some access.guard := by
    unfold Setting.fieldGuard
    rw [hfield]
    exact congrArg (Option.map _) hguard
  have haccess : setting.accessAt (setting.start read) ⟨path, readPages⟩ = some access :=
    congrArg (Option.map fun guard => Access.mk readPages guard .empty) hneeds
  obtain ⟨-, haccesses⟩ := unit.a_read_write_lock_is_never_enforced .default hobject member
  obtain ⟨target, through, declared, htarget, hdeclared, -, hexcluded⟩ :=
    haccesses ⟨path, readPages⟩ access haccess
  have htarget' : setting.fieldTarget (setting.placeAt (setting.start read) path).locals readPages =
      some (target, through) := htarget
  unfold Setting.fieldTarget at htarget'
  rw [hfield] at htarget'
  cases htarget'
  cases hguard.symm.trans hdeclared
  exact ⟨hobject, haccess, hleft, hexcluded hleft⟩

end Books

end LockDiscipline

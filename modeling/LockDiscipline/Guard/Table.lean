-- The guards of a unit: one for every field and method whose annotation names a lock. Methods
-- without a guard are in the table too, for they hide guarded ones of the same name.
import LockDiscipline.Guard.Note
import LockDiscipline.Types.ClassTable

namespace LockDiscipline

/-! ## Classes at their places -/

/-- A class of a unit with the classes around it, outermost first and itself last. -/
structure ClassSite where
  cls : ClassDecl
  nesting : List NestedClass

namespace ClassSite

/-- Where a member of the class stands. -/
def scope (site : ClassSite) (memberIsStatic : Bool) : Scope := ⟨site.nesting, memberIsStatic⟩

end ClassSite

mutual

/-- The places of a class and of every class inside it. -/
def ClassDecl.sites (outer : List NestedClass) : ClassDecl → List ClassSite
  | .mk name supertypes isStatic fields methods initializers nested span =>
    ⟨.mk name supertypes isStatic fields methods initializers nested span,
        outer ++ [⟨⟨name⟩, isStatic⟩]⟩
      :: ClassDecl.sitesAll (outer ++ [⟨⟨name⟩, isStatic⟩]) nested

/-- The places of a list of classes and of every class inside them. -/
def ClassDecl.sitesAll (outer : List NestedClass) : List ClassDecl → List ClassSite
  | [] => []
  | cls :: rest => cls.sites outer ++ ClassDecl.sitesAll outer rest

end

/-- Every class of a unit at its place, in the order of declaration. -/
def CompilationUnit.sites (unit : CompilationUnit) : List ClassSite :=
  ClassDecl.sitesAll [] unit.classes

/-! ## The table of guards -/

/-- A method that a class declares, with its guard if it has one. -/
structure MethodEntry where
  owner : TypeName
  name : String
  arity : Nat
  guard : Option Guard
  deriving Repr, Inhabited

/-- The guard of a field, which is known by its class and its name. -/
structure FieldEntry where
  owner : TypeName
  name : String
  guard : Guard
  deriving Repr, Inhabited

/-- The guards of the fields, one for each, and the methods in order of declaration. -/
structure GuardTable where
  fields : List FieldEntry
  methods : List MethodEntry
  deriving Repr, Inhabited

namespace GuardTable

def empty : GuardTable := ⟨[], []⟩

/-- Sets the guard of a field, in place of an earlier one. -/
def setField (table : GuardTable) (owner : TypeName) (name : String) (guard : Guard) : GuardTable :=
  { table with
    fields := table.fields.filter (fun e => !(e.owner == owner && e.name == name))
      ++ [⟨owner, name, guard⟩] }

/-- Adds a declared method. -/
def addMethod (table : GuardTable) (method : MethodEntry) : GuardTable :=
  { table with methods := table.methods ++ [method] }

/-- The guard of a field. -/
def fieldGuard (table : GuardTable) (field : FieldSymbol) : Option Guard :=
  (table.fields.find? fun e => e.owner == field.owner && e.name == field.name).map (·.guard)

/-- The methods of a name and a number of parameters that objects of a type have. -/
def callable (table : GuardTable) (types : TypeLookup) (owner : TypeName) (name : String)
    (arity : Nat) : List MethodEntry :=
  table.methods.filter fun m =>
    m.name == name && m.arity == arity && types.isSubtype owner m.owner

/-- Whether a method stands in a class at or below the class of every method of a list. -/
def isMostDerived (types : TypeLookup) (methods : List MethodEntry) (m : MethodEntry) : Bool :=
  methods.all fun other => types.isSubtype m.owner other.owner

/-- The method that a call on an object of a type means: the one that the type declares itself, else
the most derived one, else the first declared. -/
def method? (table : GuardTable) (types : TypeLookup) (owner : TypeName) (name : String)
    (arity : Nat) : Option MethodEntry :=
  let found := table.callable types owner name arity
  (found.find? (·.owner == owner)).or
    ((found.find? (isMostDerived types found)).or found.head?)

/-- How many methods have a guard. -/
def guardedMethodCount (table : GuardTable) : Nat :=
  (table.methods.filter (·.guard.isSome)).length

end GuardTable

/-! ## The annotations of a unit -/

/-- The guards that were accepted and the annotations that were rejected. -/
structure Validation where
  guards : GuardTable
  errors : List GuardError
  deriving Inhabited

namespace Validation

/-- Notes the outcome for the annotation of a field. -/
def addField (types : TypeLookup) (site : ClassSite) (validation : Validation)
    (field : FieldDecl) : Validation :=
  match field.guardedBy with
  | none => validation
  | some note =>
    match note.resolve field.name (site.scope field.isStatic) types with
    | .ok guard =>
      { validation with guards := validation.guards.setField site.cls.type field.name guard }
    | .error error => { validation with errors := validation.errors ++ [error] }

/-- The entry of a method of a class. A constructor has none: it is not called on an object. -/
def enter (site : ClassSite) (method : MethodDecl) (guard : Option Guard) (guards : GuardTable) :
    GuardTable :=
  if method.isConstructor then guards
  else guards.addMethod ⟨site.cls.type, method.name, method.arity, guard⟩

/-- Notes a method and the outcome for its annotation. A rejected one leaves it without a guard. -/
def addMethod (types : TypeLookup) (site : ClassSite) (validation : Validation)
    (method : MethodDecl) : Validation :=
  match method.guardedBy with
  | none => { validation with guards := enter site method none validation.guards }
  | some note =>
    match note.resolve method.name (site.scope method.isStatic) types with
    | .ok guard => { validation with guards := enter site method (some guard) validation.guards }
    | .error error =>
      { guards := enter site method none validation.guards, errors := validation.errors ++ [error] }

/-- Notes the members of a class, its fields first. -/
def addSite (types : TypeLookup) (validation : Validation) (site : ClassSite) : Validation :=
  site.cls.methods.foldl (addMethod types site)
    (site.cls.fields.foldl (addField types site) validation)

end Validation

/-- Resolves every annotation of a unit. -/
def CompilationUnit.validate (unit : CompilationUnit) (types : TypeLookup) : Validation :=
  unit.sites.foldl (Validation.addSite types) ⟨.empty, []⟩

end LockDiscipline

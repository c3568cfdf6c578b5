-- The program states the static type of many an expression: of a local, of a field, of `this`, of an
-- object around it, of a cast and of a new object. An access through a receiver of stated type is
-- seen, unless the receiver starts at a cast or at a new object: their types are dropped.
import LockDiscipline.Proofs.LexicalLocks
import LockDiscipline.Proofs.CanonicalForms
import LockDiscipline.Proofs.ReceiverPaths

namespace LockDiscipline

open Piece (Occurrence)

/-! ## Stated types -/

namespace Context

variable (ctx : Context)

/-- The program states the static type of an expression, in the tree itself or in the declarations of
classes. -/
inductive States : Expr → TypeName → Prop
  /-- A local or a parameter has the type that it is declared with. -/
  | localVar {name : String} {span : Span} {type : TypeName} :
      ctx.locals.lookup name = some type → States (.name name span) type
  /-- A name that is no local means the field of the innermost class around that has one. -/
  | fieldName {name : String} {span : Span} {inner outer : List Frame} {frame : Frame}
      {field : FieldSymbol} : ctx.locals.lookup name = none →
      ctx.scope.frames = inner ++ frame :: outer →
      (∀ other ∈ inner, ctx.types.field other.name name = none) →
      ctx.types.field frame.name name = some field →
      (field.isStatic = true ∨ frame.reachable = true) → States (.name name span) field.type
  /-- The current object, where there is one. -/
  | this {span : Span} {cls : TypeName} : ctx.scope.frames[0]? = some ⟨cls, true⟩ →
      States (.this span) cls
  /-- An object around the current one, where it is at hand. -/
  | qualifiedThis {written : String} {span : Span} {level : Nat} {cls : TypeName} :
      ctx.levelOf written = some level → ctx.scope.frames[level]? = some ⟨cls, true⟩ →
      States (.qualifiedThis written span) cls
  /-- A field of an object has the type that the class of the object declares it with. -/
  | field {receiver : Expr} {name : String} {span : Span} {owner : TypeName}
      {field : FieldSymbol} : States receiver owner → ctx.types.field owner name = some field →
      States (.select receiver name span) field.type
  /-- A static field of a type that is written as a dotted name, which means no object. -/
  | staticField {receiver : Expr} {name text : String} {span : Span} {owner : TypeName}
      {field : FieldSymbol} : (ctx.canonical receiver).type = none →
      receiver.dottedName? = some text → ctx.types.resolve text = some owner →
      ctx.types.field owner name = some field → field.isStatic = true →
      States (.select receiver name span) field.type
  /-- A cast has the type that it names. -/
  | cast {written : String} {e : Expr} {span : Span} :
      States (.cast written e span) (ctx.types.written written)
  /-- A new object has the type that it is made of. -/
  | new {written : String} {args : List Expr} {span : Span} :
      States (.new written args span) (ctx.types.written written)

end Context

/-- Whether a path of fields starts at a cast or at a new object. -/
def Expr.startsAtCastOrNew : Expr → Bool
  | .select receiver _ _ => receiver.startsAtCastOrNew
  | .cast _ _ _ => true
  | .new _ _ _ => true
  | _ => false

/-! ## What the canonical form keeps of them -/

namespace Context

variable {ctx : Context}

/-- A name that is no local means a field of the first class around that has one. -/
theorem fieldNamed_eq {name : String} {inner outer : List Frame} {frame : Frame}
    {field : FieldSymbol} (hframes : ctx.scope.frames = inner ++ frame :: outer)
    (hinner : ∀ other ∈ inner, ctx.types.field other.name name = none)
    (hfield : ctx.types.field frame.name name = some field) :
    ctx.fieldNamed name =
      if field.isStatic then some (.staticField field)
      else (ctx.scope.instanceAt inner.length).map (.field · field) := by
  rw [fieldNamed, hframes, List.zipIdx_append, List.findSome?_append,
    List.findSome?_eq_none_iff.mpr, Option.none_or, List.zipIdx_cons, List.findSome?_cons]
  · dsimp only
    rw [hfield, Nat.zero_add]
    rfl
  · rintro ⟨other, level⟩ hmem
    rw [Option.map_eq_none_iff]
    exact hinner other (List.mem_of_getElem? (List.mem_zipIdx_iff_getElem?.mp hmem))

/-- A field of a value means that field, and what is before it unless the field is static. -/
theorem canonical_select_eq {receiver : Expr} {owner : TypeName} {name : String}
    {field : FieldSymbol} (howner : (ctx.canonical receiver).type = some owner)
    (hfield : ctx.types.field owner name = some field) (span : Span) :
    ctx.canonical (.select receiver name span) =
      if field.isStatic then .staticField field else .field (ctx.canonical receiver) field := by
  rw [canonical_select howner, fieldOf, howner]
  by_cases hstatic : field.isStatic = true <;> simp [hfield, hstatic]

theorem type_canonical_of_decompose {e : Expr} {guard : Guard} {type : TypeName}
    (h : ctx.decompose e = some guard) (htype : guard.type = some type) :
    (ctx.canonical e).type = some type := by
  rw [canonical_eq_of_decompose h, htype]

/-- The canonical form of an expression has the type that the program states, unless the expression
starts at a cast or at a new object. -/
theorem type_canonical_of_states {e : Expr} {type : TypeName} (h : ctx.States e type)
    (hstart : e.startsAtCastOrNew = false) : (ctx.canonical e).type = some type := by
  induction h with
  | @localVar name span type hlocal =>
    have hform : ctx.decompose (.name name span) = some (.verbatim name (some type)) := by
      rw [decompose, named, hlocal]
    exact type_canonical_of_decompose hform rfl
  | @fieldName name span inner outer frame field hlocal hframes hinner hfield hreach =>
    have hname : ctx.decompose (.name name span) = ctx.fieldNamed name := by
      rw [decompose, named, hlocal]
    rw [fieldNamed_eq hframes hinner hfield] at hname
    by_cases hstatic : field.isStatic = true
    · rw [if_pos hstatic] at hname
      exact type_canonical_of_decompose hname rfl
    · obtain ⟨cls, reachable⟩ := frame
      cases hreach.resolve_left hstatic
      have hframe : ctx.scope.frames[inner.length]? = some ⟨cls, true⟩ := by
        rw [hframes]
        simp
      have hobject := (ctx.scope.instanceAt_eq_some_iff inner.length _).mpr ⟨cls, hframe, rfl⟩
      rw [if_neg hstatic, hobject] at hname
      exact type_canonical_of_decompose hname rfl
  | @this span cls hframe =>
    have hobject := (ctx.scope.instanceAt_eq_some_iff 0 _).mpr ⟨cls, hframe, rfl⟩
    exact type_canonical_of_decompose (e := .this span) hobject rfl
  | @qualifiedThis written span level cls hlevel hframe =>
    have hobject := (ctx.scope.instanceAt_eq_some_iff level _).mpr ⟨cls, hframe, rfl⟩
    have hform : ctx.decompose (.qualifiedThis written span) =
        some (if level = 0 then .this cls else .enclosing level cls) := by
      rw [decompose, hlevel, Option.bind_some, hobject]
    refine type_canonical_of_decompose hform ?_
    split <;> rfl
  | field _ hfield ih =>
    rw [canonical_select_eq (ih hstart) hfield]
    split <;> rfl
  | @staticField receiver name text span owner field hreceiver hname howner hfield hstatic =>
    have hverbatim : (ctx.canonical receiver).isVerbatim = true := by
      by_contra hvalue
      obtain ⟨type, htype⟩ := Guard.exists_type_of_not_verbatim (Bool.eq_false_iff.mpr hvalue)
      cases hreceiver.symm.trans htype
    have hform : ctx.decompose (.select receiver name span) = some (.staticField field) := by
      change ctx.selected receiver (ctx.canonical receiver) name = _
      simp [selected, hverbatim, hreceiver, staticFieldOf, hname, howner, hfield, hstatic]
    exact type_canonical_of_decompose hform rfl
  | cast => cases hstart
  | new => cases hstart

/-- No rule takes an expression apart that starts at a cast or at a new object, nor is it the name of
a type. -/
theorem decompose_eq_none_of_startsAtCastOrNew {e : Expr} (h : e.startsAtCastOrNew = true) :
    ctx.decompose e = none ∧ e.dottedName? = none := by
  induction e using Expr.startsAtCastOrNew.induct with
  | case1 receiver name span ih =>
    obtain ⟨hnone, hname⟩ := ih h
    refine ⟨?_, ?_⟩
    · rw [decompose, hnone]
      simp [selected, Guard.isVerbatim, Guard.type, staticFieldOf, hname]
    · rw [Expr.dottedName?, hname]
      rfl
  | case2 written e span => exact ⟨rfl, rfl⟩
  | case3 written args span => exact ⟨rfl, rfl⟩
  | case4 e h1 h2 h3 =>
    rw [Expr.startsAtCastOrNew] at h
    · cases h
    · exact h1
    · exact h2
    · exact h3

end Context

/-! ## Which accesses are seen -/

namespace Setting

variable {setting : Setting} {locals : Locals} {receiver : Expr} {name : String} {span : Span}

/-- The guard that an access through a receiver needs, where the canonical form of the receiver has a
type. -/
theorem fieldGuard_of_type {type : TypeName} {field : FieldSymbol} {declared : Guard}
    (htype : (setting.canonical locals receiver).type = some type)
    (hfield : setting.types.field type name = some field) (hinstance : field.isStatic = false)
    (hdeclared : setting.guards.fieldGuard field = some declared) :
    setting.fieldGuard locals (.select receiver name span) =
      some (declared.rebind (setting.canonical locals receiver)) := by
  have haccess : setting.canonical locals (.select receiver name span) =
      .field (setting.canonical locals receiver) field :=
    (Context.canonical_select_eq htype hfield span).trans (if_neg (by simp [hinstance]))
  rw [fieldGuard, haccess]
  dsimp only
  rw [hdeclared, Option.map_some]

theorem fieldGuard_of_startsAtCastOrNew (h : receiver.startsAtCastOrNew = true) :
    setting.fieldGuard locals (.select receiver name span) = none := by
  have hselect : (Expr.select receiver name span).startsAtCastOrNew = true := h
  have hform : setting.canonical locals (.select receiver name span) =
      .verbatim (Expr.select receiver name span).text none :=
    Context.canonical_eq_verbatim (Context.decompose_eq_none_of_startsAtCastOrNew hselect).1
  rw [fieldGuard, hform]

theorem accesses_split {method : MethodDecl} (hc : method.isConstructor = false)
    {before after : List Occurrence} {occurrence : Occurrence}
    (h : (Piece.block method.body).occurrences [] = before ++ occurrence :: after) :
    setting.accesses method =
      before.filterMap (setting.accessAt (setting.start method))
        ++ (setting.accessAt (setting.start method) occurrence).toList
        ++ after.filterMap (setting.accessAt (setting.start method)) := by
  rw [setting.accesses_eq_occurrences hc, h, List.filterMap_append, List.filterMap_cons,
    List.append_assoc]
  cases setting.accessAt (setting.start method) occurrence <;> rfl

/-- An expression that selects a guarded instance field from a receiver whose type the program states
is reported as an access to that field. -/
def SeesStatedReceivers (setting : Setting) (method : MethodDecl) : Prop :=
  ∀ (path : Path) (receiver : Expr) (name : String) (span : Span) (type : TypeName)
    (field : FieldSymbol) (declared : Guard),
    ⟨path, .select receiver name span⟩ ∈ (Piece.block method.body).occurrences [] →
    (setting.context (setting.localsAt (setting.parameters method) path)).States receiver type →
    setting.types.field type name = some field → field.isStatic = false →
    setting.guards.fieldGuard field = some declared →
      ∃ access ∈ setting.accesses method, access.expr = .select receiver name span

/-- Where a guarded instance field is selected from a receiver whose type the program states, the
access is reported at its place among the others, with the guard of the field rebound to the
canonical form of the receiver, and that form has the stated type. Only if the receiver starts at a
cast or at a new object is nothing reported: then its form is a text without a type. -/
theorem an_access_is_seen_unless_it_starts_at_a_cast_or_a_new_object (method : MethodDecl)
    (hc : method.isConstructor = false) (before after : List Occurrence) (path : Path)
    (receiver : Expr) (name : String) (span : Span)
    (hsplit : (Piece.block method.body).occurrences [] =
      before ++ ⟨path, .select receiver name span⟩ :: after) (type : TypeName)
    (hstates :
      (setting.context (setting.localsAt (setting.parameters method) path)).States receiver type)
    (field : FieldSymbol) (hfield : setting.types.field type name = some field)
    (hinstance : field.isStatic = false) (declared : Guard)
    (hdeclared : setting.guards.fieldGuard field = some declared) :
    let form := setting.canonical (setting.localsAt (setting.parameters method) path) receiver
    let here : Access :=
      ⟨.select receiver name span, declared.rebind form,
        (setting.placeAt (setting.start method) path).held⟩
    setting.accesses method =
        before.filterMap (setting.accessAt (setting.start method))
          ++ (if receiver.startsAtCastOrNew then [] else [here])
          ++ after.filterMap (setting.accessAt (setting.start method)) ∧
      if receiver.startsAtCastOrNew then form = .verbatim receiver.text none
      else form.type = some type := by
  intro form here
  have hlocals := setting.locals_placeAt (setting.start method) path
  have haccess : (setting.accessAt (setting.start method)
      ⟨path, .select receiver name span⟩) =
        (setting.fieldGuard (setting.localsAt (setting.parameters method) path)
          (.select receiver name span)).map
          (⟨.select receiver name span, ·, (setting.placeAt (setting.start method) path).held⟩) := by
    rw [accessAt, accessOf, hlocals]
    rfl
  rw [accesses_split hc hsplit, haccess]
  by_cases hstart : receiver.startsAtCastOrNew = true
  · rw [if_pos hstart, if_pos hstart, fieldGuard_of_startsAtCastOrNew hstart]
    refine ⟨rfl, ?_⟩
    exact Context.canonical_eq_verbatim (Context.decompose_eq_none_of_startsAtCastOrNew hstart).1
  · have htype : form.type = some type :=
      Context.type_canonical_of_states hstates (Bool.eq_false_iff.mpr hstart)
    rw [if_neg hstart, if_neg hstart, fieldGuard_of_type htype hfield hinstance hdeclared]
    exact ⟨rfl, htype⟩

end Setting

namespace Counter

def castO : Expr := .cast "Counter" (.name "o" .unknown) .unknown

/-- Reads the `x` of an object that is known to be a counter by a cast only. -/
def readsCast : MethodDecl :=
  method [⟨"o", "Object"⟩] none [.returns (some (.select castO "x" .unknown)) .unknown]

theorem an_access_through_a_cast_is_not_seen :
    let setting := setting [readsCast] readsCast
    (setting.accesses readsCast).length = 0 ∧ ¬ setting.SeesStatedReceivers readsCast := by
  intro setting
  have hnothing : (setting.accesses readsCast).length = 0 := by decide +kernel
  refine ⟨hnothing, fun h => ?_⟩
  have hread : ⟨[.within, .behind []], .select castO "x" .unknown⟩ ∈
      (Piece.block readsCast.body).occurrences [] :=
    Piece.mem_occurrences_of_mem_parts List.mem_cons_self
      (Piece.mem_occurrences_of_mem_parts List.mem_cons_self (Piece.self_mem_occurrences _ _))
  obtain ⟨access, haccess, -⟩ := h _ castO "x" .unknown _
    ⟨⟨"Counter"⟩, "x", ⟨"int"⟩, false⟩ mu hread .cast (by decide +kernel) rfl (by decide +kernel)
  rw [List.length_eq_zero_iff.mp hnothing] at haccess
  cases haccess

end Counter

namespace Linked

/-- The node behind another one. -/
def otherNext : Expr := .select (.name "other" .unknown) "next" .unknown

/-- Reads the `x` of the node behind another one. -/
def readsBehind : MethodDecl :=
  ⟨"m", .method, false, false, [⟨"other", "Node"⟩], none,
    [.returns (some (.select otherNext "x" .unknown)) .unknown], .unknown⟩

theorem the_x_of_the_node_behind_another_is_seen :
    let setting := unit.setting .default ⟨site, readsBehind⟩
    let locals := setting.localsAt (setting.parameters readsBehind) [.within, .behind []]
    (setting.context locals).States otherNext ⟨"Node"⟩ ∧
      (setting.canonical locals otherNext).type = some ⟨"Node"⟩ ∧
      ∃ access ∈ setting.accesses readsBehind, access.guard.text = "other.next.next.mu" := by
  intro setting locals
  have hread : ⟨[.within, .behind []], .select otherNext "x" .unknown⟩ ∈
      (Piece.block readsBehind.body).occurrences [] :=
    Piece.mem_occurrences_of_mem_parts List.mem_cons_self
      (Piece.mem_occurrences_of_mem_parts List.mem_cons_self (Piece.self_mem_occurrences _ _))
  obtain ⟨before, after, hsplit⟩ := List.append_of_mem hread
  have hother : (setting.context locals).States (.name "other" .unknown) ⟨"Node"⟩ :=
    .localVar (by decide +kernel)
  have hnext : (setting.context locals).States otherNext ⟨"Node"⟩ :=
    have hfield : setting.types.field ⟨"Node"⟩ "next" = some ⟨⟨"Node"⟩, "next", ⟨"Node"⟩, false⟩ := by
      decide +kernel
    .field hother hfield
  have hguard : setting.guards.fieldGuard ⟨⟨"Node"⟩, "x", ⟨"int"⟩, false⟩ =
      some (.field (.field (.this ⟨"Node"⟩) ⟨⟨"Node"⟩, "next", ⟨"Node"⟩, false⟩)
        ⟨⟨"Node"⟩, "mu", .object, false⟩) := by
    decide +kernel
  obtain ⟨haccesses, htype⟩ :=
    Setting.an_access_is_seen_unless_it_starts_at_a_cast_or_a_new_object readsBehind rfl before after
      _ otherNext "x" .unknown hsplit ⟨"Node"⟩ hnext ⟨⟨"Node"⟩, "x", ⟨"int"⟩, false⟩
      (by decide +kernel) rfl _ hguard
  refine ⟨hnext, htype, ?_⟩
  rw [haccesses]
  refine ⟨_, List.mem_append_left _ (List.mem_append_right _ (List.mem_singleton_self _)), ?_⟩
  decide +kernel

end Linked

end LockDiscipline

-- A message shows a guard by names: classes by their simple ones, and a field of the current object
-- without the object. The text is in the language of guards, so it can be read as an expression.
-- What the expression means where it is read depends on the names: a local or a field further in
-- may have taken the name of a field, and two classes may have one simple name.
import LockDiscipline.Proofs.GuardLanguage
import LockDiscipline.Proofs.StatedTypes
import LockDiscipline.Proofs.TypeTable

namespace LockDiscipline

namespace Guard

/-! ## The expression that is shown -/

/-- The expression that the text of a guard reads as, with every node at one place. -/
def shown (span : Span) : Guard → Expr
  | this _ => .this span
  | enclosing _ cls => .qualifiedThis cls.simple span
  | field (this _) f => .name f.name span
  | field receiver f => .select (receiver.shown span) f.name span
  | staticField f => .select (.name f.owner.simple span) f.name span
  | classLit cls => .classLit cls.simple span
  | verbatim text _ => .name text span

/-- The names in the text of a guard. -/
def words : Guard → List String
  | this _ => []
  | enclosing _ cls => [cls.simple]
  | field receiver f => receiver.words ++ [f.name]
  | staticField f => [f.owner.simple, f.name]
  | classLit cls => [cls.simple]
  | verbatim text _ => [text]

/-- A name that a program can use: an identifier that is no keyword. -/
def IsWord (name : String) : Prop :=
  isIdentifier name.toList = true ∧ name.toList ≠ "this".toList ∧ name.toList ≠ "class".toList

instance (name : String) : Decidable (IsWord name) := inferInstanceAs (Decidable (_ ∧ _ ∧ _))

theorem text_shown (span : Span) (guard : Guard) : (guard.shown span).text = guard.text := by
  induction guard using Guard.shown.induct with
  | case4 receiver f hthis ih =>
    rw [shown, text, Expr.text, ih]
    · exact hthis
    · exact hthis
  | _ => rfl

theorem exists_word {name : String} (h : IsWord name) : ∃ word : Word, word.text = name :=
  ⟨⟨name.toList, h.1, h.2.1, h.2.2⟩, String.ofList_toList⟩

/-- A phrase that is no class object can go on with one more field. -/
theorem Phrase.exists_select {span : Span} {phrase : Phrase}
    (h : ∀ cls, phrase.expr span ≠ .classLit cls span) (word : Word) :
    ∃ longer : Phrase, longer.expr span = .select (phrase.expr span) word.text span := by
  cases phrase with
  | names first rest =>
    exact ⟨.names first (rest ++ [word]), by simp [Phrase.expr, Phrase.steps]⟩
  | this fields => exact ⟨.this (fields ++ [word]), by simp [Phrase.expr, Phrase.steps]⟩
  | around first rest fields =>
    exact ⟨.around first rest (fields ++ [word]), by simp [Phrase.expr, Phrase.steps]⟩
  | classObject first rest => exact absurd rfl (h _)

/-- Nothing is selected from a class object: the language of guards has no text for that. -/
def ClassObjectAlone (guard : Guard) : Prop :=
  ∀ cls, guard.origin = .classLit cls → guard = .classLit cls

theorem joined_singleton (word : Word) : joined [word.chars] = word.text := by
  rw [joined, List.intercalate_singleton, Word.text]

/-- A guard is shown by a phrase, if its names are words. -/
theorem exists_phrase (span : Span) {guard : Guard} (hwords : ∀ name ∈ guard.words, IsWord name)
    (halone : guard.ClassObjectAlone) : ∃ phrase : Phrase, phrase.expr span = guard.shown span := by
  induction guard using Guard.shown.induct with
  | case1 cls => exact ⟨.this [], rfl⟩
  | case2 level cls =>
    obtain ⟨word, hword⟩ := exists_word (hwords cls.simple (List.mem_singleton_self _))
    refine ⟨.around word [] [], ?_⟩
    rw [shown, ← hword, ← joined_singleton]
    rfl
  | case3 cls f =>
    obtain ⟨word, hword⟩ := exists_word (hwords f.name (List.mem_singleton_self _))
    exact ⟨.names word [], by rw [shown, ← hword]; rfl⟩
  | case4 receiver f hthis ih =>
    have horigin : ∀ cls, receiver.origin ≠ .classLit cls := by
      intro cls heq
      cases halone cls heq
    obtain ⟨phrase, hphrase⟩ := ih (fun name hname => hwords name (List.mem_append_left _ hname))
      fun cls heq => absurd heq (horigin cls)
    obtain ⟨word, hword⟩ := exists_word (hwords f.name (List.mem_append_right _ List.mem_cons_self))
    have hobject : ∀ cls, phrase.expr span ≠ .classLit cls span := by
      intro cls heq
      rw [hphrase] at heq
      cases receiver with
      | classLit other => exact horigin other rfl
      | field inner f' => cases inner <;> cases heq
      | _ => cases heq
    obtain ⟨longer, hlonger⟩ := Phrase.exists_select hobject word
    refine ⟨longer, ?_⟩
    rw [hlonger, hphrase, hword, shown]
    exact hthis
  | case5 f =>
    obtain ⟨owner, howner⟩ := exists_word (hwords f.owner.simple List.mem_cons_self)
    obtain ⟨word, hword⟩ := exists_word (hwords f.name (by simp [words]))
    exact ⟨.names owner [word], by rw [shown, ← howner, ← hword]; rfl⟩
  | case6 cls =>
    obtain ⟨word, hword⟩ := exists_word (hwords cls.simple (List.mem_singleton_self _))
    refine ⟨.classObject word [], ?_⟩
    rw [shown, ← hword, ← joined_singleton]
    rfl
  | case7 text type =>
    obtain ⟨word, hword⟩ := exists_word (hwords text (List.mem_singleton_self _))
    exact ⟨.names word [], by rw [shown, ← hword]; rfl⟩

/-- The text of a guard is read as the expression that it shows. -/
theorem read_text (span : Span) {guard : Guard} (hwords : ∀ name ∈ guard.words, IsWord name)
    (halone : guard.ClassObjectAlone) : read guard.text span = .ok (guard.shown span) := by
  obtain ⟨phrase, hphrase⟩ := exists_phrase span hwords halone
  rw [read_eq_ok_iff_phrase, ← guard.text_shown span, ← hphrase, text_expr,
    pieces_joined (pieces_ne_nil phrase) fun piece => isWhole_of_mem_pieces]
  exact ⟨phrase, rfl, rfl⟩

end Guard

/-! ## Class objects by themselves -/

namespace Context

variable {ctx : Context}

theorem origin_ne_classLit_of_instanceAt {level : Nat} {guard : Guard}
    (h : ctx.scope.instanceAt level = some guard) (cls : TypeName) :
    guard.origin ≠ .classLit cls := by
  obtain ⟨frame, -, rfl⟩ := (ctx.scope.instanceAt_eq_some_iff level guard).mp h
  split <;> exact nofun

/-- What no rule takes apart is a text, and starts at no class object. -/
theorem origin_canonical_ne_classLit {e : Expr} {cls : TypeName}
    (h : ∀ guard, ctx.decompose e = some guard → guard.origin ≠ .classLit cls) :
    (ctx.canonical e).origin ≠ .classLit cls := by
  cases hform : ctx.decompose e with
  | none =>
    rw [canonical_eq_verbatim hform]
    exact nofun
  | some guard =>
    rw [canonical_eq_of_decompose hform]
    exact h guard hform

/-- A bare name means nothing that starts at a class object. -/
theorem origin_ne_classLit_of_named {name : String} {guard : Guard}
    (h : ctx.named name = some guard) (cls : TypeName) : guard.origin ≠ .classLit cls := by
  unfold named at h
  split at h
  · cases h
    exact nofun
  · obtain ⟨level, frame, f, -, -, ⟨-, rfl⟩ | ⟨-, base, hbase, rfl⟩⟩ := exists_frame_of_fieldNamed h
    · exact nofun
    · exact origin_ne_classLit_of_instanceAt hbase cls

/-- What is selected starts at a class object only if its receiver does. -/
theorem origin_receiver_of_select {receiver : Expr} {name : String} {span : Span} {cls : TypeName}
    (h : (ctx.canonical (.select receiver name span)).origin = .classLit cls) :
    (ctx.canonical receiver).origin = .classLit cls := by
  have hselect : ctx.canonical (.select receiver name span) =
      (ctx.selected receiver (ctx.canonical receiver) name).getD
        (.verbatim (Expr.select receiver name span).text none) := rfl
  rw [hselect] at h
  cases hselected : ctx.selected receiver (ctx.canonical receiver) name with
  | none =>
    rw [hselected] at h
    cases h
  | some guard =>
    rw [hselected] at h
    unfold selected at hselected
    split at hselected
    · obtain ⟨owner, f, -, -, rfl⟩ := exists_field_of_staticFieldOf hselected
      cases h
    · obtain ⟨owner, f, -, -, ⟨-, rfl⟩ | ⟨-, rfl⟩⟩ := exists_field_of_fieldOf hselected
      · cases h
      · exact h

theorem origin_receiver_of_along {span : Span} {fields : List Guard.Word} {e : Expr}
    {cls : TypeName}
    (h : (ctx.canonical (e.along (Guard.Phrase.steps span fields))).origin = .classLit cls) :
    (ctx.canonical e).origin = .classLit cls := by
  induction fields generalizing e with
  | nil => exact h
  | cons field fields ih => exact origin_receiver_of_select (ih (e := .select e field.text span) h)

/-- Of what can be read, only a class object means something that starts at a class object. -/
theorem classObjectAlone_phrase (span : Span) (phrase : Guard.Phrase) :
    (ctx.canonical (phrase.expr span)).ClassObjectAlone := by
  intro cls horigin
  cases phrase with
  | names first rest =>
    refine absurd (origin_receiver_of_along horigin) (origin_canonical_ne_classLit ?_)
    exact fun guard h => origin_ne_classLit_of_named h cls
  | this fields =>
    refine absurd (origin_receiver_of_along horigin) (origin_canonical_ne_classLit ?_)
    exact fun guard h => origin_ne_classLit_of_instanceAt h cls
  | around first rest fields =>
    refine absurd (origin_receiver_of_along horigin) (origin_canonical_ne_classLit ?_)
    intro guard h
    obtain ⟨level, -, hobject⟩ := Option.bind_eq_some_iff.mp h
    exact origin_ne_classLit_of_instanceAt hobject cls
  | classObject first rest => exact horigin

end Context

/-! ## Fields that are what their names say -/

theorem FieldSymbol.eq_of_same {types : TypeLookup} {f g : FieldSymbol} (h : f.same g = true)
    (hf : types.field f.owner f.name = some f) (hg : types.field g.owner g.name = some g) :
    f = g := by
  obtain ⟨howner, hname⟩ := (FieldSymbol.same_iff f g).mp h
  rw [howner, hname, hg] at hf
  exact (Option.some.inj hf).symm

namespace Guard

/-- Every field in the guard is the one that its class has under its name, and it is static exactly
if no object stands in front of it. -/
def FieldsKnown (types : TypeLookup) : Guard → Prop
  | field receiver f =>
    receiver.FieldsKnown types ∧ types.field f.owner f.name = some f ∧ f.isStatic = false
  | staticField f => types.field f.owner f.name = some f ∧ f.isStatic = true
  | _ => True

theorem FieldsKnown.rebind {types : TypeLookup} {guard receiver : Guard}
    (h : guard.FieldsKnown types) (hreceiver : receiver.FieldsKnown types) :
    (guard.rebind receiver).FieldsKnown types := by
  induction guard with
  | field base f ih =>
    rw [rebind_field]
    exact ⟨ih h.1, h.2⟩
  | staticField f =>
    rw [rebind_staticField]
    exact h
  | classLit cls =>
    rw [rebind_classLit]
    trivial
  | this cls =>
    cases receiver with
    | this _ => trivial
    | _ => exact hreceiver
  | enclosing level cls =>
    rw [enclosing_rebind]
    split <;> trivial
  | verbatim text type => cases receiver <;> trivial

/-- Equal guards have one type. Only the current object may be known by two classes. -/
theorem type_eq_of_same {types : TypeLookup} {a b : Guard} (h : a.same b = true)
    (ha : a.FieldsKnown types) (hb : b.FieldsKnown types) (hthis : ∀ cls, b ≠ .this cls)
    (hplain : b.isVerbatim = false) : a.type = b.type := by
  cases b with
  | this cls => exact absurd rfl (hthis cls)
  | verbatim _ _ => cases hplain
  | field s g =>
    cases a with
    | field r f =>
      rw [same, Bool.and_eq_true] at h
      rw [FieldSymbol.eq_of_same h.2 ha.2.1 hb.2.1]
      rfl
    | _ => cases h
  | staticField g =>
    cases a with
    | staticField f =>
      rw [FieldSymbol.eq_of_same h ha.1 hb.1]
    | _ => cases h
  | _ => cases a <;> simp_all [same, type]

end Guard

namespace CompilationUnit

variable {unit : CompilationUnit} {scope : Scope} {locals : Locals}

theorem fieldsKnown_of_form {guard : Guard}
    (h : Context.Form ⟨unit.types, scope, locals⟩ guard) : guard.FieldsKnown unit.types := by
  induction h with
  | object hobject =>
    obtain ⟨cls, -, rfl⟩ := (Scope.instanceAt_eq_some_iff ..).mp hobject
    split <;> trivial
  | field _ _ hfield hinstance ih =>
    exact ⟨ih, (ClassTable.field_eq_some hfield).2.2, hinstance⟩
  | staticField hfield hstatic => exact ⟨(ClassTable.field_eq_some hfield).2.2, hstatic⟩
  | _ => trivial

theorem fieldsKnown_canonical (e : Expr) :
    (Context.canonical ⟨unit.types, scope, locals⟩ e).FieldsKnown unit.types := by
  rcases Context.form_or_verbatim e with hform | ⟨-, hverbatim⟩
  · exact fieldsKnown_of_form hform
  · rw [hverbatim]
    trivial

end CompilationUnit

/-! ## Where the names lead -/

namespace Context

variable (ctx : Context)

/-- The type that a bare name in front of a field leads to: that of the value which the name means,
and where it means none, the type that it stands for. -/
def typeNamed (name : String) : Option TypeName :=
  match ctx.named name with
  | some value => value.type
  | none => ctx.types.resolve name

end Context

/-- The names by which a guard is shown lead to the guard again. -/
inductive Guard.NamedIn (ctx : Context) : Guard → Prop
  /-- The current object is at hand. -/
  | this {cls other : TypeName} : ctx.scope.instanceAt 0 = some (.this other) →
      NamedIn ctx (.this cls)
  /-- The simple name of the class leads out to the object. -/
  | enclosing {level : Nat} {cls : TypeName} :
      (ctx.levelOf cls.simple).bind ctx.scope.instanceAt = some (.enclosing level cls) →
      NamedIn ctx (.enclosing level cls)
  /-- A field of the current object is shown by its name alone. No local has the name, and the class
  of the current object has that field under it. -/
  | ownField {cls other : TypeName} {f : FieldSymbol} : ctx.locals.lookup f.name = none →
      ctx.scope.instanceAt 0 = some (.this other) → ctx.types.field other f.name = some f →
      NamedIn ctx (.field (.this cls) f)
  /-- The type of any other object has that field under the name. -/
  | field {receiver : Guard} {owner : TypeName} {f : FieldSymbol} :
      (∀ cls, receiver ≠ .this cls) → (∀ cls, receiver ≠ .classLit cls) → NamedIn ctx receiver →
      receiver.type = some owner → ctx.types.field owner f.name = some f →
      NamedIn ctx (.field receiver f)
  /-- The simple name of the class leads to a type that has that field under the name. -/
  | staticField {owner : TypeName} {f : FieldSymbol} :
      ctx.typeNamed f.owner.simple = some owner → ctx.types.field owner f.name = some f →
      NamedIn ctx (.staticField f)
  /-- The simple name stands for the class. -/
  | classLit {cls : TypeName} : ctx.types.written cls.simple = cls → NamedIn ctx (.classLit cls)

namespace Context

variable {ctx : Context}

/-- A form is equal to a guard that is no text only if some rule takes the expression apart. -/
theorem same_canonical_iff {e : Expr} {guard : Guard} (hplain : guard.isVerbatim = false) :
    (ctx.canonical e).same guard = true ↔
      ∃ form, ctx.decompose e = some form ∧ form.same guard = true := by
  cases h : ctx.decompose e with
  | none =>
    rw [canonical_eq_verbatim h]
    cases guard with
    | verbatim _ _ => cases hplain
    | _ => simp [Guard.same]
  | some form => simp [canonical_eq_of_decompose h]

theorem means_this_iff (span : Span) (cls : TypeName) :
    (ctx.canonical (.this span)).same (.this cls) = true ↔ (Guard.this cls).NamedIn ctx := by
  rw [same_canonical_iff rfl]
  constructor
  · rintro ⟨form, hform, hsame⟩
    cases form with
    | this other => exact .this hform
    | _ => cases hsame
  · rintro ⟨hobject⟩
    exact ⟨_, hobject, rfl⟩

theorem means_enclosing_iff (span : Span) (level : Nat) (cls : TypeName) :
    (ctx.canonical (.qualifiedThis cls.simple span)).same (.enclosing level cls) = true ↔
      (Guard.enclosing level cls).NamedIn ctx := by
  rw [same_canonical_iff rfl]
  constructor
  · rintro ⟨form, hform, hsame⟩
    cases form with
    | enclosing level' cls' =>
      obtain ⟨rfl, rfl⟩ : level' = level ∧ cls' = cls := by simpa [Guard.same] using hsame
      exact .enclosing hform
    | _ => cases hsame
  · rintro (_ | hobject)
    exact ⟨_, hobject, Guard.same_refl _⟩

theorem means_classLit_iff (span : Span) (cls : TypeName) :
    (ctx.canonical (.classLit cls.simple span)).same (.classLit cls) = true ↔
      (Guard.classLit cls).NamedIn ctx := by
  rw [same_canonical_iff rfl, decompose]
  constructor
  · rintro ⟨form, hform, hsame⟩
    cases hform
    exact .classLit (by simpa [Guard.same] using hsame)
  · rintro (_ | _ | _ | _ | _ | hwritten)
    exact ⟨_, rfl, by simp [Guard.same, hwritten]⟩

/-- A field behind an object comes from the type of what stands in front of it. -/
theorem exists_owner_of_select {receiver : Expr} {name : String} {span : Span} {base : Guard}
    {f : FieldSymbol} (h : ctx.decompose (.select receiver name span) = some (.field base f)) :
    ctx.canonical receiver = base ∧
      ∃ owner, base.type = some owner ∧ ctx.types.field owner name = some f := by
  change ctx.selected receiver (ctx.canonical receiver) name = some (.field base f) at h
  unfold selected at h
  split at h
  · obtain ⟨owner, g, -, -, heq⟩ := exists_field_of_staticFieldOf h
    cases heq
  · obtain ⟨owner, g, howner, hg, ⟨-, heq⟩ | ⟨-, heq⟩⟩ := exists_field_of_fieldOf h
    · cases heq
    · cases heq
      exact ⟨rfl, owner, howner, hg⟩

theorem fieldOf_eq_staticField_iff (base : Guard) (name : String) (f : FieldSymbol) :
    ctx.fieldOf base name = some (.staticField f) ↔
      ∃ owner, base.type = some owner ∧ ctx.types.field owner name = some f ∧
        f.isStatic = true := by
  constructor
  · intro h
    obtain ⟨owner, g, howner, hg, ⟨hstatic, heq⟩ | ⟨-, heq⟩⟩ := exists_field_of_fieldOf h
    · cases heq
      exact ⟨owner, howner, hg, hstatic⟩
    · cases heq
  · rintro ⟨owner, howner, hf, hstatic⟩
    simp [fieldOf, howner, hf, hstatic]

theorem staticFieldOf_name_eq_some_iff (typeName name : String) (span : Span) (f : FieldSymbol) :
    ctx.staticFieldOf (.name typeName span) name = some (.staticField f) ↔
      ∃ owner, ctx.types.resolve typeName = some owner ∧ ctx.types.field owner name = some f ∧
        f.isStatic = true := by
  rw [staticFieldOf, Expr.dottedName?, Option.bind_eq_bind, Option.bind_some]
  constructor
  · intro h
    obtain ⟨owner, howner, h⟩ := Option.bind_eq_some_iff.mp h
    obtain ⟨g, hg, h⟩ := Option.bind_eq_some_iff.mp h
    split at h
    · rename_i hstatic
      cases h
      exact ⟨owner, howner, hg, hstatic⟩
    · cases h
  · rintro ⟨owner, howner, hf, hstatic⟩
    simp [howner, hf, hstatic]

/-- A form is never without a type. -/
theorem Form.exists_type {guard : Guard} (h : ctx.Form guard) : ∃ type, guard.type = some type := by
  cases h with
  | object hobject =>
    obtain ⟨cls, -, rfl⟩ := (ctx.scope.instanceAt_eq_some_iff ..).mp hobject
    split <;> exact ⟨cls, rfl⟩
  | _ => exact ⟨_, rfl⟩

/-- A static field behind a bare name comes from the type that the name leads to. A value that a
name means is never without a type, so a name without one means no value. -/
theorem decompose_select_name_iff (typeName name : String) (span : Span) (f : FieldSymbol) :
    ctx.decompose (.select (.name typeName span) name span) = some (.staticField f) ↔
      ∃ owner, ctx.typeNamed typeName = some owner ∧ ctx.types.field owner name = some f ∧
        f.isStatic = true := by
  rw [decompose, decompose, typeNamed]
  cases hnamed : ctx.named typeName with
  | none => exact staticFieldOf_name_eq_some_iff ..
  | some value =>
    obtain ⟨type, htype⟩ := (form_of_named hnamed).exists_type
    rw [Option.getD_some, selected, if_neg (by simp [htype])]
    exact fieldOf_eq_staticField_iff ..

end Context

namespace CompilationUnit

variable {unit : CompilationUnit} {scope : Scope} {locals : Locals}

/-- A bare name means a field of the current object exactly if no local has the name and the class
of the object has that field under it. A nearer class than that one there is none. -/
theorem means_ownField_iff (span : Span) (cls : TypeName) {f : FieldSymbol}
    (hknown : unit.types.field f.owner f.name = some f) (hinstance : f.isStatic = false) :
    (Context.canonical ⟨unit.types, scope, locals⟩ (.name f.name span)).same
        (.field (.this cls) f) = true ↔
      (Guard.field (.this cls) f).NamedIn ⟨unit.types, scope, locals⟩ := by
  rw [Context.same_canonical_iff rfl, Context.decompose, Context.named]
  constructor
  · rintro ⟨form, hform, hsame⟩
    split at hform
    · cases hform
      cases hsame
    · rename_i hlocal
      obtain ⟨level, frame, g, hframe, hg, ⟨-, rfl⟩ | ⟨-, base, hbase, rfl⟩⟩ :=
        Context.exists_frame_of_fieldNamed hform
      · cases hsame
      · rw [Guard.same, Bool.and_eq_true] at hsame
        obtain rfl := FieldSymbol.eq_of_same hsame.2 (ClassTable.field_eq_some hg).2.2 hknown
        obtain ⟨other, hother, rfl⟩ := (scope.instanceAt_eq_some_iff level base).mp hbase
        -- It was found in some class around. If the object is the current one, it is the innermost.
        by_cases hlevel : level = 0
        · subst hlevel
          cases hframe.symm.trans hother
          exact .ownField hlocal hbase hg
        · rw [if_neg hlevel] at hsame
          cases hsame.1
  · intro h
    cases h with
    | @ownField _ other _ hlocal hobject hfield =>
      obtain ⟨_, hframe, heq⟩ := (scope.instanceAt_eq_some_iff 0 _).mp hobject
      cases heq
      obtain ⟨outer, hframes⟩ := List.head?_eq_some_iff.mp (List.head?_eq_getElem? ▸ hframe)
      have hnamed : Context.fieldNamed ⟨unit.types, scope, locals⟩ f.name = _ :=
        Context.fieldNamed_eq hframes (List.forall_mem_nil _) hfield
      rw [if_neg (by simp [hinstance]), List.length_nil, hobject] at hnamed
      rw [hlocal]
      exact ⟨_, hnamed, by simp [Guard.same, FieldSymbol.same_iff]⟩
    | field hthis => exact absurd rfl (hthis cls)

/-- A field behind another object than the current one means that field exactly if the object is
meant and its type has the field under its name. -/
theorem means_field_iff {e : Expr} (span : Span) {receiver : Guard} {f : FieldSymbol}
    (hknown : (Guard.field receiver f).FieldsKnown unit.types)
    (hplain : receiver.isVerbatim = false)
    (hthis : ∀ cls, receiver ≠ .this cls) (hclass : ∀ cls, receiver ≠ .classLit cls)
    (hreceiver : (Context.canonical ⟨unit.types, scope, locals⟩ e).same receiver = true ↔
      receiver.NamedIn ⟨unit.types, scope, locals⟩) :
    (Context.canonical ⟨unit.types, scope, locals⟩ (.select e f.name span)).same
        (.field receiver f) = true ↔
      (Guard.field receiver f).NamedIn ⟨unit.types, scope, locals⟩ := by
  -- Equality leaves types out, but fields are looked up by type.
  have htype : (Context.canonical ⟨unit.types, scope, locals⟩ e).same receiver = true →
      (Context.canonical ⟨unit.types, scope, locals⟩ e).type = receiver.type := fun hsame =>
    Guard.type_eq_of_same hsame (fieldsKnown_canonical e) hknown.1 hthis hplain
  constructor
  · intro h
    obtain ⟨form, hform, hsame⟩ := (Context.same_canonical_iff rfl).mp h
    cases form with
    | field base g =>
      rw [Guard.same, Bool.and_eq_true] at hsame
      obtain ⟨rfl, owner, howner, hg⟩ := Context.exists_owner_of_select hform
      obtain rfl := FieldSymbol.eq_of_same hsame.2 (ClassTable.field_eq_some hg).2.2 hknown.2.1
      exact .field hthis hclass (hreceiver.mp hsame.1) ((htype hsame.1).symm.trans howner) hg
    | _ => cases hsame
  · intro h
    cases h with
    | ownField => exact absurd rfl (hthis _)
    | @field _ owner _ _ _ hnamed howner hfield =>
      have hsame := hreceiver.mpr hnamed
      rw [Context.canonical_select_eq ((htype hsame).trans howner) hfield,
        if_neg (by simp [hknown.2.2])]
      rw [Guard.same, hsame]
      simp [FieldSymbol.same_iff]

/-- A static field means itself exactly if the simple name of its class leads to a type that has the
field under its name. -/
theorem means_staticField_iff (span : Span) {f : FieldSymbol}
    (hknown : (Guard.staticField f).FieldsKnown unit.types) :
    (Context.canonical ⟨unit.types, scope, locals⟩
        (.select (.name f.owner.simple span) f.name span)).same (.staticField f) = true ↔
      (Guard.staticField f).NamedIn ⟨unit.types, scope, locals⟩ := by
  rw [Context.same_canonical_iff rfl]
  constructor
  · rintro ⟨form, hform, hsame⟩
    cases form with
    | staticField g =>
      obtain ⟨owner, howner, hg, -⟩ := (Context.decompose_select_name_iff ..).mp hform
      obtain rfl := FieldSymbol.eq_of_same hsame (ClassTable.field_eq_some hg).2.2 hknown.1
      exact .staticField howner hg
    | _ => cases hsame
  · rintro (_ | _ | _ | _ | ⟨howner, hfield⟩)
    exact ⟨_, (Context.decompose_select_name_iff ..).mpr ⟨_, howner, hfield, hknown.2⟩,
      Guard.same_refl _⟩

/-- A guard that is shown means itself exactly if the names lead to it. -/
theorem means_shown_iff (span : Span) {guard : Guard} (hknown : guard.FieldsKnown unit.types)
    (hplain : ∀ node ∈ guard.nodes, node.isVerbatim = false) (halone : guard.ClassObjectAlone) :
    (Context.canonical ⟨unit.types, scope, locals⟩ (guard.shown span)).same guard = true ↔
      guard.NamedIn ⟨unit.types, scope, locals⟩ := by
  induction guard using Guard.shown.induct with
  | case1 cls => exact Context.means_this_iff span cls
  | case2 level cls => exact Context.means_enclosing_iff span level cls
  | case3 cls f => exact means_ownField_iff span cls hknown.2.1 hknown.2.2
  | case4 receiver f hthis ih =>
    have hclass : ∀ cls, receiver ≠ .classLit cls := by
      rintro cls rfl
      cases halone cls rfl
    have hinner : ∀ node ∈ receiver.nodes, node.isVerbatim = false := fun node hnode =>
      hplain node (List.mem_cons_of_mem _ hnode)
    have hstart : receiver.ClassObjectAlone := by
      intro cls heq
      cases halone cls heq
    rw [Guard.shown]
    · exact means_field_iff span hknown (hinner receiver receiver.self_mem_nodes) hthis hclass
        (ih hknown.1 hinner hstart)
    · exact hthis
  | case5 f => exact means_staticField_iff span hknown
  | case6 cls => exact Context.means_classLit_iff span cls
  | case7 text type => cases hplain _ List.mem_cons_self

end CompilationUnit

/-! ## Reading what is shown -/

namespace Guard

theorem NamedIn.classObjectAlone {ctx : Context} {guard : Guard} (h : guard.NamedIn ctx) :
    guard.ClassObjectAlone := by
  induction h with
  | field hthis hclass _ _ _ ih =>
    intro cls heq
    exact absurd (ih cls heq) (hclass cls)
  | classLit _ => exact fun cls heq => heq
  | _ => exact nofun

theorem ClassObjectAlone.of_same {a b : Guard} (ha : a.ClassObjectAlone) (h : a.same b = true) :
    b.ClassObjectAlone := by
  intro cls heq
  have horigin := origin_same h
  rw [heq] at horigin
  have hstart : a.origin = .classLit cls := by
    cases hcase : a.origin with
    | classLit other =>
      rw [hcase] at horigin
      simpa [same] using horigin
    | _ =>
      rw [hcase] at horigin
      cases horigin
  rw [ha cls hstart] at h
  cases b with
  | classLit other => exact heq
  | _ => cases h

end Guard

namespace CompilationUnit

variable {unit : CompilationUnit} {scope : Scope} {locals : Locals} {guard : Guard}

/-- What is read of the text of a guard means the guard exactly if the names lead to it. -/
theorem means_of_read_iff {span : Span} {e : Expr} (hknown : guard.FieldsKnown unit.types)
    (hplain : ∀ node ∈ guard.nodes, node.isVerbatim = false)
    (hwords : ∀ name ∈ guard.words, Guard.IsWord name)
    (hread : Guard.read guard.text span = .ok e) :
    (Context.canonical ⟨unit.types, scope, locals⟩ e).same guard = true ↔
      guard.NamedIn ⟨unit.types, scope, locals⟩ := by
  -- Only a guard that selects nothing from a class object is known to be read as it is shown, and
  -- either side says that it selects nothing.
  have hshown : guard.ClassObjectAlone → e = guard.shown span := by
    intro halone
    rw [Guard.read_text span hwords halone] at hread
    exact (Except.ok.inj hread).symm
  constructor
  · intro h
    obtain ⟨phrase, -, rfl⟩ := Guard.read_eq_ok_iff_phrase.mp hread
    have halone := (Context.classObjectAlone_phrase span phrase).of_same h
    rw [hshown halone] at h
    exact (means_shown_iff span hknown hplain halone).mp h
  · intro h
    rw [hshown h.classObjectAlone]
    exact (means_shown_iff span hknown hplain h.classObjectAlone).mpr h

/-- The text of a guard can be read as an expression that means the guard exactly if the names lead
to it. -/
theorem exists_read_iff (span : Span) (hknown : guard.FieldsKnown unit.types)
    (hplain : ∀ node ∈ guard.nodes, node.isVerbatim = false)
    (hwords : ∀ name ∈ guard.words, Guard.IsWord name) :
    (∃ e, Guard.read guard.text span = .ok e ∧
        (Context.canonical ⟨unit.types, scope, locals⟩ e).same guard = true) ↔
      guard.NamedIn ⟨unit.types, scope, locals⟩ := by
  constructor
  · rintro ⟨e, hread, h⟩
    exact (means_of_read_iff hknown hplain hwords hread).mp h
  · intro h
    have hread := Guard.read_text span hwords h.classObjectAlone
    exact ⟨_, hread, (means_of_read_iff hknown hplain hwords hread).mpr h⟩

end CompilationUnit

end LockDiscipline

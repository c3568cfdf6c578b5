-- The search for release calls reads every receiver with the locals in scope where the searched
-- statements begin. The walk reads the same call with those as well that are declared on the way to
-- it: the locals of blocks and loops, and the parameters of handlers. Both mean one lock unless one
-- of these has the name that the receiver starts at.
import LockDiscipline.Proofs.CanonicalForms
import LockDiscipline.Proofs.LexicalLocks
import LockDiscipline.Proofs.Receivers

namespace LockDiscipline

/-! ## The name that an expression starts at -/

/-- The name that a chain of selections starts at, if it starts at a name. -/
def Expr.start? : Expr → Option String
  | .name n _ => some n
  | .select receiver _ _ => receiver.start?
  | _ => none

namespace Context

/-- Of all locals an expression reads at most the one that it starts at. -/
theorem decompose_congr (types : TypeLookup) (scope : Scope) {locals others : Locals} {e : Expr}
    (h : ∀ n, e.start? = some n → locals.lookup n = others.lookup n) :
    decompose ⟨types, scope, locals⟩ e = decompose ⟨types, scope, others⟩ e := by
  induction e using Context.decompose.induct with
  | case1 span => rfl
  | case2 cls span => rfl
  | case3 name span =>
    rw [decompose, decompose, named, named, h name rfl]
    rfl
  | case4 receiver name span ih =>
    rw [decompose, decompose, ih h]
    rfl
  | case5 cls span => rfl
  | case6 e h1 h2 h3 h4 h5 =>
    unfold decompose
    split <;> simp_all

variable {ctx : Context}

/-- A selection starts where its receiver does, or at a static field. -/
theorem depth?_origin_of_selected {receiver : Expr} {base guard : Guard} {name : String}
    (h : ctx.selected receiver base name = some guard) (hbase : base.origin.depth? = none) :
    guard.origin.depth? = none := by
  unfold selected at h
  split at h
  · obtain ⟨owner, f, -, -, rfl⟩ := exists_field_of_staticFieldOf h
    rfl
  · obtain ⟨owner, f, -, -, ⟨-, rfl⟩ | ⟨-, rfl⟩⟩ := exists_field_of_fieldOf h
    · rfl
    · exact hbase

/-- What starts at a local starts at no object around the member. -/
theorem depth?_origin_of_lookup {e : Expr} {n : String} {type : TypeName}
    (hstart : e.start? = some n) (hlocal : ctx.locals.lookup n = some type) :
    (ctx.canonical e).origin.depth? = none := by
  induction e using Expr.start?.induct with
  | case1 name span =>
    cases hstart
    rw [canonical, decompose, named, hlocal]
    rfl
  | case2 receiver name span ih =>
    change ((ctx.selected receiver (ctx.canonical receiver) name).getD
      (.verbatim (Expr.select receiver name span).text none)).origin.depth? = none
    cases hselected : ctx.selected receiver (ctx.canonical receiver) name with
    | none => rfl
    | some guard => exact depth?_origin_of_selected hselected (ih hstart)
  | case3 e h1 h2 =>
    cases e with
    | select receiver name span => exact absurd rfl (h2 receiver name span)
    | name name span => exact absurd rfl (h1 name span)
    | _ => cases hstart

end Context

namespace Setting

variable (setting : Setting)

theorem canonical_congr {locals others : Locals} {e : Expr}
    (h : ∀ n, e.start? = some n → locals.lookup n = others.lookup n) :
    setting.canonical locals e = setting.canonical others e := by
  unfold canonical context Context.canonical
  rw [Context.decompose_congr setting.types setting.scope h]

/-! ## The locals that are declared on a way -/

theorem bindAll_append (inner outer : Locals) (params : List Param) :
    setting.bindAll (inner ++ outer) params = setting.bindAll inner params ++ outer := by
  unfold bindAll
  induction params generalizing inner with
  | nil => rfl
  | cons param rest ih => exact ih (setting.bind inner param.name param.type)

theorem afterAll_locals_append (inner outer : Locals) (stmts : List Stmt) :
    setting.afterAll (inner ++ outer) stmts = setting.afterAll inner stmts ++ outer := by
  induction stmts generalizing inner with
  | nil => rfl
  | cons stmt rest ih =>
    have hstmt : setting.afterStmt (inner ++ outer) stmt =
        setting.afterStmt inner stmt ++ outer := by
      cases stmt <;> rfl
    rw [afterAll_cons, hstmt, ih]
    rfl

/-- A step adds its locals in front, whatever locals there are. -/
theorem localsInto_append (inner outer : Locals) (step : Step) :
    setting.localsInto (inner ++ outer) step = setting.localsInto inner step ++ outer := by
  cases step with
  | within | monitor _ | attempt _ _ | binding _ _ | handler _ _ _ _ => rfl
  | behind before | setUp before => exact setting.afterAll_locals_append inner outer before
  | lambda params => exact setting.bindAll_append inner outer params

/-- The locals at the end of a path are those that are declared on the way, and behind them those at
its beginning. -/
theorem localsAt_eq_append (locals : Locals) (path : Path) :
    setting.localsAt locals path = setting.localsAt [] path ++ locals := by
  induction path with
  | nil => rfl
  | cons step path ih =>
    change setting.localsInto (setting.localsAt locals path) step = _
    rw [ih, localsInto_append]
    rfl

theorem localsAt_append (locals : Locals) (inner outer : Path) :
    setting.localsAt locals (inner ++ outer) =
      setting.localsAt [] inner ++ setting.localsAt locals outer := by
  rw [← localsAt_eq_append]
  exact List.foldr_append

end Setting

/-! ## Statements that are searched -/

namespace Piece

/-- The statements of a piece. -/
def statements : Piece → List Stmt
  | .expr _ => []
  | .stmt s => [s]
  | .block body => body

theorem evaluatedAll_statements (piece : Piece) :
    Stmt.evaluatedAll piece.statements = piece.evaluated := by
  cases piece with
  | expr e => rfl
  | stmt s => exact List.append_nil _
  | block body => rfl

/-- A part of a body whose statements the walk searches for release calls, with the way to it: a
statement of a block, once the walk is behind it, and the statements at the end of a try block. -/
inductive Searched (whole : Piece) : Path → Piece → Prop
  | statement {before : List Stmt} {block : Path} {s : Stmt} :
      StandsAt whole (.behind before :: block) (.stmt s) →
      Searched whole (.behind before :: block) (.stmt s)
  | atEnd {path : Path} {body stmts : List Stmt} {catches : List CatchClause} {span : Span} :
      StandsAt whole path (.stmt (.tryBlock body catches (some stmts) span)) →
      Searched whole (.within :: path) (.block stmts)

theorem Searched.standsAt {whole piece : Piece} {path : Path} (h : Searched whole path piece) :
    StandsAt whole path piece := by
  cases h with
  | statement h => exact h
  | atEnd h =>
    apply StandsAt.part h
    exact List.mem_append_right _ (List.mem_singleton_self _)

end Piece

/-! ## What a release means -/

open Piece (Inside Searched StandsAt)

namespace Context

variable {ctx : Context}

theorem named_of_lookup {n : String} {type : TypeName} (h : ctx.locals.lookup n = some type) :
    ctx.named n = some (.verbatim n (some type)) := by
  rw [named, h]

theorem named_of_lookup_eq_none {n : String} (h : ctx.locals.lookup n = none) :
    ctx.named n = ctx.fieldNamed n := by
  rw [named, h]

/-- A field is known by more than its text. -/
theorem isVerbatim_of_fieldNamed {n : String} {guard : Guard} (h : ctx.fieldNamed n = some guard) :
    guard.isVerbatim = false := by
  obtain ⟨level, frame, f, -, -, ⟨-, rfl⟩ | ⟨-, base, -, rfl⟩⟩ := exists_frame_of_fieldNamed h
  · rfl
  · rfl

end Context

namespace Setting

variable (setting : Setting)

/-- A call that releases what its receiver means stands as a statement at the end of a way into a
piece, and not in a lambda there. -/
structure ReleasesAt (piece : Piece) (inner : Path) (receiver : Expr) (name : String)
    (span : Span) : Prop where
  stands : StandsAt piece inner (.stmt (.evaluate (.call (some receiver) name [] span)))
  noLambda : ∀ step ∈ inner, step.isLambda = false
  releases : setting.vocabulary.releaseMethods.contains name = true

/-- The receiver of a release call means the same to the search, which reads it with the locals
before the statements that it searches, and to the walk, which reads it with those at the call. -/
def ReleasesMeanTheSame : Prop :=
  ∀ (method : MethodDecl) (outer : Path) (piece : Piece),
    Searched (.block method.body) outer piece →
    ∀ (inner : Path) (receiver : Expr) (name : String) (span : Span),
      setting.ReleasesAt piece inner receiver name span →
      let locals := setting.parameters method
      (setting.canonical (setting.localsAt locals outer) receiver ==
        setting.canonical (setting.localsAt locals (inner ++ outer)) receiver) = true

/-- The search finds the release calls inside and takes each receiver for what it means with the
given locals, where that is a lock. -/
theorem mem_released_iff (locals : Locals) (piece : Piece) (lock : Guard) :
    lock ∈ setting.released locals piece.statements ↔
      ∃ inner receiver name span, setting.ReleasesAt piece inner receiver name span ∧
        setting.isLock lock = true ∧ setting.canonical locals receiver = lock := by
  rw [released, Piece.evaluatedAll_statements, List.mem_filterMap]
  constructor
  · rintro ⟨call, hcall, hlock⟩
    obtain ⟨inner, hstands, hinner⟩ :=
      Piece.inside_iff_standsAt.mp ((Piece.mem_evaluated_iff call piece).mp hcall)
    unfold lockCall at hlock
    split at hlock
    · rename_i receiver name span
      dsimp only at hlock
      split at hlock
      · rename_i hreleases
        rw [Bool.and_eq_true] at hreleases
        cases hlock
        exact ⟨inner, receiver, name, span, ⟨hstands, hinner, hreleases.1⟩, hreleases.2, rfl⟩
      · cases hlock
    · cases hlock
  · rintro ⟨inner, receiver, name, span, h, hlock, rfl⟩
    have hinside : Inside (.evaluate (.call (some receiver) name [] span)) piece :=
      Piece.inside_iff_standsAt.mpr ⟨inner, h.stands, h.noLambda⟩
    refine ⟨_, (Piece.mem_evaluated_iff _ piece).mpr hinside, ?_⟩
    rw [lockCall, h.releases, hlock]
    rfl

/-- A bare name means something else behind locals in front of others exactly if one of them has the
name and it meant a field before. -/
theorem canonical_name_beq_iff (declared before : Locals) (n : String) (place : Span) :
    (setting.canonical before (.name n place) ==
        setting.canonical (declared ++ before) (.name n place)) = true ↔
      declared.lookup n = none ∨ (before.lookup n).isSome = true ∨
        (setting.context []).fieldNamed n = none := by
  have hlocal : ∀ {locals : Locals} {type : TypeName}, locals.lookup n = some type →
      setting.canonical locals (.name n place) = .verbatim n (some type) := by
    intro locals type hlookup
    exact Context.canonical_eq_of_decompose (Context.named_of_lookup hlookup)
  -- Of two texts of one name the types do not count, and a field is no text.
  cases hdeclared : declared.lookup n with
  | none =>
    have hsame : setting.canonical (declared ++ before) (.name n place) =
        setting.canonical before (.name n place) := by
      apply setting.canonical_congr
      rintro n' ⟨⟩
      rw [List.lookup_append, hdeclared, Option.none_or]
    rw [hsame]
    exact iff_of_true (Guard.same_refl _) (Or.inl rfl)
  | some type =>
    have hthere : (declared ++ before).lookup n = some type := by
      rw [List.lookup_append, hdeclared, Option.some_or]
    rw [hlocal hthere]
    cases hbefore : before.lookup n with
    | some known =>
      rw [hlocal hbefore]
      exact iff_of_true (beq_self_eq_true n) (Or.inr (Or.inl rfl))
    | none =>
      have hnamed : (setting.context before).named n = (setting.context []).fieldNamed n :=
        Context.named_of_lookup_eq_none hbefore
      cases hfield : (setting.context []).fieldNamed n with
      | none =>
        rw [hfield] at hnamed
        have hform : setting.canonical before (.name n place) = .verbatim n none :=
          Context.canonical_eq_verbatim hnamed
        rw [hform]
        exact iff_of_true (beq_self_eq_true n) (Or.inr (Or.inr rfl))
      | some guard =>
        rw [hfield] at hnamed
        have hform : setting.canonical before (.name n place) = guard :=
          Context.canonical_eq_of_decompose hnamed
        have hguard := Context.isVerbatim_of_fieldNamed hfield
        rw [hform]
        cases guard with
        | verbatim _ _ => cases hguard
        | _ => simp [Guard.same, BEq.beq]

/-- The walk searches the statements of a method for release calls with the locals before them. It
finds the calls inside, outside lambdas, whose receivers are locks to it. Each of them stands in the
method at a place that may have more locals. The receiver means the same there unless its first name
has another meaning there; what started at an object around the method then does so no more. A bare
name means something else exactly if it is the name of one of the further locals, was that of none
before and is that of a field. -/
theorem a_release_means_the_same_unless_its_receiver_is_hidden (method : MethodDecl)
    {outer : Path} {piece : Piece} (h : Searched (.block method.body) outer piece) :
    let locals := setting.parameters method
    let before := setting.localsAt locals outer
    (∀ lock, lock ∈ setting.released before piece.statements ↔
      ∃ inner receiver name span, setting.ReleasesAt piece inner receiver name span ∧
        setting.isLock lock = true ∧ setting.canonical before receiver = lock) ∧
    ∀ inner receiver name span, setting.ReleasesAt piece inner receiver name span →
      let declared := setting.localsAt [] inner
      let there := setting.localsAt locals (inner ++ outer)
      let searched := setting.canonical before receiver
      let walked := setting.canonical there receiver
      StandsAt (.block method.body) (inner ++ outer)
          (.stmt (.evaluate (.call (some receiver) name [] span))) ∧
        there = declared ++ before ∧
        ((∀ n, receiver.start? = some n → there.lookup n = before.lookup n) →
          searched = walked) ∧
        (∀ n, receiver.start? = some n → (declared.lookup n).isSome = true →
          searched.origin.depth?.isSome = true → (searched == walked) = false) ∧
        ∀ n place, receiver = .name n place →
          ((searched == walked) = true ↔
            declared.lookup n = none ∨ (before.lookup n).isSome = true ∨
              (setting.context []).fieldNamed n = none) := by
  intro locals before
  refine ⟨setting.mem_released_iff before piece, ?_⟩
  intro inner receiver name span hrelease declared there searched walked
  have hthere : there = declared ++ before := setting.localsAt_append locals inner outer
  refine ⟨h.standsAt.append hrelease.stands, hthere, ?_, ?_, ?_⟩
  · intro hlocals
    exact setting.canonical_congr fun n hn => (hlocals n hn).symm
  · intro n hstart hdeclared hobject
    obtain ⟨type, htype⟩ := Option.isSome_iff_exists.mp hdeclared
    have hlocal : there.lookup n = some type := by
      rw [hthere, List.lookup_append, htype]
      rfl
    have hwalked : walked.origin.depth? = none :=
      Context.depth?_origin_of_lookup hstart hlocal
    rw [Bool.eq_false_iff]
    intro hsame
    have hdepth := Guard.depth?_eq_of_same (Guard.origin_same hsame)
    rw [hdepth, hwalked] at hobject
    cases hobject
  · rintro n place rfl
    have hiff := setting.canonical_name_beq_iff declared before n place
    rw [← hthere] at hiff
    exact hiff

end Setting

namespace Counter

/-- Declares a local of the name of the field `mu`, and releases the lock in it. -/
def releasesLocal : List Stmt :=
  [.declare "mu" "ReentrantLock" (some (.name "other" .unknown)) .unknown,
    .evaluate (onMu "unlock")]

def readsAndReleasesLocal : MethodDecl :=
  method [⟨"other", "ReentrantLock"⟩] none
    [.evaluate (onMu "lock"), .tryBlock [readX] [] (some releasesLocal) .unknown]

/-- The way to the end of the try block. -/
def toEnd : Path := [.within, .behind [.evaluate (onMu "lock")]]

/-- The way from there to the call. -/
def toUnlock : Path :=
  [.behind [.declare "mu" "ReentrantLock" (some (.name "other" .unknown)) .unknown]]

theorem searched_toEnd :
    Searched (.block readsAndReleasesLocal.body) toEnd (.block releasesLocal) :=
  .atEnd (.part .whole (List.mem_cons_of_mem _ List.mem_cons_self))

theorem releasesAt_toUnlock :
    (setting [readsAndReleasesLocal] readsAndReleasesLocal).ReleasesAt (.block releasesLocal)
      toUnlock (.name "mu" .unknown) "unlock" .unknown where
  stands := .part .whole (List.mem_cons_of_mem _ List.mem_cons_self)
  noLambda := by decide
  releases := by decide +kernel

theorem the_search_takes_a_local_for_the_field_mu :
    let setting := setting [readsAndReleasesLocal] readsAndReleasesLocal
    let locals := setting.parameters readsAndReleasesLocal
    let mine : Expr := .name "mu" .unknown
    mu ∈ setting.released (setting.localsAt locals toEnd) releasesLocal ∧
      (setting.canonical (setting.localsAt locals toEnd) mine ==
        setting.canonical (setting.localsAt locals (toUnlock ++ toEnd)) mine) = false := by
  intro setting locals mine
  have hmeant : setting.canonical (setting.localsAt locals toEnd) mine = mu := by decide +kernel
  have hlock : setting.isLock mu = true := by decide +kernel
  have hobject : mu.origin.depth?.isSome = true := rfl
  obtain ⟨hfound, hmeaning⟩ :=
    setting.a_release_means_the_same_unless_its_receiver_is_hidden _ searched_toEnd
  obtain ⟨-, -, -, hdiffers, -⟩ := hmeaning _ _ _ _ releasesAt_toUnlock
  refine ⟨(hfound mu).mpr ⟨_, _, _, _, releasesAt_toUnlock, hlock, hmeant⟩, ?_⟩
  apply hdiffers "mu" rfl (by decide +kernel)
  rw [hmeant]
  exact hobject

theorem a_release_of_a_local_is_credited_to_the_field :
    let setting := setting [readsAndReleasesLocal] readsAndReleasesLocal
    (setting.accesses readsAndReleasesLocal).map (·.held.locks) = [[mu]] ∧
      ¬ setting.ReleasesMeanTheSame := by
  intro setting
  refine ⟨by decide +kernel, fun h => ?_⟩
  have hsame := h _ _ _ searched_toEnd _ _ _ _ releasesAt_toUnlock
  have hdiffers : (setting.canonical
      (setting.localsAt (setting.parameters readsAndReleasesLocal) toEnd) (.name "mu" .unknown) ==
        setting.canonical
          (setting.localsAt (setting.parameters readsAndReleasesLocal) (toUnlock ++ toEnd))
          (.name "mu" .unknown)) = false := by
    decide +kernel
  exact absurd hsame (by simp [hdiffers])

end Counter

end LockDiscipline

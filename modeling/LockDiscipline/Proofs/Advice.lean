-- An access without its guard is reported, and where no lock is held at all the report advises to
-- wrap the access in a synchronized statement. The lock is written there as messages show guards,
-- by names alone. So the advice helps exactly if the names lead to the lock where the access
-- stands.
import LockDiscipline.Proofs.Accounting
import LockDiscipline.Proofs.RequiredGuards
import LockDiscipline.Proofs.ShownGuards

namespace LockDiscipline

open Piece (Occurrence)

/-! ## The advice -/

/-- The advice to take a lock for an access. -/
def wrapIn (lock : String) : String :=
  "wrap the access in `synchronized (" ++ lock ++ ") \x7b ... \x7d`"

@[simp] theorem Diagnostic.suggestions_attach (diagnostic : Diagnostic) (unit : CompilationUnit)
    (span : Span) : (diagnostic.attach unit span).suggestions = diagnostic.suggestions := by
  unfold attach
  dsimp only
  split <;> rfl

/-- The one thing that is ever advised for an access is to take its guard, where nothing is held. -/
theorem Violation.suggestions_diagnostic (violation : Violation) (unit : CompilationUnit) :
    (violation.diagnostic unit).suggestions =
      if violation.held.isEmpty then [wrapIn violation.guard.text] else [] := by
  unfold Violation.diagnostic
  rw [Diagnostic.suggestions_attach]
  split <;> rfl

/-! ## Following the advice -/

namespace Checker

variable {checker : Checker} {access : Access} {violation : Violation}

/-- An access that is a violation would be none where its guard is held. -/
theorem judge_eq_satisfied_iff (h : checker.violation? access = some violation) (held : HeldSet) :
    checker.judge access.guard held = .satisfied ↔ held.holds access.guard = true := by
  unfold judge
  split
  · rename_i hexcluded
    rw [violation?, judge, if_pos hexcluded] at h
    cases h
  · split <;> simp_all

theorem violation_eq (h : checker.violation? access = some violation) :
    violation.guard = access.guard ∧ violation.held = access.held := by
  unfold violation? at h
  split at h
  · cases h
    exact ⟨rfl, rfl⟩
  · cases h

end Checker

/-- Where nothing was held, a scope with one lock holds that lock and no other. -/
theorem HeldSet.holds_enter_plus {held : HeldSet} (h : held.isEmpty = true) (lock other : Guard) :
    (held.enter.plus lock).holds other = lock.same other := by
  have hlocks : held.locks = [] := List.isEmpty_iff.mp h
  rw [holds_eq_contains, locks_plus, locks_enter, hlocks]
  exact (List.contains_cons.trans (Bool.or_false _)).trans BEq.comm

namespace Setting

variable (setting : Setting)

/-- An expression that needs a guard is an access where it stands. -/
theorem mem_inExpr_of_needs {locals : Locals} {e : Expr} {guard : Guard}
    (h : setting.needs locals e = some guard) (held : HeldSet) :
    ⟨e, guard, held⟩ ∈ setting.inExpr locals held e := by
  have hwalk := setting.inExpr_eq (.opening locals held) e
  have hown : setting.accessOf (.opening locals held) e = some ⟨e, guard, held⟩ :=
    congrArg (Option.map _) h
  rw [hown] at hwalk
  exact hwalk ▸ List.mem_append_right _ (List.mem_singleton_self _)

/-- An access that is wrapped in a synchronized statement holds the lock of the statement, in a
scope of its own. -/
theorem mem_inStmt_synchronized {locals : Locals} {e : Expr} {guard : Guard}
    (h : setting.needs locals e = some guard) (held : HeldSet) (pending : List Guard) (lock : Expr)
    (span : Span) :
    ⟨e, guard, held.enter.plus (setting.canonical locals lock)⟩ ∈
      setting.inStmt locals held pending (.synchronized lock [.evaluate e] span) := by
  rw [inStmt, inBlock, inBlock, List.append_nil, inStmt]
  exact List.mem_append_right _ (setting.mem_inExpr_of_needs h _)

end Setting

/-! ## What is advised in a unit -/

/-- An access of a member of a unit that is reported while nothing is held. -/
structure Advised (unit : CompilationUnit) (options : Options) where
  member : Member
  occurrence : Occurrence
  access : Access
  violation : Violation
  mem_members : member ∈ unit.members
  mem_accesses : access ∈ (unit.setting options member).accesses member.method
  mem_occurrences : occurrence ∈ (Piece.block member.method.body).occurrences []
  accessAt : (unit.setting options member).accessAt
    ((unit.setting options member).start member.method) occurrence = some access
  violates : (options.checker unit.types).violation? access = some violation
  nothingHeld : access.held.isEmpty = true

namespace Advised

variable {unit : CompilationUnit} {options : Options}

/-- The locals in scope at the access. -/
def locals (advised : Advised unit options) : Locals :=
  let setting := unit.setting options advised.member
  setting.localsAt (setting.parameters advised.member.method) advised.occurrence.path

/-- What gives an expression its meaning where the access stands. -/
def context (advised : Advised unit options) : Context :=
  (unit.setting options advised.member).context advised.locals

/-- The diagnostic of the access. -/
def diagnostic (advised : Advised unit options) : Diagnostic := advised.violation.diagnostic unit

/-- Nothing in the guard of the access is known by its text only. -/
def IsPlain (advised : Advised unit options) : Prop :=
  ∀ node ∈ advised.access.guard.nodes, node.isVerbatim = false

/-- The access is to what needs its guard with the locals in scope there. -/
theorem needs (advised : Advised unit options) :
    (unit.setting options advised.member).needs advised.locals advised.access.expr =
      some advised.access.guard := by
  obtain ⟨guard, hneeds, haccess⟩ := Option.map_eq_some_iff.mp advised.accessAt
  rw [Setting.locals_placeAt] at hneeds
  rw [← haccess]
  exact hneeds

/-- The access is reported, with the advice to take its guard. -/
theorem reported (advised : Advised unit options) :
    advised.diagnostic ∈ (unit.check options).diagnostics ∧
      advised.diagnostic.suggestions = [wrapIn advised.access.guard.text] := by
  obtain ⟨hguard, hheld⟩ := Checker.violation_eq advised.violates
  constructor
  · rw [CompilationUnit.diagnostics_check]
    refine List.mem_append_right _ (List.mem_map_of_mem (List.mem_filterMap.mpr ?_))
    refine ⟨advised.access, ?_, advised.violates⟩
    exact List.mem_flatMap.mpr ⟨advised.member, advised.mem_members, advised.mem_accesses⟩
  · rw [diagnostic, Violation.suggestions_diagnostic, hheld, hguard, if_pos advised.nothingHeld]

end Advised

namespace CompilationUnit

variable {unit : CompilationUnit} {options : Options}

/-- Whatever lock a report advises to take, its text is read as an expression that is the lock which
the access needs. -/
def AdviceNamesTheLock (unit : CompilationUnit) (options : Options) : Prop :=
  ∀ advised : Advised unit options, advised.IsPlain →
    ∀ lock, wrapIn lock ∈ advised.diagnostic.suggestions → ∀ span,
      ∃ e, Guard.read lock span = .ok e ∧
        (advised.context.canonical e == advised.access.guard) = true

/-- Every advice for an access that a report gives is to take the guard of such an access. -/
theorem exists_advised {diagnostic : Diagnostic} {suggestion : String}
    (hmem : diagnostic ∈ (unit.check options).diagnostics) (hcode : diagnostic.code = some "E0700")
    (hsuggestion : suggestion ∈ diagnostic.suggestions) :
    ∃ advised : Advised unit options, diagnostic = advised.diagnostic ∧
      suggestion = wrapIn advised.access.guard.text := by
  rw [diagnostics_check, List.mem_append] at hmem
  rcases hmem with hmem | hmem
  · obtain ⟨error, -, rfl⟩ := List.mem_map.mp hmem
    rw [error.code_diagnostic] at hcode
    cases error <;> simp [GuardError.code, ErrorCode.text] at hcode
  · obtain ⟨violation, hviolation, rfl⟩ := List.mem_map.mp hmem
    obtain ⟨access, hevent, hviolates⟩ := List.mem_filterMap.mp hviolation
    obtain ⟨member, hmember, haccess⟩ := List.mem_flatMap.mp hevent
    obtain ⟨occurrence, hoccurs, haccessAt⟩ := Setting.exists_accessAt_of_mem_accesses _ haccess
    obtain ⟨hguard, hheld⟩ := Checker.violation_eq hviolates
    rw [violation.suggestions_diagnostic, hheld, hguard] at hsuggestion
    split at hsuggestion
    · rename_i hnothing
      exact ⟨⟨member, occurrence, access, violation, hmember, haccess, hoccurs, haccessAt,
        hviolates, hnothing⟩, rfl, List.mem_singleton.mp hsuggestion⟩
    · cases hsuggestion

/-- An accepted annotation names fields that are what their names say. -/
theorem fieldsKnown_of_accepted {note : Option GuardNote} {name : String} {scope : Scope}
    {guard : Guard}
    (h : (note.bind fun note => (note.resolve name scope unit.types).toOption) = some guard) :
    guard.FieldsKnown unit.types := by
  obtain ⟨e, -, rfl⟩ := GuardNote.exists_canonical_of_accepted h
  exact fieldsKnown_canonical e

theorem fieldsKnown_of_declares {home : ClassSite} {guard : Guard}
    (h : home.Declares unit.types guard) : guard.FieldsKnown unit.types := by
  rcases h with ⟨field, -, hguard⟩ | ⟨method, -, hguard⟩
  · exact fieldsKnown_of_accepted hguard
  · exact fieldsKnown_of_accepted hguard

/-- The object that a declared guard is rebound to names such fields, too. -/
theorem fieldsKnown_through {member : Member} {locals : Locals} {e : Expr} {required : Requirement}
    (h : (unit.setting options member).Requires locals e required) :
    required.through.FieldsKnown unit.types := by
  cases h with
  | field hcanonical _ =>
    have hknown : Guard.FieldsKnown unit.types
        ((unit.setting options member).canonical locals e) := fieldsKnown_canonical e
    rw [hcanonical] at hknown
    exact hknown.1
  | bareCall _ _ _ =>
    unfold Setting.bareReceiver
    split <;> trivial
  | call _ _ _ => exact fieldsKnown_canonical _
  | _ => trivial

theorem fieldsKnown_of_needs {member : Member} {locals : Locals} {e : Expr} {guard : Guard}
    (h : (unit.setting options member).needs locals e = some guard) :
    guard.FieldsKnown unit.types := by
  obtain ⟨required, hrequires, rfl⟩ := Setting.requires_of_needs h
  obtain ⟨home, -, -, hdeclares⟩ := exists_home hrequires
  exact (fieldsKnown_of_declares hdeclares).rebind (fieldsKnown_through hrequires)

/-- What a report advises for accesses without their guards is to wrap them in statements on the
texts of their guards. Let nothing in such a guard be known by its text only, and let every name in
the text be an identifier and no keyword. Then the text can be read as an expression that means the
guard, where the access stands, exactly if the names lead to the guard there; and whatever is read
of it, the wrapped access is in order exactly if they do. -/
theorem the_advice_helps_exactly_if_its_names_lead_to_the_lock (unit : CompilationUnit)
    (options : Options) :
    (∀ diagnostic ∈ (unit.check options).diagnostics, diagnostic.code = some "E0700" →
        ∀ suggestion ∈ diagnostic.suggestions, ∃ advised : Advised unit options,
          diagnostic = advised.diagnostic ∧ suggestion = wrapIn advised.access.guard.text) ∧
      ∀ advised : Advised unit options, advised.IsPlain →
        (∀ name ∈ advised.access.guard.words, Guard.IsWord name) →
        let text := advised.access.guard.text
        (advised.diagnostic ∈ (unit.check options).diagnostics ∧
          advised.diagnostic.suggestions = [wrapIn text]) ∧
        ∀ span,
          ((∃ e, Guard.read text span = .ok e ∧
              (advised.context.canonical e == advised.access.guard) = true) ↔
            advised.access.guard.NamedIn advised.context) ∧
          ∀ e, Guard.read text span = .ok e →
            let wrapped : Access :=
              ⟨advised.access.expr, advised.access.guard,
                advised.access.held.enter.plus (advised.context.canonical e)⟩
            wrapped ∈ (unit.setting options advised.member).inStmt advised.locals
                advised.access.held [] (.synchronized e [.evaluate advised.access.expr] span) ∧
              ((options.checker unit.types).judge wrapped.guard wrapped.held = .satisfied ↔
                advised.access.guard.NamedIn advised.context) := by
  refine ⟨fun diagnostic hmem hcode suggestion => exists_advised hmem hcode,
    fun advised hplain hwords => ⟨advised.reported, fun span => ?_⟩⟩
  have hknown : advised.access.guard.FieldsKnown unit.types := fieldsKnown_of_needs advised.needs
  refine ⟨exists_read_iff span hknown hplain hwords, fun e hread => ⟨?_, ?_⟩⟩
  · exact Setting.mem_inStmt_synchronized _ advised.needs advised.access.held [] e span
  · rw [Checker.judge_eq_satisfied_iff advised.violates,
      HeldSet.holds_enter_plus advised.nothingHeld]
    exact means_of_read_iff hknown hplain hwords hread

end CompilationUnit

namespace Counter

/-- Reads `x`, and has a parameter of the given name. -/
def readsWith (parameter : String) : MethodDecl := method [⟨parameter, "Object"⟩] none [readX]

/-- What that method is analysed in. -/
def settingWith (parameter : String) : Setting :=
  setting [readsWith parameter] (readsWith parameter)

/-- The access to `x` while nothing is held. -/
def readingX : Access := ⟨.name "x" .unknown, mu, .empty⟩

/-- The violation that the access is. -/
def notHoldingMu : Violation := ⟨.unknown, "x", mu, .empty, violationMessage mu .empty⟩

/-- Where `x` is read. -/
def placeOfX : Occurrence := ⟨[.within, .behind []], .name "x" .unknown⟩

theorem placeOfX_mem_occurrences (parameter : String) :
    placeOfX ∈ (Piece.block (readsWith parameter).body).occurrences [] := by
  have hinner : placeOfX ∈ (Piece.stmt readX).occurrences [.behind []] :=
    Piece.mem_occurrences_of_mem_parts List.mem_cons_self (Piece.self_mem_occurrences _ _)
  exact Piece.mem_occurrences_of_mem_parts List.mem_cons_self hinner

/-- The access is reported with an advice, where the parameter does not hide `x`. -/
def readingIsAdvised (parameter : String)
    (haccesses : (settingWith parameter).accesses (readsWith parameter) = [readingX])
    (haccessAt : (settingWith parameter).accessAt
      ((settingWith parameter).start (readsWith parameter)) placeOfX = some readingX)
    (hviolates : (Options.default.checker (unit [readsWith parameter]).types).violation? readingX =
      some notHoldingMu) :
    Advised (unit [readsWith parameter]) .default where
  member := member [readsWith parameter] (readsWith parameter)
  occurrence := placeOfX
  access := readingX
  violation := notHoldingMu
  mem_members := CompilationUnit.mem_members.mpr ⟨List.mem_cons_self, List.mem_cons_self⟩
  mem_accesses := haccesses ▸ List.mem_cons_self
  mem_occurrences := placeOfX_mem_occurrences parameter
  accessAt := haccessAt
  violates := hviolates
  nothingHeld := rfl

/-- Next to a parameter `other`, the name `mu` is that of the lock. -/
def advisedNextToOther : Advised (unit [readsWith "other"]) .default :=
  readingIsAdvised "other" rfl rfl rfl

/-- Next to a parameter `mu`, it is that of the parameter. -/
def advisedNextToMu : Advised (unit [readsWith "mu"]) .default := readingIsAdvised "mu" rfl rfl rfl

theorem not_isVerbatim_of_mem_nodes_mu : ∀ node ∈ mu.nodes, node.isVerbatim = false := by decide

theorem isWord_of_mem_words_mu : ∀ name ∈ mu.words, Guard.IsWord name := by decide +kernel

theorem the_advice_to_take_mu_helps_next_to_another_parameter :
    let advised := advisedNextToOther
    advised.IsPlain ∧ (∀ name ∈ advised.access.guard.words, Guard.IsWord name) ∧
      advised.diagnostic ∈ ((unit [readsWith "other"]).check .default).diagnostics ∧
      advised.diagnostic.code = some "E0700" ∧
      advised.diagnostic.suggestions = [wrapIn "mu"] ∧
      (∃ reported : Advised (unit [readsWith "other"]) .default,
        advised.diagnostic = reported.diagnostic ∧
          wrapIn "mu" = wrapIn reported.access.guard.text) ∧
      advised.access.guard.NamedIn advised.context ∧
      Guard.read "mu" .unknown = .ok (.name "mu" .unknown) ∧
      (advised.context.canonical (.name "mu" .unknown) == mu) = true ∧
      (Options.default.checker (unit [readsWith "other"]).types).judge mu
          (HeldSet.empty.enter.plus (advised.context.canonical (.name "mu" .unknown))) =
        .satisfied := by
  intro advised
  have hplain : advised.IsPlain := not_isVerbatim_of_mem_nodes_mu
  have hwords : ∀ name ∈ advised.access.guard.words, Guard.IsWord name := isWord_of_mem_words_mu
  have hnamed : advised.access.guard.NamedIn advised.context := .ownField rfl rfl rfl
  have hcode : advised.diagnostic.code = some "E0700" := rfl
  have hread : Guard.read "mu" .unknown = .ok (.name "mu" .unknown) :=
    Guard.read_text .unknown isWord_of_mem_words_mu hnamed.classObjectAlone
  obtain ⟨hfrom, hhelps⟩ :=
    CompilationUnit.the_advice_helps_exactly_if_its_names_lead_to_the_lock
      (unit [readsWith "other"]) .default
  obtain ⟨⟨hmem, hsuggestions⟩, hlock⟩ := hhelps advised hplain hwords
  obtain ⟨e, he, hmeans⟩ := (hlock .unknown).1.mpr hnamed
  cases hread.symm.trans he
  exact ⟨hplain, hwords, hmem, hcode, hsuggestions,
    hfrom _ hmem hcode _ (hsuggestions ▸ List.mem_cons_self), hnamed, hread, hmeans,
    ((hlock .unknown).2 _ hread).2.mpr hnamed⟩

theorem the_advice_to_take_mu_names_a_parameter_of_that_name :
    let unit := unit [readsWith "mu"]
    (∀ name ∈ mu.words, Guard.IsWord name) ∧
      advisedNextToMu.diagnostic.suggestions = [wrapIn "mu"] ∧
      advisedNextToMu.context.canonical (.name "mu" .unknown) = .verbatim "mu" (some .object) ∧
      ¬ unit.AdviceNamesTheLock .default := by
  intro unit
  have hlocal : advisedNextToMu.context.canonical (.name "mu" .unknown) =
      .verbatim "mu" (some .object) := rfl
  have hsuggestions := advisedNextToMu.reported.2
  refine ⟨isWord_of_mem_words_mu, hsuggestions, hlocal, fun h => ?_⟩
  obtain ⟨e, he, hmeans⟩ :=
    h advisedNextToMu not_isVerbatim_of_mem_nodes_mu "mu" (hsuggestions ▸ List.mem_cons_self)
      .unknown
  have hread : Guard.read mu.text .unknown = .ok (mu.shown .unknown) :=
    Guard.read_text .unknown isWord_of_mem_words_mu nofun
  cases hread.symm.trans he
  cases hmeans

end Counter

end LockDiscipline

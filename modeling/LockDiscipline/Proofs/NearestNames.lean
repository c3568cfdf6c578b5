-- Which names are offered for one that nothing carries does not hang on how the known names are
-- listed. Of the names within reach each counts once, the nearest first and those at one distance
-- by their characters, and the first three are offered. It comes to the same to sort all of them
-- with their repeats and then to keep one item of every run of a name: equal names are equally far
-- from what is written, so they stand side by side.
import LockDiscipline.Text.Similar
import LockDiscipline.Proofs.Reordering
import Mathlib.Data.List.Destutter
import Mathlib.Data.List.Sort
import Mathlib.Data.Prod.Lex
import Mathlib.Data.String.Basic

namespace LockDiscipline.Text

/-! ## The order of candidates -/

namespace Candidate

/-- A candidate as a pair, to be compared by its distance first. -/
def rank (candidate : Candidate) : Nat ×ₗ String := toLex (candidate.distance, candidate.name)

theorem rank_injective : Function.Injective rank := by
  rintro ⟨distance, name⟩ ⟨distance', name'⟩ h
  simpa [rank] using h

instance : LinearOrder Candidate := LinearOrder.lift' rank rank_injective

theorem lt_iff {a b : Candidate} :
    a < b ↔ a.distance < b.distance ∨ a.distance = b.distance ∧ a.name < b.name :=
  Prod.Lex.toLex_lt_toLex

theorem precedes_iff_lt {a b : Candidate} : a.precedes b = true ↔ a < b := by
  rw [lt_iff, precedes, Bool.or_eq_true, Bool.and_eq_true, decide_eq_true_iff, beq_iff_eq,
    decide_eq_true_iff]

theorem not_precedes_iff_le {a b : Candidate} : (!b.precedes a) = true ↔ a ≤ b := by
  rw [Bool.not_eq_true', ← Bool.not_eq_true, precedes_iff_lt, not_lt]

end Candidate

theorem insertRanked_eq (candidate : Candidate) (others : List Candidate) :
    insertRanked candidate others = others.orderedInsert (· ≤ ·) candidate := by
  induction others with
  | nil => rfl
  | cons other rest ih =>
    rw [insertRanked, List.orderedInsert_cons, ih]
    by_cases hle : candidate ≤ other
    · rw [if_pos hle, if_neg (by rwa [Candidate.precedes_iff_lt, not_lt])]
    · rw [if_neg hle, if_pos (by rwa [Candidate.precedes_iff_lt, ← not_le])]

theorem ranked_eq (candidates : List Candidate) :
    ranked candidates = candidates.insertionSort (· ≤ ·) := by
  induction candidates with
  | nil => rfl
  | cons candidate rest ih =>
    rw [List.insertionSort_cons, ← ih, ← insertRanked_eq]
    rfl

theorem perm_ranked (candidates : List Candidate) : (ranked candidates).Perm candidates := by
  rw [ranked_eq]
  exact List.perm_insertionSort _ _

theorem pairwise_ranked (candidates : List Candidate) :
    (ranked candidates).Pairwise (· ≤ ·) := by
  rw [ranked_eq]
  exact List.pairwise_insertionSort _ _

/-! ## Names by their distance -/

section

variable {written : String} {names : List String} {reach : Nat}

/-- A name with its distance to what is written. -/
def candidateFor (written name : String) : Candidate :=
  ⟨distance written.toList name.toList, name⟩

theorem candidateFor_injective : Function.Injective (candidateFor written) :=
  fun _ _ h => congrArg Candidate.name h

/-- The first name is nearer to what is written or, at one distance, comes first by its
characters. -/
def Nearer (written first second : String) : Prop :=
  distance written.toList first.toList < distance written.toList second.toList ∨
    distance written.toList first.toList = distance written.toList second.toList ∧ first < second

theorem nearer_iff_lt {first second : String} :
    Nearer written first second ↔ candidateFor written first < candidateFor written second := by
  rw [Candidate.lt_iff]
  rfl

theorem Nearer.asymm {first second : String} (h : Nearer written first second) :
    ¬Nearer written second first := by
  rw [nearer_iff_lt] at h ⊢
  exact h.asymm

theorem nodup_of_pairwise_nearer {ordered : List String} (h : ordered.Pairwise (Nearer written)) :
    ordered.Nodup := by
  refine h.imp ?_
  rintro first _ hnearer rfl
  exact hnearer.asymm hnearer

/-- Only one list has certain names in the order of their distance. -/
theorem eq_of_pairwise_nearer {ordered other : List String}
    (hordered : ordered.Pairwise (Nearer written)) (hother : other.Pairwise (Nearer written))
    (h : ∀ name, name ∈ ordered ↔ name ∈ other) : ordered = other := by
  refine List.Perm.eq_of_pairwise (fun _ _ _ _ hab hba => absurd hba hab.asymm) hordered hother ?_
  exact (List.perm_ext_iff_of_nodup (nodup_of_pairwise_nearer hordered)
    (nodup_of_pairwise_nearer hother)).mpr h

/-- The first name is the second one or is nearer. -/
def NoFurther (written first second : String) : Prop :=
  candidateFor written first ≤ candidateFor written second

instance : Std.Antisymm (NoFurther written) :=
  ⟨fun _ _ hab hba => candidateFor_injective (le_antisymm hab hba)⟩

theorem pairwise_nearer {ordered : List String} (h : ordered.Pairwise (NoFurther written))
    (hnodup : ordered.Nodup) : ordered.Pairwise (Nearer written) := by
  refine (h.and hnodup).imp ?_
  intro first second ⟨hle, hne⟩
  exact nearer_iff_lt.mpr (lt_of_le_of_ne hle (candidateFor_injective.ne hne))

/-! ## The names that may be meant -/

/-- A known name that may be meant by what is written. -/
structure Eligible (written : String) (names : List String) (reach : Nat) (name : String) :
    Prop where
  known : name ∈ names
  differs : name ≠ written
  near : distance written.toList name.toList ≤ reach

theorem Eligible.mono {more : List String} {name : String} (h : names ⊆ more)
    (hname : Eligible written names reach name) : Eligible written more reach name :=
  ⟨h hname.known, hname.differs, hname.near⟩

/-- The list holds the eligible names with their distances and no others. -/
def Lists (written : String) (names : List String) (reach : Nat) (list : List Candidate) : Prop :=
  ∀ candidate, candidate ∈ list ↔
    Eligible written names reach candidate.name ∧ candidateFor written candidate.name = candidate

namespace Lists

variable {list other : List Candidate}

theorem perm (h : Lists written names reach list) (hperm : other.Perm list) :
    Lists written names reach other := by
  intro candidate
  rw [hperm.mem_iff, h candidate]

theorem mem_names_iff (h : Lists written names reach list) {name : String} :
    name ∈ list.map (·.name) ↔ Eligible written names reach name := by
  rw [List.mem_map]
  constructor
  · rintro ⟨candidate, hmem, rfl⟩
    exact ((h candidate).mp hmem).1
  · intro hname
    exact ⟨candidateFor written name, (h _).mpr ⟨hname, rfl⟩, rfl⟩

theorem pairwise_names (h : Lists written names reach list) (hsorted : list.Pairwise (· ≤ ·)) :
    (list.map (·.name)).Pairwise (NoFurther written) := by
  rw [List.pairwise_map]
  refine hsorted.imp_of_mem ?_
  intro a b ha hb hle
  rwa [NoFurther, ((h a).mp ha).2, ((h b).mp hb).2]

end Lists

/-! ## The best names -/

/-- All names that may be meant, the best one first. -/
def best (written : String) (names : List String) (reach : Nat) : List String :=
  (ranked (candidates written names reach)).map (·.name)

theorem similar_eq_take : similar written names reach = (best written names reach).take 3 :=
  List.map_take

theorem lists_candidates :
    Lists written names reach (candidates written names reach) := by
  intro candidate
  simp only [candidates, List.mem_filter, List.mem_map, List.mem_eraseDups, bne_iff_ne,
    decide_eq_true_iff]
  constructor
  · rintro ⟨⟨name, ⟨hknown, hdiffers⟩, rfl⟩, hnear⟩
    exact ⟨⟨hknown, hdiffers, hnear⟩, rfl⟩
  · rintro ⟨⟨hknown, hdiffers, hnear⟩, hcandidate⟩
    rw [← hcandidate]
    exact ⟨⟨candidate.name, ⟨hknown, hdiffers⟩, rfl⟩, hnear⟩

theorem lists_ranked :
    Lists written names reach (ranked (candidates written names reach)) :=
  lists_candidates.perm (perm_ranked _)

theorem mem_best {name : String} :
    name ∈ best written names reach ↔ Eligible written names reach name :=
  lists_ranked.mem_names_iff

theorem nodup_best : (best written names reach).Nodup := by
  have hcandidates : (candidates written names reach).Nodup :=
    (((nodup_eraseDups names).filter _).map candidateFor_injective).filter _
  refine ((perm_ranked _).nodup_iff.mpr hcandidates).map_on ?_
  intro a ha b hb hname
  rw [← ((lists_ranked a).mp ha).2, ← ((lists_ranked b).mp hb).2, hname]

theorem pairwise_best : (best written names reach).Pairwise (Nearer written) :=
  pairwise_nearer (lists_ranked.pairwise_names (pairwise_ranked _)) nodup_best

/-- How often and where a name is listed has no say. -/
theorem best_eq_of_same_names {more : List String} (h : ∀ name, name ∈ more ↔ name ∈ names) :
    best written more reach = best written names reach := by
  refine eq_of_pairwise_nearer pairwise_best pairwise_best ?_
  intro name
  rw [mem_best, mem_best]
  exact ⟨Eligible.mono fun _ => (h _).mp, Eligible.mono fun _ => (h _).mpr⟩

/-! ## Sorting before repeats are dropped -/

/-- The names that may be meant, each as often as it is listed. -/
def hits (written : String) (names : List String) (reach : Nat) : List Candidate :=
  (names.filter (· != written)).filterMap fun name =>
    let far := distance written.toList name.toList
    if far ≤ reach then some ⟨far, name⟩ else none

def sortedHits (written : String) (names : List String) (reach : Nat) : List Candidate :=
  (hits written names reach).mergeSort fun a b => !b.precedes a

/-- The names of all hits in their order, one for each run of a name. -/
def bestOfRuns (written : String) (names : List String) (reach : Nat) : List String :=
  ((sortedHits written names reach).destutter fun a b => a.name ≠ b.name).map (·.name)

theorem lists_sortedHits : Lists written names reach (sortedHits written names reach) := by
  suffices h : Lists written names reach (hits written names reach) from
    h.perm (List.mergeSort_perm _ _)
  intro candidate
  simp only [hits, List.mem_filterMap, List.mem_filter, bne_iff_ne, Option.ite_none_right_eq_some,
    Option.some.injEq]
  constructor
  · rintro ⟨name, ⟨hknown, hdiffers⟩, hnear, rfl⟩
    exact ⟨⟨hknown, hdiffers, hnear⟩, rfl⟩
  · rintro ⟨⟨hknown, hdiffers, hnear⟩, hcandidate⟩
    exact ⟨candidate.name, ⟨hknown, hdiffers⟩, hnear, hcandidate⟩

theorem pairwise_sortedHits : (sortedHits written names reach).Pairwise (· ≤ ·) := by
  have htrans : ∀ a b c : Candidate, (!b.precedes a) = true → (!c.precedes b) = true →
      (!c.precedes a) = true := by
    simp only [Candidate.not_precedes_iff_le]
    exact fun _ _ _ hab hbc => hab.trans hbc
  have htotal : ∀ a b : Candidate, (!b.precedes a || !a.precedes b) = true := by
    simp only [Bool.or_eq_true, Candidate.not_precedes_iff_le]
    exact le_total
  exact (List.pairwise_mergeSort htrans htotal _).imp Candidate.not_precedes_iff_le.mp

/-- Sorted items of one name stand side by side, so no name is left in two runs. -/
theorem bestOfRuns_eq : bestOfRuns written names reach = best written names reach := by
  have hsorted : ((sortedHits written names reach).map (·.name)).Pairwise (NoFurther written) :=
    lists_sortedHits.pairwise_names pairwise_sortedHits
  have hruns : bestOfRuns written names reach =
      ((sortedHits written names reach).map (·.name)).dedup := by
    rw [← hsorted.destutter_eq_dedup]
    exact List.map_destutter fun _ _ _ _ => Iff.rfl
  rw [hruns]
  refine eq_of_pairwise_nearer ?_ pairwise_best ?_
  · exact pairwise_nearer (hsorted.sublist (List.dedup_sublist _)) (List.nodup_dedup _)
  · intro name
    rw [List.mem_dedup, lists_sortedHits.mem_names_iff, mem_best]

end

/-! ## What is offered -/

/-- The names that may be meant are ranked without repeats, and the first three of them or all, if
there are fewer, are offered. Nothing left out comes before what is offered, and neither repeats nor
the order of the known names change the offer. -/
theorem the_best_matches_are_offered (written : String) (names : List String) (reach : Nat) :
    (∃ ordered : List String, ordered.Pairwise (Nearer written) ∧
      (∀ name, name ∈ ordered ↔ Eligible written names reach name) ∧
      similar written names reach = ordered.take 3) ∧
    (similar written names reach).Nodup ∧
    (∀ offered ∈ similar written names reach, Eligible written names reach offered ∧
      ∀ name, Eligible written names reach name → name ∉ similar written names reach →
        Nearer written offered name ∧ ¬Nearer written name offered) ∧
    (∀ more, (∀ name, name ∈ more ↔ name ∈ names) →
      similar written more reach = similar written names reach) ∧
    similar written names reach = (bestOfRuns written names reach).take 3 := by
  refine ⟨⟨best written names reach, pairwise_best, fun _ => mem_best, similar_eq_take⟩,
    ?_, ?_, ?_, ?_⟩
  · rw [similar_eq_take]
    exact (nodup_of_pairwise_nearer pairwise_best).sublist (List.take_sublist _ _)
  · intro offered hoffered
    rw [similar_eq_take] at hoffered ⊢
    refine ⟨mem_best.mp (List.mem_of_mem_take hoffered), ?_⟩
    intro name hname homitted
    have hrest : name ∈ (best written names reach).drop 3 := by
      have hmem := mem_best.mpr hname
      rw [← List.take_append_drop 3 (best written names reach), List.mem_append] at hmem
      exact hmem.resolve_left homitted
    have hsplit : (best written names reach).Pairwise (Nearer written) := pairwise_best
    rw [← List.take_append_drop 3 (best written names reach), List.pairwise_append] at hsplit
    have hnearer := hsplit.2.2 offered hoffered name hrest
    exact ⟨hnearer, hnearer.asymm⟩
  · intro more hsame
    rw [similar_eq_take, similar_eq_take, best_eq_of_same_names hsame]
  · rw [similar_eq_take, bestOfRuns_eq]

/-- Repeats take no place among the three: the two nearest names are listed twice. -/
theorem mu_mux_and_a_are_offered_for_mx :
    let names := ["a", "mux", "mu", "b", "mux", "mx", "count", "mu"]
    similar "mx" names 2 = ["mu", "mux", "a"] ∧
      similar "mx" ["b", "mu", "count", "mx", "a", "mux"] 2 = ["mu", "mux", "a"] ∧
      Eligible "mx" names 2 "b" ∧ Nearer "mx" "a" "b" ∧ Nearer "mx" "mux" "b" := by
  intro names
  obtain ⟨-, -, hbest, hsame, -⟩ := the_best_matches_are_offered "mx" names 2
  have hoffered : similar "mx" names 2 = ["mu", "mux", "a"] := by decide +kernel
  have hb : Eligible "mx" names 2 "b" := ⟨by decide, by decide, by decide +kernel⟩
  have homitted : "b" ∉ similar "mx" names 2 := by
    rw [hoffered]
    decide
  refine ⟨hoffered, ?_, hb, ?_, ?_⟩
  · rw [hsame, hoffered]
    intro name
    simp only [names, List.mem_cons, List.not_mem_nil, or_false]
    tauto
  · exact ((hbest "a" (by rw [hoffered]; decide)).2 "b" hb homitted).1
  · exact ((hbest "mux" (by rw [hoffered]; decide)).2 "b" hb homitted).1

end LockDiscipline.Text

-- A tree is plain if nothing in it can be read in two ways or not at all. Such a tree can be held
-- as a value wherever there is room for the containers inside one another.
import LockDiscipline.Json.Tree
import Mathlib.Algebra.Group.Nat.Defs
import Mathlib.Data.List.Basic

namespace LockDiscipline.Json

/-! ## Plain trees -/

mutual

/-- Whether a tree is whole, its strings and keys are texts, and its numbers are natural ones below
`2 ^ 64`. -/
def Tree.isPlain : Tree → Bool
  | .null | .bool _ => true
  | .number (.natural n) => n < 2 ^ 64
  | .number _ | .broken => false
  | .string s => s.isSome
  | .array items closed => closed && Tree.allPlain items
  | .object members closed => closed && Tree.allMembersPlain members

def Tree.allPlain : List Tree → Bool
  | [] => true
  | tree :: rest => tree.isPlain && Tree.allPlain rest

def Tree.allMembersPlain : List (Text × Tree) → Bool
  | [] => true
  | (key, tree) :: rest => key.isSome && tree.isPlain && Tree.allMembersPlain rest

end

mutual

/-- How many containers stand inside one another in a tree. -/
def Tree.depth : Tree → Nat
  | .null | .bool _ | .number _ | .string _ | .broken => 0
  | .array items _ => Tree.greatestDepth items + 1
  | .object members _ => Tree.greatestMemberDepth members + 1

def Tree.greatestDepth : List Tree → Nat
  | [] => 0
  | tree :: rest => max tree.depth (Tree.greatestDepth rest)

def Tree.greatestMemberDepth : List (Text × Tree) → Nat
  | [] => 0
  | (_, tree) :: rest => max tree.depth (Tree.greatestMemberDepth rest)

end

/-! ## Trees that fit -/

namespace Tree

/-- The tree is plain, and no more containers stand inside one another than there is room for. -/
def Fits (room : Nat) (tree : Tree) : Prop := tree.isPlain = true ∧ tree.depth ≤ room

theorem allPlain_iff (items : List Tree) :
    allPlain items = true ↔ ∀ tree ∈ items, tree.isPlain = true := by
  induction items with
  | nil => simp [allPlain]
  | cons tree rest ih => simp [allPlain, ih]

theorem allMembersPlain_iff (members : List (Text × Tree)) :
    allMembersPlain members = true ↔
      ∀ member ∈ members, member.1.isSome = true ∧ member.2.isPlain = true := by
  induction members with
  | nil => simp [allMembersPlain]
  | cons member rest ih =>
    obtain ⟨key, tree⟩ := member
    simp [allMembersPlain, ih]

theorem greatestDepth_le_iff (items : List Tree) (room : Nat) :
    greatestDepth items ≤ room ↔ ∀ tree ∈ items, tree.depth ≤ room := by
  induction items with
  | nil => simp [greatestDepth]
  | cons tree rest ih => rw [greatestDepth, Nat.max_le, ih, List.forall_mem_cons]

theorem greatestMemberDepth_le_iff (members : List (Text × Tree)) (room : Nat) :
    greatestMemberDepth members ≤ room ↔ ∀ member ∈ members, member.2.depth ≤ room := by
  induction members with
  | nil => simp [greatestMemberDepth]
  | cons member rest ih =>
    obtain ⟨key, tree⟩ := member
    rw [greatestMemberDepth, Nat.max_le, ih, List.forall_mem_cons]

/-- An array fits if its items fit where one more container stands around them. -/
theorem fits_array {room : Nat} {items : List Tree} {closed : Bool}
    (h : (array items closed).Fits room) :
    closed = true ∧ ∃ inner, room = inner + 1 ∧ ∀ tree ∈ items, tree.Fits inner := by
  obtain ⟨hplain, hdepth⟩ := h
  rw [isPlain, Bool.and_eq_true, allPlain_iff] at hplain
  rw [depth] at hdepth
  obtain ⟨inner, rfl⟩ : ∃ inner, room = inner + 1 := ⟨room - 1, by omega⟩
  have hitems := (greatestDepth_le_iff items inner).mp (by omega)
  exact ⟨hplain.1, inner, rfl, fun tree htree => ⟨hplain.2 tree htree, hitems tree htree⟩⟩

/-- An object fits if its keys are texts and its values fit where one more container stands around
them. -/
theorem fits_object {room : Nat} {members : List (Text × Tree)} {closed : Bool}
    (h : (object members closed).Fits room) :
    closed = true ∧ ∃ inner, room = inner + 1 ∧
      ∀ member ∈ members, member.1.isSome = true ∧ member.2.Fits inner := by
  obtain ⟨hplain, hdepth⟩ := h
  rw [isPlain, Bool.and_eq_true, allMembersPlain_iff] at hplain
  rw [depth] at hdepth
  obtain ⟨inner, rfl⟩ : ∃ inner, room = inner + 1 := ⟨room - 1, by omega⟩
  have hmembers := (greatestMemberDepth_le_iff members inner).mp (by omega)
  refine ⟨hplain.1, inner, rfl, fun member hmember => ?_⟩
  obtain ⟨hkey, hvalue⟩ := hplain.2 member hmember
  exact ⟨hkey, hvalue, hmembers member hmember⟩

end Tree

mutual

theorem isHeld_of_fits (tree : Tree) {room : Nat} (h : tree.Fits room) :
    tree.isHeld room = true := by
  cases tree with
  | number value =>
    cases value with
    | natural n => rfl
    | _ => cases h.1
  | string value => exact h.1
  | array items closed =>
    obtain ⟨rfl, inner, rfl, hitems⟩ := Tree.fits_array h
    simp [Tree.isHeld, allHeld_of_fits items hitems]
  | object members closed =>
    obtain ⟨rfl, inner, rfl, hmembers⟩ := Tree.fits_object h
    simp [Tree.isHeld, allMembersHeld_of_fits members hmembers]
  | broken => cases h.1
  | _ => rfl

theorem allHeld_of_fits (items : List Tree) {room : Nat} (h : ∀ tree ∈ items, tree.Fits room) :
    Tree.allHeld room items = true := by
  cases items with
  | nil => rfl
  | cons tree rest =>
    rw [List.forall_mem_cons] at h
    simp [Tree.allHeld, isHeld_of_fits tree h.1, allHeld_of_fits rest h.2]

theorem allMembersHeld_of_fits (members : List (Text × Tree)) {room : Nat}
    (h : ∀ member ∈ members, member.1.isSome = true ∧ member.2.Fits room) :
    Tree.allMembersHeld room members = true := by
  cases members with
  | nil => rfl
  | cons member rest =>
    obtain ⟨key, tree⟩ := member
    rw [List.forall_mem_cons] at h
    simp [Tree.allMembersHeld, h.1.1, isHeld_of_fits tree h.1.2, allMembersHeld_of_fits rest h.2]

end

mutual

/-- What can be held has no fault in its form. -/
theorem isWhole_of_isHeld (tree : Tree) {room : Nat} (h : tree.isHeld room = true) :
    tree.isWhole = true := by
  cases tree with
  | array items closed =>
    simp only [Tree.isHeld, Bool.and_eq_true] at h
    simp [Tree.isWhole, h.1.1, allWhole_of_allHeld items h.2]
  | object members closed =>
    simp only [Tree.isHeld, Bool.and_eq_true] at h
    simp [Tree.isWhole, h.1.1, allMembersWhole_of_allMembersHeld members h.2]
  | broken => cases h
  | _ => rfl

theorem allWhole_of_allHeld (items : List Tree) {room : Nat}
    (h : Tree.allHeld room items = true) : Tree.allWhole items = true := by
  cases items with
  | nil => rfl
  | cons tree rest =>
    simp only [Tree.allHeld, Bool.and_eq_true] at h
    simp [Tree.allWhole, isWhole_of_isHeld tree h.1, allWhole_of_allHeld rest h.2]

theorem allMembersWhole_of_allMembersHeld (members : List (Text × Tree)) {room : Nat}
    (h : Tree.allMembersHeld room members = true) : Tree.allMembersWhole members = true := by
  cases members with
  | nil => rfl
  | cons member rest =>
    obtain ⟨key, tree⟩ := member
    simp only [Tree.allMembersHeld, Bool.and_eq_true] at h
    simp [Tree.allMembersWhole, isWhole_of_isHeld tree h.1.2,
      allMembersWhole_of_allMembersHeld rest h.2]

end

end LockDiscipline.Json

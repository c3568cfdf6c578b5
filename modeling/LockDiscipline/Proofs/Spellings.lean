-- A record has many spellings: an object with its fields in any order and other members between
-- them, or the array of its fields. A field that has the value it gets when it is left out may be
-- left out. Whichever way a record is spelled, its fields are found and read one by one, so a
-- decoder is right if the decoders of its fields are.
import LockDiscipline.Json.Decoder
import LockDiscipline.Proofs.PlainTrees

namespace LockDiscipline.Json

/-! ## Spellings -/

/-- A field of a record with a value. -/
structure Slot where
  name : String
  /-- The tree stands for the value. -/
  Spells : Tree → Prop
  /-- The value is the one that the field has where it is left out. -/
  MayBeAbsent : Prop

namespace Slot

/-- One member of an object gives the field, or none does if the field may be left out. -/
def InMembers (slot : Slot) (members : List (Text × Tree)) : Prop :=
  (slot.MayBeAbsent ∧ members.filter (·.1 == some slot.name) = []) ∨
    ∃ tree, slot.Spells tree ∧ members.filter (·.1 == some slot.name) = [(some slot.name, tree)]

/-- The members that give none of the fields are plain. -/
def OthersPlain (slots : List Slot) (members : List (Text × Tree)) : Prop :=
  ∀ member ∈ members, member.1.isSome = true ∧
    ((∀ slot ∈ slots, member.1 ≠ some slot.name) → member.2.isPlain = true)

/-- The items of an array give the fields in order. Only the last ones may be left out. -/
def InItems : List Slot → List Tree → Prop
  | [], items => items = []
  | slot :: slots, [] => slot.MayBeAbsent ∧ InItems slots []
  | slot :: slots, tree :: items => slot.Spells tree ∧ InItems slots items

end Slot

namespace Tree

def IsText (s : String) (tree : Tree) : Prop := tree = .ofString s

/-- The tree is the value if there is one, and null if there is none. -/
def IsOption {α : Type} (spells : α → Tree → Prop) : Option α → Tree → Prop
  | none => (· = .null)
  | some a => spells a

/-- The tree is an array with the items. -/
def IsList (items : List Tree → Prop) : Tree → Prop
  | .array trees closed => closed = true ∧ items trees
  | _ => False

end Tree

namespace Slot

/-- A text, which may not be left out. -/
def text (name value : String) : Slot := ⟨name, Tree.IsText value, False⟩

/-- A natural number, which may not be left out. -/
def number (name : String) (value : Nat) : Slot := ⟨name, (· = .ofNat value), False⟩

/-- A flag, which is not set where it is left out. -/
def flag (name : String) (value : Bool) : Slot := ⟨name, (· = .bool value), value = false⟩

/-- A value or null, which is null where it is left out. -/
def optional {α : Type} (name : String) (spells : α → Tree → Prop) (value : Option α) : Slot :=
  ⟨name, Tree.IsOption spells value, value = none⟩

/-- A list, which is empty where it is left out. -/
def list {α : Type} (name : String) (spells : α → Tree → Prop) (values : List α) : Slot :=
  ⟨name, Tree.IsList (List.Forall₂ spells values), values = []⟩

@[simp] theorem name_text (name value : String) : (text name value).name = name := rfl

@[simp] theorem name_number (name : String) (value : Nat) : (number name value).name = name := rfl

@[simp] theorem name_flag (name : String) (value : Bool) : (flag name value).name = name := rfl

@[simp] theorem name_optional {α : Type} (name : String) (spells : α → Tree → Prop)
    (value : Option α) : (optional name spells value).name = name := rfl

@[simp] theorem name_list {α : Type} (name : String) (spells : α → Tree → Prop)
    (values : List α) : (list name spells values).name = name := rfl

end Slot

namespace Tree

/-- The tree is a record with the fields: an object, in which other members do not count but are
plain, or an array. -/
def IsRecord (slots : List Slot) : Tree → Prop
  | .object members closed =>
    closed = true ∧ (∀ slot ∈ slots, slot.InMembers members) ∧ Slot.OthersPlain slots members
  | .array items closed => closed = true ∧ Slot.InItems slots items
  | _ => False

/-- The tree is a record whose first field tells its kind. -/
def IsNode (kind : String) (slots : List Slot) : Tree → Prop :=
  IsRecord (.text "kind" kind :: slots)

end Tree

/-! ## Entries -/

namespace Entries

/-- The entries give the field, which has the index, or may leave it out and do so. -/
def Gives (entries : Entries) (index : Nat) (slot : Slot) : Prop :=
  (slot.MayBeAbsent ∧ entries.find? slot.name index = .none) ∨
    ∃ tree position, slot.Spells tree ∧ entries.find? slot.name index = some (tree, position)

/-- The entries give the fields, of which the first has the index. -/
def GivesAll (entries : Entries) : Nat → List Slot → Prop
  | _, [] => True
  | index, slot :: slots => entries.Gives index slot ∧ entries.GivesAll (index + 1) slots

theorem givesAll_append {entries : Entries} {index : Nat} {slots more : List Slot} :
    entries.GivesAll index (slots ++ more) ↔
      entries.GivesAll index slots ∧ entries.GivesAll (index + slots.length) more := by
  induction slots generalizing index with
  | nil => simp [GivesAll]
  | cons slot slots ih =>
    rw [List.cons_append, GivesAll, GivesAll, ih, List.length_cons, and_assoc]
    rw [show index + 1 + slots.length = index + (slots.length + 1) by omega]

/-- What is found of the entries fits. -/
def Fit (room : Nat) (entries : Entries) : Prop :=
  ∀ name index tree position, entries.find? name index = some (tree, position) → tree.Fits room

/-- In an object a field is found by its name alone. -/
theorem find?_members (members : List (Text × Tree)) (name : String) (index : Nat) :
    ((Entries.members members).find? name index).map Prod.fst =
      ((members.filter (·.1 == some name)).head?).map Prod.snd := by
  have hfirst : (members.zipIdx.find? fun entry => entry.1.1 == some name).map Prod.fst =
      (members.filter (·.1 == some name)).head? := by
    rw [List.head?_filter]
    conv => rhs; rw [← List.zipIdx_map_fst 0 members]
    rw [List.find?_map]
    rfl
  rw [← hfirst]
  unfold find?
  rw [Option.map_map, Option.map_map]
  rfl

theorem givesAll_members {members : List (Text × Tree)} {slots : List Slot}
    (h : ∀ slot ∈ slots, slot.InMembers members) (index : Nat) :
    (Entries.members members).GivesAll index slots := by
  induction slots generalizing index with
  | nil => trivial
  | cons slot slots ih =>
    rw [List.forall_mem_cons] at h
    refine ⟨?_, ih h.2 (index + 1)⟩
    have hfind := find?_members members slot.name index
    rcases h.1 with ⟨habsent, hnone⟩ | ⟨tree, hspells, hone⟩
    · rw [hnone] at hfind
      exact Or.inl ⟨habsent, Option.map_eq_none_iff.mp hfind⟩
    · rw [hone] at hfind
      obtain ⟨⟨found, position⟩, hfound, rfl⟩ := Option.map_eq_some_iff.mp hfind
      exact Or.inr ⟨found, position, hspells, hfound⟩

theorem givesAll_items {slots : List Slot} {items : List Tree} {closed : Bool} {expected : String}
    {index : Nat} (h : Slot.InItems slots (items.drop index)) :
    (Entries.items items closed expected).GivesAll index slots := by
  induction slots generalizing index with
  | nil => trivial
  | cons slot slots ih =>
    have hindex : items[index]? = (items.drop index).head? := List.head?_drop.symm
    have hnext : (items.drop index).tail = items.drop (index + 1) := List.tail_drop
    have hfind : (Entries.items items closed expected).find? slot.name index =
        (items.drop index).head?.map (·, index) := by
      rw [← hindex]
      rfl
    cases hrest : items.drop index with
    | nil =>
      rw [hrest] at h hfind hnext
      refine ⟨Or.inl ⟨h.1, hfind⟩, ih ?_⟩
      rw [← hnext]
      exact h.2
    | cons tree rest =>
      rw [hrest] at h hfind hnext
      refine ⟨Or.inr ⟨tree, index, h.1, hfind⟩, ih ?_⟩
      rw [← hnext]
      exact h.2

theorem fit_members {room : Nat} {members : List (Text × Tree)}
    (h : ∀ member ∈ members, member.2.Fits room) : (Entries.members members).Fit room := by
  intro name index tree position hfind
  obtain ⟨⟨member, place⟩, hfound, heq⟩ := Option.map_eq_some_iff.mp hfind
  have hmember : member ∈ members :=
    List.mem_of_getElem? (List.mem_zipIdx_iff_getElem?.mp (List.mem_of_find?_eq_some hfound))
  cases heq
  exact h member hmember

theorem fit_items {room : Nat} {items : List Tree} {closed : Bool} {expected : String}
    (h : ∀ tree ∈ items, tree.Fits room) : (Entries.items items closed expected).Fit room := by
  intro name index tree position hfind
  obtain ⟨found, hfound, heq⟩ := Option.map_eq_some_iff.mp hfind
  cases heq
  exact h tree (List.mem_of_getElem? hfound)

end Entries

/-! ## Fields -/

/-- Where there is room for a tree, and no more room than the limit, the decoder reads the value
from every tree that stands for it. -/
def Decoder.Reads {α : Type} (decoder : Decoder α) (limit : Nat) (spells : Tree → Prop) (a : α) :
    Prop :=
  ∀ place tree, place.room ≤ limit → tree.Fits place.room → spells tree →
    decoder place tree = .ok a

/-- The fields read the value from all entries that give them, up to the limit on room. -/
structure Fields.Reads {α : Type} (fields : Fields α) (limit : Nat) (slots : List Slot) (a : α) :
    Prop where
  names : fields.names = slots.map (·.name)
  read : ∀ entries index place, place.room ≤ limit → entries.Fit place.room →
    entries.GivesAll index slots → fields.read entries index place = .value a

namespace Fields.Reads

variable {α β : Type} {limit : Nat} {slots more : List Slot} {a : α}

theorem pure (a : α) : (Fields.none a).Reads limit [] a where
  names := rfl
  read _ _ _ _ _ _ := rfl

theorem seq {f : Fields (α → β)} {x : Fields α} {g : α → β} (hf : f.Reads limit slots g)
    (hx : x.Reads limit more a) : (f <*> x).Reads limit (slots ++ more) (g a) where
  names := by
    change f.names ++ x.names = _
    rw [hf.names, hx.names, List.map_append]
  read := by
    intro entries index place hroom hfit hgives
    have hlength : f.names.length = slots.length := by rw [hf.names, List.length_map]
    rw [Entries.givesAll_append, ← hlength] at hgives
    change (f.read entries index place).both (x.read entries (index + f.names.length) place) = _
    rw [hf.read entries index place hroom hfit hgives.1,
      hx.read entries _ place hroom hfit hgives.2]
    rfl

theorem map {x : Fields α} (g : α → β) (hx : x.Reads limit slots a) :
    (g <$> x).Reads limit slots (g a) := (pure g).seq hx

theorem required {name : String} {decoder : Decoder α} {spells : Tree → Prop}
    (h : decoder.Reads limit spells a) :
    (Fields.required name decoder).Reads limit [⟨name, spells, False⟩] a where
  names := rfl
  read := by
    intro entries index place hroom hfit hgives
    unfold Fields.required
    rcases hgives.1 with ⟨habsent, -⟩ | ⟨tree, position, hspells, hfind⟩
    · exact habsent.elim
    · dsimp only at hfind ⊢
      rw [hfind]
      dsimp only
      rw [h place tree hroom (hfit _ _ _ _ hfind) hspells]
      rfl

theorem defaulted {name : String} {decoder : Decoder α} {default : α} {spells : Tree → Prop}
    (h : decoder.Reads limit spells a) :
    (Fields.defaulted name decoder default).Reads limit [⟨name, spells, a = default⟩] a where
  names := rfl
  read := by
    intro entries index place hroom hfit hgives
    unfold Fields.defaulted
    rcases hgives.1 with ⟨habsent, hnone⟩ | ⟨tree, position, hspells, hfind⟩
    · dsimp only at hnone habsent ⊢
      rw [hnone, habsent]
    · dsimp only at hfind ⊢
      rw [hfind]
      dsimp only
      rw [h place tree hroom (hfit _ _ _ _ hfind) hspells]
      rfl

end Fields.Reads

/-! ## Records -/

theorem checkMembers_eq {known : List String} {members : List (Text × Tree)} {position : Nat}
    {seen : List String}
    (hplain : ∀ member ∈ members, member.1.isSome = true ∧ member.2.isWhole = true)
    (honce : ∀ name ∈ known, (members.filter (·.1 == some name)).length ≤
      if seen.contains name then 0 else 1) :
    checkMembers known false true position seen members = .value () := by
  induction members generalizing position seen with
  | nil => rfl
  | cons member rest ih =>
    obtain ⟨key, tree⟩ := member
    rw [List.forall_mem_cons] at hplain
    obtain ⟨key, rfl⟩ := Option.isSome_iff_exists.mp hplain.1.1
    have hother : ∀ name ∈ known, name ≠ key → (rest.filter (·.1 == some name)).length ≤
        if seen.contains name then 0 else 1 := by
      intro name hname hne
      have hlength := honce name hname
      rw [List.filter_cons_of_neg] at hlength
      · exact hlength
      · simpa using Ne.symm hne
    rw [checkMembers]
    by_cases hknown : known.contains key = true
    · have hlength := honce key (List.contains_iff_mem.mp hknown)
      rw [List.filter_cons_of_pos (by simp), List.length_cons] at hlength
      have hseen : seen.contains key = false := by
        by_contra h
        rw [if_pos (by simpa using h)] at hlength
        omega
      rw [if_pos hknown, hseen, if_neg Bool.false_ne_true]
      apply ih hplain.2
      intro name hname
      by_cases hsame : name = key
      · rw [hsame, if_pos (by simp)]
        rw [hseen, if_neg Bool.false_ne_true] at hlength
        omega
      · have hcontains : (key :: seen).contains name = seen.contains name := by
          rw [List.contains_cons, beq_false_of_ne hsame, Bool.false_or]
        rw [hcontains]
        exact hother name hname hsame
    · rw [if_neg hknown, if_neg Bool.false_ne_true, if_pos hplain.1.2]
      apply ih hplain.2
      intro name hname
      apply hother name hname
      rintro rfl
      exact hknown (List.contains_iff_mem.mpr hname)

theorem checkItems_eq {slots : List Slot} {items : List Tree} (h : Slot.InItems slots items)
    (place : Place) : checkItems slots.length true place items = .value () := by
  have hlength : items.length ≤ slots.length := by
    induction slots generalizing items with
    | nil => exact Nat.le_of_eq (congrArg List.length h)
    | cons slot slots ih =>
      cases items with
      | nil => exact Nat.zero_le _
      | cons tree items => exact Nat.succ_le_succ (ih h.2)
  unfold checkItems
  rw [if_neg (Nat.not_lt.mpr hlength), if_pos rfl]

namespace Fields.Reads

variable {α : Type} {limit : Nat} {slots : List Slot} {a : α} {fields : Fields α}

theorem fromMembers (h : fields.Reads limit slots a) (place : Place) (hroom : place.room ≤ limit)
    {members : List (Text × Tree)}
    (hfits : ∀ member ∈ members, member.1.isSome = true ∧ member.2.Fits place.room)
    (hslots : ∀ slot ∈ slots, slot.InMembers members) :
    fields.fromMembers false members true place = .ok a := by
  have hwhole : ∀ member ∈ members, member.1.isSome = true ∧ member.2.isWhole = true := by
    intro member hmember
    obtain ⟨hkey, hvalue⟩ := hfits member hmember
    exact ⟨hkey, isWhole_of_isHeld _ (isHeld_of_fits _ hvalue)⟩
  have honce : ∀ name ∈ fields.names, (members.filter (·.1 == some name)).length ≤
      if ([] : List String).contains name then 0 else 1 := by
    intro name hname
    rw [h.names, List.mem_map] at hname
    obtain ⟨slot, hslot, rfl⟩ := hname
    rcases hslots slot hslot with ⟨-, hnone⟩ | ⟨tree, -, hone⟩
    · rw [hnone]
      exact Nat.zero_le _
    · rw [hone]
      exact Nat.le_refl 1
  have hread := h.read (.members members) 0 place hroom
    (Entries.fit_members fun member hmember => (hfits member hmember).2)
    (Entries.givesAll_members hslots 0)
  unfold Fields.fromMembers
  rw [checkMembers_eq hwhole honce, hread]
  rfl

theorem fromItems (h : fields.Reads limit slots a) (place : Place) (hroom : place.room ≤ limit)
    {items : List Tree} (hfits : ∀ tree ∈ items, tree.Fits place.room)
    (hslots : Slot.InItems slots items) (shape : String) :
    fields.fromItems shape items true place = .ok a := by
  have hread := fun expected => h.read (.items items true expected) 0 place hroom
    (Entries.fit_items hfits) (Entries.givesAll_items hslots)
  have hlength : fields.names.length = slots.length := by rw [h.names, List.length_map]
  unfold Fields.fromItems
  rw [hlength, checkItems_eq hslots]
  dsimp only
  rw [hread]
  rfl

end Fields.Reads

namespace Decoder.Reads

variable {α : Type} {limit : Nat} {slots : List Slot} {a : α} {fields : Fields α}

/-- A record is read from all its spellings if its fields are. -/
theorem record (h : fields.Reads limit slots a) (name : String) :
    (Decoder.record name fields false).Reads (limit + 1) (Tree.IsRecord slots) a := by
  rintro ⟨room, isHeld⟩ tree hroom hfits hrecord
  cases tree with
  | object members closed =>
    obtain ⟨rfl, room, rfl, hmembers⟩ := Tree.fits_object hfits
    exact h.fromMembers ⟨room, isHeld⟩ (Nat.le_of_succ_le_succ hroom) hmembers hrecord.2.1
  | array items closed =>
    obtain ⟨rfl, room, rfl, hitems⟩ := Tree.fits_array hfits
    exact h.fromItems ⟨room, isHeld⟩ (Nat.le_of_succ_le_succ hroom) hitems hrecord.2 _
  | _ => exact hrecord.elim

/-- Less room is asked for. -/
theorem mono {decoder : Decoder α} {spells : Tree → Prop} {less : Nat}
    (h : decoder.Reads limit spells a) (hless : less ≤ limit) : decoder.Reads less spells a :=
  fun place tree hroom hfits hspells => h place tree (Nat.le_trans hroom hless) hfits hspells

theorem string (s : String) : Decoder.string.Reads limit (Tree.IsText s) s := by
  rintro place tree - - rfl
  rfl

theorem flag (value : Bool) : Decoder.flag.Reads limit (· = .bool value) value := by
  rintro place tree - - rfl
  rfl

theorem size (n : Nat) : Decoder.size.Reads limit (· = .ofNat n) n := by
  rintro place tree - - rfl
  rfl

theorem word {words : List (String × α)} {name : String} (h : words.lookup name = some a) :
    (Decoder.word words).Reads limit (Tree.IsText name) a := by
  rintro place tree - - rfl
  change Decoder.word.meaning words name = _
  rw [Decoder.word.meaning, h]

/-- A value that is there is read as it is, for no null stands for it. -/
theorem option {decoder : Decoder α} {spells : α → Tree → Prop} {value : Option α}
    (h : ∀ a ∈ value, decoder.Reads limit (spells a) a) (hnull : ∀ a, ¬ spells a .null) :
    (Decoder.nullable decoder).Reads limit (Tree.IsOption spells value) value := by
  intro place tree hroom hfits hspells
  cases value with
  | none =>
    cases hspells
    rfl
  | some a =>
    have hread := h a rfl place tree hroom hfits hspells
    cases tree with
    | null => exact absurd hspells (hnull a)
    | _ =>
      change (decoder place _).map some = _
      rw [hread]
      rfl

theorem text? (s : Option String) :
    (Decoder.nullable Decoder.string).Reads limit (Tree.IsOption Tree.IsText s) s :=
  option (fun s _ => string s) fun _ => nofun

/-- A list is read item by item. -/
theorem list {item : Decoder α} {spells : α → Tree → Prop} {values : List α}
    (h : ∀ value ∈ values, item.Reads limit (spells value) value) :
    (Decoder.list item).Reads limit (Tree.IsList (List.Forall₂ spells values)) values := by
  have hmap : ∀ place : Place, place.room ≤ limit → ∀ trees : List Tree,
      (∀ tree ∈ trees, tree.Fits place.room) → List.Forall₂ spells values trees →
      trees.mapM (item place) = .ok values := by
    intro place hroom trees hfits hspells
    induction hspells with
    | nil => rfl
    | cons hspells _ ih =>
      rw [List.forall_mem_cons] at h hfits
      rw [List.mapM_cons, h.1 place _ hroom hfits.1 hspells, ih h.2 hfits.2]
      rfl
  rintro ⟨room, isHeld⟩ tree hroom hfits hlist
  cases tree with
  | array trees closed =>
    obtain ⟨rfl, room, rfl, htrees⟩ := Tree.fits_array hfits
    have hread := hmap ⟨room, isHeld⟩ (Nat.le_of_succ_le hroom) trees htrees hlist.2
    change (do
      let values ← trees.mapM (item ⟨room, isHeld⟩)
      if true then Except.ok values else .error .malformed) = _
    rw [hread]
    rfl
  | _ => exact hlist.elim

end Decoder.Reads

/-! ## Nodes -/

namespace Variant

variable {α : Type} {variants : List (Variant α)} {variant : Variant α}

theorem ofTag_eq {kind : String} (h : variants.find? (·.tag == kind) = some variant)
    (place : Place) : ofTag variants place (.ofString kind) = .ok variant := by
  change named variants kind = _
  rw [named, h]

/-- The kind of a node is found wherever it stands among the members. -/
theorem ofMembers_eq {kind : String} (h : variants.find? (·.tag == kind) = some variant)
    {place : Place} {members : List (Text × Tree)}
    (hfits : ∀ member ∈ members, member.1.isSome = true ∧ member.2.Fits place.room)
    {found : Option (Variant α)}
    (hkind : (found = some variant ∧ members.filter (·.1 == some "kind") = []) ∨
      (found = none ∧ members.filter (·.1 == some "kind") = [(some "kind", .ofString kind)])) :
    ofMembers variants true place found members = .ok variant := by
  induction members generalizing found with
  | nil =>
    rcases hkind with ⟨rfl, -⟩ | ⟨-, hnil⟩
    · rfl
    · cases hnil
  | cons member rest ih =>
    obtain ⟨key, tree⟩ := member
    rw [List.forall_mem_cons] at hfits
    obtain ⟨key, rfl⟩ := Option.isSome_iff_exists.mp hfits.1.1
    have hheld : (place.isHeld || tree.isHeld place.room) = true := by
      rw [isHeld_of_fits tree hfits.1.2, Bool.or_true]
    rw [ofMembers]
    by_cases hkey : (key == "kind") = true
    · rw [beq_iff_eq] at hkey
      subst hkey
      rw [List.filter_cons_of_pos (by simp)] at hkind
      rcases hkind with ⟨-, hnil⟩ | ⟨rfl, hone⟩
      · cases hnil
      · obtain ⟨htree, hrest⟩ := List.cons.inj hone
        rw [(Prod.mk.inj htree).2, ofTag_eq h]
        exact ih hfits.2 (Or.inl ⟨rfl, hrest⟩)
    · rw [if_neg hkey, if_pos hheld]
      rw [List.filter_cons_of_neg (by simpa using hkey)] at hkind
      exact ih hfits.2 hkind

end Variant

/-- A node is read from all its spellings if the fields of its kind are. -/
theorem Decoder.Reads.tagged {α : Type} {limit : Nat} {slots : List Slot} {a : α}
    {variants : List (Variant α)} {variant : Variant α} {kind : String}
    (hkind : variants.find? (·.tag == kind) = some variant)
    (h : variant.fields.Reads limit slots a) (hnames : "kind" ∉ slots.map (·.name))
    (name : String) :
    (Decoder.tagged name variants).Reads (limit + 1) (Tree.IsNode kind slots) a := by
  rintro ⟨room, isHeld⟩ tree hroom hfits hnode
  cases tree with
  | object members closed =>
    obtain ⟨rfl, room, rfl, hmembers⟩ := Tree.fits_object hfits
    have hslots := hnode.2.1
    rw [List.forall_mem_cons] at hslots
    have hone : members.filter (·.1 == some "kind") = [(some "kind", .ofString kind)] := by
      rcases hslots.1 with ⟨habsent, -⟩ | ⟨tree, rfl, hone⟩
      · exact habsent.elim
      · exact hone
    have hrest : ∀ slot ∈ slots, slot.InMembers (members.filter (·.1 != some "kind")) := by
      intro slot hslot
      have hne : slot.name ≠ "kind" := by
        rintro heq
        exact hnames (heq ▸ List.mem_map_of_mem hslot)
      have hsame : (members.filter (·.1 != some "kind")).filter (·.1 == some slot.name) =
          members.filter (·.1 == some slot.name) := by
        rw [List.filter_filter]
        apply List.filter_congr
        intro member _
        rw [Bool.eq_iff_iff, Bool.and_eq_true, beq_iff_eq, bne_iff_ne, and_iff_left_iff_imp]
        intro hname
        rw [hname]
        simpa using hne
      unfold Slot.InMembers
      rw [hsame]
      exact hslots.2 slot hslot
    have hread := h.fromMembers ⟨room, true⟩ (Nat.le_of_succ_le_succ hroom)
      (fun member hmember => hmembers member (List.mem_filter.mp hmember).1) hrest
    change (do
      let variant ← Variant.ofMembers variants true ⟨room, isHeld⟩ none members
      variant.fields.fromMembers false (members.filter (·.1 != some "kind")) true
        ⟨room, true⟩) = _
    rw [Variant.ofMembers_eq hkind hmembers (Or.inr ⟨rfl, hone⟩)]
    exact hread
  | array items closed =>
    obtain ⟨rfl, room, rfl, hitems⟩ := Tree.fits_array hfits
    cases items with
    | nil => exact hnode.2.1.elim
    | cons tag items =>
      rw [List.forall_mem_cons] at hitems
      have htag : tag = .ofString kind := hnode.2.1
      have hheld : (isHeld || (true && Tree.allHeld room items)) = true := by
        rw [allHeld_of_fits items hitems.2, Bool.and_self, Bool.or_true]
      have hread := h.fromItems ⟨room, true⟩ (Nat.le_of_succ_le_succ hroom) hitems.2
        hnode.2.2 ("struct variant " ++ name ++ "::" ++ variant.label)
      change (do
        let variant ← Variant.ofTag variants ⟨room, isHeld⟩ tag
        if (isHeld || (true && Tree.allHeld room items)) = true then
          variant.fields.fromItems ("struct variant " ++ name ++ "::" ++ variant.label) items true
            ⟨room, true⟩
        else .error .malformed) = _
      rw [htag, Variant.ofTag_eq hkind]
      change (if (isHeld || (true && Tree.allHeld room items)) = true then _ else _) = _
      rw [if_pos hheld]
      exact hread
  | _ => exact hnode.elim

end LockDiscipline.Json

-- A tree that is plain comes back from its words: the containers around a place stand on the stack,
-- and each word does there what the tree says. So a text that holds the words of a tree, with any
-- gaps, is read as that tree.
import LockDiscipline.Json.Reader
import LockDiscipline.Proofs.PlainTrees
import LockDiscipline.Proofs.WrittenWords

namespace LockDiscipline.Json

/-! ## The words of a tree -/

mutual

/-- The words that a closed tree is written with. -/
def Tree.words : Tree → List Token
  | .null => [.null]
  | .bool value => [.bool value]
  | .number value => [.number value]
  | .string value => [.string value]
  | .array [] _ => [.openArray, .closeArray]
  | .array (first :: rest) _ => .openArray :: (first.words ++ Tree.wordsBehind rest)
  | .object [] _ => [.openObject, .closeObject]
  | .object ((key, first) :: rest) _ =>
    .openObject :: .string key :: .colon :: (first.words ++ Tree.memberWordsBehind rest)
  | .broken => [.fault]

/-- The words behind an item of an array, to the end of the array. -/
def Tree.wordsBehind : List Tree → List Token
  | [] => [.closeArray]
  | tree :: rest => .comma :: (tree.words ++ Tree.wordsBehind rest)

/-- The words behind a member of an object, to the end of the object. -/
def Tree.memberWordsBehind : List (Text × Tree) → List Token
  | [] => [.closeObject]
  | (key, tree) :: rest =>
    .comma :: .string key :: .colon :: (tree.words ++ Tree.memberWordsBehind rest)

end

/-- The text is the tree as the writer writes it, with any gaps between the words. -/
def Tree.WrittenAs (tree : Tree) (text : String) : Prop := Layout tree.words text.toList

namespace Tree

theorem words_eq_cons (tree : Tree) :
    ∃ word more, tree.words = word :: more ∧ word ≠ .closeArray := by
  cases tree with
  | array items closed => cases items <;> simp [words]
  | object members closed => cases members <;> simp [words]
  | _ => simp [words]

end Tree

/-! ## From words to the tree -/

mutual

/-- Where a value is due, the words of a plain tree are read as that tree. -/
theorem assemble_words (tree : Tree) (h : tree.isPlain = true) (stack : List Frame)
    (rest : List Token) :
    assemble .value stack (tree.words ++ rest) = assemble (.behind tree) stack rest := by
  cases tree with
  | array items closed =>
    rw [Tree.isPlain, Bool.and_eq_true] at h
    obtain ⟨rfl, hitems⟩ := h
    cases items with
    | nil => simp [Tree.words, assemble]
    | cons first items =>
      rw [Tree.allPlain, Bool.and_eq_true] at hitems
      obtain ⟨word, more, hwords, hclose⟩ := first.words_eq_cons
      have hopen : assemble .value stack ((Tree.array (first :: items) true).words ++ rest) =
          assemble .value (.array [] :: stack)
            (first.words ++ (Tree.wordsBehind items ++ rest)) := by
        rw [Tree.words, hwords]
        simp [assemble, hclose]
      rw [hopen, assemble_words first hitems.1, assemble_wordsBehind items hitems.2]
      rfl
  | object members closed =>
    rw [Tree.isPlain, Bool.and_eq_true] at h
    obtain ⟨rfl, hmembers⟩ := h
    cases members with
    | nil => simp [Tree.words, assemble]
    | cons member members =>
      obtain ⟨key, first⟩ := member
      rw [Tree.allMembersPlain, Bool.and_eq_true, Bool.and_eq_true] at hmembers
      have hopen :
          assemble .value stack ((Tree.object ((key, first) :: members) true).words ++ rest) =
          assemble .value (.object [] key :: stack)
            (first.words ++ (Tree.memberWordsBehind members ++ rest)) := by
        rw [Tree.words]
        simp [assemble]
      rw [hopen, assemble_words first hmembers.1.2, assemble_memberWordsBehind members hmembers.2]
      rfl
  | broken => cases h
  | _ => simp [Tree.words, assemble]

theorem assemble_wordsBehind (items : List Tree) (h : Tree.allPlain items = true) (tree : Tree)
    (before : List Tree) (stack : List Frame) (rest : List Token) :
    assemble (.behind tree) (.array before :: stack) (Tree.wordsBehind items ++ rest) =
      assemble (.behind (.array ((tree :: before).reverse ++ items) true)) stack rest := by
  cases items with
  | nil => simp [Tree.wordsBehind, assemble]
  | cons item items =>
    rw [Tree.allPlain, Bool.and_eq_true] at h
    have hcomma : assemble (.behind tree) (.array before :: stack)
          (Tree.wordsBehind (item :: items) ++ rest) =
        assemble .value (.array (tree :: before) :: stack)
          (item.words ++ (Tree.wordsBehind items ++ rest)) := by
      rw [Tree.wordsBehind]
      simp [assemble]
    rw [hcomma, assemble_words item h.1, assemble_wordsBehind items h.2]
    simp

theorem assemble_memberWordsBehind (members : List (Text × Tree))
    (h : Tree.allMembersPlain members = true) (key : Text) (tree : Tree)
    (before : List (Text × Tree)) (stack : List Frame) (rest : List Token) :
    assemble (.behind tree) (.object before key :: stack)
        (Tree.memberWordsBehind members ++ rest) =
      assemble (.behind (.object (((key, tree) :: before).reverse ++ members) true)) stack
        rest := by
  cases members with
  | nil => simp [Tree.memberWordsBehind, assemble]
  | cons member members =>
    obtain ⟨next, item⟩ := member
    rw [Tree.allMembersPlain, Bool.and_eq_true, Bool.and_eq_true] at h
    have hcomma : assemble (.behind tree) (.object before key :: stack)
          (Tree.memberWordsBehind ((next, item) :: members) ++ rest) =
        assemble .value (.object ((key, tree) :: before) next :: stack)
          (item.words ++ (Tree.memberWordsBehind members ++ rest)) := by
      rw [Tree.memberWordsBehind]
      simp [assemble]
    rw [hcomma, assemble_words item h.1.2, assemble_memberWordsBehind members h.2]
    simp

end

theorem Token.isPlain_string {key : Text} (h : key.isSome = true) : (string key).IsPlain := by
  cases key with
  | none => cases h
  | some s => trivial

mutual

theorem isPlain_of_mem_words {tree : Tree} (h : tree.isPlain = true) :
    ∀ word ∈ tree.words, word.IsPlain := by
  cases tree with
  | number value =>
    cases value with
    | natural n => simpa [Tree.words, Token.IsPlain, Tree.isPlain] using h
    | _ => cases h
  | string value => simpa [Tree.words] using Token.isPlain_string h
  | array items closed =>
    rw [Tree.isPlain, Bool.and_eq_true] at h
    cases items with
    | nil => simp [Tree.words, Token.IsPlain]
    | cons first items =>
      have hitems := h.2
      rw [Tree.allPlain, Bool.and_eq_true] at hitems
      rw [Tree.words, List.forall_mem_cons, List.forall_mem_append]
      exact ⟨trivial, isPlain_of_mem_words hitems.1, isPlain_of_mem_wordsBehind hitems.2⟩
  | object members closed =>
    rw [Tree.isPlain, Bool.and_eq_true] at h
    cases members with
    | nil => simp [Tree.words, Token.IsPlain]
    | cons member members =>
      obtain ⟨key, first⟩ := member
      have hmembers := h.2
      rw [Tree.allMembersPlain, Bool.and_eq_true, Bool.and_eq_true] at hmembers
      simp only [Tree.words, List.forall_mem_cons, List.forall_mem_append]
      exact ⟨trivial, Token.isPlain_string hmembers.1.1, trivial,
        isPlain_of_mem_words hmembers.1.2, isPlain_of_mem_memberWordsBehind hmembers.2⟩
  | broken => cases h
  | _ => simp [Tree.words, Token.IsPlain]

theorem isPlain_of_mem_wordsBehind {items : List Tree} (h : Tree.allPlain items = true) :
    ∀ word ∈ Tree.wordsBehind items, word.IsPlain := by
  cases items with
  | nil => simp [Tree.wordsBehind, Token.IsPlain]
  | cons item items =>
    rw [Tree.allPlain, Bool.and_eq_true] at h
    rw [Tree.wordsBehind, List.forall_mem_cons, List.forall_mem_append]
    exact ⟨trivial, isPlain_of_mem_words h.1, isPlain_of_mem_wordsBehind h.2⟩

theorem isPlain_of_mem_memberWordsBehind {members : List (Text × Tree)}
    (h : Tree.allMembersPlain members = true) :
    ∀ word ∈ Tree.memberWordsBehind members, word.IsPlain := by
  cases members with
  | nil => simp [Tree.memberWordsBehind, Token.IsPlain]
  | cons member members =>
    obtain ⟨key, item⟩ := member
    rw [Tree.allMembersPlain, Bool.and_eq_true, Bool.and_eq_true] at h
    simp only [Tree.memberWordsBehind, List.forall_mem_cons, List.forall_mem_append]
    exact ⟨trivial, Token.isPlain_string h.1.1, trivial, isPlain_of_mem_words h.1.2,
      isPlain_of_mem_memberWordsBehind h.2⟩

end

/-- A text that a plain tree is written as is read as that tree. -/
theorem read_of_writtenAs {tree : Tree} {text : String} (h : tree.isPlain = true)
    (htext : tree.WrittenAs text) : read text = ⟨tree, true⟩ := by
  unfold read
  rw [tokens_of_layout htext (isPlain_of_mem_words h)]
  have hread := assemble_words tree h [] []
  rw [List.append_nil] at hread
  rw [hread]
  rfl

/-! ## The writer -/

/-- A word may stand right before what is laid out, unless two numbers meet. -/
theorem Layout.cons (word : Token) {words : List Token} {text : List Char}
    (hnext : word.isNumber = true → ∀ next ∈ words.head?, next.isNumber = false)
    (h : Layout words text) : Layout (word :: words) (word.chars ++ text) :=
  Layout.word (List.forall_mem_nil _) hnext h

theorem toList_intercalate_cons (first : String) (rest : List String) :
    (",".intercalate (first :: rest)).toList =
      first.toList ++ rest.flatMap fun entry => ',' :: entry.toList := by
  induction rest generalizing first with
  | nil => simp
  | cons next rest ih =>
    rw [String.intercalate_cons_cons, String.toList_append, String.toList_append, ih]
    simp

theorem toList_bracketed_cons (opening closing first : String) (rest : List String) :
    (bracketed opening closing (first :: rest) true).toList =
      opening.toList ++ (first.toList ++
        ((rest.flatMap fun entry => ',' :: entry.toList) ++ closing.toList)) := by
  unfold bracketed
  rw [if_pos rfl, String.toList_append, String.toList_append, toList_intercalate_cons]
  simp

theorem no_number_behind (items : List Tree) (words : List Token) :
    ∀ next ∈ (Tree.wordsBehind items ++ words).head?, next.isNumber = false := by
  cases items <;> simp [Tree.wordsBehind, Token.isNumber]

theorem no_number_behind_member (members : List (Text × Tree)) (words : List Token) :
    ∀ next ∈ (Tree.memberWordsBehind members ++ words).head?, next.isNumber = false := by
  cases members <;> simp [Tree.memberWordsBehind, Token.isNumber]

mutual

/-- The writer lays out the words of a plain tree without gaps. What follows is no number. -/
theorem layout_compact (tree : Tree) (h : tree.isPlain = true) {words : List Token}
    {text : List Char} (hrest : Layout words text)
    (hnext : ∀ next ∈ words.head?, next.isNumber = false) :
    Layout (tree.words ++ words) (tree.compact.toList ++ text) := by
  cases tree with
  | null => exact Layout.cons .null nofun hrest
  | bool value => cases value <;> exact Layout.cons (.bool _) nofun hrest
  | number value => exact Layout.cons (.number value) (fun _ => hnext) hrest
  | string value => exact Layout.cons (.string value) nofun hrest
  | array items closed =>
    rw [Tree.isPlain, Bool.and_eq_true] at h
    obtain ⟨rfl, hitems⟩ := h
    cases items with
    | nil => exact Layout.cons .openArray nofun (Layout.cons .closeArray nofun hrest)
    | cons first items =>
      rw [Tree.allPlain, Bool.and_eq_true] at hitems
      have hbehind := layout_compactItems items hitems.2 hrest
      have hfirst := layout_compact first hitems.1 hbehind (no_number_behind items words)
      rw [Tree.compact, Tree.compactItems, toList_bracketed_cons, Tree.words]
      simpa [Token.chars] using Layout.cons .openArray nofun hfirst
  | object members closed =>
    rw [Tree.isPlain, Bool.and_eq_true] at h
    obtain ⟨rfl, hmembers⟩ := h
    cases members with
    | nil => exact Layout.cons .openObject nofun (Layout.cons .closeObject nofun hrest)
    | cons member members =>
      obtain ⟨key, first⟩ := member
      rw [Tree.allMembersPlain, Bool.and_eq_true, Bool.and_eq_true] at hmembers
      have hbehind := layout_compactMembers members hmembers.2 hrest
      have hfirst := layout_compact first hmembers.1.2 hbehind
        (no_number_behind_member members words)
      have hcolon := Layout.cons .colon nofun hfirst
      have hkey := Layout.cons (.string key) nofun hcolon
      rw [Tree.compact, Tree.compactMembers, toList_bracketed_cons, Tree.words]
      simpa [Token.chars] using Layout.cons .openObject nofun hkey
  | broken => cases h

theorem layout_compactItems (items : List Tree) (h : Tree.allPlain items = true)
    {words : List Token} {text : List Char} (hrest : Layout words text) :
    Layout (Tree.wordsBehind items ++ words)
      (((Tree.compactItems items).flatMap fun entry => ',' :: entry.toList) ++ ']' :: text) := by
  cases items with
  | nil => exact Layout.cons .closeArray nofun hrest
  | cons item items =>
    rw [Tree.allPlain, Bool.and_eq_true] at h
    have hbehind := layout_compactItems items h.2 hrest
    have hitem := layout_compact item h.1 hbehind (no_number_behind items words)
    rw [Tree.compactItems, Tree.wordsBehind]
    simpa [Token.chars] using Layout.cons .comma nofun hitem

theorem layout_compactMembers (members : List (Text × Tree))
    (h : Tree.allMembersPlain members = true) {words : List Token} {text : List Char}
    (hrest : Layout words text) :
    Layout (Tree.memberWordsBehind members ++ words)
      (((Tree.compactMembers members).flatMap fun entry => ',' :: entry.toList) ++
        '\x7d' :: text) := by
  cases members with
  | nil => exact Layout.cons .closeObject nofun hrest
  | cons member members =>
    obtain ⟨key, item⟩ := member
    rw [Tree.allMembersPlain, Bool.and_eq_true, Bool.and_eq_true] at h
    have hbehind := layout_compactMembers members h.2 hrest
    have hitem := layout_compact item h.1.2 hbehind
      (no_number_behind_member members words)
    have hcolon := Layout.cons .colon nofun hitem
    have hkey := Layout.cons (.string key) nofun hcolon
    rw [Tree.compactMembers, Tree.memberWordsBehind]
    simpa [Token.chars] using Layout.cons .comma nofun hkey

end

/-- The writer writes a plain tree as it is. -/
theorem writtenAs_compact {tree : Tree} (h : tree.isPlain = true) :
    tree.WrittenAs tree.compact := by
  have hlayout := layout_compact tree h (Layout.ending (List.forall_mem_nil _)) nofun
  rw [List.append_nil, List.append_nil] at hlayout
  exact hlayout

end LockDiscipline.Json

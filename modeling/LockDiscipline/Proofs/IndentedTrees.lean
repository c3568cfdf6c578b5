-- A tree with one entry a line has the words of the tree, with line breaks and blanks between them.
-- So it says the same as the tree on one line, and is read as the tree it was written from.
import LockDiscipline.Proofs.WrittenTrees

namespace LockDiscipline.Json

/-! ## Gaps -/

/-- A gap may stand before what is laid out. -/
theorem Layout.gap {gap : List Char} (hgap : ∀ c ∈ gap, isGap c = true) {words : List Token}
    {text : List Char} (h : Layout words text) : Layout words (gap ++ text) := by
  cases h with
  | ending hall => exact .ending (List.forall_mem_append.mpr ⟨hgap, hall⟩)
  | word hall hnext hrest =>
    rw [← List.append_assoc]
    exact .word (List.forall_mem_append.mpr ⟨hgap, hall⟩) hnext hrest

theorem isGap_of_mem_lineStart (depth : Nat) :
    ∀ c ∈ (lineStart depth).toList, isGap c = true := by
  intro c hc
  unfold lineStart at hc
  rw [String.toList_append, List.mem_append] at hc
  rcases hc with hc | hc
  · cases List.mem_singleton.mp hc
    rfl
  · rw [String.toList_ofList] at hc
    cases List.eq_of_mem_replicate hc
    rfl

theorem toList_indented_cons (opening closing : String) (depth : Nat) (first : String)
    (rest : List String) :
    (indented opening closing depth (first :: rest)).toList =
      opening.toList ++ ((lineStart (depth + 1)).toList ++ (first.toList ++
        ((rest.flatMap fun entry => ',' :: ((lineStart (depth + 1)).toList ++ entry.toList)) ++
          ((lineStart depth).toList ++ closing.toList)))) := by
  unfold indented
  rw [if_neg (by simp), List.map_cons, String.toList_append, String.toList_append,
    String.toList_append, toList_intercalate_cons, List.flatMap_map]
  simp

/-! ## The writer with one entry a line -/

/-- A key stands in front of its value behind a colon and a blank. -/
theorem layout_member (key : Text) {words : List Token} {text : List Char}
    (h : Layout words text) :
    Layout (.string key :: .colon :: words) ((stringText key).toList ++ (':' :: ' ' :: text)) := by
  have hblank : ∀ c ∈ [' '], isGap c = true := by simp [isGap]
  have hcolon : Layout (.colon :: words) (':' :: ' ' :: text) :=
    Layout.cons .colon (by simp [Token.isNumber]) (h.gap hblank)
  exact Layout.cons (.string key) (by simp [Token.isNumber]) hcolon

mutual

/-- The writer lays out the words of a tree. What follows is no number. -/
theorem layout_prettyAt (tree : Tree) (depth : Nat) {words : List Token} {text : List Char}
    (hrest : Layout words text) (hnext : ∀ next ∈ words.head?, next.isNumber = false) :
    Layout (tree.words ++ words) ((tree.prettyAt depth).toList ++ text) := by
  cases tree with
  | null =>
    simpa [Tree.prettyAt, Tree.compact, Tree.words, Token.chars] using
      Layout.cons .null nofun hrest
  | bool value =>
    cases value with
    | false =>
      simpa [Tree.prettyAt, Tree.compact, Tree.words, Token.chars] using
        Layout.cons (.bool false) nofun hrest
    | true =>
      simpa [Tree.prettyAt, Tree.compact, Tree.words, Token.chars] using
        Layout.cons (.bool true) nofun hrest
  | number value => exact Layout.cons (.number value) (fun _ => hnext) hrest
  | string value => exact Layout.cons (.string value) nofun hrest
  | broken => exact Layout.cons .fault nofun hrest
  | array items closed =>
    cases items with
    | nil =>
      simpa [Tree.prettyAt, Tree.prettyItems, indented, Tree.words, Token.chars] using
        Layout.cons .openArray nofun (Layout.cons .closeArray nofun hrest)
    | cons first items =>
      have hbehind := layout_prettyItems items (depth + 1) (isGap_of_mem_lineStart depth) hrest
      have hfirst := layout_prettyAt first (depth + 1) hbehind (no_number_behind items words)
      rw [Tree.prettyAt, Tree.prettyItems, toList_indented_cons, Tree.words]
      simpa [Token.chars] using
        Layout.cons .openArray nofun (hfirst.gap (isGap_of_mem_lineStart _))
  | object members closed =>
    cases members with
    | nil =>
      simpa [Tree.prettyAt, Tree.prettyMembers, indented, Tree.words, Token.chars] using
        Layout.cons .openObject nofun (Layout.cons .closeObject nofun hrest)
    | cons member members =>
      obtain ⟨key, first⟩ := member
      have hbehind := layout_prettyMembers members (depth + 1) (isGap_of_mem_lineStart depth) hrest
      have hfirst := layout_prettyAt first (depth + 1) hbehind
        (no_number_behind_member members words)
      have hkey := layout_member key hfirst
      rw [Tree.prettyAt, Tree.prettyMembers, toList_indented_cons, Tree.words]
      simpa [Token.chars] using
        Layout.cons .openObject nofun (hkey.gap (isGap_of_mem_lineStart _))

theorem layout_prettyItems (items : List Tree) (depth : Nat) {gap : List Char}
    (hgap : ∀ c ∈ gap, isGap c = true) {words : List Token} {text : List Char}
    (hrest : Layout words text) :
    Layout (Tree.wordsBehind items ++ words)
      (((Tree.prettyItems depth items).flatMap fun entry =>
        ',' :: ((lineStart depth).toList ++ entry.toList)) ++ (gap ++ ']' :: text)) := by
  cases items with
  | nil => exact (Layout.cons .closeArray nofun hrest).gap hgap
  | cons item items =>
    have hbehind := layout_prettyItems items depth hgap hrest
    have hitem := layout_prettyAt item depth hbehind (no_number_behind items words)
    rw [Tree.prettyItems, Tree.wordsBehind]
    simpa [Token.chars] using Layout.cons .comma nofun (hitem.gap (isGap_of_mem_lineStart _))

theorem layout_prettyMembers (members : List (Text × Tree)) (depth : Nat) {gap : List Char}
    (hgap : ∀ c ∈ gap, isGap c = true) {words : List Token} {text : List Char}
    (hrest : Layout words text) :
    Layout (Tree.memberWordsBehind members ++ words)
      (((Tree.prettyMembers depth members).flatMap fun entry =>
        ',' :: ((lineStart depth).toList ++ entry.toList)) ++ (gap ++ '\x7d' :: text)) := by
  cases members with
  | nil => exact (Layout.cons .closeObject nofun hrest).gap hgap
  | cons member members =>
    obtain ⟨key, item⟩ := member
    have hbehind := layout_prettyMembers members depth hgap hrest
    have hitem := layout_prettyAt item depth hbehind (no_number_behind_member members words)
    have hkey := layout_member key hitem
    rw [Tree.prettyMembers, Tree.memberWordsBehind]
    simpa [Token.chars] using Layout.cons .comma nofun (hkey.gap (isGap_of_mem_lineStart _))

end

/-- The writer writes the tree as it is, and so it does at the end of a line. -/
theorem writtenAs_pretty (tree : Tree) : tree.WrittenAs (tree.pretty ++ "\n") := by
  have hbreak : ∀ c ∈ ['\n'], isGap c = true := by simp [isGap]
  have hlayout := layout_prettyAt tree 0 (Layout.ending hbreak) nofun
  rw [List.append_nil] at hlayout
  unfold Tree.WrittenAs Tree.pretty
  rw [String.toList_append]
  exact hlayout

end LockDiscipline.Json

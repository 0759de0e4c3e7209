import SeriesGateway.Proofs.Text.Fields
import SeriesGateway.Target

/-! # Reversed paths

Reversing a path reverses its nodes and leaves its tags where they are. Doing so twice
gives the path, so distinct paths stay distinct when their nodes are reversed.
-/

namespace SeriesGateway.Path

/-- The nodes of a path from last to first. -/
def reverseName (name : List Char) : List Char :=
  Text.join '.' (Text.fields '.' name).reverse

theorem reverseName_reverseName (name : List Char) : reverseName (reverseName name) = name := by
  have hnodes : (Text.fields '.' name).reverse ≠ [] := by
    simpa using Text.fields_ne_nil '.' name
  have hfree : ∀ node ∈ (Text.fields '.' name).reverse, '.' ∉ node := fun node hnode =>
    Text.not_mem_of_mem_fields (List.mem_reverse.mp hnode)
  rw [reverseName, reverseName, Text.fields_join hnodes hfree, List.reverse_reverse,
    Text.join_fields]

theorem mem_reverseName_iff {c : Char} (hc : c ≠ '.') (name : List Char) :
    c ∈ reverseName name ↔ c ∈ name := by
  have hname : c ∈ name ↔ c ∈ Text.join '.' (Text.fields '.' name) := by rw [Text.join_fields]
  rw [hname, reverseName, Text.mem_join_iff hc, Text.mem_join_iff hc]
  simp only [List.mem_reverse]

/-- Every path is a name without a question mark and what follows the name. -/
theorem exists_name (path : List Char) :
    ∃ name tags, path = name ++ tags ∧ '?' ∉ name ∧ (tags = [] ∨ ∃ rest, tags = '?' :: rest) := by
  induction path with
  | nil => exact ⟨[], [], rfl, List.not_mem_nil, .inl rfl⟩
  | cons c path ih =>
      by_cases hmark : c = '?'
      · exact ⟨[], c :: path, rfl, List.not_mem_nil, .inr ⟨path, by rw [hmark]⟩⟩
      · obtain ⟨name, tags, rfl, hname, htags⟩ := ih
        refine ⟨c :: name, tags, rfl, ?_, htags⟩
        rw [List.mem_cons, not_or]
        exact ⟨Ne.symm hmark, hname⟩

/-- Only the name is reversed. -/
theorem reverseNodes_append {name tags : List Char} (hname : '?' ∉ name)
    (htags : tags = [] ∨ ∃ rest, tags = '?' :: rest) :
    reverseNodes (name ++ tags) = reverseName name ++ tags := by
  have hunmarked : ∀ c ∈ name, (c != '?') = true := by
    intro c hc
    rw [bne_iff_ne]
    rintro rfl
    exact hname hc
  rw [reverseNodes, List.takeWhile_append_of_pos hunmarked, List.dropWhile_append_of_pos hunmarked]
  rcases htags with rfl | ⟨rest, rfl⟩
  · rw [List.takeWhile_nil, List.append_nil, List.dropWhile_nil, reverseName]
  · rw [List.takeWhile_cons_of_neg (by decide), List.append_nil,
      List.dropWhile_cons_of_neg (by decide), reverseName]

theorem reverseNodes_reverseNodes (path : List Char) : reverseNodes (reverseNodes path) = path := by
  obtain ⟨name, tags, rfl, hname, htags⟩ := exists_name path
  have hreversed : '?' ∉ reverseName name := by
    rwa [mem_reverseName_iff (by decide)]
  rw [reverseNodes_append hname htags, reverseNodes_append hreversed htags, reverseName_reverseName]

theorem reverse_reverse (path : String) : reverse (reverse path) = path := by
  rw [reverse, reverse, String.toList_ofList, reverseNodes_reverseNodes, String.ofList_toList]

/-- A path of dot-separated nodes and of the tags behind them. -/
structure Consists (nodes : List (List Char)) (tags : List Char) (path : String) : Prop where
  nodes_ne_nil : nodes ≠ []
  dot_free : ∀ node ∈ nodes, '.' ∉ node
  mark_free : ∀ node ∈ nodes, '?' ∉ node
  tags_eq : tags = [] ∨ ∃ rest, tags = '?' :: rest
  text_eq : path.toList = Text.join '.' nodes ++ tags

theorem exists_consists (path : String) : ∃ nodes tags, Consists nodes tags path := by
  obtain ⟨name, tags, hpath, hname, htags⟩ := exists_name path.toList
  refine ⟨Text.fields '.' name, tags, Text.fields_ne_nil '.' name,
    fun node hnode => Text.not_mem_of_mem_fields hnode, fun node hnode hmark => hname ?_, htags, ?_⟩
  · rw [← Text.join_fields '.' name, Text.mem_join_iff (by decide)]
    exact ⟨node, hnode, hmark⟩
  · rw [Text.join_fields, hpath]

/-- The nodes are reversed and the tags stay. -/
theorem Consists.reverse {nodes : List (List Char)} {tags : List Char} {path : String}
    (h : Consists nodes tags path) : Consists nodes.reverse tags (reverse path) where
  nodes_ne_nil := by simpa using h.nodes_ne_nil
  dot_free node hnode := h.dot_free node (List.mem_reverse.mp hnode)
  mark_free node hnode := h.mark_free node (List.mem_reverse.mp hnode)
  tags_eq := h.tags_eq
  text_eq := by
    have hname : '?' ∉ Text.join '.' nodes := by
      rw [Text.mem_join_iff (by decide)]
      rintro ⟨node, hnode, hmark⟩
      exact h.mark_free node hnode hmark
    rw [Path.reverse, String.toList_ofList, h.text_eq, reverseNodes_append hname h.tags_eq,
      reverseName, Text.fields_join h.nodes_ne_nil h.dot_free]

/-- A path and its reversal have the same characters. -/
theorem mem_reverse_iff {c : Char} (hc : c ≠ '.') (path : String) :
    c ∈ (reverse path).toList ↔ c ∈ path.toList := by
  obtain ⟨name, tags, hpath, hname, htags⟩ := exists_name path.toList
  rw [reverse, String.toList_ofList, hpath, reverseNodes_append hname htags, List.mem_append,
    List.mem_append, mem_reverseName_iff hc]

theorem reverse_inj {first second : String} (h : reverse first = reverse second) :
    first = second := by
  rw [← reverse_reverse first, h, reverse_reverse]

end SeriesGateway.Path

namespace SeriesGateway.TargetGroup

/-- Distinct metrics have distinct storage paths. -/
theorem storagePath_inj (group : TargetGroup) {first second : String}
    (h : group.storagePath first = group.storagePath second) : first = second := by
  unfold storagePath at h
  split at h
  next => exact Path.reverse_inj h
  next => exact h

end SeriesGateway.TargetGroup

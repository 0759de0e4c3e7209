import SeriesGateway.Text.Fields

/-! # Cutting and joining

Fields that hold no separator are what a text is cut into when they are joined,
and joining the fields of a text gives the text. A cut at the first separator has
none in front of it.
-/

namespace SeriesGateway.Text

variable {sep : Char}

theorem fields_ne_nil (sep : Char) (text : List Char) : fields sep text ≠ [] := by
  cases text with
  | nil => exact List.cons_ne_nil _ _
  | cons c rest =>
      rw [fields]
      split
      next => exact List.cons_ne_nil _ _
      next => split <;> exact List.cons_ne_nil _ _

/-- A character in front of a text that does not separate belongs to its first field. -/
theorem fields_cons_of_ne {c : Char} (hsep : c ≠ sep) (rest : List Char) :
    ∃ field more, fields sep rest = field :: more ∧
      fields sep (c :: rest) = (c :: field) :: more := by
  rw [fields, if_neg hsep]
  cases hrest : fields sep rest with
  | nil => exact absurd hrest (fields_ne_nil sep rest)
  | cons field more => exact ⟨field, more, rfl, rfl⟩

theorem fields_cons_sep (sep : Char) (rest : List Char) :
    fields sep (sep :: rest) = [] :: fields sep rest := by
  rw [fields, if_pos rfl]

theorem join_cons_of_ne_nil (field : List Char) {more : List (List Char)} (hmore : more ≠ []) :
    join sep (field :: more) = field ++ sep :: join sep more := by
  cases more with
  | nil => exact absurd rfl hmore
  | cons => rfl

theorem join_fields (sep : Char) (text : List Char) : join sep (fields sep text) = text := by
  induction text with
  | nil => rfl
  | cons c rest ih =>
      by_cases hsep : c = sep
      · subst hsep
        rw [fields_cons_sep, join_cons_of_ne_nil _ (fields_ne_nil c rest), ih, List.nil_append]
      · obtain ⟨field, more, hrest, hfields⟩ := fields_cons_of_ne hsep rest
        rw [hrest] at ih
        rw [hfields, ← ih]
        cases more with
        | nil => rfl
        | cons => rfl

theorem not_mem_of_mem_fields {text field : List Char} (hfield : field ∈ fields sep text) :
    sep ∉ field := by
  induction text generalizing field with
  | nil =>
      obtain rfl := List.mem_singleton.mp hfield
      exact List.not_mem_nil
  | cons c rest ih =>
      by_cases hsep : c = sep
      · subst hsep
        rw [fields_cons_sep] at hfield
        rcases List.mem_cons.mp hfield with rfl | hrest
        · exact List.not_mem_nil
        · exact ih hrest
      · obtain ⟨first, more, hrest, hfields⟩ := fields_cons_of_ne hsep rest
        rw [hfields] at hfield
        rcases List.mem_cons.mp hfield with rfl | hmore
        · have hfirst := ih (hrest ▸ List.mem_cons_self)
          rw [List.mem_cons, not_or]
          exact ⟨Ne.symm hsep, hfirst⟩
        · exact ih (hrest ▸ List.mem_cons_of_mem _ hmore)

/-- Characters that do not separate join the first field of what follows. -/
theorem fields_append {front : List Char} (hfront : sep ∉ front) {rest field : List Char}
    {more : List (List Char)} (hrest : fields sep rest = field :: more) :
    fields sep (front ++ rest) = (front ++ field) :: more := by
  induction front with
  | nil => exact hrest
  | cons c front ih =>
      rw [List.mem_cons, not_or] at hfront
      rw [List.cons_append, fields, if_neg (Ne.symm hfront.1), ih hfront.2]
      rfl

theorem fields_append_sep {field : List Char} (hfield : sep ∉ field) (rest : List Char) :
    fields sep (field ++ sep :: rest) = field :: fields sep rest := by
  rw [fields_append hfield (fields_cons_sep sep rest), List.append_nil]

theorem fields_of_not_mem {field : List Char} (hfield : sep ∉ field) :
    fields sep field = [field] := by
  have hfields : fields sep (field ++ []) = [field ++ []] := fields_append hfield rfl
  rwa [List.append_nil] at hfields

theorem fields_join {texts : List (List Char)} (htexts : texts ≠ [])
    (hfree : ∀ text ∈ texts, sep ∉ text) : fields sep (join sep texts) = texts := by
  induction texts with
  | nil => exact absurd rfl htexts
  | cons text more ih =>
      obtain ⟨htext, hmore⟩ := List.forall_mem_cons.mp hfree
      cases more with
      | nil => exact fields_of_not_mem htext
      | cons next more =>
          rw [join, fields_append_sep htext, ih (List.cons_ne_nil _ _) hmore]
          exact nofun

/-- What a text is joined from is found in it, apart from separators. -/
theorem mem_join_iff {c : Char} (hc : c ≠ sep) (texts : List (List Char)) :
    c ∈ join sep texts ↔ ∃ text ∈ texts, c ∈ text := by
  induction texts with
  | nil => simp [join]
  | cons text more ih =>
      cases more with
      | nil => simp [join]
      | cons next more =>
          rw [join_cons_of_ne_nil _ (List.cons_ne_nil _ _), List.mem_append, List.mem_cons, ih]
          simp [hc]

/-! ## Cuts at the first separator -/

theorem cut?_append_sep {before : List Char} (hbefore : sep ∉ before) (after : List Char) :
    cut? sep (before ++ sep :: after) = some (before, after) := by
  induction before with
  | nil => exact if_pos rfl
  | cons c before ih =>
      rw [List.mem_cons, not_or] at hbefore
      rw [List.cons_append, cut?, if_neg (Ne.symm hbefore.1), ih hbefore.2]
      rfl

theorem cut?_eq_none_iff {text : List Char} : cut? sep text = none ↔ sep ∉ text := by
  constructor
  · intro hcut hmem
    obtain ⟨before, after, rfl, hbefore⟩ := List.eq_append_cons_of_mem hmem
    rw [cut?_append_sep hbefore] at hcut
    exact nomatch hcut
  · intro hfree
    induction text with
    | nil => rfl
    | cons c rest ih =>
        rw [List.mem_cons, not_or] at hfree
        rw [cut?, if_neg (Ne.symm hfree.1), ih hfree.2]
        rfl

end SeriesGateway.Text

import SeriesGateway.Plan.MetricList

/-! # Reading metric lists

A path is written without separators, so a table has a line for each path, and undoing
the escapes of its lines gives back the paths in order.
-/

namespace SeriesGateway.Plan

/-- The character that an escape stands for. -/
def unescapeChar (c : Char) : Char :=
  if c = 't' then '\t' else if c = 'n' then '\n' else if c = 'r' then '\r' else c

/-- Undoes the escapes of a line. -/
def unescape : List Char → List Char
  | [] => []
  | '\\' :: c :: rest => unescapeChar c :: unescape rest
  | c :: rest => c :: unescape rest

/-- The paths of a table as they are read from its lines. -/
def ExternalTable.paths (table : ExternalTable) : List String :=
  (lines table.body.toList).map fun line => String.ofList (unescape line)

theorem unescape_escape (path : List Char) : unescape (escape path) = path := by
  induction path with
  | nil => rfl
  | cons c path ih =>
      rw [escape, List.flatMap_cons, ← escape]
      by_cases hbackslash : c = '\\'
      · simp [escapeChar, hbackslash, unescape, unescapeChar, ih]
      by_cases htab : c = '\t'
      · simp [escapeChar, htab, unescape, unescapeChar, ih]
      by_cases hnewline : c = '\n'
      · simp [escapeChar, hnewline, unescape, unescapeChar, ih]
      by_cases hreturn : c = '\r'
      · simp [escapeChar, hreturn, unescape, unescapeChar, ih]
      · simp [escapeChar, hbackslash, htab, hnewline, hreturn, unescape, ih]

/-- No tab, line end or carriage return is written as it is. -/
theorem not_mem_escapeChar {separator : Char}
    (hseparator : separator = '\t' ∨ separator = '\n' ∨ separator = '\r') (c : Char) :
    separator ∉ escapeChar c := by
  unfold escapeChar
  rcases hseparator with rfl | rfl | rfl
  all_goals repeat' split
  all_goals simp_all [eq_comm]

theorem not_mem_escape {separator : Char}
    (hseparator : separator = '\t' ∨ separator = '\n' ∨ separator = '\r') (path : List Char) :
    separator ∉ escape path := by
  rw [escape, List.mem_flatMap]
  rintro ⟨c, -, hc⟩
  exact not_mem_escapeChar hseparator c hc

/-! ## Lines -/

/-- A text consists of lines if it is their concatenation with a line end behind each
one and none inside of them. -/
def ConsistsOfLines (text : List Char) (parts : List (List Char)) : Prop :=
  (∀ line ∈ parts, '\n' ∉ line) ∧ text = parts.flatMap (· ++ ['\n'])

/-- A line in front of a line end is read whole. -/
theorem lines_append_newline {line : List Char} (hline : '\n' ∉ line) (rest : List Char) :
    lines (line ++ '\n' :: rest) = line :: lines rest := by
  induction line with
  | nil => rw [List.nil_append, lines, if_pos rfl]
  | cons c line ih =>
      rw [List.mem_cons, not_or] at hline
      rw [List.cons_append, lines, if_neg (Ne.symm hline.1), ih hline.2]

/-- There is one way to cut a text behind each of its line ends. -/
theorem ConsistsOfLines.lines_eq {text : List Char} {parts : List (List Char)}
    (h : ConsistsOfLines text parts) : lines text = parts := by
  obtain ⟨hfree, rfl⟩ := h
  induction parts with
  | nil => rfl
  | cons line parts ih =>
      obtain ⟨hline, hparts⟩ := List.forall_mem_cons.mp hfree
      rw [List.flatMap_cons, List.append_assoc, List.singleton_append, lines_append_newline hline,
        ih hparts]

theorem ConsistsOfLines.count_newline {text : List Char} {parts : List (List Char)}
    (h : ConsistsOfLines text parts) : text.count '\n' = parts.length := by
  obtain ⟨hfree, rfl⟩ := h
  induction parts with
  | nil => rfl
  | cons line parts ih =>
      obtain ⟨hline, hparts⟩ := List.forall_mem_cons.mp hfree
      rw [List.flatMap_cons, List.count_append, List.count_append, ih hparts,
        List.count_eq_zero.mpr hline, List.count_singleton_self, List.length_cons]
      omega

namespace ExternalTable

theorem consists_ofPaths (paths : List String) :
    ConsistsOfLines (ofPaths paths).body.toList (paths.map fun path => escape path.toList) := by
  rw [ConsistsOfLines, List.forall_mem_map, List.flatMap_map, ofPaths, String.toList_ofList]
  exact ⟨fun path _ => not_mem_escape (.inr (.inl rfl)) _, rfl⟩

/-- The paths of a table are those it was made of, in order. -/
theorem paths_ofPaths (paths : List String) : (ofPaths paths).paths = paths := by
  rw [ExternalTable.paths, (consists_ofPaths paths).lines_eq, List.map_map]
  apply List.map_id''
  intro path
  rw [Function.comp_apply, unescape_escape, String.ofList_toList]

/-- Of the separators of the format only line ends are in a table. -/
theorem not_mem_body {separator : Char} (hseparator : separator = '\t' ∨ separator = '\r')
    (paths : List String) : separator ∉ (ofPaths paths).body.toList := by
  obtain ⟨-, hbody⟩ := consists_ofPaths paths
  rw [hbody, List.flatMap_map, List.mem_flatMap]
  rintro ⟨path, -, hmem⟩
  have hescaped : separator ∉ escape path.toList :=
    not_mem_escape (hseparator.imp_right .inr) path.toList
  rcases List.mem_append.mp hmem with hmem | hmem
  · exact hescaped hmem
  · rw [List.mem_singleton] at hmem
    rcases hseparator with rfl | rfl <;> cases hmem

/-- There is one way to cut the text of a table behind its line ends, and undoing the
escapes of the lines gives back the paths in order. The text has one line end for each
path and no other separators, so its rows are as many as the paths, and it is the text
of no other list. -/
theorem ofPaths_reads_back (paths : List String) :
    let table := ofPaths paths
    (∀ parts, ConsistsOfLines table.body.toList parts ↔ parts = lines table.body.toList) ∧
    ((lines table.body.toList).map fun line => String.ofList (unescape line)) = paths ∧
    '\t' ∉ table.body.toList ∧ '\r' ∉ table.body.toList ∧
    table.body.toList.count '\n' = paths.length ∧ table.rows = paths.length ∧
    ∀ other, (ofPaths other).body = table.body ↔ other = paths := by
  intro table
  have hconsists := consists_ofPaths paths
  refine ⟨?_, paths_ofPaths paths, not_mem_body (.inl rfl) paths, not_mem_body (.inr rfl) paths,
    ?_, ?_, ?_⟩
  · intro parts
    constructor
    · exact fun hparts => hparts.lines_eq.symm
    · rintro rfl
      rwa [hconsists.lines_eq]
  · rw [hconsists.count_newline, List.length_map]
  · rw [rows, hconsists.lines_eq, List.length_map]
  · intro other
    constructor
    · intro hbody
      rw [← paths_ofPaths other, ← paths_ofPaths paths, ExternalTable.paths, ExternalTable.paths,
        hbody]
    · rintro rfl
      rfl

end ExternalTable

end SeriesGateway.Plan

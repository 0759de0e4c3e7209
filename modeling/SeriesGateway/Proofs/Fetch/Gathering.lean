import SeriesGateway.Fetch.GroupRun

/-! # Gathering rows

The queries of a group act side by side, and each adds its rows to the store of
the group when it ends well, at once and only then. So whatever happens, the
store is the one that was described for the plan, with whole responses added to
it one after the other.
-/

namespace SeriesGateway.Fetch.Fetching

/-- The described store of a plan after responses were added to it one after the
other. -/
def storeOf (reversed : Bool) (plan : Plan.QueryPlan) (responses : List (List Wire.Row)) :
    PointStore :=
  responses.foldl (addRows reversed) (describedStore plan)

variable {reversed : Bool} {plan : Plan.QueryPlan} {store : PointStore}

/-- A turn of a query adds a whole response or nothing. -/
theorem collect_cases (reversed : Bool) (store : PointStore) (before after : QueryRun) :
    collect reversed store before after = store ∨
      ∃ rows, collect reversed store before after = addRows reversed store rows := by
  unfold collect
  split
  next rows _ _ => exact .inr ⟨rows, rfl⟩
  next => exact .inl rfl

theorem exists_collect {responses : List (List Wire.Row)}
    (hstore : store = storeOf reversed plan responses) (before after : QueryRun) :
    ∃ more, collect reversed store before after = storeOf reversed plan more := by
  rcases collect_cases reversed store before after with hsame | ⟨rows, hrows⟩
  · exact ⟨responses, hsame.trans hstore⟩
  · refine ⟨responses ++ [rows], ?_⟩
    rw [hrows, hstore, storeOf, storeOf, List.foldl_append, List.foldl_cons, List.foldl_nil]

theorem exists_actAll {responses : List (List Wire.Row)}
    (hstore : store = storeOf reversed plan responses) (storage : Storage) (floor : Floor)
    (queries : List QueryRun) :
    ∃ more, (actAll storage reversed store floor queries).2.1 = storeOf reversed plan more := by
  induction queries generalizing store floor responses with
  | nil => exact ⟨responses, hstore⟩
  | cons run rest ih =>
      obtain ⟨more, hmore⟩ := exists_collect hstore run (run.act storage floor).1
      rw [actAll]
      dsimp only
      split
      · exact ⟨more, hmore⟩
      · exact ih hmore (run.act storage floor).2

end SeriesGateway.Fetch.Fetching

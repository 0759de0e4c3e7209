import SeriesGateway.Proofs.Aggregation
import SeriesGateway.Proofs.Point.Reduction

/-! # Rolling up in two levels

Buckets of a width lie within the buckets of a multiple of it. Metrics whose function
picks one of two numbers can therefore be rolled up in two levels: the points of a wide
bucket, and what its narrow buckets become, are reduced to the same point.
-/

namespace SeriesGateway.PointStore

/-! ## What points are reduced from -/

section Blend

variable {function : Aggregation} {pick : Sample → Sample → Sample}

/-- Picks one of two values, and takes the later of two timestamps. -/
def blend (pick : Sample → Sample → Sample) (a b : Sample × UInt32) : Sample × UInt32 :=
  (pick a.1 b.1, max a.2 b.2)

/-- The values and timestamps of points blended into one of each. -/
def blended (pick : Sample → Sample → Sample) : List Point → Option (Sample × UInt32)
  | [] => none
  | point :: rest => (some (point.value, point.timestamp)).merge (blend pick) (blended pick rest)

instance associative_blend [hassoc : Std.Associative pick] : Std.Associative (blend pick) where
  assoc a b c := by
    have hmax : max (max a.2 b.2) c.2 = max a.2 (max b.2 c.2) := by
      simp only [← UInt32.toNat_inj, UInt32.toNat_max, Nat.max_assoc]
    rw [blend, blend, blend, blend, hassoc.assoc, hmax]

theorem merge_blend_assoc [Std.Associative pick] (a b c : Option (Sample × UInt32)) :
    (a.merge (blend pick) b).merge (blend pick) c = a.merge (blend pick) (b.merge (blend pick) c) :=
  (Option.associative_merge (blend pick)).assoc a b c

theorem blended_append [Std.Associative pick] (front behind : List Point) :
    blended pick (front ++ behind) =
      (blended pick front).merge (blend pick) (blended pick behind) := by
  induction front with
  | nil => exact Option.merge_none_left.symm
  | cons first rest ih =>
      rw [List.cons_append, blended, ih, blended, merge_blend_assoc]

/-- Blending is done from the front on as well. -/
theorem blended_cons [Std.Associative pick] (first : Point) (rest : List Point) :
    blended pick (first :: rest) = some ((rest.map (·.value)).foldl pick first.value,
      (rest.map (·.timestamp)).foldl max first.timestamp) := by
  have hfold : ∀ start : Sample × UInt32,
      (some start).merge (blend pick) (blended pick rest) =
        some ((rest.map (·.value)).foldl pick start.1,
          (rest.map (·.timestamp)).foldl max start.2) := by
    induction rest with
    | nil => exact fun _ => rfl
    | cons next rest ih =>
        intro start
        rw [blended, ← merge_blend_assoc, Option.merge_some_some, ih]
        rfl
  exact hfold (first.value, first.timestamp)

/-- The bucket of a function that picks becomes what its points are blended into. -/
theorem bucketPoint?_eq_blended {store : PointStore} {start commonStep : UInt32} {bucket : Bucket}
    {first : Point} {rest : List Point} (hpicks : function.PicksBy pick)
    (hfunction : (store.aggregation? bucket.metricId).getD .average = function)
    (hnumbers : ∀ point ∈ first :: rest, point.value.isNaN = false)
    (hkept : start.toNat <
      bucket.time.toNat + (store.bucketStep commonStep bucket.metricId).toNat) :
    store.bucketPoint? start commonStep bucket (first :: rest) =
      (blended pick (first :: rest)).map fun content =>
        ⟨bucket.metricId, content.1, bucket.time, content.2⟩ := by
  have := hpicks.assoc
  have hvalues : ∀ sample ∈ first.value :: rest.map (·.value), sample.isNaN = false := by
    simpa using hnumbers
  have hvalue := hpicks.isNaN_foldl hvalues
  rw [blended_cons, bucketPoint?, hfunction, List.map_cons, List.map_cons,
    hpicks.reduce_cons hvalues, List.max?_cons']
  simp [hvalue, hkept]

end Blend

/-! ## Runs -/

section Runs

variable {store : PointStore} {start commonStep : UInt32} {point : Point}

theorem exists_of_mem_rollupRuns {points : List Point}
    (hpoint : point ∈ store.rollupRuns start commonStep points) :
    ∃ first ∈ points, ∃ run, store.bucketPoint? start commonStep
      (store.bucketOf commonStep first) run = some point := by
  fun_induction rollupRuns store start commonStep points with
  | case1 => cases hpoint
  | case2 first rest ih =>
      rcases List.mem_append.mp hpoint with hfirst | hrest
      · rw [Option.mem_toList, reduceRun_eq] at hfirst
        exact ⟨first, List.mem_cons_self, _, hfirst⟩
      · obtain ⟨member, hmember, hrun⟩ := ih hrest
        exact ⟨member, List.mem_cons_of_mem _ ((List.dropWhile_sublist _).mem hmember), hrun⟩

/-- A run, and what is behind it. -/
theorem rollupRuns_cons_append {first : Point} {run behind : List Point}
    (hrun : ∀ point ∈ run, store.inBucketOf commonStep first point = true)
    (hbehind : ∀ point ∈ behind.head?, store.inBucketOf commonStep first point = false) :
    store.rollupRuns start commonStep (first :: (run ++ behind)) =
      (store.reduceRun start commonStep first (first :: run)).toList ++
        store.rollupRuns start commonStep behind := by
  have hends : behind.takeWhile (store.inBucketOf commonStep first) = [] ∧
      behind.dropWhile (store.inBucketOf commonStep first) = behind := by
    cases behind with
    | nil => exact ⟨rfl, rfl⟩
    | cons next rest =>
        have hnext := hbehind next rfl
        simp [hnext]
  rw [rollupRuns, List.takeWhile_append_of_pos hrun, List.dropWhile_append_of_pos hrun, hends.1,
    hends.2, List.append_nil]

/-- Parts that share no bucket are rolled up apart. -/
theorem rollupRuns_append {front behind : List Point}
    (hapart : ∀ a ∈ front, ∀ b ∈ behind, store.inBucketOf commonStep a b = false) :
    store.rollupRuns start commonStep (front ++ behind) =
      store.rollupRuns start commonStep front ++ store.rollupRuns start commonStep behind := by
  fun_induction rollupRuns store start commonStep front with
  | case1 => rfl
  | case2 first rest ih =>
      have hsplit : rest.takeWhile (store.inBucketOf commonStep first) ++
          rest.dropWhile (store.inBucketOf commonStep first) = rest :=
        List.takeWhile_append_dropWhile
      have hrest : ∀ a ∈ rest.dropWhile (store.inBucketOf commonStep first), ∀ b ∈ behind,
          store.inBucketOf commonStep a b = false := fun a ha =>
        hapart a (List.mem_cons_of_mem _ ((List.dropWhile_sublist _).mem ha))
      rw [List.append_assoc, ← ih hrest, List.cons_append]
      conv_lhs => rw [← hsplit, List.append_assoc]
      apply rollupRuns_cons_append
      · exact List.all_eq_true.mp List.all_takeWhile
      · intro point hpoint
        have hstop := List.head?_dropWhile_not (store.inBucketOf commonStep first) rest
        rw [List.head?_append] at hpoint
        cases hnext : (rest.dropWhile (store.inBucketOf commonStep first)).head? with
        | some next =>
            rw [hnext] at hpoint hstop
            obtain rfl : next = point := Option.some.inj hpoint
            exact hstop
        | none =>
            rw [hnext, Option.none_or] at hpoint
            exact hapart first List.mem_cons_self point (List.mem_of_mem_head? hpoint)

end Runs

/-! ## Narrow and wide buckets -/

section Levels

variable {store : PointStore} {start fine coarse commonStep : UInt32} {point other : Point}
  {points : List Point}

/-- A point whose metric can be rolled up in two levels: it is a number, the function of
the metric picks one of two, and the start of the request lies between two wide buckets,
each of which consists of whole narrow ones. -/
structure FitsLevels (store : PointStore) (start fine coarse : UInt32) (point : Point) :
    Prop where
  isNumber : point.value.isNaN = false
  picks : store.aggregation? point.metricId ∈ [some .min, some .max, some .first, some .last]
  fine_dvd : fine.toNat ∣ (store.bucketStep coarse point.metricId).toNat
  coarse_dvd : (store.bucketStep coarse point.metricId).toNat ∣ start.toNat

theorem bucketStep_of_ne_zero (hfine : fine ≠ 0) (id : UInt32) : store.bucketStep fine id = fine :=
  if_pos hfine

/-- If the start lies between two buckets, those that end there are those of the times
in front of it. -/
theorem bucketOf_add_le_iff
    (hdvd : (store.bucketStep commonStep point.metricId).toNat ∣ start.toNat) :
    (store.bucketOf commonStep point).time.toNat +
        (store.bucketStep commonStep point.metricId).toNat ≤ start.toNat ↔
      point.time.toNat < start.toNat := by
  have hpositive := Step.positive_of_ne_zero (bucketStep_ne_zero store commonStep point.metricId)
  have hfloor := @Step.floor_add_le_iff point.time
    (store.bucketStep commonStep point.metricId) start.toNat
  rw [hpositive] at hfloor
  exact hfloor hdvd

namespace FitsLevels

/-- The wide bucket of a point can be told from its narrow one. -/
theorem bucketOf_eq (h : store.FitsLevels start fine coarse point) (hfine : fine ≠ 0) :
    store.bucketOf coarse point = ⟨(store.bucketOf fine point).metricId,
      Step.floor (store.bucketOf fine point).time
        (store.bucketStep coarse (store.bucketOf fine point).metricId)⟩ := by
  have hdvd : (Step.positive fine).toNat ∣
      (Step.positive (store.bucketStep coarse point.metricId)).toNat := by
    rw [Step.positive_of_ne_zero hfine,
      Step.positive_of_ne_zero (bucketStep_ne_zero store coarse _)]
    exact h.fine_dvd
  rw [bucketOf, bucketOf, bucketStep_of_ne_zero hfine]
  dsimp only
  rw [Step.floor_floor hdvd]

/-- Points of one narrow bucket are in one wide bucket. -/
theorem inBucketOf_coarse (h : store.FitsLevels start fine coarse point)
    (hother : store.FitsLevels start fine coarse other) (hfine : fine ≠ 0)
    (hsame : store.inBucketOf fine point other = true) :
    store.inBucketOf coarse point other = true := by
  rw [inBucketOf_eq, beq_iff_eq] at hsame ⊢
  rw [h.bucketOf_eq hfine, hother.bucketOf_eq hfine, hsame]

/-- What a narrow bucket becomes is in the wide bucket of its points. -/
theorem bucketOf_bucketPoint? (h : store.FitsLevels start fine coarse point) (hfine : fine ≠ 0)
    {run : List Point}
    (hother : store.bucketPoint? start fine (store.bucketOf fine point) run = some other) :
    store.bucketOf coarse other = store.bucketOf coarse point := by
  obtain ⟨hmetric, htime⟩ := PointStore.bucketOf_bucketPoint? store start fine hother
  rw [h.bucketOf_eq hfine, bucketOf, hmetric, htime]

theorem exists_picksBy (h : store.FitsLevels start fine coarse point) :
    ∃ pick, ((store.aggregation? point.metricId).getD .average).PicksBy pick := by
  apply Aggregation.exists_picksBy
  have hpicks := h.picks
  simp only [List.mem_cons, List.not_mem_nil, or_false] at hpicks
  rcases hpicks with hmin | hmax | hfirst | hlast
  · simp [hmin]
  · simp [hmax]
  · simp [hfirst]
  · simp [hlast]

theorem fine_dvd_start (h : store.FitsLevels start fine coarse point) (hfine : fine ≠ 0) :
    (store.bucketStep fine point.metricId).toNat ∣ start.toNat := by
  rw [bucketStep_of_ne_zero hfine]
  exact Nat.dvd_trans h.fine_dvd h.coarse_dvd

end FitsLevels

/-- In front of the start of the request all buckets are left out. -/
theorem rollupRuns_eq_nil
    (hdvd : ∀ point ∈ points, (store.bucketStep commonStep point.metricId).toNat ∣ start.toNat)
    (hbefore : ∀ point ∈ points, point.time.toNat < start.toNat) :
    store.rollupRuns start commonStep points = [] := by
  rw [List.eq_nil_iff_forall_not_mem]
  intro point hpoint
  obtain ⟨first, hfirst, run, hrun⟩ := exists_of_mem_rollupRuns hpoint
  have hends := (bucketOf_add_le_iff (hdvd first hfirst)).mpr (hbefore first hfirst)
  rw [bucketPoint?, if_pos (.inl hends)] at hrun
  cases hrun

/-- The points that runs become are blended from the same values and timestamps as the
points of the runs, if no bucket is left out. -/
theorem blended_rollupRuns {function : Aggregation} {pick : Sample → Sample → Sample}
    (hpicks : function.PicksBy pick)
    (hfunction : ∀ point ∈ points,
      (store.aggregation? point.metricId).getD .average = function)
    (hnumbers : ∀ point ∈ points, point.value.isNaN = false)
    (hkept : ∀ point ∈ points, start.toNat < (store.bucketOf commonStep point).time.toNat +
      (store.bucketStep commonStep point.metricId).toNat) :
    blended pick (store.rollupRuns start commonStep points) = blended pick points := by
  have := hpicks.assoc
  fun_induction rollupRuns store start commonStep points with
  | case1 => rfl
  | case2 first rest ih =>
      have hbehind : ∀ {property : Point → Prop}, (∀ point ∈ first :: rest, property point) →
          ∀ point ∈ rest.dropWhile (store.inBucketOf commonStep first), property point :=
        fun hall point hpoint =>
          hall point (List.mem_cons_of_mem _ ((List.dropWhile_sublist _).mem hpoint))
      have hrun : ∀ point ∈ first :: rest.takeWhile (store.inBucketOf commonStep first),
          point.value.isNaN = false := fun point hpoint =>
        hnumbers point (((List.takeWhile_sublist _).cons_cons first).mem hpoint)
      have hfirst := bucketPoint?_eq_blended hpicks (hfunction first List.mem_cons_self) hrun
        (hkept first List.mem_cons_self)
      rw [blended_cons] at hfirst
      rw [reduceRun_eq, hfirst, Option.map_some, Option.toList_some, blended_append,
        ih (hbehind hfunction) (hbehind hnumbers) (hbehind hkept), blended_cons, List.map_nil,
        List.map_nil, List.foldl_nil, List.foldl_nil, ← blended_cons, ← blended_append,
        List.cons_append, List.takeWhile_append_dropWhile]

section Wide

variable {first : Point} {run : List Point}
  (hfine : fine ≠ 0) (hfits : ∀ point ∈ first :: run, store.FitsLevels start fine coarse point)
  (hwide : ∀ point ∈ first :: run, store.bucketOf coarse point = store.bucketOf coarse first)

include hfits hwide in
/-- The start does not cut a wide bucket: all its points are in front of it, or none. -/
theorem time_lt_iff_of_wide (hpoint : point ∈ first :: run) :
    point.time.toNat < start.toNat ↔ first.time.toNat < start.toNat := by
  have hmetric : point.metricId = first.metricId := congrArg Bucket.metricId (hwide point hpoint)
  rw [← bucketOf_add_le_iff (hfits point hpoint).coarse_dvd,
    ← bucketOf_add_le_iff (hfits first List.mem_cons_self).coarse_dvd, hwide point hpoint, hmetric]

include hfine hfits hwide

/-- A wide bucket in front of the start leaves nothing, whether or not its narrow buckets
are rolled up first. -/
theorem rollupRuns_wide_of_lt (hbefore : first.time.toNat < start.toNat) :
    store.rollupRuns start fine (first :: run) = [] ∧
      store.reduceRun start coarse first (first :: run) = none := by
  constructor
  · apply rollupRuns_eq_nil
    · exact fun point hpoint => (hfits point hpoint).fine_dvd_start hfine
    · exact fun point hpoint => (time_lt_iff_of_wide hfits hwide hpoint).mpr hbefore
  · have hends := (bucketOf_add_le_iff (hfits first List.mem_cons_self).coarse_dvd).mpr hbefore
    rw [reduceRun_eq, bucketPoint?, if_pos (.inl hends)]

/-- A wide bucket from the start on is reduced to the same point, whether or not its narrow
buckets are rolled up first. -/
theorem rollupRuns_wide_of_le (hfrom : start.toNat ≤ first.time.toNat) :
    ∃ narrow behind, store.rollupRuns start fine (first :: run) = narrow :: behind ∧
      (∀ point ∈ narrow :: behind, store.bucketOf coarse point = store.bucketOf coarse first) ∧
      store.reduceRun start coarse narrow (narrow :: behind) =
        store.reduceRun start coarse first (first :: run) := by
  have hfirst := hfits first List.mem_cons_self
  obtain ⟨pick, hpicks⟩ := hfirst.exists_picksBy
  have := hpicks.assoc
  have hfunction : ∀ point ∈ first :: run, (store.aggregation? point.metricId).getD .average =
      (store.aggregation? first.metricId).getD .average := by
    intro point hpoint
    have hmetric : point.metricId = first.metricId := congrArg Bucket.metricId (hwide point hpoint)
    rw [hmetric]
  have hnumbers : ∀ point ∈ first :: run, point.value.isNaN = false :=
    fun point hpoint => (hfits point hpoint).isNumber
  have hreaches : start.toNat < (store.bucketOf coarse first).time.toNat +
      (store.bucketStep coarse (store.bucketOf coarse first).metricId).toNat :=
    Nat.lt_of_not_le (mt (bucketOf_add_le_iff hfirst.coarse_dvd).mp (Nat.not_lt_of_le hfrom))
  have hkept : ∀ point ∈ first :: run, start.toNat < (store.bucketOf fine point).time.toNat +
      (store.bucketStep fine point.metricId).toNat := by
    intro point hpoint
    apply Nat.lt_of_not_le
    rw [bucketOf_add_le_iff ((hfits point hpoint).fine_dvd_start hfine),
      time_lt_iff_of_wide hfits hwide hpoint]
    exact Nat.not_lt_of_le hfrom
  have hblended := blended_rollupRuns hpicks hfunction hnumbers hkept
  have hnarrow : ∀ point ∈ store.rollupRuns start fine (first :: run),
      store.bucketOf coarse point = store.bucketOf coarse first ∧ point.value.isNaN = false := by
    intro point hpoint
    obtain ⟨member, hmember, members, hbecomes⟩ := exists_of_mem_rollupRuns hpoint
    have hsame := (hfits member hmember).bucketOf_bucketPoint? hfine hbecomes
    exact ⟨hsame.trans (hwide member hmember), (of_bucketPoint?_bucketOf hbecomes).2.2.1⟩
  cases hruns : store.rollupRuns start fine (first :: run) with
  | nil =>
      rw [hruns, blended_cons] at hblended
      cases hblended
  | cons narrow behind =>
      rw [hruns] at hblended hnarrow
      refine ⟨narrow, behind, rfl, fun point hpoint => (hnarrow point hpoint).1, ?_⟩
      rw [reduceRun_eq, reduceRun_eq, (hnarrow narrow List.mem_cons_self).1,
        bucketPoint?_eq_blended hpicks rfl (fun point hpoint => (hnarrow point hpoint).2) hreaches,
        bucketPoint?_eq_blended hpicks rfl hnumbers hreaches, hblended]

end Wide

/-- Rolling up narrow buckets first makes no difference. -/
theorem rollupRuns_rollupRuns (hfine : fine ≠ 0)
    (hsorted : points.Pairwise fun a b => a.key ≤ b.key)
    (hfits : ∀ point ∈ points, store.FitsLevels start fine coarse point) :
    store.rollupRuns start coarse (store.rollupRuns start fine points) =
      store.rollupRuns start coarse points := by
  -- by induction on the wide runs: no narrow run goes beyond the first of them
  fun_induction rollupRuns store start coarse points with
  | case1 => rw [rollupRuns, rollupRuns]
  | case2 first rest ih =>
      have hdrop := dropWhile_eq_filter (pairwise_inBucketOf store coarse hsorted)
      have hrun : ∀ point ∈ rest.takeWhile (store.inBucketOf coarse first),
          store.inBucketOf coarse first point = true := List.all_eq_true.mp List.all_takeWhile
      have hsplit : rest.takeWhile (store.inBucketOf coarse first) ++
          rest.dropWhile (store.inBucketOf coarse first) = rest := List.takeWhile_append_dropWhile
      generalize rest.takeWhile (store.inBucketOf coarse first) = run at *
      generalize rest.dropWhile (store.inBucketOf coarse first) = behind at *
      simp only [inBucketOf_eq, beq_iff_eq] at hrun
      have hwide : ∀ point ∈ first :: run,
          store.bucketOf coarse point = store.bucketOf coarse first :=
        List.forall_mem_cons.mpr ⟨rfl, hrun⟩
      have hout : ∀ point ∈ behind, store.bucketOf coarse point ≠ store.bucketOf coarse first := by
        intro point hpoint hsame
        rw [hdrop, List.mem_filter, inBucketOf_eq, hsame] at hpoint
        simp at hpoint
      subst hsplit
      rw [← List.cons_append] at hsorted hfits ⊢
      obtain ⟨hfitsRun, hfitsBehind⟩ := List.forall_mem_append.mp hfits
      have hapart : ∀ a ∈ first :: run, ∀ b ∈ behind, store.inBucketOf fine a b = false := by
        intro a ha b hb
        rw [← Bool.not_eq_true]
        intro hnarrow
        have hsame := (hfitsRun a ha).inBucketOf_coarse (hfitsBehind b hb) hfine hnarrow
        rw [inBucketOf_eq, beq_iff_eq, hwide a ha] at hsame
        exact hout b hb hsame
      have hrest := ih (List.pairwise_append.mp hsorted).2.1 hfitsBehind
      rw [rollupRuns_append hapart]
      rcases Nat.lt_or_ge first.time.toNat start.toNat with hbefore | hfrom
      · obtain ⟨hnone, hreduced⟩ := rollupRuns_wide_of_lt hfine hfitsRun hwide hbefore
        rw [hnone, hreduced, List.nil_append, Option.toList_none, List.nil_append, hrest]
      · obtain ⟨narrow, narrows, hnarrow, hsame, hreduced⟩ :=
          rollupRuns_wide_of_le hfine hfitsRun hwide hfrom
        obtain ⟨hnarrowFirst, hnarrows⟩ := List.forall_mem_cons.mp hsame
        rw [hnarrow, List.cons_append, rollupRuns_cons_append ?_ ?_, hreduced, hrest]
        · intro point hpoint
          rw [inBucketOf_eq, beq_iff_eq, hnarrows point hpoint, hnarrowFirst]
        · intro point hpoint
          obtain ⟨member, hmember, members, hbecomes⟩ :=
            exists_of_mem_rollupRuns (List.mem_of_mem_head? hpoint)
          rw [inBucketOf_eq, (hfitsBehind member hmember).bucketOf_bucketPoint? hfine hbecomes,
            hnarrowFirst]
          exact beq_false_of_ne (hout member hmember)

end Levels

/-- Rolling up changes neither the widths nor the functions of the metrics. -/
theorem rollupRuns_rollup (store : PointStore) (start commonStep first width : UInt32)
    (points : List Point) :
    (store.rollup first width).rollupRuns start commonStep points =
      store.rollupRuns start commonStep points := by
  fun_induction rollupRuns store start commonStep points with
  | case1 => rw [rollupRuns]
  | case2 first rest ih =>
      rw [rollupRuns, ← ih]
      rfl

/-- Deduplicated points of metrics with a function that picks can be rolled up to a narrow
width first: if each width that they are rolled up to afterwards is a multiple of it, and
the start of the request a multiple of that, the result is the same. The width is the
common step, or the step of the metric if the common step is zero. -/
theorem rollup_rollup (store : PointStore) (start fine coarse : UInt32) (hfine : fine ≠ 0)
    (hfunctions : ∀ point ∈ store.sort.uniq.points,
      store.aggregation? point.metricId ∈ [some .min, some .max, some .first, some .last])
    (hwidths : ∀ point ∈ store.sort.uniq.points,
      fine.toNat ∣ (store.bucketStep coarse point.metricId).toNat ∧
        (store.bucketStep coarse point.metricId).toNat ∣ start.toNat) :
    (store.sort.uniq.rollup start fine).rollup start coarse =
      store.sort.uniq.rollup start coarse := by
  have hfits : ∀ point ∈ store.sort.uniq.points,
      store.sort.uniq.FitsLevels start fine coarse point := by
    intro point hpoint
    have hlive := ((mem_points_uniq_sort store).mp hpoint).1
    rw [Point.isLive, Bool.and_eq_true, Bool.not_eq_true'] at hlive
    exact ⟨hlive.2, hfunctions point hpoint, (hwidths point hpoint).1, (hwidths point hpoint).2⟩
  have hpoints : ((store.sort.uniq.rollup start fine).rollup start coarse).points =
      (store.sort.uniq.rollup start coarse).points := by
    rw [rollup_points, rollup_points, rollup_points, rollupRuns_rollup]
    exact rollupRuns_rollupRuns hfine ((pairwise_uniq_sort store).imp Nat.le_of_lt) hfits
  exact congrArg (PointStore.mk store.metrics) hpoints

/-- Two metrics, one of which keeps the least and one the last value. The first point of
each lies in front of second 120, and the others in two buckets of 60 seconds. -/
def twoMetrics : PointStore where
  metrics := [⟨"a", 0, some .min⟩, ⟨"b", 10, some .last⟩]
  points := [⟨1, ⟨0x3ff0000000000000⟩, 119, 1⟩, ⟨1, ⟨0x4008000000000000⟩, 130, 9⟩,
    ⟨1, ⟨0x4000000000000000⟩, 150, 2⟩, ⟨1, ⟨0x4010000000000000⟩, 190, 3⟩,
    ⟨2, ⟨0x4008000000000000⟩, 60, 4⟩, ⟨2, ⟨0x4000000000000000⟩, 121, 7⟩,
    ⟨2, ⟨0x3ff0000000000000⟩, 200, 5⟩]

theorem rollup_rollup_of_two_metrics :
    (60 : UInt32) ≠ 0 ∧
    (∀ point ∈ twoMetrics.sort.uniq.points, twoMetrics.aggregation? point.metricId ∈
      [some .min, some .max, some .first, some .last]) ∧
    (∀ point ∈ twoMetrics.sort.uniq.points,
      (60 : UInt32).toNat ∣ (twoMetrics.bucketStep 120 point.metricId).toNat ∧
        (twoMetrics.bucketStep 120 point.metricId).toNat ∣ (120 : UInt32).toNat) ∧
    (twoMetrics.sort.uniq.rollup 120 60).rollup 120 120 = twoMetrics.sort.uniq.rollup 120 120 := by
  have hstore : twoMetrics.sort.uniq.points = twoMetrics.points := by cbv
  have hfunctions : ∀ point ∈ twoMetrics.sort.uniq.points,
      twoMetrics.aggregation? point.metricId ∈ [some .min, some .max, some .first, some .last] := by
    rw [hstore]
    decide
  have hwidths : ∀ point ∈ twoMetrics.sort.uniq.points,
      (60 : UInt32).toNat ∣ (twoMetrics.bucketStep 120 point.metricId).toNat ∧
        (twoMetrics.bucketStep 120 point.metricId).toNat ∣ (120 : UInt32).toNat := by
    rw [hstore]
    decide
  exact ⟨by decide, hfunctions, hwidths,
    rollup_rollup twoMetrics 120 60 120 (by decide) hfunctions hwidths⟩

/-- One metric, of which the greatest value counts, without a step of its own, and a point
at each of two seconds. -/
def twoSeconds : PointStore :=
  ⟨[⟨"m", 0, some .max⟩], [⟨1, ⟨0x3ff0000000000000⟩, 0, 5⟩, ⟨1, ⟨0x4000000000000000⟩, 1, 6⟩]⟩

/-- Zero is a multiple of every width, but as a common step it stands for the step of each
metric. Points in two buckets of such a step are one point once they were rolled up to a
width that takes in both. -/
theorem rollup_rollup_ne_of_no_common_step :
    let fine : UInt32 := 60
    let coarse : UInt32 := 0
    let start : UInt32 := 0
    0 < fine ∧ fine.toNat ∣ coarse.toNat ∧ coarse.toNat ∣ start.toNat ∧
    (∀ point ∈ twoSeconds.sort.uniq.points, twoSeconds.aggregation? point.metricId = some .max) ∧
    (twoSeconds.sort.uniq.rollup start fine).rollup start coarse ≠
      twoSeconds.sort.uniq.rollup start coarse := by
  intro fine coarse start
  have hstore : twoSeconds.sort.uniq = twoSeconds := by cbv
  have htwo : ((twoSeconds.rollup start fine).rollup start coarse).points.length = 1 := by cbv
  have hone : (twoSeconds.rollup start coarse).points.length = 2 := by cbv
  rw [hstore]
  refine ⟨by decide, by decide, by decide, by decide, ?_⟩
  intro hsame
  rw [hsame, hone] at htwo
  cases htwo

end SeriesGateway.PointStore

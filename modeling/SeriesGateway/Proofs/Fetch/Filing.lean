import Mathlib.Data.List.Forall2
import SeriesGateway.Fetch.RequestRun
import SeriesGateway.Proofs.Distinct

/-! # Filing replies

Groups end in any order, and each leaves one result. Either one of the results is an
error, and then nothing but an error is answered; or all of them are replies, which are
brought back into the order of the request and filed under their frames.
-/

namespace SeriesGateway.Fetch

/-- The response has one reply for each target of the request, which is the result of
the target; under each frame of the request, and under no other key, are the replies of
its targets in the order of the request. -/
structure Request.Answered (request : Request) (results : List GroupResult)
    (response : Response) : Prop where
  nodup_frames : (response.map (·.1)).Nodup
  mem_frames : ∀ frame, frame ∈ response.map (·.1) ↔ ∃ group, (frame, group) ∈ request.pairs
  exists_replies : ∃ replies : List GroupReply,
    replies.map (·.group) = request.pairs.map (·.2) ∧
    (∀ (position : Nat) (reply : GroupReply), replies[position]? = some reply →
      ∃ result ∈ results, result.position = position ∧ result.result = .ok reply) ∧
    ∀ filed ∈ response, filed.2 =
      ((request.pairs.zip replies).filter fun entry => entry.1.1 = filed.1).map (·.2)

/-! ## Errors and replies -/

theorem exists_of_repliesOf_eq_error {results : List GroupResult} {error : FetchError}
    (herror : repliesOf results = .error error) :
    ∃ result ∈ results, result.result = .error error := by
  induction results with
  | nil => cases herror
  | cons ended rest ih =>
      rw [repliesOf] at herror
      split at herror
      next first hfirst =>
        cases herror
        exact ⟨ended, List.mem_cons_self, hfirst⟩
      next reply _ =>
        cases hrest : repliesOf rest with
        | ok others =>
            rw [hrest] at herror
            cases herror
        | error later =>
            rw [hrest] at herror
            cases herror
            obtain ⟨result, hresult, hfailed⟩ := ih hrest
            exact ⟨result, List.mem_cons_of_mem ended hresult, hfailed⟩

/-- The result that a reply stands for. -/
def resultOf (entry : Nat × TimeFrame × GroupReply) : GroupResult :=
  ⟨entry.1, entry.2.1, .ok entry.2.2⟩

/-- There are replies only if all results are. -/
theorem eq_map_of_repliesOf_eq_ok {results : List GroupResult}
    {replies : List (Nat × TimeFrame × GroupReply)} (hreplies : repliesOf results = .ok replies) :
    results = replies.map resultOf := by
  induction results generalizing replies with
  | nil =>
      cases hreplies
      rfl
  | cons ended rest ih =>
      rw [repliesOf] at hreplies
      split at hreplies
      next => cases hreplies
      next reply hreply =>
        cases hrest : repliesOf rest with
        | error error =>
            rw [hrest] at hreplies
            cases hreplies
        | ok others =>
            rw [hrest] at hreplies
            cases hreplies
            rw [List.map_cons, ← ih hrest, resultOf, ← hreply]

/-! ## Order of the request -/

variable {request : Request} {replies : List (Nat × TimeFrame × GroupReply)}

/-- Replies of all positions, sorted by position, are in the order of the positions. -/
theorem map_mergeSort_eq_range {count : Nat}
    (hpositions : (replies.map (·.1)).Perm (List.range count)) :
    (replies.mergeSort fun a b => a.1 ≤ b.1).map (·.1) = List.range count := by
  have hsorted : (replies.mergeSort fun a b => a.1 ≤ b.1).Pairwise
      fun a b => decide (a.1 ≤ b.1) = true :=
    List.pairwise_mergeSort
      (fun a b c hab hbc => by simpa using Nat.le_trans (by simpa using hab) (by simpa using hbc))
      (fun a b => by simpa using Nat.le_total a.1 b.1) replies
  have hperm := List.mergeSort_perm replies fun a b => decide (a.1 ≤ b.1)
  have hascending : ((replies.mergeSort fun a b => a.1 ≤ b.1).map (·.1)).Pairwise (· ≤ ·) := by
    rw [List.pairwise_map]
    exact hsorted.imp fun hle => by simpa using hle
  have hrange : (List.range count).Pairwise (· ≤ ·) :=
    List.pairwise_lt_range.imp fun hlt => Nat.le_of_lt hlt
  exact ((hperm.map (·.1)).trans hpositions).eq_of_pairwise
    (fun _ _ _ _ => Nat.le_antisymm) hascending hrange

/-! ## Frames -/

theorem frames_ofReplies (entries : List (TimeFrame × GroupReply)) :
    (Response.ofReplies entries).map (·.1) =
      (entries.map (·.1)).eraseDups.mergeSort TimeFrame.le := by
  rw [Response.ofReplies, List.map_map]
  exact List.map_id _

/-- Replies in the order of the request are filed as the request asks. -/
theorem answered_of_pairs {results : List GroupResult}
    (hpairs : request.pairs = replies.map fun entry => (entry.2.1, entry.2.2.group))
    (hresults : ∀ (position : Nat) (entry : Nat × TimeFrame × GroupReply),
      replies[position]? = some entry →
        ∃ result ∈ results, result.position = position ∧ result.result = .ok entry.2.2) :
    request.Answered results (.ofReplies (replies.map (·.2))) where
  nodup_frames := by
    rw [frames_ofReplies]
    exact (List.mergeSort_perm _ _).nodup_iff.mpr (nodup_eraseDups _)
  mem_frames frame := by
    rw [frames_ofReplies, List.mem_mergeSort, List.mem_eraseDups, hpairs]
    simp
  exists_replies := by
    refine ⟨replies.map (·.2.2), ?_, ?_, ?_⟩
    · rw [hpairs, List.map_map, List.map_map]
      rfl
    · intro position reply hreply
      rw [List.getElem?_map, Option.map_eq_some_iff] at hreply
      obtain ⟨entry, hentry, rfl⟩ := hreply
      exact hresults position entry hentry
    · intro filed hfiled
      obtain ⟨frame, -, rfl⟩ := List.mem_map.mp hfiled
      rw [hpairs, List.zip_map', List.filter_map, List.filter_map, List.map_map, List.map_map]
      rfl

/-! ## Results of all targets -/

/-- Once the replies are in the order of the positions, the reply at a position is the
result of the target at this position. -/
theorem resultOf_mem_of_sorted {count : Nat} {results : List GroupResult}
    {sorted : List (Nat × TimeFrame × GroupReply)} (hresults : results = replies.map resultOf)
    (hperm : sorted.Perm replies) (horder : sorted.map (·.1) = List.range count) {position : Nat}
    {entry : Nat × TimeFrame × GroupReply} (hentry : sorted[position]? = some entry) :
    entry.1 = position ∧ resultOf entry ∈ results := by
  constructor
  · have hsame : (sorted.map (·.1))[position]? = some entry.1 := by
      rw [List.getElem?_map, hentry]
      rfl
    rw [horder] at hsame
    simpa [eq_comm] using (List.getElem?_eq_some_iff.mp hsame).2
  · rw [hresults]
    exact List.mem_map_of_mem (hperm.mem_iff.mp (List.mem_of_getElem? hentry))

/-- Replies that are results of their targets, in the order of the positions, belong to
the targets of the request. -/
theorem pairs_eq_map_of_sorted {results : List GroupResult}
    {sorted : List (Nat × TimeFrame × GroupReply)} (hresults : results = replies.map resultOf)
    (hperm : sorted.Perm replies) (horder : sorted.map (·.1) = List.range request.size)
    (hpairs : ∀ result ∈ results, ∀ reply, result.result = .ok reply →
      request.pairs[result.position]? = some (result.frame, reply.group)) :
    request.pairs = sorted.map fun entry => (entry.2.1, entry.2.2.group) := by
  have hlength : sorted.length = request.pairs.length := by
    have hcount := congrArg List.length horder
    rwa [List.length_map, List.length_range] at hcount
  apply List.ext_getElem?
  intro position
  rw [List.getElem?_map]
  cases hentry : sorted[position]? with
  | none =>
      rw [List.getElem?_eq_none_iff, hlength] at hentry
      rw [List.getElem?_eq_none hentry]
      rfl
  | some entry =>
      obtain ⟨rfl, hresult⟩ := resultOf_mem_of_sorted hresults hperm horder hentry
      exact hpairs _ hresult _ rfl

/-- Results of all targets, none of which is an error, are answered together. -/
theorem answered_of_ofResults {results : List GroupResult} {response : Response}
    (hpositions : (results.map (·.position)).Perm (List.range request.size))
    (hpairs : ∀ result ∈ results, ∀ reply, result.result = .ok reply →
      request.pairs[result.position]? = some (result.frame, reply.group))
    (hresponse : Response.ofResults results = .ok response) :
    (∀ result ∈ results, ∃ reply, result.result = .ok reply) ∧
      request.Answered results response := by
  rw [Response.ofResults] at hresponse
  cases hreplies : repliesOf results with
  | error error =>
      rw [hreplies] at hresponse
      cases hresponse
  | ok replies =>
      rw [hreplies] at hresponse
      have hfiled : Response.ofReplies ((replies.mergeSort fun a b => a.1 ≤ b.1).map (·.2)) =
          response := Except.ok.inj hresponse
      rw [← hfiled]
      have hresults := eq_map_of_repliesOf_eq_ok hreplies
      have hperm := List.mergeSort_perm replies fun a b => decide (a.1 ≤ b.1)
      have horder : (replies.mergeSort fun a b => a.1 ≤ b.1).map (·.1) =
          List.range request.size := by
        apply map_mergeSort_eq_range
        rwa [hresults, List.map_map] at hpositions
      constructor
      · intro result hmem
        rw [hresults] at hmem
        obtain ⟨entry, -, rfl⟩ := List.mem_map.mp hmem
        exact ⟨entry.2.2, rfl⟩
      · apply answered_of_pairs (pairs_eq_map_of_sorted hresults hperm horder hpairs)
        intro position entry hentry
        obtain ⟨hposition, hresult⟩ := resultOf_mem_of_sorted hresults hperm horder hentry
        exact ⟨resultOf entry, hresult, hposition, rfl⟩

theorem exists_reply_of_ofResults {results : List GroupResult} {response : Response}
    (hresponse : Response.ofResults results = .ok response) :
    ∀ result ∈ results, ∃ reply, result.result = .ok reply := by
  rw [Response.ofResults] at hresponse
  cases hreplies : repliesOf results with
  | error error =>
      rw [hreplies] at hresponse
      cases hresponse
  | ok replies =>
      intro result hresult
      rw [eq_map_of_repliesOf_eq_ok hreplies] at hresult
      obtain ⟨entry, -, rfl⟩ := List.mem_map.mp hresult
      exact ⟨entry.2.2, rfl⟩

/-- The reply of a group is filed under its frame. -/
theorem exists_filed {results : List GroupResult} {response : Response}
    (hresponse : Response.ofResults results = .ok response) {result : GroupResult}
    (hresult : result ∈ results) {reply : GroupReply} (hreply : result.result = .ok reply) :
    ∃ filed ∈ response, filed.1 = result.frame ∧ reply ∈ filed.2 := by
  rw [Response.ofResults] at hresponse
  cases hreplies : repliesOf results with
  | error error =>
      rw [hreplies] at hresponse
      cases hresponse
  | ok replies =>
      rw [hreplies] at hresponse
      obtain rfl := Except.ok.inj hresponse
      obtain rfl := eq_map_of_repliesOf_eq_ok hreplies
      obtain ⟨entry, hentry, rfl⟩ := List.mem_map.mp hresult
      obtain rfl := Except.ok.inj hreply
      have hsorted : entry.2 ∈ (replies.mergeSort fun a b => a.1 ≤ b.1).map (·.2) :=
        List.mem_map_of_mem (List.mem_mergeSort.mpr hentry)
      refine ⟨_, List.mem_map_of_mem ?_, rfl, ?_⟩
      · rw [List.mem_mergeSort, List.mem_eraseDups]
        exact List.mem_map_of_mem hsorted
      · exact List.mem_map_of_mem (List.mem_filter.mpr ⟨hsorted, decide_eq_true rfl⟩)

/-! ## Two runs of one request -/

/-- Replies that are related, or errors that are. -/
def Alike (related : GroupReply → GroupReply → Prop) (faults : FetchError → FetchError → Prop) :
    Except FetchError GroupReply → Except FetchError GroupReply → Prop
  | .ok reply, .ok other => related reply other
  | .error error, .error other => faults error other
  | _, _ => False

section Alike

variable {related : GroupReply → GroupReply → Prop} {faults : Nat → FetchError → FetchError → Prop}
  {first second : List GroupResult}

/-- Results of the same target are alike. Which errors are may depend on the target. -/
def AlikeAt (related : GroupReply → GroupReply → Prop)
    (faults : Nat → FetchError → FetchError → Prop) (first second : List GroupResult) : Prop :=
  ∀ one ∈ first, ∀ two ∈ second, one.position = two.position →
    one.frame = two.frame ∧ Alike related (faults one.position) one.result two.result

theorem exists_at_position {count : Nat} (h : (second.map (·.position)).Perm (List.range count))
    (hfirst : (first.map (·.position)).Perm (List.range count)) {one : GroupResult}
    (hone : one ∈ first) : ∃ two ∈ second, one.position = two.position := by
  have hposition := (hfirst.trans h.symm).mem_iff.mp (List.mem_map_of_mem hone)
  obtain ⟨two, htwo, hsame⟩ := List.mem_map.mp hposition
  exact ⟨two, htwo, hsame.symm⟩

theorem AlikeAt.symm (h : AlikeAt related faults first second) :
    AlikeAt (fun reply other => related other reply)
      (fun position error other => faults position other error) second first := by
  intro two htwo one hone hsame
  obtain ⟨hframe, hresult⟩ := h one hone two htwo hsame.symm
  refine ⟨hframe.symm, ?_⟩
  rw [hsame]
  cases hleft : one.result <;> cases hright : two.result <;> rw [hleft, hright] at hresult <;>
    exact hresult

/-- The group at a position ended with an error. -/
def FailsAt (results : List GroupResult) (position : Nat) (error : FetchError) : Prop :=
  ∃ ended ∈ results, ended.position = position ∧ ended.result = .error error

theorem FailsAt.of_alikeAt {count position : Nat} {error : FetchError}
    (h : FailsAt first position error)
    (hfirst : (first.map (·.position)).Perm (List.range count))
    (hsecond : (second.map (·.position)).Perm (List.range count))
    (halike : AlikeAt related faults first second) :
    ∃ other, faults position error other ∧ FailsAt second position other := by
  obtain ⟨one, hone, rfl, hfailed⟩ := h
  obtain ⟨two, htwo, hsame⟩ := exists_at_position hsecond hfirst hone
  have hresult := (halike one hone two htwo hsame).2
  rw [hfailed] at hresult
  cases hother : two.result with
  | error other =>
      rw [hother] at hresult
      exact ⟨other, hresult, two, htwo, hsame.symm, hother⟩
  | ok reply =>
      rw [hother] at hresult
      exact absurd hresult id

/-- Replies that are related one by one are filed alike. -/
theorem forall₂_ofReplies {replies others : List (TimeFrame × GroupReply)}
    (h : List.Forall₂ (fun one two => one.1 = two.1 ∧ related one.2 two.2) replies others) :
    List.Forall₂ (fun one two => one.1 = two.1 ∧ List.Forall₂ related one.2 two.2)
      (Response.ofReplies replies) (Response.ofReplies others) := by
  have hframes : replies.map (·.1) = others.map (·.1) := by
    rw [← List.forall₂_eq_eq_eq, List.forall₂_map_left_iff, List.forall₂_map_right_iff]
    exact h.imp fun _ _ hsame => hsame.1
  rw [Response.ofReplies, Response.ofReplies, hframes, List.forall₂_map_left_iff,
    List.forall₂_map_right_iff, List.forall₂_same]
  refine fun frame _ => ⟨rfl, ?_⟩
  rw [List.forall₂_map_left_iff, List.forall₂_map_right_iff]
  refine (List.rel_filter ?_ h).imp fun _ _ hsame => hsame.2
  rintro one two ⟨hsame, -⟩
  simp [hsame]

/-- Replies of all targets that are alike are, in the order of the targets, related one by
one. -/
theorem forall₂_mergeSort {count : Nat} {replies others : List (Nat × TimeFrame × GroupReply)}
    (hfirst : (replies.map (·.1)).Perm (List.range count))
    (hsecond : (others.map (·.1)).Perm (List.range count))
    (halike : AlikeAt related faults (replies.map resultOf) (others.map resultOf)) :
    List.Forall₂ (fun one two : Nat × TimeFrame × GroupReply =>
        one.2.1 = two.2.1 ∧ related one.2.2 two.2.2)
      (replies.mergeSort fun a b => a.1 ≤ b.1) (others.mergeSort fun a b => a.1 ≤ b.1) := by
  have hone := map_mergeSort_eq_range hfirst
  have htwo := map_mergeSort_eq_range hsecond
  have hsorted : ∀ entries : List (Nat × TimeFrame × GroupReply),
      (entries.mergeSort fun a b => a.1 ≤ b.1).Perm entries := fun entries =>
    List.mergeSort_perm entries _
  refine List.forall₂_iff_get.mpr ⟨?_, fun position hleft hright => ?_⟩
  · have hlength := congrArg List.length (hone.trans htwo.symm)
    rwa [List.length_map, List.length_map] at hlength
  · obtain ⟨hleftAt, hleft⟩ :=
      resultOf_mem_of_sorted rfl (hsorted replies) hone (List.getElem?_eq_getElem hleft)
    obtain ⟨hrightAt, hright⟩ :=
      resultOf_mem_of_sorted rfl (hsorted others) htwo (List.getElem?_eq_getElem hright)
    exact halike _ hleft _ hright (hleftAt.trans hrightAt.symm)

/-- Results that are answered alike: with related replies, or with errors of groups where the
same groups failed with related errors. -/
inductive AnsweredAlike (related : GroupReply → GroupReply → Prop)
    (faults : Nat → FetchError → FetchError → Prop) (first second : List GroupResult) :
    Except FetchError Response → Except FetchError Response → Prop
  | replies {response other : Response}
      (hreplies : List.Forall₂ (fun one two => one.1 = two.1 ∧ List.Forall₂ related one.2 two.2)
        response other) : AnsweredAlike related faults first second (.ok response) (.ok other)
  | fails {error other : FetchError} (hone : ∃ position, FailsAt first position error)
      (htwo : ∃ position, FailsAt second position other)
      (hforth : ∀ position error, FailsAt first position error →
        ∃ other, faults position error other ∧ FailsAt second position other)
      (hback : ∀ position other, FailsAt second position other →
        ∃ error, faults position error other ∧ FailsAt first position error) :
    AnsweredAlike related faults first second (.error error) (.error other)

theorem answeredAlike_ofResults {count : Nat}
    (hfirst : (first.map (·.position)).Perm (List.range count))
    (hsecond : (second.map (·.position)).Perm (List.range count))
    (halike : AlikeAt related faults first second) :
    AnsweredAlike related faults first second (Response.ofResults first)
      (Response.ofResults second) := by
  unfold Response.ofResults
  cases hreplies : repliesOf first with
  | ok replies =>
      have hall := eq_map_of_repliesOf_eq_ok hreplies
      cases hothers : repliesOf second with
      | ok others =>
          have hallOthers := eq_map_of_repliesOf_eq_ok hothers
          subst hall hallOthers
          rw [List.map_map] at hfirst hsecond
          refine .replies (forall₂_ofReplies ?_)
          rw [List.forall₂_map_left_iff, List.forall₂_map_right_iff]
          exact forall₂_mergeSort hfirst hsecond halike
      | error error =>
          obtain ⟨two, htwo, hfailed⟩ := exists_of_repliesOf_eq_error hothers
          obtain ⟨one, hone, hsame⟩ := exists_at_position hfirst hsecond htwo
          have hresult := (halike one hone two htwo hsame.symm).2
          rw [hall] at hone
          obtain ⟨entry, -, rfl⟩ := List.mem_map.mp hone
          rw [hfailed] at hresult
          exact absurd hresult id
  | error error =>
      obtain ⟨one, hone, hfailed⟩ := exists_of_repliesOf_eq_error hreplies
      cases hothers : repliesOf second with
      | ok others =>
          have hallOthers := eq_map_of_repliesOf_eq_ok hothers
          obtain ⟨two, htwo, hsame⟩ := exists_at_position hsecond hfirst hone
          have hresult := (halike one hone two htwo hsame).2
          rw [hallOthers] at htwo
          obtain ⟨entry, -, rfl⟩ := List.mem_map.mp htwo
          rw [hfailed] at hresult
          exact absurd hresult id
      | error other =>
          obtain ⟨two, htwo, hother⟩ := exists_of_repliesOf_eq_error hothers
          exact .fails ⟨_, one, hone, rfl, hfailed⟩ ⟨_, two, htwo, rfl, hother⟩
            (fun _ _ => (·.of_alikeAt hfirst hsecond halike))
            fun _ _ => (·.of_alikeAt hsecond hfirst halike.symm)

end Alike

end SeriesGateway.Fetch

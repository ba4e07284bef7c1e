import Beacon.Pool.Policy
import Mathlib.Data.List.Basic
import Mathlib.Data.List.Induction

/-!
# Votes

`Report.votes` counts the reports of a value equal to a given one, `Report.denials` those that there
is no such thing. A policy of majorities works with a leader, the first value that has the most
votes; `Policy.leading_eq_some_iff` says which value leads, for any equality, and
`Policy.majority_select_cases` and `Policy.majority_isSettled` say what that makes of the policy, in
votes alone, for an equality that is symmetric and transitive.
-/

namespace Beacon

variable {α : Type}

/-- Whether an outcome is a value equal to a given one. -/
def Outcome.isVote [BEq α] (value : α) : Outcome α → Bool
  | .success v => v == value
  | _ => false

/-- Whether an outcome is that there is no such thing. -/
def Outcome.isDenial : Outcome α → Bool
  | .notFound => true
  | _ => false

namespace Report

/-- The number of reports of a value equal to a given one. -/
def votes [BEq α] (reports : List (Report α)) (value : α) : Nat :=
  reports.countP fun r => r.outcome.isVote value

/-- The number of reports that there is no such thing. -/
def denials (reports : List (Report α)) : Nat :=
  reports.countP fun r => r.outcome.isDenial

theorem count_values [BEq α] (reports : List (Report α)) (value : α) :
    (reports.filterMap value?).count value = votes reports value := by
  rw [List.count_eq_countP, List.countP_filterMap]
  refine List.countP_congr fun r _ => ?_
  obtain ⟨endpoint, outcome⟩ := r
  cases outcome <;> simp [value?, Outcome.isVote]

theorem length_filter_isNotFound (reports : List (Report α)) :
    (reports.filter isNotFound).length = denials reports := by
  rw [← List.countP_eq_length_filter]
  refine List.countP_congr fun r _ => ?_
  obtain ⟨endpoint, outcome⟩ := r
  cases outcome <;> simp [isNotFound, Outcome.isDenial]

variable [BEq α] [PartialEquivBEq α]

/-- Equal values have the same votes. -/
theorem votes_congr (reports : List (Report α)) {v w : α} (h : (v == w) = true) :
    votes reports v = votes reports w := by
  refine List.countP_congr fun r _ => ?_
  cases hr : r.outcome <;> simp [Outcome.isVote, BEq.congr_right h]

/-- A value with a vote is equal to a value that is reported, and this one has as many votes. -/
theorem exists_votes_eq {reports : List (Report α)} {v : α} (h : votes reports v ≠ 0) :
    ∃ w ∈ reports.filterMap value?, votes reports w = votes reports v := by
  rw [← Nat.pos_iff_ne_zero, ← count_values, List.count_eq_countP, List.countP_pos_iff] at h
  obtain ⟨w, hw, hwv⟩ := h
  exact ⟨w, hw, votes_congr reports hwv⟩

end Report

theorem Tally.values_ofReports (reports : List (Report α)) :
    (Tally.ofReports reports).values = reports.filterMap Report.value? := by
  rw [Tally.values, Tally.ofReports, List.map_filterMap]
  refine List.filterMap_congr fun r _ => ?_
  cases r.value? <;> rfl

theorem Tally.length_notFound_ofReports (reports : List (Report α)) :
    (Tally.ofReports reports).notFound.length = Report.denials reports := by
  rw [Tally.ofReports, List.length_map, Report.length_filter_isNotFound]

namespace Policy

/-! ### The leader -/

theorem foldl_better_eq_none_iff {candidates : List (Leader α)} :
    candidates.foldl Leader.better none = none ↔ candidates = [] := by
  rcases List.eq_nil_or_concat candidates with rfl | ⟨earlier, c, rfl⟩
  · simp
  · rw [List.concat_eq_append, List.foldl_append, List.foldl_cons, List.foldl_nil]
    refine iff_of_false ?_ (by simp)
    unfold Leader.better
    split
    · split <;> nofun
    · nofun

/-- Whoever leads in the end has more votes than every candidate before, and no fewer than every
one after. -/
theorem exists_append_of_foldl_better {candidates : List (Leader α)} {leader : Leader α}
    (h : candidates.foldl Leader.better none = some leader) :
    ∃ before after, candidates = before ++ leader :: after ∧
      (∀ c ∈ before, c.votes < leader.votes) ∧ ∀ c ∈ after, c.votes ≤ leader.votes := by
  -- from the right, since the leader so far is what meets the next candidate
  induction candidates using List.reverseRecOn generalizing leader with
  | nil => cases h
  | append_singleton earlier c ih =>
    rw [List.foldl_append, List.foldl_cons, List.foldl_nil] at h
    cases hbest : earlier.foldl Leader.better none with
    | none =>
      rw [hbest] at h
      cases h
      rw [foldl_better_eq_none_iff.1 hbest]
      exact ⟨[], [], rfl, nofun, nofun⟩
    | some best =>
      obtain ⟨before, after, rfl, hbefore, hafter⟩ := ih hbest
      rw [hbest, Leader.better] at h
      split at h
      · next hle =>
        cases h
        refine ⟨before, after ++ [c], by simp, hbefore, ?_⟩
        intro other hother
        rcases List.mem_append.1 hother with hother | hother
        · exact hafter other hother
        · rw [List.mem_singleton.1 hother]
          exact hle
      · next hlt =>
        cases h
        refine ⟨before ++ best :: after, [], rfl, ?_, nofun⟩
        intro other hother
        rcases List.mem_append.1 hother with hother | hother
        · have := hbefore other hother
          omega
        · rcases List.mem_cons.1 hother with rfl | hother
          · omega
          · have := hafter other hother
            omega

variable [BEq α] {values : List α} {leader other : Leader α}

theorem getElem?_candidates (values : List α) (index : Nat) :
    (candidates values)[index]? =
      values[index]?.map fun value => ⟨index, value, values.count value⟩ := by
  simp [candidates, List.getElem?_zipIdx, Function.comp_def]

/-- A value leads at its place: none has more votes, and those that come before have fewer. -/
structure IsLeading (values : List α) (leader : Leader α) : Prop where
  here : values[leader.index]? = some leader.value
  votes : leader.votes = values.count leader.value
  most : ∀ v ∈ values, values.count v ≤ leader.votes
  first : ∀ i < leader.index, ∀ v, values[i]? = some v → values.count v < leader.votes

/-- There is a leader where there are values. -/
theorem leading_eq_none_iff : leading values = none ↔ values = [] := by
  rw [leading, foldl_better_eq_none_iff]
  simp [candidates]

theorem isLeading_of_leading (h : leading values = some leader) : IsLeading values leader := by
  obtain ⟨before, after, hsplit, hbefore, hafter⟩ := exists_append_of_foldl_better h
  have hcandidate (i : Nat) {v : α} (hi : values[i]? = some v) :
      (candidates values)[i]? = some ⟨i, v, values.count v⟩ := by
    rw [getElem?_candidates, hi]
    rfl
  have hplace : (candidates values)[before.length]? = some leader := by
    rw [hsplit, List.getElem?_append_right (Nat.le_refl _), Nat.sub_self]
    rfl
  rw [getElem?_candidates, Option.map_eq_some_iff] at hplace
  obtain ⟨value, hvalue, rfl⟩ := hplace
  refine ⟨hvalue, rfl, ?_, ?_⟩
  · intro v hv
    obtain ⟨i, hi⟩ := List.mem_iff_getElem?.1 hv
    have hmem := List.mem_of_getElem? (hcandidate i hi)
    rw [hsplit, List.mem_append, List.mem_cons] at hmem
    rcases hmem with hmem | heq | hmem
    · exact Nat.le_of_lt (hbefore _ hmem)
    · exact Nat.le_of_eq (congrArg Leader.votes heq)
    · exact hafter _ hmem
  · intro i hi v hv
    have hget := hcandidate i hv
    rw [hsplit, List.getElem?_append_left hi] at hget
    exact hbefore _ (List.mem_of_getElem? hget)

/-- A value that leads does not come after another one that does. -/
theorem IsLeading.index_le (h : IsLeading values leader) (h' : IsLeading values other) :
    leader.index ≤ other.index := by
  by_contra hlt
  have hfewer := h.first other.index (by omega) other.value h'.here
  have hmost := h'.most leader.value (List.mem_of_getElem? h.here)
  rw [← h'.votes] at hfewer
  rw [← h.votes] at hmost
  omega

/-- So there is only one. -/
theorem IsLeading.unique (h : IsLeading values leader) (h' : IsLeading values other) :
    leader = other := by
  obtain ⟨index, value, votes⟩ := leader
  obtain ⟨index', value', votes'⟩ := other
  obtain rfl : index = index' := Nat.le_antisymm (h.index_le h') (h'.index_le h)
  obtain rfl : value = value' := Option.some.inj (h.here.symm.trans h'.here)
  obtain rfl : votes = votes' := h.votes.trans h'.votes.symm
  rfl

theorem leading_eq_some_iff : leading values = some leader ↔ IsLeading values leader := by
  refine ⟨isLeading_of_leading, fun h => ?_⟩
  cases hlead : leading values with
  | none =>
    have hnil := leading_eq_none_iff.1 hlead
    have hhere := h.here
    rw [hnil] at hhere
    cases hhere
  | some other => rw [(isLeading_of_leading hlead).unique h]

example : leading [1, 2, 2, 1] = some ⟨0, 1, 2⟩ := rfl

theorem mostVotes_eq_iff {votes : Nat} :
    mostVotes values = votes ↔
      values = [] ∧ votes = 0 ∨ ∃ leader, IsLeading values leader ∧ votes = leader.votes := by
  simp only [← leading_eq_none_iff, ← leading_eq_some_iff, mostVotes]
  cases leading values <;> simp [eq_comm]

theorem mostVotes_cases (values : List α) :
    values = [] ∧ mostVotes values = 0 ∨
      ∃ leader, IsLeading values leader ∧ mostVotes values = leader.votes :=
  mostVotes_eq_iff.1 rfl

/-! ### What majorities decide -/

/-- No value has a majority. -/
def IsMinority (reports : List (Report α)) (quorum : Nat) : Prop :=
  ∀ v ∈ reports.filterMap Report.value?, (reports.filterMap Report.value?).count v < quorum / 2 + 1

variable {reports : List (Report α)} {quorum : Nat}

theorem IsMinority.votes_lt (minority : IsMinority reports quorum)
    (lead : IsLeading (reports.filterMap Report.value?) leader) :
    leader.votes < quorum / 2 + 1 := by
  rw [lead.votes]
  exact minority leader.value (List.mem_of_getElem? lead.here)

theorem isMinority_iff :
    IsMinority reports quorum ↔ mostVotes (reports.filterMap Report.value?) < quorum / 2 + 1 := by
  rcases mostVotes_cases (reports.filterMap Report.value?) with
    ⟨hnil, hzero⟩ | ⟨leader, lead, hmost⟩
  · rw [hzero]
    exact iff_of_true (by simp [IsMinority, hnil]) (Nat.succ_pos _)
  · rw [hmost]
    exact ⟨fun minority => minority.votes_lt lead,
      fun hfewer v hv => Nat.lt_of_le_of_lt (lead.most v hv) hfewer⟩

/-- Either no value has a majority or there is a leader with one. -/
theorem isLeading_or_isMinority (reports : List (Report α)) (quorum : Nat) :
    (∃ leader, IsLeading (reports.filterMap Report.value?) leader ∧
      quorum / 2 + 1 ≤ leader.votes) ∨ IsMinority reports quorum := by
  rw [isMinority_iff]
  rcases mostVotes_cases (reports.filterMap Report.value?) with
    ⟨-, hzero⟩ | ⟨leader, lead, hmost⟩
  · omega
  · rw [hmost, ← Nat.not_le]
    exact (em _).imp_left fun most => ⟨leader, lead, most⟩

/-- A leader with a majority counts. -/
theorem majority_select_of_isLeading (lead : IsLeading (reports.filterMap Report.value?) leader)
    (most : quorum / 2 + 1 ≤ leader.votes) :
    majority.select reports quorum = .found leader.value := by
  simp only [majority, Tally.values_ofReports, leading_eq_some_iff.2 lead]
  exact if_pos most

theorem majority_select_of_isMinority (minority : IsMinority reports quorum) :
    majority.select reports quorum = selectAbsent (Tally.ofReports reports) quorum := by
  simp only [majority, Tally.values_ofReports]
  cases hlead : leading (reports.filterMap Report.value?) with
  | none => rfl
  | some leader => exact if_neg (Nat.not_le.2 (minority.votes_lt (isLeading_of_leading hlead)))

/-- What is chosen if no value has a majority. -/
theorem selectAbsent_cases (tally : Tally α) (quorum : Nat) :
    quorum / 2 + 1 ≤ tally.notFound.length ∧ selectAbsent tally quorum = .notFound ∨
      tally.notFound.length < quorum / 2 + 1 ∧
        (tally.successes = [] ∧ tally.notFound = [] ∧
            selectAbsent tally quorum = .failed tally.failures ∨
          (tally.successes ≠ [] ∨ tally.notFound ≠ []) ∧
            selectAbsent tally quorum =
              .inconclusive (noMajority quorum (mostVotes tally.values) tally.notFound.length)
                tally.failures) := by
  unfold selectAbsent threshold
  split
  · next h => exact .inl ⟨h, rfl⟩
  · next h =>
    refine .inr ⟨Nat.not_le.1 h, ?_⟩
    split
    · next hnone =>
      rw [Bool.and_eq_true, List.isEmpty_iff, List.isEmpty_iff] at hnone
      exact .inl ⟨hnone.1, hnone.2, rfl⟩
    · next hsome =>
      rw [Bool.and_eq_true, List.isEmpty_iff, List.isEmpty_iff, not_and_or] at hsome
      exact .inr ⟨hsome, rfl⟩

variable (reports)

/-- The policy of majorities is settled only by a majority or if everyone has reported. -/
theorem majority_isSettled {dispatched : Nat}
    (h : (majority : Policy α).isSettled reports dispatched = true) :
    dispatched ≤ reports.length ∨ dispatched < 2 * Report.denials reports ∨
      ∃ v, dispatched < 2 * Report.votes reports v := by
  simp only [majority, Bool.or_eq_true, decide_eq_true_eq, threshold_le_iff,
    Report.length_filter_isNotFound] at h
  rcases h with (hall | hdenials) | hvotes
  · exact .inl hall
  · exact .inr (.inl hdenials)
  · rcases mostVotes_cases (reports.filterMap Report.value?) with
      ⟨-, hzero⟩ | ⟨leader, lead, hmost⟩
    · rw [hzero] at hvotes
      exact absurd hvotes (Nat.not_lt_zero _)
    · rw [hmost, lead.votes, Report.count_values] at hvotes
      exact .inr (.inr ⟨leader.value, hvotes⟩)

variable [PartialEquivBEq α]

/-- If no reported value has a majority, then neither has any other one. -/
theorem IsMinority.votes_le (minority : IsMinority reports quorum) (v : α) :
    2 * Report.votes reports v ≤ quorum := by
  by_cases hv : Report.votes reports v = 0
  · omega
  · -- nobody need have reported `v` itself, but somebody reported an equal value
    obtain ⟨w, hw, hvotes⟩ := Report.exists_votes_eq hv
    have hfewer := minority w hw
    rw [Report.count_values, hvotes] at hfewer
    omega

/-- What the policy of majorities chooses: a value with a majority, or else that there is no such
thing if this has one, or else nothing. -/
theorem majority_select_cases (quorum : Nat) :
    (∃ v ∈ reports.filterMap Report.value?, majority.select reports quorum = .found v ∧
        quorum < 2 * Report.votes reports v) ∨
      (∀ v, 2 * Report.votes reports v ≤ quorum) ∧
        (majority.select reports quorum = .notFound ∧ quorum < 2 * Report.denials reports ∨
          2 * Report.denials reports ≤ quorum ∧ ∃ failures,
            majority.select reports quorum = .failed failures ∨
              ∃ reason, majority.select reports quorum = .inconclusive reason failures) := by
  rcases isLeading_or_isMinority reports quorum with ⟨leader, lead, most⟩ | minority
  · have hvotes : leader.votes = Report.votes reports leader.value := by
      rw [lead.votes, Report.count_values]
    exact .inl ⟨leader.value, List.mem_of_getElem? lead.here,
      majority_select_of_isLeading lead most, by omega⟩
  · right
    refine ⟨minority.votes_le, ?_⟩
    have hcases := selectAbsent_cases (Tally.ofReports reports) quorum
    rw [← majority_select_of_isMinority minority, Tally.length_notFound_ofReports] at hcases
    rcases hcases with ⟨hmany, hselect⟩ | ⟨hfew, hselect⟩
    · exact .inl ⟨hselect, by omega⟩
    · refine .inr ⟨by omega, (Tally.ofReports reports).failures, ?_⟩
      rcases hselect with ⟨-, -, hfailed⟩ | ⟨-, hopen⟩
      · exact .inl hfailed
      · exact .inr ⟨_, hopen⟩

end Policy

end Beacon

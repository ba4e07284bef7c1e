import Beacon.Proofs.Pool.Vote

/-!
# Choices by majority

What the policy of majorities chooses from any reports, as the answer of any quorum, even of one
that is smaller than the number of reports. The reports are sorted by kind, which loses none of them
and counts none twice (`Tally.reports_ofReports`). A leader with a majority counts
(`Policy.majority_select_of_isLeading`); if no value has one (`Policy.IsMinority`), what is chosen
depends on the other reports, with one equivalence for each choice. Values may be compared by any
test, even by one that is no equality.
-/

namespace Beacon

variable {α : Type}

/-! ### The tally -/

namespace Tally

/-- The reports of a tally, kind by kind. -/
def reports (tally : Tally α) : List (Report α) :=
  tally.successes.map (fun success => ⟨success.1, .success success.2⟩) ++
    (tally.notFound.map (fun address => ⟨address, .notFound⟩) ++
      tally.failures.map fun failure => ⟨failure.1, .failure failure.2⟩)

theorem successes_ofReports (reports : List (Report α)) :
    (ofReports reports).successes.map (fun success => ⟨success.1, .success success.2⟩) =
      reports.filter Report.isSuccess := by
  rw [ofReports, List.map_filterMap, ← List.filterMap_eq_filter]
  refine List.filterMap_congr fun r _ => ?_
  obtain ⟨address, outcome⟩ := r
  cases outcome <;> rfl

theorem notFound_ofReports (reports : List (Report α)) :
    (ofReports reports).notFound.map (fun address => ⟨address, .notFound⟩) =
      reports.filter Report.isNotFound := by
  rw [ofReports, List.map_map]
  refine (List.map_congr_left fun r hr => ?_).trans (List.map_id _)
  obtain ⟨address, outcome⟩ := r
  cases outcome with
  | notFound => rfl
  | success | failure => cases (List.mem_filter.1 hr).2

theorem failures_ofReports (reports : List (Report α)) :
    (ofReports reports).failures.map (fun failure => ⟨failure.1, .failure failure.2⟩) =
      reports.filter fun r => r.failure?.isSome := by
  rw [ofReports, List.map_filterMap, ← List.filterMap_eq_filter]
  refine List.filterMap_congr fun r _ => ?_
  obtain ⟨address, outcome⟩ := r
  cases outcome <;> rfl

theorem getElem?_successes_ofReports {reports : List (Report α)} {index : Nat} {value : α} :
    (∃ address, (ofReports reports).successes[index]? = some (address, value)) ↔
      (reports.filterMap Report.value?)[index]? = some value := by
  simp [← values_ofReports, values, Option.map_eq_some_iff]

theorem successes_ofReports_eq_nil_iff {reports : List (Report α)} :
    (ofReports reports).successes = [] ↔ reports.filterMap Report.value? = [] := by
  rw [← values_ofReports, values, List.map_eq_nil_iff]

theorem notFound_ofReports_eq_nil_iff {reports : List (Report α)} :
    (ofReports reports).notFound = [] ↔ Report.denials reports = 0 := by
  rw [← length_notFound_ofReports, List.length_eq_zero_iff]

/-- No report is lost, and none is counted twice. -/
theorem reports_ofReports (reports : List (Report α)) :
    (ofReports reports).reports.Perm reports := by
  rw [Tally.reports, successes_ofReports, notFound_ofReports, failures_ofReports]
  induction reports with
  | nil => exact .nil
  | cons r rest ih =>
    obtain ⟨address, outcome⟩ := r
    cases outcome with
    | success value => exact ih.cons _
    | notFound => exact List.perm_middle.trans (ih.cons _)
    | failure cause =>
      refine .trans ?_ (ih.cons _)
      rw [← List.append_assoc, ← List.append_assoc]
      exact List.perm_middle

end Tally

namespace Policy

variable [BEq α] {reports : List (Report α)} {quorum : Nat}

/-! ### The choice -/

theorem selectAbsent_eq_notFound_iff {tally : Tally α} :
    selectAbsent tally quorum = .notFound ↔ quorum / 2 + 1 ≤ tally.notFound.length := by
  rcases selectAbsent_cases tally quorum with ⟨h, e⟩ | ⟨h, ⟨-, -, e⟩ | ⟨-, e⟩⟩
  · exact iff_of_true e h
  · exact iff_of_false (by simp [e]) (Nat.not_le.2 h)
  · exact iff_of_false (by simp [e]) (Nat.not_le.2 h)

theorem selectAbsent_eq_failed_iff {tally : Tally α} {failures : List MemberFailure} :
    selectAbsent tally quorum = .failed failures ↔
      tally.successes = [] ∧ tally.notFound = [] ∧ failures = tally.failures := by
  rcases selectAbsent_cases tally quorum with ⟨h, e⟩ | ⟨-, ⟨hvalues, hdenials, e⟩ | ⟨hsome, e⟩⟩
  · have hdenials : tally.notFound ≠ [] := List.ne_nil_of_length_pos (by omega)
    simp [e, hdenials]
  · simp [e, hvalues, hdenials, eq_comm]
  · exact iff_of_false (by simp [e]) fun hnone => hsome.elim (· hnone.1) (· hnone.2.1)

theorem selectAbsent_eq_inconclusive_iff {tally : Tally α} {reason : String}
    {failures : List MemberFailure} :
    selectAbsent tally quorum = .inconclusive reason failures ↔
      tally.notFound.length < quorum / 2 + 1 ∧ (tally.successes ≠ [] ∨ tally.notFound ≠ []) ∧
        reason = noMajority quorum (mostVotes tally.values) tally.notFound.length ∧
        failures = tally.failures := by
  rcases selectAbsent_cases tally quorum with ⟨h, e⟩ | ⟨h, ⟨hvalues, hdenials, e⟩ | ⟨hsome, e⟩⟩
  · simp [e, Nat.not_lt.2 h]
  · simp [e, hvalues, hdenials]
  · simp [e, h, hsome, eq_comm]

theorem selectAbsent_ne_found {tally : Tally α} {v : α} :
    selectAbsent tally quorum ≠ .found v := by
  rcases selectAbsent_cases tally quorum with ⟨-, e⟩ | ⟨-, ⟨-, -, e⟩ | ⟨-, e⟩⟩ <;> simp [e]

theorem majority_select_eq_found_iff {v : α} :
    majority.select reports quorum = .found v ↔
      ∃ leader, IsLeading (reports.filterMap Report.value?) leader ∧
        quorum / 2 + 1 ≤ leader.votes ∧ leader.value = v := by
  constructor
  · intro h
    rcases isLeading_or_isMinority reports quorum with ⟨leader, lead, most⟩ | minority
    · rw [majority_select_of_isLeading lead most] at h
      exact ⟨leader, lead, most, Selection.found.inj h⟩
    · rw [majority_select_of_isMinority minority] at h
      exact absurd h selectAbsent_ne_found
  · rintro ⟨leader, lead, most, rfl⟩
    exact majority_select_of_isLeading lead most

/-- What is chosen if it is no value. -/
theorem majority_select_eq_iff {selection : Selection α} (h : ∀ v, selection ≠ .found v) :
    majority.select reports quorum = selection ↔
      IsMinority reports quorum ∧ selectAbsent (Tally.ofReports reports) quorum = selection := by
  rcases isLeading_or_isMinority reports quorum with ⟨leader, lead, most⟩ | minority
  · rw [majority_select_of_isLeading lead most]
    exact iff_of_false (h leader.value).symm fun hboth =>
      absurd (hboth.1.votes_lt lead) (Nat.not_lt.2 most)
  · rw [majority_select_of_isMinority minority, and_iff_right minority]

/-- The value that is chosen stands in the tally at the place of the leader. -/
theorem majority_select_eq_found_iff_getElem? {v : α} :
    majority.select reports quorum = .found v ↔
      ∃ leader address, IsLeading (reports.filterMap Report.value?) leader ∧
        quorum / 2 + 1 ≤ leader.votes ∧
        (Tally.ofReports reports).successes[leader.index]? = some (address, v) := by
  rw [majority_select_eq_found_iff]
  constructor
  · rintro ⟨leader, lead, most, rfl⟩
    obtain ⟨address, hplace⟩ := Tally.getElem?_successes_ofReports.2 lead.here
    exact ⟨leader, address, lead, most, hplace⟩
  · rintro ⟨leader, address, lead, most, hplace⟩
    have hvalue := Tally.getElem?_successes_ofReports.1 ⟨address, hplace⟩
    exact ⟨leader, lead, most, Option.some.inj (lead.here.symm.trans hvalue)⟩

theorem majority_select_eq_notFound_iff :
    majority.select reports quorum = .notFound ↔
      IsMinority reports quorum ∧ quorum / 2 + 1 ≤ Report.denials reports := by
  rw [majority_select_eq_iff nofun, selectAbsent_eq_notFound_iff, Tally.length_notFound_ofReports]

theorem majority_select_eq_failed_iff {failures : List MemberFailure} :
    majority.select reports quorum = .failed failures ↔
      reports.filterMap Report.value? = [] ∧ Report.denials reports = 0 ∧
        failures = reports.filterMap Report.failure? := by
  rw [majority_select_eq_iff nofun, selectAbsent_eq_failed_iff,
    Tally.successes_ofReports_eq_nil_iff, Tally.notFound_ofReports_eq_nil_iff,
    and_iff_right_of_imp]
  · rfl
  · -- no value has a majority where there is none
    rintro ⟨hnil, -, -⟩ v hv
    rw [hnil] at hv
    cases hv

theorem majority_select_eq_inconclusive_iff {reason : String} {failures : List MemberFailure} :
    majority.select reports quorum = .inconclusive reason failures ↔
      IsMinority reports quorum ∧ Report.denials reports < quorum / 2 + 1 ∧
        (reports.filterMap Report.value? ≠ [] ∨ Report.denials reports ≠ 0) ∧
        failures = reports.filterMap Report.failure? ∧
        ∃ best, (reports.filterMap Report.value? = [] ∧ best = 0 ∨
            ∃ leader, IsLeading (reports.filterMap Report.value?) leader ∧ best = leader.votes) ∧
          reason = s!"no answer reached {quorum / 2 + 1} of {quorum} votes " ++
            s!"(best answer {best}, not found {Report.denials reports})" := by
  rw [majority_select_eq_iff nofun, selectAbsent_eq_inconclusive_iff, ne_eq, ne_eq,
    Tally.successes_ofReports_eq_nil_iff, Tally.notFound_ofReports_eq_nil_iff,
    Tally.length_notFound_ofReports, Tally.values_ofReports]
  constructor
  · rintro ⟨minority, hfewer, hsome, rfl, rfl⟩
    exact ⟨minority, hfewer, hsome, rfl, _, mostVotes_eq_iff.1 rfl, rfl⟩
  · rintro ⟨minority, hfewer, hsome, rfl, best, hbest, rfl⟩
    obtain rfl := mostVotes_eq_iff.2 hbest
    exact ⟨minority, hfewer, hsome, rfl, rfl⟩

/-- **Choices by majority.** Nothing leads among no values; otherwise one value does, at its place,
so that no value has more votes and all values before it have fewer. From any reports and with any
quorum a value is chosen if and only if it leads and has the votes for a majority of the quorum, and
then it is the value that stands at the place of the leader. If no value has a majority, it is
chosen that there is no such thing if this has one. Otherwise nothing is chosen, and all failures
are told in the order of the reports: alone if there is nothing else, or else with a reason, which
tells the votes of the leader, or 0 if there are no values, and how many reports there are that
there is no such thing. Sorting the reports by kind keeps their order, loses none of them and counts
none twice. -/
theorem selects_majority :
    (∀ values : List α, leading values = none ↔ values = []) ∧
    (∀ (values : List α) leader, leading values = some leader ↔ IsLeading values leader) ∧
    (∀ (reports : List (Report α)) quorum v, majority.select reports quorum = .found v ↔
      ∃ leader address, IsLeading (reports.filterMap Report.value?) leader ∧
        quorum / 2 + 1 ≤ leader.votes ∧
        (Tally.ofReports reports).successes[leader.index]? = some (address, v)) ∧
    (∀ (reports : List (Report α)) quorum, majority.select reports quorum = .notFound ↔
      IsMinority reports quorum ∧ quorum / 2 + 1 ≤ Report.denials reports) ∧
    (∀ (reports : List (Report α)) quorum failures,
      majority.select reports quorum = .failed failures ↔
        reports.filterMap Report.value? = [] ∧ Report.denials reports = 0 ∧
          failures = reports.filterMap Report.failure?) ∧
    (∀ (reports : List (Report α)) quorum reason failures,
      majority.select reports quorum = .inconclusive reason failures ↔
        IsMinority reports quorum ∧ Report.denials reports < quorum / 2 + 1 ∧
          (reports.filterMap Report.value? ≠ [] ∨ Report.denials reports ≠ 0) ∧
          failures = reports.filterMap Report.failure? ∧
          ∃ best, (reports.filterMap Report.value? = [] ∧ best = 0 ∨
              ∃ leader, IsLeading (reports.filterMap Report.value?) leader ∧ best = leader.votes) ∧
            reason = s!"no answer reached {quorum / 2 + 1} of {quorum} votes " ++
              s!"(best answer {best}, not found {Report.denials reports})") ∧
    ∀ reports : List (Report α), (Tally.ofReports reports).reports.Perm reports ∧
      (Tally.ofReports reports).successes.map (fun success => ⟨success.1, .success success.2⟩) =
        reports.filter Report.isSuccess ∧
      (Tally.ofReports reports).notFound.map (fun address => ⟨address, .notFound⟩) =
        reports.filter Report.isNotFound ∧
      (Tally.ofReports reports).failures.map (fun failure => ⟨failure.1, .failure failure.2⟩) =
        reports.filter fun r => r.failure?.isSome :=
  ⟨fun _ => leading_eq_none_iff, fun _ _ => leading_eq_some_iff,
    fun _ _ _ => majority_select_eq_found_iff_getElem?, fun _ _ => majority_select_eq_notFound_iff,
    fun _ _ _ => majority_select_eq_failed_iff,
    fun _ _ _ _ => majority_select_eq_inconclusive_iff,
    fun reports => ⟨Tally.reports_ofReports reports, Tally.successes_ofReports reports,
      Tally.notFound_ofReports reports, Tally.failures_ofReports reports⟩⟩

end Policy

end Beacon

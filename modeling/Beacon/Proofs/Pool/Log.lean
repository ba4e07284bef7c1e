import Beacon.Proofs.Pool.Collection

/-!
# What a call notes

A call notes in its log when it looks at the ends of tasks, what it logs as a warning, and its own
end; its members note the rest. `Dispatch.ownLog_cases` says what the call notes itself,
`Dispatch.warnings_ownLog` which warnings are among that, and `Dispatch.starts_course_le` that
nobody is asked but by the members.
-/

namespace Beacon

namespace Log

variable {log log' : Log}

theorem starts_eq_zero {place : List Nat} (h : ∀ note ∈ log, note.event ≠ .started) :
    log.starts place = 0 := by
  refine List.countP_eq_zero.2 fun note hnote => ?_
  have := h note hnote
  cases hevent : note.event <;> simp_all

theorem starts_append (place : List Nat) :
    starts (log ++ log') place = log.starts place + log'.starts place := List.countP_append

theorem starts_le_of_sublist (h : log.Sublist log') (place : List Nat) :
    log.starts place ≤ log'.starts place := h.countP_le

/-- Who is cut off has not been asked since. -/
theorem starts_cut_le (below : List Nat) (finish : Moment) (tell : Nat → Moment)
    (place : List Nat) : (log.cut below finish tell).starts place ≤ log.starts place := by
  unfold cut
  simp only
  rw [starts_append]
  refine Nat.add_le_add (starts_le_of_sublist List.filter_sublist place)
    (Nat.le_of_eq (starts_eq_zero fun note hnote => ?_))
  obtain ⟨stopped, -, rfl⟩ := List.mem_map.1 hnote
  exact nofun

end Log

namespace Dispatch

variable {α : Type} (d : Dispatch α)

theorem length_looksAfter (look : Moment) (moments : List Moment) :
    (looksAfter look moments).length = moments.length := by
  induction moments generalizing look with
  | nil => rfl
  | cons moment rest ih => simp [looksAfter, ih]

theorem length_looks : d.looks.length = d.arrivals.length := by
  unfold looks arrivals
  split
  · simp
  · split <;> simp [length_looksAfter]

/-- The call takes notice of the ends of tasks in the order in which they come. -/
theorem map_snd_timedReceived :
    d.timedReceived.map Prod.snd = d.toOperation.received d.arrivals := by
  refine List.map_snd_zip ?_
  rw [length_looks]
  exact (d.toOperation.received_prefix d.arrivals).length_le

variable {d}

/-- What a call notes itself: that it looks, what it logs as a warning, and that it ends. -/
theorem ownLog_cases {note : Note} (h : note ∈ d.ownLog) :
    note.place = d.place ∧
      (note.event = .looked ∨ (∃ warning, note.event = .warned warning) ∨
        note.event = .concluded) := by
  rcases List.mem_append.1 h with h | h
  · obtain ⟨⟨look, a⟩, -, h⟩ := List.mem_flatMap.1 h
    rcases List.mem_cons.1 h with rfl | h
    · exact ⟨rfl, .inl rfl⟩
    · obtain ⟨warning, -, rfl⟩ := Option.map_eq_some_iff.1 (Option.mem_toList.1 h)
      exact ⟨rfl, .inr (.inl ⟨warning, rfl⟩)⟩
  · obtain ⟨finish, -, rfl⟩ := Option.map_eq_some_iff.1 (Option.mem_toList.1 h)
    exact ⟨rfl, .inr (.inr rfl)⟩

theorem mem_log_of_mem_ownLog {note : Note} (h : note ∈ d.ownLog) : note ∈ d.course.log := by
  refine (List.mergeSort_perm ..).mem_iff.2 (List.mem_cons_of_mem _ ?_)
  exact List.mem_append_right _ h

variable (d)

/-- What a call notes itself has the warnings of its operation. -/
theorem warnings_ownLog : d.ownLog.warnings = d.toOperation.warnings d.arrivals := by
  have hconcluded : Log.warnings
      (d.finish?.map fun finish => (⟨finish, d.place, .concluded⟩ : Note)).toList = [] := by
    cases d.finish? <;> rfl
  unfold Operation.warnings
  rw [← map_snd_timedReceived, List.filterMap_map]
  rw [Log.warnings] at hconcluded ⊢
  rw [ownLog, List.filterMap_append, hconcluded, List.append_nil]
  induction d.timedReceived with
  | nil => rfl
  | cons received rest ih =>
    rw [List.flatMap_cons, List.filterMap_append, ih, List.filterMap_cons]
    cases h : received.2.warning? d.toOperation.address <;> simp [h]

/-- In a call nobody is asked but by its members. -/
theorem starts_course_le (place : List Nat) :
    d.course.log.starts place ≤ d.teamLog.starts place := by
  have hown : d.ownLog.starts place = 0 := Log.starts_eq_zero fun note hnote => by
    obtain ⟨-, h | ⟨warning, h⟩ | h⟩ := ownLog_cases hnote <;> simp [h]
  have hkept : d.keptLog.starts place ≤ d.teamLog.starts place := by
    unfold keptLog
    split
    · exact Log.starts_cut_le ..
    · exact Nat.le_refl _
  let dispatched : Log :=
    [⟨d.start, d.place, .dispatched d.number d.operation d.policy.name d.size⟩]
  have hdispatched : dispatched.starts place = 0 := Log.starts_eq_zero (by simp [dispatched])
  have hlog : d.course.log.starts place =
      Log.starts (dispatched ++ d.keptLog ++ d.ownLog) place :=
    (List.mergeSort_perm ..).countP_eq _
  calc d.course.log.starts place
      = dispatched.starts place + d.keptLog.starts place + d.ownLog.starts place := by
        rw [hlog, Log.starts_append, Log.starts_append]
    _ = d.keptLog.starts place := by rw [hdispatched, hown, Nat.zero_add, Nat.add_zero]
    _ ≤ d.teamLog.starts place := hkept

end Dispatch

end Beacon

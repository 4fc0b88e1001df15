import SampledEviction.Proofs.Ledger

/-!
# How long a wait lasts

A wait for background releases is a loop that nothing but its limit need ever end: it polls, looks
at what came back, and sleeps for a millisecond, as long as the limit allows. It counts the time
slept so far.

* `run_waitStep` — the wait is this loop, which ends within one turn more than the limit
* `waitTurn`, `Awaiting.turn` — what one turn does, and what it keeps
* `giveUp_patient` — what a whole wait does
-/

namespace SampledEviction

variable {σ : Type}

namespace Deed

/-- The sleeps, in milliseconds, the latest first. -/
def sleeps (deeds : List (Deed σ)) : List Nat :=
  deeds.filterMap fun
    | .slept ms => some ms
    | _ => none

end Deed

/-- A cycle at a site with a ledger. -/
def Cycle.recorded (c : Cycle σ) (deeds : List (Deed σ)) : Cycle (Recorded σ) :=
  ⟨c.scene.recorded deeds, c.freed, c.keys, c.notices⟩

namespace Evictor

open Deed

variable {d : Dataset σ} {server : Server σ} {clock : Clock σ} {o : Overage}
  {freed limit waited : Nat} {deeds : List (Deed σ)}

/-! ## The wait as a loop -/

/-- One turn of a wait, when it has lasted for some milliseconds. -/
def waitStep (d : Dataset σ) (server : Server σ) (clock : Clock σ) (o : Overage)
    (freed limit : Nat) : Nat × σ → Option ((Nat × σ) ⊕ (Except EvictionError Outcome × σ))
  | (waited, site) =>
    let (pending, site) := d.pendingReleases site
    if pending = 0 then
      if waited = 0 then some (.inr (.ok (.blocked .noCandidates), site))
      else
        match o.reclaimed server freed site with
        | (.error e, site) => some (.inr (.error e, site))
        | (.ok true, site) => some (.inr (.ok .ok, site))
        | (.ok false, site) => some (.inr (.ok (.blocked .noCandidates), site))
    else
      match o.reclaimed server freed site with
      | (.error e, site) => some (.inr (.error e, site))
      | (.ok true, site) => some (.inr (.ok .ok, site))
      | (.ok false, site) =>
        if limit ≤ waited then some (.inr (.ok (.blocked .noCandidates), site))
        else some (.inl (waited + 1, clock.sleep 1 site))

/-- When nothing is pending a wait ends with this turn, at any time. -/
theorem run_waitStep_of_drained {site : σ} (hdrained : (d.pendingReleases site).1 = 0)
    (remaining : Nat) :
    Loop.run (waitStep d server clock o freed limit) (remaining + 1) (waited, site)
      = some (awaitReleases d server clock o freed remaining (decide (waited ≠ 0)) site) := by
  rw [Loop.run, awaitReleases]
  by_cases hwaited : waited = 0
  · simp [waitStep, hdrained, hwaited]
  · rcases hlook : o.reclaimed server freed (d.pendingReleases site).2 with ⟨_ | _ | _, site'⟩
    all_goals simp [waitStep, hdrained, hlook, hwaited]

/-- With `remaining` milliseconds left of its limit a wait ends within as many turns and one. -/
theorem run_waitStep (d : Dataset σ) (server : Server σ) (clock : Clock σ) (o : Overage)
    (freed : Nat) {remaining : Nat} (hlimit : waited + remaining = limit) (site : σ) :
    Loop.run (waitStep d server clock o freed limit) (remaining + 1) (waited, site)
      = some (awaitReleases d server clock o freed remaining (decide (waited ≠ 0)) site) := by
  induction remaining generalizing waited site with
  | zero =>
    by_cases hdrained : (d.pendingReleases site).1 = 0
    · exact run_waitStep_of_drained hdrained 0
    have hover : limit ≤ waited := by omega
    rw [Loop.run, awaitReleases]
    rcases hlook : o.reclaimed server freed (d.pendingReleases site).2 with ⟨_ | _ | _, site'⟩
    all_goals simp [waitStep, hdrained, hlook, hover]
  | succ remaining ih =>
    by_cases hdrained : (d.pendingReleases site).1 = 0
    · exact run_waitStep_of_drained hdrained (remaining + 1)
    have hunder : ¬ limit ≤ waited := by omega
    rw [Loop.run, awaitReleases]
    rcases hlook : o.reclaimed server freed (d.pendingReleases site).2 with ⟨_ | _ | _, site'⟩
    · simp [waitStep, hdrained, hlook]
    · have hrest := @ih (waited + 1) (by omega) (clock.sleep 1 site')
      simpa [waitStep, hdrained, hlook, hunder] using hrest
    · simp [waitStep, hdrained, hlook]

/-! ## One turn -/

/-- The ends of a turn, with its deeds: a poll, a look at what came back unless there is nothing to
wait for from the start, and a sleep if the wait goes on. -/
inductive WaitTurn (limit waited : Nat) (deeds : List (Deed σ)) :
    (Nat × Recorded σ) ⊕ (Except EvictionError Outcome × Recorded σ) → Prop where
  | idle (site : σ) : WaitTurn limit waited deeds
    (.inr (.ok (.blocked .noCandidates), ⟨site, .polled 0 :: deeds⟩))
  | ended (n : Nat) (answer : Except EvictionError Outcome) (reading : Except EvictionError Nat)
    (site : σ) (hblocked : ∀ reason, answer = .ok (.blocked reason) →
      reason = .noCandidates ∧ (n = 0 ∨ limit ≤ waited)) :
    WaitTurn limit waited deeds (.inr (answer, ⟨site, .read reading site :: .polled n :: deeds⟩))
  | slept (n : Nat) (reading : Except EvictionError Nat) (site site' : σ) (hn : n ≠ 0)
    (hunder : waited < limit) :
    WaitTurn limit waited deeds
      (.inl (waited + 1, ⟨site', .slept 1 :: .read reading site :: .polled n :: deeds⟩))

theorem waitTurn {r : Recorded σ} {x : (Nat × Recorded σ) ⊕ (Except EvictionError Outcome ×
      Recorded σ)} (h : waitStep (Recorded.dataset d) (Recorded.server server)
      (Recorded.clock clock) o freed limit (waited, r) = some x) :
    WaitTurn limit waited r.deeds x := by
  unfold waitStep at h
  rcases hpoll : d.pendingReleases r.site with ⟨n, site⟩
  simp only [Recorded.pendingReleases_eq hpoll] at h
  have hlook := reclaimed_recorded server o freed ⟨site, .polled n :: r.deeds⟩
  generalize o.reclaimed (Recorded.server server) freed _ = look at hlook h
  obtain ⟨answer, site', deeds'⟩ := look
  dsimp only at hlook
  by_cases hn : n = 0
  · subst hn
    by_cases hwaited : waited = 0
    · simp only [hwaited, if_true] at h
      cases h
      exact .idle site
    · simp only [hwaited, if_true, if_false] at h
      cases hlook with
      | unread e =>
        cases h
        exact .ended 0 _ _ _ nofun
      | enough used _ =>
        cases h
        exact .ended 0 _ _ _ nofun
      | short used _ =>
        cases h
        refine .ended 0 _ _ _ ?_
        rintro reason ⟨⟩
        exact ⟨rfl, Or.inl rfl⟩
  · simp only [hn, if_false] at h
    cases hlook with
    | unread e =>
      cases h
      exact .ended n _ _ _ nofun
    | enough used _ =>
      cases h
      exact .ended n _ _ _ nofun
    | short used _ =>
      dsimp only at h
      split at h
      · rename_i hover
        cases h
        refine .ended n _ _ _ ?_
        rintro reason ⟨⟩
        exact ⟨rfl, Or.inr hover⟩
      · rename_i hunder
        cases h
        exact .slept n _ _ _ hn (Nat.lt_of_not_le hunder)

/-! ## All turns -/

/-- A wait that goes on has slept once for each of its turns, in which it found work pending. -/
structure Awaiting (limit waited : Nat) (deeds : List (Deed σ)) : Prop where
  waiting : ∀ deed ∈ deeds, Waiting deed
  sleeps : sleeps deeds = List.replicate waited 1
  polls : (polls deeds).countP (· ≠ 0) = waited
  waited_le : waited ≤ limit

/-- A wait within its limit. It polls, reads usage and sleeps, and does nothing else; a sleep lasts
a millisecond. If it ends above the budget, then either the last poll has found nothing pending or
there were as many sleeps as the limit has milliseconds. -/
structure Patient (limit : Nat) (answer : Except EvictionError Outcome) (deeds : List (Deed σ)) :
    Prop where
  waiting : ∀ deed ∈ deeds, Waiting deed
  millis : ∀ ms ∈ sleeps deeds, ms = 1
  sleeps_le : (sleeps deeds).length ≤ limit
  polls_le : (polls deeds).countP (· ≠ 0) ≤ limit + 1
  blocked : ∀ reason, answer = .ok (.blocked reason) →
    reason = .noCandidates ∧ ((polls deeds).head? = some 0 ∨ (sleeps deeds).length = limit)

theorem Awaiting.turn (h : Awaiting limit waited deeds) {waited' : Nat} {r : Recorded σ}
    (hturn : WaitTurn limit waited deeds (.inl (waited', r))) : Awaiting limit waited' r.deeds := by
  obtain ⟨hwaiting, hsleeps, hpolls, -⟩ := h
  cases hturn with
  | slept n reading site site' hn hunder =>
    refine ⟨?_, ?_, ?_, hunder⟩
    · simpa [Waiting] using hwaiting
    · exact congrArg (1 :: ·) hsleeps
    · show (n :: Deed.polls deeds).countP (· ≠ 0) = waited + 1
      rw [List.countP_cons_of_pos (by simpa using hn), hpolls]

theorem Awaiting.patient (h : Awaiting limit waited deeds)
    {x : Except EvictionError Outcome × Recorded σ}
    (hturn : WaitTurn limit waited deeds (.inr x)) : Patient limit x.1 x.2.deeds := by
  obtain ⟨hwaiting, hsleeps, hpolls, hle⟩ := h
  have hpolled (n : Nat) : (n :: Deed.polls deeds).countP (· ≠ 0) ≤ limit + 1 := by
    rw [List.countP_cons, hpolls]
    split <;> omega
  have hmillis : ∀ ms ∈ Deed.sleeps deeds, ms = 1 := by
    rw [hsleeps]
    exact fun ms hms => List.eq_of_mem_replicate hms
  have hslept : (Deed.sleeps deeds).length ≤ limit := by
    rw [hsleeps, List.length_replicate]
    exact hle
  cases hturn with
  | idle site =>
    refine ⟨?_, hmillis, hslept, hpolled 0, ?_⟩
    · simpa [Waiting] using hwaiting
    · rintro reason ⟨⟩
      exact ⟨rfl, Or.inl rfl⟩
  | ended n answer reading site hblocked =>
    refine ⟨?_, hmillis, hslept, hpolled n, ?_⟩
    · simpa [Waiting] using hwaiting
    · intro reason hanswer
      obtain ⟨hreason, hend⟩ := hblocked reason hanswer
      refine ⟨hreason, ?_⟩
      rcases hend with rfl | hover
      · exact Or.inl rfl
      · refine Or.inr ?_
        show (Deed.sleeps deeds).length = limit
        rw [hsleeps, List.length_replicate]
        omega

/-! ## The end of a cycle -/

/-- What a cycle does when nothing more can be deleted, the latest first. -/
def waitLedger (d : Dataset σ) (server : Server σ) (clock : Clock σ) (o : Overage) (c : Cycle σ) :
    List (Deed σ) :=
  (giveUp (Recorded.dataset d) (Recorded.server server) (Recorded.clock clock) o
    (c.recorded [])).2.scene.site.deeds

theorem patient_awaitReleases (d : Dataset σ) (server : Server σ) (clock : Clock σ) (o : Overage)
    (freed limit : Nat) (site : σ) :
    Patient limit
      (awaitReleases (Recorded.dataset d) (Recorded.server server) (Recorded.clock clock) o freed
        limit false ⟨site, []⟩).1
      (awaitReleases (Recorded.dataset d) (Recorded.server server) (Recorded.clock clock) o freed
        limit false ⟨site, []⟩).2.deeds := by
  have hrun := run_waitStep (Recorded.dataset d) (Recorded.server server) (Recorded.clock clock) o
    freed (Nat.zero_add limit) ⟨site, []⟩
  refine Loop.run_induct (I := fun t => Awaiting limit t.1 t.2.deeds)
    (P := fun x => Patient limit x.1 x.2.deeds) ?_ ?_ ⟨by simp, rfl, rfl, Nat.zero_le _⟩ hrun
  · intro t t' ht hstep
    exact ht.turn (waitTurn hstep)
  · intro t x ht hstep
    exact ht.patient (waitTurn hstep)

/-- When nothing more can be deleted a cycle waits within its limit, and does not change but for its
site. The wait is a loop that ends, however it is polled and whatever is read, within one turn more
than the limit has milliseconds. -/
theorem giveUp_patient (d : Dataset σ) (server : Server σ) (clock : Clock σ) (o : Overage)
    (c : Cycle σ) :
    (∃ site, (giveUp d server clock o c).2 = c.at site) ∧
    Patient c.scene.evictor.settings.waitLimit (giveUp d server clock o c).1
      (waitLedger d server clock o c) ∧
    (c.scene.evictor.settings.waitLimit = 0 → sleeps (waitLedger d server clock o c) = []) ∧
    ∀ more, Loop.run (waitStep d server clock o c.freed c.scene.evictor.settings.waitLimit)
        (c.scene.evictor.settings.waitLimit + 1 + more) (0, c.scene.site)
      = some ((giveUp d server clock o c).1, (giveUp d server clock o c).2.scene.site) := by
  have hpatient : Patient c.scene.evictor.settings.waitLimit (giveUp d server clock o c).1
      (waitLedger d server clock o c) := by
    have hmap := giveUp_map (Recorded.dataset_alike d) (Recorded.server_alike server)
      (Recorded.clock_alike clock) o (c.recorded [])
    have hc : (c.recorded []).map Recorded.site = c := rfl
    rw [hc] at hmap
    rw [hmap]
    exact patient_awaitReleases d server clock o c.freed _ c.scene.site
  refine ⟨⟨_, rfl⟩, hpatient, ?_, ?_⟩
  · intro hzero
    have hle := hpatient.sleeps_le
    rw [hzero] at hle
    exact List.eq_nil_of_length_eq_zero (Nat.le_zero.mp hle)
  · intro more
    exact Loop.run_add (run_waitStep d server clock o c.freed (Nat.zero_add _) c.scene.site) more

end Evictor

end SampledEviction

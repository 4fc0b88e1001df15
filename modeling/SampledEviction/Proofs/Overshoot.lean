import SampledEviction.Proofs.Loop
import SampledEviction.Proofs.Pause

/-!
# Overshoot

With background releases usage falls between the readings around deletions, where it is credited to
none of them, so a cycle may go on when usage has long been within the limit. It looks at real usage
after every sixteenth deletion, and so makes no more than that many too many.

* `Overshoot.append`, `Overshoot.above` — what deletions and looks add
* `Paced.step`, `Paced.finish` — a step of a cycle
* `removals_le_of_within` — a check at any stage
-/

namespace SampledEviction

variable {σ : Type}

namespace Deed

/-- The readings of the exempt bytes, the latest first. -/
def exemptions (deeds : List (Deed σ)) : List Nat :=
  deeds.filterMap fun
    | .exempted n => some n
    | _ => none

theorem removals_append (more deeds : List (Deed σ)) :
    removals (more ++ deeds) = removals more ++ removals deeds := by
  induction more with
  | nil => rfl
  | cons deed more ih =>
    cases deed with
    | deleted before v removed =>
      cases removed with
      | false => exact ih
      | true => exact congrArg (v :: ·) ih
    | _ => exact ih

theorem exemptions_append (more deeds : List (Deed σ)) :
    exemptions (more ++ deeds) = exemptions more ++ exemptions deeds := List.filterMap_append

theorem removals_eq_nil_of_idle {deeds : List (Deed σ)} (h : ∀ deed ∈ deeds, deed.Idle) :
    removals deeds = [] :=
  removals_eq_nil (P := fun _ => False) (fun deed hdeed => Evictor.Idle.meets (h deed hdeed))
    fun _ => id

end Deed

namespace Evictor

open Deed

/-! ## Deletions too many -/

/-- From some moment on, all that was read is what usage net of the exempt bytes was at that moment,
or less, and that is within a limit. -/
structure Within (limit : Nat) (later : List (Deed σ)) (used exempt : Nat) : Prop where
  readings : ∀ n ∈ readings later, n ≤ used
  exemptions : ∀ n ∈ exemptions later, n = exempt
  net : used - exempt ≤ limit

/-- At most `k` keys were deleted after any moment from which usage is within a limit. -/
def Overshoot (limit k : Nat) (deeds : List (Deed σ)) : Prop :=
  ∀ later earlier used exempt, deeds = later ++ earlier → Within limit later used exempt →
    (removals later).length ≤ k

variable {limit k k' : Nat} {deeds more : List (Deed σ)}

theorem Overshoot.mono (h : Overshoot limit k deeds) (hle : k ≤ k') : Overshoot limit k' deeds := by
  intro later earlier used exempt hsplit hwithin
  exact Nat.le_trans (h later earlier used exempt hsplit hwithin) hle

/-- Without a deletion there is none too many. -/
theorem Overshoot.of_idle (h : ∀ deed ∈ deeds, deed.Idle) : Overshoot limit 0 deeds := by
  rintro later earlier used exempt rfl -
  rw [removals_eq_nil_of_idle fun deed hdeed => h deed (List.mem_append_left _ hdeed)]
  exact Nat.le_refl 0

/-- What is deleted now may be too many. -/
theorem Overshoot.append (h : Overshoot limit k deeds) (hmore : (removals more).length ≤ k') :
    Overshoot limit (k + k') (more ++ deeds) := by
  intro later earlier used exempt hsplit hwithin
  rcases List.append_eq_append_iff.mp hsplit with ⟨before, rfl, rfl⟩ | ⟨after, rfl, rfl⟩
  · -- the moment came before
    have hbefore : Within limit before used exempt := by
      refine ⟨?_, ?_, hwithin.net⟩
      · intro n hn
        refine hwithin.readings n ?_
        rw [readings_append]
        exact List.mem_append_right _ hn
      · intro n hn
        refine hwithin.exemptions n ?_
        rw [exemptions_append]
        exact List.mem_append_right _ hn
    have hk := h before earlier used exempt rfl hbefore
    rw [removals_append, List.length_append]
    omega
  · -- the moment came among what is done now
    rw [removals_append, List.length_append] at hmore
    omega

/-- What deletes nothing changes nothing. -/
theorem Overshoot.quiet (h : Overshoot limit k deeds) (more : List (Deed σ))
    (hmore : removals more = []) : Overshoot limit k (more ++ deeds) := by
  rw [← Nat.add_zero k]
  refine h.append ?_
  rw [hmore]
  exact Nat.le_refl 0

theorem Overshoot.idle (h : Overshoot limit k deeds) (hidle : ∀ deed ∈ more, deed.Idle) :
    Overshoot limit k (more ++ deeds) :=
  h.quiet more (removals_eq_nil_of_idle hidle)

/-- A look that finds usage above the limit shows that no moment before it was within. -/
theorem Overshoot.above {total exempt : Nat} (site : σ) (h : limit < total - exempt) :
    Overshoot limit 0 (.exempted exempt :: .read (.ok total) site :: deeds) := by
  intro later earlier used exempt' hsplit hwithin
  obtain ⟨hreadings, hexemptions, hnet⟩ := hwithin
  match later with
  | [] => exact Nat.le_refl 0
  | [deed] =>
    cases hsplit
    exact Nat.le_refl 0
  | _ :: _ :: later =>
    cases hsplit
    have htotal : total ≤ used := hreadings total List.mem_cons_self
    have hexempt : exempt = exempt' := hexemptions exempt List.mem_cons_self
    omega

variable {rounds fuel : Nat} {d : Dataset σ} {server : Server σ} {clock : Clock σ} {o : Overage}
  {e : Evictor} {c : Cycle (Recorded σ)} {s : Scene σ}

/-! ## A cycle -/

/-- A running cycle of an evictor has deleted no more keys too many than since its last look at
usage. -/
structure Paced (e : Evictor) (c : Cycle (Recorded σ)) : Prop where
  kept : Kept e c.scene.evictor
  overshoot : Overshoot e.budget.limit (c.keys % recheckInterval) c.scene.site.deeds

theorem Paced.search (h : Paced e c) {v : Option Victim} {scene : Scene (Recorded σ)}
    (hfind : findVictim rounds (Recorded.dataset d) (Recorded.clock clock) c.scene
      = some (v, scene)) : Paced e { c with scene } where
  kept := h.kept.trans (findVictim_searched hfind).kept
  overshoot := by
    rw [(findVictim_of_recorded hfind).1]
    exact h.overshoot

/-- A deletion adds one key at most, whatever it comes to. -/
theorem DeletionDeeds.exists_more {v : Victim} {deeds deeds' : List (Deed σ)} {site : σ}
    {answer : Except EvictionError (Bool × Nat)} (h : DeletionDeeds v deeds site answer deeds') :
    ∃ more, deeds' = more ++ deeds ∧ (removals more).length ≤ 1 := by
  cases h with
  | unreadBefore e => exact ⟨[.read (.error e) site], rfl, Nat.zero_le 1⟩
  | unreadAfter e removed n site₁ =>
    refine ⟨[.read (.error e) site, .deleted site₁ v removed, .read (.ok n) site₁], rfl, ?_⟩
    cases removed
    · exact Nat.zero_le 1
    · exact Nat.le_refl 1
  | done removed before after site₁ =>
    refine ⟨[.read (.ok after) site, .deleted site₁ v removed, .read (.ok before) site₁], rfl, ?_⟩
    cases removed
    · exact Nat.zero_le 1
    · exact Nat.le_refl 1

theorem Paced.delete (h : Paced e c) {lazy : Bool} {v : Victim}
    {answer : Except EvictionError (Bool × Nat)} {r : Recorded σ}
    (hdel : deleteVictim (Recorded.dataset d) (Recorded.server server) lazy v c.scene.site
      = (answer, r)) : Overshoot e.budget.limit (c.keys % recheckInterval + 1) r.deeds := by
  have hdeeds := deleteVictim_recorded d server lazy v c.scene.site
  rw [hdel] at hdeeds
  obtain ⟨more, hmore, hone⟩ := hdeeds.exists_more
  rw [hmore]
  exact h.overshoot.append hone

theorem Overshoot.settle {r : Recorded σ} (h : Overshoot limit k r.deeds)
    (server : Server σ) (c : Cycle (Recorded σ)) (v : Victim) (freed : Nat) :
    Overshoot limit k
      (settleDeletion (Recorded.server server) c v freed r).scene.site.deeds := by
  obtain ⟨site, hdeeds⟩ := settleDeletion_deeds server c v freed r
  rcases hdeeds with hdeeds | hdeeds
  · rw [hdeeds]
    exact h.quiet [.told v site] rfl
  · rw [hdeeds]
    exact h.quiet [.flushed, .told v site] rfl

theorem Overshoot.look (h : Overshoot limit k c.scene.site.deeds) {b : Budget}
    {answer : Except EvictionError (Option Overage)} {r : Recorded σ}
    (hlook : b.overage? (Recorded.server server) c.scene.site = (answer, r)) :
    Overshoot limit k r.deeds := by
  obtain ⟨more, hmore, hidle⟩ := (look_of_recorded hlook).1.exists_idle
  rw [hmore]
  exact h.idle hidle

theorem Overshoot.giveUp (h : Overshoot limit k c.scene.site.deeds) (d : Dataset σ)
    (server : Server σ) (clock : Clock σ) (o : Overage) :
    Overshoot limit k (giveUp (Recorded.dataset d) (Recorded.server server) (Recorded.clock clock)
      o c).2.scene.site.deeds := by
  obtain ⟨more, hmore, hidle⟩ := exists_giveUp_idle d server clock o c
  rw [hmore]
  exact h.idle hidle

/-- A cycle that goes on has deleted one more key since its last look at usage, or has just found
usage above the limit. -/
theorem Paced.step (h : Paced e c) (hlazy : e.settings.lazy = true) {c' : Cycle (Recorded σ)}
    (hstep : cycleStep rounds (Recorded.dataset d) (Recorded.server server) (Recorded.clock clock)
      o c = some (.inl c')) : Paced e c' := by
  have hkept : Kept e c'.scene.evictor := h.kept.trans ((lasting_kept _).cycleStep (.refl _) hstep)
  refine ⟨hkept, ?_⟩
  cases cycleStep_cases hstep with
  | @deleted v scene freed r x _ hfind hdel hlook =>
    have hfound := h.search hfind
    have hsettled := (hfound.delete hdel).settle server { c with scene } v freed
    have hscene : scene.evictor.settings.lazy = true := by
      rw [hfound.kept.settings, hlazy]
    rw [hscene] at hlook
    cases hlook with
    | skipped hdue =>
      have hkeys : ¬ (c.keys + 1) % recheckInterval = 0 := by
        simpa [settleDeletion] using hdue
      refine hsettled.mono ?_
      show c.keys % recheckInterval + 1 ≤ (c.keys + 1) % recheckInterval
      unfold recheckInterval at hkeys ⊢
      omega
    | @above o' r' hdue hlook =>
      have hdeeds := (look_of_recorded hlook).1
      have hbudget : (settleDeletion (Recorded.server server) { c with scene } v freed
          r).scene.evictor.budget = e.budget := hfound.kept.budget
      rw [hbudget] at hdeeds
      obtain ⟨site, deeds⟩ := r'
      cases hdeeds with
      | above total exempt site₁ _ hnet => exact (Overshoot.above site₁ hnet).mono (Nat.zero_le _)

/-- A step that ends a cycle deletes one key at most. -/
theorem Paced.finish (h : Paced e c) {x : StepResult (Recorded σ)}
    (hstep : cycleStep rounds (Recorded.dataset d) (Recorded.server server) (Recorded.clock clock)
      o c = some x) : Overshoot e.budget.limit recheckInterval x.cycle.scene.site.deeds := by
  have hlt : c.keys % recheckInterval < recheckInterval := Nat.mod_lt _ (by decide)
  cases cycleStep_cases hstep with
  | enough _ => exact h.overshoot.mono (Nat.le_of_lt hlt)
  | paused _ => exact h.overshoot.mono (Nat.le_of_lt hlt)
  | noVictim _ hfind =>
    exact ((h.search hfind).overshoot.giveUp d server clock o).mono (Nat.le_of_lt hlt)
  | unread _ hfind hdel => exact ((h.search hfind).delete hdel).mono hlt
  | @gone v scene freed r _ hfind hdel =>
    have hdeleted := (h.search hfind).delete hdel
    exact (Overshoot.giveUp (c := { c with scene := { scene with site := r } }) hdeleted d server
      clock o).mono hlt
  | @deleted v scene freed r x _ hfind hdel hlook =>
    have hsettled :=
      (((h.search hfind).delete hdel).settle server { c with scene } v freed).mono hlt
    cases hlook with
    | skipped _ => exact hsettled
    | failed _ hlook => exact hsettled.look hlook
    | within _ hlook => exact hsettled.look hlook
    | above _ hlook => exact hsettled.look hlook

/-! ## A check -/

/-- What a check has done when it has come to an end, or to some step of a cycle, whether or not
that will ever end. -/
inductive Progress (rounds : Nat) (d : Dataset σ) (server : Server σ) (clock : Clock σ)
    (s : Scene σ) : List (Deed σ) → Prop where
  | ended {fuel : Nat} {r : CheckResult σ}
    (h : ensureWithin fuel rounds d server clock s = some r) :
    Progress rounds d server clock s (ledger fuel rounds d server clock s)
  | running {o : Overage} {r : Recorded σ} {c : Cycle (Recorded σ)}
    (hguard : s.evictor.mayEvict server s.site = true)
    (hlook : s.evictor.budget.overage? (Recorded.server server) ⟨s.site, []⟩ = (.ok (some o), r))
    (hpolicy : s.evictor.settings.policy.evicts = true)
    (hreach : Loop.Reaches (cycleStep rounds (Recorded.dataset d) (Recorded.server server)
      (Recorded.clock clock) o) ⟨opened (s.recorded []) r, 0, 0, []⟩ c) :
    Progress rounds d server clock s c.scene.site.deeds

/-- A cycle starts with nothing deleted. -/
theorem paced_opened {r : Recorded σ}
    (hlook : s.evictor.budget.overage? (Recorded.server server) ⟨s.site, []⟩ = (.ok (some o), r)) :
    Paced s.evictor (⟨opened (s.recorded []) r, 0, 0, []⟩ : Cycle (Recorded σ)) :=
  ⟨⟨rfl, rfl, rfl, rfl⟩, .of_idle (look_of_recorded hlook).1.idle⟩

theorem overshoot_ensureWithin (hlazy : s.evictor.settings.lazy = true)
    {r : CheckResult (Recorded σ)}
    (h : ensureWithin fuel rounds (Recorded.dataset d) (Recorded.server server)
      (Recorded.clock clock) (s.recorded []) = some r) :
    Overshoot s.evictor.budget.limit recheckInterval r.scene.site.deeds := by
  cases ensureWithin_cases h with
  | guarded _ => exact (Overshoot.of_idle (by simp [Scene.recorded])).mono (Nat.zero_le _)
  | unread hlook => exact (Overshoot.of_idle (look_of_recorded hlook).1.idle).mono (Nat.zero_le _)
  | within hlook => exact (Overshoot.of_idle (look_of_recorded hlook).1.idle).mono (Nat.zero_le _)
  | forbidden hlook _ =>
    exact (Overshoot.of_idle (look_of_recorded hlook).1.idle).mono (Nat.zero_le _)
  | ran _ hlook _ hrun =>
    rw [conclude_site]
    refine Loop.run_induct (I := Paced s.evictor)
      (P := fun x => Overshoot s.evictor.budget.limit recheckInterval x.2.scene.site.deeds)
      ?_ ?_ (paced_opened hlook) hrun
    · intro c c' hc hstep
      exact hc.step hlazy hstep
    · intro c x hc hstep
      exact hc.finish hstep

/-- Usage at some moment of a check is `used`, of which `exempt` bytes are exempt, and the rest is
within the limit. If no later reading shows more and the exempt bytes stay the same, then after that
moment a check with background releases deletes no more keys than it takes to come to its next look
at usage, whatever usage falls by in between, and whether or not it ends. -/
theorem removals_le_of_within (hlazy : s.evictor.settings.lazy = true) {deeds : List (Deed σ)}
    (h : Progress rounds d server clock s deeds) {later earlier : List (Deed σ)}
    (hmoment : deeds = later ++ earlier) {used exempt : Nat}
    (hreadings : ∀ n ∈ readings later, n ≤ used) (hexempt : ∀ n ∈ exemptions later, n = exempt)
    (hnet : used - exempt ≤ s.evictor.budget.limit) :
    (removals later).length ≤ recheckInterval := by
  have hovershoot : Overshoot s.evictor.budget.limit recheckInterval deeds := by
    cases h with
    | ended h =>
      obtain ⟨r, hr, -, hledger⟩ := exists_recorded h
      rw [hledger]
      exact overshoot_ensureWithin hlazy hr
    | running _ hlook _ hreach =>
      have hpaced := hreach.keeps (fun c c' hc hstep => hc.step hlazy hstep) (paced_opened hlook)
      exact hpaced.overshoot.mono (Nat.le_of_lt (Nat.mod_lt _ (by decide)))
  exact hovershoot later earlier used exempt hmoment ⟨hreadings, hexempt, hnet⟩

/-- Usage falls within the limit right behind the first look, and the cycle deletes sixteen keys
before it looks again. -/
theorem removals_le_of_within_overfull :
    Shelf.overfull.evictor.settings.lazy = true ∧
    ∃ r, ensureWithin 20 2 Shelf.dataset Shelf.releasing Shelf.clock Shelf.overfull = some r ∧
    ∃ later earlier,
      ledger 20 2 Shelf.dataset Shelf.releasing Shelf.clock Shelf.overfull = later ++ earlier ∧
      readings earlier = [180] ∧ (∀ n ∈ readings later, n ≤ 170) ∧
      (∀ n ∈ exemptions later, n = 0) ∧ 170 - 0 ≤ Shelf.overfull.evictor.budget.limit ∧
      16 ≤ (removals later).length ∧ (removals later).length ≤ recheckInterval := by
  have hended : (ensureWithin 20 2 Shelf.dataset Shelf.releasing Shelf.clock
      Shelf.overfull).isSome = true := by decide +kernel
  obtain ⟨r, hr⟩ := Option.isSome_iff_exists.mp hended
  -- the latest deeds come first, so the first look is at the end of the ledger
  have hmoment := (List.take_append_drop 65 (ledger 20 2 Shelf.dataset Shelf.releasing Shelf.clock
    Shelf.overfull)).symm
  have hreadings : ∀ n ∈ readings ((ledger 20 2 Shelf.dataset Shelf.releasing Shelf.clock
      Shelf.overfull).take 65), n ≤ 170 := by decide +kernel
  have hexempt : ∀ n ∈ exemptions ((ledger 20 2 Shelf.dataset Shelf.releasing Shelf.clock
      Shelf.overfull).take 65), n = 0 := by decide +kernel
  exact ⟨rfl, r, hr, _, _, hmoment, by decide +kernel, hreadings, hexempt, by decide,
    by decide +kernel,
    removals_le_of_within rfl (.ended hr) hmoment hreadings hexempt (by decide)⟩

end Evictor

end SampledEviction

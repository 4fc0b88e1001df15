import SampledEviction.Proofs.Coherence
import SampledEviction.Proofs.Loop

/-!
# What a whole check keeps

A check does three things to a site: it searches, it deletes what a search found, and it asks for
figures, tells of deletions and waits. What each of the three keeps, a check keeps; and if every
deletion lowers a measure that nothing raises, the check ends.

* `Beside` — what is neither a search nor a deletion
* `overage?_beside`, `awaitReleases_beside` — the parts of a check that are just that
* `Keeps.exists_step` — what one step of a cycle keeps
* `Keeps.exists_ensureWithin` — what a check keeps
-/

namespace SampledEviction

variable {σ : Type}

/-! ## What is neither a search nor a deletion -/

/-- A single question to a site, or a single thing done to it, that is neither a search nor a
deletion. -/
inductive Aside (d : Dataset σ) (server : Server σ) (clock : Clock σ) (site : σ) : σ → Prop where
  | pendingReleases : Aside d server clock site (d.pendingReleases site).2
  | usedBytes : Aside d server clock site (server.usedBytes site).2
  | exemptBytes : Aside d server clock site (server.exemptBytes site).2
  | flushReplicas : Aside d server clock site (server.flushReplicas site)
  | evicted (shard : Nat) (key : Bytes) : Aside d server clock site (server.evicted shard key site)
  | sleep (ms : Nat) : Aside d server clock site (clock.sleep ms site)

/-- Any number of such things. -/
inductive Beside (d : Dataset σ) (server : Server σ) (clock : Clock σ) (site : σ) : σ → Prop where
  | refl : Beside d server clock site site
  | tail {site' site'' : σ} (h : Beside d server clock site site')
    (haside : Aside d server clock site' site'') : Beside d server clock site site''

variable {d : Dataset σ} {server : Server σ} {clock : Clock σ} {site site' site'' : σ} {o : Overage}

theorem Aside.beside (h : Aside d server clock site site') : Beside d server clock site site' :=
  .tail .refl h

theorem Beside.trans (h : Beside d server clock site site')
    (h' : Beside d server clock site' site'') : Beside d server clock site site'' := by
  induction h' with
  | refl => exact h
  | tail _ haside ih => exact ih.tail haside

namespace Evictor

theorem overage?_beside (d : Dataset σ) (clock : Clock σ) (b : Budget) (server : Server σ)
    (site : σ) : Beside d server clock site (b.overage? server site).2 := by
  have hread : Beside d server clock site (server.usedBytes site).2 := Aside.usedBytes.beside
  unfold Budget.overage?
  split
  · exact .refl
  rcases hused : server.usedBytes site with ⟨e | total, site₁⟩
  all_goals rw [hused] at hread
  · exact hread
  · dsimp only
    split
    · exact hread
    · split <;> exact hread.tail .exemptBytes

theorem reclaimed_beside (d : Dataset σ) (clock : Clock σ) (o : Overage) (server : Server σ)
    (freed : Nat) (site : σ) : Beside d server clock site (o.reclaimed server freed site).2 := by
  have hread : Beside d server clock site (server.usedBytes site).2 := Aside.usedBytes.beside
  unfold Overage.reclaimed
  rcases hused : server.usedBytes site with ⟨e | used, site₁⟩
  all_goals
    rw [hused] at hread
    exact hread

/-- A turn of a wait is the last, or leads to another. -/
theorem awaitReleases_turn (d : Dataset σ) (server : Server σ) (clock : Clock σ) (o : Overage)
    (freed remaining : Nat) (slept : Bool) (site : σ) :
    Beside d server clock site (awaitReleases d server clock o freed remaining slept site).2 ∨
      ∃ n site', remaining = n + 1 ∧ Beside d server clock site site' ∧
        awaitReleases d server clock o freed remaining slept site
          = awaitReleases d server clock o freed n true site' := by
  have hpolled : Beside d server clock site (d.pendingReleases site).2 :=
    Aside.pendingReleases.beside
  have hread := hpolled.trans (reclaimed_beside d clock o server freed _)
  rw [awaitReleases.eq_def d server clock o freed remaining slept site]
  dsimp only
  by_cases hnone : (d.pendingReleases site).1 = 0
  · rw [if_pos hnone]
    cases slept with
    | false => exact Or.inl hpolled
    | true =>
      rw [if_pos rfl]
      rcases hlook : o.reclaimed server freed (d.pendingReleases site).2 with ⟨_ | _ | _, site₁⟩
      all_goals
        rw [hlook] at hread
        exact Or.inl hread
  · rw [if_neg hnone]
    rcases hlook : o.reclaimed server freed (d.pendingReleases site).2 with ⟨_ | _ | _, site₁⟩
    all_goals rw [hlook] at hread
    · exact Or.inl hread
    · cases remaining with
      | zero => exact Or.inl hread
      | succ n => exact Or.inr ⟨n, _, rfl, hread.tail (.sleep 1), rfl⟩
    · exact Or.inl hread

theorem awaitReleases_beside (d : Dataset σ) (server : Server σ) (clock : Clock σ) (o : Overage)
    (freed remaining : Nat) (slept : Bool) (site : σ) :
    Beside d server clock site (awaitReleases d server clock o freed remaining slept site).2 := by
  induction remaining generalizing slept site with
  | zero =>
    rcases awaitReleases_turn d server clock o freed 0 slept site with hend | ⟨n, _, hn, -, -⟩
    · exact hend
    · cases hn
  | succ remaining ih =>
    rcases awaitReleases_turn d server clock o freed (remaining + 1) slept site with
      hend | ⟨n, site', hn, hturn, hnext⟩
    · exact hend
    · cases hn
      rw [hnext]
      exact hturn.trans (ih true site')

/-! ## What is kept -/

/-- What every part of a check keeps. `J` is kept all along; a victim that a search finds is fit by
`F`, stays so until it is deleted, and its deletion lowers the measure `μ`. -/
structure Keeps (e₀ : Evictor) (d : Dataset σ) (server : Server σ) (clock : Clock σ)
    (J : Pool → σ → Prop) (F : Victim → σ → Prop) (μ : σ → Nat) : Prop where
  search {e : Evictor} {site : σ} (he : Kept e₀ e) (h : J e.pool site) :
    ∃ v s', findVictim 2 d clock ⟨e, site⟩ = some (v, s') ∧ J s'.evictor.pool s'.site ∧
      μ s'.site ≤ μ site ∧ ∀ w, v = some w → F w s'.site
  aside {pool : Pool} {site site' : σ} (h : J pool site)
    (haside : Aside d server clock site site') :
    J pool site' ∧ μ site' ≤ μ site ∧ ∀ w, F w site → F w site'
  delete {pool : Pool} {site site' : σ} {lazy removed : Bool} {w : Victim} (h : J pool site)
    (hw : F w site)
    (hdelete : (if lazy then d.deleteDeferred w.shard w.key site else d.delete w.shard w.key site)
      = (removed, site')) : J pool site' ∧ μ site' < μ site

namespace Keeps

variable {e₀ : Evictor} {J : Pool → σ → Prop} {F : Victim → σ → Prop} {μ : σ → Nat}
  {pool : Pool} {c : Cycle σ}

theorem beside (hk : Keeps e₀ d server clock J F μ) (h : J pool site)
    (hbeside : Beside d server clock site site') :
    J pool site' ∧ μ site' ≤ μ site ∧ ∀ w, F w site → F w site' := by
  induction hbeside with
  | refl => exact ⟨h, Nat.le_refl _, fun _ => id⟩
  | tail _ haside ih =>
    obtain ⟨hkept, hle, hfit⟩ := ih
    obtain ⟨hkept', hle', hfit'⟩ := hk.aside hkept haside
    exact ⟨hkept', Nat.le_trans hle' hle, fun w hw => hfit' w (hfit w hw)⟩

/-- What a deletion keeps, with the readings around it. -/
theorem deleteVictim (hk : Keeps e₀ d server clock J F μ) (h : J pool site) {w : Victim}
    (hw : F w site) {lazy : Bool} {answer : Except EvictionError (Bool × Nat)}
    (hdelete : deleteVictim d server lazy w site = (answer, site')) :
    J pool site' ∧ μ site' ≤ μ site ∧ (∀ x, answer = .ok x → μ site' < μ site) := by
  obtain ⟨hkept, hle, hfit⟩ := hk.aside h .usedBytes
  unfold Evictor.deleteVictim at hdelete
  rcases hbefore : server.usedBytes site with ⟨e | before, site₁⟩
  all_goals
    rw [hbefore] at hdelete hkept hle hfit
    dsimp only at hdelete hkept hle hfit
  · cases hdelete
    exact ⟨hkept, hle, fun x hx => by cases hx⟩
  · rcases hremove : (if lazy then d.deleteDeferred w.shard w.key site₁
      else d.delete w.shard w.key site₁) with ⟨removed, site₂⟩
    obtain ⟨hkept₂, hlt⟩ := hk.delete hkept (hfit w hw) hremove
    obtain ⟨hkept₃, hle₃, -⟩ := hk.aside hkept₂ .usedBytes
    rw [hremove] at hdelete
    dsimp only at hdelete
    rcases hafter : server.usedBytes site₂ with ⟨e | after, site₃⟩
    all_goals
      rw [hafter] at hdelete hkept₃ hle₃
      dsimp only at hdelete hkept₃ hle₃
      cases hdelete
    · exact ⟨hkept₃, by omega, fun x hx => by cases hx⟩
    · exact ⟨hkept₃, by omega, fun _ _ => by omega⟩

/-- A cycle that is kept. -/
def Holds (e₀ : Evictor) (J : Pool → σ → Prop) (c : Cycle σ) : Prop :=
  Kept e₀ c.scene.evictor ∧ J c.scene.evictor.pool c.scene.site

theorem settleDeletion_beside (d : Dataset σ) (clock : Clock σ) (server : Server σ) (c : Cycle σ)
    (w : Victim) (freed : Nat) (site : σ) :
    Beside d server clock site (settleDeletion server c w freed site).scene.site := by
  have htold : Beside d server clock site (server.evicted w.shard w.key site) :=
    (Aside.evicted w.shard w.key).beside
  simp only [settleDeletion]
  split
  · exact htold.tail .flushReplicas
  · exact htold

/-- What the look at usage after a deletion keeps. -/
theorem recheck (hk : Keeps e₀ d server clock J F μ) (hc : Holds e₀ J c) {lazy : Bool}
    {x : StepResult σ} (h : Recheck server lazy c x) :
    Holds e₀ J (StepResult.cycle x) ∧ μ (StepResult.cycle x).scene.site ≤ μ c.scene.site := by
  obtain ⟨hkept, hle, -⟩ :=
    hk.beside hc.2 (overage?_beside d clock c.scene.evictor.budget server c.scene.site)
  cases h with
  | skipped _ => exact ⟨hc, Nat.le_refl _⟩
  | failed _ hlook =>
    rw [hlook] at hkept hle
    exact ⟨⟨hc.1, hkept⟩, hle⟩
  | within _ hlook =>
    rw [hlook] at hkept hle
    exact ⟨⟨hc.1, hkept⟩, hle⟩
  | above _ hlook =>
    rw [hlook] at hkept hle
    exact ⟨⟨hc.1, hkept⟩, hle⟩

theorem giveUp (hk : Keeps e₀ d server clock J F μ) (hc : Holds e₀ J c) :
    Holds e₀ J (giveUp d server clock o c).2 := by
  obtain ⟨hkept, -, -⟩ := hk.beside hc.2 (awaitReleases_beside d server clock o c.freed
    c.scene.evictor.settings.waitLimit false c.scene.site)
  exact ⟨hc.1, hkept⟩

/-- What one step of a cycle keeps. A step that goes on has deleted a key. -/
theorem exists_step (hk : Keeps e₀ d server clock J F μ) (hc : Holds e₀ J c) :
    ∃ x, cycleStep 2 d server clock o c = some x ∧ Holds e₀ J (StepResult.cycle x) ∧
      ∀ c', x = .inl c' → μ c'.scene.site < μ c.scene.site := by
  obtain ⟨v, scene, hfind, hkept, hle, hfit⟩ := hk.search hc.1 hc.2
  have hsought : Holds e₀ J { c with scene } := ⟨hc.1.trans (findVictim_searched hfind).kept, hkept⟩
  obtain ⟨x, hx⟩ : ∃ x, cycleStep 2 d server clock o c = some x := exists_cycleStep hfind
  refine ⟨x, hx, ?_⟩
  cases cycleStep_cases hx with
  | enough _ => exact ⟨hc, fun c' h => by cases h⟩
  | paused _ => exact ⟨hc, fun c' h => by cases h⟩
  | noVictim _ hfind' =>
    cases hfind.symm.trans hfind'
    exact ⟨hk.giveUp hsought, fun c' h => by cases h⟩
  | unread _ hfind' hdelete =>
    cases hfind.symm.trans hfind'
    obtain ⟨hdeleted, -, -⟩ := hk.deleteVictim hkept (hfit _ rfl) hdelete
    exact ⟨⟨hsought.1, hdeleted⟩, fun c' h => by cases h⟩
  | gone _ hfind' hdelete =>
    cases hfind.symm.trans hfind'
    obtain ⟨hdeleted, -, -⟩ := hk.deleteVictim hkept (hfit _ rfl) hdelete
    exact ⟨hk.giveUp (c := { c with scene := { scene with site := _ } }) ⟨hsought.1, hdeleted⟩,
      fun c' h => by cases h⟩
  | @deleted w _ freed site _ _ hfind' hdelete hlook =>
    cases hfind.symm.trans hfind'
    obtain ⟨hdeleted, -, hlt⟩ := hk.deleteVictim hkept (hfit _ rfl) hdelete
    obtain ⟨htold, hle', -⟩ := hk.beside hdeleted
      (settleDeletion_beside d clock server { c with scene } w freed site)
    have hsettled : Holds e₀ J (settleDeletion server { c with scene } w freed site) :=
      ⟨hsought.1.trans ⟨rfl, rfl, rfl, rfl⟩, htold⟩
    obtain ⟨hlooked, hle''⟩ := hk.recheck hsettled hlook
    refine ⟨hlooked, fun c' hc' => ?_⟩
    have hless := hlt _ rfl
    rw [hc'] at hle''
    exact Nat.lt_of_le_of_lt hle'' (by omega)

theorem exists_run (hk : Keeps e₀ d server clock J F μ) (hc : Holds e₀ J c) {fuel : Nat}
    (hfuel : μ c.scene.site < fuel) :
    ∃ x, Loop.run (cycleStep 2 d server clock o) fuel c = some x ∧ Holds e₀ J x.2 := by
  obtain ⟨x, c₁, hrun, -, hc₁, hstep⟩ :=
    Loop.exists_run (I := Holds e₀ J) (fun c => μ c.scene.site) (fun c hc => by
      obtain ⟨x, hx, hkept, hlt⟩ := hk.exists_step (o := o) hc
      cases x with
      | inl c' => exact Or.inr ⟨c', hx, hkept, hlt c' rfl⟩
      | inr b => exact Or.inl ⟨b, hx⟩) hc hfuel
  obtain ⟨y, hy, hkept, -⟩ := hk.exists_step (o := o) hc₁
  cases hstep.symm.trans hy
  exact ⟨x, hrun, hkept⟩

theorem conclude_holds {x : Except EvictionError Outcome × Cycle σ} (h : Holds e₀ J x.2) :
    J (conclude o x).scene.evictor.pool (conclude o x).scene.site := by
  rcases x with ⟨_ | _ | _, c⟩ <;> exact h.2

/-- A check ends, and keeps what its parts keep. -/
theorem exists_ensureWithin (hk : Keeps e₀ d server clock J F μ) {s : Scene σ}
    (he : Kept e₀ s.evictor) (hs : J s.evictor.pool s.site) {fuel : Nat} (hfuel : μ s.site < fuel) :
    ∃ r, ensureWithin fuel 2 d server clock s = some r ∧ J r.scene.evictor.pool r.scene.site := by
  obtain ⟨hkept, hle, -⟩ := hk.beside hs (overage?_beside d clock s.evictor.budget server s.site)
  unfold ensureWithin
  split
  · exact ⟨_, rfl, hs⟩
  rcases hlook : s.evictor.budget.overage? server s.site with ⟨e | _ | o, site⟩
  all_goals
    rw [hlook] at hkept hle
    dsimp only at hkept hle ⊢
  · exact ⟨_, rfl, hkept⟩
  · exact ⟨_, rfl, hkept⟩
  · split
    · obtain ⟨x, hrun, hend⟩ := hk.exists_run (o := o) (c := ⟨opened s site, 0, 0, []⟩)
        ⟨he.trans ⟨rfl, rfl, rfl, rfl⟩, hkept⟩ (Nat.lt_of_le_of_lt hle hfuel)
      exact ⟨_, congrArg (Option.map (conclude o)) hrun, conclude_holds hend⟩
    · exact ⟨_, rfl, hkept⟩

end Keeps

end Evictor

end SampledEviction

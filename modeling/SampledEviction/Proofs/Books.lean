import SampledEviction.Proofs.Ledger

/-!
# The books of a cycle

A cycle counts the keys it deletes and the bytes it credits, and so does its ledger. The two
agree after every step, and at every end of a cycle but one: where the reading after a deletion
fails, the key is gone and the server is not told.

* `Balanced` — the invariant of a running cycle
* `balanced_of_step` — a step that goes on keeps it
* `runCycle_end` — the ends of a cycle, with their ledgers
-/

namespace SampledEviction

variable {σ : Type}

open Deed

/-! ## Deeds that keep the books as they are -/

/-- Polls, readings and sleeps are not entered in the books. -/
theorem waiting_append {more : List (Deed σ)} (h : ∀ deed ∈ more, Evictor.Waiting deed)
    (deeds : List (Deed σ)) :
    removals (more ++ deeds) = removals deeds ∧ tellings (more ++ deeds) = tellings deeds ∧
      credited (more ++ deeds) = credited deeds := by
  induction more with
  | nil => exact ⟨rfl, rfl, rfl⟩
  | cons deed more ih =>
    have ih := ih fun x hx => h x (List.mem_cons_of_mem _ hx)
    have hdeed := h deed List.mem_cons_self
    cases deed with
    | read answer site =>
      cases answer with
      | error e => exact ih
      | ok n => exact ih
    | polled n => exact ih
    | slept ms => exact ih
    | exempted bytes => exact hdeed.elim
    | deleted before v removed => exact hdeed.elim
    | told v site => exact hdeed.elim
    | flushed => exact hdeed.elim

namespace Evictor

/-! ## The invariant -/

/-- What a cycle starts from. -/
structure Opening (σ : Type) where
  evictedKeys : Nat
  budget : Budget
  deeds : List (Deed σ)

/-- Every deleted key was told of and counted, since the opening. -/
structure Books (a : Opening σ) (e : Evictor) (deeds : List (Deed σ)) : Prop where
  started : a.deeds <:+ deeds
  told : tellings deeds = removals deeds
  counted : e.stats.evictedKeys = a.evictedKeys + (removals deeds).length

/-- A ledger that does not break off at a deletion. -/
def Settled : List (Deed σ) → Prop
  | .deleted _ _ _ :: _ => False
  | _ => True

/-- The books of a running cycle, which has not waited yet. -/
structure Balanced (a : Opening σ) (c : Cycle (Recorded σ)) : Prop
    extends Books a c.scene.evictor c.scene.site.deeds where
  budget : c.scene.evictor.budget = a.budget
  keys : c.keys = (removals c.scene.site.deeds).length
  freed : c.freed = Word.wrap (credited c.scene.site.deeds)
  polls : polls c.scene.site.deeds = []
  settled : Settled c.scene.site.deeds

variable {rounds : Nat} {d : Dataset σ} {server : Server σ} {clock : Clock σ} {o : Overage}
  {a : Opening σ} {c : Cycle (Recorded σ)}

theorem Balanced.search (h : Balanced a c) {v : Option Victim} {scene : Scene (Recorded σ)}
    (hfind : findVictim rounds (Recorded.dataset d) (Recorded.clock clock) c.scene
      = some (v, scene)) : Balanced a { c with scene } := by
  have hdeeds := (findVictim_of_recorded hfind).1
  have hevictor := findVictim_searched hfind
  exact
    { started := by simpa only [hdeeds] using h.started
      told := by simpa only [hdeeds] using h.told
      counted := by simpa only [hdeeds, hevictor.evictedKeys] using h.counted
      budget := hevictor.budget.trans h.budget
      keys := by simpa only [hdeeds] using h.keys
      freed := by simpa only [hdeeds] using h.freed
      polls := by simpa only [hdeeds] using h.polls
      settled := by simpa only [hdeeds] using h.settled }

/-- A deletion that was settled is in the books. -/
theorem Balanced.settle (h : Balanced a c) {v : Victim} {before after : Nat} (site site₁ : σ)
    {r : Recorded σ} (hr : r.deeds = .read (.ok after) site :: .deleted site₁ v true ::
      .read (.ok before) site₁ :: c.scene.site.deeds) :
    Balanced a (settleDeletion (Recorded.server server) c v (before - after) r) := by
  have hdeeds := settleDeletion_deeds server c v (before - after) r
  have hcounted : (settleDeletion (Recorded.server server) c v (before - after) r).scene.evictor
      = c.scene.evictor.recordEviction (before - after) := rfl
  have hkeys : (settleDeletion (Recorded.server server) c v (before - after) r).keys
      = c.keys + 1 := rfl
  have hfreed : (settleDeletion (Recorded.server server) c v (before - after) r).freed
      = Word.add c.freed (before - after) := rfl
  have hsum : Word.add c.freed (before - after)
      = Word.wrap ((before - after) + credited c.scene.site.deeds) := by
    rw [h.freed, Word.add, Word.wrap, Word.wrap, Word.wrap, Nat.mod_add_mod, Nat.add_comm]
  -- a flush of replica output is no entry in the books
  obtain ⟨_, hdeeds | hdeeds⟩ := hdeeds
  all_goals
    rw [hr] at hdeeds
    constructor
    · constructor
      · rw [hdeeds]
        refine h.started.trans ?_
        simp only [List.suffix_cons_iff, List.suffix_rfl, or_true]
      · rw [hdeeds]
        exact congrArg (v :: ·) h.told
      · rw [hcounted, hdeeds]
        simp only [recordEviction, removals, List.length_cons, h.counted]
        omega
    · exact h.budget
    · rw [hkeys, hdeeds, h.keys]
      rfl
    · rw [hfreed, hdeeds, hsum]
      rfl
    · rw [hdeeds]
      exact h.polls
    · rw [hdeeds]
      trivial

/-- A look at usage that finds the budget exceeded keeps the books. -/
theorem Balanced.look (h : Balanced a c) {r : Recorded σ} {o : Overage}
    (hlook : c.scene.evictor.budget.overage? (Recorded.server server) c.scene.site
      = (.ok (some o), r)) : Balanced a (c.at r) := by
  have hdeeds := overage?_recorded server c.scene.evictor.budget c.scene.site
  rw [hlook] at hdeeds
  obtain ⟨site, deeds⟩ := r
  cases hdeeds with
  | above total exempt site₁ hlimit habove =>
    exact
      { started := h.started.trans ⟨[_, _], rfl⟩
        told := h.told
        counted := h.counted
        budget := h.budget
        keys := h.keys
        freed := h.freed
        polls := h.polls
        settled := trivial }

/-- A deletion that found its key is in the books once it is settled. -/
theorem Balanced.delete (h : Balanced a c) {lazy : Bool} {v : Victim} {freed : Nat}
    {r : Recorded σ}
    (hdel : deleteVictim (Recorded.dataset d) (Recorded.server server) lazy v c.scene.site
      = (.ok (true, freed), r)) :
    Balanced a (settleDeletion (Recorded.server server) c v freed r) := by
  have hdeeds := deleteVictim_recorded d server lazy v c.scene.site
  rw [hdel] at hdeeds
  obtain ⟨site, deeds⟩ := r
  dsimp only at hdeeds
  cases hdeeds with
  | done _ before after site₁ => exact h.settle site site₁ rfl

/-- A step that goes on keeps the books. -/
theorem balanced_of_step (h : Balanced a c) {c' : Cycle (Recorded σ)}
    (hstep : cycleStep rounds (Recorded.dataset d) (Recorded.server server) (Recorded.clock clock)
      o c = some (.inl c')) : Balanced a c' := by
  cases cycleStep_cases hstep with
  | deleted hgo hfind hdel hlook =>
    have hsettled := (h.search hfind).delete hdel
    cases hlook with
    | skipped hdue => exact hsettled
    | above hdue hlook => exact hsettled.look hlook

/-! ## The ends -/

/-- A ledger that breaks off after a deletion, before the server is told of it. -/
def CutShort : List (Deed σ) → Prop
  | .read (.error _) _ :: .deleted _ _ true :: _ => True
  | _ => False

theorem not_cutShort_unread {deeds : List (Deed σ)} (h : Settled deeds) (e : EvictionError)
    (site : σ) : ¬ CutShort (.read (.error e) site :: deeds) := by
  rcases deeds with _ | ⟨_ | _ | _ | _ | _ | _ | _, rest⟩
  case cons.deleted => exact h.elim
  all_goals exact not_false

/-- The books of a ledger that breaks off lack the last deletion. -/
structure Lacking (a : Opening σ) (e : Evictor) (deeds : List (Deed σ)) : Prop where
  started : a.deeds <:+ deeds
  untold : ∃ v, removals deeds = v :: tellings deeds
  counted : e.stats.evictedKeys = a.evictedKeys + (tellings deeds).length

/-- The ends of a cycle. -/
inductive RunEnd (server : Server σ) (o : Overage) (a : Opening σ)
    (c : Cycle (Recorded σ)) : Except EvictionError Outcome → Prop where
  | enough (hbooks : Balanced a c) (h : o.excess ≤ c.freed) : RunEnd server o a c (.ok .ok)
  | paused (hbooks : Balanced a c) (h : server.clientsPaused c.scene.site.site = true) :
    RunEnd server o a c (.ok .ok)
  | within (hbooks : Books a c.scene.evictor c.scene.site.deeds) (deeds : List (Deed σ))
    (h : LookDeeds a.budget.limit deeds c.scene.site.site (.ok none) c.scene.site.deeds) :
    RunEnd server o a c (.ok .ok)
  | waited (hbooks : Books a c.scene.evictor c.scene.site.deeds)
    {answer : Except EvictionError Outcome} (deeds : List (Deed σ))
    (hpolls : polls deeds = []) (hfreed : c.freed = Word.wrap (credited deeds))
    (h : WaitDeeds o c.freed deeds c.scene.site.site answer c.scene.site.deeds) :
    RunEnd server o a c answer
  | unread (hbooks : Books a c.scene.evictor c.scene.site.deeds) {e : EvictionError}
    (hcut : ¬ CutShort c.scene.site.deeds) : RunEnd server o a c (.error e)
  | cutShort (hlacking : Lacking a c.scene.evictor c.scene.site.deeds) {e : EvictionError}
    (hcut : CutShort c.scene.site.deeds) : RunEnd server o a c (.error e)

theorem RunEnd.started {answer : Except EvictionError Outcome} (h : RunEnd server o a c answer) :
    a.deeds <:+ c.scene.site.deeds := by
  cases h with
  | enough hbooks _ => exact hbooks.started
  | paused hbooks _ => exact hbooks.started
  | within hbooks _ _ => exact hbooks.started
  | waited hbooks _ _ _ _ => exact hbooks.started
  | unread hbooks _ => exact hbooks.started
  | cutShort hlacking _ => exact hlacking.started

theorem waited_books {deeds : List (Deed σ)} {freed : Nat} {site : σ} {deeds' : List (Deed σ)}
    {e : Evictor} {answer : Except EvictionError Outcome} (h : Books a e deeds)
    (hwait : WaitDeeds o freed deeds site answer deeds') : Books a e deeds' := by
  have hsame : removals deeds' = removals deeds ∧ tellings deeds' = tellings deeds := by
    cases hwait with
    | idle => exact ⟨rfl, rfl⟩
    | unread e n rest hrest =>
      exact ⟨(waiting_append hrest deeds).1, (waiting_append hrest deeds).2.1⟩
    | reclaimed used n rest hrest _ =>
      exact ⟨(waiting_append hrest deeds).1, (waiting_append hrest deeds).2.1⟩
    | short used n rest hrest _ =>
      exact ⟨(waiting_append hrest deeds).1, (waiting_append hrest deeds).2.1⟩
  exact ⟨h.started.trans hwait.isSuffix, by rw [hsame.1, hsame.2]; exact h.told,
    by rw [hsame.1]; exact h.counted⟩

/-- A cycle that gives up ends with a wait. -/
theorem giveUp_end (hbooks : Books a c.scene.evictor c.scene.site.deeds)
    (hpolls : polls c.scene.site.deeds = [])
    (hfreed : c.freed = Word.wrap (credited c.scene.site.deeds)) :
    RunEnd server o a
      (giveUp (Recorded.dataset d) (Recorded.server server) (Recorded.clock clock) o c).2
      (giveUp (Recorded.dataset d) (Recorded.server server) (Recorded.clock clock) o c).1 := by
  have hwait := awaitReleases_recorded d server clock o c.freed
    c.scene.evictor.settings.waitLimit c.scene.site
  unfold giveUp
  generalize awaitReleases (Recorded.dataset d) (Recorded.server server) (Recorded.clock clock) o
    c.freed c.scene.evictor.settings.waitLimit false c.scene.site = ended at hwait ⊢
  exact .waited (c := c.at ended.2) (waited_books hbooks hwait) c.scene.site.deeds hpolls hfreed
    hwait

/-- A deletion that could not be measured. -/
theorem unread_end (h : Balanced a c) {lazy : Bool} {v : Victim} {e : EvictionError}
    {r : Recorded σ}
    (hdel : deleteVictim (Recorded.dataset d) (Recorded.server server) lazy v c.scene.site
      = (.error e, r)) : RunEnd server o a (c.at r) (.error e) := by
  have hdeeds := deleteVictim_recorded d server lazy v c.scene.site
  rw [hdel] at hdeeds
  obtain ⟨site, deeds⟩ := r
  dsimp only at hdeeds
  have hsuffix := hdeeds.isSuffix
  cases hdeeds with
  | unreadBefore =>
    refine .unread ?_ (not_cutShort_unread h.settled e site)
    exact ⟨h.started.trans hsuffix, h.told, h.counted⟩
  | unreadAfter _ removed n site₁ =>
    cases removed with
    | false =>
      refine .unread ?_ not_false
      exact ⟨h.started.trans hsuffix, h.told, h.counted⟩
    | true =>
      -- the key is gone, and is neither told of nor counted
      refine .cutShort ?_ trivial
      refine ⟨h.started.trans hsuffix, ⟨v, congrArg (v :: ·) h.told.symm⟩, ?_⟩
      exact h.counted.trans (by rw [← h.told]; rfl)

theorem look_end (h : Balanced a c) {answer : Except EvictionError (Option Overage)}
    {r : Recorded σ}
    (hlook : c.scene.evictor.budget.overage? (Recorded.server server) c.scene.site = (answer, r)) :
    (∀ e, answer = .error e → RunEnd server o a (c.at r) (.error e)) ∧
      (answer = .ok none → RunEnd server o a (c.at r) (.ok .ok)) := by
  have hdeeds := overage?_recorded server c.scene.evictor.budget c.scene.site
  rw [hlook, h.budget] at hdeeds
  obtain ⟨site, deeds⟩ := r
  dsimp only at hdeeds
  have hsuffix := hdeeds.isSuffix
  constructor
  · rintro e rfl
    cases hdeeds with
    | unread =>
      refine .unread ?_ (not_cutShort_unread h.settled e site)
      exact ⟨h.started.trans hsuffix, h.told, h.counted⟩
  · rintro rfl
    refine .within ?_ c.scene.site.deeds hdeeds
    cases hdeeds with
    | unbounded _ => exact ⟨h.started.trans hsuffix, h.told, h.counted⟩
    | below total _ => exact ⟨h.started.trans hsuffix, h.told, h.counted⟩
    | netBelow total exempt site₁ _ => exact ⟨h.started.trans hsuffix, h.told, h.counted⟩

theorem end_of_step (h : Balanced a c) {answer : Except EvictionError Outcome}
    {c' : Cycle (Recorded σ)}
    (hstep : cycleStep rounds (Recorded.dataset d) (Recorded.server server) (Recorded.clock clock)
      o c = some (.inr (answer, c'))) : RunEnd server o a c' answer := by
  cases cycleStep_cases hstep with
  | enough henough => exact .enough h henough
  | paused hpaused => exact .paused h hpaused
  | noVictim hgo hfind =>
    have hfound := h.search hfind
    exact giveUp_end hfound.toBooks hfound.polls hfound.freed
  | unread hgo hfind hdel => exact unread_end (h.search hfind) hdel
  | gone hgo hfind hdel =>
    -- a deletion that found no key is no entry in the books
    rename_i v scene freed r
    have hfound := h.search hfind
    have hdeeds := deleteVictim_recorded d server
      scene.evictor.settings.lazy v scene.site
    rw [hdel] at hdeeds
    obtain ⟨site, deeds⟩ := r
    dsimp only at hdeeds
    have hsuffix := hdeeds.isSuffix
    cases hdeeds with
    | done _ before after site₁ =>
      exact giveUp_end (c := { c with scene := ⟨scene.evictor, ⟨site, _⟩⟩ })
        ⟨hfound.started.trans hsuffix, hfound.told, hfound.counted⟩ hfound.polls hfound.freed
  | deleted hgo hfind hdel hlook =>
    have hsettled := (h.search hfind).delete hdel
    cases hlook with
    | failed hdue hlook => exact (look_end hsettled hlook).1 _ rfl
    | within hdue hlook => exact (look_end hsettled hlook).2 rfl

/-- The end of a cycle, with its ledger. -/
theorem runCycle_end {fuel : Nat} {s : Scene (Recorded σ)}
    (h : Balanced a ⟨s, 0, 0, []⟩) {answer : Except EvictionError Outcome}
    {c' : Cycle (Recorded σ)}
    (hrun : runCycle fuel rounds (Recorded.dataset d) (Recorded.server server)
      (Recorded.clock clock) o s = some (answer, c')) : RunEnd server o a c' answer :=
  Loop.run_induct (I := Balanced a) (P := fun r => RunEnd server o a r.2 r.1)
    (fun _ _ hc hstep => balanced_of_step hc hstep) (fun _ _ hc hstep => end_of_step hc hstep) h
    hrun

/-! ## The check -/

/-- The ends of a check. -/
inductive CheckEnd (server : Server σ) (s : Scene σ) : CheckResult (Recorded σ) → Prop where
  | guarded (hguard : s.evictor.mayEvict server s.site = false) :
    CheckEnd server s ⟨.ok .ok, s.recorded [], []⟩
  | unread {e : EvictionError} {site : σ} {deeds : List (Deed σ)}
    (hlook : LookDeeds s.evictor.budget.limit [] site (.error e) deeds) :
    CheckEnd server s ⟨.error e, ⟨s.evictor, ⟨site, deeds⟩⟩, []⟩
  | within {site : σ} {deeds : List (Deed σ)}
    (hstart : s.evictor.budget.overage? server s.site = (.ok none, site))
    (hlook : LookDeeds s.evictor.budget.limit [] site (.ok none) deeds) :
    CheckEnd server s ⟨.ok .ok, ⟨s.evictor, ⟨site, deeds⟩⟩, []⟩
  | forbidden {o : Overage} {e : Evictor} {site : σ} {deeds : List (Deed σ)}
    {notices : List Notice}
    (hlook : LookDeeds s.evictor.budget.limit [] site (.ok (some o)) deeds) :
    CheckEnd server s ⟨.ok (.blocked .noEviction), ⟨e, ⟨site, deeds⟩⟩, notices⟩
  | ran {o : Overage} {e : Evictor} {site : σ} {deeds : List (Deed σ)}
    {notices : List Notice} {answer : Except EvictionError Outcome} {c : Cycle (Recorded σ)}
    (hguard : s.evictor.mayEvict server s.site = true)
    (hstart : s.evictor.budget.overage? server s.site = (.ok (some o), site))
    (hlook : LookDeeds s.evictor.budget.limit [] site (.ok (some o)) deeds)
    (hend : RunEnd server o ⟨s.evictor.stats.evictedKeys, s.evictor.budget, deeds⟩ c answer)
    (hkeys : e.stats.evictedKeys = c.scene.evictor.stats.evictedKeys) :
    CheckEnd server s ⟨answer, ⟨e, c.scene.site⟩, notices⟩

/-- The end of a check, with its ledger. -/
theorem ensureWithin_end {fuel : Nat} {s : Scene σ} {r : CheckResult (Recorded σ)}
    (h : ensureWithin fuel rounds (Recorded.dataset d) (Recorded.server server)
      (Recorded.clock clock) (s.recorded []) = some r) : CheckEnd server s r := by
  have hlook := overage?_recorded server s.evictor.budget (s.recorded []).site
  have hmap := overage?_map (Recorded.server_alike server) s.evictor.budget (s.recorded []).site
  cases ensureWithin_cases h with
  | guarded hguard => exact .guarded hguard
  | unread hstart =>
    rw [show s.evictor.budget.overage? _ _ = _ from hstart] at hlook
    exact .unread hlook
  | within hstart =>
    rw [show s.evictor.budget.overage? _ _ = _ from hstart] at hlook hmap
    exact .within hmap hlook
  | forbidden hstart hpolicy =>
    rw [show s.evictor.budget.overage? _ _ = _ from hstart] at hlook
    exact .forbidden hlook
  | ran hguard hstart hpolicy hrun =>
    rename_i o r₀ x
    rw [show s.evictor.budget.overage? _ _ = _ from hstart] at hlook hmap
    obtain ⟨site, deeds⟩ := r₀
    dsimp only at hlook
    have hopen : Balanced ⟨s.evictor.stats.evictedKeys, s.evictor.budget, deeds⟩
        ⟨opened (s.recorded []) ⟨site, deeds⟩, 0, 0, []⟩ := by
      cases hlook with
      | above total exempt site₁ hlimit habove =>
        exact ⟨⟨List.suffix_rfl, rfl, rfl⟩, rfl, rfl, rfl, rfl, trivial⟩
    have hend := runCycle_end hopen hrun
    rcases x with ⟨e | _ | reason, c⟩
    all_goals exact .ran hguard hmap hlook hend rfl

/-- A check that succeeds told of all its deletions. -/
theorem CheckEnd.told {s : Scene σ} {r : CheckResult (Recorded σ)} (h : CheckEnd server s r)
    {outcome : Outcome} (hr : r.answer = .ok outcome) :
    tellings r.scene.site.deeds = removals r.scene.site.deeds := by
  cases h with
  | guarded _ => rfl
  | unread _ => cases hr
  | within _ hlook => cases hlook <;> rfl
  | forbidden hlook => cases hlook; rfl
  | ran _ _ _ hend _ =>
    cases hend with
    | enough hbooks _ => exact hbooks.told
    | paused hbooks _ => exact hbooks.told
    | within hbooks _ _ => exact hbooks.told
    | waited hbooks _ _ _ _ => exact hbooks.told
    | unread hbooks _ => exact hbooks.told
    | cutShort _ _ => cases hr

/-- A check that may not evict deletes nothing. -/
theorem removals_of_idle {fuel : Nat} {s : Scene σ} {r : CheckResult (Recorded σ)}
    (hidle : s.evictor.settings.policy.evicts = false ∨ s.evictor.mayEvict server s.site = false)
    (h : ensureWithin fuel rounds (Recorded.dataset d) (Recorded.server server)
      (Recorded.clock clock) (s.recorded []) = some r) : removals r.scene.site.deeds = [] := by
  rw [show s.site = Recorded.site ⟨s.site, []⟩ from rfl,
    mayEvict_map (Recorded.server_alike server)] at hidle
  rcases site_of_idle (s := s.recorded []) hidle h with hsite | hsite
  · rw [hsite]
    rfl
  · have hlook := overage?_recorded server s.evictor.budget (s.recorded []).site
    rw [hsite]
    refine removals_eq_nil (P := fun _ => False) (hlook.meets ?_) fun _ => id
    intro deed hdeed
    cases hdeed

end Evictor

end SampledEviction

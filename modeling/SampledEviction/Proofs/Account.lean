import SampledEviction.Proofs.Pause

/-!
# The account of a check

A check that answers keeps three sets of books: what it told the server, the counters of its
evictor, and what it did to its site. They agree, whatever dataset and server it worked on and
however it ended.

* `accounted_of_recorded` — the books of a check at a recorded site
* `exists_accounted` — the books of a check, and when its deletions are made
-/

namespace SampledEviction

variable {σ : Type} {server : Server σ} {s : Scene σ}

open Deed

/-! ## Checks that start a cycle -/

/-- A check starts a cycle if it may evict, under a policy that does, and finds the budget
exceeded. -/
def Scene.startsCycle (server : Server σ) (s : Scene σ) : Bool :=
  s.evictor.mayEvict server s.site && s.evictor.settings.policy.evicts &&
    match (s.evictor.budget.overage? server s.site).1 with
    | .ok (some _) => true
    | _ => false

theorem startsCycle_of_guarded (h : s.evictor.mayEvict server s.site = false) :
    s.startsCycle server = false := by
  simp [Scene.startsCycle, h]

theorem startsCycle_of_forbidden (h : s.evictor.settings.policy.evicts = false) :
    s.startsCycle server = false := by
  simp [Scene.startsCycle, h]

theorem startsCycle_of_within {site : σ}
    (h : s.evictor.budget.overage? server s.site = (.ok none, site)) :
    s.startsCycle server = false := by
  simp [Scene.startsCycle, h]

theorem startsCycle_of_exceeded {o : Overage} {site : σ}
    (hguard : s.evictor.mayEvict server s.site = true)
    (hpolicy : s.evictor.settings.policy.evicts = true)
    (h : s.evictor.budget.overage? server s.site = (.ok (some o), site)) :
    s.startsCycle server = true := by
  simp [Scene.startsCycle, hguard, hpolicy, h]

/-! ## The books -/

/-- The books of a check that answers: its ledger is an account of evictions, the server was told of
each of them, and the counters of the evictor have gone on by them, by the cycle if one was started,
and by an answer that the check is blocked. -/
structure Accounted (server : Server σ) (s : Scene σ) (outcome : Outcome) (e : Evictor)
    (deeds : List (Deed σ)) (es : List Eviction) : Prop extends Told es deeds where
  account : Account server es deeds
  evictedKeys : e.stats.evictedKeys = s.evictor.stats.evictedKeys + es.length
  bytesFreed : s.evictor.stats.bytesFreed + credit es < Word.modulus →
    e.stats.bytesFreed = s.evictor.stats.bytesFreed + credit es
  cycles : e.stats.cycles = s.evictor.stats.cycles + if s.startsCycle server then 1 else 0
  blocked : e.stats.blocked = s.evictor.stats.blocked + if outcome = .ok then 0 else 1

namespace Evictor

variable {fuel rounds : Nat} {d : Dataset σ} {clock : Clock σ} {outcome : Outcome}

/-- A check that starts no cycle has done nothing but look at figures. -/
theorem accounted_of_idle {e : Evictor} {deeds : List (Deed σ)}
    (hidle : ∀ deed ∈ deeds, deed.Idle) (hstarts : s.startsCycle server = false)
    (hkeys : e.stats.evictedKeys = s.evictor.stats.evictedKeys)
    (hbytes : e.stats.bytesFreed = s.evictor.stats.bytesFreed)
    (hcycles : e.stats.cycles = s.evictor.stats.cycles)
    (hblocked : e.stats.blocked = s.evictor.stats.blocked + if outcome = .ok then 0 else 1) :
    Accounted server s outcome e deeds [] := by
  have haccount : Account server [] deeds := .whole (chronicle_of_idle hidle)
  exact
    { toTold := haccount.told
      account := haccount
      evictedKeys := hkeys
      bytesFreed := fun _ => hbytes
      cycles := by rw [hcycles, hstarts]; rfl
      blocked := hblocked }

/-- The books of a check at a recorded site. -/
theorem accounted_of_recorded {r : CheckResult (Recorded σ)}
    (h : ensureWithin fuel rounds (Recorded.dataset d) (Recorded.server server)
      (Recorded.clock clock) (s.recorded []) = some r) (hok : r.answer = .ok outcome) :
    ∃ es, Accounted server s outcome r.scene.evictor r.scene.site.deeds es := by
  cases ensureWithin_cases h with
  | guarded hguard =>
    cases hok
    exact ⟨[], accounted_of_idle (by simp [Scene.recorded]) (startsCycle_of_guarded hguard)
      rfl rfl rfl rfl⟩
  | unread _ => cases hok
  | within hlook =>
    cases hok
    obtain ⟨hdeeds, hfound⟩ := look_of_recorded hlook
    exact ⟨[], accounted_of_idle hdeeds.idle (startsCycle_of_within hfound) rfl rfl rfl rfl⟩
  | forbidden hlook hpolicy =>
    cases hok
    obtain ⟨hdeeds, -⟩ := look_of_recorded hlook
    exact ⟨[], accounted_of_idle hdeeds.idle (startsCycle_of_forbidden hpolicy) rfl rfl rfl rfl⟩
  | @ran o r₀ x hguard hlook hpolicy hrun =>
    obtain ⟨hdeeds, hfound⟩ := look_of_recorded hlook
    have hstarts : s.startsCycle server = true := startsCycle_of_exceeded hguard hpolicy hfound
    have hanswer : x.1 = .ok outcome := by
      rcases x with ⟨_ | _ | _, _⟩ <;> exact hok
    obtain ⟨es, haccount, hcounted⟩ :=
      runCycle_complete (s := opened (s.recorded []) r₀) hdeeds.idle hrun hanswer
    have hcycles : x.2.scene.evictor.stats.cycles
        = s.evictor.stats.cycles + if s.startsCycle server then 1 else 0 := by
      rw [hstarts]
      exact hcounted.cycles
    refine ⟨es, ?_⟩
    rcases x with ⟨_ | _ | reason, c⟩
    · cases hok
    · cases hok
      exact ⟨haccount.told, haccount, hcounted.evictedKeys, hcounted.bytesFreed, hcycles,
        hcounted.blocked⟩
    · cases hok
      exact ⟨haccount.told, haccount, hcounted.evictedKeys, hcounted.bytesFreed, hcycles,
        congrArg (· + 1) hcounted.blocked⟩

variable {r : CheckResult σ}

/-- A check that answers has told the server of exactly the keys that it deleted, each after its own
deletion and before the next, has flushed replica output after every sixteenth, made no deletion
after one that found no key, and counted all of it. If usage never rises, the bytes credited are no
more than usage fell by; and if nothing but the server's own doing pauses clients, no key is deleted
while they are paused. -/
theorem exists_accounted (h : ensureWithin fuel rounds d server clock s = some r)
    (hok : r.answer = .ok outcome) :
    (∃ es, Accounted server s outcome r.scene.evictor (ledger fuel rounds d server clock s) es ∧
      ((readings (ledger fuel rounds d server clock s)).Pairwise (· ≤ ·) →
        ∀ first ∈ (readings (ledger fuel rounds d server clock s)).getLast?,
        ∀ last ∈ (readings (ledger fuel rounds d server clock s)).head?,
          credit es + last ≤ first)) ∧
    (Unpausing d server → ∀ deed ∈ ledger fuel rounds d server clock s,
      deed.Meets (server.clientsPaused · = false)) := by
  obtain ⟨r', hr', rfl, hledger⟩ := exists_recorded h
  rw [hledger]
  refine ⟨?_, ?_⟩
  · obtain ⟨es, haccounted⟩ := accounted_of_recorded hr' hok
    refine ⟨es, haccounted, ?_⟩
    intro hfall first hfirst last hlast
    exact haccounted.credit_le hfall hfirst hlast
  · intro hp
    exact ensureWithin_meets hp hr'

theorem unpausing_replicated : Unpausing Shelf.dataset Shelf.replicated where
  sample h _ _ _ := h
  randomKey h _ _ := h
  usedBytes {site} h := by
    obtain ⟨keys, used, queue, releasesAtOnce, _ | _ | n⟩ := site
    · exact h
    · exact h
    · exact h
  exemptBytes h := h

/-- The check that evicts seventeen keys, with one flush among them. -/
theorem exists_accounted_stocked :
    ∃ r, ensureWithin 20 2 Shelf.dataset Shelf.replicated Shelf.clock Shelf.stocked = some r ∧
      r.answer = .ok .ok ∧
      ((ledger 20 2 Shelf.dataset Shelf.replicated Shelf.clock Shelf.stocked).countP
        fun | .flushed => true | _ => false) = 1 ∧
      (∃ es, es.length = 17 ∧ Accounted Shelf.replicated Shelf.stocked .ok r.scene.evictor
          (ledger 20 2 Shelf.dataset Shelf.replicated Shelf.clock Shelf.stocked) es ∧
        credit es + 5 ≤ 175) ∧
      ∀ deed ∈ ledger 20 2 Shelf.dataset Shelf.replicated Shelf.clock Shelf.stocked,
        deed.Meets (Shelf.replicated.clientsPaused · = false) := by
  have hended : (ensureWithin 20 2 Shelf.dataset Shelf.replicated Shelf.clock Shelf.stocked).map
      (·.answer) = some (.ok .ok) := by decide +kernel
  obtain ⟨r, hr, hok⟩ := Option.map_eq_some_iff.mp hended
  obtain ⟨⟨es, haccounted, hcredit⟩, hunpaused⟩ := exists_accounted hr hok
  have hevicted : es.length = 17 := by
    have hremovals := congrArg List.length haccounted.removals
    rw [List.length_map] at hremovals
    rw [← hremovals]
    decide +kernel
  have hfell : credit es + 5 ≤ 175 :=
    hcredit (by decide +kernel) 175 (by decide +kernel) 5 (by decide +kernel)
  exact ⟨r, hr, hok, by decide +kernel, ⟨es, hevicted, haccounted, hfell⟩,
    hunpaused unpausing_replicated⟩

end Evictor

end SampledEviction

import SampledEviction.Proofs.Books
import SampledEviction.Proofs.Shelf

/-!
# What an answer says about usage

A check that found the budget exceeded should end with usage within it if it answers that all
is well, and above it if it answers that it is blocked. Both are true of a check in which usage
only falls, with two gaps, both in the wait for background releases:

* `within_iff_of_ok` — what deletions were credited with is counted again by the wait, so it may
  end too early
* `exceeded_iff_of_blocked` — a wait that finds nothing to wait for does not look at usage, so
  releases between the readings around deletions are overlooked
-/

namespace SampledEviction.Evictor

open Deed

variable {σ : Type}

/-! ## Falling usage -/

/-- A deed that tells of usage tells the truth: a reading succeeds and gives the usage of the site
that it leaves, and the exempt bytes are `u`. -/
def Tells (usage : σ → Nat) (u : Nat) : Deed σ → Prop
  | .read (.ok n) after => n = usage after
  | .read (.error _) _ => False
  | .exempted n => n = u
  | _ => True

instance (usage : σ → Nat) (u : Nat) : DecidablePred (Tells usage u)
  | .read (.ok n) after => inferInstanceAs (Decidable (n = usage after))
  | .read (.error _) _ => inferInstanceAs (Decidable False)
  | .exempted n => inferInstanceAs (Decidable (n = u))
  | .deleted _ _ _ | .told _ _ | .flushed | .polled _ | .slept _ =>
    inferInstanceAs (Decidable True)

/-- What a ledger tells of usage is true, usage never rises up to the end at `site`, and the
exempt bytes are part of it. -/
structure Falling (usage : σ → Nat) (u : Nat) (site : σ) (deeds : List (Deed σ)) : Prop where
  tells : ∀ deed ∈ deeds, Tells usage u deed
  falling : (usage site :: readings deeds).Pairwise (· ≤ ·)
  exempt_le : ∀ n ∈ usage site :: readings deeds, u ≤ n
  word : ∀ n ∈ readings deeds, n < Word.modulus

theorem readings_append (more deeds : List (Deed σ)) :
    readings (more ++ deeds) = readings more ++ readings deeds := by
  induction more with
  | nil => rfl
  | cons deed more ih =>
    rcases deed with ⟨_ | m, site⟩ | _ | _ | _ | _ | _ | _
    case read.ok => exact congrArg (m :: ·) ih
    all_goals exact ih

/-- The bytes credited to deletions lie between the first reading and any later usage. -/
theorem credited_add_le (deeds : List (Deed σ)) {low high : Nat}
    (hfall : (readings deeds).Pairwise (· ≤ ·)) (hlow : ∀ n ∈ readings deeds, low ≤ n)
    (hhigh : ∀ n ∈ readings deeds, n ≤ high) (h : low ≤ high) : credited deeds + low ≤ high := by
  fun_induction credited deeds generalizing low with
  | case1 v site₁ after site₂ site₃ v' before site₄ rest ih =>
    have hreadings : readings (.told v site₁ :: .read (.ok after) site₂ ::
        .deleted site₃ v' true :: .read (.ok before) site₄ :: rest)
          = after :: before :: readings rest := rfl
    rw [hreadings] at hfall hlow hhigh
    -- each drop lies between two readings in a row, so no two drops overlap
    obtain ⟨hafter, hbefore, hrest⟩ := by simpa only [List.pairwise_cons] using hfall
    have hdrop : after ≤ before := hafter before List.mem_cons_self
    have hle : low ≤ after := hlow after List.mem_cons_self
    have hih := ih hrest hbefore
      (fun n hn => hhigh n (List.mem_cons_of_mem _ (List.mem_cons_of_mem _ hn)))
      (hhigh before (List.mem_cons_of_mem _ List.mem_cons_self))
    omega
  | case2 deed rest hshape ih =>
    rcases deed with ⟨_ | m, site⟩ | _ | _ | _ | _ | _ | _
    case read.ok =>
      have hreadings : readings (.read (.ok m) site :: rest) = m :: readings rest := rfl
      rw [hreadings] at hfall hlow hhigh
      exact ih (List.pairwise_cons.mp hfall).2
        (fun n hn => hlow n (List.mem_cons_of_mem _ hn))
        (fun n hn => hhigh n (List.mem_cons_of_mem _ hn)) h
    all_goals exact ih hfall hlow hhigh h
  | case3 => simpa using h

/-- What a check that found an overage knows of usage, if usage only falls. -/
structure Measured (usage : σ → Nat) (u limit : Nat) (o : Overage) (site : σ)
    (deeds : List (Deed σ)) : Prop where
  bounded : limit ≠ 0
  excess : o.excess = o.total - u - limit
  exceeded : limit < o.total - u
  exempt_le : u ≤ usage site
  credited : credited deeds + usage site ≤ o.total
  word : o.total < Word.modulus

theorem Falling.measured {usage : σ → Nat} {u limit : Nat} {o : Overage} {site site₀ : σ}
    {deeds deeds₀ : List (Deed σ)} (h : Falling usage u site deeds)
    (hlook : LookDeeds limit [] site₀ (.ok (some o)) deeds₀) (hstart : deeds₀ <:+ deeds) :
    Measured usage u limit o site deeds := by
  obtain ⟨more, rfl⟩ := hstart
  have hfalling := List.pairwise_cons.mp h.falling
  cases hlook with
  | above total exempt site₁ hlimit habove =>
    have hfirst : readings (more ++ [.exempted exempt, .read (.ok total) site₁])
        = readings more ++ [total] := readings_append _ _
    have hexempt : exempt = u := h.tells (.exempted exempt) (by simp)
    have htotal : total ∈ readings (more ++ [.exempted exempt, .read (.ok total) site₁]) := by
      simp [hfirst]
    have hhigh : ∀ n ∈ readings (more ++ [.exempted exempt, .read (.ok total) site₁]),
        n ≤ total := by
      have hsorted := hfalling.2
      rw [hfirst, List.pairwise_append] at hsorted
      intro n hn
      rw [hfirst, List.mem_append, List.mem_singleton] at hn
      rcases hn with hn | rfl
      · exact hsorted.2.2 n hn total List.mem_cons_self
      · exact Nat.le_refl _
    subst hexempt
    exact
      { bounded := hlimit
        excess := rfl
        exceeded := habove
        exempt_le := h.exempt_le _ List.mem_cons_self
        credited := credited_add_le _ hfalling.2 hfalling.1 hhigh (hfalling.1 total htotal)
        word := h.word total htotal }

variable {usage : σ → Nat} {u limit : Nat} {o : Overage} {site : σ} {deeds : List (Deed σ)}

/-- Usage is within budget exactly if what came back since the start covers the overage. -/
theorem Measured.within_iff (h : Measured usage u limit o site deeds) :
    usage site - u ≤ limit ↔ o.excess ≤ o.total - usage site := by
  have hexcess := h.excess
  have hexceeded := h.exceeded
  have hexempt := h.exempt_le
  have hcredited := h.credited
  constructor <;> intro _ <;> omega

/-- The counter of credited bytes does not wrap. -/
theorem Measured.wrap_credited (h : Measured usage u limit o site deeds) :
    Word.wrap (Deed.credited deeds) = Deed.credited deeds := by
  have hcredited := h.credited
  have hword := h.word
  exact Word.wrap_of_lt (by omega)

/-! ## All is well -/

/-- The wait ended on bytes that were counted twice: what came back since the start covers the
overage only with the bytes credited to deletions, which came back since the start as well. -/
def CreditedTwice (o : Overage) (used : Nat) (deeds : List (Deed σ)) : Prop :=
  polls deeds ≠ [] ∧ o.total - used < o.excess ∧ o.excess ≤ o.total - used + credited deeds

/-- What a wait is after: the credited bytes of its ledger are those it was given. -/
theorem waited_credited {freed : Nat} {answer : Except EvictionError Outcome}
    {deeds₀ : List (Deed σ)} (h : WaitDeeds o freed deeds₀ site answer deeds) :
    Deed.credited deeds = Deed.credited deeds₀ := by
  cases h with
  | idle => rfl
  | unread e n rest hrest => exact (waiting_append hrest deeds₀).2.2
  | reclaimed used n rest hrest _ => exact (waiting_append hrest deeds₀).2.2
  | short used n rest hrest _ => exact (waiting_append hrest deeds₀).2.2

theorem Measured.of_waited (hm : Measured usage u limit o site deeds)
    (hfall : Falling usage u site deeds) {freed : Nat} {deeds₀ : List (Deed σ)}
    (hfreed : freed = Word.wrap (Deed.credited deeds₀))
    (h : WaitDeeds o freed deeds₀ site (.ok .ok) deeds) :
    polls deeds ≠ [] ∧ o.excess ≤ o.total - usage site + Deed.credited deeds := by
  rw [← waited_credited h, hm.wrap_credited] at hfreed
  cases h with
  | reclaimed used n rest hrest h =>
    have hused : used = usage site := hfall.tells _ List.mem_cons_self
    subst hused
    refine ⟨List.cons_ne_nil _ _, ?_⟩
    rw [hfreed] at h
    exact Nat.le_trans h (Nat.mod_le _ _)

/-- A look at usage that ends a cycle found it within budget. -/
theorem Measured.of_look (hm : Measured usage u limit o site deeds)
    (hfall : Falling usage u site deeds) {deeds₀ : List (Deed σ)}
    (h : LookDeeds limit deeds₀ site (.ok none) deeds) : usage site - u ≤ limit := by
  cases h with
  | unbounded h => exact absurd h hm.bounded
  | below total h =>
    have hused : usage site ≤ total :=
      (List.pairwise_cons.mp hfall.falling).1 total List.mem_cons_self
    omega
  | netBelow total exempt site₁ h =>
    have hused : usage site ≤ total :=
      (List.pairwise_cons.mp hfall.falling).1 total List.mem_cons_self
    have hexempt : exempt = u := hfall.tells _ List.mem_cons_self
    omega

/-- The end of a cycle that answers that all is well. -/
theorem Measured.of_ok {server : Server σ} {a : Opening σ} {c : Cycle (Recorded σ)}
    (hm : Measured usage u a.budget.limit o c.scene.site.site c.scene.site.deeds)
    (hfall : Falling usage u c.scene.site.site c.scene.site.deeds)
    (hend : RunEnd server o a c (.ok .ok))
    (hpaused : server.clientsPaused c.scene.site.site = false) :
    o.excess ≤ o.total - usage c.scene.site.site ∨
      polls c.scene.site.deeds ≠ [] ∧
        o.excess ≤ o.total - usage c.scene.site.site + Deed.credited c.scene.site.deeds := by
  cases hend with
  | enough hbooks henough =>
    have hfreed := hbooks.freed
    have hcredited := hm.credited
    rw [hm.wrap_credited] at hfreed
    exact Or.inl (by omega)
  | paused hbooks hp => rw [hp] at hpaused; cases hpaused
  | within hbooks deeds₀ hlook => exact Or.inl (hm.within_iff.mp (hm.of_look hfall hlook))
  | waited hbooks deeds₀ hpolls hfreed hwait => exact Or.inr (hm.of_waited hfall hfreed hwait)

/-- What an answer that all is well is worth. -/
theorem Measured.within_iff_once (hm : Measured usage u limit o site deeds)
    (h : o.excess ≤ o.total - usage site ∨
      polls deeds ≠ [] ∧ o.excess ≤ o.total - usage site + Deed.credited deeds) :
    (usage site - u ≤ limit ↔ ¬ CreditedTwice o (usage site) deeds) ∧
      usage site - u ≤ limit + Deed.credited deeds := by
  have hexcess := hm.excess
  have hexempt := hm.exempt_le
  have hcredited := hm.credited
  rw [hm.within_iff]
  constructor
  · constructor
    · rintro henough ⟨-, hshort, -⟩
      exact absurd henough (Nat.not_le.mpr hshort)
    · intro honce
      rcases h with henough | ⟨hpolls, htwice⟩
      · exact henough
      · by_cases henough : o.excess ≤ o.total - usage site
        · exact henough
        · exact absurd ⟨hpolls, Nat.not_le.mp henough, htwice⟩ honce
  · rcases h with henough | ⟨-, htwice⟩ <;> omega

variable {fuel rounds : Nat} {d : Dataset σ} {server : Server σ} {clock : Clock σ}
  {s : Scene σ} {r : CheckResult σ} {site₀ : σ}

/-- A check that found an overage `o` and answers that all is well, clients not being paused,
leaves usage within budget unless it credited bytes twice; usage exceeds the budget by no more
than these. -/
theorem within_iff_of_ok (h : ensureWithin fuel rounds d server clock s = some r)
    (hguard : s.evictor.mayEvict server s.site = true)
    (hover : s.evictor.budget.overage? server s.site = (.ok (some o), site₀))
    (hfall : Falling usage u r.scene.site (ledger fuel rounds d server clock s))
    (hok : r.answer = .ok .ok) (hpaused : server.clientsPaused r.scene.site = false) :
    (usage r.scene.site - u ≤ s.evictor.budget.limit ↔
        ¬ CreditedTwice o (usage r.scene.site) (ledger fuel rounds d server clock s)) ∧
      usage r.scene.site - u
        ≤ s.evictor.budget.limit + credited (ledger fuel rounds d server clock s) := by
  obtain ⟨r', hr', rfl, hledger⟩ := exists_recorded h
  rw [hledger] at hfall ⊢
  cases ensureWithin_end hr' with
  | guarded hrefused => rw [hrefused] at hguard; cases hguard
  | unread hlook => cases hok
  | within hstart hlook => rw [hstart] at hover; cases hover
  | forbidden hlook => cases hok
  | ran _ hstart hlook hend hkeys =>
    rw [hstart] at hover
    cases hover
    cases hok
    have hm := hfall.measured hlook hend.started
    exact hm.within_iff_once (hm.of_ok hfall hend hpaused)

/-- A check that waits for a release and is answered that all is well. -/
theorem within_deferred :
    ensureWithin 5 2 Shelf.dataset Shelf.server Shelf.clock Shelf.deferred
        = some (Shelf.check Shelf.deferred) ∧
      Shelf.deferred.evictor.mayEvict Shelf.server Shelf.deferred.site = true ∧
      Shelf.deferred.evictor.budget.overage? Shelf.server Shelf.deferred.site
        = (.ok (some ⟨250, 250, 100⟩), Shelf.deferred.site) ∧
      Falling Shelf.used 0 (Shelf.check Shelf.deferred).scene.site
        (ledger 5 2 Shelf.dataset Shelf.server Shelf.clock Shelf.deferred) ∧
      (Shelf.check Shelf.deferred).answer = .ok .ok ∧
      Shelf.server.clientsPaused (Shelf.check Shelf.deferred).scene.site = false ∧
      ((Shelf.check Shelf.deferred).scene.site.used - 0 ≤ 150 ↔
        ¬ CreditedTwice ⟨250, 250, 100⟩ (Shelf.check Shelf.deferred).scene.site.used
          (ledger 5 2 Shelf.dataset Shelf.server Shelf.clock Shelf.deferred)) := by
  have hr := Shelf.ensureWithin_eq (s := Shelf.deferred) (by decide +kernel)
  have hfall : Falling Shelf.used 0 (Shelf.check Shelf.deferred).scene.site
      (ledger 5 2 Shelf.dataset Shelf.server Shelf.clock Shelf.deferred) := by
    constructor <;> decide +kernel
  have hok : (Shelf.check Shelf.deferred).answer = .ok .ok := by decide +kernel
  exact ⟨hr, rfl, rfl, hfall, hok, rfl, (within_iff_of_ok hr rfl rfl hfall hok rfl).1⟩

/-- Not every answer that all is well is true: what the deletion of the one key brought back is
counted twice, in place of what is still to be released. -/
theorem exists_ok_exceeded :
    ¬ ∀ (σ : Type) (fuel rounds : Nat) (d : Dataset σ) (server : Server σ) (clock : Clock σ)
      (s : Scene σ) (r : CheckResult σ) (usage : σ → Nat) (u : Nat) (o : Overage) (site₀ : σ),
      ensureWithin fuel rounds d server clock s = some r →
        s.evictor.mayEvict server s.site = true →
        s.evictor.budget.overage? server s.site = (.ok (some o), site₀) →
        Falling usage u r.scene.site (ledger fuel rounds d server clock s) →
        r.answer = .ok .ok → server.clientsPaused r.scene.site = false →
        usage r.scene.site - u ≤ s.evictor.budget.limit := by
  intro h
  have hr := Shelf.ensureWithin_eq (s := Shelf.leftover) (by decide +kernel)
  have hfall : Falling Shelf.used 0 (Shelf.check Shelf.leftover).scene.site
      (ledger 5 2 Shelf.dataset Shelf.server Shelf.clock Shelf.leftover) := by
    constructor <;> decide +kernel
  have hok : (Shelf.check Shelf.leftover).answer = .ok .ok := by decide +kernel
  have hwithin := h Shelf 5 2 Shelf.dataset Shelf.server Shelf.clock _ _ Shelf.used 0 _ _ hr rfl
    rfl hfall hok rfl
  exact absurd hwithin (by decide +kernel)

/-! ## Blocked -/

/-- Enough came back since the start, and no one saw it: there was nothing to wait for when the
wait began, so usage was not read; or the sum of what came back and the credited bytes wraps. -/
def Overlooked (o : Overage) (used : Nat) (deeds : List (Deed σ)) : Prop :=
  o.excess ≤ o.total - used ∧
    (polls deeds = [0] ∨ Word.modulus ≤ o.total - used + credited deeds)

/-- What an answer that a cycle is blocked is worth. -/
theorem Measured.exceeded_iff (hm : Measured usage u limit o site deeds)
    (hfall : Falling usage u site deeds) {freed : Nat} {deeds₀ : List (Deed σ)}
    (hpolls : polls deeds₀ = []) (hfreed : freed = Word.wrap (Deed.credited deeds₀))
    (h : WaitDeeds o freed deeds₀ site (.ok (.blocked .noCandidates)) deeds) :
    limit < usage site - u ↔ ¬ Overlooked o (usage site) deeds := by
  rw [← waited_credited h, hm.wrap_credited] at hfreed
  have hseen : ¬ Overlooked o (usage site) deeds → ¬ o.excess ≤ o.total - usage site := by
    intro hnot henough
    cases h with
    | idle => exact hnot ⟨henough, Or.inl (congrArg (0 :: ·) hpolls)⟩
    | short used n rest hrest hshort =>
      -- the look was at real usage, so only a sum that wraps can have hidden it
      have hused : used = usage site := hfall.tells _ List.mem_cons_self
      subst hused
      by_cases hwrap : Word.modulus ≤ o.total - usage site + freed
      · exact hnot ⟨henough, Or.inr (hfreed ▸ hwrap)⟩
      · rw [Word.add_of_lt (Nat.not_le.mp hwrap)] at hshort
        omega
  rw [← Nat.not_le, hm.within_iff]
  exact ⟨fun hshort hover => hshort hover.1, hseen⟩

/-- A check that found an overage `o` and ends blocked leaves usage above the budget unless it
overlooked what came back. -/
theorem exceeded_iff_of_blocked (h : ensureWithin fuel rounds d server clock s = some r)
    (hover : s.evictor.budget.overage? server s.site = (.ok (some o), site₀))
    (hfall : Falling usage u r.scene.site (ledger fuel rounds d server clock s))
    (hblocked : r.answer = .ok (.blocked .noCandidates)) :
    s.evictor.budget.limit < usage r.scene.site - u ↔
      ¬ Overlooked o (usage r.scene.site) (ledger fuel rounds d server clock s) := by
  obtain ⟨r', hr', rfl, hledger⟩ := exists_recorded h
  rw [hledger] at hfall ⊢
  cases ensureWithin_end hr' with
  | guarded => cases hblocked
  | unread hlook => cases hblocked
  | within hstart hlook => cases hblocked
  | forbidden hlook => cases hblocked
  | ran _ hstart hlook hend hkeys =>
    rw [hstart] at hover
    cases hover
    cases hblocked
    have hm := hfall.measured hlook hend.started
    cases hend with
    | waited hbooks deeds₀ hpolls hfreed hwait => exact hm.exceeded_iff hfall hpolls hfreed hwait

/-- A check that waits for a release and ends blocked. -/
theorem exceeded_crammed :
    ensureWithin 5 2 Shelf.dataset Shelf.server Shelf.clock Shelf.crammed
        = some (Shelf.check Shelf.crammed) ∧
      Shelf.crammed.evictor.budget.overage? Shelf.server Shelf.crammed.site
        = (.ok (some ⟨250, 250, 230⟩), Shelf.crammed.site) ∧
      Falling Shelf.used 0 (Shelf.check Shelf.crammed).scene.site
        (ledger 5 2 Shelf.dataset Shelf.server Shelf.clock Shelf.crammed) ∧
      (Shelf.check Shelf.crammed).answer = .ok (.blocked .noCandidates) ∧
      (20 < (Shelf.check Shelf.crammed).scene.site.used - 0 ↔
        ¬ Overlooked ⟨250, 250, 230⟩ (Shelf.check Shelf.crammed).scene.site.used
          (ledger 5 2 Shelf.dataset Shelf.server Shelf.clock Shelf.crammed)) := by
  have hr := Shelf.ensureWithin_eq (s := Shelf.crammed) (by decide +kernel)
  have hfall : Falling Shelf.used 0 (Shelf.check Shelf.crammed).scene.site
      (ledger 5 2 Shelf.dataset Shelf.server Shelf.clock Shelf.crammed) := by
    constructor <;> decide +kernel
  have hblocked : (Shelf.check Shelf.crammed).answer = .ok (.blocked .noCandidates) := by
    decide +kernel
  exact ⟨hr, rfl, hfall, hblocked, exceeded_iff_of_blocked hr rfl hfall hblocked⟩

/-- Not every blocked check leaves usage above the budget: the one key is released when the
server is told of it, and no one looks. -/
theorem exists_blocked_within :
    ¬ ∀ (σ : Type) (fuel rounds : Nat) (d : Dataset σ) (server : Server σ) (clock : Clock σ)
      (s : Scene σ) (r : CheckResult σ) (usage : σ → Nat) (u : Nat) (o : Overage) (site₀ : σ),
      ensureWithin fuel rounds d server clock s = some r →
        s.evictor.budget.overage? server s.site = (.ok (some o), site₀) →
        Falling usage u r.scene.site (ledger fuel rounds d server clock s) →
        r.answer = .ok (.blocked .noCandidates) →
        s.evictor.budget.limit < usage r.scene.site - u := by
  intro h
  have hr := Shelf.ensureWithin_eq (s := Shelf.prompt) (by decide +kernel)
  have hfall : Falling Shelf.used 0 (Shelf.check Shelf.prompt).scene.site
      (ledger 5 2 Shelf.dataset Shelf.server Shelf.clock Shelf.prompt) := by
    constructor <;> decide +kernel
  have hblocked : (Shelf.check Shelf.prompt).answer = .ok (.blocked .noCandidates) := by
    decide +kernel
  have hexceeded := h Shelf 5 2 Shelf.dataset Shelf.server Shelf.clock _ _ Shelf.used 0 _ _ hr rfl
    hfall hblocked
  exact absurd hexceeded (by decide +kernel)

end SampledEviction.Evictor

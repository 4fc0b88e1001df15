import SampledEviction.Proofs.Honesty

/-!
# Chronicles

What a check that answers does to its site follows a pattern: usage is read, a key is deleted,
usage is read again, the server is told of the key, and after every sixteenth key replica output is
flushed. In between there are only looks at figures and sleeps, and a deletion that finds no key is
the last one. The counters of the evictor agree with this pattern at every end of the check.

* `Chronicle`, `Account` — the pattern
* `Underway.step` — a step of a cycle continues it
* `Underway.finish`, `runCycle_complete` — and every end that is no failure completes it
-/

namespace SampledEviction

variable {σ : Type}

open Deed

/-! ## The pattern of a ledger -/

/-- A key that was evicted, and the readings of usage around its deletion. -/
structure Eviction where
  victim : Victim
  before : Nat
  after : Nat

/-- The bytes by which usage fell, none if it rose. -/
def Eviction.drop (e : Eviction) : Nat := e.before - e.after

/-- The bytes that evictions are credited with. -/
def credit : List Eviction → Nat
  | [] => 0
  | e :: es => e.drop + credit es

@[simp] theorem credit_cons (e : Eviction) (es : List Eviction) :
    credit (e :: es) = e.drop + credit es := rfl

/-- A look at figures, or a sleep. -/
def Deed.Idle : Deed σ → Prop
  | .read _ _ | .exempted _ | .polled _ | .slept _ => True
  | .deleted _ _ _ | .told _ _ | .flushed => False

/-- After every sixteenth key that the server was told of, replica output is flushed, if there are
replicas at that site. -/
def flushes (server : Server σ) (site : σ) (n : Nat) : List (Deed σ) :=
  if server.hasReplicas site && n % flushInterval == 0 then [.flushed] else []

/-- A ledger of evictions, the latest first, with nothing but idle deeds between them. -/
inductive Chronicle (server : Server σ) : List Eviction → List (Deed σ) → Prop where
  | nil : Chronicle server [] []
  | idle {es : List Eviction} {deed : Deed σ} {deeds : List (Deed σ)}
    (h : Chronicle server es deeds) (hidle : deed.Idle) : Chronicle server es (deed :: deeds)
  -- the number of evictions so far decides on a flush, and the site at which the server was told
  | evicted {es : List Eviction} {deeds : List (Deed σ)} (h : Chronicle server es deeds)
    (e : Eviction) (told measured deleted : σ) :
    Chronicle server (e :: es)
      (flushes server told (es.length + 1) ++ .told e.victim told :: .read (.ok e.after) measured ::
        .deleted deleted e.victim true :: .read (.ok e.before) deleted :: deeds)

/-- The ledger of a check that answers: after its evictions there may be one deletion that finds no
key, and no more deletions after that. -/
inductive Account (server : Server σ) (es : List Eviction) : List (Deed σ) → Prop where
  | whole {deeds : List (Deed σ)} (h : Chronicle server es deeds) : Account server es deeds
  | missed {deeds rest : List (Deed σ)} (h : Chronicle server es deeds) (v : Victim)
    (before after : Nat) (measured deleted : σ) (hrest : ∀ deed ∈ rest, deed.Idle) :
    Account server es (rest ++ .read (.ok after) measured :: .deleted deleted v false ::
      .read (.ok before) deleted :: deeds)

variable {server : Server σ} {es : List Eviction} {deeds more : List (Deed σ)}

/-- What one idle deed keeps, any number of them keeps. -/
theorem append_idle {P : List (Deed σ) → Prop}
    (hstep : ∀ {deed deeds}, P deeds → deed.Idle → P (deed :: deeds)) (h : P deeds)
    (hmore : ∀ deed ∈ more, deed.Idle) : P (more ++ deeds) := by
  induction more with
  | nil => exact h
  | cons deed more ih =>
    obtain ⟨hidle, hrest⟩ := List.forall_mem_cons.mp hmore
    exact hstep (ih hrest) hidle

theorem Chronicle.append (h : Chronicle server es deeds) (hmore : ∀ deed ∈ more, deed.Idle) :
    Chronicle server es (more ++ deeds) :=
  append_idle .idle h hmore

/-- Idle deeds are a ledger without evictions. -/
theorem chronicle_of_idle (h : ∀ deed ∈ deeds, deed.Idle) : Chronicle server [] deeds := by
  rw [← List.append_nil deeds]
  exact Chronicle.nil.append h

/-- What a ledger tells of evictions. -/
structure Told (es : List Eviction) (deeds : List (Deed σ)) : Prop where
  removals : removals deeds = es.map (·.victim)
  tellings : tellings deeds = es.map (·.victim)
  credited : credited deeds = credit es

/-- Idle deeds tell nothing of evictions. -/
theorem Told.idle {deed : Deed σ} (h : Told es deeds) (hidle : deed.Idle) :
    Told es (deed :: deeds) := by
  obtain ⟨hremovals, htellings, hcredited⟩ := h
  cases deed with
  | read answer site =>
    refine ⟨hremovals, htellings, ?_⟩
    rw [← hcredited]
    rfl
  | exempted n => exact ⟨hremovals, htellings, hcredited⟩
  | polled n => exact ⟨hremovals, htellings, hcredited⟩
  | slept ms => exact ⟨hremovals, htellings, hcredited⟩
  | deleted before v removed => exact hidle.elim
  | told v site => exact hidle.elim
  | flushed => exact hidle.elim

theorem Chronicle.told (h : Chronicle server es deeds) : Told es deeds := by
  induction h with
  | nil => exact ⟨rfl, rfl, rfl⟩
  | idle _ hidle ih => exact ih.idle hidle
  | @evicted es deeds _ e told measured deleted ih =>
    obtain ⟨hremovals, htellings, hcredited⟩ := ih
    -- a flush tells nothing of evictions, so the rest of the pattern is enough
    have hblock : Told (e :: es) (.told e.victim told :: .read (.ok e.after) measured ::
        .deleted deleted e.victim true :: .read (.ok e.before) deleted :: deeds) := by
      refine ⟨?_, ?_, ?_⟩
      · exact congrArg (e.victim :: ·) hremovals
      · exact congrArg (e.victim :: ·) htellings
      · rw [credit_cons, ← hcredited]
        rfl
    unfold flushes
    split
    · exact ⟨hblock.removals, hblock.tellings, hblock.credited⟩
    · exact hblock

theorem Account.told (h : Account server es deeds) : Told es deeds := by
  cases h with
  | whole h => exact h.told
  | missed h v before after measured deleted hrest =>
    -- a deletion that found no key is told of no more than an idle deed
    obtain ⟨hremovals, htellings, hcredited⟩ := h.told
    refine append_idle Told.idle ⟨hremovals, htellings, ?_⟩ hrest
    rw [← hcredited]
    rfl

/-- If usage never rises, the drops of evictions fit between the first reading and the last. -/
theorem Told.credit_le (h : Told es deeds) (hfall : (readings deeds).Pairwise (· ≤ ·))
    {first last : Nat} (hfirst : first ∈ (readings deeds).getLast?)
    (hlast : last ∈ (readings deeds).head?) : credit es + last ≤ first := by
  have hlow : ∀ n ∈ readings deeds, last ≤ n := by
    obtain ⟨rest, hreadings⟩ := List.head?_eq_some_iff.mp hlast
    rw [hreadings] at hfall ⊢
    intro n hn
    rcases List.mem_cons.mp hn with rfl | hn
    · exact Nat.le_refl _
    · exact (List.pairwise_cons.mp hfall).1 n hn
  have hhigh : ∀ n ∈ readings deeds, n ≤ first := by
    obtain ⟨rest, hreadings⟩ := List.getLast?_eq_some_iff.mp hfirst
    rw [hreadings] at hfall ⊢
    intro n hn
    rcases List.mem_append.mp hn with hn | hn
    · exact (List.pairwise_append.mp hfall).2.2 n hn first List.mem_cons_self
    · exact Nat.le_of_eq (List.mem_singleton.mp hn)
  rw [← h.credited]
  exact Evictor.credited_add_le deeds hfall hlow hhigh (hhigh last (List.mem_of_mem_head? hlast))

namespace Evictor

variable {rounds fuel : Nat} {d : Dataset σ} {clock : Clock σ} {o : Overage} {e₀ e : Evictor}
  {c : Cycle (Recorded σ)}

/-! ## Idle deeds -/

theorem LookDeeds.exists_idle {limit : Nat} {site : σ} {deeds' : List (Deed σ)}
    {answer : Except EvictionError (Option Overage)}
    (h : LookDeeds limit deeds site answer deeds') :
    ∃ more, deeds' = more ++ deeds ∧ ∀ deed ∈ more, deed.Idle := by
  cases h with
  | unbounded _ => exact ⟨[], rfl, by simp⟩
  | unread e => exact ⟨[.read (.error e) site], rfl, by simp [Idle]⟩
  | below total _ => exact ⟨[.read (.ok total) site], rfl, by simp [Idle]⟩
  | netBelow total exempt site₁ _ =>
    exact ⟨[.exempted exempt, .read (.ok total) site₁], rfl, by simp [Idle]⟩
  | above total exempt site₁ _ _ =>
    exact ⟨[.exempted exempt, .read (.ok total) site₁], rfl, by simp [Idle]⟩

/-- A check that has done nothing but look at usage has only idle deeds behind it. -/
theorem LookDeeds.idle {limit : Nat} {site : σ} {answer : Except EvictionError (Option Overage)}
    (h : LookDeeds limit [] site answer deeds) : ∀ deed ∈ deeds, deed.Idle := by
  obtain ⟨more, hmore, hidle⟩ := h.exists_idle
  rw [List.append_nil] at hmore
  rwa [hmore]

/-- A look at usage of a recorded site finds what one of the site finds. -/
theorem look_of_recorded {b : Budget} {r r' : Recorded σ}
    {answer : Except EvictionError (Option Overage)}
    (hlook : b.overage? (Recorded.server server) r = (answer, r')) :
    LookDeeds b.limit r.deeds r'.site answer r'.deeds ∧
      b.overage? server r.site = (answer, r'.site) := by
  have hdeeds := overage?_recorded server b r
  have hmap := overage?_map (Recorded.server_alike server) b r
  rw [hlook] at hdeeds hmap
  exact ⟨hdeeds, hmap⟩

theorem Waiting.idle {deed : Deed σ} (h : Waiting deed) : deed.Idle := by
  cases deed with
  | read answer site => trivial
  | polled n => trivial
  | slept ms => trivial
  | exempted n => exact h.elim
  | deleted before v removed => exact h.elim
  | told v site => exact h.elim
  | flushed => exact h.elim

theorem WaitDeeds.exists_idle {freed : Nat} {site : σ} {deeds' : List (Deed σ)}
    {answer : Except EvictionError Outcome} (h : WaitDeeds o freed deeds site answer deeds') :
    ∃ more, deeds' = more ++ deeds ∧ ∀ deed ∈ more, deed.Idle := by
  have hbehind (answer : Except EvictionError Nat) (n : Nat) {rest : List (Deed σ)}
      (hrest : ∀ deed ∈ rest, Waiting deed) :
      ∀ deed ∈ .read answer site :: .polled n :: rest, deed.Idle := by
    intro deed hdeed
    simp only [List.mem_cons] at hdeed
    rcases hdeed with rfl | rfl | hdeed
    · trivial
    · trivial
    · exact (hrest deed hdeed).idle
  cases h with
  | idle => exact ⟨[.polled 0], rfl, by simp [Idle]⟩
  | unread e n rest hrest => exact ⟨_ :: _ :: rest, rfl, hbehind _ n hrest⟩
  | reclaimed used n rest hrest _ => exact ⟨_ :: _ :: rest, rfl, hbehind _ n hrest⟩
  | short used n rest hrest _ => exact ⟨_ :: _ :: rest, rfl, hbehind _ n hrest⟩

/-! ## The counters -/

/-- The counters of an evictor have gone on by some evictions since they were those of `e₀`. -/
structure Counted (e₀ e : Evictor) (es : List Eviction) : Prop where
  evictedKeys : e.stats.evictedKeys = e₀.stats.evictedKeys + es.length
  bytesFreed : e₀.stats.bytesFreed + credit es < Word.modulus →
    e.stats.bytesFreed = e₀.stats.bytesFreed + credit es
  cycles : e.stats.cycles = e₀.stats.cycles
  blocked : e.stats.blocked = e₀.stats.blocked

theorem Counted.refl (e : Evictor) : Counted e e [] := ⟨rfl, fun _ => rfl, rfl, rfl⟩

theorem Counted.searched (h : Counted e₀ e es) {e' : Evictor} (hsearch : Searched e e') :
    Counted e₀ e' es := by
  obtain ⟨_, _, _, rfl⟩ := hsearch
  exact ⟨h.evictedKeys, h.bytesFreed, h.cycles, h.blocked⟩

/-- An eviction is counted, and its bytes are added as long as their sum fits a counter. -/
theorem Counted.recordEviction (h : Counted e₀ e es) (x : Eviction) :
    Counted e₀ (e.recordEviction x.drop) (x :: es) where
  evictedKeys := by
    simp only [Evictor.recordEviction, h.evictedKeys, List.length_cons]
    omega
  bytesFreed hword := by
    rw [credit_cons] at hword ⊢
    -- the sum without this eviction is smaller, so it fitted as well
    have hbefore := h.bytesFreed (by omega)
    simp only [Evictor.recordEviction, hbefore]
    rw [Word.add_of_lt (by omega)]
    omega
  cycles := h.cycles
  blocked := h.blocked

/-! ## A cycle -/

/-- A running cycle whose ledger is a chronicle, with all counters in step. -/
structure Underway (server : Server σ) (e₀ : Evictor) (c : Cycle (Recorded σ))
    (es : List Eviction) : Prop where
  chronicle : Chronicle server es c.scene.site.deeds
  keys : c.keys = es.length
  counted : Counted e₀ c.scene.evictor es

/-- The scene of a cycle has a ledger that accounts for all evictions and counters. -/
def Complete (server : Server σ) (e₀ : Evictor) (s : Scene (Recorded σ)) : Prop :=
  ∃ es, Account server es s.site.deeds ∧ Counted e₀ s.evictor es

theorem Underway.complete (h : Underway server e₀ c es) : Complete server e₀ c.scene :=
  ⟨es, .whole h.chronicle, h.counted⟩

theorem Underway.search (h : Underway server e₀ c es) {v : Option Victim}
    {scene : Scene (Recorded σ)}
    (hfind : findVictim rounds (Recorded.dataset d) (Recorded.clock clock) c.scene
      = some (v, scene)) : Underway server e₀ { c with scene } es where
  chronicle := by
    rw [(findVictim_of_recorded hfind).1]
    exact h.chronicle
  keys := h.keys
  counted := h.counted.searched (findVictim_searched hfind)

/-- A flush follows the telling exactly when it is due. -/
theorem settleDeletion_flushes (server : Server σ) (c : Cycle (Recorded σ)) (v : Victim)
    (freed : Nat) (r : Recorded σ) :
    ∃ site, (settleDeletion (Recorded.server server) c v freed r).scene.site.deeds
      = flushes server site (c.keys + 1) ++ .told v site :: r.deeds := by
  refine ⟨server.evicted v.shard v.key r.site, ?_⟩
  simp only [settleDeletion, flushes]
  show (if (server.hasReplicas (server.evicted v.shard v.key r.site)
    && (c.keys + 1) % flushInterval == 0) = true then _ else _ : Recorded σ).deeds = _
  split
  · rfl
  · rfl

/-- A deletion that found its key is one more eviction. -/
theorem Underway.delete (h : Underway server e₀ c es) {lazy : Bool} {v : Victim} {freed : Nat}
    {r : Recorded σ}
    (hdel : deleteVictim (Recorded.dataset d) (Recorded.server server) lazy v c.scene.site
      = (.ok (true, freed), r)) :
    ∃ es, Underway server e₀ (settleDeletion (Recorded.server server) c v freed r) es := by
  have hdeeds := deleteVictim_recorded d server lazy v c.scene.site
  rw [hdel] at hdeeds
  obtain ⟨site, deeds⟩ := r
  dsimp only at hdeeds
  cases hdeeds with
  | done _ before after site₁ =>
    obtain ⟨told, hsettled⟩ := settleDeletion_flushes server c v (before - after)
      ⟨site, .read (.ok after) site :: .deleted site₁ v true :: .read (.ok before) site₁ ::
        c.scene.site.deeds⟩
    refine ⟨⟨v, before, after⟩ :: es, ?_, ?_, ?_⟩
    · rw [hsettled, h.keys]
      exact .evicted h.chronicle ⟨v, before, after⟩ told site site₁
    · exact congrArg (· + 1) h.keys
    · exact h.counted.recordEviction ⟨v, before, after⟩

/-- A look at usage adds idle deeds. -/
theorem Underway.look (h : Underway server e₀ c es) {answer : Except EvictionError (Option Overage)}
    {r : Recorded σ}
    (hlook : c.scene.evictor.budget.overage? (Recorded.server server) c.scene.site = (answer, r)) :
    Underway server e₀ (c.at r) es := by
  obtain ⟨more, hmore, hidle⟩ := (look_of_recorded hlook).1.exists_idle
  refine ⟨?_, h.keys, h.counted⟩
  show Chronicle server es r.deeds
  rw [hmore]
  exact h.chronicle.append hidle

/-- A step that goes on continues the chronicle. -/
theorem Underway.step (h : Underway server e₀ c es) {c' : Cycle (Recorded σ)}
    (hstep : cycleStep rounds (Recorded.dataset d) (Recorded.server server) (Recorded.clock clock)
      o c = some (.inl c')) : ∃ es', Underway server e₀ c' es' := by
  cases cycleStep_cases hstep with
  | deleted _ hfind hdel hlook =>
    obtain ⟨es', hsettled⟩ := (h.search hfind).delete hdel
    cases hlook with
    | skipped _ => exact ⟨es', hsettled⟩
    | above _ hlook => exact ⟨es', hsettled.look hlook⟩

/-- A cycle that gives up adds idle deeds. -/
theorem exists_giveUp_idle (d : Dataset σ) (server : Server σ) (clock : Clock σ) (o : Overage)
    (c : Cycle (Recorded σ)) :
    ∃ more,
      (giveUp (Recorded.dataset d) (Recorded.server server) (Recorded.clock clock) o
        c).2.scene.site.deeds = more ++ c.scene.site.deeds ∧ ∀ deed ∈ more, deed.Idle :=
  (awaitReleases_recorded d server clock o c.freed c.scene.evictor.settings.waitLimit
    c.scene.site).exists_idle

theorem Underway.giveUp (h : Underway server e₀ c es) :
    Complete server e₀ (giveUp (Recorded.dataset d) (Recorded.server server)
      (Recorded.clock clock) o c).2.scene := by
  obtain ⟨more, hmore, hidle⟩ := exists_giveUp_idle d server clock o c
  refine ⟨es, .whole ?_, h.counted⟩
  rw [hmore]
  exact h.chronicle.append hidle

/-- A cycle that gives up after a deletion that found no key. -/
theorem Underway.missed (h : Underway server e₀ c es) {lazy : Bool} {v : Victim} {freed : Nat}
    {r : Recorded σ}
    (hdel : deleteVictim (Recorded.dataset d) (Recorded.server server) lazy v c.scene.site
      = (.ok (false, freed), r)) :
    Complete server e₀ (Evictor.giveUp (Recorded.dataset d) (Recorded.server server)
      (Recorded.clock clock) o (c.at r)).2.scene := by
  have hdeeds := deleteVictim_recorded d server lazy v c.scene.site
  rw [hdel] at hdeeds
  obtain ⟨more, hmore, hidle⟩ := exists_giveUp_idle d server clock o (c.at r)
  obtain ⟨site, deeds⟩ := r
  dsimp only at hdeeds
  cases hdeeds with
  | done _ before after site₁ =>
    refine ⟨es, ?_, h.counted⟩
    rw [hmore]
    exact .missed h.chronicle v before after site site₁ hidle

/-- An end of a cycle that is no failure completes the chronicle. -/
theorem Underway.finish (h : Underway server e₀ c es)
    {x : Except EvictionError Outcome × Cycle (Recorded σ)}
    (hstep : cycleStep rounds (Recorded.dataset d) (Recorded.server server) (Recorded.clock clock)
      o c = some (.inr x)) {outcome : Outcome} (hok : x.1 = .ok outcome) :
    Complete server e₀ x.2.scene := by
  cases cycleStep_cases hstep with
  | enough _ => exact h.complete
  | paused _ => exact h.complete
  | noVictim _ hfind => exact (h.search hfind).giveUp
  | unread _ _ _ => cases hok
  | gone _ hfind hdel => exact (h.search hfind).missed hdel
  | deleted _ hfind hdel hlook =>
    obtain ⟨es', hsettled⟩ := (h.search hfind).delete hdel
    cases hlook with
    | failed _ _ => cases hok
    | within _ hlook => exact (hsettled.look hlook).complete

/-- A cycle that starts with nothing but idle deeds behind it and does not fail. -/
theorem runCycle_complete {s : Scene (Recorded σ)} (hs : ∀ deed ∈ s.site.deeds, deed.Idle)
    {x : Except EvictionError Outcome × Cycle (Recorded σ)}
    (hrun : runCycle fuel rounds (Recorded.dataset d) (Recorded.server server)
      (Recorded.clock clock) o s = some x) {outcome : Outcome} (hok : x.1 = .ok outcome) :
    Complete server s.evictor x.2.scene := by
  refine Loop.run_induct (I := fun c => ∃ es, Underway server s.evictor c es)
    (P := fun x => x.1 = .ok outcome → Complete server s.evictor x.2.scene) ?_ ?_
    ⟨[], chronicle_of_idle hs, rfl, .refl _⟩ hrun hok
  · rintro c c' ⟨es, hc⟩ hstep
    exact hc.step hstep
  · rintro c x ⟨es, hc⟩ hstep hok
    exact hc.finish hstep hok

end Evictor

end SampledEviction

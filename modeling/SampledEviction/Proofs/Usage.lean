import SampledEviction.Budget

/-!
# Usage against budget

The check before every write and the full report decide in two ways whether a budget is exceeded.
The check is done as soon as the bytes in use fit, whatever part of them is exempt; the report
always takes the exempt bytes off. Both come to the same figures, those of `overageOf?` and
`reportOf`, and what an overage says has to be freed is exactly what brings usage back within
budget.

* `overage?_eq_thorough` — the short cut of the check changes no answer
* `overageOf?_less_eq_none_iff` — how much less usage ends an overage
* `overage?_agrees` — the check agrees with the report
-/

namespace SampledEviction

variable {σ : Type}

/-- What a server tells at a site: the bytes in use, and after them those that are exempt. -/
structure Server.Tells (server : Server σ) (site : σ) (total exempt : Nat) : Prop where
  used : (server.usedBytes site).1 = .ok total
  exempt : (server.exemptBytes (server.usedBytes site).2).1 = exempt

namespace Budget

variable {b : Budget} {server : Server σ} {site : σ} {total exempt : Nat} {o : Overage}

/-! ## Figures -/

/-- The overage that two figures make. -/
def overageOf? (b : Budget) (total exempt : Nat) : Option Overage :=
  if b.limit = 0 ∨ total - exempt ≤ b.limit then none
  else some ⟨total, total - exempt, total - exempt - b.limit⟩

/-- The report that two figures make. -/
def reportOf (b : Budget) (total exempt : Nat) : MemoryReport :=
  if b.limit = 0 then { total, net := total, excess := 0, ratio := 0.0, exceeded := false }
  else
    { total, net := total - exempt, excess := total - exempt - b.limit,
      ratio := b.ratio (total - exempt), exceeded := b.limit < total - exempt }

theorem overage?_of_tells (h : server.Tells site total exempt) :
    (b.overage? server site).1 = .ok (b.overageOf? total exempt) := by
  obtain ⟨hused, hexempt⟩ := h
  unfold overage? overageOf?
  rcases hread : server.usedBytes site with ⟨answer, after⟩
  rw [hread] at hused hexempt
  subst hused
  by_cases hlimit : b.limit = 0
  · simp [hlimit]
  by_cases hfits : total ≤ b.limit
  · -- the exempt bytes are not read, and could only lower what fits already
    simp [hlimit, hfits, Nat.le_trans (Nat.sub_le total exempt) hfits]
  by_cases hnet : total - exempt ≤ b.limit
  · simp [hlimit, hfits, hexempt, hnet]
  · simp [hlimit, hfits, hexempt, hnet]

theorem report_of_tells (h : server.Tells site total exempt) :
    (b.report server site).1 = .ok (b.reportOf total exempt) := by
  obtain ⟨hused, hexempt⟩ := h
  unfold report reportOf
  rcases hread : server.usedBytes site with ⟨answer, after⟩
  rw [hread] at hused hexempt
  subst hused
  by_cases hlimit : b.limit = 0
  · simp [hlimit]
  · have hexcess : (if b.limit < total - exempt then total - exempt - b.limit else 0)
        = total - exempt - b.limit := by
      split <;> omega
    simp [hlimit, hexempt, hexcess]

/-! ## The short cut -/

/-- The check as it would be without its short cut: the exempt bytes are always read. -/
def thoroughOverage? (b : Budget) (server : Server σ) (site : σ) :
    Except EvictionError (Option Overage) × σ :=
  match server.usedBytes site with
  | (.error e, site) => if b.limit = 0 then (.ok none, site) else (.error e, site)
  | (.ok total, site) =>
    let (exempt, site) := server.exemptBytes site
    (.ok (b.overageOf? total exempt), site)

/-- The short cut changes no answer, not even that of a server that cannot be read. -/
theorem overage?_eq_thorough (b : Budget) (server : Server σ) (site : σ) :
    (b.overage? server site).1 = (b.thoroughOverage? server site).1 := by
  rcases hread : server.usedBytes site with ⟨answer, after⟩
  cases answer with
  | error e =>
    unfold overage? thoroughOverage?
    rw [hread]
    split <;> rfl
  | ok total =>
    have htells : server.Tells site total (server.exemptBytes after).1 :=
      ⟨by rw [hread], by rw [hread]⟩
    rw [overage?_of_tells htells]
    unfold thoroughOverage?
    rw [hread]

/-! ## Freeing -/

theorem overageOf?_eq_some_iff : b.overageOf? total exempt = some o ↔
    0 < b.limit ∧ b.limit < total - exempt ∧
      o = ⟨total, total - exempt, total - exempt - b.limit⟩ := by
  unfold overageOf?
  by_cases hnone : b.limit = 0 ∨ total - exempt ≤ b.limit
  · rw [if_pos hnone]
    constructor
    · intro h
      cases h
    · rintro ⟨hlimit, hnet, -⟩
      omega
  · rw [if_neg hnone]
    constructor
    · intro h
      cases h
      exact ⟨by omega, by omega, rfl⟩
    · rintro ⟨-, -, rfl⟩
      rfl

theorem overageOf?_eq_none_iff :
    b.overageOf? total exempt = none ↔ b.limit = 0 ∨ total - exempt ≤ b.limit := by
  unfold overageOf?
  split <;> simp_all

/-- An overage ends when usage falls by the excess, and not before. -/
theorem overageOf?_less_eq_none_iff (h : b.overageOf? total exempt = some o) (less : Nat) :
    b.overageOf? (total - less) exempt = none ↔ o.excess ≤ less := by
  obtain ⟨hlimit, hnet, rfl⟩ := overageOf?_eq_some_iff.mp h
  rw [overageOf?_eq_none_iff]
  dsimp only
  omega

/-! ## Agreement -/

/-- What the check and the report have to agree on. -/
structure Agrees (b : Budget) (answer : Option Overage) (report : MemoryReport) : Prop where
  isSome_iff : 0 < b.limit → (answer.isSome = true ↔ report.exceeded = true)
  figures : ∀ o, answer = some o →
    o.total = report.total ∧ o.net = report.net ∧ o.excess = report.excess ∧ 0 < o.excess
  eq_none_iff : answer = none ↔ report.excess = 0
  unbounded : b.limit = 0 → answer = none ∧ report.exceeded = false ∧ report.excess = 0

theorem agrees_of_figures (b : Budget) (total exempt : Nat) :
    b.Agrees (b.overageOf? total exempt) (b.reportOf total exempt) := by
  by_cases hlimit : b.limit = 0
  · have hanswer : b.overageOf? total exempt = none := overageOf?_eq_none_iff.mpr (.inl hlimit)
    rw [hanswer]
    constructor <;> simp [reportOf, hlimit]
  · have hreport : b.reportOf total exempt
        = ⟨total, total - exempt, total - exempt - b.limit, b.ratio (total - exempt),
          b.limit < total - exempt⟩ := if_neg hlimit
    rw [hreport]
    refine ⟨fun _ => ?_, fun o ho => ?_, ?_, fun hzero => absurd hzero hlimit⟩
    · rw [Option.isSome_iff_ne_none, ne_eq, overageOf?_eq_none_iff, decide_eq_true_iff]
      omega
    · obtain ⟨-, hnet, rfl⟩ := overageOf?_eq_some_iff.mp ho
      exact ⟨rfl, rfl, rfl, Nat.sub_pos_of_lt hnet⟩
    · rw [overageOf?_eq_none_iff]
      dsimp only
      omega

/-- Wherever a server tells its usage, the check before a write and the full report agree, and the
check tells no less for its short cut. The figures of an overage are those of the report; usage that
is lower by some bytes, with the same bytes exempt, makes no overage if and only if these are no
fewer than the excess. Over the integers, of all the differences only the net usage stops at zero.
-/
theorem overage?_agrees (b : Budget) (h : server.Tells site total exempt) :
    ∃ answer report, (b.overage? server site).1 = .ok answer ∧
      (b.report server site).1 = .ok report ∧ b.Agrees answer report ∧
      (b.thoroughOverage? server site).1 = .ok answer ∧
      (∀ o, answer = some o →
        o.total = total ∧ (o.net : Int) = max ((total : Int) - exempt) 0 ∧
        (o.excess : Int) = (o.net : Int) - b.limit ∧
        ∀ (τ : Type) (lower : Server τ) (place : τ) (less : Nat), less ≤ total →
          lower.Tells place (total - less) exempt →
          ((b.overage? lower place).1 = .ok none ↔ o.excess ≤ less)) ∧
      (0 < b.limit → (report.net : Int) = max ((total : Int) - exempt) 0 ∧
        (report.exceeded = true → (report.excess : Int) = (report.net : Int) - b.limit)) := by
  refine ⟨b.overageOf? total exempt, b.reportOf total exempt, overage?_of_tells h,
    report_of_tells h, agrees_of_figures b total exempt, ?_, ?_, ?_⟩
  · rw [← overage?_eq_thorough, overage?_of_tells h]
  · intro o ho
    obtain ⟨-, hnet, hfigures⟩ := overageOf?_eq_some_iff.mp ho
    refine ⟨by rw [hfigures], ?_, ?_, ?_⟩
    · rw [hfigures]
      dsimp only
      omega
    · rw [hfigures]
      dsimp only
      omega
    · intro τ lower place less _ hlower
      rw [overage?_of_tells hlower, Except.ok.injEq]
      exact overageOf?_less_eq_none_iff ho less
  · intro hlimit
    unfold reportOf
    rw [if_neg (by omega)]
    dsimp only
    refine ⟨by omega, fun hexceeded => ?_⟩
    have hnet := of_decide_eq_true hexceeded
    omega

/-- A server whose site is its usage, of which a hundred bytes are exempt. -/
def exemptingServer : Server Nat where
  usedBytes usage := (.ok usage, usage)
  exemptBytes usage := (100, usage)

/-- A budget of a thousand bytes of which twelve hundred are used: the excess is a hundred bytes,
and it takes all of them to get back within budget. -/
theorem overage?_agrees_twelve_hundred :
    exemptingServer.Tells 1200 1200 100 ∧
    ((Budget.mk 1000).overage? exemptingServer 1200).1 = .ok (some ⟨1200, 1100, 100⟩) ∧
    ((Budget.mk 1000).overage? exemptingServer 1100).1 = .ok none ∧
    ((Budget.mk 1000).overage? exemptingServer 1101).1 ≠ .ok none ∧
    ∃ report, ((Budget.mk 1000).report exemptingServer 1200).1 = .ok report ∧
      report.exceeded = true ∧ report.excess = 100 := by
  have htells (usage : Nat) : exemptingServer.Tells usage usage 100 := ⟨rfl, rfl⟩
  have hlook : ((Budget.mk 1000).overage? exemptingServer 1200).1
      = .ok (some ⟨1200, 1100, 100⟩) := rfl
  obtain ⟨answer, report, hanswer, hreport, hagrees, -, hfree, -⟩ :=
    overage?_agrees (Budget.mk 1000) (htells 1200)
  obtain rfl : some ⟨1200, 1100, 100⟩ = answer := Except.ok.inj (hlook.symm.trans hanswer)
  obtain ⟨-, -, -, hless⟩ := hfree _ rfl
  obtain ⟨-, -, hexcess, -⟩ := hagrees.figures _ rfl
  refine ⟨htells 1200, hlook, ?_, ?_, report, hreport, ?_, hexcess.symm⟩
  · exact (hless Nat exemptingServer 1100 100 (by decide) (htells 1100)).mpr (by decide)
  · exact mt (hless Nat exemptingServer 1101 99 (by decide) (htells 1101)).mp (by decide)
  · exact (hagrees.isSome_iff (by decide)).mp rfl

end Budget

end SampledEviction

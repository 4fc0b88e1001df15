import SampledEviction.Server
import SampledEviction.Word

/-!
# The memory budget

Usage is compared with the budget net of the bytes that eviction cannot free. `overage?` is
asked before every write and reads no more than it has to; `report` tells all.
-/

namespace SampledEviction

/-- A limit in bytes; zero stands for no limit. -/
structure Budget where
  limit : Nat
  deriving DecidableEq, Repr

/-- A budget that is exceeded. -/
structure Overage where
  /-- The bytes in use. -/
  total : Nat
  /-- The bytes in use, less those that are exempt. -/
  net : Nat
  /-- The bytes above the budget. -/
  excess : Nat
  deriving DecidableEq, Repr

/-- Usage against budget. -/
structure MemoryReport where
  total : Nat
  net : Nat
  excess : Nat
  /-- Net usage as a share of the budget, or zero without a budget. -/
  ratio : Float32
  exceeded : Bool

namespace Budget

/-- Whether there is a limit. -/
def isBounded (b : Budget) : Bool := b.limit != 0

/-- The overage, if there is one. Exempt bytes are read only where they matter. -/
def overage? {σ : Type} (b : Budget) (server : Server σ) (site : σ) :
    Except EvictionError (Option Overage) × σ :=
  if b.limit = 0 then (.ok none, site)
  else
    match server.usedBytes site with
    | (.error e, site) => (.error e, site)
    | (.ok total, site) =>
      if total ≤ b.limit then (.ok none, site)
      else
        let (exempt, site) := server.exemptBytes site
        let net := total - exempt
        if net ≤ b.limit then (.ok none, site)
        else (.ok (some ⟨total, net, net - b.limit⟩), site)

/-- A share of the budget in single precision. -/
def ratio (b : Budget) (net : Nat) : Float32 :=
  (UInt64.ofNat net).toFloat32 / (UInt64.ofNat b.limit).toFloat32

/-- The full report. -/
def report {σ : Type} (b : Budget) (server : Server σ) (site : σ) :
    Except EvictionError MemoryReport × σ :=
  match server.usedBytes site with
  | (.error e, site) => (.error e, site)
  | (.ok total, site) =>
    if b.limit = 0 then
      (.ok { total, net := total, excess := 0, ratio := 0.0, exceeded := false }, site)
    else
      let (exempt, site) := server.exemptBytes site
      let net := total - exempt
      (.ok { total, net, excess := if b.limit < net then net - b.limit else 0,
             ratio := b.ratio net, exceeded := b.limit < net }, site)

end Budget

end SampledEviction

import SampledEviction.ByteSize
import SampledEviction.Settings
import SampledEviction.Toml.Decode

/-!
# Eviction settings in TOML

The keys under which the settings of an evictor are written, and how their values are read.
Every key may be left out. Sizes are numbers or texts with a unit.
-/

namespace SampledEviction.Settings

/-- A size in bytes, as a number or as a text. -/
def size : Toml.Decoder Nat
  | .string s =>
    match ByteSize.parse s with
    | .ok n => .ok n
    | .error fault => .error (.refused fault.message)
  | v => Toml.Decoder.count v

/-- A number of 32 bits. -/
def half : Toml.Decoder Nat := .upTo (Word.halfModulus - 1)

/-- The keys of the settings. -/
def fields : List (Toml.Field Settings) :=
  [Toml.field "policy" (.choice Policy.ofName?) fun policy s => { s with policy },
    Toml.field "maxmemory" size fun maxMemory s => { s with maxMemory },
    Toml.field "samples" .count fun samples s => { s with samples },
    Toml.field "lfu_log_factor" half fun logFactor s =>
      { s with pace := { s.pace with logFactor } },
    Toml.field "lfu_decay_time" half fun decayMinutes s =>
      { s with pace := { s.pace with decayMinutes } },
    Toml.field "lazyfree_lazy_eviction" .flag fun lazy s => { s with lazy },
    Toml.field "replica_ignore_maxmemory" .flag fun replicaIgnores s => { s with replicaIgnores },
    Toml.field "deferred_wait_limit_ms" .count fun waitLimit s => { s with waitLimit },
    Toml.field "seed" .count fun seed s => { s with seed := some seed }]

/-- Reads settings from a value. -/
def decoder : Toml.Decoder Settings := Toml.record fields {}

/-- Reads settings from a text. -/
def parse (text : String) : Except Toml.Fault Settings := Toml.decode decoder text

end SampledEviction.Settings

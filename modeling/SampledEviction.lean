import SampledEviction.Main
import SampledEviction.Metrics
import SampledEviction.Proofs.Exhaustive
import SampledEviction.Proofs.Honesty
import SampledEviction.Proofs.Propagation
import SampledEviction.Proofs.Keyspace.Frame
import SampledEviction.Proofs.Keyspace.Interleaving
import SampledEviction.Proofs.Shortlist
import SampledEviction.Proofs.Lifetime
import SampledEviction.Proofs.Survivors
import SampledEviction.Proofs.Chronicle
import SampledEviction.Proofs.Pause
import SampledEviction.Proofs.Account
import SampledEviction.Proofs.Rounds
import SampledEviction.Proofs.Precedence
import SampledEviction.Proofs.DenseMap.FiniteMap
import SampledEviction.Proofs.Keyspace.PlainMap
import SampledEviction.Proofs.Benchmark.Course
import SampledEviction.Proofs.Benchmark.Allowance
import SampledEviction.Proofs.Rotation
import SampledEviction.Proofs.Overshoot
import SampledEviction.Proofs.Patience
import SampledEviction.Proofs.Decay
import SampledEviction.Proofs.Keyspace.Expiry
import SampledEviction.Proofs.Touch
import SampledEviction.Proofs.Usage
import SampledEviction.Proofs.Benchmark.Keys
import SampledEviction.Proofs.Benchmark.HotSet
import SampledEviction.Proofs.ByteSize

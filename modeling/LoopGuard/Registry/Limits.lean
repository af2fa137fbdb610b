import LoopGuard.Json.Record
import LoopGuard.Registry.Duration

/-!
# Limits

Model of `LoopLimits`: how long a loop may run, and how long a loop that no longer runs is
remembered. The defaults of the structure are those of the program, and those of a JSON text that
leaves a field out.
-/

namespace LoopGuard

/-- `LoopLimits`: the limits of a registry, in milliseconds of 64 bits. -/
structure LoopLimits where
  /-- How long a loop may run between two resets. -/
  thresholdMs : Nat := 500
  /-- How long a loop may go without a reset before `sweep` takes it; zero switches sweeping off. -/
  idleTtlMs : Nat := 60000
  deriving Repr, DecidableEq, Inhabited

namespace LoopLimits

/-- `LoopLimits.threshold`: how long a loop may run. -/
def threshold (l : LoopLimits) : Duration := .ofMillis l.thresholdMs

/-- `LoopLimits.idle_ttl`: how long a loop may be idle, if sweeping is on. -/
def idleTtl (l : LoopLimits) : Option Duration :=
  if l.idleTtlMs > 0 then some (.ofMillis l.idleTtlMs) else none

/-- Limits as a record. What is left out has its default, in an array as well, which may be
short. -/
def record : Json.ScalarRecord LoopLimits where
  name := "LoopLimits"
  fields :=
    [.of "threshold_ms" false .word64 fun l thresholdMs => { l with thresholdMs },
     .of "idle_ttl_ms" false .word64 fun l idleTtlMs => { l with idleTtlMs }]
  blank := {}
  allowsShortArray := true

/-- The limits that a JSON text stands for. -/
def decode (text : String) : Except Json.Error LoopLimits := Json.read record.read text

/-- The limits as JSON text. -/
def encode (l : LoopLimits) : String :=
  (Json.Value.object
    [("threshold_ms", .ofNat l.thresholdMs), ("idle_ttl_ms", .ofNat l.idleTtlMs)]).encode

end LoopLimits

end LoopGuard

import Mathlib.Logic.Function.Basic
import ViamSdk.ResourceConfig

/-!
# Log levels and the filter

A record is let through by the level of its module, of its channel, or of the
SDK at large.  The levels of channels are kept in one map, by name.
-/

namespace ViamSdk

namespace LogLevel

def value : LogLevel → ℤ
  | .trace => -2
  | .debug => -1
  | .info => 0
  | .warn => 1
  | .error => 2
  | .fatal => 3

instance : LE LogLevel := ⟨fun a b => a.value ≤ b.value⟩

instance (a b : LogLevel) : Decidable (a ≤ b) :=
  inferInstanceAs (Decidable (a.value ≤ b.value))

end LogLevel

structure LogAttributes where
  severity : Option LogLevel
  channel : Option Str
  moduleLogTag : Bool
  force : Option Bool
  deriving DecidableEq, Repr

structure LogManager where
  globalLevel : LogLevel
  moduleLevel : LogLevel
  resourceLevels : Str → Option LogLevel

namespace LogManager

def setResourceLogLevel (resource : Str) (lvl : LogLevel) (m : LogManager) :
    LogManager :=
  { m with
    resourceLevels := Function.update m.resourceLevels resource (some lvl) }

def filter (m : LogManager) (attrs : LogAttributes) : Bool :=
  match attrs.severity with
  | none => false
  | some severity =>
      if attrs.moduleLogTag then m.moduleLevel ≤ severity
      else
        match attrs.channel with
        | none => m.globalLevel ≤ severity
        | some channel =>
            match m.resourceLevels channel with
            | some level => level ≤ severity
            | none => m.globalLevel ≤ severity

/-- The level that a record on the channel has to reach. -/
def threshold (m : LogManager) (channel : Str) : LogLevel :=
  (m.resourceLevels channel).getD m.globalLevel

theorem filter_channel_iff
    {m : LogManager} {severity : LogLevel} {channel : Str} {force : Option Bool} :
    m.filter ⟨some severity, some channel, false, force⟩ = true ↔
      m.threshold channel ≤ severity := by
  unfold filter threshold
  cases hlevel : m.resourceLevels channel with
  | none => simp [hlevel]
  | some level => simp [hlevel]

@[simp]
theorem threshold_setResourceLogLevel_self
    (m : LogManager) (channel : Str) (lvl : LogLevel) :
    (m.setResourceLogLevel channel lvl).threshold channel = lvl := by
  simp [setResourceLogLevel, threshold]

theorem threshold_setResourceLogLevel_ne
    {m : LogManager} {channel other : Str} (h : other ≠ channel)
    (lvl : LogLevel) :
    (m.setResourceLogLevel channel lvl).threshold other = m.threshold other := by
  simp [setResourceLogLevel, threshold, h]

end LogManager

end ViamSdk

import LlmAudit.Number.Decimal

/-!
# Confidence

This module formalizes Section 4.3 (Confidence Scorer) of the specification.

How sure a check is of a finding, between zero and one. The score of a finding adds a weight for
each signal that the check has seen and rounds the sum to hundredths; it ranks findings and is no
probability.
-/

namespace LlmAudit

namespace Binary64

/-- Whether a number lies between zero and one. -/
def inUnit (x : Binary64) : Bool :=
  zero.le x && x.le one

end Binary64

/-- A number between zero and one. -/
structure Confidence where
  /-- The number. -/
  value : Binary64
  /-- It lies between zero and one. -/
  inUnit : value.inUnit = true
  deriving DecidableEq

namespace Confidence

/-- A number as a confidence, if it lies between zero and one. -/
def ofNumber? (x : Binary64) : Option Confidence :=
  if h : x.inUnit = true then some ⟨x, h⟩ else none

/-- No confidence. -/
def none : Confidence :=
  ⟨Binary64.zero, by decide +kernel⟩

/-- What a check has seen at a place. -/
structure Signals where
  /-- User input reaches the place directly. -/
  directInput : Bool := false
  /-- Text is put together there. -/
  assembledText : Bool := false
  /-- Data of a request object reaches the place. -/
  requestData : Bool := false
  /-- A language model is called there. -/
  modelCall : Bool := false

/-- A number of tenths. -/
def tenths (n : Nat) : Binary64 :=
  .ofDecimal false n (-1)

/-- The sum with a weight if the signal is there. -/
def addIf (signal : Bool) (weight sum : Binary64) : Binary64 :=
  if signal then sum.add weight else sum

/-- The sum of the weights of the signals. -/
def Signals.weight (s : Signals) : Binary64 :=
  addIf s.modelCall (tenths 2) <|
  addIf s.requestData (tenths 2) <|
  addIf s.assembledText (tenths 3) <|
  addIf s.directInput (tenths 3) Binary64.zero

/-- The weight in hundredths, at most one. -/
def Signals.scoreValue (s : Signals) : Binary64 :=
  Binary64.one.least s.weight.roundToHundredths

theorem inUnit_scoreValue (s : Signals) : s.scoreValue.inUnit = true := by
  obtain ⟨a, b, c, d⟩ := s
  cases a <;> cases b <;> cases c <;> cases d <;> decide +kernel

/-- The confidence of the signals. -/
def score (s : Signals) : Confidence :=
  ⟨s.scoreValue, inUnit_scoreValue s⟩

end Confidence

end LlmAudit

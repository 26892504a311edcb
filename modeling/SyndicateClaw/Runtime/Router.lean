import Mathlib.Algebra.GroupWithZero.Nat
import SyndicateClaw.Runtime.Manifest
import SyndicateClaw.Security.ApiKeys

/-! `SkillRouter.route_task` and its scoring. -/

namespace SyndicateClaw.Runtime

open Security (strip)

/-- `unicodedata.normalize("NFC", text)` and `text.lower()` -/
structure UnicodeData where
  nfc : String → String
  lower : String → String

namespace UnicodeData

variable (unicode : UnicodeData)

def normalizeGoal (goal : String) : String := strip (unicode.lower (unicode.nfc goal))

def phraseOf (phrase : String) : String := strip (unicode.lower phrase)

/-- `p and p in goal_norm` -/
def occurs (goalNorm phrase : String) : Bool :=
  unicode.phraseOf phrase ≠ "" && decide ((unicode.phraseOf phrase).toList <:+: goalNorm.toList)

def contribution (goalNorm phrase : String) : Nat :=
  if unicode.occurs goalNorm phrase then (unicode.phraseOf phrase).length else 0

def goalMatchesNonTrigger (goalNorm : String) (triggers : List IntentTrigger) : Bool :=
  triggers.any fun trigger => trigger.type = .intent && trigger.phrases.any (unicode.occurs goalNorm)

def triggerMatchScore (goalNorm : String) (triggers : List IntentTrigger) : Nat :=
  (triggers.map fun trigger =>
    if trigger.type = .intent then (trigger.phrases.map (unicode.contribution goalNorm)).sum
    else 0).sum

end UnicodeData

/-- `_risk_rank` -/
def riskRank : RiskLevel → Nat
  | .low => 0
  | .medium => 1
  | .high => 2

/-- `_determinism_rank` -/
def determinismRank : DeterminismTarget → Nat
  | .high => 0
  | .medium => 1
  | .low => 2

/-- Negative where `a` wins, positive where `b` wins, 0 on a tie. -/
def compareCandidates (a b : SkillManifest) (scoreA scoreB : Nat) : Int :=
  if scoreA ≠ scoreB then scoreB - scoreA
  else if riskRank a.riskLevel ≠ riskRank b.riskLevel then
    riskRank a.riskLevel - riskRank b.riskLevel
  else if determinismRank a.determinismTarget ≠ determinismRank b.determinismTarget then
    determinismRank a.determinismTarget - determinismRank b.determinismTarget
  else 0

def sortKeyForManifest (manifest : SkillManifest) (score : Nat) :
    Int ×ₗ Nat ×ₗ Nat ×ₗ String ×ₗ String :=
  toLex (-(score : Int), toLex (riskRank manifest.riskLevel,
    toLex (determinismRank manifest.determinismTarget, toLex (manifest.skillId, manifest.version))))

inductive RoutingStatus where
  | selected | uncertain | blocked
  deriving DecidableEq

structure TaskContext where
  taskId : String
  goal : String

structure SkillCandidate where
  skillId : String
  version : String
  score : Nat
  reason : List String
  deriving DecidableEq

structure SelectedSkill where
  skillId : String
  version : String
  deriving DecidableEq

structure RoutingDecision where
  taskId : String
  selectedSkill : Option SelectedSkill
  candidates : List SkillCandidate
  routingStatus : RoutingStatus
  policyNotes : List String
  timestamp : String
  deriving DecidableEq

abbrev Scored := SkillManifest × Nat × List String

def Scored.key (item : Scored) : Int ×ₗ Nat ×ₗ Nat ×ₗ String ×ₗ String :=
  sortKeyForManifest item.1 item.2.1

def Scored.candidate (item : Scored) : SkillCandidate where
  skillId := item.1.skillId
  version := item.1.version
  score := item.2.1
  reason := item.2.2

def decisionOn (taskId timestamp : String) (candidates : List Scored) : RoutingDecision :=
  match candidates with
  | [] =>
      { taskId
        selectedSkill := none
        candidates := []
        routingStatus := .blocked
        policyNotes := ["no matching skill after trigger and non-trigger evaluation"]
        timestamp }
  | best :: rest =>
      let ambiguous := match rest with
        | [] => false
        | second :: _ => compareCandidates best.1 second.1 best.2.1 second.2.1 = 0
      if ambiguous then
        { taskId
          selectedSkill := none
          candidates := candidates.map Scored.candidate
          routingStatus := .uncertain
          policyNotes := ["multiple skills tie on score, risk, and determinism"]
          timestamp }
      else
        { taskId
          selectedSkill := some { skillId := best.1.skillId, version := best.1.version }
          candidates := candidates.map Scored.candidate
          routingStatus := .selected
          policyNotes := []
          timestamp }

def reasonsFor (manifest : SkillManifest) (score : Nat) : List String :=
  ["intent match score=" ++ toString score, "risk=" ++ manifest.riskLevel.value,
    "determinism_target=" ++ manifest.determinismTarget.value]

section

variable {κ : Type} [LinearOrder κ] (version : String → κ) (unicode : UnicodeData)

def scored (goalNorm : String) (manifest : SkillManifest) : Option Scored :=
  if unicode.goalMatchesNonTrigger goalNorm manifest.nonTriggers then none
  else
    let score := unicode.triggerMatchScore goalNorm manifest.triggers
    if score ≤ 0 then none
    else some (manifest, score, reasonsFor manifest score)

def candidatesFor (registry : SkillRegistry) (goalNorm : String) : List Scored :=
  (listSkills version registry false).filterMap (scored unicode goalNorm)

def routeTask (registry : SkillRegistry) (task : TaskContext) (timestamp : String) :
    RoutingDecision :=
  decisionOn task.taskId timestamp
    (sortBy Scored.key (candidatesFor version unicode registry (unicode.normalizeGoal task.goal)))

end

end SyndicateClaw.Runtime

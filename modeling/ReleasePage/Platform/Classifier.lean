import ReleasePage.Platform.Rule

/-!
# Classifying file names

A file gets the platform of the first rule that fits its name. What happens to
a file that no rule fits is decided by a policy: the strict one refuses it, the
lenient one files it under a label of its own with a guessed processor.
-/

namespace ReleasePage

/-- What to do with a file that no rule fits. -/
inductive Policy where
  /-- It is an error. -/
  | strict
  /-- It is labelled as something else, with a guessed processor. -/
  | lenient
  deriving Repr, DecidableEq

/-- The name of a policy. -/
def Policy.name : Policy → String
  | .strict => "strict"
  | .lenient => "lenient"

/-- Reads the name of a policy. -/
def Policy.decoder : Json.Decoder Policy :=
  Json.variant [("strict", .strict), ("lenient", .lenient)]

/-- A policy as a tree. -/
def Policy.tree (policy : Policy) : Json.Tree := .text policy.name

/-- The operating-system label of files that no rule fits. -/
def otherLabel : String := "other"

/-- Rules together with a policy. -/
structure Classifier where
  /-- The rules. -/
  rules : RuleTable
  /-- What to do with a file that no rule fits. -/
  policy : Policy
  deriving Repr, DecidableEq

/-- The platform of a file. -/
def Classifier.classify (classifier : Classifier) (filename : String) :
    Except PlatformError Platform :=
  match classifier.rules.find? filename with
  | some rule => .ok rule.platform
  | none =>
    match classifier.policy with
    | .strict => .error (.unrecognized filename)
    | .lenient => .ok ⟨otherLabel, (Architecture.guess filename).label⟩

end ReleasePage

import FeatureFlags.Dataset
import FeatureFlags.Failure

/-!
What is fetched from the service, and what comes of it.
-/
namespace FeatureFlags

inductive Fetch where
  | all
  | item (kind : Kind) (key : String)
  deriving DecidableEq, Inhabited

/-- What fetches come to at some time. -/
structure Answers where
  all : Except Failure Definitions
  flag : String → Except Failure Flag
  segment : String → Except Failure Segment

def Answers.item (answers : Answers) (key : String) : Kind → Except Failure Item
  | .flags => (answers.flag key).map .flag
  | .segments => (answers.segment key).map .segment

end FeatureFlags

import MetricWatch.Json.Tree
import MetricWatch.Number.Shortest
import MetricWatch.Text.Quoted

/-!
# Why JSON is not accepted

A `Fault` is the first thing that keeps a text or value from being read in a given shape, and
`Fault.message` its wording.
-/

namespace MetricWatch.Json

/-- What stands where something else is wanted. -/
inductive Found
  | null
  | bool (b : Bool)
  | integer (n : Int)
  | float (x : Binary64)
  | string (s : String)
  | sequence
  | map
  deriving DecidableEq, Repr

/-- The cause of a refusal. -/
inductive Fault
  | malformed
  | wrongType (found : Found) (want : String)
  | wrongValue (found : Found) (want : String)
  | wrongLength (length : Nat) (want : String)
  | missing (key : String)
  | repeated (key : String)
  | unknownName (name : String) (known : List String)
  | noAlternative (title : String)
  | rejected (text : String)
  deriving DecidableEq, Repr

/-- A name between grave accents. -/
def accented (s : String) : String := "\x60" ++ s ++ "\x60"

/-- The wording of what was found. -/
def Found.text : Found → String
  | .null => "null"
  | .bool b => "boolean " ++ accented (if b then "true" else "false")
  | .integer n => "integer " ++ accented (toString n)
  | .float x => "floating point " ++ accented x.text
  | .string s => "string " ++ Text.quoted s
  | .sequence => "sequence"
  | .map => "map"

/-- The wording of the names that are known. -/
def knownText : List String → String
  | [] => "there are no variants"
  | [a] => "expected " ++ accented a
  | [a, b] => "expected " ++ accented a ++ " or " ++ accented b
  | names => "expected one of " ++ ", ".intercalate (names.map accented)

/-- The wording of a fault. -/
def Fault.message : Fault → String
  | .malformed => "invalid JSON"
  | .wrongType found want => "invalid type: " ++ found.text ++ ", expected " ++ want
  | .wrongValue found want => "invalid value: " ++ found.text ++ ", expected " ++ want
  | .wrongLength n want => "invalid length " ++ toString n ++ ", expected " ++ want
  | .missing key => "missing field " ++ accented key
  | .repeated key => "duplicate field " ++ accented key
  | .unknownName name known => "unknown variant " ++ accented name ++ ", " ++ knownText known
  | .noAlternative title => "data did not match any variant of untagged enum " ++ title
  | .rejected text => text

/-- What a number is when something else is wanted. -/
def Found.ofNumber : Number → Found
  | .nat n => .integer n
  | .neg n => .integer n
  | .float x => .float x

/-- The fault of a tree that stands where something else is wanted: a break comes first. -/
def Tree.mismatch (want : String) : Tree → Fault
  | .null => .wrongType .null want
  | .bool b => .wrongType (.bool b) want
  | .number (some n) => .wrongType (Found.ofNumber n) want
  | .number none => .malformed
  | .string (some s) => .wrongType (.string s) want
  | .string none => .malformed
  | .array _ _ => .wrongType .sequence want
  | .object _ _ => .wrongType .map want
  | .broken => .malformed

end MetricWatch.Json

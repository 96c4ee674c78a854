/-!
The outcome of a check, and what a request may violate.

Main statement: no two violations have the same words (`message_inj`).
-/

namespace Gatehouse.Check

/-- What a request violates. -/
inductive Rejection where
  | unknownQueryParameter (name : String)
  | invalidQueryParameterType (name : String)
  | bodyNotPermitted
  | invalidBody
  deriving Repr, DecidableEq

namespace Rejection

/-- The words for a violation. -/
def message : Rejection → String
  | .unknownQueryParameter name => "`" ++ name ++ "` is not a valid query parameter"
  | .invalidQueryParameterType name => "query parameter `" ++ name ++ "` has an invalid type"
  | .bodyNotPermitted => "no request body permitted"
  | .invalidBody => "request body is invalid"

/-- The first character of the words. It tells the kind of violation. -/
def initial : Rejection → Char
  | .unknownQueryParameter _ => '`'
  | .invalidQueryParameterType _ => 'q'
  | .bodyNotPermitted => 'n'
  | .invalidBody => 'r'

theorem head?_message (rejection : Rejection) :
    rejection.message.toList.head? = some rejection.initial := by
  cases rejection with
  | unknownQueryParameter name =>
    show ("`" ++ name ++ "` is not a valid query parameter").toList.head? = some '`'
    rw [String.toList_append, String.toList_append]
    rfl
  | invalidQueryParameterType name =>
    show ("query parameter `" ++ name ++ "` has an invalid type").toList.head? = some 'q'
    rw [String.toList_append, String.toList_append]
    rfl
  | bodyNotPermitted => decide
  | invalidBody => decide

/-- The words tell the violation. -/
theorem message_inj {rejection other : Rejection} (h : rejection.message = other.message) :
    rejection = other := by
  have hinitial : rejection.initial = other.initial := by
    rw [← Option.some_inj, ← head?_message, ← head?_message, h]
  cases rejection <;> cases other <;> simp only [initial, Char.reduceEq] at hinitial
  · next name name' =>
    have hname : name = name' :=
      (String.append_right_inj _).mp ((String.append_left_inj _).mp h)
    rw [hname]
  · next name name' =>
    have hname : name = name' :=
      (String.append_right_inj _).mp ((String.append_left_inj _).mp h)
    rw [hname]
  · rfl
  · rfl

/-- The short name of the kind of violation. -/
def kind : Rejection → String
  | .unknownQueryParameter _ => "unknown_query_parameter"
  | .invalidQueryParameterType _ => "invalid_query_parameter_type"
  | .bodyNotPermitted => "body_not_permitted"
  | .invalidBody => "invalid_body"

/-- The query parameter that is to blame, if one is. -/
def parameter? : Rejection → Option String
  | .unknownQueryParameter name => some name
  | .invalidQueryParameterType name => some name
  | .bodyNotPermitted => none
  | .invalidBody => none

/-- The HTTP status for a violation. -/
def status (_ : Rejection) : Nat := 400

end Rejection

/-- The outcome of a check. -/
inductive Outcome where
  | accepted
  | rejected (rejection : Rejection)
  deriving Repr, DecidableEq

end Gatehouse.Check

/-!
# Faults of user code

Listeners, hooks, pools, policies and transforms are supplied by the user and
may break down instead of returning.
-/

namespace HttpCall

/-- What user code threw: a text, or something that has none. -/
inductive Fault where
  | text (message : String)
  | other
deriving DecidableEq, Repr

def Fault.message : Fault -> String
  | text message => message
  | other => "panic with a non-string payload"

end HttpCall

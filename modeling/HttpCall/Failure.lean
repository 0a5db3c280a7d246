import HttpCall.Duration

/-!
# Why a call fails

A transport error is what a connection or the pool reports; a failure is the
reason recorded on a call that ended without a final response.
-/

namespace HttpCall

inductive TransportError.Kind where
  | connect
  | exhausted
  | timeout
  | io
  | listener
deriving DecidableEq, Repr

structure TransportError where
  kind : TransportError.Kind
  message : String
deriving DecidableEq, Repr

namespace TransportError

def io (message : String) : TransportError := ⟨.io, message⟩

def timeout (after : Duration) : TransportError :=
  ⟨.timeout, "request timed out after " ++ after.text⟩

end TransportError

inductive Failure where
  | connectionClosed
  | transport (message : String)
deriving DecidableEq, Repr

def Failure.reason : Failure -> String
  | connectionClosed => "connection closed before response completed"
  | transport message => message

end HttpCall

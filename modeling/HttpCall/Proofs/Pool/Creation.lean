import HttpCall.Proofs.Pool.Accounting
import HttpCall.Proofs.Request.Settings

/-!
# Making a pool

A client makes a pool of its own with the number of places and the patience that were set
last.  No places at all are refused, and more than can be counted make the construction break
down.  Otherwise all places are free at first, and as many can be had at once.
-/

namespace HttpCall

namespace Pool

section

variable {clockStart size : Nat} {patience : Duration} {p : Pool}

end
end Pool

/-!
## The pool of a client
-/

namespace Client

section

variable (c : Client) (s : Setting) (settings : List Setting)

end

end Client
end HttpCall

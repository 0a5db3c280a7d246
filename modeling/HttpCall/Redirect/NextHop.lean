import HttpCall.Request.Basic

/-!
# The request of the next hop

A followed redirect makes a new request from the one that was answered.  Some
statuses turn it into a GET without a body, and credentials stay with the host
they were meant for.
-/

namespace HttpCall
namespace Request

/-- Whether a redirect of this status turns a method into GET: 303 does so for
all but HEAD, 301 and 302 for all but GET and HEAD. -/
def turnsIntoGet (method : Method) (status : Status) : Bool :=
  if status = .seeOther then method ≠ .head
  else if status = .movedPermanently ∨ status = .found then
    method ≠ .get && method ≠ .head
  else false

def asGet (r : Request) : Request :=
  { r with
    method := .get
    body := .empty
    headers := (r.headers.erase .contentType).erase .contentLength }

def withoutCredentials (r : Request) : Request :=
  { r with
    headers :=
      ((r.headers.erase .authorization).erase .proxyAuthorization).erase .cookie }

/-- Send the request to another place.  Credentials are kept only if the host
stays the same, and the target only if the new URL has none. -/
def relocate (r : Request) (location : Url) : Request :=
  let target? := Target.ofUrl? location
  let kept := if target?.map Target.host = some r.target.host then r else r.withoutCredentials
  { kept with url := location, target := target?.getD r.target }

def redirected (r : Request) (location : Url) (status : Status) : Request :=
  (if turnsIntoGet r.method status then r.asGet else r).relocate location

theorem followRedirects_redirected (r : Request) (location : Url) (status : Status) :
    (r.redirected location status).followRedirects = r.followRedirects := by
  unfold redirected relocate
  dsimp only
  split <;> split <;> rfl

theorem maxRedirects_redirected (r : Request) (location : Url) (status : Status) :
    (r.redirected location status).maxRedirects = r.maxRedirects := by
  unfold redirected relocate
  dsimp only
  split <;> split <;> rfl

theorem timeout_redirected (r : Request) (location : Url) (status : Status) :
    (r.redirected location status).timeout = r.timeout := by
  unfold redirected relocate
  dsimp only
  split <;> split <;> rfl

end Request
end HttpCall

import HttpCall.Url.Host

/-!
# Writing URLs
-/

namespace HttpCall
namespace Url

def userinfoText (url : Url) : String :=
  if url.username = "" ∧ url.password = "" then ""
  else if url.password = "" then url.username ++ "@"
  else url.username ++ ":" ++ url.password ++ "@"

def authorityText (url : Url) : String :=
  match url.host with
  | none => ""
  | some host =>
      "//" ++ url.userinfoText ++ host.text ++
        (match url.port with
        | some p => ":" ++ toString p
        | none => "")

def Path.text : Path -> String
  | whole s => s
  | segments parts => String.join (parts.map fun p => "/" ++ p)

/-- A path that would be taken for an authority is set off by a dot. -/
def pathText (url : Url) : String :=
  match url.host, url.path with
  | none, .segments ("" :: p :: rest) => "/." ++ (Path.segments ("" :: p :: rest)).text
  | _, path => path.text

def text (url : Url) : String :=
  url.scheme ++ ":" ++ url.authorityText ++ url.pathText ++
    (match url.query with
    | some q => "?" ++ q
    | none => "") ++
    (match url.fragment with
    | some f => "#" ++ f
    | none => "")

end Url
end HttpCall
